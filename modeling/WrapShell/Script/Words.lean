import WrapShell.Script.Basic
import WrapShell.Glob.Search
import WrapShell.Program.Call
import WrapShell.Text.Keyed
/-!
# The words of a step

A shell running a script knows its name, its arguments and its variables. With them a word
becomes fields: the value of a parameter outside quotes is cut at its blanks, and a field with
bare pattern characters becomes the paths that it describes, if there are any.
-/

namespace WrapShell

/-- A shell running a script. -/
structure Shell where
  name : Text
  arguments : List Text
  /-- Values, and whether programs are given them. -/
  vars : Keyed (Text × Bool)
  here : Place
  status : Nat := 0
  output : Output := {}
  ending : Option Ending := none

namespace Shell

/-- The number of every shell's process. -/
def processNumber : Text := "1"

/-- The value of a variable. -/
def value? (sh : Shell) (name : Text) : Option Text := (sh.vars.lookup name).map Prod.fst

/-- Sets a variable, which stays handed on or not. -/
def set (sh : Shell) (name value : Text) : Shell :=
  { sh with vars := Keyed.insert name (value, ((sh.vars.lookup name).map Prod.snd).getD false) sh.vars }

/-- The bindings that programs are given. -/
def bindings (sh : Shell) : List Text :=
  (sh.vars.filter (·.2.2)).map fun b => b.1 ++ ['='] ++ b.2.1

/-- A character of a field, and whether it was quoted. -/
abbrev Mark := Char × Bool

/-- The fields so far, and the one that is open. -/
structure Fields where
  done : List (List Mark) := []
  last : Option (List Mark) := none

namespace Fields

/-- Adds marks to the open field, or to a new one. -/
def add (f : Fields) (marks : List Mark) : Fields := { f with last := some (f.last.getD [] ++ marks) }

/-- Ends the open field. -/
def close (f : Fields) : Fields := ⟨f.done ++ f.last.toList, none⟩

def all (f : Fields) : List (List Mark) := f.close.done

/-- Adds a value that is cut at its blanks. -/
def addBare (f : Fields) (value : Text) : Fields :=
  value.foldl (fun f c => if " \t\n".toList.contains c then f.close else f.add [(c, false)]) f

def addQuoted (f : Fields) (value : Text) : Fields := f.add (value.map (·, true))

end Fields

/-- The value of a parameter that is one text. -/
def parameter (sh : Shell) (name : Text) : Text :=
  match name with
  | ['#'] => Text.ofNat sh.arguments.length
  | ['?'] => Text.ofNat sh.status
  | ['$'] => processNumber
  | ['*'] | ['@'] => List.intercalate [' '] sh.arguments
  | ['!'] | ['-'] => []
  | name =>
    if name.all Char.isDigit then
      match name.foldl (fun n c => n * 10 + (c.toNat - '0'.toNat)) 0 with
      | 0 => sh.name
      | n + 1 => sh.arguments.getD n []
    else (sh.value? name).getD []

/-- Adds values that are fields of their own. -/
def addSeparate (add : Fields → Text → Fields) (f : Fields) : List Text → Fields
  | [] => f
  | [v] => add f v
  | v :: vs => addSeparate add (add f v).close vs

/-- Adds a piece of a word. -/
def addPiece (sh : Shell) (f : Fields) (p : Script.Piece) : Fields :=
  match p with
  | .text t quoted => f.add (t.map (·, quoted))
  | .parameter ['@'] true => addSeparate Fields.addQuoted f sh.arguments
  | .parameter ['@'] false | .parameter ['*'] false => addSeparate Fields.addBare f sh.arguments
  | .parameter name true => f.addQuoted (sh.parameter name)
  | .parameter name false => f.addBare (sh.parameter name)

/-- Whether a name may be listed for a component of a pattern: one that starts with a dot has
to be asked for. -/
def isShown (name component : Text) : Bool := name.head? != some '.' || component.head? == some '.'

/-- The paths that a field describes; the field itself if it describes none. -/
def fieldPaths (sh : Shell) (marks : List Mark) : List Text :=
  let plain := marks.map Prod.fst
  if marks.any fun m => !m.2 && "*?[".toList.contains m.1 then
    let pattern := marks.flatMap fun m => if m.2 then Pattern.escape [m.1] else [m.1]
    let shown (p : Path) : Bool := (List.zipWith isShown (List.splitOn '/' p) (List.splitOn '/' pattern)).all id
    match ((sh.here.glob pattern).toOption.getD []).filter shown with
    | [] => [plain]
    | paths => paths
  else [plain]

/-- The fields of a word. -/
def expand (sh : Shell) (w : Script.Word) : List Text :=
  (w.foldl sh.addPiece {}).all.flatMap sh.fieldPaths

/-- A word as one text. -/
def expandWhole (sh : Shell) (w : Script.Word) : Text :=
  w.flatMap fun p => match p with
    | .text t _ => t
    | .parameter name _ => sh.parameter name

end Shell

end WrapShell
