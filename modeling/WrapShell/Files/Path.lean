import WrapShell.Text.Basic
/-!
# Paths

A path is a text with `/` between its names. Repeated slashes, a slash at the end and a `.`
anywhere but in front add nothing to it: `components` leaves them out.
-/

namespace WrapShell

/-- A path, as it is written. -/
abbrev Path := Text

namespace Path

/-- One step of a path. -/
inductive Component where
  /-- The `/` that an absolute path starts with. -/
  | root
  /-- A `.` in front. -/
  | current
  /-- A step up, `..`. -/
  | parent
  | name (n : Text)
  deriving DecidableEq, Repr

/-- How a step is written. -/
def Component.text : Component → Text
  | .root => ['/']
  | .current => ['.']
  | .parent => ['.', '.']
  | .name n => n

/-- A piece between slashes that adds nothing to a path. -/
def isVoid (piece : Text) : Bool := piece == [] || piece == ['.']

/-- The step that a piece between slashes stands for. -/
def ofPiece (piece : Text) : Component := if piece = ['.', '.'] then .parent else .name piece

def isAbsolute (p : Path) : Bool := p.head? == some '/'

/-- The steps of a path. -/
def components (p : Path) : List Component :=
  match List.splitOn '/' p with
  | [] => []
  | first :: rest =>
    let steps := (rest.filter (!isVoid ·)).map ofPiece
    if first = [] then (if p = [] then [] else .root :: steps)
    else if first = ['.'] then .current :: steps
    else ofPiece first :: steps

/-- The path `q` seen from `p`: an absolute `q` stands alone. -/
def join (p q : Path) : Path :=
  if isAbsolute q then q
  else if p = [] || p.getLast? = some '/' then p ++ q
  else p ++ '/' :: q

/-- The last step of a path, if that is a name. -/
def fileName? (p : Path) : Option Text :=
  match (components p).getLast? with
  | some (.name n) => some n
  | _ => none

/-- Pieces of a path, the last one first, without those at its end that add nothing. The
first piece of the path stays: it tells an absolute path and a leading `.`. -/
def dropVoid : List Text → List Text
  | [] => []
  | [first] => [first]
  | piece :: up => if isVoid piece then dropVoid up else piece :: up

/-- The path without its last step; the root and the empty path have none. -/
def parent? (p : Path) : Option Path :=
  match dropVoid (List.splitOn '/' p).reverse with
  | [] => none
  | [first] => if first = [] then none else some []
  | _ :: up =>
    let kept := dropVoid up
    some (if kept = [[]] then ['/'] else List.intercalate ['/'] kept.reverse)

/-- A path and all that lies above it, the path itself first; the empty path is left out. -/
def upwards (p : Path) : List Path :=
  let steps := components p
  ((List.range steps.length).map fun i => writeSteps (steps.take (i + 1))).reverse
where
  /-- The plain written form of some steps. -/
  writeSteps (steps : List Component) : Path :=
    match steps with
    | .root :: rest => '/' :: List.intercalate ['/'] (rest.map Component.text)
    | steps => List.intercalate ['/'] (steps.map Component.text)

/-- The directories of a search path: the pieces between colons. -/
def split (searchPath : Text) : List Path := List.splitOn ':' searchPath

end Path

end WrapShell
