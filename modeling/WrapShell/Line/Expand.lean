import WrapShell.Line.Basic
import WrapShell.Glob.Search
import WrapShell.Glob.Word
/-!
# Expanding a line

Expansion turns the nodes of a line into the strings that are handed to a program: variables
give their values, escapes are resolved, and a bare word with a live metacharacter gives the
paths it describes. Only such a word can fail or give other than one string.
-/

namespace WrapShell

/-- Why a line that was read well has no expansion. The word is given as it was typed. -/
inductive ExpandError where
  | noMatches (word : Text)
  | invalidPattern (word : Text) (source : PatternError)
  deriving DecidableEq, Repr

namespace ExpandError

/-- The wording of an error. -/
def message : ExpandError → Text
  | .noMatches word => "word expanded to empty value: no matches for '" ++ word ++ "'"
  | .invalidPattern word source => "failed to expand glob '" ++ word ++ "': " ++ source.message

/-- The wording of what caused an error, if that is an error of its own. -/
def cause? : ExpandError → Option Text
  | .noMatches _ => none
  | .invalidPattern _ source => some source.message

end ExpandError

/-- A path with a space in it is put in single quotes. -/
def quoteSpaced (p : Path) : Text := if p.contains ' ' then '\'' :: p ++ ['\''] else p

/-- The paths that a bare word describes. -/
def matchWord (here : Place) (word : Text) : Except ExpandError (List Path) :=
  match wordPattern word with
  | .error e => .error (.invalidPattern word e)
  | .ok pattern =>
    match here.glob pattern with
    | .error e => .error (.invalidPattern word e)
    | .ok [] => .error (.noMatches word)
    | .ok paths => .ok paths

/-- The strings that a bare word stands for. -/
def expandWord (here : Place) (word : Text) : Except ExpandError (List Text) :=
  match stripEscapes word with
  | some s => .ok [s]
  | none => (matchWord here word).map (·.map quoteSpaced)

namespace Node

mutual

/-- The strings that a node stands for. -/
def expand (here : Place) (lookup : Text → Text) : Node → Except ExpandError (List Text)
  | .word value => expandWord here value
  | .quoted value => .ok [value]
  | .single value => .ok [value]
  | .double children => (splice here lookup children).map ([·])
  | .var name => .ok [lookup name]

/-- What is between double quotes: the first string of each child, one after the other. -/
def splice (here : Place) (lookup : Text → Text) : List Node → Except ExpandError Text
  | [] => .ok []
  | n :: ns =>
    match expand here lookup n with
    | .error e => .error e
    | .ok strings =>
      match splice here lookup ns with
      | .error e => .error e
      | .ok rest => .ok (strings.headD [] ++ rest)

end

/-- The strings of all nodes in order. -/
def expandAll (here : Place) (lookup : Text → Text) : List Node → Except ExpandError (List Text)
  | [] => .ok []
  | n :: ns =>
    match expand here lookup n with
    | .error e => .error e
    | .ok strings =>
      match expandAll here lookup ns with
      | .error e => .error e
      | .ok rest => .ok (strings ++ rest)

end Node

/-- The strings of an argument. Nodes written back to back are not joined. -/
def Arg.expand (here : Place) (lookup : Text → Text) (a : Arg) : Except ExpandError (List Text) :=
  Node.expandAll here lookup a.nodes

/-- The strings of all arguments; the first that fails decides. -/
def expandArgs (here : Place) (lookup : Text → Text) : List Arg → Except ExpandError (List Text)
  | [] => .ok []
  | a :: as =>
    match a.expand here lookup with
    | .error e => .error e
    | .ok strings =>
      match expandArgs here lookup as with
      | .error e => .error e
      | .ok rest => .ok (strings ++ rest)

/-- The argument vector of a line. -/
def Command.expand (here : Place) (lookup : Text → Text) (c : Command) : Except ExpandError (List Text) :=
  expandArgs here lookup c.args

end WrapShell
