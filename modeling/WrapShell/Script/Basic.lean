import WrapShell.Text.Basic
/-!
# Scripts

A script is a list of steps. A step runs one command and is skipped if the one before did not
end as its connection asks for. The words of a step are kept in pieces, since quoted text is
taken as it is, while the value of a parameter outside quotes may become several words.
-/

namespace WrapShell

/-- A piece of a word. -/
inductive Script.Piece where
  | text (t : Text) (quoted : Bool)
  | parameter (name : Text) (quoted : Bool)
  deriving DecidableEq, Repr

/-- A word, in pieces. -/
abbrev Script.Word := List Script.Piece

/-- Where a redirection leads. -/
inductive Script.Target where
  /-- The file of that name, emptied first unless it is added to. -/
  | file (name : Script.Word) (append : Bool)
  /-- The file that is read from. -/
  | source (name : Script.Word)
  /-- Where another stream leads. -/
  | stream (number : Script.Word)
  deriving DecidableEq, Repr

/-- A stream of a command, by its number, that leads elsewhere. -/
structure Script.Redirection where
  stream : Nat
  target : Script.Target
  deriving DecidableEq, Repr

/-- What a step asks of the status before it. -/
inductive Script.Connection where
  | always
  | onSuccess
  | onFailure
  deriving DecidableEq, Repr

/-- One command of a script, and the line it starts on. -/
structure Script.Step where
  connection : Script.Connection := .always
  line : Nat
  bindings : List (Text × Script.Word) := []
  words : List Script.Word := []
  redirections : List Script.Redirection := []
  deriving DecidableEq, Repr

/-- What is wrong with a script from some line on. -/
inductive Script.Fault where
  | unterminatedQuote
  | badSubstitution
  | unexpected (what : Text)
  deriving DecidableEq, Repr

/-- The wording of a fault. -/
def Script.Fault.message : Script.Fault → Text
  | .unterminatedQuote => "Syntax error: Unterminated quoted string"
  | .badSubstitution => "Bad substitution"
  | .unexpected what => "Syntax error: " ++ what ++ " unexpected"

/-- A script: the steps of the lines that could be read, and the fault that ended reading, with
its line. -/
structure Script where
  steps : List Script.Step := []
  fault : Option (Nat × Script.Fault) := none
  deriving DecidableEq, Repr

end WrapShell
