import WrapShell.Files.Place
import WrapShell.Text.Utf8
/-!
# Calls of programs

A call names a program's file and says with which arguments and bindings it runs. It ends with
an outcome: what was written, how the program ended and the tree it left behind. A `Runner`
says what comes of each call, so that nothing else needs to know how programs work.
-/

namespace WrapShell

/-- What was written. -/
structure Output where
  stdout : Bytes := []
  stderr : Bytes := []
  deriving DecidableEq, Repr

namespace Output

/-- One output after another. -/
def append (a b : Output) : Output := ⟨a.stdout ++ b.stdout, a.stderr ++ b.stderr⟩

instance : Append Output := ⟨append⟩

@[simp]
theorem empty_append (o : Output) : {} ++ o = o := rfl

/-- A text written as regular output. -/
def regular (t : Text) : Output := { stdout := Text.utf8 t }

/-- A text written as diagnostics. -/
def diagnostic (t : Text) : Output := { stderr := Text.utf8 t }

end Output

/-- How a program ended. -/
inductive Ending where
  | exited (status : Nat)
  /-- Ended by a signal. -/
  | signalled (signal : Nat)
  deriving DecidableEq, Repr

/-- The status that a shell reports for an ending. -/
def Ending.status : Ending → Nat
  | .exited n => n
  | .signalled n => 128 + n

/-- A program's file with what it is given: the name it is called by, its arguments, and its
bindings, each written `NAME=VALUE`. -/
structure Call where
  program : Path
  name : Text
  arguments : List Text
  bindings : List Text
  deriving DecidableEq, Repr

/-- Whether a call holds the character NUL, which nothing that a program is given may hold. -/
def Call.hasNul (call : Call) : Bool :=
  (call.program :: call.arguments ++ call.bindings).any (·.contains '\x00')

/-- What comes of a call. -/
structure Outcome where
  output : Output
  ending : Ending
  tree : Tree

/-- What comes of each call, or why its program cannot be started. The place is the tree that
the program finds, and the directory it starts in. -/
abbrev Runner := Place → Call → Except FileError Outcome

end WrapShell
