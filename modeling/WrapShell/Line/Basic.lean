import WrapShell.Text.Basic
/-!
# Lines

A line read from the user is a list of arguments, and an argument is a run of nodes written
without a blank between them: bare words, quotes and variables. `ReadError` says why a text
is no line.
-/

namespace WrapShell

/-- One lexical unit of an argument. -/
inductive Node where
  /-- A word outside quotes, its backslashes still in place: expansion has to tell an escaped
  pattern character from a live one. -/
  | word (value : Text)
  /-- A literal run inside a double quote. It is never read as a pattern. -/
  | quoted (value : Text)
  /-- The text between single quotes. -/
  | single (value : Text)
  /-- A double quote: literal runs and variables. -/
  | double (children : List Node)
  /-- A reference `$name`. -/
  | var (name : Text)
  deriving Repr, Inhabited

namespace Node

mutual

/-- Equality of nodes is decidable. -/
def decEq : (a b : Node) → Decidable (a = b)
  | .word v, .word w | .quoted v, .quoted w | .single v, .single w | .var v, .var w =>
    if h : v = w then isTrue (h ▸ rfl) else isFalse (by simpa using h)
  | .double cs, .double ds =>
    match decEqAll cs ds with
    | isTrue h => isTrue (h ▸ rfl)
    | isFalse h => isFalse (by simpa using h)
  | .word _, .quoted _ | .word _, .single _ | .word _, .double _ | .word _, .var _
  | .quoted _, .word _ | .quoted _, .single _ | .quoted _, .double _ | .quoted _, .var _
  | .single _, .word _ | .single _, .quoted _ | .single _, .double _ | .single _, .var _
  | .double _, .word _ | .double _, .quoted _ | .double _, .single _ | .double _, .var _
  | .var _, .word _ | .var _, .quoted _ | .var _, .single _ | .var _, .double _ =>
    isFalse (by simp)

/-- Equality of lists of nodes is decidable. -/
def decEqAll : (as bs : List Node) → Decidable (as = bs)
  | [], [] => isTrue rfl
  | [], _ :: _ | _ :: _, [] => isFalse (by simp)
  | a :: as, b :: bs =>
    match decEq a b, decEqAll as bs with
    | isTrue h, isTrue h' => isTrue (h ▸ h' ▸ rfl)
    | isFalse h, _ => isFalse fun e => h (List.cons.inj e).1
    | _, isFalse h => isFalse fun e => h (List.cons.inj e).2

end

instance : DecidableEq Node := decEq

end Node

/-- One argument of a line: a run of nodes. -/
structure Arg where
  nodes : List Node
  deriving DecidableEq, Repr, Inhabited

/-- A line after reading: its arguments in order. -/
structure Command where
  args : List Arg
  deriving DecidableEq, Repr, Inhabited

/-- The delimiters of a quote that was never closed. -/
structure Unterminated where
  start : Char
  stop : Char
  deriving DecidableEq, Repr

/-- Why a text cannot be read as a line. -/
inductive ReadError where
  /-- The text ends inside a quote. -/
  | unexpectedEof (cause : Option Unterminated)
  /-- A `$` is not followed by a name; what follows it, if anything. -/
  | invalidIdentifier (found : Text)
  /-- An escape sequence without meaning. Every escape of a line has one, so reading never
  reports this. -/
  | invalidEscape (value : Text)
  /-- A token other than those expected. Reading never reports this either. -/
  | unexpectedToken (expected : List Text) (found : Text)
  deriving DecidableEq, Repr

/-- The wording of a quote left open. -/
def Unterminated.message (u : Unterminated) : Text :=
  "unterminated sequence: " ++ [u.start] ++ " ... " ++ [u.stop]

namespace ReadError

/-- The error for a quote that `delimiter` opened and nothing closed. -/
def unterminated (delimiter : Char) : ReadError := .unexpectedEof (some ⟨delimiter, delimiter⟩)

/-- The wording of an error. -/
def message : ReadError → Text
  | .unexpectedEof (some cause) => "unexpected EOF: " ++ cause.message
  | .unexpectedEof none => "unexpected EOF"
  | .invalidIdentifier found => "invalid identifier: '" ++ found ++ "'"
  | .invalidEscape value => "invalid escape: \\" ++ value
  | .unexpectedToken [] found => "unexpected token: " ++ found
  | .unexpectedToken [one] found => "unexpected token: expected " ++ one ++ " but found " ++ found
  | .unexpectedToken many found =>
    "unexpected token: expected one of [" ++ Text.join ", " many ++ "] but found " ++ found

/-- The wording of what caused an error, if that is an error of its own. -/
def cause? : ReadError → Option Text
  | .unexpectedEof (some cause) => some cause.message
  | _ => none

end ReadError

end WrapShell
