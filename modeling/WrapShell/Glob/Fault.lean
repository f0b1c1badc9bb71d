import WrapShell.Glob.Word
import WrapShell.Text.Escape
/-!
# What can be wrong with a bracket

Where the brackets of a bare word stand, read from the left with each backslash taking the next character along, and
what can be wrong with one. A bracket is given by what follows its `[`, since it need not have an end.
-/

namespace WrapShell

namespace Bracket

/-- What can stand between `[` and the `]` that closes it. -/
def IsInside (t : Text) : Prop := t.escapes (· != ']') (fun _ => true) false

instance : DecidablePred IsInside := fun t =>
  inferInstanceAs (Decidable (t.escapes (· != ']') (fun _ => true) false = true))

/-- A text at whose end no bracket is open and no backslash waits for a character. -/
inductive Outside : Text → Prop
  | nil : Outside []
  | escaped (c : Char) {t : Text} (more : Outside t) : Outside ('\\' :: c :: t)
  | char {c : Char} {t : Text} (char : c ∉ ['\\', '[']) (more : Outside t) : Outside (c :: t)
  | bracket {inside t : Text} (closed : IsInside inside) (more : Outside t) : Outside ('[' :: inside ++ ']' :: t)

/-- Behind `front` a bracket opens in `word`, and `t` follows its `[`. -/
structure OpensAt (word front t : Text) : Prop where
  word_eq : word = front ++ '[' :: t
  outside : Outside front

/-- Of some bracket of `word`, what follows its `[` satisfies `P`. -/
def Any (P : Text → Prop) (word : Text) : Prop := ∃ front t, OpensAt word front t ∧ P t

/-- What can be wrong with a bracket. -/
inductive Fault where
  | unterminated
  | empty
  deriving DecidableEq, Repr

/-- How a fault is told. -/
def Fault.reason : Fault → Text
  | .unterminated => "unterminated character class"
  | .empty => "empty character class"

/-- What is wrong with a bracket: nothing closes it, or it is closed without a member. -/
inductive HasFault : Fault → Text → Prop
  | unterminated {t : Text} (unclosed : t.escapes (· != ']') (fun _ => true) true) : HasFault .unterminated t
  | empty {sign rest : Text} (memberless : sign ∈ [[], ['!'], ['^']]) : HasFault .empty (sign ++ ']' :: rest)

/-- Some bracket of a word has a fault. -/
def AnyFault : Text → Prop := Any fun t => ∃ fault, HasFault fault t

/-- The fault of the first bracket of a word that has one. -/
structure IsFirstFault (word front : Text) (fault : Fault) : Prop where
  here : ∃ t, OpensAt word front t ∧ HasFault fault t
  first : ∀ front' t' fault', OpensAt word front' t' → HasFault fault' t' → front.length ≤ front'.length

/-- A bracket that is closed and has a slash between its ends, in whichever way this is typed. -/
def HasSlash (t : Text) : Prop := ∃ inside rest, t = inside ++ ']' :: rest ∧ IsInside inside ∧ '/' ∈ inside

/-- Some bracket of a word has a slash in it. -/
def AnySlash : Text → Prop := Any HasSlash

end Bracket

/-- What a piece of a word becomes in a pattern. -/
inductive WordPiece.Becomes : WordPiece → Pattern.Token → Prop
  | plain {c : Char} (char : c ∉ ['?', '*', '[']) : Becomes (.plain c) (.char c)
  | anyChar : Becomes (.plain '?') .anyChar
  | anyRun : Becomes .stars .anyRun
  | escaped {c : Char} (char : c ∉ ['*', '?', '[', ']']) : Becomes (.escaped c) (.char c)
  | special {c : Char} (char : c ∈ ['*', '?', '[', ']']) : Becomes (.escaped c) (.within [.one c])
  | within (b : Bracket) (members : List Pattern.Member) : Becomes (.bracket b) (.within members)
  | except (b : Bracket) (members : List Pattern.Member) : Becomes (.bracket b) (.except members)
  /-- A lone escaped `!`. -/
  | bang (b : Bracket) : Becomes (.bracket b) (.char '!')

end WrapShell
