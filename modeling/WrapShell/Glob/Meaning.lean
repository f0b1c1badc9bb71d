import WrapShell.Glob.Word
import WrapShell.Text.Escape
import Mathlib.Data.List.Chain
/-!
# What a bare word means

What brackets and wildcards say when they are read as they are typed. The pattern that a word is
turned into need not say the same: the escaped members of a bracket change their places.
-/

namespace WrapShell

/-! ## Brackets -/

namespace BracketMember

def char : BracketMember → Char
  | .live c => c
  | .escaped c => c

/-- How a member is typed. -/
def typed : BracketMember → Text
  | .live c => [c]
  | .escaped c => ['\\', c]

/-- Whether a member leaves its place; `lead` says that only such members stand before it. -/
def moves (lead : Bool) : BracketMember → Bool
  | .live _ => false
  | .escaped c => c = ']' || c = '-' || (c = '!' && lead)

end BracketMember

namespace Bracket

/-- The members, a live `-` between two of them taken as the range between them. -/
def listed : List BracketMember → List Pattern.Member
  | lo :: .live '-' :: hi :: ms => .range lo.char hi.char :: listed ms
  | m :: ms => .one m.char :: listed ms
  | [] => []

/-- Whether a bracket, read as it is typed, stands for `c`. -/
def has (b : Bracket) (c : Char) : Bool := b.negated != (listed b.members).any (·.has c)

/-- What can be typed: the first live `]` ends the members, and a live `!` or `^` in front is
the sign. -/
structure IsTyped (b : Bracket) : Prop where
  nonempty : b.members ≠ []
  plain : ∀ c, .live c ∈ b.members → c ≠ ']' ∧ c ≠ '\\'
  unsigned : b.negated = false → ∀ c, b.members.head? = some (.live c) → c ≠ '!' ∧ c ≠ '^'

/-- The characters between the brackets, or between the sign and `]`, as a pattern has them. -/
def sorted (b : Bracket) : Text :=
  let p := b.parts
  (if p.close then [']'] else []) ++ p.body ++
    (if p.bang && !b.negated && !p.close && p.body.isEmpty && p.dash then ['-', '!']
     else (if p.bang then ['!'] else []) ++ (if p.dash then ['-'] else []))

/-- The bracket that the pattern has in its place. A `!` that has come to stand in front is a
sign there. -/
def rearranged (b : Bracket) : Bracket :=
  match b.negated, b.sorted with
  | false, '!' :: c :: t => ⟨true, (c :: t).map .live⟩
  | negated, t => ⟨negated, t.map .live⟩

/-- Characters of which each stands for all up to the next one: no member tells these apart. -/
def landmarks (b : Bracket) : List Char := '\x00' :: b.members.flatMap fun m => m.char :: m.char.succ?.toList

/-- The members that come out stand for the same characters. -/
def Faithful (b : Bracket) : Prop := ∀ c ∈ b.landmarks, b.rearranged.has c = b.has c

instance (b : Bracket) : Decidable b.Faithful :=
  List.decidableBAll (fun c => b.rearranged.has c = b.has c) b.landmarks

/-- Whether each member leaves its place. -/
def marked (lead : Bool) : List BracketMember → List (BracketMember × Bool)
  | [] => []
  | m :: ms => (m, m.moves lead) :: marked (lead && m.moves lead) ms

/-- Of two neighbours neither is a live `-` and the other on the move. -/
def Apart (m n : BracketMember × Bool) : Prop := ¬(m.1 = .live '-' ∧ n.2) ∧ ¬(m.2 ∧ n.1 = .live '-')

instance (m n : BracketMember × Bool) : Decidable (Apart m n) := instDecidableAnd

/-- No member moves away from a live `-` or to one, and no live `!` comes to stand in front. -/
structure IsSettled (b : Bracket) : Prop where
  apart : (marked true b.members).IsChain Apart
  front : b.parts.close → b.parts.body.head? ≠ some '-'
  back : b.parts.bang ∨ b.parts.dash → b.parts.body.getLast? ≠ some '-'
  sign : b.negated = false → b.parts.close = false → b.parts.body.head? ≠ some '!'

instance (b : Bracket) : Decidable b.IsSettled :=
  decidable_of_iff
    ((marked true b.members).IsChain Apart ∧ (b.parts.close → b.parts.body.head? ≠ some '-') ∧
      (b.parts.bang ∨ b.parts.dash → b.parts.body.getLast? ≠ some '-') ∧
      (b.negated = false → b.parts.close = false → b.parts.body.head? ≠ some '!'))
    ⟨fun ⟨h₁, h₂, h₃, h₄⟩ => ⟨h₁, h₂, h₃, h₄⟩, fun ⟨h₁, h₂, h₃, h₄⟩ => ⟨h₁, h₂, h₃, h₄⟩⟩

end Bracket

namespace WordPiece

/-- What a pattern has for a bracket. -/
def classToken (b : Bracket) : Pattern.Token :=
  if b.negated = false ∧ b.sorted = ['!'] then .char '!'
  else if b.rearranged.negated then .except (Bracket.listed b.rearranged.members)
  else .within (Bracket.listed b.rearranged.members)

/-- What a pattern has for a piece. -/
def token : WordPiece → Pattern.Token
  | .plain c => if c = '?' then .anyChar else .char c
  | .escaped c => if c = '*' ∨ c = '?' ∨ c = '[' ∨ c = ']' then .within [.one c] else .char c
  | .stars => .anyRun
  | .bracket b => classToken b

end WordPiece

end WrapShell
