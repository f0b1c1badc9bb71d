import WrapShell.Text.Basic
/-!
# Terms of regular expressions

What a regular expression is made of, as it is written: every term remembers the span of the
text it comes from, since errors point at it.
-/

namespace WrapShell.Regex

/-- A place in an expression: line and column, from one. -/
structure Position where
  line : Nat
  column : Nat
  deriving DecidableEq, Repr, Inhabited

/-- The place behind a character. -/
def Position.step (p : Position) (c : Char) : Position :=
  if c = '\n' then ⟨p.line + 1, 1⟩ else ⟨p.line, p.column + 1⟩

/-- A part of an expression. -/
structure Span where
  start : Position
  stop : Position
  deriving DecidableEq, Repr, Inhabited

/-- A switch that changes how an expression is read or matched. -/
inductive Flag where
  | caseInsensitive
  | multiLine
  | dotMatchesNewline
  | swapGreed
  | unicode
  | carriageReturn
  | ignoreBlanks
  deriving DecidableEq, Repr

/-- The letter of a flag. -/
def Flag.ofChar? : Char → Option Flag
  | 'i' => some .caseInsensitive
  | 'm' => some .multiLine
  | 's' => some .dotMatchesNewline
  | 'U' => some .swapGreed
  | 'u' => some .unicode
  | 'R' => some .carriageReturn
  | 'x' => some .ignoreBlanks
  | _ => none

/-- Flags as they are written: `none` stands for the `-` that turns off those behind it. -/
abbrev FlagItems := List (Option Flag)

/-- What flags say about one of them, if they mention it. -/
def FlagItems.state? (items : FlagItems) (f : Flag) : Option Bool :=
  match items.span (· != some f) with
  | (before, _ :: _) => some (!before.contains none)
  | _ => none

/-- A condition on a place between two characters. -/
inductive Assertion where
  | lineStart
  | lineEnd
  | textStart
  | textEnd
  | wordBoundary
  | notWordBoundary
  | wordStart
  | wordEnd
  | wordStartHalf
  | wordEndHalf
  deriving DecidableEq, Repr

/-- A class of characters with a letter of its own. -/
inductive Shorthand where
  | digit
  | space
  | word
  deriving DecidableEq, Repr

/-- A class of ASCII characters with a name. -/
inductive AsciiClass where
  | alnum | alpha | ascii | blank | cntrl | digit | graph | lower | print | punct | space | upper | word | xdigit
  deriving DecidableEq, Repr

namespace AsciiClass

/-- The names of the classes. -/
def names : List (Text × AsciiClass) :=
  [("alnum", .alnum), ("alpha", .alpha), ("ascii", .ascii), ("blank", .blank), ("cntrl", .cntrl),
    ("digit", .digit), ("graph", .graph), ("lower", .lower), ("print", .print), ("punct", .punct),
    ("space", .space), ("upper", .upper), ("word", .word), ("xdigit", .xdigit)]

/-- The characters of a class. -/
def holds (k : AsciiClass) (c : Char) : Bool :=
  let n := c.toNat
  match k with
  | .alnum => c.isAlphanum
  | .alpha => c.isAlpha
  | .ascii => n < 128
  | .blank => c == ' ' || c == '\t'
  | .cntrl => n < 32 || n == 127
  | .digit => c.isDigit
  | .graph => 33 ≤ n && n ≤ 126
  | .lower => c.isLower
  | .print => 32 ≤ n && n ≤ 126
  | .punct => 33 ≤ n && n ≤ 126 && !c.isAlphanum
  | .space => c == ' ' || (9 ≤ n && n ≤ 13)
  | .upper => c.isUpper
  | .word => c.isAlphanum || c == '_'
  | .xdigit => c.isDigit || ('a' ≤ c && c ≤ 'f') || ('A' ≤ c && c ≤ 'F')

end AsciiClass

/-- A way to combine two sets of characters. -/
inductive SetOperation where
  | intersection
  | difference
  | symmetricDifference
  deriving DecidableEq, Repr

/-- A character that stands for itself. -/
structure Literal where
  span : Span
  char : Char
  /-- It is written as `\xNN`. -/
  byte : Bool
  deriving DecidableEq, Repr, Inhabited

/-- A term of a regular expression. -/
inductive Term where
  | empty (s : Span)
  | flags (s : Span) (items : FlagItems)
  | literal (l : Literal)
  | dot (s : Span)
  | assertion (s : Span) (a : Assertion)
  | shorthand (s : Span) (k : Shorthand) (negated : Bool)
  /-- A Unicode property: name and, if there is one, value. -/
  | property (s : Span) (negated : Bool) (name : Text) (value : Option Text)
  | range (s : Span) (first last : Literal)
  | ascii (s : Span) (k : AsciiClass) (negated : Bool)
  | union (s : Span) (items : List Term)
  | combined (s : Span) (op : SetOperation) (left right : Term)
  | bracketed (s : Span) (negated : Bool) (set : Term)
  /-- A repetition; a lazy one prefers fewer times. -/
  | repetition (s : Span) (least : Nat) (greatest : Option Nat) (isLazy : Bool) (r : Term)
  /-- A group that may switch flags, and may be remembered. -/
  | group (s : Span) (items : FlagItems) (remembered : Bool) (r : Term)
  | alternation (s : Span) (rs : List Term)
  | concat (s : Span) (rs : List Term)
  deriving Repr, Inhabited

/-- The span of a term. -/
def Term.span : Term → Span
  | .literal l => l.span
  | .empty s | .flags s _ | .dot s | .assertion s _ | .shorthand s _ _ | .property s _ _ _
  | .range s _ _ | .ascii s _ _ | .union s _ | .combined s _ _ _ | .bracketed s _ _ | .repetition s _ _ _ _
  | .group s _ _ _ | .alternation s _ | .concat s _ => s

end WrapShell.Regex
