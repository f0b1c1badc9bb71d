import WrapShell.Regex.Term
import WrapShell.Unicode.Trait
/-!
# What expressions match

A pattern is an expression whose flags and classes are worked out. From some places in a text it
reaches the places where a match that starts there can end: `Pattern.reach`. A text matches if
any is reached from all of its places. Places are kept in the order of the text, each once.
-/

namespace WrapShell.Regex

/-- A place in a text: the character before it, what follows, and how long that is. -/
structure Place where
  before : Option Char
  rest : Text
  left : Nat
  deriving DecidableEq, Repr

namespace Place

/-- The place behind the next character, if that satisfies `holds`. -/
def next? (holds : Char → Bool) (p : Place) : Option Place :=
  match p.rest with
  | [] => none
  | c :: t => if holds c then some ⟨some c, t, p.left - 1⟩ else none

/-- The place behind some text, if that comes next. -/
def after? : Text → Place → Option Place
  | [], p => some p
  | c :: t, p => (p.next? (· == c)).bind (after? t)

/-- All places of a text of some length, from here on. -/
def onward (before : Option Char) (left : Nat) : Text → List Place
  | [] => [⟨before, [], left⟩]
  | c :: t => ⟨before, c :: t, left⟩ :: onward (some c) (left - 1) t

/-- All places of a text. -/
def all (t : Text) : List Place := onward none t.length t

/-- The places of both lists. -/
def union : List Place → List Place → List Place
  | [], qs => qs
  | ps, [] => ps
  | p :: ps, q :: qs =>
    if q.left < p.left then p :: union ps (q :: qs)
    else if p.left < q.left then q :: union (p :: ps) qs
    else p :: union ps qs
termination_by ps qs => ps.length + qs.length

/-- The places of the first list that are not in the second. -/
def without : List Place → List Place → List Place
  | [], _ => []
  | ps, [] => ps
  | p :: ps, q :: qs =>
    if q.left < p.left then p :: without ps (q :: qs)
    else if p.left < q.left then without (p :: ps) qs
    else without ps qs
termination_by ps qs => ps.length + qs.length

end Place

/-- A condition on a place. -/
inductive Look where
  | textStart
  | textEnd
  | lineStart
  | lineEnd
  /-- As `lineStart` and `lineEnd`, but a carriage return ends a line too. -/
  | returnStart
  | returnEnd
  /-- A condition on whether the characters before and behind belong to words, in Unicode or in
  ASCII. -/
  | word (a : Assertion) (unicode : Bool)
  deriving DecidableEq, Repr

/-- An ASCII letter, digit or underscore. -/
def isAsciiWordChar (c : Char) : Bool := c.isAlphanum || c == '_'

/-- Whether a condition holds at a place. -/
def Look.holds (l : Look) (p : Place) : Bool :=
  let after := p.rest.head?
  match l with
  | .textStart => p.before == none
  | .textEnd => after == none
  | .lineStart => p.before == none || p.before == some '\n'
  | .lineEnd => after == none || after == some '\n'
  | .returnStart => p.before == none || p.before == some '\n' || (p.before == some '\r' && after != some '\n')
  | .returnEnd => after == none || after == some '\r' || (after == some '\n' && p.before != some '\r')
  | .word a unicode =>
    let isWord (c? : Option Char) : Bool :=
      (c?.map (if unicode then Trait.word.has else isAsciiWordChar)).getD false
    let left := isWord p.before
    let right := isWord after
    match a with
    | .wordBoundary => left != right
    | .notWordBoundary => left == right
    | .wordStart => !left && right
    | .wordEnd => left && !right
    | .wordStartHalf => !left
    | .wordEndHalf => !right
    | _ => true

/-- An expression whose flags and classes are worked out. -/
inductive Pattern where
  | empty
  /-- Characters that stand for themselves. -/
  | text (t : Text)
  /-- One character of a set. -/
  | one (set : CharSet)
  | look (l : Look)
  /-- A repetition; a greedy one prefers more times. -/
  | repetition (least : Nat) (greatest : Option Nat) (greedy : Bool) (r : Pattern)
  /-- A group whose place is remembered. -/
  | capture (r : Pattern)
  | seq (rs : List Pattern)
  | either (rs : List Pattern)
  deriving Inhabited

/-- The places reached by exactly `n` steps. -/
def iterate (step : List Place → List Place) : Nat → List Place → List Place
  | 0, ps => ps
  | _, [] => []
  | n + 1, ps => iterate step n (step ps)

/-- The places reached by at most `n` more steps: `seen` so far, and of those `latest` by the last
step. -/
def within (step : List Place → List Place) : Nat → List Place → List Place → List Place
  | 0, seen, _ => seen
  | _, seen, [] => seen
  | n + 1, seen, latest =>
    let new := Place.without (step latest) seen
    within step n (Place.union seen new) new

namespace Pattern

mutual

/-- The places where a match from some places can end. More steps than there are characters
left, and one, lead nowhere else. -/
def reach : Pattern → List Place → List Place
  | .empty, ps => ps
  | .text t, ps => ps.filterMap (Place.after? t)
  | .one set, ps => ps.filterMap (Place.next? set.has)
  | .look l, ps => ps.filter l.holds
  | .capture r, ps => r.reach ps
  | .seq rs, ps => reachAll rs ps
  | .either rs, ps => reachAny rs ps
  | .repetition least greatest _ r, ps =>
    let bound := (ps.head?.map Place.left).getD 0 + 1
    let first := iterate r.reach (min bound least) ps
    let more := match greatest with
      | some m => min bound (m - least)
      | none => bound
    within r.reach more first first

/-- The places where a match of patterns one after the other can end. -/
def reachAll : List Pattern → List Place → List Place
  | [], ps => ps
  | r :: rs, ps => reachAll rs (r.reach ps)

/-- The places where a match of some of the patterns can end. -/
def reachAny : List Pattern → List Place → List Place
  | [], _ => []
  | r :: rs, ps => Place.union (r.reach ps) (reachAny rs ps)

end

/-- Whether a pattern matches some part of a text. -/
def isMatch (r : Pattern) (t : Text) : Bool := !(r.reach (Place.all t)).isEmpty

end Pattern

end WrapShell.Regex
