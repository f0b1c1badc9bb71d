import WrapShell.Regex.Pattern
/-!
# Patterns in normal form

A pattern is put together by functions that keep it small: a set of one character is a text,
texts that follow each other are one text, a sequence inside a sequence dissolves in it, and
alternatives that are all sets are one set. What alternatives begin with in common stands once
before them. The size of a pattern's machine depends on that form.
-/

namespace WrapShell.Regex.Pattern

/-! ## Lengths -/

/-- The sum of two lengths, if both are known. -/
def addLengths (m n : Option Nat) : Option Nat := m.bind fun m => n.map (m + ·)

mutual

/-- The least number of bytes that a match can have; none if there is no match. -/
def minLength : Pattern → Option Nat
  | .empty | .look _ => some 0
  | .text t => some (Text.utf8Size t)
  | .one set => set.ranges.head?.map fun r => (Char.ofNat r.1).utf8Size
  | .repetition least _ _ r => r.minLength.map (least * ·)
  | .capture r => r.minLength
  | .seq rs => minLengthAll rs
  | .either rs => minLengthAny rs

/-- The least length of patterns one after the other. -/
def minLengthAll : List Pattern → Option Nat
  | [] => some 0
  | r :: rs => addLengths r.minLength (minLengthAll rs)

/-- The least length of alternatives; none if some of them has none. -/
def minLengthAny : List Pattern → Option Nat
  | [] => none
  | [r] => r.minLength
  | r :: rs => r.minLength.bind fun m => (minLengthAny rs).map (min m ·)

end

mutual

/-- The greatest number of bytes that a match can have; none if there is no bound. -/
def maxLength : Pattern → Option Nat
  | .empty | .look _ => some 0
  | .text t => some (Text.utf8Size t)
  | .one set => set.ranges.getLast?.map fun r => (Char.ofNat r.2).utf8Size
  | .repetition _ greatest _ r => greatest.bind fun n => r.maxLength.map (n * ·)
  | .capture r => r.maxLength
  | .seq rs => maxLengthAll rs
  | .either rs => maxLengthAny rs

/-- The greatest length of patterns one after the other. -/
def maxLengthAll : List Pattern → Option Nat
  | [] => some 0
  | r :: rs => addLengths r.maxLength (maxLengthAll rs)

/-- The greatest length of alternatives. -/
def maxLengthAny : List Pattern → Option Nat
  | [] => none
  | [r] => r.maxLength
  | r :: rs => r.maxLength.bind fun m => (maxLengthAny rs).map (max m ·)

end

/-! ## Comparison -/

mutual

/-- Whether two patterns are the same. A group that is remembered is the same as no other. -/
def isSame : Pattern → Pattern → Bool
  | .empty, .empty => true
  | .text t, .text u => t == u
  | .one a, .one b => a == b
  | .look l, .look m => l == m
  | .repetition least greatest greedy r, .repetition least' greatest' greedy' s =>
    least == least' && greatest == greatest' && greedy == greedy' && r.isSame s
  | .seq rs, .seq ss | .either rs, .either ss => areSame rs ss
  | _, _ => false

/-- Whether two lists of patterns are the same. -/
def areSame : List Pattern → List Pattern → Bool
  | [], [] => true
  | r :: rs, s :: ss => r.isSame s && areSame rs ss
  | _, _ => false

end

/-- How many patterns two lists begin with in common. -/
def commonStart : List Pattern → List Pattern → Nat
  | r :: rs, s :: ss => if r.isSame s then commonStart rs ss + 1 else 0
  | _, _ => 0

/-! ## Making patterns -/

/-- The pattern that matches nowhere. -/
def fail : Pattern := .one .empty

/-- One character of a set. -/
def ofSet (set : CharSet) : Pattern :=
  match set.single? with
  | some c => .text [c]
  | none => .one (set.inter .scalars)

/-- A repetition. What matches no characters need not be repeated. -/
def repeated (least : Nat) (greatest : Option Nat) (greedy : Bool) (r : Pattern) : Pattern :=
  let vacuous := r.maxLength = some 0
  let least := if vacuous then min least 1 else least
  let greatest := if vacuous then some (min (greatest.getD 1) 1) else greatest
  if least = 0 ∧ greatest = some 0 then .empty
  else if least = 1 ∧ greatest = some 1 then r
  else .repetition least greatest greedy r

/-- The parts of a sequence that a pattern makes up. -/
def parts : Pattern → List Pattern
  | .empty => []
  | .seq rs => rs
  | r => [r]

/-- Joins texts that follow each other. -/
def joinTexts : List Pattern → List Pattern
  | [] => []
  | r :: rs =>
    match r, joinTexts rs with
    | .text t, .text u :: rs => .text (t ++ u) :: rs
    | r, rs => r :: rs

/-- Patterns one after the other. -/
def concat (rs : List Pattern) : Pattern :=
  match joinTexts (rs.flatMap parts) with
  | [] => .empty
  | [r] => r
  | rs => .seq rs

/-- The alternatives that a pattern consists of. -/
def choices : Pattern → List Pattern
  | .either rs => rs
  | r => [r]

/-- The one character that a pattern is. -/
def char? : Pattern → Option CharSet
  | .text [c] => some (.singleton c)
  | _ => none

/-- The set that a pattern is. -/
def set? : Pattern → Option CharSet
  | .one set => some set
  | _ => none

/-- Alternatives, apart from what they begin with in common. -/
def choice (rs : List Pattern) : Pattern :=
  match rs with
  | [] => fail
  | [r] => r
  | rs =>
    match rs.mapM char?, rs.mapM set? with
    | some sets, _ | none, some sets => ofSet (.unionOf sets)
    | none, none => .either rs

/-- The sequence that a pattern is. -/
def sequence? : Pattern → Option (List Pattern)
  | .seq rs => some rs
  | _ => none

/-- How many parts all of some sequences begin with in common. -/
def sharedStart : List (List Pattern) → Nat
  | [] => 0
  | rs :: more => more.foldl (fun n ss => min n (commonStart rs ss)) rs.length

/-- Alternatives. What all of them begin with stands once before them; they begin with nothing
else in common then. -/
def alternatives (rs : List Pattern) : Pattern :=
  let rs := rs.flatMap choices
  match rs, rs.mapM sequence? with
  | _ :: _ :: _, some (first :: more) =>
    let n := sharedStart (first :: more)
    if n = 0 then choice rs
    else
      let behind := (first :: more).map fun ss => concat (ss.drop n)
      concat (first.take n ++ [choice (behind.flatMap choices)])
  | rs, _ => choice rs

end WrapShell.Regex.Pattern
