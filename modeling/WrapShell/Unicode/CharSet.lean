import WrapShell.Number.Integer
/-!
# Sets of characters

A set of characters is kept by its edges: the codes at which membership changes, in ascending
order. The operations on sets merge the edges of both. Codes that no character has may lie in a
set; `ranges` leaves them out.
-/

namespace WrapShell

/-- A set of characters, by the codes at which membership changes. -/
structure CharSet where
  edges : List Nat
  deriving DecidableEq, Repr

namespace CharSet

/-- Whether a code lies in a set, if `start` tells it for the codes before the first edge. -/
def holdsFrom (start : Bool) : List Nat → Nat → Bool
  | [], _ => start
  | e :: es, n => if n < e then start else holdsFrom (!start) es n

/-- Whether a set holds a character. -/
def has (s : CharSet) (c : Char) : Bool := holdsFrom false s.edges c.toNat

def empty : CharSet := ⟨[]⟩

/-- The codes of a range, ends included. -/
def ofRange (first last : Nat) : CharSet := ⟨[first, last + 1]⟩

def singleton (c : Char) : CharSet := ofRange c.toNat c.toNat

/-- The edges of codes in ascending order: neighbours have none between them. -/
def codeEdges : List Nat → List Nat
  | [] => []
  | n :: ns =>
    match codeEdges ns with
    | [] => [n, n + 1]
    | m :: es => if m = n then m :: es else if m = n + 1 then n :: es else n :: (n + 1) :: m :: es

/-- The set of some codes. -/
def ofCodes (ns : List Nat) : CharSet := ⟨codeEdges (ns.mergeSort (· ≤ ·))⟩

/-! ## Operations -/

/-- The edges of what `op` makes of two sets, from where they are told by `a` and `b`. -/
def merge (op : Bool → Bool → Bool) (a b : Bool) : List Nat → List Nat → List Nat
  | [], [] => []
  | x :: xs, [] =>
    let rest := merge op (!a) b xs []
    if op (!a) b == op a b then rest else x :: rest
  | [], y :: ys =>
    let rest := merge op a (!b) [] ys
    if op a (!b) == op a b then rest else y :: rest
  | x :: xs, y :: ys =>
    if x < y then
      let rest := merge op (!a) b xs (y :: ys)
      if op (!a) b == op a b then rest else x :: rest
    else if y < x then
      let rest := merge op a (!b) (x :: xs) ys
      if op a (!b) == op a b then rest else y :: rest
    else
      let rest := merge op (!a) (!b) xs ys
      if op (!a) (!b) == op a b then rest else x :: rest
termination_by xs ys => xs.length + ys.length
decreasing_by all_goals (simp only [List.length_cons, List.length_nil]; omega)

def union (s t : CharSet) : CharSet := ⟨merge or false false s.edges t.edges⟩

def inter (s t : CharSet) : CharSet := ⟨merge and false false s.edges t.edges⟩

/-- What is in `s` and not in `t`. -/
def diff (s t : CharSet) : CharSet := ⟨merge (fun a b => a && !b) false false s.edges t.edges⟩

/-- What is in one of both sets and not in the other. -/
def xor (s t : CharSet) : CharSet := ⟨merge bne false false s.edges t.edges⟩

/-- All that is not in a set. -/
def compl (s : CharSet) : CharSet :=
  match s.edges with
  | 0 :: es => ⟨es⟩
  | es => ⟨0 :: es⟩

/-- What is in some of the sets. -/
def unionOf : List CharSet → CharSet
  | [] => empty
  | [s] => s
  | s :: ss => s.union (unionOf ss)

/-! ## Ranges -/

/-- The codes of characters: all up to the last one, apart from those that stand for halves of
others elsewhere. -/
def scalars : CharSet := ⟨[0, 0xD800, 0xE000, 0x110000]⟩

/-- The first and the last code of each piece between edges. -/
def pieces : List Nat → List (Nat × Nat)
  | first :: behind :: es => (first, behind - 1) :: pieces es
  | _ => []

/-- The ranges of characters in a set, in order. -/
def ranges (s : CharSet) : List (Nat × Nat) := pieces (s.inter scalars).edges

/-- The one character of a set, if it has only one. -/
def single? (s : CharSet) : Option Char :=
  match s.ranges with
  | [(n, m)] => if n = m then some (Char.ofNat n) else none
  | _ => none

/-- Whether a set holds no character above ASCII. -/
def isAscii (s : CharSet) : Bool := s.ranges.all fun r => r.2 < 0x80

/-! ## Tables -/

/-- The value of hexadecimal digits. -/
def code (t : Text) : Nat := t.foldl (fun n c => 16 * n + (digitValue? 16 c).getD 0) 0

/-- The edges of a run, which is written `first`, `first-last` or `first-last/step`. -/
def runEdges (t : Text) : List Nat :=
  match (List.splitOn '/' t).map (List.splitOn '-') with
  | [[first]] => [code first, code first + 1]
  | [[first, last]] => [code first, code last + 1]
  | [[first, last], [step]] =>
    let n := code first
    (List.range ((code last - n) / code step + 1)).flatMap fun k => [n + k * code step, n + k * code step + 1]
  | _ => []

/-- The set of runs in ascending order, with blanks between the runs of a line. -/
def ofRuns (lines : List String) : CharSet :=
  ⟨lines.flatMap fun line => (List.splitOn ' ' line.toList).flatMap runEdges⟩

end CharSet

end WrapShell
