import Std.Data.HashMap
import WrapShell.Regex.Lead
/-!
# The size of a pattern

A pattern runs on a machine whose states read a text byte by byte, forward to find where a match
ends and backward to find where it starts. Repetitions are written out in it, so a short pattern
may have a large machine. A pattern is refused if one of its machines exceeds `sizeLimit`. The
machines are only measured here: each part adds its states, and the links that branches and sets
of bytes need.
-/

namespace WrapShell.Regex

/-- What a machine takes up so far. -/
structure Machine where
  states : Nat
  /-- The bytes of the links of its states. -/
  links : Nat
  /-- The part added last ends in a branch, which has a link for what comes behind it. -/
  branching : Bool
  deriving DecidableEq, Repr

namespace Machine

/-- The bytes that a machine may have. -/
def sizeLimit : Nat := 10485760

/-- Whether a machine is too large. A state has 32 bytes. -/
def isTooLarge (m : Machine) : Bool := sizeLimit < 32 * m.states + m.links

/-- A machine with a part of some states and links. -/
def plus (m : Machine) (states links : Nat) : Machine := ⟨m.states + states, m.links + links, false⟩

/-- The bytes of the link from the part added last to the next one. -/
def joint (m : Machine) : Nat := if m.branching then 4 else 0

/-- A machine with another part behind the one added last. -/
def follow (m : Machine) (add : Machine → Machine) : Machine :=
  let a := add m
  { a with links := a.links + m.joint }

/-! ## Repetitions -/

/-- A machine with `n` more parts, one behind the other. One that is too large stays as it is. -/
def followMany (add : Machine → Machine) : Nat → Machine → Machine
  | 0, m => m
  | n + 1, m => if m.isTooLarge then m else followMany add n (m.follow add)

/-- A machine with `n` parts, one behind the other; without any, there is a state for nothing. -/
def copies (add : Machine → Machine) (n : Nat) (m : Machine) : Machine :=
  if n = 0 then m.plus 1 0 else followMany add (n - 1) (add m)

/-- A machine with up to `n` parts, each behind a branch that may leave the rest out. -/
def optional (add : Machine → Machine) : Nat → Machine → Machine
  | 0, m => m
  | n + 1, m =>
    if m.isTooLarge then m
    else
      let a := add (m.plus 1 0)
      optional add n { a with links := a.links + 8 + m.joint }

/-- A machine with a part that is repeated. `advances` tells whether each match of it has
characters; otherwise a loop needs a way around it. -/
def loop (add : Machine → Machine) (least : Nat) (greatest : Option Nat) (advances : Bool) (m : Machine) :
    Machine :=
  match greatest with
  | none =>
    if 0 < least then
      let a := copies add least m
      ⟨a.states + 1, a.links + 4 + a.joint, true⟩
    else if advances then
      let a := add (m.plus 1 0)
      ⟨a.states, a.links + 4 + a.joint, true⟩
    else
      let a := add m
      a.plus 3 (16 + a.joint)
  | some n =>
    if least = n then copies add n m
    else if least = 0 ∧ n = 1 then
      let a := add (m.plus 1 0)
      a.plus 1 (8 + a.joint)
    else
      let a := copies add least m
      let b := optional add (n - least) { a with states := a.states + 1 }
      b.plus 0 b.joint

end Machine

/-! ## Words -/

/-- The words before, between and behind those that end here. Words that end where none has gone
on count once. -/
def chunks (goesOn ended : Bool) : List Bytes → List (List Bytes)
  | [] => [[]]
  | [] :: ws => if ended && !goesOn then chunks goesOn ended ws else [] :: chunks goesOn true ws
  | w :: ws =>
    match chunks true ended ws with
    | c :: cs => (w :: c) :: cs
    | [] => [[w]]

namespace Machine

/-- A machine with a tree of words: a branch for its chunks, and for each of them a state that reads
the first bytes of its words. The number bounds the length of the words. -/
def addWords : Nat → List Bytes → Machine → Machine
  | 0, _, m => m
  | depth + 1, words, m =>
    let all := chunks false false words
    let full := all.filter (· != [])
    let addChunk (m : Machine) (chunk : List Bytes) : Machine :=
      let firsts := (chunk.filterMap List.head?).eraseDups
      let addChild (m : Machine) (first : UInt8) : Machine :=
        let rests := chunk.filterMap fun w => if w.head? == some first then some w.tail else none
        if rests.all (· == []) then m else addWords depth rests m
      (firsts.foldl addChild m).plus 1 (if firsts.length = 1 then 0 else 8 * firsts.length)
    (full.foldl addChunk m).plus 1 (4 * (full.length + all.length - 1))

end Machine

/-! ## Sets of characters -/

/-- A range of bytes. -/
structure ByteRange where
  first : Nat
  last : Nat
  deriving DecidableEq, Repr

/-- Where a range of codes has to be cut for the bytes of its characters to be independent of each
other: the last code before the cut. -/
def cut? (first last : Nat) : Option Nat :=
  if last < 0x80 then none
  else
    let byLength := [0x7F, 0x7FF, 0xFFFF].find? fun n => first ≤ n && n < last
    byLength.or <| [64, 4096, 262144].findSome? fun m =>
      if first / m = last / m then none
      else if first % m ≠ 0 then some (first / m * m + m - 1)
      else if last % m ≠ m - 1 then some (last / m * m - 1)
      else none

/-- The ranges of the bytes of characters from `first` to `last`, place by place. -/
def columns (first last : Nat) : List ByteRange :=
  List.zipWith (fun a b => ⟨a.toNat, b.toNat⟩) (String.utf8EncodeChar (Char.ofNat first))
    (String.utf8EncodeChar (Char.ofNat last))

/-- The characters from `first` to `last` as sequences of ranges of bytes. -/
def byteSequences (first last : Nat) : List (List ByteRange) :=
  match cut? first last with
  | none => [columns first last]
  | some n =>
    if _h : first ≤ n ∧ n < last then byteSequences first n ++ byteSequences (n + 1) last
    else [columns first last]
termination_by last - first
decreasing_by all_goals omega

/-- The links of a state: the bytes that each takes, and the state it leads to. -/
abbrev Links := List (ByteRange × Nat)

/-- A machine while a set is added to it, with the states that may be used again: each slot knows
the last one put there. -/
structure SetMachine where
  machine : Machine
  slots : Std.HashMap Nat (Links × Nat)

/-- A hash of numbers. -/
def hashOf (ns : List Nat) : Nat :=
  (ns.foldl (fun (h : UInt64) n => (h ^^^ n.toUInt64) * 1099511628211) 14695981039346656037).toNat

namespace SetMachine

/-- A new state with some links that take `bytes`; its slot knows it. -/
def newState (slot : Nat) (links : Links) (bytes : Nat) (s : SetMachine) : Nat × SetMachine :=
  let n := s.machine.states
  (n, ⟨s.machine.plus 1 bytes, s.slots.insert slot (links, n)⟩)

/-- The state with some links: the one in its slot, or a new one. -/
def state (slot : Nat) (links : Links) (bytes : Nat) (s : SetMachine) : Nat × SetMachine :=
  match s.slots[slot]? with
  | some (known, n) => if known == links then (n, s) else s.newState slot links bytes
  | none => s.newState slot links bytes

/-- The state where some sequences start that lead to `target`. The number bounds their length. -/
def start (target : Nat) : Nat → List (List ByteRange) → SetMachine → Nat × SetMachine
  | 0, _, s => (target, s)
  | depth + 1, seqs, s =>
    if seqs.contains [] then (target, s)
    else
      let addGroup (done : Links × SetMachine) (group : List (List ByteRange)) : Links × SetMachine :=
        let (next, s) := start target depth (group.map List.tail) done.2
        match group.head?.bind List.head? with
        | some r => ((r, next) :: done.1, s)
        | none => (done.1, s)
      let (links, s) := (seqs.splitBy fun p q => p.head? == q.head?).foldl addGroup ([], s)
      let links := links.reverse
      s.state (hashOf (links.flatMap fun l => [l.1.first, l.1.last, l.2]) % 10000) links (8 * links.length)

/-- Adds a sequence that is read backward and leads to `target`, and the link to it. -/
def addBackward (target : Nat) (s : SetMachine) (seq : List ByteRange) : SetMachine :=
  let (_, s) := seq.foldl (fun (next, s) r =>
    s.state (hashOf [next, r.first, r.last] % 1000) [(r, next)] 0) (target, s)
  { s with machine := s.machine.plus 0 4 }

end SetMachine

/-- A machine with a set of characters. -/
def Machine.addSet (m : Machine) (backward : Bool) (set : CharSet) : Machine :=
  let ranges := set.ranges
  if ranges.all fun r => r.2 < 0x80 then m.plus 2 (8 * ranges.length)
  else
    let seqs := ranges.flatMap fun r => byteSequences r.1 r.2
    if backward then
      (seqs.foldl (SetMachine.addBackward (m.states + 1)) ⟨m.plus 2 0, ∅⟩).machine
    else (SetMachine.start m.states 5 seqs ⟨m.plus 1 0, ∅⟩).2.machine

/-! ## Patterns -/

/-- What a condition asks of the text read backward. -/
def Look.mirror : Look → Look
  | .textStart => .textEnd
  | .textEnd => .textStart
  | .lineStart => .lineEnd
  | .lineEnd => .lineStart
  | .returnStart => .returnEnd
  | .returnEnd => .returnStart
  | .word .wordStart u => .word .wordEnd u
  | .word .wordEnd u => .word .wordStart u
  | .word .wordStartHalf u => .word .wordEndHalf u
  | .word .wordEndHalf u => .word .wordStartHalf u
  | l => l

namespace Pattern

mutual

/-- The pattern that matches the text read backward. -/
def mirror : Pattern → Pattern
  | .empty => .empty
  | .text t => .text t.reverse
  | .one set => .one set
  | .look l => .look l.mirror
  | .repetition least greatest greedy r => .repetition least greatest greedy r.mirror
  | .capture r => .capture r.mirror
  | .seq rs => .seq (mirrorAll rs).reverse
  | .either rs => .either (mirrorAll rs)

/-- The mirrors of some patterns. -/
def mirrorAll : List Pattern → List Pattern
  | [] => []
  | r :: rs => r.mirror :: mirrorAll rs

end

mutual

/-- Whether a pattern can match only at the start of a text, as it stands. -/
def startsText : Pattern → Bool
  | .look l => l == .textStart
  | .repetition least _ _ r => 0 < least && r.startsText
  | .capture r => r.startsText
  | .seq rs => startTextOf rs
  | .either rs => startText rs
  | .empty | .text _ | .one _ => false

/-- Whether one of the patterns that come before any character starts the text. -/
def startTextOf : List Pattern → Bool
  | [] => false
  | r :: rs => r.startsText || (r.maxLength == some 0 && startTextOf rs)

/-- Whether all of the patterns start the text. -/
def startText : List Pattern → Bool
  | [] => true
  | r :: rs => r.startsText && startText rs

end

/-- The text that a pattern is. -/
def text? : Pattern → Option Text
  | .text t => some t
  | _ => none

mutual

/-- A machine with a pattern. One that runs backward, over a mirrored pattern, remembers no groups. -/
def addTo (backward : Bool) : Pattern → Machine → Machine
  | .empty, m | .look _, m => m.plus 1 0
  | .text t, m => m.plus (Text.utf8Size t) 0
  | .one set, m => m.addSet backward set
  | .repetition least greatest _ r, m =>
    m.loop (addTo backward r) least greatest (r.minLength.any (0 < ·))
  | .capture r, m =>
    if backward then addTo backward r m
    else
      let a := addTo backward r (m.plus 1 0)
      a.plus 1 a.joint
  | .seq rs, m => addAll backward true rs m
  | .either rs, m =>
    match rs.mapM text? with
    | some words =>
      let bytes := words.map fun w => if backward then (Text.utf8 w.reverse).reverse else Text.utf8 w
      m.addWords ((bytes.map List.length).foldl max 0 + 1) bytes
    | none => addAny backward 0 rs m

/-- A machine with patterns, one behind the other. -/
def addAll (backward isFirst : Bool) : List Pattern → Machine → Machine
  | [], m => m
  | r :: rs, m =>
    let a := if isFirst then addTo backward r m else m.follow (addTo backward r)
    addAll backward false rs a

/-- A machine with alternatives, `n` of which are there. Two of them bring a branch and the state
where they meet. -/
def addAny (backward : Bool) (n : Nat) : List Pattern → Machine → Machine
  | [], m => m
  | r :: rs, m =>
    let a := addTo backward r m
    addAny backward (n + 1) rs (a.plus (if n = 1 then 2 else 0) (4 + a.joint))

end

/-- The machine that finds a match in one direction. Where a match may start anywhere, a loop
over all bytes comes first. -/
def machine (backward : Bool) (r : Pattern) : Machine :=
  let start : Machine := if r.startsText then ⟨1, 0, false⟩ else ⟨3, 16, false⟩
  let m := addTo backward (.capture r) start
  m.plus 1 m.joint

/-- Whether a pattern is a long list of words, which needs no machine. -/
def isWordList : Pattern → Bool
  | .either rs => 3000 ≤ rs.length && (rs.mapM text?).isSome
  | _ => false

/-- Whether a pattern needs a machine, and one of its machines is too large. -/
def isTooLarge (r : Pattern) : Bool :=
  !r.isWordList && ((machine false r).isTooLarge || (machine true r.mirror).isTooLarge) && !r.isWordChoice

end Pattern

/-- What is said of a pattern that is too large. -/
def tooLarge : Text := "Compiled regex exceeds size limit of 10485760 bytes."

end WrapShell.Regex
