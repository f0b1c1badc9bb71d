import WrapShell.Regex.Normal
import WrapShell.Text.Utf8
/-!
# What matches start with

Every match of a pattern starts with one of some words, or with anything. A word is whole if it is a
match by itself. A pattern that has no conditions and no groups to remember, and whose words are all
whole, is looked for by its words alone: `isWordChoice`. There are limits to the words: to their
number, their length, and how often a repetition is followed.
-/

namespace WrapShell.Regex

/-- A word that matches start with. -/
structure Lead where
  bytes : Bytes
  /-- The word is a match by itself. -/
  whole : Bool
  deriving DecidableEq, Repr

/-- The words that matches start with, in the order in which they are preferred; `none` if they start
with anything. -/
abbrev Leads := Option (List Lead)

/-- A word without what stands behind its first `n` bytes. -/
def Lead.cut (n : Nat) (w : Lead) : Lead :=
  if w.bytes.length ≤ n then w else ⟨w.bytes.take n, false⟩

/-- Words without those that repeat the one before them. -/
def merged : List Lead → List Lead
  | [] => []
  | [w] => [w]
  | v :: w :: ws =>
    if v.bytes = w.bytes then merged (⟨v.bytes, v.whole && w.whole⟩ :: ws) else v :: merged (w :: ws)
termination_by ws => ws.length

namespace Leads

/-- The greatest number of words. -/
def maxWords : Nat := 250

/-- The greatest length of a word. -/
def maxLength : Nat := 100

/-- How often a repetition is followed, and how many characters of a set are. -/
def maxChoices : Nat := 10

/-- The words of what matches nothing but the empty text. -/
def nothing : Leads := some [⟨[], true⟩]

/-- Whether none of the words can go on. -/
def isClosed (s : Leads) : Bool := s.all fun ws => ws.all (!·.whole)

/-- The words, none of them whole. -/
def unfinished (s : Leads) : Leads := s.map fun ws => ws.map fun w => { w with whole := false }

/-- The words of both. If they are too many, they are cut, and given up if that is no help. -/
def union : Leads → Leads → Leads
  | some vs, some ws =>
    if vs.length + ws.length ≤ maxWords then some (merged (vs ++ ws))
    else
      let vs := merged (vs.map (Lead.cut 4))
      let ws := merged (ws.map (Lead.cut 4))
      if vs.length + ws.length ≤ maxWords then some (merged (vs ++ ws)) else none
  | _, _ => none

/-- The words of matches one behind the other. -/
def cross (s t : Leads) : Leads :=
  s.bind fun vs =>
    match t.filter fun ws => vs.length * ws.length ≤ maxWords with
    | none => if vs.any (·.bytes == []) then none else unfinished (some vs)
    | some ws =>
      let next (v : Lead) : List Lead :=
        if v.whole then ws.map fun w => ⟨v.bytes ++ w.bytes, w.whole⟩ else [v]
      some ((merged (vs.flatMap next)).map (Lead.cut maxLength))

/-- The words behind `n` more matches. -/
def repeated (t : Leads) : Nat → Leads → Leads
  | 0, s => s
  | n + 1, s => if s.isClosed then s else repeated t n (s.cross t)

end Leads

namespace Pattern

/-- The words that are the characters of a set, if they are few. -/
def setLeads (set : CharSet) : Leads :=
  let ranges := set.ranges
  if Leads.maxChoices < ranges.foldl (fun n r => n + (r.2 + 1 - r.1)) 0 then none
  else
    some <| ranges.flatMap fun r =>
      (List.range (r.2 + 1 - r.1)).map fun k => ⟨Text.utf8 [Char.ofNat (r.1 + k)], true⟩

mutual

/-- The words that matches of a pattern start with. -/
def leads : Pattern → Leads
  | .empty | .look _ => Leads.nothing
  | .text t => some [Lead.cut Leads.maxLength ⟨Text.utf8 t, true⟩]
  | .one set => setLeads set
  | .repetition least greatest greedy r =>
    let inner := r.leads
    if least = 0 then
      let inner := if greatest = some 1 then inner else inner.unfinished
      if greedy then inner.union Leads.nothing else Leads.nothing.union inner
    else
      let words := inner.repeated (min least Leads.maxChoices) Leads.nothing
      if greatest = some least ∧ least ≤ Leads.maxChoices then words else words.unfinished
  | .capture r => r.leads
  | .seq rs => leadsAll Leads.nothing rs
  | .either rs => leadsAny (some []) rs

/-- The words of patterns one behind the other, behind some words. -/
def leadsAll (s : Leads) : List Pattern → Leads
  | [] => s
  | r :: rs => if s.isClosed then s else leadsAll (s.cross r.leads) rs

/-- The words of alternatives, and some others before them. -/
def leadsAny (s : Leads) : List Pattern → Leads
  | [] => s
  | r :: rs => if s.isNone then none else leadsAny (s.union r.leads) rs

end

/-! ## Choosing words to look for -/

/-- The words that do not start with one before them. -/
def preferred (kept : List Lead) : List Lead → List Lead
  | [] => kept.reverse
  | w :: ws => preferred (if kept.any fun v => v.bytes.isPrefixOf w.bytes then kept else w :: kept) ws

/-- The number of bytes that all words have in common. -/
def sharedBytes : List Lead → Nat
  | [] => 0
  | w :: ws =>
    ws.foldl (fun n v => (((w.bytes.take n).zip v.bytes).takeWhile fun p => p.1 == p.2).length) w.bytes.length

/-- Bytes below 128 that texts seldom have. Words that start with one of them are looked for by that
byte. -/
def rareBytes : CharSet := .ofRuns ["0-9 B-C E-1F 21-27 2A-2B 33-38 3B-5E 60 6A-6B 71 77 7A-7B 7D-7F"]

/-- The words that are looked for, if there are too many: cut, as long as that is so. -/
def shortened (ws : List Lead) : List Lead :=
  [(5, 10), (4, 10), (3, 64), (2, 64), (1, 10)].foldl (fun ws (keep, limit) =>
    if ws.length ≤ limit then ws else preferred [] (ws.map (Lead.cut keep))) ws

/-- Whether looking for some words finds whole matches. -/
def areWhole (words : List Lead) : Bool :=
  let ws := preferred [] words
  let shared := sharedBytes ws
  let first := (ws.head?.bind fun w => w.bytes.head?).getD 0
  let isRare := rareBytes.has (Char.ofNat first.toNat)
  if words.any (·.bytes == []) || ws == [] then false
  else if 1 < words.length && 1 ≤ shared && shared ≤ 3 && isRare then
    ws.all fun w => w.whole && w.bytes.length = 1
  else
    let isFast := ws.all (·.whole) && ws.length ≤ 16
    let ws := if 4 < shared || (1 < shared && !isFast) then merged (ws.map (Lead.cut shared)) else ws
    let short := shortened ws
    ws.all (·.whole) &&
      (short.all (·.whole) || short.any (·.bytes.length ≤ 2) || 64 < short.length)

mutual

/-- Whether a pattern has no conditions and no groups to remember. -/
def isPlain : Pattern → Bool
  | .empty | .text _ | .one _ => true
  | .look _ | .capture _ => false
  | .repetition _ _ _ r => r.isPlain
  | .seq rs | .either rs => arePlain rs

/-- Whether all of some patterns are plain. -/
def arePlain : List Pattern → Bool
  | [] => true
  | r :: rs => r.isPlain && arePlain rs

end

/-- Whether a pattern is looked for by words alone. -/
def isWordChoice (r : Pattern) : Bool := r.isPlain && r.leads.any areWhole

end Pattern

end WrapShell.Regex
