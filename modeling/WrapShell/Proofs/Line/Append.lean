import WrapShell.Proofs.Line.Canonical
/-!
# Lines one after the other

Behind a blank that separates, reading starts afresh: what was read before it stays, and what
follows is read as a line of its own (`read_append_blank`).
-/

namespace WrapShell

/-- Only a word can be open at its end. -/
theorem Node.IsCanonical.isClosed_iff {n : Node} (h : n.IsCanonical) :
    n.IsClosed ↔ ∀ v, n = .word v → v.dangles = false := by
  cases n with
  | word v =>
    have hw : isWordText true v := h.2.2
    constructor
    · rintro hc _ ⟨⟩
      exact (Text.escapes_false_iff.1 hc).2
    · intro hd
      exact Text.escapes_false_iff.2 ⟨hw, hd v rfl⟩
  | quoted | single | double | var => simp [IsClosed]

namespace Command

open Node

theorem Spells.readArgs_append {t s : Text} {args : List Arg} (h : Spells t args)
    (hc : ∀ n ∈ args.flatMap Arg.nodes, n.IsClosed) (hs : ∀ c ∈ s.head?, isBlank c) :
    readArgs (t ++ s) = (readArgs s).map (args ++ ·) := by
  induction h with
  | nil blanks =>
    rw [readArgs_allBlank blanks]
    cases readArgs s <;> rfl
  | @cons lead rest a args blanks hne run more ih =>
    rw [List.flatMap_cons, List.forall_mem_append] at hc
    have hrest : ∀ c ∈ (rest ++ s).head?, isBlank c := by
      cases rest with
      | nil => exact hs
      | cons d rest => exact (isRun_iff.1 run).1
    have hrun := readArgs_run hne (run.restart hc.1 hrest)
    rw [List.append_assoc, List.append_assoc, readArgs_allBlank blanks, Arg.render, hrun, ih hc.2]
    cases readArgs s <;> rfl

/-- All nodes but the last are closed in any line, so one that ends in no open word is closed. -/
theorem IsCanonical.forall_isClosed {c : Command} (h : c.IsCanonical)
    (hlast : ∀ v, (c.args.flatMap Arg.nodes).getLast? = some (.word v) → v.dangles = false) :
    ∀ n ∈ c.args.flatMap Arg.nodes, n.IsClosed := by
  intro n hn
  obtain ⟨arg, harg, hnode⟩ := List.mem_flatMap.1 hn
  rcases List.eq_nil_or_concat' (c.args.flatMap Arg.nodes) with e | ⟨init, last, e⟩
  · simp [e] at hn
  · have hinit := h.closed
    rw [e, List.dropLast_concat] at hinit
    rw [e, List.mem_append, List.mem_singleton] at hn
    rcases hn with hn | rfl
    · exact hinit n hn
    · exact (h.nodes arg harg n hnode).isClosed_iff.2 fun v hv => hlast v (by rw [e, List.getLast?_concat, hv])

/-- A line that is read, with blanks and another line behind it: the arguments are those of the
first and then those of the second, and an error of the second is the error of the whole. Only a
backslash that the first line leaves open would take a blank along. -/
theorem read_append_blank {a w b : Text} {c : Command} (ha : read a = .ok c)
    (hlast : ∀ v, (c.args.flatMap Arg.nodes).getLast? = some (.word v) → v.dangles = false)
    (hne : w ≠ []) (hw : w.allBlank) :
    read (a ++ w ++ b) = (read b).map fun d => ⟨c.args ++ d.args⟩ := by
  have hcan : c.IsCanonical := isCanonical_of_read ha
  have hclosed := hcan.forall_isClosed hlast
  have hblank : ∀ d ∈ (w ++ b).head?, isBlank d := by
    obtain ⟨d, w, rfl⟩ := List.exists_cons_of_ne_nil hne
    simp only [Text.allBlank, List.all_cons, Bool.and_eq_true] at hw
    rintro _ ⟨⟩
    exact hw.1
  have happend := (read_eq_ok_iff.1 ha).readArgs_append hclosed hblank
  rw [read, read, List.append_assoc, happend, readArgs_allBlank hw]
  cases readArgs b <;> rfl

/-- The first line ends in a blank that a backslash takes along, so one more blank is needed. -/
theorem read_append_blank_escaped :
    read "cat \"$x\" a\\ ".toList =
        .ok ⟨[⟨[.word "cat".toList]⟩, ⟨[.double [.var ['x']]]⟩, ⟨[.word "a\\ ".toList]⟩]⟩ ∧
      read ("cat \"$x\" a\\ ".toList ++ [' '] ++ "'it\\'s'".toList) =
        .ok ⟨[⟨[.word "cat".toList]⟩, ⟨[.double [.var ['x']]]⟩, ⟨[.word "a\\ ".toList]⟩,
          ⟨[.single "it's".toList]⟩]⟩ ∧
      read ("cat \"$x\" a\\ ".toList ++ [' '] ++ "'it' $1".toList) = .error (.invalidIdentifier ['1']) := by
  have ha : read "cat \"$x\" a\\ ".toList =
      .ok ⟨[⟨[.word "cat".toList]⟩, ⟨[.double [.var ['x']]]⟩, ⟨[.word "a\\ ".toList]⟩]⟩ := by decide +kernel
  have hlast : ∀ v, some (Node.word "a\\ ".toList) = some (.word v) → Text.dangles v = false := by
    rintro _ ⟨⟩
    decide
  have happend (b : Text) := read_append_blank (b := b) ha hlast (List.cons_ne_nil ' ' []) (by decide)
  exact ⟨ha, (happend _).trans (by decide +kernel), (happend _).trans (by decide +kernel)⟩

end Command

end WrapShell
