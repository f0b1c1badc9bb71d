import WrapShell.Proofs.Yaml.Write
/-!
# Reading what stands without quotes

Without quotes, a text goes on until the line ends and the next one starts less deep
(`readPlain_written`), or until a colon makes a key of it (`readPlain_key`).
-/

namespace WrapShell.Yaml

variable {start m : Mark} {gap : Gap} {c : Char} {s t word : Text} {flow : Bool} {indent k : Nat}

/-- Whether a text starts with a token: nothing in front of it is skipped or taken for more. -/
def StartsToken (t : Text) : Prop := ∀ c ∈ t.head?, isSpace c = false ∧ isBreak c = false ∧ c ≠ '#' ∧ c ≠ '\ufeff'

/-- A line end and the indentation of the next line. -/
def newLine (k : Nat) : Text := '\n' :: List.replicate k ' '

theorem column_spaces (m : Mark) (k : Nat) : (m.advance (List.replicate k ' ')).column = m.column + k := by
  have hspaces : ∀ c ∈ List.replicate k ' ', isBreak c = false := fun c hc => by rw [List.eq_of_mem_replicate hc]; decide
  rw [Mark.column_advance hspaces, List.length_replicate]

theorem column_newLine (m : Mark) (k : Nat) : (m.advance (newLine k)).column = k := by
  rw [newLine, Mark.advance_cons, column_spaces, Mark.column_step_break (by decide), Nat.zero_add]

/-- Spaces at the start of a line count for nothing. -/
theorem readPlain_indent (hgap : gap.hasBreak) (k : Nat) :
    readPlain start flow indent m gap (List.replicate k ' ' ++ t) =
      readPlain start flow indent (m.advance (List.replicate k ' ')) gap t := by
  induction k generalizing m with
  | zero => rfl
  | succ k ih =>
    have hadd : gap.add ' ' = gap := by
      rw [Gap.add, if_neg (by decide)]
      exact if_pos hgap
    rw [List.replicate_succ, List.cons_append, readPlain, if_pos (by decide), if_neg (by simp), hadd, ih]
    rfl

/-- The scalar ends with its line if the next line starts less deep. -/
theorem readPlain_newLine (hk : k < indent) (hword : StartsToken word) :
    readPlain start false indent m .none (newLine k ++ word) = .ok ⟨[], true, ⟨m.advance (newLine k), word⟩⟩ := by
  have hcolumn := column_newLine m k
  rw [newLine, Mark.advance_cons] at hcolumn ⊢
  have hadd : Gap.none.add '\n' = ⟨[], some ['\n'], []⟩ := by decide
  rw [List.cons_append, readPlain, if_pos (by decide), if_neg (by simp [Gap.none, Gap.hasBreak]), hadd,
    readPlain_indent rfl]
  cases word with
  | nil => rfl
  | cons c word =>
    obtain ⟨hspace, hbreak, _⟩ := hword c rfl
    rw [readPlain, if_neg (by simp [hspace, hbreak]), if_pos (by simp [Gap.isNone, hcolumn, hk])]
    rfl

/-- A character of a word. A `#` starts a comment behind a gap only, a `:` ends a key in front
of a blank only. -/
theorem readPlain_char (hm : 0 < m.column) (hspace : isSpace c = false) (hbreak : isBreak c = false)
    (hdeep : gap.isNone ∨ indent ≤ m.column ∧ c ≠ '#')
    (hcolon : c = ':' → ∃ d ∈ t.head?, isSpace d = false ∧ isBreak d = false) :
    readPlain start false indent m gap (c :: t) =
      (readPlain start false indent (m.step c) .none t).map fun p => { p with text := gap.fold ++ c :: p.text } := by
  have hshallow : ¬(!gap.isNone && !false && decide (m.column < indent)) = true := by
    rcases hdeep with h | h
    · simp [h]
    · simp [h.1]
  have hcomment : ¬(!gap.isNone && c == '#') = true := by
    rcases hdeep with h | h
    · simp [h]
    · simp [h.2]
  have hkey : ¬(c == ':' && (Cursor.mk m (c :: t)).blankAt 1 || false && [',', '[', ']', '\x7b', '\x7d'].contains c) = true := by
    by_cases hc : c = ':'
    · obtain ⟨d, hd, hdspace, hdbreak⟩ := hcolon hc
      obtain ⟨t, rfl⟩ := List.head?_eq_some_iff.1 hd
      simp [Cursor.blankAt, hdspace, hdbreak]
    · simp [hc]
  rw [readPlain, if_neg (by simp [hspace, hbreak]), if_neg hshallow, if_neg (by simp [Cursor.atDocumentMark_inside hm]),
    if_neg hcomment, if_neg (by simp), if_neg hkey]

/-- What stands without quotes: words of characters that can be shown, with spaces between them,
where no word starts with `#` or ends in `:`. -/
structure IsPlainLine (s : Text) : Prop where
  shown : ∀ c ∈ s, isShown c ∧ isBreak c = false
  noComment : s.IsChain fun a b => a = ' ' → b ≠ '#'
  noKey : s.IsChain fun a b => a = ':' → b ≠ ' '
  last : ∀ c ∈ s.getLast?, c ≠ ' ' ∧ c ≠ ':'

theorem IsPlainLine.tail (h : IsPlainLine (c :: s)) : IsPlainLine s where
  shown d hd := h.shown d (List.mem_cons_of_mem c hd)
  noComment := h.noComment.tail
  noKey := h.noKey.tail
  last := by
    cases s with
    | nil => simp
    | cons d s => exact h.last

/-- By induction on the text: spaces that are held back in front of it and the text are read
together. -/
theorem readPlain_written (hs : IsPlainLine s) (hm : 0 < m.column) (hindent : indent ≤ m.column) (hk : k < indent)
    (hword : StartsToken word) (blanks : Text) (hblanks : blanks ≠ [] → s ≠ [] ∧ s.head? ≠ some '#') :
    readPlain start false indent m ⟨blanks, none, []⟩ (s ++ (newLine k ++ word)) =
      .ok ⟨blanks ++ s, true, ⟨m.advance (s ++ newLine k), word⟩⟩ := by
  induction s generalizing m blanks with
  | nil =>
    have hnone : blanks = [] := by
      by_contra h
      exact (hblanks h).1 rfl
    subst hnone
    exact readPlain_newLine hk hword
  | cons c s ih =>
    obtain ⟨hc, hbreak⟩ := hs.shown c List.mem_cons_self
    have hstep : (m.step c).column = m.column + 1 := Mark.column_step hbreak m
    have hspace := isSpace_of_isShown hc
    rw [List.cons_append]
    by_cases hblank : c = ' '
    · subst hblank
      have hnext : s ≠ [] := by
        rintro rfl
        exact (hs.last ' ' rfl).1 rfl
      have hcomment : s.head? ≠ some '#' := fun h => (List.isChain_cons.1 hs.noComment).1 '#' h rfl rfl
      have hadd : Gap.add ⟨blanks, none, []⟩ ' ' = ⟨blanks ++ [' '], none, []⟩ := by simp [Gap.add, hbreak]
      rw [readPlain, if_pos (by decide), if_neg (by simp [Gap.hasBreak]), hadd,
        ih hs.tail (by omega) (by omega) (blanks ++ [' ']) fun _ => ⟨hnext, hcomment⟩, List.append_assoc]
      rfl
    · have hdeep : (Gap.mk blanks none []).isNone ∨ indent ≤ m.column ∧ c ≠ '#' := by
        by_cases hnone : blanks = []
        · exact .inl (by simp [Gap.isNone, hnone])
        · exact .inr ⟨hindent, fun h => (hblanks hnone).2 (by rw [h, List.head?_cons])⟩
      have hcolon : c = ':' → ∃ d ∈ (s ++ (newLine k ++ word)).head?, isSpace d = false ∧ isBreak d = false := by
        intro hc
        cases s with
        | nil => exact absurd hc (hs.last c rfl).2
        | cons d s =>
          obtain ⟨hd, hdbreak⟩ := hs.shown d (by simp)
          refine ⟨d, rfl, ?_, hdbreak⟩
          rw [isSpace_of_isShown hd, beq_eq_false_iff_ne]
          exact (List.isChain_cons_cons.1 hs.noKey).1 hc
      have hrest : readPlain start false indent (m.step c) .none (s ++ (newLine k ++ word)) = _ :=
        ih hs.tail (by omega) (by omega) [] fun h => absurd rfl h
      rw [readPlain_char hm (by simpa [hspace] using hblank) hbreak hdeep hcolon, hrest]
      rfl

/-- A name of a field ends at the colon behind it. -/
theorem readPlain_key (hs : ∀ c ∈ s, isSpace c = false ∧ isBreak c = false ∧ c ≠ ':') (hm : 0 < m.column) :
    readPlain start false indent m .none (s ++ ':' :: ' ' :: t) = .ok ⟨s, false, ⟨m.advance s, ':' :: ' ' :: t⟩⟩ := by
  induction s generalizing m with
  | nil =>
    rw [List.nil_append, readPlain, if_neg (by decide), if_neg (by simp [Gap.none, Gap.isNone]),
      if_neg (by simp [Cursor.atDocumentMark_inside hm]), if_neg (by decide), if_neg (by simp), if_pos (by rfl)]
    rfl
  | cons c s ih =>
    obtain ⟨hspace, hbreak, hcolon⟩ := hs c List.mem_cons_self
    have hinside : 0 < (m.step c).column := by
      rw [Mark.column_step hbreak]
      omega
    rw [List.cons_append, readPlain_char hm hspace hbreak (.inl rfl) fun h => absurd h hcolon,
      ih (fun d hd => hs d (List.mem_cons_of_mem c hd)) hinside]
    rfl

/-- A text that is written without quotes is a line of words. -/
theorem isPlainLine_of_styleOf (h : styleOf t = .plain) : IsPlainLine t := by
  obtain ⟨hne, hshown, _, hlast, hstart, hindicator⟩ := styleOf_eq_plain h
  simp only [hasIndicator, Bool.or_eq_false_iff, hasPair_eq_false_iff] at hindicator
  obtain ⟨⟨hcomment, hkey⟩, hcolon⟩ := hindicator
  refine ⟨hshown, hcomment.imp ?_, hkey.imp ?_, fun c hc => ⟨?_, ?_⟩⟩
  · rintro a b h rfl
    simpa using h (by decide)
  · rintro a b h ha rfl
    have hgap := h (beq_iff_eq.2 ha)
    revert hgap
    decide
  · rintro rfl
    exact hlast hc
  · -- A colon at the end is a key unless it stands alone, and then it starts one.
    rintro rfl
    have hone : t.length < 2 := by
      by_contra h
      simp [Option.mem_def.1 hc, Nat.le_of_not_lt h] at hcolon
    obtain ⟨c, rfl⟩ : ∃ c, t = [c] := List.length_eq_one_iff.1 (by have := List.length_pos_iff.2 hne; omega)
    obtain rfl : c = ':' := by simpa using hc
    revert hstart
    decide

end WrapShell.Yaml
