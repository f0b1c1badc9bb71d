import WrapShell.Proofs.Yaml.Plain
/-!
# Reading a literal block

A literal block is read line by line. The lines of a text are indented when they are written,
but for the empty ones; the reader takes the indentation away, keeps the line ends behind the
last line apart, and takes as many of them into the text as the header says
(`readBlock_written`).
-/

namespace WrapShell.Yaml

variable {start m : Mark} {c : Char} {s t w word : Text} {k n given parent : Nat}

/-- A text of whole lines: each is ended. -/
inductive Closed : Text → Prop where
  | nil : Closed []
  | line (l : Text) (e : Char) (more : Text) (hl : ∀ c ∈ l, isBreak c = false) (he : isBreak e) (h : Closed more) :
    Closed (l ++ e :: more)

theorem closed_concat (s : Text) {e : Char} (he : isBreak e) : Closed (s ++ [e]) := by
  induction s with
  | nil => exact .line [] e [] (by simp) he .nil
  | cons c s ih =>
    cases hc : isBreak c with
    | true => exact .line [] c _ (by simp) hc ih
    | false =>
      generalize hw : s ++ [e] = w at ih
      cases ih with
      | nil => simp at hw
      | line l e' more hl he' h =>
        rw [List.cons_append, hw, ← List.cons_append]
        exact .line (c :: l) e' more (List.forall_mem_cons.2 ⟨hc, hl⟩) he' h

/-- A text with its last line ended. -/
def ended (s : Text) : Text := if (s.getLast?.map isBreak).getD false then s else s ++ ['\n']

theorem ended_concat (s : Text) (c : Char) : ended (s ++ [c]) = if isBreak c then s ++ [c] else s ++ [c] ++ ['\n'] := by
  rw [ended, List.getLast?_concat, Option.map_some, Option.getD_some]

theorem closed_ended (s : Text) : Closed (ended s) := by
  rcases List.eq_nil_or_concat' s with rfl | ⟨t, c, rfl⟩
  · exact closed_concat [] rfl
  · rw [ended_concat]
    split
    · next h => exact closed_concat t h
    · exact closed_concat _ rfl

theorem isShown_of_mem_ended (hshown : ∀ c ∈ s, isShown c) : ∀ c ∈ ended s, isShown c := by
  intro c hc
  rw [ended] at hc
  split at hc
  · exact hshown c hc
  · rcases List.mem_append.1 hc with hc | hc
    · exact hshown c hc
    · rw [List.mem_singleton.1 hc]
      decide

theorem indentLines_ended (indent s : Text) : indentLines indent true (ended s) =
    indentLines indent true s ++ if (s.getLast?.map isBreak).getD false then [] else ['\n'] := by
  have newline (t : Text) (fresh : Bool) : indentLines indent fresh (t ++ ['\n']) = indentLines indent fresh t ++ ['\n'] := by
    induction t generalizing fresh with
    | nil => simp [indentLines, show isBreak '\n' from rfl]
    | cons c t ih =>
      rw [List.cons_append, indentLines, indentLines]
      split <;> simp [ih]
  rw [ended]
  split
  · exact (List.append_nil _).symm
  · exact newline s true

theorem indentLines_append_break {indent : Text} {fresh : Bool} {l : Text} {e : Char} (hl : ∀ c ∈ l, isBreak c = false)
    (he : isBreak e) : indentLines indent fresh (l ++ e :: t) =
      (if l ≠ [] ∧ fresh then indent else []) ++ (l ++ e :: indentLines indent true t) := by
  induction l generalizing fresh with
  | nil => simp [indentLines, he]
  | cons c l ih =>
    rw [List.forall_mem_cons] at hl
    rw [List.cons_append, indentLines, if_neg (by simp [hl.1]), ih hl.2]
    simp

/-- Behind whole lines a line starts. -/
theorem column_indentLines (hw : Closed w) (hm : m.column = 0) (indent : Text) :
    (m.advance (indentLines indent true w)).column = 0 := by
  induction hw generalizing m with
  | nil => exact hm
  | line l e more hl he h ih =>
    rw [indentLines_append_break hl he, Mark.advance_append, Mark.advance_append]
    exact ih (Mark.column_step_break he _)

/-! ## Empty lines -/

/-- Indentation is skipped up to its column, or up to the first word if the column is not known. -/
theorem readBlockBreaks_indent (hn : given = 0 ∨ m.column + n ≤ given) :
    readBlockBreaks start given m (List.replicate n ' ' ++ t) =
      readBlockBreaks start given (m.advance (List.replicate n ' ')) t := by
  induction n generalizing m with
  | zero => rfl
  | succ n ih =>
    have hshallow : (given = 0 || decide (m.column < given)) = true := by
      rcases hn with h | h
      · simp [h]
      · simp [show m.column < given by omega]
    have hcolumn : (m.step ' ').column = m.column + 1 := Mark.column_step (by decide) m
    rw [List.replicate_succ, List.cons_append, readBlockBreaks]
    simp only [hshallow, Bool.and_true, decide_true, if_true]
    rw [ih (hn.imp id fun h => by omega)]
    rfl

/-- It ends at a word, or at a space that belongs to the text. -/
theorem readBlockBreaks_word (hbreak : isBreak c = false) (htab : c ≠ '\t')
    (hspace : c = ' ' → given ≠ 0 ∧ given ≤ m.column) :
    readBlockBreaks start given m (c :: t) = .ok (m.column, [], ⟨m, c :: t⟩) := by
  rw [readBlockBreaks, if_neg ?_, if_neg (by simp [htab]), if_neg (by simp [hbreak])]
  by_cases hc : c = ' '
  · obtain ⟨h, h'⟩ := hspace hc
    simp [h, h']
  · simp [hc]

/-- The indentation of a line is found, or is as it was given. -/
theorem readBlockBreaks_line (hm : m.column = 0) (hbreak : isBreak c = false) (hshown : isShown c)
    (hgiven : given = n ∨ given = 0) (hspace : c = ' ' → given ≠ 0) :
    readBlockBreaks start given m (List.replicate n ' ' ++ c :: t) =
      .ok (n, [], ⟨m.advance (List.replicate n ' '), c :: t⟩) := by
  have hcolumn : (m.advance (List.replicate n ' ')).column = n := by rw [column_spaces, hm, Nat.zero_add]
  rw [readBlockBreaks_indent (by omega), readBlockBreaks_word hbreak (ne_of_isShown hshown (by decide)), hcolumn]
  intro hc
  have := hspace hc
  omega

theorem readBlockBreaks_break (hbreak : isBreak c) (hshown : isShown c) :
    readBlockBreaks start given m (c :: t) =
      (readBlockBreaks start given (m.step c) t).map fun (deepest, breaks, rest) =>
        (max m.column deepest, c :: breaks, rest) := by
  have hspace : c ≠ ' ' := by
    rintro rfl
    cases hbreak
  have htab : c ≠ '\t' := ne_of_isShown hshown (by decide)
  rw [readBlockBreaks, if_neg (by simp [hspace]), if_neg (by simp [htab]), if_pos hbreak, lineEnd_of_isShown hshown]

/-- What comes behind the block is less deep. -/
theorem readBlockBreaks_end (start : Mark) (hk : m.column + k ≤ given) (hword : StartsToken word) :
    ∃ deepest, readBlockBreaks start given m (List.replicate k ' ' ++ word) =
      .ok (deepest, [], ⟨m.advance (List.replicate k ' '), word⟩) := by
  rw [readBlockBreaks_indent (.inr hk)]
  cases word with
  | nil => exact ⟨_, rfl⟩
  | cons c word =>
    obtain ⟨hspace, hbreak, _⟩ := hword c rfl
    simp only [isSpace, Bool.or_eq_false_iff, beq_eq_false_iff_ne] at hspace
    exact ⟨_, readBlockBreaks_word hbreak hspace.2 fun h => absurd h hspace.1⟩

/-! ## Lines -/

/-- The line ends after the last line are kept apart from the text. -/
structure BlockLines.Apart (b : BlockLines) : Prop where
  trailing : ∀ c ∈ b.trailing, isBreak c
  lead : b.text = [] ∧ b.lead = [] ∨ ∃ e, b.lead = [e] ∧ isBreak e

/-- One line, and the empty lines after it. -/
theorem readBlockLines_line {l : Text} {e : Char} {b : BlockLines} {deepest : Nat} {trailing : Text} {rest : Cursor}
    (fuel : Nat) (blank : Bool) (hne : l ≠ []) (hl : ∀ c ∈ l, isBreak c = false) (he : isBreak e) (hshown : isShown e)
    (hb : b.rest = ⟨m, l ++ e :: t⟩) (hm : m.column = n)
    (hbreaks : readBlockBreaks start n ((m.advance l).step e) t = .ok (deepest, trailing, rest)) :
    ∃ blank', readBlockLines true start n (fuel + 1) blank b =
      readBlockLines true start n fuel blank' ⟨b.text ++ (b.lead ++ b.trailing) ++ l, [e], trailing, rest⟩ := by
  obtain ⟨c, l', rfl⟩ := List.exists_cons_of_ne_nil hne
  refine ⟨isSpace c, ?_⟩
  have hspan : (Cursor.mk m (c :: l' ++ e :: t)).span (!isBreak ·) = (c :: l', ⟨m.advance (c :: l'), e :: t⟩) :=
    Cursor.span_append (fun d hd => by simp [hl d hd]) (by simp [he])
  have hnext : (Cursor.mk (m.advance (c :: l')) (e :: t)).skip 1 = ⟨(m.advance (c :: l')).step e, t⟩ := rfl
  rw [readBlockLines, hb]
  simp only [List.cons_append, ne_eq, hm, not_true_eq_false, if_false, Bool.not_true, Bool.false_and, Bool.false_eq_true]
  rw [← List.cons_append, hspan]
  simp only [hnext, hbreaks, List.take_succ_cons, List.take_zero, List.map_cons, List.map_nil, lineEnd_of_isShown hshown]

theorem readBlockLines_end {b : BlockLines} (h : b.rest.rest = [] ∨ b.rest.mark.column ≠ n) (fuel : Nat) (blank : Bool) :
    readBlockLines true start n fuel blank b = .ok b := by
  cases fuel with
  | zero => rfl
  | succ fuel =>
    rw [readBlockLines]
    split
    · rfl
    · next c t ht => rw [if_pos (h.resolve_left (by simp [ht]))]

/-- By induction on the lines. The empty lines in front of a line are read before it, so they
wait in `ahead` until it comes. -/
theorem readBlockLines_written (start : Mark) (hw : Closed w) (hshown : ∀ c ∈ w, isShown c) (hk : k < n) (hword : StartsToken word)
    (hm : m.column = 0) :
    let written := indentLines (List.replicate n ' ') true w
    ∃ deepest trailing rest,
      readBlockBreaks start n m (written ++ (List.replicate k ' ' ++ word)) = .ok (deepest, trailing, rest) ∧
      rest.rest.length ≤ (written ++ (List.replicate k ' ' ++ word)).length ∧
      ∀ fuel blank text lead ahead, rest.rest.length < fuel → BlockLines.Apart ⟨text, lead, ahead, rest⟩ →
        ∃ b, readBlockLines true start n fuel blank ⟨text, lead, ahead ++ trailing, rest⟩ = .ok b ∧ b.Apart ∧
          b.text ++ b.lead ++ b.trailing = text ++ lead ++ ahead ++ w ∧
          b.rest = ⟨m.advance (written ++ List.replicate k ' '), word⟩ := by
  induction hw generalizing m with
  | nil =>
    obtain ⟨deepest, hbreaks⟩ := readBlockBreaks_end start (show m.column + k ≤ n by omega) hword
    refine ⟨deepest, [], _, hbreaks, by simp [indentLines], fun fuel blank text lead ahead _ hapart => ?_⟩
    have hcolumn : (m.advance (List.replicate k ' ')).column ≠ n := by
      rw [column_spaces]
      omega
    rw [List.append_nil]
    exact ⟨_, readBlockLines_end (.inr hcolumn) fuel blank, ⟨hapart.trailing, hapart.lead⟩, by simp, rfl⟩
  | line l e more hl he h ih =>
    have hshown' : ∀ c ∈ more, isShown c := fun c hc => hshown c (by simp [hc])
    have he' : isShown e := hshown e (by simp)
    by_cases hne : l = []
    · -- An empty line waits for the next line.
      subst hne
      obtain ⟨deepest, trailing, rest, hbreaks, hlength, hlines⟩ := ih (m := m.step e) hshown' (Mark.column_step_break he m)
      refine ⟨max m.column deepest, e :: trailing, rest, ?_, ?_, fun fuel blank text lead ahead hfuel hapart => ?_⟩
      · rw [List.nil_append, indentLines, if_pos he, List.cons_append, readBlockBreaks_break he he', hbreaks]
        rfl
      · rw [List.nil_append, indentLines, if_pos he, List.cons_append, List.length_cons]
        omega
      · have hahead : BlockLines.Apart ⟨text, lead, ahead ++ [e], rest⟩ := by
          refine ⟨fun c hc => ?_, hapart.lead⟩
          rcases List.mem_append.1 hc with hc | hc
          · exact hapart.trailing c hc
          · rwa [List.mem_singleton.1 hc]
        obtain ⟨b, hb, hbapart, hbtext, hbrest⟩ := hlines fuel blank text lead (ahead ++ [e]) hfuel hahead
        refine ⟨b, ?_, hbapart, ?_, ?_⟩
        · rwa [List.append_assoc] at hb
        · rw [hbtext]
          simp
        · rw [hbrest, List.nil_append, indentLines, if_pos he]
          rfl
    · -- Any other line is read with the empty lines that wait in front of it.
      have hwritten : indentLines (List.replicate n ' ') true (l ++ e :: more) =
          List.replicate n ' ' ++ (l ++ e :: indentLines (List.replicate n ' ') true more) := by
        rw [indentLines_append_break hl he, if_pos ⟨hne, rfl⟩]
      obtain ⟨deepest, trailing, rest, hbreaks, hlength, hlines⟩ :=
        ih (m := ((m.advance (List.replicate n ' ')).advance l).step e) hshown' (Mark.column_step_break he _)
      have hcolumn : (m.advance (List.replicate n ' ')).column = n := by rw [column_spaces, hm, Nat.zero_add]
      refine ⟨n, [], ⟨m.advance (List.replicate n ' '),
        l ++ e :: (indentLines (List.replicate n ' ') true more ++ (List.replicate k ' ' ++ word))⟩, ?_, ?_, ?_⟩
      · obtain ⟨c, l, rfl⟩ := List.exists_cons_of_ne_nil hne
        have hn : n ≠ 0 := by omega
        rw [hwritten, List.append_assoc, List.append_assoc, List.cons_append]
        exact readBlockBreaks_line hm (hl c List.mem_cons_self) (hshown c (by simp)) (.inl rfl) fun _ => hn
      · simp [hwritten]
      · intro fuel blank text lead ahead hfuel hapart
        obtain ⟨fuel, rfl⟩ : ∃ f, fuel = f + 1 := Nat.exists_eq_succ_of_ne_zero (by omega)
        have hfuel' : rest.rest.length < fuel := by
          simp only [List.length_append, List.length_cons] at hfuel hlength
          omega
        obtain ⟨blank', hline⟩ := readBlockLines_line fuel blank (b := ⟨text, lead, ahead ++ [], _⟩) hne hl he he' rfl
          hcolumn hbreaks
        have hapart' : BlockLines.Apart ⟨text ++ (lead ++ (ahead ++ [])) ++ l, [e], [], rest⟩ :=
          ⟨by simp, .inr ⟨e, rfl, he⟩⟩
        obtain ⟨b, hb, hbapart, hbtext, hbrest⟩ := hlines fuel blank' _ _ [] hfuel' hapart'
        refine ⟨b, hline.trans hb, hbapart, ?_, ?_⟩
        · rw [hbtext]
          simp
        · rw [hbrest, hwritten]
          simp

/-! ## The whole block -/

/-- Lines that do not end in a line end are none at all. -/
theorem BlockLines.Apart.eq_nil {b : BlockLines} {tail : Text} (h : b.Apart) (htail : ∀ c ∈ tail, isBreak c)
    (hs : b.text ++ b.lead ++ tail = s) (hlast : ∀ c ∈ s.getLast?, isBreak c = false) : s = [] := by
  subst hs
  rcases List.eq_nil_or_concat' tail with rfl | ⟨tail, e, rfl⟩
  · rcases h.lead with ⟨htext, hlead⟩ | ⟨e, hlead, he⟩
    · simp [htext, hlead]
    · rw [hlast e (by simp [hlead])] at he
      cases he
  · have he := htail e (by simp)
    rw [hlast e (by simp)] at he
    cases he

/-- Behind a character that is no line end comes the line end of that line and nothing else. -/
theorem BlockLines.Apart.eq_of_concat {b : BlockLines} {e : Char} (h : b.Apart) (ht : t ≠ [])
    (hlast : ∀ c ∈ t.getLast?, isBreak c = false) (hb : b.text ++ b.lead ++ b.trailing = t ++ [e]) :
    b.text = t ∧ b.lead = [e] := by
  rcases List.eq_nil_or_concat' b.trailing with hnone | ⟨tail, e', htail⟩
  · rw [hnone, List.append_nil] at hb
    rcases h.lead with ⟨htext, hlead⟩ | ⟨e', hlead, _⟩
    · simp [htext, hlead] at hb
    · rw [hlead] at hb ⊢
      exact List.append_inj' hb rfl
  · rw [htail, ← List.append_assoc] at hb
    have hbreaks : ∀ c ∈ tail, isBreak c := fun c hc => h.trailing c (by simp [htail, hc])
    exact absurd (h.eq_nil hbreaks (List.append_inj' hb rfl).1 hlast) ht

/-- What the writer's header keeps of the line ends makes the text whole again. -/
theorem text_chompOf {b : BlockLines} (h : b.Apart) (hs : s ≠ [])
    (hb : b.text ++ b.lead ++ b.trailing = ended s) :
    b.text ++ (chompOf s).tail b = s := by
  obtain ⟨t, last, rfl⟩ : ∃ t last, s = t ++ [last] := (List.eq_nil_or_concat' s).resolve_left hs
  rw [chompOf, List.reverse_append, List.reverse_singleton, List.singleton_append]
  cases hlast : isBreak last with
  | false =>
    rw [ended_concat, hlast, if_neg (by decide)] at hb
    obtain ⟨htext, _⟩ := h.eq_of_concat hs (by simp [hlast]) hb
    simp [hlast, Chomp.tail, htext]
  | true =>
    rw [ended_concat, hlast, if_pos rfl] at hb
    rcases List.eq_nil_or_concat' t with rfl | ⟨t, c, rfl⟩
    · simpa [hlast, Chomp.tail] using hb
    · cases hc : isBreak c with
      | true => simpa [hlast, hc, Chomp.tail] using hb
      | false =>
        obtain ⟨htext, hlead⟩ := h.eq_of_concat (by simp) (by simp [hc]) hb
        simp [hlast, hc, Chomp.tail, htext, hlead]

theorem readBlockHeader_written (start m : Mark) (s t : Text) :
    readBlockHeader start ⟨m, (if startsBlank s then ['2'] else []) ++ (chompOf s).mark ++ '\n' :: t⟩ =
      .ok (if startsBlank s then some 2 else none, chompOf s,
        ⟨m.advance ((if startsBlank s then ['2'] else []) ++ (chompOf s).mark), '\n' :: t⟩) := by
  cases startsBlank s <;> cases chompOf s <;> rfl

/-- A first line that shows its indentation. -/
theorem exists_of_startsBlank (hs : s ≠ []) (h : startsBlank s = false) (indent : Text) :
    ∃ c ∈ s, ∃ t, c ≠ ' ' ∧ isBreak c = false ∧ indentLines indent true (ended s) = indent ++ c :: t := by
  obtain ⟨c, s, rfl⟩ := List.exists_cons_of_ne_nil hs
  obtain ⟨hc, hbreak⟩ : c ≠ ' ' ∧ isBreak c = false := by simpa [startsBlank] using h
  obtain ⟨t, ht⟩ : ∃ t, ended (c :: s) = c :: t := by
    rw [ended]
    split
    · exact ⟨s, rfl⟩
    · exact ⟨s ++ ['\n'], rfl⟩
  refine ⟨c, List.mem_cons_self, indentLines indent false t, hc, hbreak, ?_⟩
  rw [ht, indentLines, if_neg (by simp [hbreak])]
  rfl

/-- The header gives the indentation, or the first line shows it. -/
theorem readBlockBreaks_found {deepest : Nat} {trailing : Text} {rest : Cursor} (hs : s ≠ []) (hshown : ∀ c ∈ s, isShown c)
    (hn : parent < n) (hm : m.column = 0)
    (h : readBlockBreaks start n m (indentLines (List.replicate n ' ') true (ended s) ++ t) = .ok (deepest, trailing, rest)) :
    ∃ deepest', readBlockBreaks start (if startsBlank s then n else 0) m
        (indentLines (List.replicate n ' ') true (ended s) ++ t) = .ok (deepest', trailing, rest) ∧
      (if startsBlank s then n else max (max deepest' (parent + 1)) 1) = n := by
  cases hblank : startsBlank s with
  | true => exact ⟨deepest, h, rfl⟩
  | false =>
    obtain ⟨c, hc, t', hspace, hbreak, hline⟩ := exists_of_startsBlank hs hblank (List.replicate n ' ')
    rw [hline, List.append_assoc, List.cons_append] at h ⊢
    have line {given : Nat} (hgiven : given = n ∨ given = 0) :
        readBlockBreaks start given m (List.replicate n ' ' ++ c :: (t' ++ t)) = _ :=
      readBlockBreaks_line hm hbreak (hshown c hc) hgiven fun h => absurd h hspace
    rw [line (.inl rfl)] at h
    cases h
    refine ⟨n, line (.inr rfl), ?_⟩
    rw [if_neg (by decide)]
    omega

/-- A literal block is read as the text that was written. -/
theorem readBlock_written (hs : s ≠ []) (hshown : ∀ c ∈ s, isShown c) (hk : k < parent + 2) (hword : StartsToken word) :
    readBlock true parent start ⟨m, (if startsBlank s then ['2'] else []) ++ (chompOf s).mark ++ '\n' ::
        (indentLines (List.replicate (parent + 2) ' ') true (ended s) ++ (List.replicate k ' ' ++ word))⟩ =
      .ok (s, ⟨m.advance ((if startsBlank s then ['2'] else []) ++ (chompOf s).mark ++ '\n' ::
        (indentLines (List.replicate (parent + 2) ' ') true (ended s) ++ List.replicate k ' ')), word⟩) := by
  generalize hheader : (if startsBlank s then ['2'] else []) ++ (chompOf s).mark = header
  generalize hwritten : indentLines (List.replicate (parent + 2) ' ') true (ended s) = written
  have hcolumn : ((m.advance header).step '\n').column = 0 := Mark.column_step_break rfl _
  obtain ⟨deepest, trailing, rest, hbreaks, hlength, hlines⟩ := readBlockLines_written start (closed_ended s)
    (isShown_of_mem_ended hshown) hk hword hcolumn
  obtain ⟨b, hb, hapart, htext, hrest⟩ := hlines (rest.rest.length + 1) false [] [] [] (by omega) ⟨by simp, .inl ⟨rfl, rfl⟩⟩
  rw [List.nil_append] at hb
  have hread := readBlockHeader_written start m s (written ++ (List.replicate k ' ' ++ word))
  rw [hheader] at hread
  have hmade := text_chompOf hapart hs (by simpa using htext)
  obtain ⟨deepest', hfound, hindent⟩ := readBlockBreaks_found hs hshown (show parent < parent + 2 by omega) hcolumn hbreaks
  rw [hwritten] at hfound hrest
  have hskip : (Cursor.mk (m.advance header) ('\n' :: (written ++ (List.replicate k ' ' ++ word)))).skipWhile isSpace =
      ⟨m.advance header, '\n' :: (written ++ (List.replicate k ' ' ++ word))⟩ := rfl
  have hnext : (Cursor.mk (m.advance header) ('\n' :: (written ++ (List.replicate k ' ' ++ word)))).skip 1 =
      ⟨(m.advance header).step '\n', written ++ (List.replicate k ' ' ++ word)⟩ := rfl
  rw [readBlock, hread]
  simp only [hskip, List.head?_cons, Option.some.injEq, show ('\n' = '#') = False by decide, if_false, Cursor.atLineEnd,
    show isBreak '\n' from rfl, Bool.not_true, Bool.false_eq_true, hnext]
  cases hblank : startsBlank s with
  | true =>
    simp only [hblank, if_true, Int.toNat_natCast] at hfound hindent ⊢
    rw [hfound]
    dsimp only
    rw [if_pos (by omega), hb]
    dsimp only
    rw [hmade, hrest, Mark.advance_append m header]
    rfl
  | false =>
    simp only [hblank, Bool.false_eq_true, if_false] at hfound hindent ⊢
    rw [hfound]
    dsimp only
    rw [if_neg (by simp), show ((parent : Int) + 1).toNat = parent + 1 by omega, hindent, hb]
    dsimp only
    rw [hmade, hrest, Mark.advance_append m header]
    rfl

end WrapShell.Yaml
