import WrapShell.Proofs.Yaml.Write
/-!
# Reading what stands between quotes

A text that the writer puts between quotes is read back as it was, up to the closing quote
(`readDoubleQuoted_written`, `readSingleQuoted_written`). The mark that comes with it is the one
behind everything that was read.
-/

namespace WrapShell.Yaml

variable {start m : Mark} {gap : Gap} {c : Char} {s t w r indent : Text} {fuel : Nat} {fresh : Bool}

/-! ## Double quotes -/

theorem charOfCode?_toNat (c : Char) : charOfCode? c.toNat = some c := by
  have h : c.toNat.isValidChar := c.valid
  rw [charOfCode?, dif_pos h]
  rfl

/-- A space is held back until the next word comes. -/
theorem readDoubleQuoted_space :
    readDoubleQuoted start (fuel + 1) m gap (' ' :: t) = readDoubleQuoted start fuel (m.step ' ') (gap.add ' ') t := by
  rw [readDoubleQuoted.eq_def]
  exact if_pos (by decide)

/-- Any other character is read from each of its written forms. -/
theorem readDoubleQuoted_escapedAs (hm : 0 < m.column) (hc : c ≠ ' ') (h : EscapedAs c w) :
    readDoubleQuoted start (fuel + 1) m gap (w ++ t) =
      (readDoubleQuoted start fuel (m.advance w) .none t).map fun (s, rest) => (gap.fold ++ c :: s, rest) := by
  have slash : (isSpace '\\' || isBreak '\\') = false := by decide
  cases h with
  | self hshown hbreak hquote hslash =>
    have hspace : isSpace c = false := by rw [isSpace_of_isShown hshown, beq_eq_false_iff_ne]; exact hc
    rw [List.singleton_append, readDoubleQuoted.eq_def]
    dsimp only
    rw [if_neg (by simp [hspace, hbreak]),
      if_neg (by simp [Cursor.atDocumentMark_inside hm]), if_neg hquote, if_neg hslash]
    rfl
  | letter e he hbreak =>
    rw [List.cons_append, readDoubleQuoted.eq_def]
    dsimp only
    rw [if_neg (by simp [slash]),
      if_neg (by simp [Cursor.atDocumentMark_inside hm]), if_neg (by decide), if_pos rfl]
    simp only [List.cons_append, List.nil_append, hbreak, Bool.false_eq_true, if_false, he]
    rfl
  | code e digits he hvalue =>
    obtain ⟨hsimple, hbreak, _⟩ := simpleEscape?_of_codeLength? he
    rw [List.cons_append, readDoubleQuoted.eq_def]
    dsimp only
    rw [if_neg (by simp [slash]),
      if_neg (by simp [Cursor.atDocumentMark_inside hm]), if_neg (by decide), if_pos rfl]
    simp only [List.cons_append, hbreak, Bool.false_eq_true, if_false, hsimple, he, List.take_left', List.drop_left',
      if_true, hvalue, charOfCode?_toNat, Mark.advance_cons]

theorem readDoubleQuoted_written (hm : 0 < m.column) (hfuel : s.length < fuel) (blanks : Text) :
    readDoubleQuoted start fuel m ⟨blanks, none, []⟩ (s.flatMap escapeChar ++ '"' :: r) =
      .ok (blanks ++ s, ⟨m.advance (s.flatMap escapeChar ++ ['"']), r⟩) := by
  induction s generalizing m blanks fuel with
  | nil =>
    obtain ⟨fuel, rfl⟩ : ∃ n, fuel = n + 1 := Nat.exists_eq_succ_of_ne_zero (by omega)
    rw [List.flatMap_nil, List.nil_append, readDoubleQuoted.eq_def]
    dsimp only
    rw [if_neg (by decide),
      if_neg (by simp [Cursor.atDocumentMark_inside hm]), if_pos rfl, List.append_nil]
    rfl
  | cons c s ih =>
    obtain ⟨fuel, rfl⟩ : ∃ n, fuel = n + 1 := Nat.exists_eq_succ_of_ne_zero (by omega)
    have hlength : s.length < fuel := Nat.lt_of_succ_lt_succ hfuel
    have hinside : 0 < (m.advance (escapeChar c)).column := by
      rw [Mark.column_advance fun d hd => (mem_of_escapedAs (escapedAs_escapeChar c) d hd).2]
      omega
    rw [List.flatMap_cons, List.append_assoc]
    by_cases hc : c = ' '
    · subst hc
      have hspace : escapeChar ' ' = [' '] := by decide
      rw [hspace] at hinside ⊢
      rw [List.singleton_append, readDoubleQuoted_space]
      refine (ih hinside hlength (blanks ++ [' '])).trans ?_
      simp
    · rw [readDoubleQuoted_escapedAs hm hc (escapedAs_escapeChar c)]
      have hrest : readDoubleQuoted start fuel (m.advance (escapeChar c)) .none (s.flatMap escapeChar ++ '"' :: r) = _ :=
        ih hinside hlength []
      rw [hrest]
      simp [Except.map, Gap.fold]

/-! ## Single quotes -/

/-- What can be held back in front of the rest of a text: spaces, or line ends of which none is
a newline. `fresh` tells a line start. -/
inductive Gap.Before (s : Text) : (fresh : Bool) → Gap → Prop where
  | blanks (blanks : Text) (h : blanks ≠ [] → ∀ c ∈ s.head?, isBreak c = false) : Before s false ⟨blanks, .none, []⟩
  | breaks (b : Char) (more : Text) (hb : b ≠ '\n') (h : s.head? ≠ some ' ') : Before s true ⟨[], some [b], more⟩

/-- The gap is gone behind a word. -/
theorem Gap.Before.none (s : Text) : Gap.Before s false .none := .blanks [] fun h => absurd rfl h

theorem Gap.fold_breaks {b : Char} (hb : b ≠ '\n') (more : Text) : Gap.fold ⟨[], some [b], more⟩ = b :: more := by
  simp [fold, hb]

/-- A space is held back too. It stands at no line start. -/
theorem Gap.Before.space (h : Gap.Before (' ' :: s) fresh gap) (hnext : ∀ c ∈ s.head?, isBreak c = false) :
    fresh = false ∧ Gap.Before s false (gap.add ' ') ∧ (gap.add ' ').fold = gap.fold ++ [' '] := by
  cases h with
  | blanks blanks => exact ⟨rfl, .blanks (blanks ++ [' ']) fun _ => hnext, rfl⟩
  | breaks b more hb h => exact absurd rfl h

/-- A line end is held back too. It has no space in front of it. -/
theorem Gap.Before.lineEnd (h : Gap.Before (c :: s) fresh gap) (hbreak : isBreak c) (hshown : isShown c)
    (hnewline : c ≠ '\n') (hnext : s.head? ≠ some ' ') :
    Gap.Before s true (gap.add c) ∧ (gap.add c).fold = gap.fold ++ [c] := by
  have hend := lineEnd_of_isShown hshown
  cases h with
  | blanks blanks h =>
    have hnone : blanks = [] := by
      by_contra hne
      rw [h hne c rfl] at hbreak
      cases hbreak
    subst hnone
    have hadd : Gap.add ⟨[], .none, []⟩ c = ⟨[], some [c], []⟩ := by simp [add, hbreak, hend]
    rw [hadd, fold_breaks hnewline]
    exact ⟨.breaks c [] hnewline hnext, rfl⟩
  | breaks b more hb =>
    have hadd : Gap.add ⟨[], some [b], more⟩ c = ⟨[], some [b], more ++ [c]⟩ := by simp [add, hbreak, hend]
    rw [hadd, fold_breaks hb, fold_breaks hb]
    exact ⟨.breaks b (more ++ [c]) hb hnext, rfl⟩

theorem Gap.Before.hasBreak (h : Gap.Before s true gap) : gap.hasBreak := by
  cases h
  rfl

/-- Spaces at the start of a line count for nothing. -/
theorem readSingleQuoted_indent (hgap : gap.hasBreak) (hindent : ∀ c ∈ indent, c = ' ') :
    readSingleQuoted start m gap (indent ++ t) = readSingleQuoted start (m.advance indent) gap t := by
  induction indent generalizing m with
  | nil => rfl
  | cons c indent ih =>
    obtain rfl : c = ' ' := hindent c List.mem_cons_self
    have hadd : gap.add ' ' = gap := by
      rw [Gap.add, if_neg (by decide)]
      exact if_pos hgap
    rw [List.cons_append, readSingleQuoted.eq_def]
    dsimp only
    rw [if_pos (by decide), hadd, ih fun d hd => hindent d (List.mem_cons_of_mem _ hd)]
    rfl

/-- A character that is neither space nor line end, written twice if it is a quote. -/
theorem readSingleQuoted_char (hm : 0 < m.column) (hspace : isSpace c = false) (hbreak : isBreak c = false) :
    readSingleQuoted start m gap (doubleQuotes [c] ++ t) =
      (readSingleQuoted start (m.advance (doubleQuotes [c])) .none t).map fun (s, rest) => (gap.fold ++ c :: s, rest) := by
  by_cases hc : c = '\''
  · subst hc
    change readSingleQuoted start m gap ('\'' :: '\'' :: t) = _
    rw [readSingleQuoted.eq_def]
    dsimp only
    rw [if_neg (by decide), if_neg (by simp [Cursor.atDocumentMark_inside hm]), if_pos rfl]
    rfl
  · have hw : doubleQuotes [c] = [c] := by simp [doubleQuotes, hc]
    rw [hw, List.singleton_append, readSingleQuoted.eq_def]
    dsimp only
    rw [if_neg (by simp [hspace, hbreak]),
      if_neg (by simp [Cursor.atDocumentMark_inside hm]), if_neg hc]
    rfl

theorem indentLines_break (h : isBreak c) :
    indentLines indent fresh (doubleQuotes (c :: s)) = c :: indentLines indent true (doubleQuotes s) := by
  have hc : c ≠ '\'' := by
    rintro rfl
    cases h
  simp [doubleQuotes, hc, indentLines, h]

theorem indentLines_char (h : isBreak c = false) :
    indentLines indent fresh (doubleQuotes (c :: s)) =
      (if fresh then indent else []) ++ (doubleQuotes [c] ++ indentLines indent false (doubleQuotes s)) := by
  by_cases hc : c = '\''
  · subst hc
    simp [doubleQuotes, indentLines, h]
  · simp [doubleQuotes, hc, indentLines, h]

/-- What is written of a text between single quotes, from a place on where a line is `fresh` or
not, up to the quote. -/
def singleQuotedBody (indent : Text) (fresh : Bool) (s : Text) : Text :=
  indentLines indent fresh (doubleQuotes s) ++ if (s.getLast?.map isBreak).getD fresh then indent else []

theorem singleQuotedBody_break (h : isBreak c) :
    singleQuotedBody indent fresh (c :: s) = c :: singleQuotedBody indent true s := by
  rw [singleQuotedBody, indentLines_break h, List.getLast?_cons]
  cases hs : s.getLast? <;> simp [singleQuotedBody, hs, h]

theorem singleQuotedBody_char (h : isBreak c = false) :
    singleQuotedBody indent fresh (c :: s) =
      (if fresh then indent else []) ++ (doubleQuotes [c] ++ singleQuotedBody indent false s) := by
  rw [singleQuotedBody, indentLines_char h, List.getLast?_cons]
  cases hs : s.getLast? <;> simp [singleQuotedBody, hs, h]

/-- A blank is held back. -/
theorem readSingleQuoted_blank (h : isSpace c || isBreak c) :
    readSingleQuoted start m gap (c :: t) = readSingleQuoted start (m.step c) (gap.add c) t := by
  rw [readSingleQuoted.eq_def]
  exact if_pos h

theorem readSingleQuoted_close (hm : 0 < m.column) (hr : r.head? ≠ some '\'') :
    readSingleQuoted start m gap ('\'' :: r) = .ok (gap.fold, ⟨m.step '\'', r⟩) := by
  rw [readSingleQuoted.eq_def]
  dsimp only
  rw [if_neg (by decide), if_neg (by simp [Cursor.atDocumentMark_inside hm]), if_pos rfl]
  split
  · exact absurd rfl hr
  · rfl

/-- A word starts behind the indentation of its line. -/
theorem readSingleQuoted_lineStart (start : Mark) (hindent : ∀ c ∈ indent, c = ' ') (hne : indent ≠ [])
    (hbefore : Gap.Before s fresh gap) (hm : fresh = false → 0 < m.column) :
    0 < (m.advance (if fresh then indent else [])).column ∧
      ∀ t, readSingleQuoted start m gap ((if fresh then indent else []) ++ t) =
        readSingleQuoted start (m.advance (if fresh then indent else [])) gap t := by
  cases fresh with
  | false => exact ⟨hm rfl, fun _ => rfl⟩
  | true =>
    refine ⟨?_, fun t => readSingleQuoted_indent hbefore.hasBreak hindent⟩
    have hspaces : ∀ c ∈ indent, isBreak c = false := fun c hc => by rw [hindent c hc]; decide
    have := List.length_pos_iff.2 hne
    rw [if_pos rfl, Mark.column_advance hspaces]
    omega

/-- By induction on the text: what is held back in front of it and the text are read together. -/
theorem readSingleQuoted_written (hindent : ∀ c ∈ indent, c = ' ') (hne : indent ≠ []) (hnewline : '\n' ∉ s)
    (hshown : ∀ c ∈ s, isShown c) (hends : s.IsChain fun a b => a = ' ' → isBreak b = false)
    (hstarts : s.IsChain fun a b => isBreak a → b ≠ ' ') (hbefore : Gap.Before s fresh gap)
    (hm : fresh = false → 0 < m.column) (hr : r.head? ≠ some '\'') :
    readSingleQuoted start m gap (singleQuotedBody indent fresh s ++ '\'' :: r) =
      .ok (gap.fold ++ s, ⟨m.advance (singleQuotedBody indent fresh s ++ ['\'']), r⟩) := by
  induction s generalizing m gap fresh with
  | nil =>
    obtain ⟨hcolumn, hskip⟩ := readSingleQuoted_lineStart start hindent hne hbefore hm
    have hbody : singleQuotedBody indent fresh [] = if fresh then indent else [] := rfl
    rw [hbody, hskip, readSingleQuoted_close hcolumn hr, List.append_nil, Mark.advance_append]
    rfl
  | cons c s ih =>
    obtain ⟨hend, hends'⟩ := List.isChain_cons.1 hends
    obtain ⟨hstart, hstarts'⟩ := List.isChain_cons.1 hstarts
    have hc : isShown c := hshown c List.mem_cons_self
    have rest {m : Mark} {gap : Gap} {fresh : Bool} (hbefore : Gap.Before s fresh gap) (hm : fresh = false → 0 < m.column) :
        readSingleQuoted start m gap (singleQuotedBody indent fresh s ++ '\'' :: r) =
          .ok (gap.fold ++ s, ⟨m.advance (singleQuotedBody indent fresh s ++ ['\'']), r⟩) :=
      ih (fun h => hnewline (List.mem_cons_of_mem c h)) (fun d hd => hshown d (List.mem_cons_of_mem c hd)) hends' hstarts'
        hbefore hm
    cases hbreak : isBreak c with
    | true =>
      have hnext : s.head? ≠ some ' ' := fun h => hstart ' ' h hbreak rfl
      have hcn : c ≠ '\n' := fun h => hnewline (h ▸ List.mem_cons_self)
      obtain ⟨hheld, hfold⟩ := hbefore.lineEnd hbreak hc hcn hnext
      rw [singleQuotedBody_break hbreak, List.cons_append, readSingleQuoted_blank (by simp [hbreak]),
        rest hheld (fun h => by cases h), hfold, List.append_assoc]
      rfl
    | false =>
      by_cases hspace : c = ' '
      · subst hspace
        obtain ⟨rfl, hheld, hfold⟩ := hbefore.space fun d hd => hend d hd rfl
        have hcolumn : 0 < (m.step ' ').column := by
          rw [Mark.column_step hbreak]
          omega
        have hbody : singleQuotedBody indent false (' ' :: s) = ' ' :: singleQuotedBody indent false s :=
          singleQuotedBody_char hbreak
        rw [hbody, List.cons_append, readSingleQuoted_blank (by decide), rest hheld (fun _ => hcolumn), hfold,
          List.append_assoc]
        rfl
      · have hblank : isSpace c = false := by rw [isSpace_of_isShown hc, beq_eq_false_iff_ne]; exact hspace
        obtain ⟨hcolumn, hskip⟩ := readSingleQuoted_lineStart start hindent hne hbefore hm
        have hinside : 0 < ((m.advance (if fresh then indent else [])).advance (doubleQuotes [c])).column := by
          rw [Mark.column_advance]
          · omega
          · intro d hd
            have hd : d = '\'' ∨ d = c := by
              simp only [doubleQuotes, List.flatMap_cons, List.flatMap_nil, List.append_nil] at hd
              split at hd <;> simp_all
            rcases hd with rfl | rfl
            · decide
            · exact hbreak
        rw [singleQuotedBody_char hbreak, List.append_assoc, hskip, List.append_assoc,
          readSingleQuoted_char hcolumn hblank hbreak, rest (.none s) (fun _ => hinside)]
        simp [Except.map, Gap.fold, Gap.none]

end WrapShell.Yaml
