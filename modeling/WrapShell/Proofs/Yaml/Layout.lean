import WrapShell.Proofs.Yaml.Block
import WrapShell.Proofs.Yaml.Quoted
/-!
# The tokens of a sequence of mappings

Outside flow collections and with no possible key, a layout is known by its tokens, the columns
of its block collections and the word that comes next (`Layout.At`). From there, what one token
does to it is computed (`At.advance`): an entry of a sequence opens, a field is named, a value is
read in whatever style it is written, and the collections close at the end.
-/

namespace WrapShell.Yaml

namespace Layout

variable {l : Layout} {kinds : List TokenKind} {indent : Int} {outer : List Int} {allowed : Bool} {column k : Nat}
  {c : Char} {s t word : Text} {m : Mark} {tokens : List Token}

/-! ## Between two tokens -/

theorem skipVoid_spaces (fuel : Nat) (m : Mark) (allowed : Bool) (k : Nat) (hword : StartsToken word) :
    skipVoid false (fuel + 1) ⟨m, List.replicate k ' ' ++ word⟩ allowed =
      (⟨m.advance (List.replicate k ' '), word⟩, allowed) := by
  have hmark : (List.replicate k ' ' ++ word).head? ≠ some '\ufeff' := by
    cases k with
    | zero => exact fun h => (hword _ h).2.2.2 rfl
    | succ k => simp [List.replicate_succ]
  have hskip : (Cursor.mk m (List.replicate k ' ' ++ word)).skipWhile
      (fun x => x == ' ' || ((false || !allowed) && x == '\t')) = ⟨m.advance (List.replicate k ' '), word⟩ := by
    rw [Cursor.skipWhile, Cursor.span_append]
    · intro c hc
      rw [List.eq_of_mem_replicate hc]
      rfl
    · intro c hc
      obtain ⟨hspace, htab⟩ : c ≠ ' ' ∧ c ≠ '\t' := by simpa [isSpace] using (hword c hc).1
      simp [hspace, htab]
  rw [skipVoid]
  simp only [hmark, decide_false, Bool.and_false, Bool.false_eq_true, if_false, hskip]
  cases word with
  | nil => rfl
  | cons c word =>
    obtain ⟨_, hbreak, hcomment, _⟩ := hword c rfl
    simp [hcomment, hbreak]

theorem skipVoid_word (fuel : Nat) (m : Mark) (allowed : Bool) (hword : StartsToken word) :
    skipVoid false (fuel + 1) ⟨m, word⟩ allowed = (⟨m, word⟩, allowed) :=
  skipVoid_spaces fuel m allowed 0 hword

theorem skipVoid_newLine (fuel : Nat) (m : Mark) (allowed : Bool) (k : Nat) (hword : StartsToken word) :
    skipVoid false (fuel + 2) ⟨m, newLine k ++ word⟩ allowed = (⟨m.advance (newLine k), word⟩, true) := by
  have hskip : (Cursor.mk m (newLine k ++ word)).skipWhile (fun x => x == ' ' || ((false || !allowed) && x == '\t')) =
      ⟨m, newLine k ++ word⟩ := by
    simp [Cursor.skipWhile, Cursor.span, newLine]
  rw [skipVoid]
  have hnext := skipVoid_spaces fuel (m.step '\n') (allowed || !false) k hword
  simp only [newLine, List.cons_append, List.head?_cons, Option.some.injEq, Char.reduceEq, decide_false, Bool.and_false,
    Bool.false_eq_true, if_false] at hskip ⊢
  rw [hskip]
  simp only [List.head?_cons, Option.some.injEq, Char.reduceEq, if_false, show isBreak '\n' from rfl, if_true]
  exact hnext.trans (by simp)

/-- One token further: what is held is handed on, and the next token is fetched. -/
theorem run_of_fetch {l' l₁ : Layout} (hrelease : l.release = .ok l₁) (hend : .streamEnd ∉ l₁.done.map Token.kind)
    (hfetch : l₁.fetch = .ok l') (fuel : Nat) : run (fuel + 1) l = run fuel l' := by
  rw [run, hrelease]
  dsimp only
  split
  · next hdone =>
    rw [hdone] at hend
    exact absurd List.mem_cons_self hend
  · rw [hfetch]

/-- A layout outside flow collections and with no possible key, of which the next token starts
with `word` in `column`. -/
structure At (l : Layout) (kinds : List TokenKind) (indent : Int) (outer : List Int) (allowed : Bool) (column : Nat)
    (word : Text) : Prop where
  kinds : (l.done.reverse ++ l.held).map Token.kind = kinds
  keys : l.keys = [none]
  indent : l.indent = indent
  outer : l.outer = outer
  settled : ∃ m, m.column = column ∧
    skipVoid false (l.cursor.rest.length + 1) l.cursor l.keyAllowed = (⟨m, word⟩, allowed)

/-- The layout in which the next token is read: all tokens so far are handed on. -/
def ready (m : Mark) (tokens : List Token) (indent : Int) (outer : List Int) (allowed : Bool) (word : Text) : Layout :=
  ⟨⟨m, word⟩, tokens.reverse, [], [none], allowed, indent, outer⟩

theorem At.advance {P : Layout → Prop} (h : l.At kinds indent outer allowed column word) (hend : .streamEnd ∉ kinds)
    (hfetch : ∀ m tokens, m.column = column → tokens.map Token.kind = kinds →
      ∃ l', (ready m tokens indent outer allowed word).fetchHere = .ok l' ∧ P l') :
    ∃ l', (∀ fuel, run (fuel + 1) l = run fuel l') ∧ P l' := by
  obtain ⟨cursor, done, held, keys, keyAllowed, indent, outer⟩ := l
  obtain ⟨hkinds, rfl, rfl, rfl, m, hm, hsettled⟩ := h
  obtain ⟨l', hl', hP⟩ := hfetch m (done.reverse ++ held) hm hkinds
  have hrelease : release ⟨cursor, done, held, [none], keyAllowed, indent, outer⟩ =
      .ok ⟨cursor, (done.reverse ++ held).reverse, [], [none], keyAllowed, indent, outer⟩ := by
    rw [release]
    split
    · next hheld =>
      dsimp only at hheld
      simp [hheld]
    · simp [dropStale, count]
  have hfetched : fetch ⟨cursor, (done.reverse ++ held).reverse, [], [none], keyAllowed, indent, outer⟩ = .ok l' := by
    rw [fetch, settle, ← hl', ready]
    simp only [inFlow, flowLevel, List.length_singleton, Nat.sub_self, Nat.lt_irrefl, decide_false]
    rw [hsettled]
  refine ⟨l', run_of_fetch hrelease ?_ hfetched, hP⟩
  rw [List.map_reverse, List.mem_reverse, hkinds]
  exact hend

/-! ## One token -/

theorem align_ready (h : indent ≤ m.column) :
    (ready m tokens indent outer allowed word).align = .ok (ready m tokens indent outer allowed word) := by
  have hcolumn : ¬(m.column : Int) < indent := by omega
  cases outer <;> simp [align, dropStale, Except.map, closeBlocks, closeBlocks.go, inFlow, flowLevel, ready, mark, hcolumn]

theorem fetchHere_ready (h : indent ≤ m.column) :
    (ready m tokens indent outer allowed (c :: t)).fetchHere = (ready m tokens indent outer allowed (c :: t)).fetchAt c := by
  rw [fetchHere, align_ready h]
  rfl

/-- An entry of a sequence that opens here, or in front of which a mapping ends. -/
theorem At.entry {kind : TokenKind} (hopen : indent = -1 ∧ outer = [] ∧ kind = .blockSequenceStart ∨
      indent = 2 ∧ outer = [0, -1] ∧ kind = .blockEnd)
    (h : l.At kinds indent outer true 0 ('-' :: ' ' :: word)) (hend : .streamEnd ∉ kinds) (hword : StartsToken word) :
    ∃ l', (∀ fuel, run (fuel + 1) l = run fuel l') ∧ l'.At (kinds ++ [kind, .blockEntry]) 0 [-1] true 2 word := by
  refine h.advance hend fun m tokens hm hkinds => ?_
  have hmark : (Cursor.mk m ('-' :: ' ' :: word)).atDocumentMark = false := by simp [Cursor.atDocumentMark]
  have hblank : (Cursor.mk m ('-' :: ' ' :: word)).blankAt 1 = true := rfl
  refine ⟨⟨⟨m.step '-', ' ' :: word⟩, tokens.reverse, [⟨kind, m, m⟩, ⟨.blockEntry, m, m.step '-'⟩], [none], true, 0, [-1]⟩,
    ?_, ?_, rfl, rfl, rfl, m.advance ['-', ' '], ?_, skipVoid_spaces _ _ true 1 hword⟩
  · rcases hopen with ⟨rfl, rfl, rfl⟩ | ⟨rfl, rfl, rfl⟩ <;>
      simp [fetchHere, align, dropStale, Except.map, closeBlocks, closeBlocks.go, inFlow, flowLevel, ready, mark, hm,
        fetchAt, hmark, hblank, blockIndicator, openBlock, insertAt, count, dropKey, take, push, Cursor.skip]
  · simp [hkinds]
  · have hline : ∀ c ∈ ['-', ' '], isBreak c = false := by simp [isBreak]
    rw [Mark.column_advance hline, hm]
    rfl

/-- Whatever starts like a text that is written without quotes is a plain scalar. -/
theorem fetchAt_plain (hspace : isSpace c = false) (hbreak : isBreak c = false) (hstart : startsIndicator (c :: s) = false)
    (hm : 0 < m.column) (r : Text) :
    (ready m tokens indent outer allowed (c :: (s ++ r))).fetchAt c =
      (ready m tokens indent outer allowed (c :: (s ++ r))).fetchPlain := by
  obtain ⟨hspecial, hgap⟩ := startsIndicator_eq_false hstart
  have other (x : Char) (hx : x ∈ specialStarts) : c ≠ x := fun h => hspecial (h ▸ hx)
  have hmark := Cursor.atDocumentMark_inside hm (c :: (s ++ r))
  have hblank (h : c ∈ ['?', ':', '-']) : (Cursor.mk m (c :: (s ++ r))).blankAt 1 = false := by
    obtain ⟨d, hd, hdspace, hdbreak⟩ := hgap h
    obtain ⟨s, rfl⟩ := List.head?_eq_some_iff.1 hd
    simp [Cursor.blankAt, hdspace, hdbreak]
  have before (x : Char) (hx : x ∈ ['?', ':', '-']) :
      ¬(decide (c = x) && (Cursor.mk m (c :: (s ++ r))).blankAt 1) = true := by
    by_cases h : c = x
    · simp [hblank (h ▸ hx)]
    · simp [h]
  have hmarked : ¬['*', '&', '!', '\'', '"'].contains c = true := by
    rw [List.contains_iff_mem]
    intro h
    exact hspecial ((by decide : ['*', '&', '!', '\'', '"'] ⊆ specialStarts) h)
  have hplain : (!(isSpace c || isBreak c || indicators.contains c) ||
      (decide (c = '-') && !(Cursor.mk m (c :: (s ++ r))).blankAt 1) ||
      ((decide (c = '?') || decide (c = ':')) && !(Cursor.mk m (c :: (s ++ r))).blankAt 1)) = true := by
    by_cases h : c ∈ ['?', ':', '-']
    · rw [hblank h]
      rcases List.mem_cons.1 h with rfl | h
      · simp
      · rcases List.mem_cons.1 h with rfl | h
        · simp
        · simp [List.mem_singleton.1 h]
    · have hnone : indicators.contains c = false := by
        rw [Bool.eq_false_iff, ne_eq, List.contains_iff_mem]
        intro hc
        exact (List.mem_append.1 ((by decide : indicators ⊆ ['?', ':', '-'] ++ specialStarts) hc)).elim h hspecial
      rw [hspace, hbreak, hnone]
      rfl
  rw [fetchAt]
  dsimp only [ready]
  simp only [hmark, inFlow, flowLevel, List.length_singleton, Nat.sub_self, Nat.lt_irrefl, decide_false, Bool.false_or,
    Bool.not_false, Bool.and_true, Bool.true_and]
  rw [if_neg (by simp [Nat.ne_of_gt hm]), if_neg (by decide), if_neg (other '[' (by decide)),
    if_neg (other '\x7b' (by decide)), if_neg (other ']' (by decide)), if_neg (other '\x7d' (by decide)),
    if_neg (other ',' (by decide)), if_neg (before '-' (by decide)), if_neg (before '?' (by decide)),
    if_neg (before ':' (by decide)), if_neg (by simp [other '|' (by decide), other '>' (by decide)]), if_neg hmarked,
    if_pos hplain]

theorem fetchPlain_ready {p : PlainStop} (hp : readPlain m false (indent + 1).toNat m .none word = .ok p) :
    (ready m tokens indent outer allowed word).fetchPlain =
      .ok ⟨p.rest, tokens.reverse, [⟨.scalar p.text .plain, m, p.rest.mark⟩],
        [if allowed then some ⟨indent == m.column, tokens.length, m⟩ else none], p.newLine, indent, outer⟩ := by
  cases allowed <;> simp [fetchPlain, saveKey, dropKey, ready, inFlow, flowLevel, mark, count, push, hp]

/-! ## Values -/

/-- The indentation of the lines of a value in a field of an entry. -/
abbrev valueIndent : Text := List.replicate 4 ' '

theorem fetchHere_plain (hstyle : styleOf s = .plain) (hm : 2 < m.column) (hk : k ≤ 2) (hword : StartsToken word) :
    (ready m tokens 2 outer false (s ++ (newLine k ++ word))).fetchHere =
      .ok ⟨⟨m.advance (s ++ newLine k), word⟩, tokens.reverse, [⟨.scalar s .plain, m, m.advance (s ++ newLine k)⟩], [none],
        true, 2, outer⟩ := by
  obtain ⟨hne, hshown, hhead, _, hstart, _⟩ := styleOf_eq_plain hstyle
  obtain ⟨c, s, rfl⟩ := List.exists_cons_of_ne_nil hne
  obtain ⟨hc, hbreak⟩ := hshown c List.mem_cons_self
  have hspace : isSpace c = false := by
    rw [isSpace_of_isShown hc, beq_eq_false_iff_ne]
    rintro rfl
    exact hhead rfl
  have hread : readPlain m false 3 m .none _ = _ :=
    readPlain_written (isPlainLine_of_styleOf hstyle) (by omega) (show 3 ≤ m.column by omega) (show k < 3 by omega) hword []
      fun h => absurd rfl h
  rw [List.cons_append, fetchHere_ready (by omega), fetchAt_plain hspace hbreak hstart (by omega),
    fetchPlain_ready hread]
  rfl

theorem fetchAt_quote (hc : c = '\'' ∨ c = '"') (hm : 0 < m.column) :
    (ready m tokens indent outer allowed (c :: t)).fetchAt c = (ready m tokens indent outer allowed (c :: t)).fetchMarked c := by
  have hmark := Cursor.atDocumentMark_inside hm (c :: t)
  rcases hc with rfl | rfl <;> simp [fetchAt, ready, hmark]

theorem fetchMarked_double {rest : Cursor} (h : readDoubleQuoted m (t.length + 1) (m.step '"') .none t = .ok (s, rest)) :
    (ready m tokens indent outer false ('"' :: t)).fetchMarked '"' =
      .ok ⟨rest, tokens.reverse, [⟨.scalar s .doubleQuoted, m, rest.mark⟩], [none], false, indent, outer⟩ := by
  simp [fetchMarked, saveKey, ready, Cursor.skip, h, Except.map, give, push, mark]

theorem fetchMarked_single {rest : Cursor} (h : readSingleQuoted m (m.step '\'') .none t = .ok (s, rest)) :
    (ready m tokens indent outer false ('\'' :: t)).fetchMarked '\'' =
      .ok ⟨rest, tokens.reverse, [⟨.scalar s .singleQuoted, m, rest.mark⟩], [none], false, indent, outer⟩ := by
  simp [fetchMarked, saveKey, ready, Cursor.skip, h, Except.map, give, push, mark]

/-- What starts like a literal block outside flow collections is one. -/
theorem fetchAt_literal {rest : Cursor} (hm : 0 < m.column) (h : readBlock true indent m ⟨m.step '|', t⟩ = .ok (s, rest)) :
    (ready m tokens indent outer false ('|' :: t)).fetchAt '|' =
      .ok ⟨rest, tokens.reverse, [⟨.scalar s .literal, m, rest.mark⟩], [none], true, indent, outer⟩ := by
  have hmark := Cursor.atDocumentMark_inside hm ('|' :: t)
  simp [fetchAt, ready, hmark, inFlow, flowLevel, fetchBlock, dropKey, Cursor.skip, h, Except.map, give, push, mark]

theorem fetchHere_doubleQuoted (hm : 2 < m.column) (t : Text) :
    (ready m tokens 2 outer false ('"' :: (s.flatMap escapeChar ++ '"' :: t))).fetchHere =
      .ok ⟨⟨m.advance ('"' :: (s.flatMap escapeChar ++ ['"'])), t⟩, tokens.reverse,
        [⟨.scalar s .doubleQuoted, m, m.advance ('"' :: (s.flatMap escapeChar ++ ['"']))⟩], [none], false, 2, outer⟩ := by
  have hfuel : s.length < (s.flatMap escapeChar ++ '"' :: t).length + 1 := by
    have := length_le_escaped s
    rw [List.length_append]
    omega
  have hstep : 0 < (m.step '"').column := by
    rw [Mark.column_step (by decide)]
    omega
  have hread : readDoubleQuoted m _ (m.step '"') .none (s.flatMap escapeChar ++ '"' :: t) = _ :=
    readDoubleQuoted_written hstep hfuel []
  rw [fetchHere_ready (by omega), fetchAt_quote (.inr rfl) (by omega), fetchMarked_double hread]
  rfl

theorem fetchHere_singleQuoted (hstyle : styleOf s = .singleQuoted) (hm : 2 < m.column) (ht : t.head? ≠ some '\'') :
    (ready m tokens 2 outer false ('\'' :: (singleQuotedBody valueIndent false s ++ '\'' :: t))).fetchHere =
      .ok ⟨⟨m.advance ('\'' :: (singleQuotedBody valueIndent false s ++ ['\''])), t⟩, tokens.reverse,
        [⟨.scalar s .singleQuoted, m, m.advance ('\'' :: (singleQuotedBody valueIndent false s ++ ['\'']))⟩], [none], false,
        2, outer⟩ := by
  obtain ⟨hnewline, hshown, hends, hstarts⟩ := styleOf_eq_singleQuoted hstyle
  have hstep : 0 < (m.step '\'').column := by
    rw [Mark.column_step (by decide)]
    omega
  have hspaces : ∀ c ∈ valueIndent, c = ' ' := fun c hc => List.eq_of_mem_replicate hc
  have hread : readSingleQuoted m (m.step '\'') .none _ = _ :=
    readSingleQuoted_written hspaces (by decide) hnewline hshown hends hstarts (.none s) (fun _ => hstep) ht
  rw [fetchHere_ready (by omega), fetchAt_quote (.inl rfl) (by omega), fetchMarked_single hread]
  rfl

theorem fetchHere_literal (hstyle : styleOf s = .literal) (hm : 2 < m.column) (hk : k ≤ 2) (hword : StartsToken word) :
    let written := blockHeader s ++ '\n' :: (indentLines valueIndent true (ended s) ++ List.replicate k ' ')
    (ready m tokens 2 outer false (blockHeader s ++ '\n' ::
        (indentLines valueIndent true (ended s) ++ (List.replicate k ' ' ++ word)))).fetchHere =
      .ok ⟨⟨m.advance written, word⟩, tokens.reverse, [⟨.scalar s .literal, m, m.advance written⟩], [none], true, 2, outer⟩ := by
  obtain ⟨hnewline, _, hshown, _⟩ := styleOf_eq_literal hstyle
  have hne : s ≠ [] := List.ne_nil_of_mem hnewline
  have hread : readBlock true (2 : Nat) m ⟨m.step '|', _⟩ = _ :=
    readBlock_written hne hshown (show k < 2 + 2 by omega) hword
  dsimp only
  rw [blockHeader, List.cons_append, List.cons_append, fetchHere_ready (by omega)]
  exact fetchAt_literal (by omega) hread

/-- Nothing in front of a value is skipped or taken for more. -/
theorem startsToken_writeString (indent s t : Text) : StartsToken (writeString indent s ++ t) := by
  have first {c : Char} {t : Text} (hc : isSpace c = false ∧ isBreak c = false ∧ c ≠ '#' ∧ c ≠ '\ufeff') :
      StartsToken (c :: t) := by
    rintro d ⟨⟩
    exact hc
  unfold writeString
  cases hstyle : styleOf s with
  | folded => exact absurd hstyle styleOf_ne_folded
  | doubleQuoted => exact first (by decide)
  | singleQuoted => exact first (by decide)
  | literal => exact first (by decide)
  | plain =>
    obtain ⟨hne, hshown, hhead, _, hstart, _⟩ := styleOf_eq_plain hstyle
    obtain ⟨c, s, rfl⟩ := List.exists_cons_of_ne_nil hne
    obtain ⟨hc, hbreak⟩ := hshown c List.mem_cons_self
    refine first ⟨?_, hbreak, ?_, ne_of_isShown hc (by decide)⟩
    · rw [isSpace_of_isShown hc, beq_eq_false_iff_ne]
      rintro rfl
      exact hhead rfl
    · rintro rfl
      exact (startsIndicator_eq_false hstart).1 (by decide)

/-- A value is read back as it was, in whatever style it is written. The next word starts a line. -/
theorem At.value (h : l.At kinds 2 outer false column (writeString valueIndent s ++ (List.replicate k ' ' ++ word)))
    (hend : .streamEnd ∉ kinds) (hcolumn : 2 < column) (hk : k ≤ 2) (hword : StartsToken word) :
    ∃ l', (∀ fuel, run (fuel + 1) l = run fuel l') ∧ l'.At (kinds ++ [.scalar s (styleOf s)]) 2 outer true k word := by
  refine h.advance hend fun m tokens hm hkinds => ?_
  obtain hm : 2 < m.column := hm ▸ hcolumn
  -- Behind a block or a plain scalar the next word is reached already.
  have reached {m' : Mark} (style : Style) (hm' : m'.column = k) :
      At ⟨⟨m', word⟩, tokens.reverse, [⟨.scalar s style, m, m'⟩], [none], true, 2, outer⟩
        (kinds ++ [.scalar s style]) 2 outer true k word :=
    ⟨by simp [hkinds], rfl, rfl, rfl, m', hm', skipVoid_word _ m' true hword⟩
  -- Behind a quote comes the line end first.
  have quoted (m' : Mark) (style : Style) :
      At ⟨⟨m', newLine k ++ word⟩, tokens.reverse, [⟨.scalar s style, m, m'⟩], [none], false, 2, outer⟩
        (kinds ++ [.scalar s style]) 2 outer true k word := by
    refine ⟨by simp [hkinds], rfl, rfl, rfl, m'.advance (newLine k), column_newLine m' k, ?_⟩
    have hlength : (newLine k ++ word).length = (k + word.length) + 1 := by
      rw [newLine, List.cons_append, List.length_cons, List.length_append, List.length_replicate]
    dsimp only
    rw [hlength]
    exact skipVoid_newLine _ m' false k hword
  unfold writeString
  cases hstyle : styleOf s with
  | folded => exact absurd hstyle styleOf_ne_folded
  | plain =>
    have htext : s ++ ['\n'] ++ (List.replicate k ' ' ++ word) = s ++ (newLine k ++ word) := by simp [newLine]
    dsimp only
    rw [htext]
    refine ⟨_, fetchHere_plain hstyle hm hk hword, reached _ ?_⟩
    rw [Mark.advance_append, column_newLine]
  | literal =>
    have htext : blockHeader s ++ '\n' :: indentLines valueIndent true s ++
          (if (s.getLast?.map isBreak).getD false then [] else ['\n']) ++ (List.replicate k ' ' ++ word) =
        blockHeader s ++ '\n' :: (indentLines valueIndent true (ended s) ++ (List.replicate k ' ' ++ word)) := by
      simp [indentLines_ended]
    dsimp only
    rw [htext]
    refine ⟨_, fetchHere_literal hstyle hm hk hword, reached _ ?_⟩
    rw [Mark.advance_append, Mark.advance_cons, Mark.advance_append, column_spaces,
      column_indentLines (closed_ended s) (Mark.column_step_break rfl _), Nat.zero_add]
  | doubleQuoted =>
    have htext : '"' :: s.flatMap escapeChar ++ ['"', '\n'] ++ (List.replicate k ' ' ++ word) =
        '"' :: (s.flatMap escapeChar ++ '"' :: (newLine k ++ word)) := by simp [newLine]
    dsimp only
    rw [htext]
    exact ⟨_, fetchHere_doubleQuoted hm _, quoted _ _⟩
  | singleQuoted =>
    have htext : '\'' :: indentLines valueIndent false (doubleQuotes s) ++
          (if (s.getLast?.map isBreak).getD false then valueIndent else []) ++ ['\'', '\n'] ++
          (List.replicate k ' ' ++ word) =
        '\'' :: (singleQuotedBody valueIndent false s ++ '\'' :: (newLine k ++ word)) := by
      simp [newLine, singleQuotedBody]
    dsimp only
    rw [htext]
    exact ⟨_, fetchHere_singleQuoted hstyle hm (by simp [newLine]), quoted _ _⟩

/-! ## Fields -/

/-- A name that needs no quotes and is a key on its line. -/
structure IsFieldName (name : Text) : Prop where
  ne_nil : name ≠ []
  chars : ∀ c ∈ name, isSpace c = false ∧ isBreak c = false ∧ c ≠ ':'
  start : startsIndicator name = false
  short : Text.utf8Size name ≤ 1024

/-- A name in front of a colon, which can still become a key. -/
def named (m : Mark) (tokens : List Token) (indent : Int) (outer : List Int) (name t : Text) : Layout :=
  ⟨⟨m.advance name, ':' :: ' ' :: t⟩, tokens.reverse, [⟨.scalar name .plain, m, m.advance name⟩],
    [some ⟨indent == m.column, tokens.length, m⟩], false, indent, outer⟩

theorem fetchHere_name {name : Text} (hname : IsFieldName name) (hm : 0 < m.column) (hindent : indent ≤ m.column) :
    (ready m tokens indent outer true (name ++ ':' :: ' ' :: t)).fetchHere = .ok (named m tokens indent outer name t) := by
  obtain ⟨c, name', rfl⟩ := List.exists_cons_of_ne_nil hname.ne_nil
  obtain ⟨hspace, hbreak, _⟩ := hname.chars c List.mem_cons_self
  have hread : readPlain m false (indent + 1).toNat m .none (c :: (name' ++ ':' :: ' ' :: t)) = _ :=
    readPlain_key hname.chars hm
  rw [List.cons_append, fetchHere_ready hindent, fetchAt_plain hspace hbreak hname.start hm, fetchPlain_ready hread]
  rfl

/-- Behind a name that is short enough the key is still possible. -/
theorem dropStale_named {name : Text} (hname : IsFieldName name) (b : Bool) (n : Nat) :
    dropStale (m.advance name) [some ⟨b, n, m⟩] = .ok [some ⟨b, n, m⟩] := by
  obtain ⟨hindex, hline⟩ := Mark.index_advance (fun c hc => (hname.chars c hc).2.1) m
  have hfresh : isStale (m.advance name) ⟨b, n, m⟩ = false := by
    have := hname.short
    simp only [isStale, hline, hindex, Bool.or_eq_false_iff, decide_eq_false_iff_not]
    omega
  simp [dropStale, hfresh]

/-- The colon behind a name is a value indicator. -/
theorem fetch_named {name : Text} (hname : IsFieldName name) (hindent : indent ≤ (m.advance name).column) :
    fetch (named m tokens indent outer name t) = fetchValue (named m tokens indent outer name t) := by
  have hcolon : StartsToken (':' :: ' ' :: t) := by
    rintro c ⟨⟩
    decide
  have hsettle : settle (named m tokens indent outer name t) = named m tokens indent outer name t := by
    simp only [settle, named, inFlow, flowLevel, List.length_singleton, Nat.sub_self, Nat.lt_irrefl, decide_false]
    rw [skipVoid_word _ _ _ hcolon]
  have hdeep : ¬((m.advance name).column : Int) < indent := by omega
  have halign : align (named m tokens indent outer name t) = .ok (named m tokens indent outer name t) := by
    cases outer <;>
      simp [align, named, mark, dropStale_named hname, Except.map, closeBlocks, closeBlocks.go, inFlow, flowLevel, hdeep]
  have hmark : (Cursor.mk (m.advance name) (':' :: ' ' :: t)).atDocumentMark = false := by simp [Cursor.atDocumentMark]
  have hblank : (Cursor.mk (m.advance name) (':' :: ' ' :: t)).blankAt 1 = true := rfl
  rw [fetch, hsettle, fetchHere, halign]
  simp [fetchAt, named, hmark, hblank, inFlow, flowLevel]

theorem run_fetchValue {name : Text} {l' : Layout} (hname : IsFieldName name) (hindent : indent ≤ (m.advance name).column)
    (hend : .streamEnd ∉ tokens.map Token.kind) (h : fetchValue (named m tokens indent outer name t) = .ok l') (fuel : Nat) :
    run (fuel + 1) (named m tokens indent outer name t) = run fuel l' := by
  have hrelease : release (named m tokens indent outer name t) = .ok (named m tokens indent outer name t) := by
    simp [release, named, mark, dropStale_named hname, count]
  refine run_of_fetch hrelease ?_ ((fetch_named hname hindent).trans h) fuel
  rw [named, List.map_reverse, List.mem_reverse]
  exact hend

/-- The colon makes it a key, in a mapping that may open with it. -/
theorem run_named {name : Text} {opened : List TokenKind} (hname : IsFieldName name) (hm : m.column = 2)
    (hend : .streamEnd ∉ tokens.map Token.kind)
    (hopen : indent = 0 ∧ outer = [-1] ∧ opened = [.blockMappingStart] ∨ indent = 2 ∧ outer = [0, -1] ∧ opened = [])
    (hword : StartsToken t) :
    ∃ l', (∀ fuel, run (fuel + 1) (named m tokens indent outer name t) = run fuel l') ∧
      l'.At (tokens.map Token.kind ++ opened ++ [.key, .scalar name .plain, .value]) 2 [0, -1] false (name.length + 4) t := by
  have hcolumn : (m.advance name).column = 2 + name.length := by
    rw [Mark.column_advance fun c hc => (hname.chars c hc).2.1, hm]
  refine ⟨⟨⟨(m.advance name).step ':', ' ' :: t⟩, tokens.reverse, opened.map (⟨·, m, m⟩) ++ [⟨.key, m, m⟩,
      ⟨.scalar name .plain, m, m.advance name⟩, ⟨.value, m.advance name, (m.advance name).step ':'⟩], [none], false, 2,
      [0, -1]⟩, run_fetchValue hname (by omega) hend ?_, ?_, rfl, rfl, rfl, ((m.advance name).step ':').advance [' '], ?_,
    skipVoid_spaces _ _ false 1 hword⟩
  · rcases hopen with ⟨rfl, rfl, rfl⟩ | ⟨rfl, rfl, rfl⟩ <;>
      simp [fetchValue, named, insertAt, openBlock, inFlow, flowLevel, take, push, mark, Cursor.skip, hm]
  · simp [Function.comp_def]
  · have hline : ∀ c ∈ [':', ' '], isBreak c = false := by simp [isBreak]
    have hbehind := Mark.column_advance hline (m.advance name)
    simp only [Mark.advance_cons, Mark.advance_nil] at hbehind ⊢
    rw [hbehind, hcolumn]
    simp
    omega

/-- A field of a mapping that opens with it or is open already, up to its value. -/
theorem At.field {name : Text} {opened : List TokenKind} (hname : IsFieldName name)
    (hopen : indent = 0 ∧ outer = [-1] ∧ opened = [.blockMappingStart] ∨ indent = 2 ∧ outer = [0, -1] ∧ opened = [])
    (h : l.At kinds indent outer true 2 (name ++ ':' :: ' ' :: t)) (hend : .streamEnd ∉ kinds) (hword : StartsToken t) :
    ∃ l', (∀ fuel, run (fuel + 2) l = run fuel l') ∧
      l'.At (kinds ++ opened ++ [.key, .scalar name .plain, .value]) 2 [0, -1] false (name.length + 4) t := by
  obtain ⟨l₁, hfirst, m, tokens, hm, hkinds, rfl⟩ := h.advance hend
    (P := fun l₁ => ∃ m tokens, m.column = 2 ∧ tokens.map Token.kind = kinds ∧ l₁ = named m tokens indent outer name t)
    fun m tokens hm hkinds => ⟨_, fetchHere_name hname (by omega) (by omega), m, tokens, hm, hkinds, rfl⟩
  subst hkinds
  obtain ⟨l', hsecond, hat⟩ := run_named hname hm hend hopen hword
  exact ⟨l', fun fuel => (hfirst (fuel + 1)).trans (hsecond fuel), hat⟩

/-! ## The end -/

/-- A layout behind the last token. -/
def closed (m : Mark) (tokens : List Token) : Layout :=
  ⟨⟨m, []⟩, tokens.reverse, [⟨.blockEnd, m, m⟩, ⟨.blockEnd, m, m⟩, ⟨.streamEnd, m, m⟩], [none], true, -1, []⟩

theorem fetchHere_end (hm : m.column = 0) : (ready m tokens 2 [0, -1] true []).fetchHere = .ok (closed m tokens) := by
  simp [fetchHere, align, dropStale, Except.map, closeBlocks, closeBlocks.go, inFlow, flowLevel, ready, mark, hm, fetchEnd,
    Mark.nextLine, dropKey, push, closed]

theorem run_closed (fuel : Nat) (m : Mark) (tokens : List Token) :
    run (fuel + 1) (closed m tokens) =
      (tokens ++ [⟨.blockEnd, m, m⟩, ⟨.blockEnd, m, m⟩, ⟨.streamEnd, m, m⟩], none) := by
  rw [run]
  simp [closed, release, dropStale, count]

/-- At the end of the text the mapping and the sequence close. -/
theorem At.close (h : l.At kinds 2 [0, -1] true 0 []) (hend : .streamEnd ∉ kinds) :
    ∃ tokens, (∀ fuel, run (fuel + 2) l = (tokens, none)) ∧
      tokens.map Token.kind = kinds ++ [.blockEnd, .blockEnd, .streamEnd] := by
  obtain ⟨l₁, hfirst, m, tokens, hkinds, rfl⟩ := h.advance hend
    (P := fun l₁ => ∃ m tokens, tokens.map Token.kind = kinds ∧ l₁ = closed m tokens)
    fun m tokens hm hkinds => ⟨_, fetchHere_end hm, m, tokens, hkinds, rfl⟩
  exact ⟨_, fun fuel => (hfirst (fuel + 1)).trans (run_closed fuel m tokens), by simp [hkinds]⟩

end Layout

end WrapShell.Yaml
