import WrapShell.Line.Canonical
import WrapShell.Line.Render
/-!
# What the scanners read

Each scanner is characterised by one equivalence: it gives a node and a rest exactly if the text
is the node, written, before that rest, the node is canonical, and the rest is not taken for more
of it (`EndsBefore`). Reading and writing back, in both directions, is read off from these.
-/

namespace WrapShell

/-! ## Names -/

theorem isNameChar_of_isBlank {c : Char} (h : isBlank c) : isNameChar c = false := by
  have blanks : ∀ n ∈ [9, 10, 11, 12, 13, 32, 0x85, 0xA0, 0x1680, 0x2000, 0x2001, 0x2002, 0x2003, 0x2004,
      0x2005, 0x2006, 0x2007, 0x2008, 0x2009, 0x200A, 0x2028, 0x2029, 0x202F, 0x205F, 0x3000],
      isNameChar (Char.ofNat n) = false := by decide +kernel
  have := blanks c.toNat (by simp [isBlank] at h ⊢; omega)
  rwa [Char.ofNat_toNat] at this

/-- The characters that scanners look for are in no name. -/
theorem isNameChar_special : ∀ c ∈ ['\\', '\'', '"', '$'], isNameChar c = false := by
  have h : ['\\', '\'', '"', '$'].all (!isNameChar ·) = true := by decide +kernel
  simpa using h

theorem isNameChar_of_isQuote {c : Char} (h : isQuote c) : isNameChar c = false := by
  simp only [isQuote, Bool.or_eq_true, beq_iff_eq] at h
  rcases h with rfl | rfl
  · exact isNameChar_special _ (by simp)
  · exact isNameChar_special _ (by simp)

@[simp] theorem escaping_cons_self (d : Char) (t : Text) : escaping d (d :: t) = '\\' :: d :: escaping d t := by
  simp [escaping]

theorem escaping_cons_ne {d c : Char} (h : c ≠ d) (t : Text) : escaping d (c :: t) = c :: escaping d t := by
  simp [escaping, h]

namespace Node

/-- The rest behind a node is not taken for more of the node. -/
def EndsBefore (n : Node) (rest : Text) : Prop :=
  match n with
  | .word v => (∀ c ∈ rest.head?, isQuote c ∨ isBlank c) ∧ (rest = [] ∨ isWordText false v)
  | .quoted _ => ∀ c ∈ rest.head?, c = '"' ∨ c = '$'
  | .var _ => ∀ c ∈ rest.head?, isNameChar c = false
  | _ => True

theorem readName_eq_ok_iff {t name rest : Text} :
    readName t = .ok (name, rest) ↔ t = name ++ rest ∧ isName name ∧ (var name).EndsBefore rest := by
  constructor
  · intro h
    unfold readName at h
    split at h
    · cases h
    · next hn =>
      cases h
      refine ⟨List.takeWhile_append_dropWhile.symm, ⟨hn, fun c hc => ?_⟩, fun c hc => ?_⟩
      · exact List.all_eq_true.1 List.all_takeWhile c hc
      · have := List.head?_dropWhile_not isNameChar t
        rw [Option.mem_def.1 hc] at this
        exact this
  · rintro ⟨rfl, ⟨hn, hc⟩, he⟩
    have htake : (name ++ rest).takeWhile isNameChar = name := by
      rw [List.takeWhile_append_of_pos hc]
      cases rest with
      | nil => simp
      | cons c rest => simp [he c rfl]
    have hdrop : (name ++ rest).dropWhile isNameChar = rest := by
      rw [List.dropWhile_append_of_pos hc]
      cases rest with
      | nil => rfl
      | cons c rest => simp [he c rfl]
    unfold readName
    rw [htake, hdrop]
    cases name with
    | nil => exact absurd rfl hn
    | cons => rfl

theorem readWord_char {c : Char} {t : Text} (h : c ≠ '\\') :
    readWord (c :: t) = if isQuote c || isBlank c then ([], c :: t) else (c :: (readWord t).1, (readWord t).2) := by
  simp [readWord, h, isQuote, Bool.or_assoc]

theorem readSingle_char {c : Char} {t : Text} (h : c ≠ '\\') :
    readSingle (c :: t) = if c = '\'' then some ([], t) else (readSingle t).map fun (v, rest) => (c :: v, rest) := by
  simp [readSingle, h]

theorem readQuoted_char {c : Char} {t : Text} (h : c ≠ '\\') :
    readQuoted (c :: t) =
      if c = '"' ∨ c = '$' then some ([], c :: t) else (readQuoted t).map fun (v, rest) => (c :: v, rest) := by
  simp [readQuoted, h]

theorem EndsBefore.of_word_cons {c : Char} {v rest : Text} (hc : c ≠ '\\') (hq : !(isQuote c || isBlank c))
    (h : (word (c :: v)).EndsBefore rest) : (word v).EndsBefore rest :=
  ⟨h.1, h.2.imp id fun hv => by simpa [isWordText_char hc, hq] using hv⟩

theorem readWord_of_ends {rest : Text} (h : ∀ c ∈ rest.head?, isQuote c ∨ isBlank c) : readWord rest = ([], rest) := by
  cases rest with
  | nil => rfl
  | cons c rest =>
    have hc := h c rfl
    rw [readWord_char (by rintro rfl; simp [isQuote, isBlank] at hc), if_pos (by simpa using hc)]

theorem readWord_eq_iff {t v rest : Text} :
    readWord t = (v, rest) ↔ t = v ++ rest ∧ isWordText true v ∧ (word v).EndsBefore rest := by
  constructor
  · intro h
    induction t using Text.pairInduction generalizing v with
    | nil => cases h; exact ⟨rfl, rfl, by simp, .inl rfl⟩
    | dangling => cases h; exact ⟨rfl, rfl, by simp, .inl rfl⟩
    | pair c t ih =>
      cases h
      obtain ⟨e, hw, he⟩ := ih rfl
      exact ⟨by simpa using e, hw, he⟩
    | char c t hc ih =>
      rw [readWord_char hc] at h
      split at h
      · next hs => cases h; exact ⟨rfl, rfl, by simpa using hs, .inr rfl⟩
      · next hs =>
        cases h
        obtain ⟨e, hw, he⟩ := ih rfl
        have hs' : (!(isQuote c || isBlank c)) = true := by simpa using hs
        refine ⟨by simpa using e, by rw [isWordText_char hc, hs', hw]; rfl, he.1, he.2.imp id fun hv => ?_⟩
        rw [isWordText_char hc, hs', hv]; rfl
  · rintro ⟨rfl, hw, he⟩
    induction v using Text.pairInduction with
    | nil => exact readWord_of_ends he.1
    | dangling =>
      -- a backslash at the end of the word would take the rest along, if there were one
      rcases he.2 with rfl | hv
      · rfl
      · cases hv
    | pair c t ih => simp [readWord, ih hw he]
    | char c t hc ih =>
      rw [isWordText_char hc, Bool.and_eq_true] at hw
      have hs : (isQuote c || isBlank c) = false := by simpa using hw.1
      simp [readWord_char hc, hs, ih hw.2 (he.of_word_cons hc hw.1)]

theorem readSingle_eq_some_iff {t v rest : Text} :
    readSingle t = some (v, rest) ↔
      t = escaping '\'' v ++ '\'' :: rest ∧ v.escapes (fun _ => true) (· != '\'') false := by
  constructor
  · intro h
    induction t using Text.pairInduction generalizing v with
    | nil => cases h
    | dangling => cases h
    | pair c t ih =>
      obtain ⟨⟨w, r⟩, hr, he⟩ := Option.map_eq_some_iff.1 h
      cases he
      obtain ⟨rfl, hw⟩ := ih hr
      -- before a quote the scanner drops the backslash, and the quote stands in the value alone
      by_cases hc : c = '\''
      · subst hc; simp [Text.escapes_char, hw]
      · simp [hc, hw, escaping_cons_ne]
    | char c t hc ih =>
      rw [readSingle_char hc] at h
      split at h
      · next hq => cases h; simp [hq]
      · next hq =>
        obtain ⟨⟨w, r⟩, hr, he⟩ := Option.map_eq_some_iff.1 h
        cases he
        obtain ⟨rfl, hw⟩ := ih hr
        simp [escaping_cons_ne hq, Text.escapes_char hc, hw]
  · rintro ⟨rfl, hv⟩
    induction v using Text.pairInduction with
    | nil => rfl
    | dangling => cases hv
    | pair c t ih =>
      simp only [Text.escapes_pair, Bool.and_eq_true, bne_iff_ne] at hv
      simp [escaping_cons_ne, hv.1, readSingle, ih hv.2]
    | char c t hc ih =>
      rw [Text.escapes_char hc, Bool.and_eq_true] at hv
      by_cases hq : c = '\''
      · subst hq; simp [readSingle, ih hv.2]
      · simp [escaping_cons_ne hq, readSingle_char hc, hq, ih hv.2]

theorem readQuoted_eq_some_iff {t v rest : Text} :
    readQuoted t = some (v, rest) ↔
      t = escaping '"' v ++ rest ∧ v.escapes (· != '$') (· != '"') false ∧ (quoted v).EndsBefore rest := by
  constructor
  · intro h
    induction t using Text.pairInduction generalizing v with
    | nil => cases h; exact ⟨rfl, rfl, by simp [EndsBefore]⟩
    | dangling => cases h
    | pair c t ih =>
      obtain ⟨⟨w, r⟩, hr, he⟩ := Option.map_eq_some_iff.1 h
      cases he
      obtain ⟨rfl, hw, hend⟩ := ih hr
      by_cases hc : c = '"'
      · subst hc; exact ⟨by simp, by simpa [Text.escapes_char] using hw, hend⟩
      · exact ⟨by simp [hc, escaping_cons_ne], by simp [hc, hw], hend⟩
    | char c t hc ih =>
      rw [readQuoted_char hc] at h
      split at h
      · next hq => cases h; exact ⟨rfl, rfl, by simpa [EndsBefore] using hq⟩
      · next hq =>
        obtain ⟨⟨w, r⟩, hr, he⟩ := Option.map_eq_some_iff.1 h
        cases he
        rw [not_or] at hq
        obtain ⟨rfl, hw, hend⟩ := ih hr
        exact ⟨by simp [escaping_cons_ne hq.1], by simp [Text.escapes_char hc, hq.2, hw], hend⟩
  · rintro ⟨rfl, hv, he⟩
    induction v using Text.pairInduction with
    | nil =>
      cases rest with
      | nil => rfl
      | cons c rest =>
        have hc := he c rfl
        rw [escaping_nil, List.nil_append, readQuoted_char (by rintro rfl; simp at hc), if_pos hc]
    | dangling => cases hv
    | pair c t ih =>
      simp only [Text.escapes_pair, Bool.and_eq_true, bne_iff_ne] at hv
      simp [escaping_cons_ne, hv.1, readQuoted, ih hv.2 he]
    | char c t hc ih =>
      simp only [Text.escapes_char hc, Bool.and_eq_true, bne_iff_ne] at hv
      by_cases hq : c = '"'
      · subst hq; simp [readQuoted, ih hv.2 he]
      · simp [escaping_cons_ne hq, readQuoted_char hc, hq, hv.1, ih hv.2 he]

/-! ## Double quotes -/

/-- A run starts with a character that starts nothing else, and with one of a name only if its
value does. -/
theorem IsChild.head_quoted {v : Text} (h : (quoted v).IsChild) : ∃ c t, escaping '"' v = c :: t ∧ c ≠ '"' ∧ c ≠ '$' ∧
    (isNameChar c = false ↔ ∀ d ∈ v.head?, isNameChar d = false) := by
  obtain ⟨hne, he⟩ := h
  cases v with
  | nil => exact absurd rfl hne
  | cons c v =>
    by_cases hc : c = '"'
    · subst hc
      exact ⟨'\\', _, escaping_cons_self _ _, by decide, by decide, by simp [isNameChar_special]⟩
    · refine ⟨c, _, escaping_cons_ne hc v, hc, ?_, by simp⟩
      rintro rfl
      simp [Text.escapes_char] at he

/-- Inside a double quote, where one child ends is decided by what the next one is. -/
theorem IsChild.endsBefore_iff {m n : Node} {rest : Text} (hm : m.IsChild) (hn : n.IsChild) :
    m.EndsBefore (n.render ++ rest) ↔ MayPrecede m n := by
  cases m <;> try exact hm.elim
  all_goals cases n <;> try exact hn.elim
  · obtain ⟨c, t, e, hq, hd, -⟩ := hn.head_quoted
    simp [EndsBefore, MayPrecede, render, e, hq, hd]
  · simp [EndsBefore, MayPrecede, render]
  · obtain ⟨c, t, e, -, -, hc⟩ := hn.head_quoted
    simpa [EndsBefore, MayPrecede, render, e] using hc
  · simp [EndsBefore, MayPrecede, render, isNameChar_special]

theorem IsChild.endsBefore_close {m : Node} (hm : m.IsChild) (rest : Text) : m.EndsBefore ('"' :: rest) := by
  cases m <;> simp_all [IsChild, EndsBefore, isNameChar_special]

/-- A run that starts on a character of its own is a child. -/
theorem readQuoted_child {c : Char} {t v rest : Text} (hq : c ≠ '"') (hd : c ≠ '$')
    (h : readQuoted (c :: t) = some (v, rest)) :
    c :: t = (quoted v).render ++ rest ∧ (quoted v).IsChild ∧ (quoted v).EndsBefore rest := by
  obtain ⟨e, hv, he⟩ := readQuoted_eq_some_iff.1 h
  refine ⟨e, ⟨?_, hv⟩, he⟩
  -- an empty run would end before `c`, but `c` ends no run
  rintro rfl
  rw [escaping_nil, List.nil_append] at e
  exact absurd (he c (by simp [← e])) (by simp [hq, hd])

theorem readDouble_close (t : Text) : readDouble ('"' :: t) = .ok ([], t) := by
  rw [readDouble]; rfl

theorem readDouble_var {t name rest : Text} (h : readName t = .ok (name, rest)) :
    readDouble ('$' :: t) = (readDouble rest).map fun (ns, rest') => (var name :: ns, rest') := by
  rw [readDouble]
  simp only [Char.reduceEq, dite_false, dite_true]
  split
  · simp_all
  · rename_i h'
    rw [h] at h'
    cases h'
    split <;> simp_all [Except.map]

theorem readDouble_quoted {c : Char} {t v rest : Text} (hq : c ≠ '"') (hd : c ≠ '$')
    (h : readQuoted (c :: t) = some (v, rest)) :
    readDouble (c :: t) = (readDouble rest).map fun (ns, rest') => (quoted v :: ns, rest') := by
  rw [readDouble]
  simp only [hq, hd, dite_false]
  split
  · simp_all
  · rename_i h'
    rw [h] at h'
    cases h'
    split <;> simp_all [Except.map]

theorem readDouble_child {m : Node} {rest : Text} (hm : m.IsChild) (he : m.EndsBefore rest) :
    readDouble (m.render ++ rest) = (readDouble rest).map fun (ns, rest') => (m :: ns, rest') := by
  cases m with
  | var name => exact readDouble_var (readName_eq_ok_iff.2 ⟨rfl, hm, he⟩)
  | quoted v =>
    obtain ⟨c, t, e, hq, hd, -⟩ := hm.head_quoted
    have hr := readQuoted_eq_some_iff.2 ⟨rfl, hm.2, he⟩
    rw [e, List.cons_append] at hr
    rw [render, e]
    exact readDouble_quoted hq hd hr
  | word | single | double => exact hm.elim

/-- A child may stand before others exactly if it ends before them, written, and the closing quote. -/
theorem isChain_children_iff {m : Node} {ns : List Node} (hm : m.IsChild) (hns : ∀ n ∈ ns, n.IsChild) (rest : Text) :
    (m :: ns).IsChain MayPrecede ↔ m.EndsBefore (renderAll ns ++ '"' :: rest) ∧ ns.IsChain MayPrecede := by
  rw [List.isChain_cons]
  refine and_congr_left fun _ => ?_
  cases ns with
  | nil => simpa [renderAll] using hm.endsBefore_close rest
  | cons n ns => simp [renderAll, hm.endsBefore_iff (hns n (by simp))]

theorem readDouble_eq_ok_iff {t rest : Text} {ns : List Node} :
    readDouble t = .ok (ns, rest) ↔
      t = renderAll ns ++ '"' :: rest ∧ (∀ n ∈ ns, n.IsChild) ∧ ns.IsChain MayPrecede := by
  constructor
  · intro h
    fun_induction readDouble t generalizing ns with
    | case1 => cases h
    | case2 => cases h; simp [renderAll]
    | case3 => cases h
    | case4 => cases h
    | case5 _ name _ hr _ children _ hc _ ih =>
      cases h
      obtain ⟨rfl, hns, hch⟩ := ih hc
      obtain ⟨rfl, hname, he⟩ := readName_eq_ok_iff.1 hr
      have hn : (var name).IsChild := hname
      exact ⟨by simp [renderAll, render], List.forall_mem_cons.2 ⟨hn, hns⟩, (isChain_children_iff hn hns rest).2 ⟨he, hch⟩⟩
    | case6 => cases h
    | case7 => cases h
    | case8 c t hq hd v _ hr _ children _ hc ih =>
      cases h
      obtain ⟨rfl, hns, hch⟩ := ih hc
      obtain ⟨e, hn, he⟩ := readQuoted_child hq hd hr
      exact ⟨by simp [e, renderAll], List.forall_mem_cons.2 ⟨hn, hns⟩, (isChain_children_iff hn hns rest).2 ⟨he, hch⟩⟩
  · rintro ⟨rfl, hc, hch⟩
    induction ns with
    | nil => exact readDouble_close rest
    | cons n ns ih =>
      obtain ⟨hn, hns⟩ := List.forall_mem_cons.1 hc
      obtain ⟨he, hch'⟩ := (isChain_children_iff hn hns rest).1 hch
      rw [renderAll, List.append_assoc, readDouble_child hn he, ih hns hch']
      rfl

/-! ## Nodes of an argument -/

/-- A canonical node starts with a character that chooses its scanner. -/
theorem IsCanonical.head_word {v : Text} (h : (word v).IsCanonical) :
    ∃ c t, v = c :: t ∧ isQuote c = false ∧ isBlank c = false ∧ c ≠ '$' := by
  obtain ⟨hne, hd, hw⟩ := h
  cases v with
  | nil => exact absurd rfl hne
  | cons c v =>
    by_cases hc : c = '\\'
    · subst hc; exact ⟨_, _, rfl, by decide, by decide, by decide⟩
    · simp only [isWordText_char hc, Bool.and_eq_true, Bool.not_eq_true', Bool.or_eq_false_iff] at hw
      exact ⟨c, v, rfl, hw.1.1, hw.1.2, by simpa using hd⟩

theorem IsCanonical.head_render {n : Node} (h : n.IsCanonical) : ∃ c t, n.render = c :: t ∧ isBlank c = false := by
  cases n with
  | word v =>
    obtain ⟨c, t, rfl, -, hb, -⟩ := h.head_word
    exact ⟨c, t, rfl, hb⟩
  | quoted => exact h.elim
  | single | double | var => exact ⟨_, _, rfl, by decide⟩

/-- In an argument, where one node ends is decided by what the next one is, unless a backslash at
its end would take the next one along. -/
theorem IsCanonical.endsBefore_iff {m n : Node} {rest : Text} (hm : m.IsCanonical) (hn : n.IsCanonical) :
    m.EndsBefore (n.render ++ rest) ↔ MayPrecede m n ∧ m.IsClosed := by
  have hd : isBlank '$' = false := by decide
  cases m <;> try exact hm.elim
  all_goals cases n <;> try exact hn.elim
  case word.word v w =>
    obtain ⟨c, t, rfl, hq, hb, -⟩ := hn.head_word
    simp [EndsBefore, MayPrecede, render, hq, hb]
  case var.word name w =>
    obtain ⟨c, t, rfl, -, -, -⟩ := hn.head_word
    simp [EndsBefore, MayPrecede, render, IsClosed]
  all_goals simp [EndsBefore, MayPrecede, render, IsClosed, isQuote, hd, isNameChar_special]

theorem IsCanonical.endsBefore_blank {m : Node} {rest : Text} (hm : m.IsCanonical) (hr : ∀ c ∈ rest.head?, isBlank c) :
    m.EndsBefore rest ↔ rest = [] ∨ m.IsClosed := by
  cases m with
  | word v => exact ⟨fun h => h.2, fun h => ⟨fun c hc => .inr (hr c hc), h⟩⟩
  | quoted => exact hm.elim
  | var name => exact iff_of_true (fun c hc => isNameChar_of_isBlank (hr c hc)) (.inr trivial)
  | single | double => exact iff_of_true trivial (.inr trivial)

theorem read_word {c : Char} {t : Text} (hq : isQuote c = false) (hd : c ≠ '$') :
    read (c :: t) = .ok (word (readWord (c :: t)).1, (readWord (c :: t)).2) := by
  simp only [isQuote, Bool.or_eq_false_iff, beq_eq_false_iff_ne] at hq
  simp [read, hq.1, hq.2, hd]

theorem read_eq_ok_iff {c : Char} {t rest : Text} {n : Node} (hb : isBlank c = false) :
    read (c :: t) = .ok (n, rest) ↔ c :: t = n.render ++ rest ∧ n.IsCanonical ∧ n.EndsBefore rest := by
  constructor
  · intro h
    by_cases hd : c = '$'
    · subst hd
      simp only [read] at h
      split at h
      · cases h
      · next hr =>
        cases h
        obtain ⟨rfl, hn, he⟩ := readName_eq_ok_iff.1 hr
        exact ⟨rfl, hn, he⟩
    by_cases hs : c = '\''
    · subst hs
      simp only [read] at h
      split at h
      · cases h
      · next hr =>
        cases h
        obtain ⟨rfl, hv⟩ := readSingle_eq_some_iff.1 hr
        exact ⟨by simp [render], hv, trivial⟩
    by_cases hq : c = '"'
    · subst hq
      simp only [read] at h
      split at h
      · cases h
      · next hr =>
        cases h
        obtain ⟨rfl, hns, hch⟩ := readDouble_eq_ok_iff.1 hr
        exact ⟨by simp [render], ⟨hns, hch⟩, trivial⟩
    have hq' : isQuote c = false := by simp [isQuote, hs, hq]
    rw [read_word hq' hd] at h
    -- no other scanner starts with `c`, so it is in the word, and the word is not empty
    cases h
    obtain ⟨e, hw, he⟩ := readWord_eq_iff.1 (rfl : readWord (c :: t) = (_, _))
    refine ⟨e, ⟨fun hv => ?_, fun hv => ?_, hw⟩, he⟩
    · rw [hv, List.nil_append] at e
      have := he.1 c (by rw [← e]; rfl)
      simp [hq', hb] at this
    · obtain ⟨w, hw⟩ := List.head?_eq_some_iff.1 hv
      rw [hw] at e
      exact hd (List.cons.inj e).1
  · rintro ⟨e, hn, he⟩
    cases n with
    | word v =>
      obtain ⟨d, w, rfl, hq, -, hd⟩ := hn.head_word
      obtain ⟨rfl, -⟩ := List.cons.inj e
      rw [read_word hq hd, readWord_eq_iff.2 ⟨e, hn.2.2, he⟩]
      rfl
    | quoted => exact hn.elim
    | single v =>
      have hr : readSingle (escaping '\'' v ++ '\'' :: rest) = some (v, rest) := readSingle_eq_some_iff.2 ⟨rfl, hn⟩
      rw [e]
      simp [render, read, hr]
    | double ns =>
      have hr : readDouble (renderAll ns ++ '"' :: rest) = .ok (ns, rest) := readDouble_eq_ok_iff.2 ⟨rfl, hn⟩
      rw [e]
      simp [render, read, hr]
    | var name =>
      have hr := readName_eq_ok_iff.2 ⟨rfl, hn, he⟩
      rw [e]
      simp [render, read, hr]

end Node

/-! ## Arguments -/

namespace Command

open Node

/-- A run of canonical nodes, each ending before the next, and then a blank or the end. -/
def IsRun : List Node → Text → Prop
  | [], rest => ∀ c ∈ rest.head?, isBlank c
  | n :: ns, rest => n.IsCanonical ∧ n.EndsBefore (renderAll ns ++ rest) ∧ IsRun ns rest

theorem readArg_blank {t : Text} (h : ∀ c ∈ t.head?, isBlank c) : readArg t = .ok ([], t) := by
  cases t with
  | nil => rw [readArg]
  | cons c t => rw [readArg]; simp [h c rfl]

theorem readArg_node {c : Char} {t rest : Text} {n : Node} (hb : isBlank c = false)
    (h : Node.read (c :: t) = .ok (n, rest)) :
    readArg (c :: t) = (readArg rest).map fun (ns, rest') => (n :: ns, rest') := by
  rw [readArg]
  simp only [hb, Bool.false_eq_true, dite_false]
  split
  · simp_all
  · rename_i h'
    rw [h] at h'
    cases h'
    split <;> simp_all [Except.map]

theorem readArg_render {n : Node} {rest : Text} (hn : n.IsCanonical) (he : n.EndsBefore rest) :
    readArg (n.render ++ rest) = (readArg rest).map fun (ns, rest') => (n :: ns, rest') := by
  obtain ⟨c, t, e, hb⟩ := hn.head_render
  have hread : Node.read (c :: (t ++ rest)) = .ok (n, rest) :=
    (read_eq_ok_iff hb).2 ⟨by rw [e, List.cons_append], hn, he⟩
  rw [e, List.cons_append]
  exact readArg_node hb hread

theorem readArg_eq_ok_iff {t rest : Text} {ns : List Node} :
    readArg t = .ok (ns, rest) ↔ t = renderAll ns ++ rest ∧ IsRun ns rest := by
  constructor
  · intro h
    fun_induction readArg t generalizing ns with
    | case1 => cases h; exact ⟨rfl, by simp [IsRun]⟩
    | case2 c t hb => cases h; exact ⟨rfl, by simpa [IsRun] using hb⟩
    | case3 => cases h
    | case4 => cases h
    | case5 c t hb n rest' hn _ ns' _ hns ih =>
      cases h
      obtain ⟨e, hc, he⟩ := (read_eq_ok_iff (Bool.eq_false_iff.2 hb)).1 hn
      obtain ⟨rfl, hr⟩ := ih hns
      exact ⟨by simp [e, renderAll], hc, he, hr⟩
  · rintro ⟨rfl, hr⟩
    induction ns with
    | nil => exact readArg_blank hr
    | cons n ns ih =>
      obtain ⟨hn, he, hr⟩ := hr
      rw [renderAll, List.append_assoc, readArg_render hn he, ih hr]
      rfl

theorem IsRun.head_render {ns : List Node} {rest : Text} (hne : ns ≠ []) (h : IsRun ns rest) :
    ∃ c t, renderAll ns = c :: t ∧ isBlank c = false := by
  cases ns with
  | nil => exact absurd rfl hne
  | cons n ns =>
    obtain ⟨c, t, e, hb⟩ := h.1.head_render
    exact ⟨c, t ++ renderAll ns, by simp [renderAll, e], hb⟩

/-- A run that starts with no blank has a node. -/
theorem IsRun.ne_nil {c : Char} {t rest : Text} {ns : List Node} (h : IsRun ns rest) (hb : isBlank c = false)
    (e : c :: t = renderAll ns ++ rest) : ns ≠ [] := by
  rintro rfl
  have hc := h c (by rw [← show c :: t = rest from e]; rfl)
  simp [hb] at hc

/-- How a text spells arguments: blanks, then a run of nodes, then the same again from the blank
behind the run; blanks alone spell none. -/
inductive Spells : Text → List Arg → Prop
  | nil {t : Text} (blanks : t.allBlank) : Spells t []
  | cons {lead rest : Text} {a : Arg} {args : List Arg} (blanks : lead.allBlank) (some : a.nodes ≠ [])
      (run : IsRun a.nodes rest) (more : Spells rest args) : Spells (lead ++ a.render ++ rest) (a :: args)

theorem Spells.blank {c : Char} {t : Text} {args : List Arg} (hb : isBlank c) (h : Spells t args) :
    Spells (c :: t) args := by
  cases h with
  | nil blanks => exact .nil (by simpa [Text.allBlank, hb] using blanks)
  | @cons lead rest a args blanks some run more =>
    exact @Spells.cons (c :: lead) rest a args (by simpa [Text.allBlank, hb] using blanks) some run more

theorem readArgs_blank {c : Char} (hb : isBlank c) (t : Text) : readArgs (c :: t) = readArgs t := by
  rw [readArgs]; simp [hb]

theorem readArgs_allBlank {lead : Text} (hb : lead.allBlank) (t : Text) : readArgs (lead ++ t) = readArgs t := by
  induction lead with
  | nil => rfl
  | cons c lead ih =>
    simp only [Text.allBlank, List.all_cons, Bool.and_eq_true] at hb
    rw [List.cons_append, readArgs_blank hb.1, ih hb.2]

theorem readArgs_arg {c : Char} {t rest : Text} {ns : List Node} (hb : isBlank c = false)
    (h : readArg (c :: t) = .ok (ns, rest)) : readArgs (c :: t) = (readArgs rest).map (⟨ns⟩ :: ·) := by
  rw [readArgs]
  simp only [hb, Bool.false_eq_true, dite_false]
  split
  · simp_all
  · rename_i h'
    rw [h] at h'
    cases h'
    split <;> simp_all [Except.map]

theorem readArgs_run {ns : List Node} {rest : Text} (hne : ns ≠ []) (h : IsRun ns rest) :
    readArgs (renderAll ns ++ rest) = (readArgs rest).map (⟨ns⟩ :: ·) := by
  obtain ⟨c, t, e, hb⟩ := h.head_render hne
  have ha := readArg_eq_ok_iff.2 ⟨rfl, h⟩
  rw [e, List.cons_append] at ha ⊢
  exact readArgs_arg hb ha

theorem readArgs_eq_ok_iff {t : Text} {args : List Arg} : readArgs t = .ok args ↔ Spells t args := by
  constructor
  · intro h
    fun_induction readArgs t generalizing args with
    | case1 => cases h; exact .nil rfl
    | case2 c t hb ih => exact (ih h).blank hb
    | case3 => cases h
    | case4 => cases h
    | case5 c t hb ns rest hns _ args' _ ih =>
      cases h
      obtain ⟨e, hr⟩ := readArg_eq_ok_iff.1 hns
      rw [e]
      exact @Spells.cons [] rest ⟨ns⟩ args' rfl (hr.ne_nil (Bool.eq_false_iff.2 hb) e) hr (ih ‹_›)
  · intro h
    induction h with
    | nil blanks =>
      have := readArgs_allBlank blanks []
      rw [List.append_nil] at this
      rw [this, readArgs]
    | @cons lead rest a args blanks hne run more ih =>
      rw [List.append_assoc, readArgs_allBlank blanks, Arg.render, readArgs_run hne run, ih]
      rfl

end Command

end WrapShell
