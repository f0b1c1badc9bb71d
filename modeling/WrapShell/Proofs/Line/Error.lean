import WrapShell.Proofs.Line.Lossless
/-!
# What an error says about more text

A scanner looks at one character past what it reads, so behind a part that was read the rest goes
its own way (`Follows`). An error therefore tells whether the text is only unfinished, and then what
finishes it, or lost whatever comes (`Tells`): first for each scanner, at last for a line
(`read_error`).
-/

namespace WrapShell

/-! ## Backslashes at the end -/

/-- The guard behind a text is a backslash exactly if the text ends in one that takes nothing along. -/
theorem Guard.escaped_foldl (o : Option Char) (t : Text) : (t.foldl next ⟨o, false⟩).escaped = t.dangles := by
  induction t using Text.pairInduction generalizing o with
  | nil => rfl
  | dangling => simp [next, Text.dangles]
  | pair c t ih => simpa [next] using ih o
  | char c t hc ih =>
    have hnext : ∃ o', next ⟨o, false⟩ c = ⟨o', false⟩ := by
      simp only [next, hc, Bool.false_eq_true, if_false]
      cases o with
      | none => by_cases hq : isQuote c <;> simp [hq]
      | some q => by_cases hq : c = q <;> simp [hq, free]
    obtain ⟨o', ho⟩ := hnext
    rw [List.foldl_cons, ho, ih, Text.dangles_char hc]

theorem Guard.Covers.not_dangles {o o' : Option Char} {t : Text} (h : Covers ⟨o, false⟩ t ⟨o', false⟩) :
    t.dangles = false := by
  rw [← escaped_foldl o, h.2]

/-- What closes the quote `q` that a text leaves open; a backslash at the end would take the first
delimiter along. -/
def closing (q : Char) (t : Text) : Text := if t.dangles then [q, q] else [q]

theorem closing_append {front : Text} (h : front.dangles = false) (q : Char) (t : Text) :
    closing q (front ++ t) = closing q t := by
  rw [closing, closing, Text.dangles_append h]

theorem closing_pair (q c : Char) (t : Text) : closing q ('\\' :: c :: t) = closing q t := by
  rw [closing, closing, Text.dangles_pair]

theorem closing_char {c : Char} (h : c ≠ '\\') (q : Char) (t : Text) : closing q (c :: t) = closing q t := by
  rw [closing, closing, Text.dangles_char h]

/-! ## What an error tells -/

section Tells

variable {α β : Type} {f : Text → Except ReadError α} {g : Text → Except ReadError β} {F : α → Prop} {G : β → Prop}

/-- What the error of a reader on `t` tells about the texts that start with `t`; `F` says of a result
that nothing is left to be read. -/
inductive Tells (f : Text → Except ReadError α) (F : α → Prop) (t : Text) : ReadError → Prop
  /-- A quote is open, and closing it is enough. -/
  | unclosed {q : Char} {a : α} (quote : isQuote q) (closed : f (t ++ closing q t) = .ok a) (all : F a) :
    Tells f F t (.unterminated q)
  /-- A `$` at the end waits for a name. -/
  | unnamed {s : Text} {a : α} (named : f (t ++ s) = .ok a) (all : F a) : Tells f F t (.invalidIdentifier [])
  /-- A `$` that was waiting for a name has something else behind it. -/
  | misnamed (front back : Text) {c : Char} (found : t = front ++ '$' :: c :: back) (other : isNameChar c = false)
    (waiting : f (front ++ ['$']) = .error (.invalidIdentifier []))
    (lost : ∀ s, f (t ++ s) = .error (.invalidIdentifier [c])) : Tells f F t (.invalidIdentifier [c])

/-- Behind `front`, the reader `f` goes the way of the reader `g` on `s`. -/
structure Follows (f : Text → Except ReadError α) (F : α → Prop) (front : Text) (g : Text → Except ReadError β)
    (G : β → Prop) (s : Text) : Prop where
  error : ∀ e, g s = .error e → f (front ++ s) = .error e
  finish : ∀ b, g s = .ok b → G b → ∃ a, f (front ++ s) = .ok a ∧ F a

theorem Follows.of_map {front s : Text} {k : β → α} (h : f (front ++ s) = (g s).map k) (hk : ∀ b, G b → F (k b)) :
    Follows f F front g G s where
  error e he := by rw [h, he]; rfl
  finish b hb hG := ⟨k b, by rw [h, hb]; rfl, hk b hG⟩

/-- What is told of the rest is told of the whole. Where there is a rest, its first character is
enough to know that the reader goes on with it. -/
theorem Tells.behind {rest : Text} {e : ReadError} (h : Tells g G rest e) (front : Text) (hd : front.dangles = false)
    (hf : ∀ s, (rest ≠ [] → s.head? = rest.head?) → Follows f F front g G s) : Tells f F (front ++ rest) e := by
  have more (s : Text) : Follows f F front g G (rest ++ s) := hf _ fun hne => List.head?_append_of_ne_nil rest hne
  cases h with
  | unclosed quote closed all =>
    obtain ⟨a, ha, hF⟩ := (more _).finish _ closed all
    exact .unclosed quote (by rw [closing_append hd, List.append_assoc, ha]) hF
  | unnamed named all =>
    obtain ⟨a, ha, hF⟩ := (more _).finish _ named all
    exact .unnamed (by rw [List.append_assoc, ha]) hF
  | misnamed before back found other waiting lost =>
    have hwait : Follows f F front g G (before ++ ['$']) := hf _ fun _ => by rw [found]; cases before <;> rfl
    refine .misnamed (front ++ before) back (by rw [found, List.append_assoc]) other ?_ fun s => ?_
    · rw [List.append_assoc, hwait.error _ waiting]
    · rw [List.append_assoc, (more s).error _ (lost s)]

end Tells

namespace Node

theorem EndsBefore.of_head {n : Node} {rest s : Text} (h : n.EndsBefore rest) (hne : rest ≠ [])
    (hs : s.head? = rest.head?) : n.EndsBefore s := by
  cases n with
  | word v => exact ⟨hs ▸ h.1, .inr (h.2.resolve_left hne)⟩
  | quoted | var => intro c hc; exact h c (hs ▸ hc)
  | single | double => trivial

theorem EndsBefore.isClosed {n : Node} {rest : Text} (h : n.EndsBefore rest) (hne : rest ≠ []) : n.IsClosed := by
  cases n with
  | word v => exact h.2.resolve_left hne
  | quoted | single | double | var => trivial

/-! ## Scanners -/

theorem readName_eq_error {t : Text} {e : ReadError} (h : readName t = .error e) :
    e = .invalidIdentifier (t.take 1) ∧ ∀ c ∈ t.head?, isNameChar c = false := by
  unfold readName at h
  split at h
  · next hn =>
    cases h
    refine ⟨rfl, fun c hc => ?_⟩
    obtain ⟨t, rfl⟩ := List.head?_eq_some_iff.1 hc
    cases hb : isNameChar c with
    | false => rfl
    | true => simp [hb] at hn
  · cases h

theorem readName_other {c : Char} (hc : isNameChar c = false) (t : Text) :
    readName (c :: t) = .error (.invalidIdentifier [c]) := by
  simp [readName, hc]

theorem readSingle_closing {t : Text} (h : readSingle t = none) : ∃ v, readSingle (t ++ closing '\'' t) = some (v, []) := by
  induction t using Text.pairInduction with
  | nil => exact ⟨[], rfl⟩
  | dangling => exact ⟨['\''], rfl⟩
  | pair c t ih =>
    obtain ⟨v, hv⟩ := ih (by simpa [readSingle] using h)
    rw [closing_pair]
    exact ⟨_, by rw [List.cons_append, List.cons_append, readSingle, hv]; rfl⟩
  | char c t hc ih =>
    rw [readSingle_char hc] at h
    split at h
    · cases h
    · next hq =>
      obtain ⟨v, hv⟩ := ih (by simpa using h)
      rw [closing_char hc]
      exact ⟨_, by rw [List.cons_append, readSingle_char hc, if_neg hq, hv]; rfl⟩

/-- A run breaks off only behind a backslash, which then takes a delimiter along. -/
theorem readQuoted_closing {t : Text} (h : readQuoted t = none) :
    ∃ v, readQuoted (t ++ closing '"' t) = some (v, ['"']) := by
  induction t using Text.pairInduction with
  | nil => cases h
  | dangling => exact ⟨['"'], rfl⟩
  | pair c t ih =>
    obtain ⟨v, hv⟩ := ih (by simpa [readQuoted] using h)
    rw [closing_pair]
    exact ⟨_, by rw [List.cons_append, List.cons_append, readQuoted, hv]; rfl⟩
  | char c t hc ih =>
    rw [readQuoted_char hc] at h
    split at h
    · cases h
    · next hq =>
      obtain ⟨v, hv⟩ := ih (by simpa using h)
      rw [closing_char hc]
      exact ⟨_, by rw [List.cons_append, readQuoted_char hc, if_neg hq, hv]; rfl⟩

/-- A reader that reads a name behind `$` and fails if there is none: more text helps only if there
is nothing behind the `$` yet. -/
theorem tells_name {α : Type} {f : Text → Except ReadError α} {F : α → Prop} {s t : Text} {a : α} {e : ReadError}
    (hf : ∀ t e, readName t = .error e → f ('$' :: t) = .error e) (hs : f ('$' :: s) = .ok a) (ha : F a)
    (h : readName t = .error e) : Tells f F ('$' :: t) e := by
  obtain ⟨rfl, hc⟩ := readName_eq_error h
  cases t with
  | nil => exact .unnamed hs ha
  | cons c t =>
    have hother : isNameChar c = false := hc c rfl
    exact .misnamed [] t rfl hother (hf [] _ rfl) fun s => hf _ _ (readName_other hother (t ++ s))

theorem IsChild.not_dangles {n : Node} (h : n.IsChild) : n.render.dangles = false := by
  have hn : ∀ m ∈ [n], m.IsChild := List.forall_mem_singleton.2 h
  have hcov := Guard.covers_children hn
  rw [renderAll, renderAll, List.append_nil] at hcov
  exact hcov.not_dangles

theorem IsCanonical.not_dangles {n : Node} (h : n.IsCanonical) (hc : n.IsClosed) : n.render.dangles = false := by
  obtain ⟨g, hcov, hfree⟩ := Guard.covers_node h
  rw [hfree hc] at hcov
  exact hcov.not_dangles

/-- In a double quote, what is told behind a child is told in front of it. -/
theorem tells_child {m : Node} {rest : Text} {e : ReadError} (hm : m.IsChild) (he : m.EndsBefore rest)
    (hrest : readDouble rest = .error e) (h : Tells readDouble (·.2 = []) rest e) :
    Tells readDouble (·.2 = []) (m.render ++ rest) e := by
  cases rest with
  | nil =>
    -- without a rest nothing shows where the child ends, but the closing quote will
    rw [readDouble] at hrest
    cases hrest
    have hclose := readDouble_child hm (hm.endsBefore_close [])
    rw [readDouble_close] at hclose
    refine .unclosed (q := '"') rfl (a := ([m], [])) ?_ rfl
    rw [closing_append hm.not_dangles, List.append_assoc]
    exact hclose
  | cons c rest =>
    refine h.behind m.render hm.not_dangles fun s hs => .of_map (readDouble_child hm ?_) fun _ hb => hb
    exact he.of_head (List.cons_ne_nil c rest) (hs (List.cons_ne_nil c rest))

theorem readDouble_name_error {t : Text} {e : ReadError} (h : readName t = .error e) :
    readDouble ('$' :: t) = .error e := by
  rw [readDouble]
  simp only [Char.reduceEq, dite_false, dite_true]
  split
  · next h' => rw [h] at h'; cases h'; rfl
  · next h' => rw [h] at h'; cases h'

theorem tells_readDouble {t : Text} {e : ReadError} (h : readDouble t = .error e) : Tells readDouble (·.2 = []) t e := by
  fun_induction readDouble t with
  | case1 =>
    cases h
    exact .unclosed (q := '"') rfl (a := ([], [])) (readDouble_close []) rfl
  | case2 => cases h
  | case3 t _ hn =>
    cases h
    have hx : readDouble ('$' :: ['x', '"']) = .ok ([.var ['x']], []) := by
      have hname : (var ['x']).IsChild := by decide
      have hread := readDouble_child hname (hname.endsBefore_close [])
      rw [readDouble_close] at hread
      exact hread
    exact tells_name (fun _ _ => readDouble_name_error) hx rfl hn
  | case4 t name rest hn _ _ hrest _ ih =>
    cases h
    obtain ⟨rfl, hname, he⟩ := readName_eq_ok_iff.1 hn
    exact tells_child (m := .var name) hname he hrest (ih hrest)
  | case5 => cases h
  | case6 c t hq hd hn =>
    cases h
    obtain ⟨v, hv⟩ := readQuoted_closing hn
    have hread := readDouble_quoted hq hd hv
    rw [readDouble_close] at hread
    exact .unclosed (q := '"') rfl hread rfl
  | case7 c t hq hd v rest hn _ _ hrest ih =>
    cases h
    obtain ⟨e, hchild, he⟩ := readQuoted_child hq hd hn
    rw [e]
    exact tells_child hchild he hrest (ih hrest)
  | case8 => cases h

theorem tells_read {t : Text} {e : ReadError} (h : read t = .error e) : Tells read (·.2 = []) t e := by
  unfold read at h
  split at h
  · split at h
    · next hn =>
      cases h
      refine tells_name (s := ['x']) (a := (.var ['x'], [])) (fun t e hn => ?_) (by decide) rfl hn
      rw [read, hn]
    · cases h
  · next t =>
    split at h
    · next hn =>
      cases h
      obtain ⟨v, hv⟩ := readSingle_closing hn
      refine .unclosed (q := '\'') rfl (a := (.single v, [])) ?_ rfl
      rw [closing_char (by decide), List.cons_append, read, hv]
    · cases h
  · next t =>
    split at h
    · next hn =>
      cases h
      refine (tells_readDouble hn).behind ['"'] rfl fun s _ => ?_
      have hread : read (['"'] ++ s) = (readDouble s).map fun r => (.double r.1, r.2) := by
        rw [List.singleton_append, read]
        cases readDouble s <;> rfl
      exact .of_map hread fun _ hb => hb
    · cases h
  · cases h

end Node

/-! ## Lines -/

namespace Command

open Node

theorem readArg_error {c : Char} {t : Text} {e : ReadError} (hb : isBlank c = false)
    (h : Node.read (c :: t) = .error e) : readArg (c :: t) = .error e := by
  rw [readArg]
  simp only [hb, Bool.false_eq_true, dite_false]
  split
  · next h' => rw [h] at h'; cases h'; rfl
  · next h' => rw [h] at h'; cases h'

theorem readArgs_error {c : Char} {t : Text} {e : ReadError} (hb : isBlank c = false)
    (h : readArg (c :: t) = .error e) : readArgs (c :: t) = .error e := by
  rw [readArgs]
  simp only [hb, Bool.false_eq_true, dite_false]
  split
  · next h' => rw [h] at h'; cases h'; rfl
  · next h' => rw [h] at h'; cases h'

theorem tells_readArg {t : Text} {e : ReadError} (h : readArg t = .error e) : Tells readArg (·.2 = []) t e := by
  fun_induction readArg t with
  | case1 => cases h
  | case2 => cases h
  | case3 c t hb _ hn =>
    cases h
    have hb : isBlank c = false := Bool.eq_false_iff.2 hb
    refine (tells_read hn).behind [] rfl fun s hs => ?_
    obtain ⟨s, rfl⟩ := List.head?_eq_some_iff.1 (hs (List.cons_ne_nil c t))
    refine ⟨fun e he => readArg_error hb he, ?_⟩
    rintro ⟨n, rest⟩ hn rfl
    exact ⟨([n], []), by rw [List.nil_append, readArg_node hb hn, readArg]; rfl, rfl⟩
  | case4 c t hb n rest hn _ _ hrest ih =>
    cases h
    obtain ⟨e, hcan, he⟩ := (Node.read_eq_ok_iff (Bool.eq_false_iff.2 hb)).1 hn
    have hne : rest ≠ [] := by
      rintro rfl
      rw [readArg] at hrest
      cases hrest
    rw [e]
    refine (ih hrest).behind n.render (hcan.not_dangles (he.isClosed hne)) fun s hs => ?_
    exact .of_map (readArg_render hcan (he.of_head hne (hs hne))) fun _ hb => hb
  | case5 => cases h

theorem IsRun.not_dangles {ns : List Node} {rest : Text} (h : IsRun ns rest) (hc : ∀ n ∈ ns, n.IsClosed) :
    Text.dangles (renderAll ns) = false := by
  obtain ⟨-, hn, -, hcl, -⟩ := isRun_iff.1 h
  obtain ⟨g, hcov, hfree⟩ := Guard.covers_run hn hcl
  rw [hfree hc] at hcov
  exact hcov.not_dangles

theorem tells_readArgs {t : Text} {e : ReadError} (h : readArgs t = .error e) :
    Tells readArgs (fun _ => True) t e := by
  fun_induction readArgs t with
  | case1 => cases h
  | case2 c t hb ih =>
    have hc : c ≠ '\\' := by rintro rfl; revert hb; decide
    have hd : Text.dangles [c] = false := Text.dangles_char hc
    refine (ih h).behind [c] hd fun s _ => ⟨fun e he => ?_, fun b hs _ => ⟨b, ?_, trivial⟩⟩
    · rw [List.singleton_append, readArgs_blank hb, he]
    · rw [List.singleton_append, readArgs_blank hb, hs]
  | case3 c t hb _ hn =>
    cases h
    have hb : isBlank c = false := Bool.eq_false_iff.2 hb
    refine (tells_readArg hn).behind [] rfl fun s hs => ?_
    obtain ⟨s, rfl⟩ := List.head?_eq_some_iff.1 (hs (List.cons_ne_nil c t))
    refine ⟨fun e he => readArgs_error hb he, ?_⟩
    rintro ⟨ns, rest⟩ hn rfl
    exact ⟨[⟨ns⟩], by rw [List.nil_append, readArgs_arg hb hn, readArgs]; rfl, trivial⟩
  | case4 c t hb ns rest hn _ _ hrest ih =>
    cases h
    obtain ⟨e, hrun⟩ := readArg_eq_ok_iff.1 hn
    have hne : rest ≠ [] := by
      rintro rfl
      rw [readArgs] at hrest
      cases hrest
    have hclosed := hrun.isClosed hne
    rw [e]
    refine (ih hrest).behind (renderAll ns) (hrun.not_dangles hclosed) fun s hs => ?_
    have hs : ∀ d ∈ s.head?, isBlank d := by
      rw [hs hne]
      exact (isRun_iff.1 hrun).1
    exact .of_map (readArgs_run (hrun.ne_nil (Bool.eq_false_iff.2 hb) e) (hrun.restart hclosed hs)) fun _ _ => trivial
  | case5 => cases h

theorem tells_line {line : Text} {e : ReadError} (h : read line = .error e) : Tells read (fun _ => True) line e := by
  have hread : readArgs line = .error e := by
    rw [read] at h
    cases hr : readArgs line with
    | error e' => rw [hr] at h; cases h; rfl
    | ok args => rw [hr] at h; cases h
  exact (tells_readArgs hread).behind [] rfl fun s _ => .of_map rfl fun _ _ => trivial

/-- A line fails in three ways. A quote is left open: closing it gives a line that is read. A `$` stands
at its end: there is more text with which the line is read. A `$` that waits for a name has another
character behind it: the error names it, and stays whatever text is added. -/
theorem read_error {line : Text} {e : ReadError} (h : read line = .error e) :
    (∃ q, (q = '\'' ∨ q = '"') ∧ e = .unexpectedEof (some ⟨q, q⟩) ∧
      ∃ c, read (line ++ if line.dangles then [q, q] else [q]) = .ok c) ∨
    (e = .invalidIdentifier [] ∧ ∃ s c, read (line ++ s) = .ok c) ∨
    ∃ front back c, line = front ++ '$' :: c :: back ∧ isNameChar c = false ∧ e = .invalidIdentifier [c] ∧
      read (front ++ ['$']) = .error (.invalidIdentifier []) ∧ ∀ s, read (line ++ s) = .error e := by
  cases tells_line h with
  | @unclosed q c quote closed _ =>
    simp only [isQuote, Bool.or_eq_true, beq_iff_eq] at quote
    exact .inl ⟨q, quote, rfl, c, closed⟩
  | @unnamed s c named _ => exact .inr (.inl ⟨rfl, s, c, named⟩)
  | misnamed front back found other waiting lost =>
    exact .inr (.inr ⟨front, back, _, found, other, rfl, waiting, lost⟩)

/-- A quote with a backslash at its end, and a `$` in a quote that waits in vain. -/
theorem read_error_open_and_lost :
    read "a\\ '\\".toList = .error (.unterminated '\'') ∧ (∃ c, read ("a\\ '\\".toList ++ ['\'', '\'']) = .ok c) ∧
      read "a \"$\\".toList = .error (.invalidIdentifier ['\\']) ∧
        ∀ s, read ("a \"$\\".toList ++ s) = .error (.invalidIdentifier ['\\']) := by
  have hopen : read "a\\ '\\".toList = .error (.unterminated '\'') := by decide +kernel
  have hlost : read "a \"$\\".toList = .error (.invalidIdentifier ['\\']) := by decide +kernel
  refine ⟨hopen, ?_, hlost, ?_⟩
  · obtain ⟨q, -, hq, hc⟩ | ⟨he, -⟩ | ⟨_, _, _, -, -, he, -⟩ := read_error hopen
    · cases hq
      exact hc
    · cases he
    · cases he
  · obtain ⟨q, -, hq, -⟩ | ⟨he, -⟩ | ⟨_, _, _, -, -, -, -, hs⟩ := read_error hlost
    · cases hq
    · cases he
    · exact hs

end Command

end WrapShell
