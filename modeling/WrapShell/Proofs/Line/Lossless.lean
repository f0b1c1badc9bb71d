import WrapShell.Proofs.Line.Canonical
/-!
# Reading a line loses nothing

A line is its written arguments with blanks before, between and after them (`read_lossless`), and
the blanks between them are those that no quote and no backslash guards. Which are guarded is
said by a scan of its own (`Guard`), which knows nothing of nodes.
-/

namespace WrapShell

/-- What guards the next character of a line: the quote it is in, or a backslash before it. -/
structure Guard where
  quote : Option Char
  escaped : Bool
  deriving DecidableEq, Repr

namespace Guard

/-- Nothing guards. -/
def free : Guard := ⟨none, false⟩

/-- The guard behind one more character. -/
def next (g : Guard) (c : Char) : Guard :=
  if g.escaped then { g with escaped := false }
  else if c = '\\' then { g with escaped := true }
  else
    match g.quote with
    | none => if isQuote c then { g with quote := some c } else g
    | some q => if c = q then free else g

/-- For each character whether it is a blank that nothing guards. -/
def separates : Guard → Text → List Bool
  | _, [] => []
  | g, c :: t => (g == free && isBlank c) :: separates (g.next c) t

/-- No character of `t` separates, and `h` is the guard behind it. -/
def Covers (g : Guard) (t : Text) (h : Guard) : Prop :=
  g.separates t = t.map (fun _ => false) ∧ t.foldl next g = h

theorem separates_append (g : Guard) (s t : Text) :
    g.separates (s ++ t) = g.separates s ++ (s.foldl next g).separates t := by
  induction s generalizing g with
  | nil => rfl
  | cons c s ih => simp [separates, ih]

variable {g g' h : Guard} {s t : Text} {c q : Char}

theorem Covers.refl (g : Guard) : g.Covers [] g := ⟨rfl, rfl⟩

theorem Covers.append (hs : g.Covers s g') (ht : g'.Covers t h) : g.Covers (s ++ t) h := by
  obtain ⟨hs, rfl⟩ := hs
  obtain ⟨ht, rfl⟩ := ht
  exact ⟨by rw [separates_append, hs, ht, List.map_append], by rw [List.foldl_append]⟩

theorem Covers.cons (hc : g = free → isBlank c = false) (ht : (g.next c).Covers t h) : g.Covers (c :: t) h := by
  obtain ⟨ht, rfl⟩ := ht
  refine ⟨?_, rfl⟩
  rw [separates, ht, List.map_cons]
  by_cases hg : g = free
  · simp [hg, hc hg]
  · simp [hg]

/-- A backslash and the character it takes along leave the guard as it was. -/
theorem Covers.pair (o : Option Char) (ht : Covers ⟨o, false⟩ t h) : Covers ⟨o, false⟩ ('\\' :: c :: t) h :=
  .cons (fun _ => by decide) (.cons (by simp [next, free]) (by simpa [next] using ht))

/-- So does a character that is no blank and neither opens nor closes anything. -/
theorem Covers.plain {o : Option Char} (hs : c ≠ '\\') (hq : isQuote c = false) (hb : isBlank c = false)
    (ho : ∀ q ∈ o, isQuote q) (ht : Covers ⟨o, false⟩ t h) : Covers ⟨o, false⟩ (c :: t) h := by
  refine .cons (fun _ => hb) ?_
  cases o with
  | none => simpa [next, hs, hq] using ht
  | some q =>
    have : c ≠ q := by rintro rfl; simp [ho c rfl] at hq
    simpa [next, hs, this] using ht

theorem covers_name {name : Text} {o : Option Char} (ho : ∀ q ∈ o, isQuote q) (h : ∀ c ∈ name, isNameChar c) :
    Covers ⟨o, false⟩ name ⟨o, false⟩ := by
  induction name with
  | nil => exact .refl _
  | cons c name ih =>
    obtain ⟨hc, hname⟩ := List.forall_mem_cons.1 h
    refine .plain ?_ ?_ ?_ ho (ih hname)
    · rintro rfl; simp [isNameChar_special] at hc
    · cases hq : isQuote c with
      | false => rfl
      | true => simp [isNameChar_of_isQuote hq] at hc
    · cases hb : isBlank c with
      | false => rfl
      | true => simp [isNameChar_of_isBlank hb] at hc

/-- A value escaped for a quote stays inside that quote. -/
theorem covers_escaping {v : Text} {alone : Char → Bool} (hq : q ≠ '\\') (h : v.escapes alone (· != q) false) :
    Covers ⟨some q, false⟩ (escaping q v) ⟨some q, false⟩ := by
  induction v using Text.pairInduction with
  | nil => exact .refl _
  | dangling => cases h
  | pair c v ih =>
    simp only [Text.escapes_pair, Bool.and_eq_true, bne_iff_ne] at h
    rw [escaping_cons_ne hq.symm, escaping_cons_ne h.1]
    exact .pair _ (ih h.2)
  | char c v hc ih =>
    rw [Text.escapes_char hc, Bool.and_eq_true] at h
    -- in the written form a quote comes with a backslash, which guards it
    by_cases e : c = q
    · rw [e, escaping_cons_self]
      exact .pair _ (ih h.2)
    · rw [escaping_cons_ne e]
      exact .cons (by simp [free]) (by simpa [next, hc, e] using ih h.2)

theorem covers_word {v : Text} (h : isWordText true v) : free.Covers v ⟨none, !isWordText false v⟩ := by
  induction v using Text.pairInduction with
  | nil => exact .refl _
  | dangling => exact ⟨rfl, rfl⟩
  | pair c v ih => exact .pair _ (ih h)
  | char c v hc ih =>
    have hw : isWordText false (c :: v) = isWordText false v := by
      simp only [isWordText_char hc, Bool.and_eq_true] at h ⊢
      simp [h.1]
    simp only [isWordText_char hc, Bool.and_eq_true, Bool.not_eq_true', Bool.or_eq_false_iff] at h
    rw [hw]
    exact .plain hc h.1.1 h.1.2 (by simp) (ih h.2)

theorem covers_children {ns : List Node} (h : ∀ n ∈ ns, n.IsChild) :
    Covers ⟨some '"', false⟩ (Node.renderAll ns) ⟨some '"', false⟩ := by
  induction ns with
  | nil => exact .refl _
  | cons n ns ih =>
    obtain ⟨hn, hns⟩ := List.forall_mem_cons.1 h
    refine .append ?_ (ih hns)
    cases n with
    | quoted v => exact covers_escaping (by decide) hn.2
    | var name => exact .cons (by simp [free]) (covers_name (by simp [isQuote]) hn.2)
    | word | single | double => exact hn.elim

/-- A quote with its delimiters leaves nothing guarded. -/
theorem covers_quote {body : Text} (hq : isQuote q) (hb : Covers ⟨some q, false⟩ body ⟨some q, false⟩) :
    free.Covers (q :: body ++ [q]) free := by
  simp only [isQuote, Bool.or_eq_true, beq_iff_eq] at hq
  rcases hq with rfl | rfl
  all_goals exact .append (.cons (fun _ => by decide) hb) (.cons (by simp [free]) (.refl _))

theorem covers_node {n : Node} (h : n.IsCanonical) : ∃ g, free.Covers n.render g ∧ (n.IsClosed → g = free) := by
  cases n with
  | word v =>
    refine ⟨⟨none, !isWordText false v⟩, covers_word h.2.2, fun hc => ?_⟩
    rw [show isWordText false v = true from hc]
    rfl
  | quoted => exact h.elim
  | single v => exact ⟨free, covers_quote rfl (covers_escaping (by decide) h), fun _ => rfl⟩
  | double ns => exact ⟨free, covers_quote rfl (covers_children h.1), fun _ => rfl⟩
  | var name => exact ⟨free, .cons (fun _ => by decide) (covers_name (by simp) h.2), fun _ => rfl⟩

theorem covers_run {ns : List Node} (hn : ∀ n ∈ ns, n.IsCanonical) (hc : ∀ n ∈ ns.dropLast, n.IsClosed) :
    ∃ g, free.Covers (Node.renderAll ns) g ∧ ((∀ n ∈ ns, n.IsClosed) → g = free) := by
  induction ns with
  | nil => exact ⟨free, .refl _, fun _ => rfl⟩
  | cons n ns ih =>
    obtain ⟨hn, hns⟩ := List.forall_mem_cons.1 hn
    obtain ⟨g, hg, hfree⟩ := covers_node hn
    cases ns with
    | nil => exact ⟨g, by simpa [Node.renderAll] using hg, fun h => hfree (h n (by simp))⟩
    | cons m ns =>
      rw [List.dropLast_cons_of_ne_nil (by simp), List.forall_mem_cons] at hc
      obtain ⟨g', hg', hfree'⟩ := ih hns hc.2
      rw [hfree hc.1] at hg
      exact ⟨g', hg.append hg', fun h => hfree' (List.forall_mem_cons.1 h).2⟩

theorem next_blank {c : Char} (hb : isBlank c) : free.next c = free := by
  have hs : c ≠ '\\' := by rintro rfl; revert hb; decide
  have hq : isQuote c = false := by
    cases h : isQuote c with
    | false => rfl
    | true =>
      simp only [isQuote, Bool.or_eq_true, beq_iff_eq] at h
      rcases h with rfl | rfl <;> revert hb <;> decide
  simp [next, free, hs, hq]

/-- Where nothing guards, every blank separates. -/
theorem separates_blanks {w : Text} (hw : w.allBlank) (t : Text) :
    free.separates (w ++ t) = w.map (fun _ => true) ++ free.separates t := by
  induction w with
  | nil => rfl
  | cons c w ih =>
    simp only [Text.allBlank, List.all_cons, Bool.and_eq_true] at hw
    simp [separates, hw.1, next_blank hw.1, ih hw.2]

end Guard

namespace Command

/-- Arguments with the blanks that follow each. -/
def spaced (rs gaps : List Text) : Text := (List.zipWith (· ++ ·) rs gaps).flatten

/-- The same with `false` for each character of an argument and `true` for each blank. -/
def spacedMarks (rs gaps : List Text) : List Bool :=
  (List.zipWith (fun r g => r.map (fun _ => false) ++ g.map fun _ => true) rs gaps).flatten

/-- An argument does not start with a blank. -/
theorem IsCanonical.head_arg {a : Arg} {args : List Arg} (h : (Command.mk (a :: args)).IsCanonical) :
    ∃ c t, a.render = c :: t ∧ isBlank c = false := by
  obtain ⟨n, ns, e⟩ := List.exists_cons_of_ne_nil (h.nonempty a (by simp))
  obtain ⟨c, t, hc, hb⟩ := (h.nodes a (by simp) n (by simp [e])).head_render
  exact ⟨c, t ++ Node.renderAll ns, by simp [Arg.render, e, Node.renderAll, hc], hb⟩

theorem Spells.lossless {t : Text} {args : List Arg} (h : Spells t args) :
    ∃ lead gaps, gaps.length = args.length ∧ lead.allBlank ∧ (∀ g ∈ gaps, g.allBlank) ∧
      (∀ g ∈ gaps.dropLast, g ≠ []) ∧ t = lead ++ spaced (args.map Arg.render) gaps ∧
      Guard.free.separates t = lead.map (fun _ => true) ++ spacedMarks (args.map Arg.render) gaps := by
  induction h with
  | @nil t hb =>
    refine ⟨t, [], rfl, hb, by simp, by simp, by simp [spaced], ?_⟩
    simpa [Guard.separates, spacedMarks] using Guard.separates_blanks hb []
  | @cons lead rest a args hb hne hr more ih =>
    obtain ⟨gap, gaps, hlen, hgap, hgaps, hlast, e, hs⟩ := ih
    obtain ⟨hblank, hn, -, hcl, hrest⟩ := isRun_iff.1 hr
    obtain ⟨g, hg, hfree⟩ := Guard.covers_run hn hcl
    -- behind a backslash left open there is nothing more to scan
    have htail : g.separates rest = Guard.free.separates rest := by
      rcases hrest with rfl | hrest
      · rfl
      · rw [hfree hrest]
    refine ⟨lead, gap :: gaps, by simp [hlen], hb, List.forall_mem_cons.2 ⟨hgap, hgaps⟩, ?_, ?_, ?_⟩
    · cases args with
      | nil => simp [List.length_eq_zero_iff.1 hlen]
      | cons b args =>
        have hgne : gaps ≠ [] := by rintro rfl; cases hlen
        rw [List.dropLast_cons_of_ne_nil hgne]
        refine List.forall_mem_cons.2 ⟨?_, hlast⟩
        -- the next argument does not start with a blank, but the rest does
        rintro rfl
        obtain ⟨c, u, hc, hcb⟩ := more.isCanonical.head_arg
        obtain ⟨g', gaps', rfl⟩ := List.exists_cons_of_ne_nil hgne
        have := hblank c (by simp [e, spaced, hc])
        simp [hcb] at this
    · simp [spaced, Arg.render, e]
    · rw [List.append_assoc, Guard.separates_blanks hb, Guard.separates_append, Arg.render, hg.1, hg.2, htail, hs]
      simp [spacedMarks, Arg.render]

/-- A line that is read is its written arguments with blanks around them, and between two of them
there is a blank. The blanks that nothing guards are these and no others. -/
theorem read_lossless {line : Text} {c : Command} (h : read line = .ok c) :
    ∃ lead gaps, gaps.length = c.renderArgs.length ∧ lead.allBlank ∧ (∀ g ∈ gaps, g.allBlank) ∧
      (∀ g ∈ gaps.dropLast, g ≠ []) ∧ line = lead ++ spaced c.renderArgs gaps ∧
      Guard.free.separates line = lead.map (fun _ => true) ++ spacedMarks c.renderArgs gaps := by
  obtain ⟨lead, gaps, hlen, hlead⟩ := (read_eq_ok_iff.1 h).lossless
  exact ⟨lead, gaps, by simpa [renderArgs] using hlen, hlead⟩

/-- Here a blank stands between arguments, behind a backslash, in a quote and behind the last node. -/
theorem read_lossless_glued :
    ∃ (lead : Text) (gaps : List Text), gaps.length = 3 ∧ lead.allBlank ∧ (∀ g ∈ gaps, g.allBlank) ∧
      (∀ g ∈ gaps.dropLast, g ≠ []) ∧
      "\tls a\\ b\"$x y\"'it\\'s'  \\".toList =
        lead ++ spaced [['l', 's'], "a\\ b\"$x y\"'it\\'s'".toList, ['\\']] gaps ∧
      Guard.free.separates "\tls a\\ b\"$x y\"'it\\'s'  \\".toList =
        lead.map (fun _ => true) ++ spacedMarks [['l', 's'], "a\\ b\"$x y\"'it\\'s'".toList, ['\\']] gaps :=
  read_lossless (show read "\tls a\\ b\"$x y\"'it\\'s'  \\".toList = .ok ⟨[⟨[.word ['l', 's']]⟩,
    ⟨[.word "a\\ b".toList, .double [.var ['x'], .quoted [' ', 'y']], .single "it's".toList]⟩, ⟨[.word ['\\']]⟩]⟩ by
      decide +kernel)

end Command

end WrapShell
