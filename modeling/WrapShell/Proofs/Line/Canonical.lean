import WrapShell.Proofs.Line.Reader
/-!
# Canonical lines are the lines that are read

Reading gives canonical lines only, and every canonical line is read back from its written form
(`isCanonical_iff_read`), so two canonical lines are never written alike.
-/

namespace WrapShell

namespace Command

open Node

/-- A run, said without the text of its nodes: what stands side by side is told apart, and only
the last node may leave a backslash open, if nothing follows. -/
theorem isRun_iff {ns : List Node} {rest : Text} :
    IsRun ns rest ↔ (∀ c ∈ rest.head?, isBlank c) ∧ (∀ n ∈ ns, n.IsCanonical) ∧ ns.IsChain MayPrecede ∧
      (∀ n ∈ ns.dropLast, n.IsClosed) ∧ (rest = [] ∨ ∀ n ∈ ns, n.IsClosed) := by
  induction ns with
  | nil => simp [IsRun]
  | cons n ns ih =>
    rw [IsRun, ih]
    cases ns with
    | nil =>
      simp only [renderAll, List.nil_append, List.dropLast_nil, List.dropLast_singleton, List.forall_mem_singleton,
        List.not_mem_nil, List.isChain_singleton, List.isChain_nil, false_imp_iff, implies_true, true_and, or_true, and_true]
      constructor
      · rintro ⟨hn, he, hb⟩
        exact ⟨hb, hn, (hn.endsBefore_blank hb).1 he⟩
      · rintro ⟨hb, hn, he⟩
        exact ⟨hn, (hn.endsBefore_blank hb).2 he, hb⟩
    | cons m ns =>
      -- `n` ends before `m` exactly if they may stand side by side and `n` is closed
      simp only [List.forall_mem_cons, List.isChain_cons_cons, List.dropLast_cons_of_ne_nil (List.cons_ne_nil m ns), renderAll,
        List.append_assoc]
      constructor
      · rintro ⟨hn, he, hb, ⟨hm, hns⟩, hch, hcl, hr⟩
        obtain ⟨hmp, hnc⟩ := (hn.endsBefore_iff hm).1 he
        exact ⟨hb, ⟨hn, hm, hns⟩, ⟨hmp, hch⟩, ⟨hnc, hcl⟩, hr.imp id fun h => ⟨hnc, h⟩⟩
      · rintro ⟨hb, ⟨hn, hm, hns⟩, ⟨hmp, hch⟩, ⟨hnc, hcl⟩, hr⟩
        exact ⟨hn, (hn.endsBefore_iff hm).2 ⟨hmp, hnc⟩, hb, ⟨hm, hns⟩, hch, hcl, hr.imp id fun h => h.2⟩

theorem IsRun.isClosed {ns : List Node} {rest : Text} (h : IsRun ns rest) (hne : rest ≠ []) : ∀ n ∈ ns, n.IsClosed :=
  (isRun_iff.1 h).2.2.2.2.resolve_left hne

/-- Closed nodes are the same run before any other blank. -/
theorem IsRun.restart {ns : List Node} {rest s : Text} (h : IsRun ns rest) (hc : ∀ n ∈ ns, n.IsClosed)
    (hs : ∀ c ∈ s.head?, isBlank c) : IsRun ns s := by
  obtain ⟨-, hn, hch, hcl, -⟩ := isRun_iff.1 h
  exact isRun_iff.2 ⟨hs, hn, hch, hcl, .inr hc⟩

/-- What it takes to put one more argument in front. -/
theorem isCanonical_cons {a : Arg} {args : List Arg} :
    (mk (a :: args)).IsCanonical ↔ a.nodes ≠ [] ∧ (∀ n ∈ a.nodes, n.IsCanonical) ∧ a.nodes.IsChain MayPrecede ∧
      (∀ n ∈ a.nodes.dropLast, n.IsClosed) ∧ (args = [] ∨ ∀ n ∈ a.nodes, n.IsClosed) ∧ (mk args).IsCanonical := by
  cases args with
  | nil =>
    constructor
    · rintro ⟨hne, hn, hch, hcl⟩
      exact ⟨by simpa using hne, by simpa using hn, by simpa using hch, by simpa using hcl, .inl rfl,
        by simp, by simp, by simp, by simp⟩
    · rintro ⟨hne, hn, hch, hcl, -, -⟩
      exact ⟨by simpa, by simpa, by simpa, by simpa⟩
  | cons b args =>
    -- the last node of all is in an argument behind `a`
    have drop (hb : b.nodes ≠ []) : ((a :: b :: args).flatMap Arg.nodes).dropLast =
        a.nodes ++ ((b :: args).flatMap Arg.nodes).dropLast := by
      rw [List.flatMap_cons, List.dropLast_append_of_ne_nil (by simp [hb])]
    constructor
    · rintro ⟨hne, hn, hch, hcl⟩
      rw [drop (hne b (by simp)), List.forall_mem_append] at hcl
      rw [List.forall_mem_cons] at hne hn hch
      exact ⟨hne.1, hn.1, hch.1, fun n h => hcl.1 n ((List.dropLast_sublist _).subset h), .inr hcl.1, hne.2, hn.2, hch.2, hcl.2⟩
    · rintro ⟨hne, hn, hch, -, hcl, hb⟩
      refine ⟨List.forall_mem_cons.2 ⟨hne, hb.1⟩, List.forall_mem_cons.2 ⟨hn, hb.2⟩, List.forall_mem_cons.2 ⟨hch, hb.3⟩, ?_⟩
      rw [drop (hb.1 b (by simp))]
      exact List.forall_mem_append.2 ⟨by simpa using hcl, hb.4⟩

theorem Spells.ne_nil {t : Text} {a : Arg} {args : List Arg} (h : Spells t (a :: args)) : t ≠ [] := by
  cases h with
  | cons _ hne hr _ =>
    obtain ⟨c, u, e, -⟩ := hr.head_render hne
    simp [Arg.render, e]

theorem Spells.isCanonical {t : Text} {args : List Arg} (h : Spells t args) : (mk args).IsCanonical := by
  induction h with
  | nil => exact ⟨by simp, by simp, by simp, by simp⟩
  | @cons lead rest a args _ hne hr more ih =>
    obtain ⟨-, hn, hch, hcl, hrest⟩ := isRun_iff.1 hr
    refine isCanonical_cons.2 ⟨hne, hn, hch, hcl, ?_, ih⟩
    cases args with
    | nil => exact .inl rfl
    -- with an argument behind it, the rest of the line is not empty
    | cons b args => exact .inr (hrest.resolve_left more.ne_nil)

theorem render_cons (a : Arg) (args : List Arg) :
    render ⟨a :: args⟩ = a.render ++ if args = [] then [] else ' ' :: render ⟨args⟩ := by
  cases args <;> simp [render, renderArgs, List.intercalate]

theorem IsCanonical.spells {args : List Arg} (h : (Command.mk args).IsCanonical) : Spells (render ⟨args⟩) args := by
  induction args with
  | nil => exact .nil rfl
  | cons a args ih =>
    obtain ⟨hne, hn, hch, hcl, hrest, hargs⟩ := isCanonical_cons.1 h
    rw [render_cons]
    by_cases he : args = []
    · subst he
      exact @Spells.cons [] [] a [] rfl hne (isRun_iff.2 ⟨by simp, hn, hch, hcl, .inl rfl⟩) (.nil rfl)
    · have hb : isBlank ' ' := by decide
      rw [if_neg he]
      refine @Spells.cons [] _ a args rfl hne (isRun_iff.2 ⟨?_, hn, hch, hcl, .inr (hrest.resolve_left he)⟩) ((ih hargs).blank hb)
      rintro c ⟨⟩
      exact hb

theorem read_eq_ok_iff {line : Text} {c : Command} : read line = .ok c ↔ Spells line c.args := by
  rw [← readArgs_eq_ok_iff, read]
  cases readArgs line with
  | error => simp [Except.map]
  | ok args => cases c; simp [Except.map]

theorem isCanonical_of_read {line : Text} {c : Command} (h : read line = .ok c) : c.IsCanonical :=
  (read_eq_ok_iff.1 h).isCanonical

theorem IsCanonical.read_render {c : Command} (h : c.IsCanonical) : read c.render = .ok c := read_eq_ok_iff.2 h.spells

/-- Canonical are exactly the lines that some text is read as, and of these each is what its own
written form is read as. -/
theorem isCanonical_iff_read (c : Command) :
    (c.IsCanonical ↔ ∃ line, read line = .ok c) ∧ (c.IsCanonical ↔ read c.render = .ok c) ∧
      ∀ d : Command, c.IsCanonical → d.IsCanonical → c.render = d.render → c = d := by
  refine ⟨⟨fun h => ⟨_, h.read_render⟩, fun ⟨_, h⟩ => isCanonical_of_read h⟩, ⟨fun h => h.read_render, isCanonical_of_read⟩,
    fun d hc hd e => ?_⟩
  have hr := hc.read_render
  rw [e, hd.read_render] at hr
  exact (Except.ok.inj hr).symm

/-- An argument of every kind of node, and a backslash left open at the end. -/
theorem isCanonical_iff_read_glued :
    (Command.mk [⟨[.word "a\\ b".toList, .double [.var ['x'], .quoted [' ', 'y']], .single "it's".toList]⟩,
        ⟨[.word ['\\']]⟩]).IsCanonical ∧
      read "a\\ b\"$x y\"'it\\'s' \\".toList =
        .ok ⟨[⟨[.word "a\\ b".toList, .double [.var ['x'], .quoted [' ', 'y']], .single "it's".toList]⟩,
          ⟨[.word ['\\']]⟩]⟩ := by
  have h := isCanonical_iff_read ⟨[⟨[.word "a\\ b".toList, .double [.var ['x'], .quoted [' ', 'y']],
    .single "it's".toList]⟩, ⟨[.word ['\\']]⟩]⟩
  have hc : (Command.mk [⟨[.word "a\\ b".toList, .double [.var ['x'], .quoted [' ', 'y']], .single "it's".toList]⟩,
      ⟨[.word ['\\']]⟩]).IsCanonical := by decide
  exact ⟨hc, h.2.1.1 hc⟩

end Command

end WrapShell
