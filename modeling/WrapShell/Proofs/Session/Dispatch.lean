import WrapShell.Proofs.Line.Front
import WrapShell.Proofs.Line.Value
import WrapShell.Proofs.Session.Run
/-!
# What a line is for

Whether a line is for the shell itself is read off its first two characters. These start a word, so that the
name of a builtin is spelled by that word and by the files it describes, and by no variable
(`runLine_dispatch`).
-/

namespace WrapShell

theorem isBuiltinLine_iff {line : Text} : isBuiltinLine line ↔ builtinMark <+: line := List.isPrefixOf_iff_prefix

theorem isPlainFront_builtinMark : builtinMark.IsPlainFront where
  nonempty := by decide
  plain := by simp [builtinMark, Text.activeChars]

/-! ## The first word -/

namespace Command

/-- The mark starts a word. -/
theorem exists_word_of_read {t : Text} {c : Command} (h : read (builtinMark ++ t) = .ok c) :
    ∃ v nodes, c.args.flatMap Arg.nodes = .word (builtinMark ++ v) :: nodes := by
  have hblank : isBlank '!' = false := by decide
  have hword : Node.readWord ('!' :: '!' :: t) = (builtinMark ++ (Node.readWord t).1, (Node.readWord t).2) := by
    rw [Node.readWord_char (by decide), Node.readWord_char (by decide)]
    rfl
  have hnode : Node.read ('!' :: '!' :: t) = .ok (.word (builtinMark ++ (Node.readWord t).1), (Node.readWord t).2) := by
    rw [Node.read_word (by decide) (by decide), hword]
  obtain ⟨args⟩ := c
  have hspells : Spells ('!' :: '!' :: t) args := read_eq_ok_iff.1 h
  generalize hline : '!' :: '!' :: t = line at hspells
  cases hspells with
  | nil blanks =>
    rw [← hline, Text.allBlank, List.all_cons, hblank] at blanks
    cases blanks
  | @cons lead rest a args blanks some run more =>
    -- no blank is before the mark
    obtain rfl : lead = [] := by
      cases lead with
      | nil => rfl
      | cons d lead =>
        obtain rfl : '!' = d := (List.cons.inj hline).1
        rw [Text.allBlank, List.all_cons, hblank] at blanks
        cases blanks
    have hread := readArg_eq_ok_iff.2 ⟨hline, run⟩
    rw [readArg_node hblank hnode] at hread
    cases hrest : readArg (Node.readWord t).2 with
    | error => rw [hrest] at hread; cases hread
    | ok found =>
      rw [hrest] at hread
      have hnodes : a.nodes = .word (builtinMark ++ (Node.readWord t).1) :: found.1 :=
        (Prod.mk.inj (Except.ok.inj hread)).1.symm
      exact ⟨(Node.readWord t).1, found.1 ++ args.flatMap Arg.nodes, by rw [List.flatMap_cons, hnodes]; rfl⟩

variable {here : Place} {look : Text → Text} {c : Command} {word : Text} {nodes : List Node} {arguments : List Text}

/-- What the first word gives comes first, under all variables. -/
theorem exists_expand_of_word (hc : c.IsCanonical) (hnodes : c.args.flatMap Arg.nodes = .word word :: nodes)
    (h : c.expand here look = .ok arguments) :
    ∃ ss rest, arguments = ss ++ rest ∧ expandWord here word = .ok ss ∧
      ∀ look', ∃ rest', c.expand here look' = .ok (ss ++ rest') := by
  have hall : ∀ n ∈ nodes, n.IsCanonical := by
    intro n hn
    have hmem : n ∈ c.args.flatMap Arg.nodes := hnodes ▸ List.mem_cons_of_mem _ hn
    obtain ⟨a, ha, hna⟩ := List.mem_flatMap.1 hmem
    exact hc.nodes a ha n hna
  have hexpand (look : Text → Text) : c.expand here look = Node.expandAll here look (.word word :: nodes) := by
    rw [expand, expandArgs_eq_expandAll, hnodes]
  rw [hexpand, Node.expandAll, Node.expand] at h
  cases hword : expandWord here word with
  | error => rw [hword] at h; cases h
  | ok ss =>
    rw [hword] at h
    cases hrest : Node.expandAll here look nodes with
    | error => rw [hrest] at h; cases h
    | ok rest =>
      rw [hrest] at h
      cases h
      refine ⟨ss, rest, rfl, rfl, fun look' => ?_⟩
      rw [hexpand, Node.expandAll, Node.expand, hword]
      -- nodes that expand under some variables expand under all
      rcases @Node.expandAll_shares here look look' nodes hall with ⟨e, he, -⟩ | ⟨shares, -, -, -, hshares⟩
      · rw [hrest] at he
        cases he
      · exact ⟨_, by rw [hshares]⟩

end Command

/-! ## Names of builtins -/

namespace Builtin

variable {b : Builtin} {first : Text}

/-- No name has the mark or a quote in front. -/
theorem isNamed_iff_of_front (h : builtinMark <+: first ∨ ['\''] <+: first) : b.IsNamed first ↔ first = b.invocation := by
  unfold IsNamed
  refine or_iff_left ?_
  rintro rfl
  rcases h with h | h <;> revert h <;> cases b <;> decide

end Builtin

/-! ## Lines -/

namespace Session

variable {run : Runner} {s : Session} {line : Text} {arguments : List Text}

/-- The session with other variables. -/
def withVars (s : Session) (vars : Variables) : Session := { s with env := { s.env with vars := vars } }

theorem Typed.unique {arguments' : List Text} (h : s.Typed line arguments) (h' : s.Typed line arguments') : arguments' = arguments := by
  obtain ⟨c, hread, hexpand⟩ := h
  obtain ⟨c', hread', hexpand'⟩ := h'
  rw [hread] at hread'
  cases hread'
  rw [hexpand] at hexpand'
  exact (Except.ok.inj hexpand').symm

theorem Typed.runLine_eq (h : s.Typed line arguments) (run : Runner) :
    runLine run s.argv (s.env.enter line) line =
      if isBuiltinLine line then runBuiltin (s.env.enter line) arguments
      else runExternal run s.argv (s.env.enter line) arguments := by
  obtain ⟨c, hread, hexpand⟩ := h
  have hexpand : c.expand (s.env.enter line).here (s.env.enter line).lookup = .ok arguments := hexpand
  rw [runLine, hread]
  simp only [hexpand]

/-- The first argument of a line with the mark, under all variables. -/
theorem Typed.exists_first (ht : s.env.here.tree.IsLegal) (hm : builtinMark <+: line) (h : s.Typed line arguments) :
    ∃ first rest, arguments = first :: rest ∧
      (builtinMark <+: first ∨ ∃ v ps p, matchWord s.env.here (builtinMark ++ v) = .ok ps ∧ p ∈ ps ∧ builtinMark <+: p ∧
        ' ' ∈ p ∧ first = '\'' :: p ++ ['\'']) ∧
      ∀ vars, ∃ rest', (s.withVars vars).Typed line (first :: rest') := by
  obtain ⟨t, rfl⟩ := hm
  obtain ⟨c, hread, hexpand⟩ := h
  obtain ⟨v, nodes, hnodes⟩ := Command.exists_word_of_read hread
  obtain ⟨ss, rest, rfl, hword, hvars⟩ := Command.exists_expand_of_word (Command.isCanonical_of_read hread) hnodes hexpand
  obtain ⟨hne, hfront⟩ := expandWord_front ht isPlainFront_builtinMark hword
  obtain ⟨first, ss, rfl⟩ := List.exists_cons_of_ne_nil hne
  refine ⟨first, ss ++ rest, rfl, ?_, fun vars => ?_⟩
  · rcases hfront first List.mem_cons_self with hfirst | ⟨ps, p, hps, hp, hmark, hspace, hfirst⟩
    · exact .inl hfirst
    · have hquoted : quoteSpaced p = '\'' :: p ++ ['\''] := if_pos (by simpa using hspace)
      exact .inr ⟨v, ps, p, hps, hp, hmark, hspace, hfirst.trans hquoted⟩
  · obtain ⟨rest', hrest'⟩ := hvars (s.withVars vars).env.lookup
    exact ⟨ss ++ rest', c, hread, hrest'⟩

/-- A line that is read and expands is for the shell itself exactly if it starts with the mark. Then its first
argument starts with the mark too, or is a path with a space in it that does, in quotes; it is the same under
all variables. It calls the builtin that it is the invocation of, and if there is none, that is reported. -/
theorem runLine_dispatch (ht : s.env.here.tree.IsLegal) (h : s.Typed line arguments) (run : Runner) :
    (¬builtinMark <+: line →
      runLine run s.argv (s.env.enter line) line = runExternal run s.argv (s.env.enter line) arguments) ∧
    (builtinMark <+: line →
      runLine run s.argv (s.env.enter line) line = runBuiltin (s.env.enter line) arguments ∧
      ∃ first rest, arguments = first :: rest ∧
        (builtinMark <+: first ∨ ∃ v ps p, matchWord s.env.here (builtinMark ++ v) = .ok ps ∧ p ∈ ps ∧ builtinMark <+: p ∧
          ' ' ∈ p ∧ first = '\'' :: p ++ ['\'']) ∧
        (∀ b rest', s.Calls line b rest' ↔ first = b.invocation ∧ rest' = rest) ∧
        (∀ b : Builtin, first = b.invocation →
          runLine run s.argv (s.env.enter line) line = .ended (b.call (s.env.enter line) rest)) ∧
        ((∀ b : Builtin, first ≠ b.invocation) →
          s.execute run line = (s.recorded line 127, .diagnostic ("unknown command: " ++ first ++ "\n"), 127)) ∧
        ∀ vars, ∃ rest', (s.withVars vars).Typed line (first :: rest')) := by
  have hrun := h.runLine_eq run
  constructor
  · intro hm
    rw [hrun, if_neg (mt isBuiltinLine_iff.1 hm)]
  · intro hm
    have hmark : isBuiltinLine line := isBuiltinLine_iff.2 hm
    rw [if_pos hmark] at hrun
    obtain ⟨first, rest, rfl, hfirst, hvars⟩ := h.exists_first ht hm
    have hfront : builtinMark <+: first ∨ ['\''] <+: first := by
      rcases hfirst with hfirst | ⟨_, _, p, -, -, -, -, rfl⟩
      · exact .inl hfirst
      · exact .inr ⟨p ++ ['\''], rfl⟩
    have hnamed (b : Builtin) : b.IsNamed first ↔ first = b.invocation := Builtin.isNamed_iff_of_front hfront
    have hcalls (b : Builtin) (rest' : List Text) : s.Calls line b rest' ↔ first = b.invocation ∧ rest' = rest := by
      constructor
      · rintro ⟨-, invocation, hb, htyped⟩
        obtain ⟨rfl, rfl⟩ := List.cons.inj (h.unique htyped)
        exact ⟨(hnamed b).1 hb, rfl⟩
      · rintro ⟨hb, rfl⟩
        exact ⟨hmark, first, (hnamed b).2 hb, h⟩
    refine ⟨hrun, first, rest, rfl, hfirst, hcalls, fun b hb => ?_, fun hnone => ?_, hvars⟩
    · exact ((hcalls b rest).2 ⟨hb, rfl⟩).runLine run
    · have hunknown : runBuiltin (s.env.enter line) (first :: rest) = .failed (s.env.enter line) (.unknownBuiltin first) := by
        cases hname : Builtin.ofName? ((Text.after? builtinMark first).getD first) with
        | none => simp only [runBuiltin, List.headD_cons, hname]
        | some b => exact absurd ((hnamed b).1 (Builtin.isNamed_iff.2 hname)) (hnone b)
      rw [hunknown] at hrun
      exact execute_error (not_allBlank_of_isBuiltinLine hmark) hrun

/-- An escape in the name, and a variable that is another builtin. -/
theorem runLine_dispatch_escaped :
    let s : Session := opened ⟨.empty, []⟩ (.ofList [("X", "!!exit")]) ["git"] none (.inMemory "git" [])
    let line : Text := "!!c\\d $X"
    s.env.here.tree.IsLegal ∧ s.Typed line ["!!cd", "!!exit"] ∧ builtinMark <+: line ∧ s.Calls line .cd ["!!exit"] ∧
      (∀ b rest, s.Calls line b rest ↔ "!!cd" = b.invocation ∧ rest = ["!!exit"]) ∧
      ∀ vars, ∃ rest, (s.withVars vars).Typed line ("!!cd" :: rest) := by
  intro s line
  have hlegal : s.env.here.tree.IsLegal := ⟨fun _ he => (List.not_mem_nil he).elim, fun _ he => (List.not_mem_nil he).elim⟩
  have hread : Command.read line = .ok ⟨[⟨[.word "!!c\\d".toList]⟩, ⟨[.var ['X']]⟩]⟩ := by decide +kernel
  have htyped : s.Typed line ["!!cd", "!!exit"] := ⟨_, hread, by decide +kernel⟩
  have hmark : builtinMark <+: line := by decide
  have hbuiltin := (runLine_dispatch hlegal htyped fun _ _ => .error .notFound).2 hmark
  obtain ⟨-, first, rest, hfirst, -, hcalls, -, -, hvars⟩ := hbuiltin
  obtain ⟨rfl, rfl⟩ := List.cons.inj hfirst
  exact ⟨hlegal, htyped, hmark, (hcalls _ _).2 ⟨rfl, rfl⟩, hcalls, hvars⟩

end Session

end WrapShell
