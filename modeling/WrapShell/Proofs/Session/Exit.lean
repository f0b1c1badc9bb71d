import WrapShell.Proofs.Number.Integer
import WrapShell.Proofs.Session.Directory
/-!
# Leaving with a status

A line ends its session with the integer that its argument writes (`execute_exit`). A negative integer
needs `--` in front, since without it the minus sign is taken for the start of a switch.
-/

namespace WrapShell

/-! ## One argument -/

namespace Grammar

variable {g : Grammar} {o : Operand} {a : Text}

theorem read_operand (ho : g.operand = some o) (hhelp : a ∉ helpWords) (hdash : a.head? ≠ some '-') :
    g.read [a] = .ok { operands := [a] } := by
  simp [read, readFrom, ho, hhelp, hdash]

/-- Behind `--` everything is an operand. -/
theorem read_operand_ended (ho : g.operand = some o) : g.read ["--".toList, a] = .ok { operands := [a] } := by
  simp [read, readFrom, ho, helpWords]

theorem read_unrecognized (hswitch : g.switch? a = none) (hhelp : a ∉ helpWords) (hdash : a.head? = some '-')
    (hended : a ≠ ['-', '-']) : g.read [a] = .error (.unrecognized a) := by
  simp [read, readFrom, hswitch, hhelp, hdash, hended]

end Grammar

/-! ## Integers as arguments -/

theorem isSpecial_digit {c : Char} (h : c.isDigit) : isSpecial c = false := by
  have hall : ∀ k < 58, 48 ≤ k → isSpecial (Char.ofNat k) = false := by decide
  simp only [Char.isDigit, Bool.and_eq_true, decide_eq_true_eq] at h
  have hspecial := hall c.toNat (Nat.lt_succ_of_le h.2) h.1
  rwa [Char.ofNat_toNat] at hspecial

/-- No character of a decimal integer has to be escaped. -/
theorem standsFor_ofInt (n : Int) : (Node.word (Text.ofInt n)).StandsFor (Text.ofInt n) := by
  have hplain : ∀ c ∈ Text.ofInt n, isSpecial c = false ∧ c ≠ '$' := by
    intro c hc
    rcases mem_ofInt hc with hdigit | rfl
    · exact ⟨isSpecial_digit hdigit, by rintro rfl; cases hdigit⟩
    · decide
  have hmarks : (Text.ofInt n).MarksSpecial fun _ => false := fun i c hc hspecial => by
    rw [(hplain c (List.mem_of_getElem? hc)).1] at hspecial
    cases hspecial
  have hstands := Node.standsFor_escapeAt (ofInt_ne_nil n) hmarks fun h => absurd rfl (hplain '$' (List.mem_of_mem_head? h)).2
  rwa [Text.escapeAt_none] at hstands

theorem ofInt_not_help (n : Int) : Text.ofInt n ∉ Grammar.helpWords := by
  intro h
  have hletter : ∀ a ∈ Grammar.helpWords, 'h' ∈ a := by decide
  rcases mem_ofInt (hletter _ h) with hdigit | hdash
  · cases hdigit
  · cases hdash

namespace Session

variable {run : Runner} {s : Session} {line t : Text} {n : Int}

theorem contains_signed : (IntegerRange.signed 32).contains n ↔ -2 ^ 31 ≤ n ∧ n < 2 ^ 31 := by
  have h : Nat.pow 2 31 = 2147483648 := by decide
  simp only [IntegerRange.contains, IntegerRange.signed, Nat.add_one_sub_one, h, Bool.and_eq_true, decide_eq_true_eq]
  omega

theorem leaves_of_isDecimal {arguments : List Text} (hcalls : s.Calls line .exit arguments)
    (hgiven : Builtin.exit.grammar.read arguments = .ok { operands := [t] }) (ht : IsDecimal t n) (hn : -2 ^ 31 ≤ n ∧ n < 2 ^ 31) :
    s.Leaves line n :=
  ⟨arguments, _, t, hcalls, hgiven, rfl, (readInteger_eq_ok_iff (by decide)).2 ⟨ht, contains_signed.2 hn⟩⟩

/-- A text that looks like no switch is the status, if it writes an integer of the range; no other is taken. -/
theorem execute_exit_argument (run : Runner) (hcalls : s.Calls line .exit [t]) (hhelp : t ∉ Grammar.helpWords)
    (hdash : t.head? ≠ some '-') :
    (∀ n, IsDecimal t n → -2 ^ 31 ≤ n ∧ n < 2 ^ 31 → s.execute run line = (s.left line n, {}, n)) ∧
    ((∀ n, IsDecimal t n → ¬(-2 ^ 31 ≤ n ∧ n < 2 ^ 31)) → ∃ problem : IntegerError, s.execute run line =
      (s.recorded line 1,
        .diagnostic ("!!exit: invalid exit code '".toList ++ t ++ "': ".toList ++ problem.message ++ ['\n']), 1)) := by
  have hgiven := Grammar.read_operand (g := Builtin.exit.grammar) rfl hhelp hdash
  refine ⟨fun n ht hn => (leaves_of_isDecimal hcalls hgiven ht hn).execute_eq run, fun hnone => ?_⟩
  cases hread : readInteger (.signed 32) 10 t with
  | ok n =>
    obtain ⟨ht, hn⟩ := (readInteger_eq_ok_iff (by decide)).1 hread
    exact absurd (contains_signed.1 hn) (hnone n ht)
  | error problem =>
    have hrun : Builtin.exit.run (s.env.enter line) { operands := [t] } =
        .failed (s.env.enter line) (.invalidCode t problem) := by
      simp [Builtin.run, Builtin.leave, hread]
    refine ⟨problem, ?_⟩
    rw [hcalls.execute_failed run hgiven hrun]
    rfl

/-- A negative integer looks like a switch, and there is none of that name. -/
theorem execute_exit_negative (run : Runner) (hn : n < 0) (hcalls : s.Calls line .exit [Text.ofInt n]) :
    s.execute run line = (s.recorded line 1, .diagnostic ("Unrecognized argument: ".toList ++ Text.ofInt n ++ ['\n']), 1) := by
  obtain ⟨k, rfl⟩ := Int.eq_negSucc_of_lt_zero hn
  have hminus : '-' ∉ Text.ofNat (k + 1) := fun h => by cases (digits_ofNat (k + 1)).2.1 '-' h
  have hended : Text.ofInt (.negSucc k) ≠ ['-', '-'] := fun h => hminus ((List.cons.inj h).2 ▸ List.mem_cons_self)
  have hrefused := Grammar.read_unrecognized (g := Builtin.exit.grammar) rfl (ofInt_not_help _) rfl hended
  have hline := hcalls.runLine run
  simp only [Builtin.call, hrefused, reduceCtorEq, if_false] at hline
  rw [execute_ok (not_allBlank_of_isBuiltinLine hcalls.marked) hline, recorded]
  rfl

/-- A line that asks for a status in the usual digits ends the session with it if it is not negative; a
negative one is only taken behind `--`, and without that nothing comes of the line. Any other single argument
that looks like no switch is taken if it writes an integer of 32 bits, and only then; every text is an
argument with its special characters escaped. -/
theorem execute_exit (run : Runner) (s : Session) :
    (∀ n : Int, -2 ^ 31 ≤ n ∧ n < 2 ^ 31 →
      let line := "!!exit ".toList ++ Text.ofInt n
      let ended := "!!exit -- ".toList ++ Text.ofInt n
      (0 ≤ n → s.execute run line = (s.left line n, {}, n)) ∧
      (n < 0 → s.execute run line =
        (s.recorded line 1, .diagnostic ("Unrecognized argument: ".toList ++ Text.ofInt n ++ ['\n']), 1)) ∧
      s.execute run ended = (s.left ended n, {}, n)) ∧
    ∀ t : Text, t ∉ Grammar.helpWords → t.head? ≠ some '-' →
      (∀ line, s.Calls line .exit [t] →
        (∀ n, IsDecimal t n → -2 ^ 31 ≤ n ∧ n < 2 ^ 31 → s.execute run line = (s.left line n, {}, n)) ∧
        ((∀ n, IsDecimal t n → ¬(-2 ^ 31 ≤ n ∧ n < 2 ^ 31)) → ∃ problem : IntegerError, s.execute run line =
          (s.recorded line 1,
            .diagnostic ("!!exit: invalid exit code '".toList ++ t ++ "': ".toList ++ problem.message ++ ['\n']), 1))) ∧
      ∀ marked, t ≠ [] → t.MarksSpecial marked → (t.head? = some '$' → marked 0) →
        s.Calls ("!!exit ".toList ++ t.escapeAt marked) .exit [t] := by
  have hcalls {node : Node} {t : Text} (h : node.StandsFor t) : s.Calls ("!!exit ".toList ++ node.render) .exit [t] := by
    have hline := s.calls_standing .exit (.cons h .nil)
    rw [List.map_singleton, List.intercalate_cons_cons, List.intercalate_singleton] at hline
    exact hline
  refine ⟨fun n hn => ⟨fun hnat => ?_, fun hneg => execute_exit_negative run hneg (hcalls (standsFor_ofInt n)), ?_⟩,
    fun t hhelp hdash => ⟨fun line hline => execute_exit_argument run hline hhelp hdash, fun marked hne hmarks hvar => ?_⟩⟩
  · obtain ⟨k, rfl⟩ := Int.eq_ofNat_of_zero_le hnat
    have hdash : (Text.ofInt k).head? ≠ some '-' := fun h => by
      cases (digits_ofNat k).2.1 '-' (List.mem_of_mem_head? h)
    exact (execute_exit_argument run (hcalls (standsFor_ofInt k)) (ofInt_not_help k) hdash).1 k (isDecimal_ofInt k) hn
  · have hended : (Node.word "--".toList).StandsFor "--".toList := ⟨by decide, by decide, fun _ _ => rfl⟩
    have hline := s.calls_standing .exit (.cons hended (.cons (standsFor_ofInt n) .nil))
    rw [List.map_cons, List.map_singleton, List.intercalate_cons_cons, List.intercalate_cons_cons,
      List.intercalate_singleton] at hline
    have hcalls : s.Calls ("!!exit -- ".toList ++ Text.ofInt n) .exit ["--".toList, Text.ofInt n] := hline
    exact (leaves_of_isDecimal hcalls (Grammar.read_operand_ended rfl) (isDecimal_ofInt n) hn).execute_eq run
  · exact hcalls (Node.standsFor_escapeAt hne hmarks hvar)

/-- The greatest and the least status, and a text with a blank in it. -/
theorem execute_exit_limits :
    let run : Runner := fun _ _ => .error .notFound
    let s : Session := opened ⟨.empty, []⟩ .empty ["git"] none (.inMemory "git" [])
    s.execute run "!!exit 2147483647" = (s.left "!!exit 2147483647" 2147483647, {}, 2147483647) ∧
      s.execute run "!!exit -2147483648" =
        (s.recorded "!!exit -2147483648" 1, .diagnostic "Unrecognized argument: -2147483648\n", 1) ∧
      s.execute run "!!exit -- -2147483648" = (s.left "!!exit -- -2147483648" (-2147483648), {}, -2147483648) ∧
      ∃ problem : IntegerError, s.execute run "!!exit 1\\ 2" = (s.recorded "!!exit 1\\ 2" 1,
        .diagnostic ("!!exit: invalid exit code '".toList ++ "1 2" ++ "': ".toList ++ problem.message ++ ['\n']), 1) := by
  intro run s
  obtain ⟨hint, htext⟩ := execute_exit run s
  obtain ⟨hgreatest, -, -⟩ := hint 2147483647 (by decide)
  obtain ⟨-, hleast, hended⟩ := hint (-2147483648) (by decide)
  obtain ⟨hargument, hescaped⟩ := htext "1 2" (by decide) (by decide)
  have hmarks : Text.MarksSpecial (fun i => i == 1) "1 2" := by
    rintro i c hc hspecial
    match i with
    | 0 => cases hc; cases hspecial
    | 1 => rfl
    | 2 => cases hc; cases hspecial
  have hblank : ∀ n, ¬IsDecimal "1 2" n := fun n h => by
    cases h with
    | bare _ digits => cases digits ' ' (by decide)
  exact ⟨hgreatest (by decide), hleast (by decide), hended,
    (hargument _ (hescaped _ (by decide) hmarks (by decide))).2 fun n h => absurd h (hblank n)⟩

end Session

end WrapShell
