import WrapShell.Suggest.CommandTree
/-!
# Words in a command tree

Words lead on from where the words before them lead (`walk_append`), and behind words that leave no flag
waiting for its value the suggestions are those of the command reached (`suggest_append`). So inside a
subcommand its tree decides alone (`suggest_subcommand`). The word behind a flag that waits is looked up like
any other: it is the value of the flag only if it names no subcommand and no flag with a value (`walk_value`).
-/

namespace WrapShell

namespace CommandTree

variable {t command sub : CommandTree} {pending : Option FlagInfo} {flag : FlagInfo} {word : Text}
  {words more : List Text} {ask : Ask} {here : Place} {partly : Bool}

/-- A word that a flag takes as its value, and that stands for itself anywhere else at a command: it names
neither a subcommand nor a flag with a value. -/
structure IsOperand (t : CommandTree) (word : Text) : Prop where
  noSubcommand : t.subcommands.lookup word = none
  noValue : ∀ flag, t.flags.lookup word = some flag → flag.source.expectsValue = false

/-! ## One word -/

theorem walk_subcommand (h : t.subcommands.lookup word = some sub) (pending : Option FlagInfo) (words : List Text) :
    t.walk pending (word :: words) = sub.walk none words := by
  simp only [walk, h]

theorem walk_other (h : t.subcommands.lookup word = none) (pending : Option FlagInfo) (words : List Text) :
    t.walk pending (word :: words) = t.walk ((t.flags.lookup word).filter (·.source.expectsValue)) words := by
  simp only [walk, h]

theorem isOperand_iff : t.IsOperand word ↔
    t.subcommands.lookup word = none ∧ (t.flags.lookup word).filter (·.source.expectsValue) = none := by
  rw [Option.filter_eq_none_iff]
  constructor
  · rintro ⟨hsub, hflag⟩
    exact ⟨hsub, fun flag h => by simp [hflag flag h]⟩
  · rintro ⟨hsub, hflag⟩
    exact ⟨hsub, fun flag h => by simpa using hflag flag h⟩

/-- A subcommand is smaller than its command, and so another one. -/
theorem sizeOf_lt_of_lookup (h : t.subcommands.lookup word = some sub) : sizeOf sub < sizeOf t := by
  obtain ⟨before, after, hmem, -⟩ := List.lookup_eq_some_iff.1 h
  have hentry : sizeOf (word, sub) < sizeOf t.subcommands := List.sizeOf_lt_of_mem (by simp [hmem])
  obtain ⟨description, subcommands, flags, source⟩ := t
  simp only [Prod.mk.sizeOf_spec, mk.sizeOf_spec] at hentry ⊢
  omega

/-! ## Words one after the other -/

theorem walk_append (t : CommandTree) (pending : Option FlagInfo) (words more : List Text) :
    t.walk pending (words ++ more) = (t.walk pending words).1.walk (t.walk pending words).2 more := by
  induction words generalizing t pending with
  | nil => rfl
  | cons word words ih =>
    rw [List.cons_append]
    cases h : t.subcommands.lookup word with
    | some sub => rw [walk_subcommand h, walk_subcommand h, ih]
    | none => rw [walk_other h, walk_other h, ih]

/-- A flag that waits takes a value. -/
theorem expectsValue_of_walk (hpending : ∀ flag ∈ pending, flag.source.expectsValue)
    (h : t.walk pending words = (command, some flag)) : flag.source.expectsValue := by
  induction words generalizing t pending with
  | nil =>
    obtain ⟨-, rfl⟩ := Prod.mk.inj h
    exact hpending flag rfl
  | cons word words ih =>
    cases hsub : t.subcommands.lookup word with
    | some sub =>
      rw [walk_subcommand hsub] at h
      exact ih (by simp) h
    | none =>
      rw [walk_other hsub] at h
      exact ih (fun next hnext => (Option.mem_filter_iff.1 hnext).2) h

/-! ## Suggestions -/

/-- Behind words that leave no flag waiting, the suggestions are those of the command reached, as if it were
the whole tree. -/
theorem suggest_append (h : t.walk none words = (command, none)) (hmore : more ≠ [] ∨ partly = false) :
    t.suggest ask here (words ++ more) partly = command.suggest ask here more partly := by
  have hwalk (rest : List Text) : t.walk none (words ++ rest) = command.walk none rest := by
    rw [walk_append, h]
  cases partly with
  | false => simp only [suggest, Bool.false_eq_true, if_false, hwalk]
  | true =>
    have hmore : more ≠ [] := hmore.resolve_right (by simp)
    have hlast : (words ++ more).getLastD [] = more.getLastD [] := by
      rw [List.getLastD_eq_getLast?, List.getLastD_eq_getLast?, List.getLast?_append, List.getLast?_eq_some_getLast hmore]
      rfl
    simp only [suggest, if_true, List.dropLast_append_of_ne_nil hmore, hlast, hwalk]

/-- Behind the name of a subcommand the suggestions are those of its tree, whatever stands in front of the name
and leaves no flag waiting: names of commands further out, their flags and the values of these, unknown words. -/
theorem suggest_subcommand (h : t.walk none words = (command, none)) (hsub : command.subcommands.lookup word = some sub)
    (hmore : more ≠ [] ∨ partly = false) :
    t.suggest ask here (words ++ [word] ++ more) partly = sub.suggest ask here more partly := by
  have hword : t.walk none (words ++ [word]) = (sub, none) := by
    rw [walk_append, h, walk_subcommand hsub]
    rfl
  exact suggest_append hword hmore

/-- In front stand a value that is named like a subcommand further in, a command of the same name, an unknown word and
a flag. -/
theorem suggest_subcommand_nested :
    let inner : CommandTree := { subcommands := [("bar", {}), ("baz", {})] }
    let outer : CommandTree := { subcommands := [("foo", inner)], flags := [("-v", {})] }
    let t : CommandTree := { subcommands := [("foo", outer)], flags := [("-C", { source := { kind := .value } })] }
    let typed : List Text := ["-C", "bar", "foo", "what", "-v"]
    t.walk none typed = (outer, none) ∧ outer.subcommands.lookup "foo".toList = some inner ∧
      ∀ ask here, t.suggest ask here (typed ++ ["foo".toList] ++ ["ba".toList]) true =
        Candidate.sort [⟨"bar", []⟩, ⟨"baz", []⟩] := by
  intro inner outer t typed
  have hwalk : t.walk none typed = (outer, none) := rfl
  have hfoo : outer.subcommands.lookup "foo".toList = some inner := rfl
  exact ⟨hwalk, hfoo, fun ask here => suggest_subcommand hwalk hfoo (.inl (by simp))⟩

/-- Behind some words a flag waits for its value. The next word is that value, and nothing waits behind it at
the same command, exactly if it names neither a subcommand nor a flag with a value; then all that follows is
suggested as it is without the flag, and a fresh word is offered the subcommands, or else the values of the
command itself. The name of a subcommand leads there, and another flag with a value waits in its turn. -/
theorem walk_value (h : t.walk none words = (command, some flag)) (value : Text) :
    flag.source.expectsValue ∧
      (t.walk none (words ++ [value]) = (command, none) ↔ command.IsOperand value) ∧
      (command.IsOperand value → ∀ ask here,
        (∀ more partly, more ≠ [] ∨ partly = false →
          t.suggest ask here (words ++ [value] ++ more) partly = command.suggest ask here more partly) ∧
        t.suggest ask here (words ++ [value]) false =
          Candidate.sort (if command.subcommands.isEmpty then command.source.candidates ask here []
            else command.subcommandCandidates [])) ∧
      (∀ sub, command.subcommands.lookup value = some sub → t.walk none (words ++ [value]) = (sub, none)) ∧
      ∀ next, command.subcommands.lookup value = none → command.flags.lookup value = some next →
        next.source.expectsValue → t.walk none (words ++ [value]) = (command, some next) := by
  have hnext (rest : List Text) : t.walk none (words ++ rest) = command.walk (some flag) rest := by
    rw [walk_append, h]
  have hsub (sub : CommandTree) (hv : command.subcommands.lookup value = some sub) :
      t.walk none (words ++ [value]) = (sub, none) := by
    rw [hnext, walk_subcommand hv]
    rfl
  have hother (hv : command.subcommands.lookup value = none) :
      t.walk none (words ++ [value]) = (command, (command.flags.lookup value).filter (·.source.expectsValue)) := by
    rw [hnext, walk_other hv]
    rfl
  have hvalue (hv : command.IsOperand value) : t.walk none (words ++ [value]) = (command, none) := by
    obtain ⟨hv, hnone⟩ := isOperand_iff.1 hv
    rw [hother hv, hnone]
  refine ⟨expectsValue_of_walk (by simp) h, ⟨fun hwalk => ?_, hvalue⟩, fun hv ask here => ⟨fun more partly hmore => ?_, ?_⟩,
    hsub, fun next hv hflag hexpects => ?_⟩
  · cases hv : command.subcommands.lookup value with
    | some sub =>
      -- a subcommand is not the command itself
      rw [hsub sub hv] at hwalk
      have hlt := sizeOf_lt_of_lookup hv
      rw [(Prod.mk.inj hwalk).1] at hlt
      exact absurd hlt (Nat.lt_irrefl _)
    | none =>
      rw [hother hv] at hwalk
      exact isOperand_iff.2 ⟨hv, (Prod.mk.inj hwalk).2⟩
  · exact suggest_append (hvalue hv) hmore
  · have hfresh : t.suggest ask here (words ++ [value] ++ []) false = command.suggest ask here [] false :=
      suggest_append (hvalue hv) (.inr rfl)
    rw [← List.append_nil (words ++ [value]), hfresh]
    rfl
  · rw [hother hv, hflag, Option.filter_some, if_pos hexpects]

/-- Behind a flag that waits: a value, the name of a subcommand, and the flag once more. -/
theorem walk_value_named :
    let flag : FlagInfo := { source := { kind := .value } }
    let sub : CommandTree := { subcommands := [("bar", {})] }
    let t : CommandTree := { subcommands := [("foo", sub)], flags := [("-C", flag)] }
    let typed : List Text := ["-C"]
    t.walk none typed = (t, some flag) ∧ t.IsOperand "dir" ∧ t.walk none (typed ++ ["dir".toList]) = (t, none) ∧
      (∀ ask here, t.suggest ask here (typed ++ ["dir".toList]) false = Candidate.sort (t.subcommandCandidates [])) ∧
      t.walk none (typed ++ ["foo".toList]) = (sub, none) ∧ t.walk none (typed ++ ["-C".toList]) = (t, some flag) := by
  intro flag sub t typed
  have hwalk : t.walk none typed = (t, some flag) := rfl
  have hdir : t.IsOperand "dir" := ⟨rfl, by rintro _ ⟨⟩⟩
  obtain ⟨-, hiff, hsuggest, -⟩ := walk_value hwalk "dir"
  obtain ⟨-, -, -, hsub, -⟩ := walk_value hwalk "foo"
  obtain ⟨-, -, -, -, hflag⟩ := walk_value hwalk "-C"
  exact ⟨hwalk, hdir, hiff.2 hdir, fun ask here => (hsuggest hdir ask here).2, hsub sub rfl, hflag flag rfl rfl rfl⟩

end CommandTree

end WrapShell
