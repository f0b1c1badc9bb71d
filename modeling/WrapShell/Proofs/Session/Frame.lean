import WrapShell.Proofs.Files.Change
import WrapShell.Proofs.Session.Effect
/-!
# What a line leaves as it was

Only a builtin that succeeds changes the variables, the working directory or whether the session is
to end, and each builtin changes its own part of them. All else that a line leaves in the environment
is its entry in the history. The theorems about one line are case analyses over `Session.Effect`;
those about all lines of a session follow by induction.
-/

namespace WrapShell

/-! ## The history -/

/-- The history behind some lines: entries for some of them have come to its end, in their order. -/
def History.Grows (before after : History) (lines : List Text) : Prop :=
  ∃ new, after = { before with entries := before.entries ++ new } ∧ (new.map Entry.line).Sublist lines

namespace History

variable {h h' h'' : History} {lines more : List Text}

theorem Grows.of_eq (e : h' = h) : h.Grows h' lines := ⟨[], by simp [e], List.nil_sublist _⟩

theorem Grows.trans (a : h.Grows h' lines) (b : h'.Grows h'' more) : h.Grows h'' (lines ++ more) := by
  obtain ⟨new, rfl, hnew⟩ := a
  obtain ⟨newer, rfl, hnewer⟩ := b
  refine ⟨new ++ newer, by simp, ?_⟩
  rw [List.map_append]
  exact hnew.append hnewer

theorem grows_add (h : History) (line : Text) : h.Grows (h.add line) [line] := by
  unfold add
  split
  · exact ⟨[h.entryFor line], rfl, .refl _⟩
  · exact .of_eq rfl

end History

/-! ## The environment -/

/-- One environment has the variables of another, its working directory as the system and as the session
has it, and is to end or not as the other is. -/
structure Environment.Keeps (before after : Environment) : Prop where
  vars : after.vars = before.vars
  cwd : after.here.cwd = before.here.cwd
  currentDir : after.currentDir = before.currentDir
  shouldExit : after.shouldExit = before.shouldExit
  exitCode : after.exitCode = before.exitCode

namespace Environment

variable {env env' env'' : Environment}

theorem Keeps.refl (env : Environment) : env.Keeps env := ⟨rfl, rfl, rfl, rfl, rfl⟩

theorem Keeps.trans (a : env.Keeps env') (b : env'.Keeps env'') : env.Keeps env'' where
  vars := b.vars.trans a.vars
  cwd := b.cwd.trans a.cwd
  currentDir := b.currentDir.trans a.currentDir
  shouldExit := b.shouldExit.trans a.shouldExit
  exitCode := b.exitCode.trans a.exitCode

theorem keeps_enter (env : Environment) (line : Text) : env.Keeps (env.enter line) := ⟨rfl, rfl, rfl, rfl, rfl⟩

end Environment

/-! ## Builtins -/

namespace Builtin

variable {b : Builtin} {env after : Environment} {given : Given} {output : Output} {status : Int}

/-- The part of the environment that is a builtin's own to change: all the rest is as it was. -/
def Changes (given : Given) (env after : Environment) : Builtin → Prop
  | .cd => ∃ l, after = { env with here := { env.here with cwd := l }, currentDir := l.path }
  | .env => ∃ vars, after = { env with vars := vars } ∧ ∀ n, given.operands[1]? ≠ some n → vars.get? n = env.vars.get? n
  | .exit => after = { env with shouldExit := true } ∨ ∃ n, after = { env with shouldExit := true, exitCode := some n }
  | .help | .history => after = env

theorem Changes.history_eq (h : b.Changes given env after) : after.history = env.history := by
  cases b with
  | cd => obtain ⟨_, rfl⟩ := h; rfl
  | env => obtain ⟨_, rfl, -⟩ := h; rfl
  | exit => obtain rfl | ⟨_, rfl⟩ := h <;> rfl
  | help | history => obtain rfl : after = env := h; rfl

/-- Who goes somewhere goes to the canonical location of a directory. -/
theorem exists_canonical_of_changeDir {target? : Option Text} (h : changeDir env target? = (after, output, .ok status)) :
    ∃ target l, env.here.canonical (Path.join env.currentDir target) = .ok l ∧ env.here.tree.get? l = some .dir ∧
      after = { env with here := { env.here with cwd := l }, currentDir := l.path } := by
  unfold changeDir at h
  split at h
  · cases h
  · dsimp only at h
    split at h
    · cases h
    · next l hl =>
      split at h
      · next hd =>
        cases h
        exact ⟨_, l, hl, hd, rfl⟩
      · cases h

theorem changeDir_changes {target? : Option Text} (h : changeDir env target? = (after, output, .ok status)) :
    cd.Changes given env after := by
  obtain ⟨-, l, -, -, hafter⟩ := exists_canonical_of_changeDir h
  exact ⟨l, hafter⟩

theorem useVariables_changes (h : useVariables env given.operands = (after, output, .ok status)) :
    Builtin.env.Changes given env after := by
  have same : Builtin.env.Changes given env env := ⟨env.vars, rfl, fun _ _ => rfl⟩
  unfold useVariables at h
  split at h
  · cases h
    exact same
  · next action rest hgiven =>
    split at h
    · -- only shown
      split at h
      · cases h
        exact same
      · cases h
    · split at h
      · split at h
        · cases h
          exact same
        · next name =>
          cases h
          refine ⟨env.vars.erase name, rfl, fun n hn => ?_⟩
          rw [hgiven] at hn
          rw [Variables.get?_erase, if_neg fun e => hn (by rw [e]; rfl)]
        · next name value =>
          cases h
          refine ⟨env.vars.set name value, rfl, fun n hn => ?_⟩
          rw [hgiven] at hn
          rw [Variables.get?_set, if_neg fun e => hn (by rw [e]; rfl)]
        · cases h
      · cases h

theorem leave_changes {code? : Option Text} (h : leave env code? = (after, output, .ok status)) :
    Builtin.exit.Changes given env after := by
  unfold leave at h
  split at h
  · cases h
    exact .inl rfl
  · split at h
    · cases h
    · cases h
      exact .inr ⟨_, rfl⟩

theorem showHistory_changes (h : showHistory env given = (after, output, .ok status)) :
    Builtin.history.Changes given env after := by
  unfold showHistory at h
  dsimp only at h
  split at h
  · cases h
  · cases h
    rfl

theorem run_changes (h : b.run env given = (after, output, .ok status)) : b.Changes given env after := by
  cases b with
  | cd => exact changeDir_changes h
  | env => exact useVariables_changes h
  | exit => exact leave_changes h
  | help => cases h; rfl
  | history => exact showHistory_changes h

end Builtin

/-! ## The files -/

/-- No program changes what lies where a path leads, seen from some directory. -/
def Runner.Spares (run : Runner) (cwd : Location) (p : Path) : Prop :=
  ∀ here call o, run here call = .ok o → Place.Preserves p ⟨here.tree, cwd⟩ ⟨o.tree, cwd⟩

/-! ## One line -/

namespace Session

variable {run : Runner} {s after : Session} {line : Text} {output : Output} {status : Int}

/-- A line that leaves nothing but its entry and its status, or that runs a builtin which succeeds. -/
theorem Effect.keeps_or_done (h : s.Effect run line after output status) :
    ((s.env.enter line).Keeps after.env ∧ after.env.history = (s.env.enter line).history) ∨
      ∃ b arguments given, s.Calls line b arguments ∧ b.grammar.read arguments = .ok given ∧
        b.run (s.env.enter line) given = (after.env, output, .ok status) := by
  cases h with
  | failed | helped | refused | faulted => exact .inl ⟨.refl _, rfl⟩
  | ran => exact .inl ⟨⟨rfl, rfl, rfl, rfl, rfl⟩, rfl⟩
  | done calls taken done => exact .inr ⟨_, _, _, calls, taken, done⟩

theorem Effect.after_eq (h : s.Effect run line after output status) :
    after = { s with env := after.env, previous := status } := by
  cases h <;> rfl

theorem Effect.history_eq (h : s.Effect run line after output status) : after.env.history = s.env.history.add line := by
  rcases h.keeps_or_done with ⟨-, hkept⟩ | ⟨b, arguments, given, -, -, hdone⟩
  · exact hkept
  · exact (Builtin.run_changes hdone).history_eq

theorem Effect.history (h : s.Effect run line after output status) : s.env.history.Grows after.env.history [line] := by
  rw [h.history_eq]
  exact s.env.history.grows_add line

/-- A program that is run by its name is run in the same place, as one file or another. -/
theorem exists_call_of_runByName {searchPath : Text} {here : Place} {call : Call} {o : Outcome}
    (h : runByName run searchPath here call = .ok o) : ∃ call', run here call' = .ok o := by
  have found (dirs : List Path) (worst : FileError) (h : runByName.go run here call worst dirs = .ok o) :
      ∃ call', run here call' = .ok o := by
    induction dirs generalizing worst with
    | nil => cases h
    | cons dir dirs ih =>
      rw [runByName.go] at h
      split at h
      · next hrun => exact ⟨_, hrun.trans h⟩
      · exact ⟨_, h⟩
      · exact ih _ h
      · exact ih _ h
      · exact ih _ h
      · cases h
  rw [runByName] at h
  split at h
  · exact ⟨call, h⟩
  · exact found _ _ h

/-- A program that starts does so where the session has its working directory. -/
theorem exists_call_of_start {env : Environment} {program : Path} {arguments : List Text} {o : Outcome}
    (h : start run env program arguments = .ok o) :
    ∃ l call, env.here.directory env.currentDir = .ok l ∧ run { env.here with cwd := l } call = .ok o := by
  unfold start at h
  dsimp only at h
  split at h
  · cases h
  · split at h
    · cases h
    · next l hl =>
      obtain ⟨call, hcall⟩ := exists_call_of_runByName h
      exact ⟨l, call, hl, hcall⟩

/-- The tree behind a line is the one before it, or what a program left that found the one before it. -/
theorem Effect.tree (h : s.Effect run line after output status) :
    after.env.here.tree = s.env.here.tree ∨
      ∃ l call o, s.env.here.directory s.env.currentDir = .ok l ∧ run { s.env.here with cwd := l } call = .ok o ∧
        after.env.here.tree = o.tree := by
  cases h with
  | failed | helped | refused | faulted => exact .inl rfl
  | @done b _ _ _ _ _ calls taken done =>
    have hchanges := Builtin.run_changes done
    refine .inl ?_
    cases b with
    | cd => obtain ⟨l, hl⟩ := hchanges; rw [hl]; rfl
    | env => obtain ⟨_, hvars, -⟩ := hchanges; rw [hvars]; rfl
    | exit => obtain hexit | ⟨_, hexit⟩ := hchanges <;> rw [hexit] <;> rfl
    | help | history => rw [show _ = _ from hchanges]; rfl
  | @ran _ _ _ _ o unmarked typed command found started =>
    obtain ⟨l, call, hl, hcall⟩ := exists_call_of_start started
    exact .inr ⟨l, call, o, hl, hcall, rfl⟩

theorem effect_of_execute (h : s.execute run line = (after, output, status)) :
    (line.allBlank ∧ after = s ∧ output = {} ∧ status = s.previous) ∨
      line.allBlank = false ∧ s.Effect run line after output status := by
  cases hb : line.allBlank with
  | true =>
    rw [execute_blank hb] at h
    cases h
    exact .inl ⟨rfl, rfl, rfl, rfl⟩
  | false =>
    have he := execute_effect run s hb
    rw [h] at he
    exact .inr ⟨rfl, he⟩

theorem execute_history (h : s.execute run line = (after, output, status)) :
    s.env.history.Grows after.env.history [line] := by
  obtain ⟨-, rfl, -⟩ | ⟨-, heffect⟩ := effect_of_execute h
  · exact .of_eq rfl
  · exact heffect.history

theorem execute_preserves {cwd : Location} {p : Path} (hspares : run.Spares cwd p)
    (h : s.execute run line = (after, output, status)) :
    Place.Preserves p ⟨s.env.here.tree, cwd⟩ ⟨after.env.here.tree, cwd⟩ := by
  obtain ⟨-, rfl, -⟩ | ⟨-, heffect⟩ := effect_of_execute h
  · exact .refl p _
  · rcases heffect.tree with htree | ⟨l, call, o, -, hcall, hafter⟩
    · rw [htree]
      exact .refl p _
    · rw [hafter]
      exact hspares { s.env.here with cwd := l } call o hcall

theorem execute_keeps_or_changes (h : s.execute run line = (after, output, status)) :
    s.env.Keeps after.env ∨
      ∃ b arguments given, s.Calls line b arguments ∧ b.grammar.read arguments = .ok given ∧
        b.run (s.env.enter line) given = (after.env, output, .ok status) ∧
        b.Changes given (s.env.enter line) after.env := by
  obtain ⟨-, rfl, -⟩ | ⟨-, heffect⟩ := effect_of_execute h
  · exact .inl (.refl _)
  · rcases heffect.keeps_or_done with ⟨hkeeps, -⟩ | ⟨b, arguments, given, hcalls, htaken, hdone⟩
    · exact .inl ((s.env.keeps_enter line).trans hkeeps)
    · exact .inr ⟨b, arguments, given, hcalls, htaken, hdone, Builtin.run_changes hdone⟩

/-- What a line leaves of the session. It changes the environment, its history apart, only if it starts
with the mark and calls a builtin that succeeds, and then only in what is the builtin's own. -/
theorem execute_frame (h : s.execute run line = (after, output, status)) :
    status = after.previous ∧ after.argv = s.argv ∧ after.tree? = s.tree? ∧
      (line.allBlank → after = s ∧ output = {}) ∧
      s.env.history.Grows after.env.history [line] ∧
      (s.env.Keeps after.env ∨
        ∃ b arguments given, s.Calls line b arguments ∧ b.grammar.read arguments = .ok given ∧
          b.run (s.env.enter line) given = (after.env, output, .ok status) ∧
          b.Changes given (s.env.enter line) after.env) := by
  have hhistory := execute_history h
  have henv := execute_keeps_or_changes h
  obtain ⟨-, rfl, rfl, rfl⟩ | ⟨hb, heffect⟩ := effect_of_execute h
  · exact ⟨rfl, rfl, rfl, fun _ => ⟨rfl, rfl⟩, hhistory, henv⟩
  · have hafter := heffect.after_eq
    refine ⟨?_, ?_, ?_, fun hblank => ?_, hhistory, henv⟩
    · rw [hafter]
    · rw [hafter]
    · rw [hafter]
    · rw [hb] at hblank
      cases hblank

/-- A session without variables in which one is set. -/
theorem execute_frame_set :
    ∃ s after : Session, s.execute (fun _ _ => .error .notFound) "!!env set A b".toList = (after, {}, 0) ∧
      s.env.vars.get? ['A'] = none ∧ after.env.vars.get? ['A'] = some ['b'] ∧
      0 = after.previous ∧ after.argv = s.argv ∧ after.tree? = s.tree? ∧
      (Text.allBlank "!!env set A b".toList → after = s ∧ ({} : Output) = {}) ∧
      s.env.history.Grows after.env.history ["!!env set A b".toList] ∧
      (s.env.Keeps after.env ∨
        ∃ b arguments given, s.Calls "!!env set A b".toList b arguments ∧ b.grammar.read arguments = .ok given ∧
          b.run (s.env.enter "!!env set A b".toList) given = (after.env, {}, .ok 0) ∧
          b.Changes given (s.env.enter "!!env set A b".toList) after.env) := by
  let s : Session := ⟨["git".toList], .start ⟨.empty, []⟩ "git".toList, none, 0⟩
  let env := s.env.enter "!!env set A b".toList
  have hread : Command.read "!!env set A b".toList =
      .ok ⟨[⟨[.word "!!env".toList]⟩, ⟨[.word "set".toList]⟩, ⟨[.word ['A']]⟩, ⟨[.word ['b']]⟩]⟩ := by
    decide +kernel
  have hrun : runLine (fun _ _ => .error .notFound) s.argv env "!!env set A b".toList =
      (env.setVar ['A'] ['b'], {}, .ok 0) := by
    rw [runLine, hread]
    rfl
  have hset : s.execute (fun _ _ => .error .notFound) "!!env set A b".toList =
      ({ s with env := env.setVar ['A'] ['b'], previous := 0 }, {}, 0) := execute_ok rfl hrun
  exact ⟨s, _, hset, rfl, rfl, execute_frame hset⟩

/-! ## All lines -/

/-- The sessions that some lines lead to, one after the other. -/
inductive Reaches (run : Runner) : Session → List Text → Session → Prop
  | here (s : Session) : Reaches run s [] s
  | step {s mid after : Session} {line : Text} {lines : List Text} {output : Output} {status : Int}
    (executed : s.execute run line = (mid, output, status)) (rest : Reaches run mid lines after) :
    Reaches run s (line :: lines) after

variable {lines : List Text}

/-- Every line has at most one entry, in the order of the lines. -/
theorem Reaches.history (h : Reaches run s lines after) : s.env.history.Grows after.env.history lines := by
  induction h with
  | here s => exact .of_eq rfl
  | step executed _ ih => exact (execute_history executed).trans ih

theorem Reaches.preserves {cwd : Location} {p : Path} (hspares : run.Spares cwd p) (h : Reaches run s lines after) :
    Place.Preserves p ⟨s.env.here.tree, cwd⟩ ⟨after.env.here.tree, cwd⟩ := by
  induction h with
  | here s => exact .refl p _
  | step executed _ ih => exact (execute_preserves hspares executed).trans ih

/-- Lines for the base command are nothing to the environment. -/
theorem Reaches.keeps (h : Reaches run s lines after) (hlines : ∀ line ∈ lines, isBuiltinLine line = false) :
    s.env.Keeps after.env := by
  induction h with
  | here s => exact .refl _
  | step executed _ ih =>
    have hrest := ih fun line hl => hlines line (List.mem_cons_of_mem _ hl)
    rcases execute_keeps_or_changes executed with hkeeps | ⟨b, arguments, given, hcalls, -⟩
    · exact hkeeps.trans hrest
    · have hmark := hcalls.marked
      rw [hlines _ List.mem_cons_self] at hmark
      cases hmark

end Session

end WrapShell
