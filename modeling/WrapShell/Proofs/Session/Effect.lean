import Mathlib.Data.List.Basic
import WrapShell.Session.Basic
/-!
# What comes of a line

A line that is not blank fails before anything runs, calls a builtin, or runs the base command.
`Session.Effect` lists the ways in which it goes, each with what it takes and with all that is left
behind; `execute_effect` says that there are no others, so that what is proved about lines is a case
analysis over it.
-/

namespace WrapShell

namespace Builtin

theorem ofName?_eq_some_iff {n : Text} {b : Builtin} : ofName? n = some b ↔ n = b.name := by
  constructor
  · intro h
    have hb := List.find?_some h
    exact (beq_iff_eq.1 hb).symm
  · rintro rfl
    cases b <;> decide

/-- The ways in which the first argument of a line names a builtin. -/
def IsNamed (b : Builtin) (invocation : Text) : Prop := invocation = b.invocation ∨ invocation = b.name

theorem isNamed_iff {b : Builtin} {invocation : Text} :
    b.IsNamed invocation ↔ ofName? ((Text.after? builtinMark invocation).getD invocation) = some b := by
  rw [ofName?_eq_some_iff, IsNamed]
  cases h : Text.after? builtinMark invocation with
  | none =>
    -- without the mark, only the bare name is left
    refine ⟨fun hb => hb.resolve_left ?_, .inr⟩
    rintro rfl
    have hmark : Text.after? builtinMark b.invocation = some b.name := by cases b <;> rfl
    rw [hmark] at h
    cases h
  | some rest =>
    obtain rfl : builtinMark ++ rest = invocation := List.append_eq_of_isPrefixOf?_eq_some h
    constructor
    · rintro (hb | hb)
      · exact List.append_cancel_left hb
      · cases b <;> cases hb
    · rintro rfl
      exact .inl rfl

variable {b : Builtin} {env after : Environment} {arguments : List Text} {given : Given} {output : Output} {status : Int}
  {target : Text} {l : Location} {e : BuiltinError}

theorem target_of_ne_nil (ht : target ≠ []) (home? : Option Text) :
    (((some target).filter (· ≠ [])).orElse fun _ => home?) = some target := by
  rw [Option.filter_some, if_pos (by simpa using ht)]
  rfl

theorem changeDir_of_canonical (ht : target ≠ []) (hl : env.here.canonical (Path.join env.currentDir target) = .ok l)
    (hd : env.here.tree.get? l = some .dir) :
    changeDir env (some target) = done { env with here := { env.here with cwd := l }, currentDir := l.path } := by
  simp only [changeDir, target_of_ne_nil ht, hl, hd, if_true]

theorem call_of_ok (hgiven : b.grammar.read arguments = .ok given) (hrun : b.run env given = (after, output, .ok status)) :
    b.call env arguments = (after, output, status) := by
  simp only [call, hgiven, hrun]

theorem call_of_error (hgiven : b.grammar.read arguments = .ok given) (hrun : b.run env given = .failed env e) :
    b.call env arguments = (env, .diagnostic (b.invocation ++ ": " ++ e.message ++ "\n"), 1) := by
  simp only [call, hgiven, hrun, Answer.failed, Output.empty_append]

/-- Each way in which a builtin fails is seen before anything is changed or written. -/
theorem run_error (h : b.run env given = (after, output, .error e)) : after = env ∧ output = {} := by
  cases b with
  | cd =>
    simp only [run, changeDir] at h
    repeat' split at h
    all_goals cases h
    all_goals exact ⟨rfl, rfl⟩
  | env =>
    simp only [run, useVariables] at h
    repeat' split at h
    all_goals cases h
    all_goals exact ⟨rfl, rfl⟩
  | exit =>
    simp only [run, leave] at h
    repeat' split at h
    all_goals cases h
    exact ⟨rfl, rfl⟩
  | help => cases h
  | history =>
    simp only [run, showHistory] at h
    split at h
    · cases h
      exact ⟨rfl, rfl⟩
    · cases h

end Builtin

/-- The environment that a line is run in: the line is in the history already. -/
def Environment.enter (env : Environment) (line : Text) : Environment := { env with history := env.history.add line }

namespace Session

variable (run : Runner) (s : Session) (line : Text)

/-- The session behind a line that leaves no more than its entry and its status. -/
def recorded (status : Int) : Session := { s with env := s.env.enter line, previous := status }

/-- The line is read and expands to some arguments. -/
def Typed (arguments : List Text) : Prop :=
  ∃ command, Command.read line = .ok command ∧ command.expand s.env.here s.env.lookup = .ok arguments

/-- The line calls a builtin with some arguments. -/
structure Calls (b : Builtin) (arguments : List Text) : Prop where
  marked : isBuiltinLine line
  typed : ∃ invocation, b.IsNamed invocation ∧ s.Typed line (invocation :: arguments)

/-- Why a line cannot be run. -/
inductive Fails : LineError → Prop
  | unreadable {e : ReadError} (cause : Command.read line = .error e) : Fails (.unreadable e)
  | unexpandable {command : Command} {e : ExpandError} (read : Command.read line = .ok command)
    (cause : command.expand s.env.here s.env.lookup = .error e) : Fails (.unexpandable e)
  | unknown {arguments : List Text} (marked : isBuiltinLine line) (typed : s.Typed line arguments)
    (none : ∀ b : Builtin, ¬b.IsNamed (arguments.headD [])) : Fails (.unknownBuiltin (arguments.headD []))
  | noCommand {arguments : List Text} (unmarked : isBuiltinLine line = false) (typed : s.Typed line arguments)
    (none : s.argv = []) : Fails .noCommand
  | notFound {program : Text} {first arguments : List Text} (unmarked : isBuiltinLine line = false)
    (typed : s.Typed line arguments) (command : s.argv = program :: first)
    (none : s.env.here.findProgram (s.env.lookup "PATH") s.env.currentDir program = none) : Fails (.notFound program)
  | noStart {program : Text} {first arguments : List Text} {file : Path} {e : FileError}
    (unmarked : isBuiltinLine line = false) (typed : s.Typed line arguments) (command : s.argv = program :: first)
    (found : s.env.here.findProgram (s.env.lookup "PATH") s.env.currentDir program = some file)
    (cause : start run (s.env.enter line) file (first ++ arguments) = .error e) : Fails (.noStart file e)

/-- What comes of a line that is not blank: the session behind it, what was written, and the status. -/
inductive Effect : Session → Output → Int → Prop
  | failed {e : LineError} (fails : s.Fails run line e) :
    Effect (s.recorded line e.status) (.diagnostic (e.message ++ "\n")) e.status
  /-- A builtin is asked for help. -/
  | helped {b : Builtin} {arguments : List Text} (calls : s.Calls line b arguments)
    (refused : b.grammar.read arguments = .error .help) :
    Effect (s.recorded line 0) (.regular (Refusal.message b.grammar b.invocation .help)) 0
  | refused {b : Builtin} {arguments : List Text} {refusal : Refusal} (calls : s.Calls line b arguments)
    (refused : b.grammar.read arguments = .error refusal) (other : refusal ≠ .help) :
    Effect (s.recorded line 1) (.diagnostic (refusal.message b.grammar b.invocation)) 1
  | faulted {b : Builtin} {arguments : List Text} {given : Given} {e : BuiltinError} (calls : s.Calls line b arguments)
    (taken : b.grammar.read arguments = .ok given) (cause : b.run (s.env.enter line) given = .failed (s.env.enter line) e) :
    Effect (s.recorded line 1) (.diagnostic (b.invocation ++ ": " ++ e.message ++ "\n")) 1
  | done {b : Builtin} {arguments : List Text} {given : Given} {after : Environment} {output : Output} {status : Int}
    (calls : s.Calls line b arguments) (taken : b.grammar.read arguments = .ok given)
    (done : b.run (s.env.enter line) given = (after, output, .ok status)) :
    Effect { s with env := after, previous := status } output status
  /-- The base command runs. It may leave another tree, whatever its status. -/
  | ran {program : Text} {first arguments : List Text} {file : Path} {o : Outcome}
    (unmarked : isBuiltinLine line = false) (typed : s.Typed line arguments) (command : s.argv = program :: first)
    (found : s.env.here.findProgram (s.env.lookup "PATH") s.env.currentDir program = some file)
    (started : start run (s.env.enter line) file (first ++ arguments) = .ok o) :
    Effect { s with env := { s.env.enter line with here := { s.env.here with tree := o.tree } }, previous := o.ending.status }
      o.output o.ending.status

variable {run s line}

theorem execute_blank (h : line.allBlank) : s.execute run line = (s, {}, s.previous) := by
  rw [execute, if_pos h]

theorem execute_error {e : LineError} (hb : line.allBlank = false)
    (h : runLine run s.argv (s.env.enter line) line = .failed (s.env.enter line) e) :
    s.execute run line = (s.recorded line e.status, .diagnostic (e.message ++ "\n"), e.status) := by
  have hrun : runLine run s.argv { s.env with history := s.env.history.add line } line = (s.env.enter line, {}, .error e) := h
  simp only [execute, hb, hrun, Bool.false_eq_true, if_false, recorded]
  rfl

theorem execute_ok {after : Environment} {output : Output} {status : Int} (hb : line.allBlank = false)
    (h : runLine run s.argv (s.env.enter line) line = (after, output, .ok status)) :
    s.execute run line = ({ s with env := after, previous := status }, output, status) := by
  have hrun : runLine run s.argv { s.env with history := s.env.history.add line } line = (after, output, .ok status) := h
  simp [execute, hb, hrun]

/-- A builtin line that is read and expanded. -/
theorem effect_builtin {arguments : List Text} (hb : line.allBlank = false) (marked : isBuiltinLine line)
    (typed : s.Typed line arguments)
    (hrun : runLine run s.argv (s.env.enter line) line = runBuiltin (s.env.enter line) arguments) :
    s.Effect run line (s.execute run line).1 (s.execute run line).2.1 (s.execute run line).2.2 := by
  simp only [runBuiltin] at hrun
  split at hrun
  · next hnone =>
    -- no builtin of that name
    rw [execute_error hb hrun]
    refine .failed (.unknown marked typed fun b hb => ?_)
    rw [Builtin.isNamed_iff.1 hb] at hnone
    cases hnone
  · next b hsome =>
    have hnamed : b.IsNamed (arguments.headD []) := Builtin.isNamed_iff.2 hsome
    obtain ⟨invocation, rest, rfl⟩ : ∃ invocation rest, arguments = invocation :: rest := by
      cases arguments with
      | nil => rcases hnamed with hn | hn <;> cases b <;> cases hn
      | cons invocation rest => exact ⟨invocation, rest, rfl⟩
    have calls : s.Calls line b rest := ⟨marked, invocation, hnamed, typed⟩
    rw [List.tail_cons, Builtin.call] at hrun
    cases taken : b.grammar.read rest with
    | error refusal =>
      by_cases help : refusal = .help
      · subst help
        have hrun : runLine run s.argv (s.env.enter line) line =
            (s.env.enter line, .regular (Refusal.message b.grammar b.invocation .help), .ok 0) := by
          simpa [taken, Answer.ended] using hrun
        rw [execute_ok hb hrun]
        exact .helped calls taken
      · have hrun : runLine run s.argv (s.env.enter line) line =
            (s.env.enter line, .diagnostic (refusal.message b.grammar b.invocation), .ok 1) := by
          simpa [taken, help, Answer.ended] using hrun
        rw [execute_ok hb hrun]
        exact .refused calls taken help
    | ok given =>
      rcases ran : b.run (s.env.enter line) given with ⟨after, output, e | status⟩
      · obtain ⟨rfl, rfl⟩ := Builtin.run_error ran
        have hrun : runLine run s.argv (s.env.enter line) line =
            (s.env.enter line, .diagnostic (b.invocation ++ ": " ++ e.message ++ "\n"), .ok 1) := by
          simpa [taken, ran, Answer.ended] using hrun
        rw [execute_ok hb hrun]
        exact .faulted calls taken ran
      · have hrun : runLine run s.argv (s.env.enter line) line = (after, output, .ok status) := by
          simpa [taken, ran, Answer.ended] using hrun
        rw [execute_ok hb hrun]
        exact .done calls taken ran

/-- Any other line that is read and expanded. -/
theorem effect_external {arguments : List Text} (hb : line.allBlank = false) (unmarked : isBuiltinLine line = false)
    (typed : s.Typed line arguments)
    (hrun : runLine run s.argv (s.env.enter line) line = runExternal run s.argv (s.env.enter line) arguments) :
    s.Effect run line (s.execute run line).1 (s.execute run line).2.1 (s.execute run line).2.2 := by
  unfold runExternal at hrun
  split at hrun
  · next none =>
    rw [execute_error hb hrun]
    exact .failed (.noCommand unmarked typed none)
  · next program first command =>
    split at hrun
    · next none =>
      rw [execute_error hb hrun]
      exact .failed (.notFound unmarked typed command none)
    · next file found =>
      split at hrun
      · next e cause =>
        rw [execute_error hb hrun]
        exact .failed (.noStart unmarked typed command found cause)
      · next o started =>
        rw [execute_ok hb hrun]
        exact .ran unmarked typed command found started

theorem execute_effect (run : Runner) (s : Session) (h : line.allBlank = false) :
    s.Effect run line (s.execute run line).1 (s.execute run line).2.1 (s.execute run line).2.2 := by
  cases hread : Command.read line with
  | error e =>
    have hrun : runLine run s.argv (s.env.enter line) line = .failed (s.env.enter line) (.unreadable e) := by rw [runLine, hread]
    rw [execute_error h hrun]
    exact .failed (.unreadable hread)
  | ok command =>
    cases hexpand : command.expand s.env.here s.env.lookup with
    | error e =>
      have hexpand' : command.expand (s.env.enter line).here (s.env.enter line).lookup = .error e := hexpand
      have hrun : runLine run s.argv (s.env.enter line) line = .failed (s.env.enter line) (.unexpandable e) := by
        simp only [runLine, hread, hexpand']
      rw [execute_error h hrun]
      exact .failed (.unexpandable hread hexpand)
    | ok arguments =>
      have hexpand' : command.expand (s.env.enter line).here (s.env.enter line).lookup = .ok arguments := hexpand
      have typed : s.Typed line arguments := ⟨command, hread, hexpand⟩
      cases marked : isBuiltinLine line with
      | true => exact effect_builtin h marked typed (by simp [runLine, hread, hexpand', marked])
      | false => exact effect_external h marked typed (by simp [runLine, hread, hexpand', marked])

end Session

end WrapShell
