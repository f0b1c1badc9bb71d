import WrapShell.Proofs.History.File
import WrapShell.Proofs.Line.Argument
import WrapShell.Proofs.Session.Frame
/-!
# What a whole session leaves

A session executes its lines up to the first after which it is to end (`Session.Runs`). Then its history
holds what it was opened with and an entry for each line that is worth one, and that is what its file is
written with; its status is the one that the last line asked for (`run_history`).
-/

namespace WrapShell

/-- The entries that come of some lines behind others: a blank line and one that repeats the line of the
entry before it have none. -/
def History.recorded (base : Text) (before : List Entry) : List Text → List Entry
  | [] => []
  | line :: lines =>
    if line.allBlank || before.getLast?.map Entry.line == some line then recorded base before lines
    else
      let entry : Entry := ⟨if isBuiltinLine line then [] else base, line⟩
      entry :: recorded base (before ++ [entry]) lines

namespace Session

variable {run : Runner} {s mid mid' last last' : Session} {line : Text} {lines executed executed' more : List Text} {output : Output}
  {status n : Int}

/-! ## Lines one after the other -/

theorem reaches_append : Reaches run s (lines ++ more) last ↔ ∃ mid, Reaches run s lines mid ∧ Reaches run mid more last := by
  constructor
  · intro h
    induction lines generalizing s with
    | nil => exact ⟨s, .here s, h⟩
    | cons line lines ih =>
      cases h with
      | step executed rest =>
        obtain ⟨mid, hlines, hmore⟩ := ih rest
        exact ⟨mid, .step executed hlines, hmore⟩
  · rintro ⟨mid, hlines, hmore⟩
    induction hlines with
    | here => exact hmore
    | step executed _ ih => exact .step executed (ih hmore)

theorem reaches_concat : Reaches run s (lines ++ [line]) last ↔
    ∃ mid output status, Reaches run s lines mid ∧ mid.execute run line = (last, output, status) := by
  rw [reaches_append]
  constructor
  · rintro ⟨mid, hlines, hline⟩
    cases hline with
    | step executed rest =>
      cases rest
      exact ⟨mid, _, _, hlines, executed⟩
  · rintro ⟨mid, output, status, hlines, executed⟩
    exact ⟨mid, hlines, .step executed (.here last)⟩

theorem Reaches.unique (h : Reaches run s lines mid) (h' : Reaches run s lines mid') : mid = mid' := by
  induction h with
  | here => cases h'; rfl
  | step executed _ ih =>
    cases h' with
    | step executed' rest =>
      rw [executed] at executed'
      cases executed'
      exact ih rest

/-- The lines that a session executes, and the session behind them: all lines, or those up to the first
after which it is to end. -/
structure Runs (run : Runner) (s : Session) (lines executed : List Text) (last : Session) : Prop where
  first : executed <+: lines
  reaches : Reaches run s executed last
  goesOn : ∀ before mid, before <+: executed → before ≠ executed → Reaches run s before mid → mid.env.shouldExit = false
  stops : executed = lines ∨ last.env.shouldExit = true

theorem Runs.nil (run : Runner) (s : Session) : s.Runs run [] [] s where
  first := List.prefix_rfl
  reaches := .here s
  goesOn _ _ hb hne _ := absurd (List.prefix_nil.1 hb) hne
  stops := .inl rfl

theorem Runs.stop (lines : List Text) (h : s.env.shouldExit = false) (hline : s.execute run line = (mid, output, status))
    (hexit : mid.env.shouldExit) : s.Runs run (line :: lines) [line] mid where
  first := by simp
  reaches := .step hline (.here mid)
  goesOn before mid' hb hne hreach := by
    obtain rfl | ⟨before, rfl, hbefore⟩ := List.prefix_cons_iff.1 hb
    · cases hreach; exact h
    · rw [List.prefix_nil.1 hbefore] at hne
      exact absurd rfl hne
  stops := .inr hexit

theorem Runs.cons (h : s.env.shouldExit = false) (hline : s.execute run line = (mid, output, status))
    (hruns : mid.Runs run lines executed last) : s.Runs run (line :: lines) (line :: executed) last where
  first := by simpa using hruns.first
  reaches := .step hline hruns.reaches
  goesOn before mid' hb hne hreach := by
    obtain rfl | ⟨before, rfl, hbefore⟩ := List.prefix_cons_iff.1 hb
    · cases hreach; exact h
    · cases hreach with
      | step hline' rest =>
        rw [hline] at hline'
        cases hline'
        exact hruns.goesOn before mid' hbefore (fun e => hne (congrArg _ e)) rest
  stops := hruns.stops.imp (congrArg _) id

theorem executeAll_runs (run : Runner) (lines : List Text) (h : s.env.shouldExit = false) :
    ∃ executed, s.Runs run lines executed (s.executeAll run lines).1 := by
  induction lines generalizing s with
  | nil => exact ⟨[], .nil run s⟩
  | cons line lines ih =>
    rcases hline : s.execute run line with ⟨mid, output, status⟩
    by_cases hexit : mid.env.shouldExit
    · have hstop : (s.executeAll run (line :: lines)).1 = mid := by simp [executeAll, hline, hexit]
      rw [hstop]
      exact ⟨[line], .stop lines h hline hexit⟩
    · rw [Bool.not_eq_true] at hexit
      obtain ⟨executed, hruns⟩ := ih hexit
      have hgo : (s.executeAll run (line :: lines)).1 = (mid.executeAll run lines).1 := by simp [executeAll, hline, hexit]
      rw [hgo]
      exact ⟨line :: executed, .cons h hline hruns⟩

/-- Of two runs over the same lines neither stops before the other. -/
theorem Runs.unique (h : s.Runs run lines executed last) (h' : s.Runs run lines executed' last') :
    executed = executed' ∧ last = last' := by
  have same {executed executed' : List Text} {last last' : Session} (h : s.Runs run lines executed last)
      (h' : s.Runs run lines executed' last') (hfirst : executed <+: executed') : executed = executed' := by
    by_contra hne
    have hgo := h'.goesOn executed last hfirst hne h.reaches
    rcases h.stops with rfl | hstop
    · exact hne (hfirst.eq_of_length_le h'.first.length_le)
    · rw [hgo] at hstop
      cases hstop
  have hsame : executed = executed' := by
    rcases List.prefix_or_prefix_of_prefix h.first h'.first with hfirst | hfirst
    · exact same h h' hfirst
    · exact (same h' h hfirst).symm
  subst hsame
  exact ⟨rfl, h.reaches.unique h'.reaches⟩

/-! ## The history -/

theorem execute_history_eq (h : s.execute run line = (mid, output, status)) :
    mid.env.history = if line.allBlank then s.env.history else s.env.history.add line := by
  obtain ⟨hb, rfl, -⟩ | ⟨hb, heffect⟩ := effect_of_execute h
  · rw [if_pos hb]
  · rw [hb, heffect.history_eq]
    rfl

theorem Reaches.history_eq (h : Reaches run s lines last) :
    last.env.history = { s.env.history with
      entries := s.env.history.entries ++ History.recorded s.env.history.base s.env.history.entries lines } := by
  induction h with
  | here s => simp [History.recorded]
  | @step s mid last line lines output status executed _ ih =>
    have hmid := execute_history_eq executed
    rw [ih, History.recorded]
    by_cases hb : line.allBlank
    · rw [if_pos hb] at hmid
      simp [hmid, hb]
    · rw [if_neg hb, History.add] at hmid
      have hne : line ≠ [] := by rintro rfl; exact hb rfl
      by_cases hrepeat : s.env.history.entries.getLast?.map History.Entry.line = some line
      · have hkeeps : s.env.history.keeps line = false := by simp [History.keeps, hrepeat]
        rw [if_neg (by simp [hkeeps])] at hmid
        simp [hmid, hrepeat]
      · have hkeeps : s.env.history.keeps line = true := by simp [History.keeps, hne, hrepeat]
        rw [if_pos hkeeps] at hmid
        simp [hmid, hb, hrepeat, History.entryFor]

/-! ## The status -/

/-- The line ends the session and asks for a status. -/
def Leaves (s : Session) (line : Text) (n : Int) : Prop :=
  ∃ arguments given code, s.Calls line .exit arguments ∧ Builtin.exit.grammar.read arguments = .ok given ∧
    given.operands.head? = some code ∧ readInteger (.signed 32) 10 code = .ok n

theorem Calls.runLine (run : Runner) {b : Builtin} {arguments : List Text} (h : s.Calls line b arguments) :
    runLine run s.argv (s.env.enter line) line = .ended (b.call (s.env.enter line) arguments) := by
  obtain ⟨hmarked, invocation, hnamed, command, hread, hexpand⟩ := h
  have hexpand : command.expand (s.env.enter line).here (s.env.enter line).lookup = .ok (invocation :: arguments) := hexpand
  rw [Session.runLine, hread]
  simp only [hexpand, hmarked, if_true, runBuiltin, List.headD_cons, Builtin.isNamed_iff.1 hnamed, List.tail_cons]

theorem not_allBlank_of_isBuiltinLine (h : isBuiltinLine line) : line.allBlank = false := by
  obtain ⟨rest, rfl⟩ : builtinMark <+: line := List.isPrefixOf_iff_prefix.1 h
  rfl

theorem Calls.execute_eq (run : Runner) {b : Builtin} {arguments : List Text} {given : Given} {after : Environment}
    (h : s.Calls line b arguments) (hgiven : b.grammar.read arguments = .ok given)
    (hrun : b.run (s.env.enter line) given = (after, output, .ok status)) :
    s.execute run line = ({ s with env := after, previous := status }, output, status) := by
  have hline := h.runLine run
  rw [Builtin.call_of_ok hgiven hrun] at hline
  exact execute_ok (not_allBlank_of_isBuiltinLine h.marked) hline

theorem Calls.execute_failed (run : Runner) {b : Builtin} {arguments : List Text} {given : Given} {e : BuiltinError}
    (h : s.Calls line b arguments) (hgiven : b.grammar.read arguments = .ok given)
    (hrun : b.run (s.env.enter line) given = .failed (s.env.enter line) e) :
    s.execute run line = (s.recorded line 1, .diagnostic (b.invocation ++ ": " ++ e.message ++ "\n"), 1) := by
  have hline := h.runLine run
  rw [Builtin.call_of_error hgiven hrun] at hline
  exact execute_ok (not_allBlank_of_isBuiltinLine h.marked) hline

/-- A builtin by its name with the mark, and arguments that stand for texts, each with a space in front. -/
theorem calls_standing (s : Session) (b : Builtin) {ns : List Node} {ts : List Text} (h : List.Forall₂ Node.StandsFor ns ts) :
    s.Calls (List.intercalate [' '] (b.invocation :: ns.map Node.render)) b ts := by
  have hname : (Node.word b.invocation).StandsFor b.invocation :=
    { canonical := by cases b <;> decide
      closed := by cases b <;> decide
      expand := fun _ _ => by cases b <;> rfl }
  obtain ⟨hread, hexpand⟩ := Command.read_standing (.cons hname h)
  refine ⟨?_, b.invocation, .inl rfl, _, hread, hexpand _ _⟩
  cases b <;> cases ns <;> rfl

/-- The session behind a line that ends it with a status. -/
def left (s : Session) (line : Text) (n : Int) : Session :=
  { s with env := { s.env.enter line with shouldExit := true, exitCode := some n }, previous := n }

theorem Leaves.execute_eq (h : s.Leaves line n) (run : Runner) : s.execute run line = (s.left line n, {}, n) := by
  obtain ⟨arguments, given, code, hcalls, hgiven, hcode, hn⟩ := h
  have hleave : Builtin.exit.run (s.env.enter line) given =
      ({ s.env.enter line with shouldExit := true, exitCode := some n }, {}, .ok n) := by
    simp only [Builtin.run, Builtin.leave, hcode, hn]
  exact hcalls.execute_eq run hgiven hleave

theorem Leaves.env_eq (h : s.Leaves line n) (hexecute : s.execute run line = (mid, output, status)) :
    mid.env = { s.env.enter line with shouldExit := true, exitCode := some n } := by
  rw [h.execute_eq run] at hexecute
  rw [← (Prod.mk.inj hexecute).1]
  rfl

/-- No other line asks for a status. -/
theorem exitCode_of_not_leaves (h : ∀ n, ¬s.Leaves line n) (hexecute : s.execute run line = (mid, output, status)) :
    mid.env.exitCode = s.env.exitCode := by
  rcases execute_keeps_or_changes hexecute with hkeeps | ⟨b, arguments, given, hcalls, htaken, hrun, hchanges⟩
  · exact hkeeps.exitCode
  · cases b with
    | cd => obtain ⟨l, hl⟩ := hchanges; rw [hl]; rfl
    | env => obtain ⟨vars, hvars, -⟩ := hchanges; rw [hvars]; rfl
    | help | history => rw [show mid.env = _ from hchanges]; rfl
    | exit =>
      simp only [Builtin.run, Builtin.leave] at hrun
      split at hrun
      · rw [← (Prod.mk.inj hrun).1]; rfl
      · next code hcode =>
        split at hrun
        · cases (Prod.mk.inj (Prod.mk.inj hrun).2).2
        · next n hn => exact absurd ⟨arguments, given, code, hcalls, htaken, hcode, hn⟩ (h n)

theorem exitCode_of_goesOn (hexecute : s.execute run line = (mid, output, status)) (hgo : mid.env.shouldExit = false) :
    mid.env.exitCode = s.env.exitCode := by
  refine exitCode_of_not_leaves (fun n hleaves => ?_) hexecute
  rw [hleaves.env_eq hexecute] at hgo
  cases hgo

theorem Reaches.exitCode_eq (h : Reaches run s lines last)
    (hgo : ∀ before mid, before <+: lines → Reaches run s before mid → mid.env.shouldExit = false) :
    last.env.exitCode = s.env.exitCode := by
  induction h with
  | here => rfl
  | @step s mid last line lines output status executed _ ih =>
    have hmid := hgo [line] mid (by simp) (.step executed (.here mid))
    rw [ih fun before mid' hb hreach => hgo (line :: before) mid' (by simpa using hb) (.step executed hreach)]
    exact exitCode_of_goesOn executed hmid

/-- The last of some lines ends the session and asks for a status. -/
def EndsWith (run : Runner) (s : Session) (executed : List Text) (n : Int) : Prop :=
  ∃ before line mid, executed = before ++ [line] ∧ Reaches run s before mid ∧ mid.Leaves line n

theorem EndsWith.exitCode (h : s.EndsWith run executed n) (hreach : Reaches run s executed last) :
    last.env.exitCode = some n := by
  obtain ⟨before, line, mid, rfl, hbefore, hleaves⟩ := h
  obtain ⟨mid', output, status, hbefore', hexecute⟩ := reaches_concat.1 hreach
  obtain rfl := hbefore.unique hbefore'
  rw [hleaves.env_eq hexecute]

/-- Without such a last line no status is asked for: any line that does ends the session. -/
theorem Runs.exitCode_eq (h : s.Runs run lines executed last) (hnone : ∀ n, ¬s.EndsWith run executed n) :
    last.env.exitCode = s.env.exitCode := by
  rcases List.eq_nil_or_concat' executed with rfl | ⟨before, line, rfl⟩
  · have hreach := h.reaches
    cases hreach
    rfl
  · obtain ⟨mid, output, status, hbefore, hexecute⟩ := reaches_concat.1 h.reaches
    have hmid : mid.env.exitCode = s.env.exitCode := by
      refine hbefore.exitCode_eq fun before' mid' hb hreach => ?_
      refine h.goesOn before' mid' (hb.trans (List.prefix_append _ _)) ?_ hreach
      rintro rfl
      exact absurd hb.length_le (by simp)
    rw [exitCode_of_not_leaves (fun n hleaves => hnone n ⟨before, line, mid, rfl, hbefore, hleaves⟩) hexecute, hmid]

/-! ## Opened, run and finished -/

/-- A session for a base command as it is opened. -/
def opened (here : Place) (vars : Variables) (argv : List Text) (tree? : Option CommandTree) (history : History) : Session :=
  { argv := argv, tree? := tree?
    env := { Environment.start here (List.intercalate [' '] argv) with vars := vars, history := history } }

/-- A session that is opened with the history in a file executes its lines up to the first after which it
is to end. In the end its history is the one that was opened with the entries for those lines behind it, and
that is what its file holds, if it can be written: the file that the path leads to from where the lines have
gone. It is the one that was opened if the path is absolute, or if they have gone nowhere or come back; any
other is as they have left it. The status is the one that the last line asks for, or zero. -/
theorem run_history {here : Place} {file : Path} {entries : List History.Entry} (hload : History.load here file = .ok entries)
    (runner : Runner) (vars : Variables) (argv : List Text) (tree? : Option CommandTree) (lines : List Text) :
    ∃ history, History.openFile here (List.intercalate [' '] argv) file = .ok history ∧
      let s := opened here vars argv tree? history
      let finished := (s.run runner lines).1
      ∃ executed last, s.Runs runner lines executed last ∧
        finished.env.history = ⟨s.base, entries ++ History.recorded s.base entries executed, some file⟩ ∧
        History.IsKept file finished.env.history.entries last.env.here finished.env.here ∧
        (Path.isAbsolute file ∨ last.env.here.cwd = here.cwd → History.IsWritable last.env.here file →
          History.load { finished.env.here with cwd := here.cwd } file = .ok finished.env.history.entries) ∧
        (∀ n, s.EndsWith runner executed n → finished.exitStatus = n) ∧
        ((∀ n, ¬s.EndsWith runner executed n) → finished.exitStatus = 0) := by
  refine ⟨⟨List.intercalate [' '] argv, entries, some file⟩, by rw [History.openFile, hload]; rfl, ?_⟩
  intro s finished
  obtain ⟨executed, hruns⟩ := executeAll_runs (s := s) runner lines rfl
  have hhistory : finished.env.history = _ := hruns.reaches.history_eq
  have hcode : finished.env.exitCode = (s.executeAll runner lines).1.env.exitCode := rfl
  have hkept : History.IsKept file finished.env.history.entries (s.executeAll runner lines).1.env.here finished.env.here :=
    History.sync_isKept (congrArg History.file hhistory) _
  refine ⟨executed, _, hruns, hhistory, hkept, fun hfrom hwritable => ?_, fun n hends => ?_, fun hnone => ?_⟩
  · rw [History.load_of_cwd (hfrom.imp id fun hcwd => hcwd.symm.trans hkept.cwd.symm)]
    exact hkept.written hwritable
  · rw [exitStatus, hcode, hends.exitCode hruns.reaches]
    rfl
  · rw [exitStatus, hcode, hruns.exitCode_eq hnone]
    rfl

/-- A line that goes to another directory, with the history under a relative path: the file that was opened keeps
what it held, and what there is to keep is in the file of that name in the other directory. -/
theorem run_history_moved :
    let here : Place := ⟨⟨[(["h"], .file "- base: git\n  cmd: log\n" false), (["d"], .dir)]⟩, []⟩
    History.load here "h" = .ok [⟨"git", "log"⟩] ∧
      ∃ history, History.openFile here "git" "h" = .ok history ∧
        let finished := ((opened here .empty ["git"] none history).run (fun _ _ => .error .notFound)
          ["!!cd d", "!!exit 3", "status"]).1
        History.load finished.env.here "h" = .ok [⟨"git", "log"⟩, ⟨[], "!!cd d"⟩, ⟨[], "!!exit 3"⟩] ∧
          History.load { finished.env.here with cwd := here.cwd } "h" = .ok [⟨"git", "log"⟩] ∧ finished.exitStatus = 3 := by
  intro here
  let run : Runner := fun _ _ => .error .notFound
  let lines : List Text := ["!!cd d", "!!exit 3", "status"]
  let s := opened here .empty ["git"] none ⟨"git", [⟨"git", "log"⟩], some "h".toList⟩
  let mid : Session := { s with
    env := { s.env.enter "!!cd d" with here := { here with cwd := [['d']] }, currentDir := "/d" }, previous := 0 }
  let last := mid.left "!!exit 3" 3
  have hentries : History.read "- base: git\n  cmd: log\n" = .ok [⟨"git", "log"⟩] := by decide +kernel
  have hload : History.load here "h" = .ok [⟨"git", "log"⟩] := by
    have hread : here.read "h" = .ok "- base: git\n  cmd: log\n" := by
      simp +decide [here, Place.read, Place.resolve, Place.find, List.splitOn_cons_eq_if_modifyHead, Tree.walk, Tree.get?]
    rw [History.load, hread]
    dsimp only
    rw [hentries]
  have hdir : here.canonical "/d".toList = .ok ["d".toList] := by
    simp +decide [here, Place.canonical, List.splitOn_cons_eq_if_modifyHead, Tree.trace, Tree.get?, List.lookup_cons]
  have hcd : s.execute run "!!cd d".toList = (mid, {}, 0) := by
    have hread : Command.read "!!cd d".toList = .ok ⟨[⟨[.word "!!cd".toList]⟩, ⟨[.word ['d']]⟩]⟩ := by decide +kernel
    have hcalls : s.Calls "!!cd d".toList .cd [['d']] := ⟨rfl, "!!cd".toList, .inl rfl, _, hread, rfl⟩
    have hdone : Builtin.changeDir (s.env.enter "!!cd d") (some "d") = (mid.env, {}, .ok 0) :=
      Builtin.changeDir_of_canonical (by decide) hdir rfl
    exact hcalls.execute_eq run rfl hdone
  have hleaves : mid.Leaves "!!exit 3" 3 := by
    have hread : Command.read "!!exit 3".toList = .ok ⟨[⟨[.word "!!exit".toList]⟩, ⟨[.word ['3']]⟩]⟩ := by decide +kernel
    exact ⟨[['3']], ⟨[], [['3']]⟩, ['3'], ⟨rfl, "!!exit".toList, .inl rfl, _, hread, rfl⟩, rfl, rfl, by decide⟩
  have hruns : s.Runs run lines ["!!cd d", "!!exit 3"] last :=
    .cons rfl hcd (.stop _ rfl (hleaves.execute_eq run) rfl)
  let there (content : Text) : Place := last.env.here.put [['h'], ['d']] (.file content false)
  have hroom : History.makeRoom last.env.here "h" = (last.env.here, none) := rfl
  have hwrite (content : Text) : last.env.here.write "h" content = .ok (there content) := by
    simp +decide [there, last, mid, here, left, Environment.enter, Place.write, Place.find, List.splitOn_cons_eq_if_modifyHead,
      Tree.walk, Tree.get?, List.lookup_cons]
  obtain ⟨history, hopen, executed, last', hruns', hhistory, hkept, -, hstatus, -⟩ := run_history hload run .empty ["git"] none lines
  obtain rfl : history = ⟨"git", [⟨"git", "log"⟩], some "h".toList⟩ := by
    rw [History.openFile, hload] at hopen
    exact (Except.ok.inj hopen).symm
  obtain ⟨rfl, rfl⟩ := hruns'.unique hruns
  refine ⟨hload, _, hopen, ?_, ?_, hstatus 3 ⟨["!!cd d".toList], "!!exit 3".toList, mid, rfl, .step hcd (.here mid), hleaves⟩⟩
  · have hwritable : History.IsWritable last.env.here "h" := ⟨_, [], _, hroom, hwrite []⟩
    exact (hkept.written hwritable).trans (congrArg (Except.ok ∘ History.entries) hhistory)
  · have hsync : last.env.history.sync last.env.here = (there (History.write last.env.history.entries), none) :=
      History.sync_of_write rfl hroom (hwrite _)
    have hfinished : (s.run run lines).1.env.here = there (History.write last.env.history.entries) := by
      simp only [Session.run, executeAll, lines, hcd, hleaves.execute_eq]
      exact congrArg Prod.fst hsync
    have hread (content : Text) : { there content with cwd := here.cwd }.read "h" = .ok "- base: git\n  cmd: log\n" := by
      simp +decide [there, last, mid, here, left, Environment.enter, Place.read, Place.resolve, Place.find, Place.put, Tree.put,
        List.splitOn_cons_eq_if_modifyHead, Tree.walk, Tree.get?, List.lookup_cons]
    change History.load { (s.run run lines).1.env.here with cwd := here.cwd } "h" = _
    rw [hfinished, History.load, hread]
    dsimp only
    rw [hentries]

end Session

end WrapShell
