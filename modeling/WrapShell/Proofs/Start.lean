import WrapShell.Proofs.Session.Run
import WrapShell.Start
/-!
# A history that cannot be used is left alone

A program that cannot start makes nothing but its log, and a session whose history could not be read keeps
a new one in no file. So in both cases the file of the history is what it was (`run_spares_history`); only
a directory for the log may come where there was none (`not_run_spares_history`). `Start.Fails` lists the
ways in which a program cannot start.
-/

namespace WrapShell

namespace Start

variable {runner : Runner} {s : Start} {given : Given} {config : Config} {vars vars' : Variables} {e : StartError}

/-- The file that the history is kept in: an option counts more than a variable. -/
def historyFile (s : Start) (given : Given) : Path :=
  (given.value? "history-file").getD (Config.ofLookup fun n => List.lookup n s.vars).historyFile

/-- The line that the base command is read from. -/
def line (given : Given) : Text := List.intercalate [' '] given.operands

/-- The options and the bindings are taken. -/
structure Prepared (s : Start) (given : Given) (config : Config) (vars : Variables) : Prop where
  configured : configure s.vars given = .ok config
  bound : bindAll (.inherited s.vars) (given.valuesOf "env") = .ok vars

/-- Why a program cannot start. The log is prepared before anything is looked for. -/
inductive Fails (s : Start) (given : Given) : StartError → Prop
  | level {t : Text} (asked : given.value? "log-level" = some t) (none : LogLevel.read? t = none) :
    Fails s given (.invalidLevel t)
  | binding {config : Config} {before after : List Text} {b : Text} {e : BindingError}
    (configured : configure s.vars given = .ok config) (bindings : given.valuesOf "env" = before ++ b :: after)
    (taken : ∀ b ∈ before, ∃ nv, readBinding b = .ok nv) (cause : readBinding b = .error e) : Fails s given (.invalidBinding e)
  | unreadable {config : Config} {vars : Variables} {e : ReadError} (prepared : s.Prepared given config vars)
    (cause : Command.read (line given) = .error e) : Fails s given (.unreadable (line given) e)
  | unexpandable {config : Config} {vars : Variables} {command : Command} {e : ExpandError}
    (prepared : s.Prepared given config vars) (read : Command.read (line given) = .ok command)
    (cause : command.expand (prepareLog s.here config) vars.value = .error e) : Fails s given (.unexpandable (line given) e)
  | noCommand {config : Config} {vars : Variables} {command : Command} (prepared : s.Prepared given config vars)
    (read : Command.read (line given) = .ok command)
    (expanded : command.expand (prepareLog s.here config) vars.value = .ok []) : Fails s given .noCommand
  | notFound {config : Config} {vars : Variables} {command : Command} {program : Text} {first : List Text}
    (prepared : s.Prepared given config vars) (read : Command.read (line given) = .ok command)
    (expanded : command.expand (prepareLog s.here config) vars.value = .ok (program :: first))
    (none : (prepareLog s.here config).findProgram (vars.value "PATH") (prepareLog s.here config).cwd.path program = none) :
    Fails s given (.notFound program)

/-- The log level is all that can be wrong with the options. -/
theorem configure_cases (s : Start) (given : Given) :
    (∃ config, configure s.vars given = .ok config ∧ config.historyFile = s.historyFile given) ∨
      ∃ t, given.value? "log-level" = some t ∧ LogLevel.read? t = none ∧ configure s.vars given = .error (.invalidLevel t) := by
  rw [configure]
  dsimp only
  cases hasked : given.value? "log-level" with
  | none => exact .inl ⟨_, rfl, rfl⟩
  | some t =>
    dsimp only
    cases hlevel : LogLevel.read? t with
    | none => exact .inr ⟨t, rfl, hlevel, rfl⟩
    | some level => exact .inl ⟨_, rfl, rfl⟩

/-- The first binding that is none decides. -/
theorem bindAll_append {before : List Text} (h : ∀ b ∈ before, ∃ nv, readBinding b = .ok nv) (vars : Variables) (bs : List Text) :
    ∃ vars', bindAll vars (before ++ bs) = bindAll vars' bs := by
  induction before generalizing vars with
  | nil => exact ⟨vars, rfl⟩
  | cons b before ih =>
    obtain ⟨⟨⟨n, v⟩, hb⟩, hbefore⟩ := List.forall_mem_cons.1 h
    obtain ⟨vars', hvars⟩ := ih hbefore (vars.set n v)
    exact ⟨vars', by rw [List.cons_append, bindAll, hb]; exact hvars⟩

theorem exists_binding_of_bindAll {bs : List Text} (h : bindAll vars bs = .error e) :
    ∃ before b after cause, bs = before ++ b :: after ∧ (∀ b ∈ before, ∃ nv, readBinding b = .ok nv) ∧
      readBinding b = .error cause ∧ e = .invalidBinding cause := by
  induction bs generalizing vars with
  | nil => cases h
  | cons b bs ih =>
    rw [bindAll] at h
    cases hb : readBinding b with
    | error cause =>
      rw [hb] at h
      exact ⟨[], b, bs, cause, rfl, by simp, hb, (Except.error.inj h).symm⟩
    | ok nv =>
      rw [hb] at h
      obtain ⟨before, b', after, cause, rfl, hbefore, hb', he⟩ := ih h
      exact ⟨b :: before, b', after, cause, rfl, List.forall_mem_cons.2 ⟨⟨nv, hb⟩, hbefore⟩, hb', he⟩

/-! ## The log -/

/-- The directories that are made for the log: those above its file. -/
def logDirs (config : Config) : List Path := (Path.parent? config.logFile).elim [] Path.upwards

theorem prepareLog_grows (here : Place) (config : Config) :
    here.Grows (prepareLog here config) (logDirs config) [config.logFile] := by
  rw [prepareLog]
  split
  · exact .refl here _ _
  · -- the directories first, then the file as it was
    have written (there : Place) : there.Grows
        ((there.write config.logFile ((there.read config.logFile).toOption.getD [])).toOption.getD there) (logDirs config)
        [config.logFile] := by
      cases hwrite : there.write config.logFile ((there.read config.logFile).toOption.getD []) with
      | error => exact .refl there _ _
      | ok after => exact (Place.write_grows hwrite fun old hold => by rw [hold]; rfl).mono (by simp) (by simp)
    cases hparent : Path.parent? config.logFile with
    | none => exact written here
    | some dir =>
      dsimp only
      split
      · exact written here
      · exact ((here.makeDirs_grows dir).mono (by simp [logDirs, hparent]) (by simp)).trans (written _)

/-- The log is kept in another file than the history. -/
def LogsElsewhere (s : Start) (given : Given) : Prop :=
  ∀ config, configure s.vars given = .ok config → ∀ l, (prepareLog s.here config).resolve config.logFile = .ok l →
    (prepareLog s.here config).resolve (s.historyFile given) ≠ .ok l

/-- The same place with other records in the log, whatever they are. -/
def Logged (s : Start) (given : Given) (before after : Place) : Prop :=
  after = before ∨ ∃ config l old records executable, configure s.vars given = .ok config ∧
    (prepareLog s.here config).resolve config.logFile = .ok l ∧ before.tree.get? l = some (.file old executable) ∧
    after = before.put l (.file records executable)

/-- A directory lies there, and the file that is logged to lies in it. -/
def HoldsLog (s : Start) (given : Given) (there : Place) (l : Location) : Prop :=
  there.tree.get? l = some .dir ∧
    ∃ config, configure s.vars given = .ok config ∧ ∃ dir ∈ logDirs config, there.resolve dir = .ok l

/-- Nothing but a directory for the log comes where the path of the history leads. -/
theorem LogsElsewhere.get?_eq {l : Location} (h : s.LogsElsewhere given) (hconfig : configure s.vars given = .ok config)
    (hl : (prepareLog s.here config).resolve (s.historyFile given) = .ok l) :
    (prepareLog s.here config).tree.get? l = s.here.tree.get? l ∨ s.HoldsLog given (prepareLog s.here config) l := by
  have hgrows := prepareLog_grows s.here config
  cases hbefore : s.here.tree.get? l with
  | some e => exact .inl (hgrows.keeps l e hbefore)
  | none =>
    cases hafter : (prepareLog s.here config).tree.get? l with
    | none => exact .inl rfl
    | some e =>
      obtain ⟨rfl, hdir⟩ | ⟨q, hq, hr⟩ := hgrows.adds l e hbefore hafter
      · exact .inr ⟨hafter, config, hconfig, hdir⟩
      · obtain rfl := List.mem_singleton.1 hq
        exact absurd hl (h config hconfig l hr)

theorem Logged.resolve_eq {before after : Place} (h : s.Logged given before after) (p : Path) :
    after.resolve p = before.resolve p := by
  obtain rfl | ⟨config, l, old, records, executable, -, -, hfile, rfl⟩ := h
  · rfl
  · exact Place.resolve_put_file hfile p

/-- What lies where the path of the history leads is not where the records are. -/
theorem Logged.get?_eq {before after : Place} {l : Location} (h : s.Logged given before after) (helse : s.LogsElsewhere given)
    (hl : ∀ config, configure s.vars given = .ok config → (prepareLog s.here config).resolve (s.historyFile given) = .ok l) :
    after.tree.get? l = before.tree.get? l := by
  obtain rfl | ⟨config, x, old, records, executable, hconfig, hx, hfile, rfl⟩ := h
  · rfl
  · have hother : l ≠ x := by
      rintro rfl
      exact helse config hconfig l hx (hl config hconfig)
    have hroot : x ≠ [] := by rintro rfl; cases hfile
    exact (Tree.get?_put before.tree x l _ hroot).trans (if_neg hother)

theorem Logged.preserves {before after : Place} (h : s.Logged given before after) (helse : s.LogsElsewhere given)
    (hkept : Place.Preserves (s.historyFile given) s.here before) : Place.Preserves (s.historyFile given) s.here after := by
  intro l e hl he
  obtain ⟨hl', he'⟩ := hkept l e hl he
  refine ⟨(h.resolve_eq _).trans hl', ?_⟩
  rw [h.get?_eq helse fun config _ => (prepareLog_grows s.here config).resolve hl]
  exact he'

/-! ## Starting or not -/

theorem run_prepared (hgiven : grammar.read s.arguments = .ok given) (h : s.Prepared given config vars) :
    run runner s = match baseCommand (prepareLog s.here config) vars (line given) with
      | .error e => giveUp (prepareLog s.here config) e
      | .ok argv => runSession { s with here := prepareLog s.here config } runner config given vars argv := by
  simp only [run, hgiven, h.configured, h.bound]
  rfl

/-- A program that cannot start reports why. It has made its log, or nothing at all. -/
theorem Fails.run_eq (runner : Runner) (hgiven : grammar.read s.arguments = .ok given) (h : s.Fails given e) :
    run runner s = giveUp s.here e ∨
      ∃ config, configure s.vars given = .ok config ∧ run runner s = giveUp (prepareLog s.here config) e := by
  have prepared {config : Config} {vars : Variables} (hp : s.Prepared given config vars)
      (hbase : baseCommand (prepareLog s.here config) vars (line given) = .error e) :
      ∃ config, configure s.vars given = .ok config ∧ run runner s = giveUp (prepareLog s.here config) e := by
    refine ⟨config, hp.configured, ?_⟩
    rw [run_prepared hgiven hp, hbase]
  cases h with
  | @level t asked none =>
    refine .inl ?_
    have hconfig : configure s.vars given = .error (.invalidLevel t) := by simp only [configure, asked, none]
    simp only [run, hgiven, hconfig]
  | @binding config _ _ _ _ configured bindings taken cause =>
    obtain ⟨vars', hbind⟩ := bindAll_append taken (.inherited s.vars) (_ :: _)
    rw [bindAll, cause, ← bindings] at hbind
    exact .inr ⟨config, configured, by simp only [run, hgiven, configured, hbind]⟩
  | unreadable hp cause => exact .inr (prepared hp (by rw [baseCommand, cause]))
  | unexpandable hp read cause => exact .inr (prepared hp (by simp only [baseCommand, read, cause]))
  | noCommand hp read expanded => exact .inr (prepared hp (by simp only [baseCommand, read, expanded]))
  | notFound hp read expanded none => exact .inr (prepared hp (by simp only [baseCommand, read, expanded, none]))

theorem fails_or_starts (s : Start) (given : Given) : (∃ e, s.Fails given e) ∨
    ∃ config vars argv, s.Prepared given config vars ∧ config.historyFile = s.historyFile given ∧
      baseCommand (prepareLog s.here config) vars (line given) = .ok argv := by
  rcases configure_cases s given with ⟨config, hconfig, hfile⟩ | ⟨t, hasked, hnone, -⟩
  · cases hbind : bindAll (.inherited s.vars) (given.valuesOf "env") with
    | error e =>
      obtain ⟨before, b, after, cause, hbs, hbefore, hb, -⟩ := exists_binding_of_bindAll hbind
      exact .inl ⟨_, .binding hconfig hbs hbefore hb⟩
    | ok vars =>
      have hp : s.Prepared given config vars := ⟨hconfig, hbind⟩
      cases hread : Command.read (line given) with
      | error e => exact .inl ⟨_, .unreadable hp hread⟩
      | ok command =>
        cases hexpand : command.expand (prepareLog s.here config) vars.value with
        | error e => exact .inl ⟨_, .unexpandable hp hread hexpand⟩
        | ok argv =>
          cases argv with
          | nil => exact .inl ⟨_, .noCommand hp hread hexpand⟩
          | cons program first =>
            cases hfind : (prepareLog s.here config).findProgram (vars.value "PATH") (prepareLog s.here config).cwd.path program with
            | none => exact .inl ⟨_, .notFound hp hread hexpand hfind⟩
            | some file =>
              refine .inr ⟨config, vars, program :: first, hp, hfile, ?_⟩
              simp only [baseCommand, hread, hexpand, hfind]
  · exact .inl ⟨_, .level hasked hnone⟩

/-- A program whose base command is found can start. -/
theorem Prepared.not_fails {argv : List Text} (h : s.Prepared given config vars)
    (hbase : baseCommand (prepareLog s.here config) vars (line given) = .ok argv) (e : StartError) : ¬s.Fails given e := by
  have unique {config' : Config} {vars' : Variables} (h' : s.Prepared given config' vars') : config' = config ∧ vars' = vars := by
    obtain rfl := Except.ok.inj (h'.configured.symm.trans h.configured)
    exact ⟨rfl, Except.ok.inj (h'.bound.symm.trans h.bound)⟩
  intro hfails
  cases hfails with
  | level asked none =>
    have hconfig := h.configured
    simp only [configure, asked, none] at hconfig
    cases hconfig
  | binding configured bindings taken cause =>
    obtain ⟨vars', hbind⟩ := bindAll_append taken (.inherited s.vars) (_ :: _)
    rw [bindAll, cause, ← bindings, h.bound] at hbind
    cases hbind
  | unreadable _ cause => simp only [baseCommand, cause, reduceCtorEq] at hbase
  | unexpandable h' read cause =>
    obtain ⟨rfl, rfl⟩ := unique h'
    simp only [baseCommand, read, cause, reduceCtorEq] at hbase
  | noCommand h' read expanded =>
    obtain ⟨rfl, rfl⟩ := unique h'
    simp only [baseCommand, read, expanded, reduceCtorEq] at hbase
  | notFound h' read expanded none =>
    obtain ⟨rfl, rfl⟩ := unique h'
    simp only [baseCommand, read, expanded, none, reduceCtorEq] at hbase

/-- A history that is there and cannot be read is not kept in a file. -/
theorem openHistory_error {here there : Place} {file : Path} {l : Location} {err : HistoryError} (base : Text)
    (hkept : Place.Preserves file here there) (hl : here.resolve file = .ok l) (hload : History.load here file = .error err) :
    (openHistory there base file).1 = .inMemory base [] := by
  have hsome : ∃ entry, here.tree.get? l = some entry := by
    refine Option.ne_none_iff_exists'.1 fun hnone => ?_
    have hread : here.read file = .error .notFound := by simp only [Place.read, hl, hnone]
    rw [History.load, hread] at hload
    cases hload
  obtain ⟨entry, hentry⟩ := hsome
  have hread := hkept.read_eq hl hentry
  rw [openHistory, History.openFile, History.load, hread, ← History.load, hload]
  rfl

/-- With its history in no file a session writes nothing behind its last line. -/
theorem runSession_unsaved {argv : List Text} (hopen : (openHistory s.here (List.intercalate [' '] argv) config.historyFile).1 =
      .inMemory (List.intercalate [' '] argv) []) :
    ∃ tree? executed last,
      (Session.opened s.here vars argv tree? (.inMemory (List.intercalate [' '] argv) [])).Runs runner (typedLines s.input) executed last ∧
      (runSession s runner config given vars argv).here = last.env.here ∧
      (runSession s runner config given vars argv).status = (last.exitStatus % 256).toNat := by
  obtain ⟨tree?, htree⟩ : ∃ tree?, (loadTree s.here
      ((given.value? "completion-file").getD (config.completionFileFor (argv.headD [])))).1 = tree? := ⟨_, rfl⟩
  let first := Session.opened s.here vars argv tree? (.inMemory (List.intercalate [' '] argv) [])
  have hsession : (runSession s runner config given vars argv).here = (first.run runner (typedLines s.input)).1.env.here ∧
      (runSession s runner config given vars argv).status = ((first.run runner (typedLines s.input)).1.exitStatus % 256).toNat := by
    simp only [runSession, hopen, htree]
    exact ⟨rfl, rfl⟩
  obtain ⟨executed, hruns⟩ := Session.executeAll_runs (s := first) runner (typedLines s.input) rfl
  have hfile : (first.executeAll runner (typedLines s.input)).1.env.history.file = none := by
    rw [hruns.reaches.history_eq]
    rfl
  have hfinish : (first.run runner (typedLines s.input)).1 = (first.executeAll runner (typedLines s.input)).1 := by
    simp only [Session.run, Session.finish, History.sync, hfile]
  rw [hfinish] at hsession
  exact ⟨tree?, executed, _, hruns, hsession.1, hsession.2⟩

/-! ## What a run leaves -/

/-- What a run leaves, seen from the directory that it started in. -/
def afterwards (runner : Runner) (s : Start) : Place := { (run runner s).here with cwd := s.here.cwd }

/-- A program that cannot start leaves what was there, or that with its log. -/
theorem Fails.afterwards_eq (runner : Runner) (hgiven : grammar.read s.arguments = .ok given) (h : s.Fails given e) :
    afterwards runner s = s.here ∨ ∃ config, configure s.vars given = .ok config ∧ afterwards runner s = prepareLog s.here config := by
  rcases h.run_eq runner hgiven with hrun | ⟨config, hconfig, hrun⟩
  · left
    rw [Start.afterwards, hrun]
    rfl
  · refine .inr ⟨config, hconfig, ?_⟩
    rw [Start.afterwards, hrun, ← (prepareLog_grows s.here config).cwd]
    rfl

theorem Fails.preserves (runner : Runner) (hgiven : grammar.read s.arguments = .ok given) (h : s.Fails given e) (p : Path) :
    Place.Preserves p s.here (afterwards runner s) := by
  rcases h.afterwards_eq runner hgiven with hafter | ⟨config, -, hafter⟩
  · rw [hafter]
    exact .refl p s.here
  · rw [hafter]
    exact (prepareLog_grows s.here config).preserves p

/-- A session whose history could not be read is opened with a new one that is kept in no file. -/
theorem run_unsaved {argv : List Text} {l : Location} {err : HistoryError} (runner : Runner)
    (hgiven : grammar.read s.arguments = .ok given) (hprepared : s.Prepared given config vars)
    (hfile : config.historyFile = s.historyFile given)
    (hbase : baseCommand (prepareLog s.here config) vars (line given) = .ok argv)
    (hl : s.here.resolve (s.historyFile given) = .ok l) (hload : History.load s.here (s.historyFile given) = .error err) :
    ∃ tree? executed last,
      (Session.opened (prepareLog s.here config) vars argv tree? (.inMemory (List.intercalate [' '] argv) [])).Runs runner
        (typedLines s.input) executed last ∧
      (run runner s).here = last.env.here ∧ (run runner s).status = (last.exitStatus % 256).toNat := by
  have hrun : run runner s = runSession { s with here := prepareLog s.here config } runner config given vars argv :=
    (run_prepared hgiven hprepared).trans (by rw [hbase])
  have hkept := (prepareLog_grows s.here config).preserves (s.historyFile given)
  rw [hrun]
  refine runSession_unsaved (s := { s with here := prepareLog s.here config }) ?_
  rw [hfile]
  exact openHistory_error _ hkept hl hload

/-- The file of such a session is what it was: making the log changes nothing that is there, and no program
touches it. -/
theorem preserves_of_load_error {l : Location} {err : HistoryError} (hgiven : grammar.read s.arguments = .ok given)
    (hl : s.here.resolve (s.historyFile given) = .ok l) (hload : History.load s.here (s.historyFile given) = .error err)
    (hspares : runner.Spares s.here.cwd (s.historyFile given)) :
    Place.Preserves (s.historyFile given) s.here (afterwards runner s) := by
  rcases s.fails_or_starts given with ⟨e, hfails⟩ | ⟨config, vars, argv, hprepared, hfile, hbase⟩
  · exact hfails.preserves runner hgiven _
  · obtain ⟨tree?, executed, last, hruns, hhere, -⟩ := run_unsaved runner hgiven hprepared hfile hbase hl hload
    have hlog := (prepareLog_grows s.here config).preserves (s.historyFile given)
    have hlines := hruns.reaches.preserves hspares
    have hcwd : (prepareLog s.here config).cwd = s.here.cwd := (prepareLog_grows s.here config).cwd
    rw [Start.afterwards, hhere]
    rw [← hcwd] at hlines ⊢
    exact hlog.trans hlines

/-- A program that cannot start leaves nothing new where the history was to be, but a directory for its log. -/
theorem Fails.get?_afterwards {after : Place} {l : Location} (hgiven : grammar.read s.arguments = .ok given) (h : s.Fails given e)
    (helse : s.LogsElsewhere given) (hlogged : s.Logged given (afterwards runner s) after)
    (hl : after.resolve (s.historyFile given) = .ok l) :
    after.tree.get? l = s.here.tree.get? l ∨ s.HoldsLog given after l := by
  rw [hlogged.resolve_eq] at hl
  have hsame : after.tree.get? l = (afterwards runner s).tree.get? l := by
    apply hlogged.get?_eq helse
    intro config hconfig
    rcases h.afterwards_eq runner hgiven with hafter | ⟨config', hconfig', hafter⟩
    · rw [hafter] at hl
      exact (prepareLog_grows s.here config).resolve hl
    · obtain rfl := Except.ok.inj (hconfig.symm.trans hconfig')
      rwa [hafter] at hl
  rcases h.afterwards_eq runner hgiven with hafter | ⟨config, hconfig, hafter⟩
  · left
    rw [hsame, hafter]
  · rw [hafter] at hl
    rcases helse.get?_eq hconfig hl with hold | ⟨hdir, config', hconfig', dir, hmem, hr⟩
    · left
      rw [hsame, hafter, hold]
    · right
      refine ⟨?_, config', hconfig', dir, hmem, ?_⟩
      · rw [hsame, hafter, hdir]
      · rw [hlogged.resolve_eq, hafter, hr]

/-- What a run that does not keep its history leaves of the file that was chosen for it, whatever the records in its
log are, as long as the log is kept in another file. Arguments that are not taken change nothing at all. A program
that cannot start changes nothing there and makes no file either, only the directories that the log lies in. A file
that is there and cannot be read as a history is not touched, as long as no program that is run does; the lines are
executed all the same. -/
theorem run_spares_history (runner : Runner) (s : Start) :
    (∀ refusal, grammar.read s.arguments = .error refusal → afterwards runner s = s.here) ∧
    ∀ given, grammar.read s.arguments = .ok given →
      let file := s.historyFile given
      (∀ e, s.Fails given e →
        (run runner s).status = 1 ∧ (run runner s).output = report e.message ∧
        (s.LogsElsewhere given → ∀ after, s.Logged given (afterwards runner s) after →
          Place.Preserves file s.here after ∧
          ∀ l, after.resolve file = .ok l → after.tree.get? l = s.here.tree.get? l ∨ s.HoldsLog given after l)) ∧
      (s.LogsElsewhere given → ∀ l err, s.here.resolve file = .ok l → History.load s.here file = .error err →
        runner.Spares s.here.cwd file →
        (∀ after, s.Logged given (afterwards runner s) after → Place.Preserves file s.here after) ∧
        ((∀ e, ¬s.Fails given e) → ∃ config vars argv tree? executed last, s.Prepared given config vars ∧
          baseCommand (prepareLog s.here config) vars (line given) = .ok argv ∧
          (Session.opened (prepareLog s.here config) vars argv tree? (.inMemory (List.intercalate [' '] argv) [])).Runs runner
            (typedLines s.input) executed last ∧
          (run runner s).here = last.env.here ∧ (run runner s).status = (last.exitStatus % 256).toNat)) := by
  refine ⟨fun refusal hrefusal => ?_, fun given hgiven => ⟨fun e hfails => ?_, fun helse l err hl hload hspares => ⟨?_, ?_⟩⟩⟩
  · rw [Start.afterwards, run, hrefusal]
    dsimp only
    split <;> rfl
  · have hgave : ∃ here, run runner s = giveUp here e := by
      rcases hfails.run_eq runner hgiven with hrun | ⟨config, -, hrun⟩
      · exact ⟨_, hrun⟩
      · exact ⟨_, hrun⟩
    obtain ⟨here, hrun⟩ := hgave
    refine ⟨by rw [hrun]; rfl, by rw [hrun]; rfl, fun helse after hlogged => ⟨?_, fun l hl => ?_⟩⟩
    · exact hlogged.preserves helse (hfails.preserves runner hgiven _)
    · exact hfails.get?_afterwards hgiven helse hlogged hl
  · intro after hlogged
    exact hlogged.preserves helse (preserves_of_load_error hgiven hl hload hspares)
  · intro hnone
    obtain ⟨config, vars, argv, hprepared, hfile, hbase⟩ := (s.fails_or_starts given).resolve_left fun ⟨e, he⟩ => hnone e he
    obtain ⟨tree?, executed, last, hruns, hhere, hstatus⟩ := run_unsaved runner hgiven hprepared hfile hbase hl hload
    exact ⟨config, vars, argv, tree?, executed, last, hprepared, hbase, hruns, hhere, hstatus⟩

/-- Arguments that are not taken, no base command, and a file that holds no history. -/
theorem run_spares_history_malformed :
    let runner : Runner := fun here _ => .ok ⟨{}, .exited 0, here.tree⟩
    let vars : List (Text × Text) := [("WRASH_LOG", "off")]
    let refused : Start := ⟨["--history"], vars, [], ⟨.empty, []⟩⟩
    let idle : Start := ⟨["--history-file", "h"], vars, [], ⟨.empty, []⟩⟩
    let nothing : Given := ⟨[("history-file", "h")], []⟩
    let command : Given := ⟨[("history-file", "h")], ["/git"]⟩
    let malformed : Start := ⟨["--history-file", "h", "/git"], vars, "log\n!!exit 3\n",
      ⟨⟨[(["git"], .file [] true), (["h"], .file "]" false)]⟩, []⟩⟩
    (grammar.read refused.arguments = .error (.unrecognized "--history") ∧ afterwards runner refused = refused.here) ∧
    (grammar.read idle.arguments = .ok nothing ∧
      idle.Fails nothing .noCommand ∧ idle.LogsElsewhere nothing ∧
      (run runner idle).status = 1 ∧ (run runner idle).output = report StartError.noCommand.message ∧
      ∀ after, idle.Logged nothing (afterwards runner idle) after → Place.Preserves "h" idle.here after ∧
        ∀ l, after.resolve "h" = .ok l → after.tree.get? l = idle.here.tree.get? l ∨ idle.HoldsLog nothing after l) ∧
    grammar.read malformed.arguments = .ok command ∧ malformed.here.resolve "h" = .ok ["h"] ∧
      malformed.LogsElsewhere command ∧
      (∃ err, History.load malformed.here "h" = .error err) ∧ runner.Spares malformed.here.cwd "h" ∧
      (∀ e, ¬malformed.Fails command e) ∧
      (∀ after, malformed.Logged command (afterwards runner malformed) after → Place.Preserves "h" malformed.here after) ∧
      ∃ config vars argv tree? executed last, malformed.Prepared command config vars ∧
        baseCommand (prepareLog malformed.here config) vars "/git" = .ok argv ∧
        (Session.opened (prepareLog malformed.here config) vars argv tree? (.inMemory (List.intercalate [' '] argv) [])).Runs runner
          ["log", "!!exit 3"] executed last ∧
        (run runner malformed).here = last.env.here ∧ (run runner malformed).status = (last.exitStatus % 256).toNat := by
  intro runner vars refused idle nothing command malformed
  -- arguments that are not taken
  have hrefused : grammar.read refused.arguments = .error (.unrecognized "--history") := by decide +kernel
  -- no base command
  have hidle : grammar.read idle.arguments = .ok nothing := by decide +kernel
  have hconfig : configure vars nothing =
      .ok ⟨"h", "./.wrash_completion", "./.local/share/wrash/wrash.log", .off⟩ := by decide +kernel
  have hread : Command.read (line nothing) = .ok ⟨[]⟩ := by decide +kernel
  have hfails : idle.Fails nothing .noCommand := .noCommand ⟨hconfig, rfl⟩ hread rfl
  have helse : idle.LogsElsewhere nothing := by
    intro config hconfig' l hl
    obtain rfl := Except.ok.inj (hconfig.symm.trans hconfig')
    simp +decide [prepareLog, idle, Place.resolve, Place.find, List.splitOn_cons_eq_if_modifyHead, Tree.walk, Tree.get?, Tree.empty] at hl
  -- a file that holds no history
  have hmalformed : grammar.read malformed.arguments = .ok command := by decide +kernel
  have hthere : malformed.here.resolve "h" = .ok ["h"] := by
    simp +decide [malformed, Place.resolve, Place.find, List.splitOn_cons_eq_if_modifyHead, Tree.walk, Tree.get?, List.lookup_cons]
  have hload : ∃ err, History.load malformed.here "h" = .error err := by
    have hread : malformed.here.read "h" = .ok "]" := by
      rw [Place.read, hthere]
      rfl
    have hnone : (History.read "]").toOption = none := by decide +kernel
    cases hbad : History.read "]" with
    | error e => exact ⟨.malformed "h" e, by rw [History.load, hread]; dsimp only; rw [hbad]⟩
    | ok es => rw [hbad] at hnone; cases hnone
  have hspares : runner.Spares malformed.here.cwd "h" := by
    intro here call o ho
    cases ho
    exact .refl "h" _
  have hprepared : malformed.Prepared command
      ⟨"h", "./.wrash_completion", "./.local/share/wrash/wrash.log", .off⟩ (.inherited vars) := ⟨by decide +kernel, rfl⟩
  have hbase : baseCommand malformed.here (.inherited vars) "/git" = .ok ["/git"] := by
    have hread : Command.read "/git" = .ok ⟨[⟨[.word "/git"]⟩]⟩ := by decide +kernel
    have hexpand : Command.expand malformed.here (Variables.inherited vars).value ⟨[⟨[.word "/git"]⟩]⟩ = .ok ["/git"] := rfl
    have hfile : malformed.here.isFile "/git" := by
      simp +decide [malformed, Place.isFile, Place.entry?, Place.resolve, Place.find, List.splitOn_cons_eq_if_modifyHead, Tree.walk, Tree.get?]
    have hfind (searchPath : Text) :
        malformed.here.findProgram searchPath malformed.here.cwd.path "/git" = some ("/git" : Text) := by
      rw [Place.findProgram, if_pos (by decide), Place.firstFile, List.find?_cons, hfile]
    simp only [baseCommand, hread, hexpand, hfind]
  have hstarts := hprepared.not_fails hbase
  have helse' : malformed.LogsElsewhere command := by
    intro config hconfig' l hl
    obtain rfl := Except.ok.inj (hprepared.configured.symm.trans hconfig')
    simp +decide [prepareLog, malformed, Place.resolve, Place.find, List.splitOn_cons_eq_if_modifyHead, Tree.walk, Tree.get?,
      List.lookup_cons] at hl
  obtain ⟨err, herr⟩ := hload
  obtain ⟨hstatus, houtput, hlogs⟩ := ((run_spares_history runner idle).2 _ hidle).1 _ hfails
  obtain ⟨hkept, hruns⟩ := ((run_spares_history runner malformed).2 _ hmalformed).2 helse' _ err hthere herr hspares
  exact ⟨⟨hrefused, (run_spares_history runner refused).1 _ hrefused⟩,
    ⟨hidle, hfails, helse, hstatus, houtput, hlogs helse⟩,
    hmalformed, hthere, helse', ⟨err, herr⟩, hspares, hstarts, hkept, hruns hstarts⟩

/-- The log lies in a directory where the history was to be: the directory is made. -/
theorem not_run_spares_history :
    let s : Start := ⟨["--history-file", "h"], [("WRASH_LOG_FILE", "h/log")], [], ⟨.empty, []⟩⟩
    let given : Given := ⟨[("history-file", "h")], []⟩
    grammar.read s.arguments = .ok given ∧ s.historyFile given = "h" ∧ s.Fails given .noCommand ∧ s.LogsElsewhere given ∧
      s.here.resolve "h" = .error .notFound ∧ ∀ runner, (afterwards runner s).resolve "h" = .ok ["h"] := by
  intro s given
  let config : Config := ⟨"h", "./.wrash_completion", "h/log", .warn⟩
  let logged : Place := ⟨⟨[(["log", "h"], .file [] false), (["h"], .dir)]⟩, []⟩
  have hgiven : grammar.read s.arguments = .ok given := by decide +kernel
  have hconfig : configure s.vars given = .ok config := by decide +kernel
  have hlog : prepareLog s.here config = logged := by
    have hparent : Path.parent? ['h', '/', 'l', 'o', 'g'] = some ['h'] := by decide
    have hup : Path.upwards ['h'] = [['h']] := by decide
    simp +decide [s, config, logged, prepareLog, hparent, hup, Place.makeDirs, Place.makeDirsFrom, Place.makeDir, Place.write,
      Place.read, Place.resolve, Place.find, List.splitOn_cons_eq_if_modifyHead, Tree.walk, Tree.get?, Place.put, Tree.put, Tree.empty,
      List.lookup_cons, Except.toOption]
  have hhere : s.here.resolve "h" = .error .notFound := by
    simp +decide [s, Place.resolve, Place.find, List.splitOn_cons_eq_if_modifyHead, Tree.walk, Tree.get?, Tree.empty]
  have hdir : logged.resolve "h" = .ok ["h"] := by
    simp +decide [logged, Place.resolve, Place.find, List.splitOn_cons_eq_if_modifyHead, Tree.walk, Tree.get?, List.lookup_cons]
  have hfile : logged.resolve "h/log" = .ok ["log", "h"] := by
    simp +decide [logged, Place.resolve, Place.find, List.splitOn_cons_eq_if_modifyHead, Tree.walk, Tree.get?, List.lookup_cons]
  have hprepared : s.Prepared given config (.inherited s.vars) := ⟨hconfig, rfl⟩
  have hread : Command.read (line given) = .ok ⟨[]⟩ := by decide +kernel
  have hfails : s.Fails given .noCommand := .noCommand hprepared hread rfl
  have helse : s.LogsElsewhere given := by
    intro config' hconfig' l hl
    obtain rfl : config = config' := Except.ok.inj (hconfig.symm.trans hconfig')
    rw [hlog] at hl ⊢
    obtain rfl : _ = l := Except.ok.inj (hfile.symm.trans hl)
    intro hsame
    cases hdir.symm.trans hsame
  refine ⟨hgiven, rfl, hfails, helse, hhere, fun runner => ?_⟩
  have hbase : baseCommand (prepareLog s.here config) (.inherited s.vars) (line given) = .error .noCommand := by
    rw [baseCommand, hread]
    rfl
  rw [afterwards, run_prepared hgiven hprepared, hbase, hlog]
  exact hdir

end Start

end WrapShell
