import WrapShell.Config
import WrapShell.Line.Typed
import WrapShell.Options.Usage
import WrapShell.Session.Basic
import WrapShell.Suggest.File
/-!
# Starting

From its arguments, its variables and its input the program becomes a session: options are read,
files are prepared and the base command is looked for. What goes wrong up to there ends the
program; a history or a command tree that cannot be read is only reported.
-/

namespace WrapShell

/-- What the program is given. -/
structure Start where
  arguments : List Text
  vars : List (Text × Text)
  input : Text
  here : Place

/-- What comes of the program. -/
structure Finish where
  status : Nat
  output : Output
  here : Place

/-- Why the program ends before its session starts. -/
inductive StartError where
  | invalidLevel (level : Text)
  | invalidBinding (cause : BindingError)
  | unreadable (line : Text) (cause : ReadError)
  | unexpandable (line : Text) (cause : ExpandError)
  | noCommand
  | notFound (program : Text)
  deriving DecidableEq, Repr

namespace StartError

/-- What is added to a message for the cause of an error. -/
def because (cause? : Option Text) : Text :=
  match cause? with
  | some cause => ": " ++ cause
  | none => []

/-- The wording of an error. -/
def message : StartError → Text
  | .invalidLevel level => LogLevel.invalid level
  | .invalidBinding e => e.message
  | .unreadable line e => "could not parse base command '" ++ line ++ "': " ++ e.message ++ because e.cause?
  | .unexpandable line e => "could not expand base command '" ++ line ++ "': " ++ e.message ++ because e.cause?
  | .noCommand => "no command provided"
  | .notFound program => "command not found: " ++ program

end StartError

namespace Start

/-- The name of the program. -/
def name : Text := "wrash"

/-- The arguments of the program. -/
def grammar : Grammar where
  summary := "Wrap any command line utility into an interactive shell."
  switches := [
    ⟨"history-file", none, .value fun _ => none, "file where the command history is stored."⟩,
    ⟨"completion-file", none, .value fun _ => none,
      "YAML file describing the sub-commands, flags and arguments of the base command."⟩,
    ⟨"log-level", none, .value fun _ => none, "one of off, error, warn, info, debug or trace."⟩,
    ⟨"env", some 'e', .values, "extra session variable as KEY=VALUE, may be repeated."⟩]
  operand := some ⟨"base", true, "the base command, optionally with leading arguments."⟩

/-- What the program reports about itself. -/
def report (message : Text) : Output := .diagnostic (name ++ ": " ++ message ++ "\n")

/-- The configuration: options count more than variables. -/
def configure (vars : List (Text × Text)) (given : Given) : Except StartError Config :=
  let config := Config.ofLookup fun n => List.lookup n vars
  let config := { config with historyFile := (given.value? "history-file").getD config.historyFile }
  match given.value? "log-level" with
  | none => .ok config
  | some t =>
    match LogLevel.read? t with
    | some level => .ok { config with logLevel := level }
    | none => .error (.invalidLevel t)

/-- Prepares the file that is logged to. Whatever fails there is passed over. -/
def prepareLog (here : Place) (config : Config) : Place :=
  if config.logLevel = .off then here
  else
    let there := match Path.parent? config.logFile with
      | none => here
      | some dir => if dir = [] then here else (here.makeDirs dir).1
    let content := (there.read config.logFile).toOption.getD []
    (there.write config.logFile content).toOption.getD there

/-- The variables of the session: those that are inherited, then those given as options. -/
def bindAll (vars : Variables) : List Text → Except StartError Variables
  | [] => .ok vars
  | b :: bs =>
    match readBinding b with
    | .error e => .error (.invalidBinding e)
    | .ok (n, v) => bindAll (vars.set n v) bs

/-- The base command that the operands spell, with its program found. -/
def baseCommand (here : Place) (vars : Variables) (line : Text) : Except StartError (List Text) :=
  match Command.read line with
  | .error e => .error (.unreadable line e)
  | .ok command =>
    match command.expand here vars.value with
    | .error e => .error (.unexpandable line e)
    | .ok [] => .error .noCommand
    | .ok (program :: arguments) =>
      match here.findProgram (vars.value "PATH") here.cwd.path program with
      | none => .error (.notFound program)
      | some _ => .ok (program :: arguments)

/-- The history for a base command. One that cannot be read is reported, and the session keeps
its history in no file. -/
def openHistory (here : Place) (base : Text) (file : Path) : History × Output :=
  match History.openFile here base file with
  | .ok h => (h, {})
  | .error e => (.inMemory base [], report (e.message ++ ", history will not be saved"))

/-- The command tree in a file, if there is one. One that cannot be read is reported. -/
def loadTree (here : Place) (file : Path) : Option CommandTree × Output :=
  if here.isPresent file then
    match CommandTree.load here file with
    | .ok tree => (some tree, {})
    | .error e => (none, report e.message)
  else (none, {})

/-- Starts and runs the session for the base command that is given. -/
def runSession (s : Start) (runner : Runner) (config : Config) (given : Given) (vars : Variables) (argv : List Text) :
    Finish :=
  let base := List.intercalate [' '] argv
  let (history, noHistory) := openHistory s.here base config.historyFile
  let (tree?, noTree) := loadTree s.here
    ((given.value? "completion-file").getD (config.completionFileFor (argv.headD [])))
  let env := { Environment.start s.here base with vars := vars, history := history }
  let (last, output) := Session.run runner { argv := argv, env := env, tree? := tree? } (typedLines s.input)
  { status := (last.exitStatus % 256).toNat, output := noHistory ++ noTree ++ output, here := last.env.here }

/-- The end of a program that cannot start. -/
def giveUp (here : Place) (e : StartError) : Finish := { status := 1, output := report e.message, here := here }

/-- Runs the program. -/
def run (runner : Runner) (s : Start) : Finish :=
  match grammar.read s.arguments with
  | .error refusal =>
    let text := refusal.message grammar name
    if refusal = .help then { status := 0, output := .regular (text ++ "\n"), here := s.here }
    else
      { status := 1, here := s.here
        output := .diagnostic (text ++ "\nRun " ++ name ++ " --help for more information.\n") }
  | .ok given =>
    match configure s.vars given with
    | .error e => giveUp s.here e
    | .ok config =>
      let here := prepareLog s.here config
      match bindAll (.inherited s.vars) (given.valuesOf "env") with
      | .error e => giveUp here e
      | .ok vars =>
        match baseCommand here vars (List.intercalate [' '] given.operands) with
        | .error e => giveUp here e
        | .ok argv => runSession { s with here := here } runner config given vars argv

end Start

end WrapShell
