import WrapShell.Line.Expand
import WrapShell.Line.Reader
import WrapShell.Program.Lookup
import WrapShell.Program.Run
import WrapShell.Session.Builtin
import WrapShell.Suggest.CommandTree
/-!
# Sessions

A session wraps a base command. Each line is read and expanded; one that starts with the mark
calls a builtin, any other is added to the base command and run. A line that fails is reported.
-/

namespace WrapShell

/-- A session for a base command, which is a program with its first arguments. -/
structure Session where
  argv : List Text
  env : Environment
  /-- What is known about the base command. -/
  tree? : Option CommandTree := none
  /-- The status of the line before. -/
  previous : Int := 0

/-- Why a line cannot be run. -/
inductive LineError where
  | unreadable (cause : ReadError)
  | unexpandable (cause : ExpandError)
  | unknownBuiltin (invocation : Text)
  | noCommand
  | notFound (program : Text)
  | noStart (program : Path) (cause : FileError)
  deriving DecidableEq, Repr

namespace LineError

/-- The status of a line that cannot be run. -/
def status : LineError → Int
  | .unreadable _ | .unexpandable _ => 2
  | _ => 127

/-- The wording of an error. -/
def message : LineError → Text
  | .unreadable e => "could not parse args: " ++ e.message
  | .unexpandable e => "could not expand args: " ++ e.message
  | .unknownBuiltin invocation => "unknown command: " ++ invocation
  | .noCommand => "could not run command: no command provided"
  | .notFound program => "could not run command: command not found: " ++ program
  | .noStart program e => "could not run command: could not run " ++ program ++ ": " ++ e.message

end LineError

namespace Session

/-- The base command as it is shown. -/
def base (s : Session) : Text := List.intercalate [' '] s.argv

/-- Calls the builtin that the first argument names. -/
def runBuiltin (env : Environment) (arguments : List Text) : Answer LineError :=
  let invocation := arguments.headD []
  match Builtin.ofName? ((Text.after? builtinMark invocation).getD invocation) with
  | none => .failed env (.unknownBuiltin invocation)
  | some b => .ended (b.call env arguments.tail)

/-- The search path of a program that is given none. -/
def defaultSearchPath : Text := "/bin:/usr/bin"

/-- Starts a program in the current directory. -/
def start (run : Runner) (env : Environment) (program : Path) (arguments : List Text) : Except FileError Outcome :=
  let call : Call := ⟨program, program, arguments, env.programBindings⟩
  if call.hasNul then .error .nulInData
  else
    match env.here.directory env.currentDir with
    | .error e => .error e
    | .ok l =>
      runByName run ((env.vars.get? "PATH").getD defaultSearchPath) { env.here with cwd := l } call

/-- Runs the base command with more arguments. -/
def runExternal (run : Runner) (argv : List Text) (env : Environment) (arguments : List Text) : Answer LineError :=
  match argv with
  | [] => .failed env .noCommand
  | program :: first =>
    match env.here.findProgram (env.lookup "PATH") env.currentDir program with
    | none => .failed env (.notFound program)
    | some file =>
      match start run env file (first ++ arguments) with
      | .error e => .failed env (.noStart file e)
      | .ok o => ({ env with here := { env.here with tree := o.tree } }, o.output, .ok o.ending.status)

/-- Reads, expands and runs a line. -/
def runLine (run : Runner) (argv : List Text) (env : Environment) (line : Text) : Answer LineError :=
  match Command.read line with
  | .error e => .failed env (.unreadable e)
  | .ok command =>
    match command.expand env.here env.lookup with
    | .error e => .failed env (.unexpandable e)
    | .ok arguments =>
      if isBuiltinLine line then runBuiltin env arguments else runExternal run argv env arguments

/-- Executes a line: it enters the history, is run, and leaves its status, which is given back
too. A blank line does nothing at all. -/
def execute (run : Runner) (s : Session) (line : Text) : Session × Output × Int :=
  if Text.allBlank line then (s, {}, s.previous)
  else
    let env := { s.env with history := s.env.history.add line }
    match runLine run s.argv env line with
    | (after, output, .ok status) => ({ s with env := after, previous := status }, output, status)
    | (after, output, .error e) =>
      ({ s with env := after, previous := e.status }, output ++ .diagnostic (e.message ++ "\n"), e.status)

/-- What a user is asked for lines with: who and where they are, and the base command. -/
def prompt (s : Session) : Text :=
  "[" ++ s.env.lookup "USER" ++ " " ++ s.env.currentDir ++ "] " ++ s.base ++ " > "

/-- Executes lines up to the first after which the session is to end. -/
def executeAll (run : Runner) (s : Session) : List Text → Session × Output
  | [] => (s, {})
  | line :: lines =>
    let (after, output, _) := s.execute run line
    if after.env.shouldExit then (after, output)
    else
      let (last, more) := executeAll run after lines
      (last, output ++ more)

/-- Writes the history to its file, and reports it if that fails. -/
def finish (s : Session) : Session × Output :=
  let (here, problem?) := s.env.history.sync s.env.here
  ({ s with env := { s.env with here := here } },
    match problem? with
    | none => {}
    | some e => .diagnostic ("could not sync history: " ++ e.message ++ "\n"))

/-- Executes lines and writes the history: the session in the end, and all that was written. -/
def run (runner : Runner) (s : Session) (lines : List Text) : Session × Output :=
  let (last, output) := s.executeAll runner lines
  let (finished, more) := last.finish
  (finished, output ++ more)

/-- The status that the whole session ends with. -/
def exitStatus (s : Session) : Int := s.env.exitCode.getD 0

end Session

end WrapShell
