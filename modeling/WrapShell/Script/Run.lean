import WrapShell.Script.Builtin
import WrapShell.Script.Reader
/-!
# Running a script

A shell runs the steps of a script in order until it ends. What a command writes goes where the
redirections of its step lead, from left to right. Programs are run by a `Runner`.
-/

namespace WrapShell.Shell

/-- Where a stream leads. -/
inductive Sink where
  | stdout
  | stderr
  /-- A file, at its location. -/
  | file (l : Location)
  | nowhere
  deriving DecidableEq, Repr

/-- Where the two output streams of a command lead. -/
structure Sinks where
  stdout : Sink := .stdout
  stderr : Sink := .stderr

/-- Delivers what was written to one stream. -/
def deliver (sh : Shell) (bytes : Bytes) : Sink → Shell
  | .stdout => { sh with output := sh.output ++ { stdout := bytes } }
  | .stderr => { sh with output := sh.output ++ { stderr := bytes } }
  | .nowhere => sh
  | .file l =>
    match sh.here.tree.get? l with
    | some (.file content executable) =>
      { sh with here := sh.here.put l (.file (content ++ Text.ofUtf8 bytes) executable) }
    | _ => sh

/-- Delivers what a command wrote. -/
def deliverAll (sh : Shell) (sinks : Sinks) (o : Output) : Shell :=
  (sh.deliver o.stdout sinks.stdout).deliver o.stderr sinks.stderr

/-- The file that everything can be written to and that stays empty. -/
def nullFile : Path := "/dev/null"

/-- How a file that cannot be opened is complained about. -/
def openProblem (creating : Bool) (p : Path) (e : FileError) : Text :=
  let reason : Text := match e with
    | .notFound | .notDirectory => if creating then "Directory nonexistent" else "No such file"
    | e => e.reason
  "cannot " ++ (if creating then ("create " : Text) else "open ") ++ p ++ ": " ++ reason

/-- Opens a file for writing. -/
def openSink (sh : Shell) (p : Path) (append : Bool) : Except Text (Shell × Sink) :=
  if p = nullFile then .ok (sh, .nowhere)
  else
    let content := if append then (sh.here.read p).toOption.getD [] else []
    match sh.here.write p content with
    | .error e => .error (openProblem true p e)
    | .ok here =>
      match here.resolve p with
      | .error e => .error (openProblem true p e)
      | .ok l => .ok ({ sh with here := here }, .file l)

/-- Makes a stream lead elsewhere. Only the output streams count. -/
def Sinks.set (s : Sinks) (stream : Nat) (sink : Sink) : Sinks :=
  match stream with
  | 1 => { s with stdout := sink }
  | 2 => { s with stderr := sink }
  | _ => s

/-- Where redirections lead, and the shell after opening their files. -/
def redirect (sh : Shell) (sinks : Sinks) : List Script.Redirection → Except Text (Shell × Sinks)
  | [] => .ok (sh, sinks)
  | r :: rs =>
    match r.target with
    | .stream w =>
      match String.ofList (sh.expandWhole w) with
      | "1" => redirect sh (sinks.set r.stream sinks.stdout) rs
      | "2" => redirect sh (sinks.set r.stream sinks.stderr) rs
      | "-" => redirect sh (sinks.set r.stream .nowhere) rs
      | t => .error (t.toList ++ ": Bad file descriptor")
    | .source w =>
      let p := sh.expandWhole w
      if p = nullFile then redirect sh sinks rs
      else
        match sh.here.read p with
        | .ok _ => redirect sh sinks rs
        | .error e => .error (openProblem false p e)
    | .file w append =>
      match sh.openSink (sh.expandWhole w) append with
      | .error e => .error e
      | .ok (sh, sink) => redirect sh (sinks.set r.stream sink) rs

/-- The directories that programs are looked for in. -/
def searchPath (sh : Shell) : List Path :=
  Path.split ((sh.value? "PATH").getD "/usr/local/sbin:/usr/local/bin:/usr/sbin:/usr/bin:/sbin:/bin")

/-- Runs the first program of some paths that can be started. -/
def start (sh : Shell) (run : Runner) (name : Text) (arguments : List Text) (worst : FileError) :
    List Path → Except FileError Outcome
  | [] => .error worst
  | p :: ps =>
    match run sh.here ⟨p, name, arguments, sh.bindings⟩ with
    | .ok o => .ok o
    | .error .notFound | .error .notDirectory => start sh run name arguments worst ps
    | .error e => start sh run name arguments e ps

/-- Runs a program. -/
def runProgram (sh : Shell) (run : Runner) (line : Nat) (name : Text) (arguments : List Text) : Step :=
  let places := if name.contains '/' then [name] else sh.searchPath.map fun d => Path.join d name
  match sh.start run name arguments .notFound places with
  | .ok o =>
    ({ sh with here := { sh.here with tree := o.tree } }).leave o.ending.status o.output
  | .error .notFound | .error .notDirectory => sh.fail line 127 (name ++ ": not found")
  | .error e => sh.fail line 126 (name ++ ": " ++ e.reason)

/-- Whether a step is run after a status. -/
def isDue (status : Nat) : Script.Connection → Bool
  | .always => true
  | .onSuccess => status == 0
  | .onFailure => status != 0

/-- The shell with the bindings of a step. -/
def bind (sh : Shell) (handedOn : Bool) (bindings : List (Text × Script.Word)) : Shell :=
  bindings.foldl (fun sh b =>
    let value := sh.expandWhole b.2
    if handedOn then { sh with vars := Keyed.insert b.1 (value, true) sh.vars } else sh.set b.1 value) sh

/-- Runs the command of a step. Bindings in front of a command last as long as that. -/
def runCommand (sh : Shell) (run : Runner) (s : Script.Step) : Step :=
  match s.words.flatMap sh.expand with
  | [] => (sh.bind false s.bindings).leave 0
  | name :: arguments =>
    let bound := sh.bind true s.bindings
    let (after, output) := match bound.builtin? s.line name arguments with
      | some step => step
      | none => bound.runProgram run s.line name arguments
    (if s.bindings = [] then after else { after with vars := sh.vars }, output)

/-- Runs a step. -/
def runStep (run : Runner) (sh : Shell) (s : Script.Step) : Shell :=
  if sh.ending.isSome || !isDue sh.status s.connection then sh
  else
    match sh.redirect {} s.redirections with
    | .error problem =>
      let (after, output) := sh.fail s.line 2 problem
      after.deliverAll {} output
    | .ok (sh, sinks) =>
      let (after, output) := sh.runCommand run s
      after.deliverAll sinks output

/-- Runs a script: what is written, how the shell ends and the tree it leaves. -/
def runScript (run : Runner) (sh : Shell) (script : Script) : Outcome :=
  let last := script.steps.foldl (runStep run) sh
  let done := match script.fault, last.ending with
    | some (line, f), none => (last.stop 2).deliverAll {} (last.complaint line f.message)
    | _, _ => last
  ⟨done.output, done.ending.getD (.exited done.status), done.here.tree⟩

end WrapShell.Shell
