import WrapShell.Line.Mark
import WrapShell.Number.Integer
import WrapShell.Options.Usage
import WrapShell.Program.Call
import WrapShell.Regex.Basic
import WrapShell.Session.Environment
import WrapShell.Text.Quoted
/-!
# Builtins

The commands of the shell itself: each has a name, a summary, the grammar of its arguments, and
what it does to the environment of the session.
-/

namespace WrapShell

/-- A command of the shell itself. -/
inductive Builtin where
  | cd
  | env
  | exit
  | help
  | history
  deriving DecidableEq, Repr

/-- Why a builtin fails. -/
inductive BuiltinError where
  | noTarget
  | noEntry (dir : Path) (cause : FileError)
  | invalidCode (code : Text) (cause : IntegerError)
  | unexpected (arguments : List Text)
  | unsupported (action : Text)
  | invalidPattern (pattern problem : Text)
  deriving DecidableEq, Repr

/-- The wording of an error. -/
def BuiltinError.message : BuiltinError → Text
  | .noTarget => "no target and HOME not set"
  | .noEntry dir cause => "could not change directory to " ++ dir ++ ": " ++ cause.message
  | .invalidCode code cause => "invalid exit code '" ++ code ++ "': " ++ cause.message
  | .unexpected arguments => "received unexpected arguments: " ++ Text.quotedList arguments
  | .unsupported action => "received unsupported command: " ++ action
  | .invalidPattern pattern problem => "could not compile pattern '" ++ pattern ++ "': " ++ problem

namespace Builtin

/-- All builtins, in order of their names. -/
def all : List Builtin := [.cd, .env, .exit, .help, .history]

/-- The name of a builtin, without the mark. -/
def name : Builtin → Text
  | .cd => "cd"
  | .env => "env"
  | .exit => "exit"
  | .help => "help"
  | .history => "history"

/-- What a builtin is for, in one line. -/
def summary : Builtin → Text
  | .cd => "change the working directory of the shell"
  | .env => "set or display environment variables for the current session"
  | .exit => "exit the shell"
  | .help => "view help text"
  | .history => "view the history of the shell"

/-- How a builtin is called. -/
def invocation (b : Builtin) : Text := builtinMark ++ b.name

/-- The builtin of a name. -/
def ofName? (n : Text) : Option Builtin := all.find? fun b => b.name == n

/-- What is wrong with the number of entries to be shown. -/
def numberProblem (t : Text) : Option Text :=
  match readInteger (.unsigned 64) 10 t with
  | .ok _ => none
  | .error e => some e.message

/-- The arguments of a builtin. -/
def grammar : Builtin → Grammar
  | .cd =>
    { summary := "Change the working directory of the shell. If no target is provided, changes to the directory " ++
        "specified by the HOME variable."
      switches := []
      operand := some ⟨"target", false,
        "target directory, relative to the session working directory; $HOME when omitted."⟩ }
  | .env =>
    { summary := "Set or display environment variables for the current session. \u0060env\u0060 and " ++
        "\u0060env show\u0060 print every variable; \u0060env set KEY VALUE\u0060 sets one and " ++
        "\u0060env set KEY\u0060 removes it."
      switches := []
      operand := some ⟨"args", true, "sub-command (\u0060show\u0060 or \u0060set\u0060) followed by its arguments."⟩ }
  | .exit =>
    { summary := "Exit the shell."
      switches := []
      operand := some ⟨"code", false, "exit code reported when the shell terminates."⟩ }
  | .help => { summary := "View help text.", switches := [], operand := none }
  | .history =>
    { summary := "View the history of the shell."
      switches := [
        ⟨"number", some 'n', .value numberProblem,
          "limit shown history entries to N (if N is 0, all entries will be shown)."⟩,
        ⟨"show", some 's', .nothing, "include the base command in the output."⟩]
      operand := some ⟨"pattern", false,
        "regular expression the command must match (should not include the base command)."⟩ }

/-- What comes of a builtin that succeeds and writes some text. -/
def shown (env : Environment) (t : Text) : Answer BuiltinError := (env, .regular t, .ok 0)

/-- What comes of a builtin that succeeds without writing anything. -/
def done (env : Environment) : Answer BuiltinError := (env, {}, .ok 0)

/-- Goes to another directory; without a target, to the home directory. -/
def changeDir (env : Environment) (target? : Option Text) : Answer BuiltinError :=
  match (target?.filter (· ≠ [])).orElse fun _ => env.vars.get? "HOME" with
  | none => .failed env .noTarget
  | some target =>
    let dir := Path.join env.currentDir target
    match env.here.canonical dir with
    | .error e => .failed env (.noEntry dir e)
    | .ok l =>
      if env.here.tree.get? l = some .dir then
        done { env with here := { env.here with cwd := l }, currentDir := l.path }
      else .failed env (.noEntry l.path .notDirectory)

/-- All variables, one in a line. -/
def listing (vars : Variables) : Text := vars.bindings.flatMap fun b => b.1 ++ "='" ++ b.2 ++ "'\n"

/-- Shows or changes the variables. -/
def useVariables (env : Environment) (arguments : List Text) : Answer BuiltinError :=
  match arguments with
  | [] => shown env (listing env.vars)
  | action :: rest =>
    if action = "show" then
      if rest = [] then shown env (listing env.vars) else .failed env (.unexpected rest)
    else if action = "set" then
      match rest with
      | [] => done env
      | [name] => done (env.removeVar name)
      | [name, value] => done (env.setVar name value)
      | _ :: _ :: extra => .failed env (.unexpected extra)
    else .failed env (.unsupported action)

/-- Ends the session, with a status if one is asked for. -/
def leave (env : Environment) (code? : Option Text) : Answer BuiltinError :=
  match code? with
  | none => done { env with shouldExit := true }
  | some code =>
    match readInteger (.signed 32) 10 code with
    | .error e => .failed env (.invalidCode code e)
    | .ok n => ({ env with shouldExit := true, exitCode := some n }, {}, .ok n)

/-- What the shell is, in the lines of the help text. -/
def intro : List Text := [
  "Thanks for using WraSh!",
  "",
  "WraSh is designed to provide a very minimal interactive wrapper shell around a",
  "base command. For example if the base command was 'git', you could call",
  "'add -A' rather then 'git add -A'.",
  "",
  "Below is a list of supported builtins, prefix them with '!!' and pass '--help' to",
  "any of them for more information:"]

/-- The help text: what the shell is, and the summaries of all builtins in a column. -/
def helpText : Text :=
  let width := (all.map fun b => b.name.length).foldl max 0 + 4
  let row (b : Builtin) : Text := "   " ++ Text.padRight width b.name ++ b.summary
  (intro ++ all.map row).flatMap (· ++ ['\n'])

/-- Shows the lines of the history that match a pattern, the last ones if a number is given. -/
def showHistory (env : Environment) (given : Given) : Answer BuiltinError :=
  let pattern := given.operands.headD ".*"
  match Regex.read pattern with
  | .error problem => .failed env (.invalidPattern pattern problem)
  | .ok regex =>
    let matched := env.history.select regex.isMatch
    let number := (((given.value? "number").bind fun t => (readInteger (.unsigned 64) 10 t).toOption).getD 0).toNat
    let lines := matched.drop (if number = 0 then 0 else matched.length - number)
    let start : Text := if given.has "show" then env.history.base ++ [' '] else []
    shown env (lines.flatMap fun l => start ++ l ++ ['\n'])

/-- Runs a builtin. -/
def run (b : Builtin) (env : Environment) (given : Given) : Answer BuiltinError :=
  match b with
  | .cd => changeDir env given.operands.head?
  | .env => useVariables env given.operands
  | .exit => leave env given.operands.head?
  | .help => shown env helpText
  | .history => showHistory env given

/-- Reads the arguments of a builtin and runs it. What goes wrong is written as diagnostics, behind what
the builtin has written; only a call for help is none. -/
def call (b : Builtin) (env : Environment) (arguments : List Text) : Environment × Output × Int :=
  match b.grammar.read arguments with
  | .error refusal =>
    let text := refusal.message b.grammar b.invocation
    if refusal = .help then (env, .regular text, 0) else (env, .diagnostic text, 1)
  | .ok given =>
    match b.run env given with
    | (after, output, .ok status) => (after, output, status)
    | (after, output, .error e) => (after, output ++ .diagnostic (b.invocation ++ ": " ++ e.message ++ "\n"), 1)

end Builtin

end WrapShell
