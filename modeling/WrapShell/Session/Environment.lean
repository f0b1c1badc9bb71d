import WrapShell.History.File
import WrapShell.Program.Call
import WrapShell.Variables
/-!
# The environment of a session

What lines and builtins work on: the variables, the directory that programs start in, the
history, and whether the session is to end. The place is what the session itself sees of the
files. An answer is what comes of working on it, whether or not that succeeds.
-/

namespace WrapShell

/-- The environment of a session. -/
structure Environment where
  vars : Variables
  here : Place
  /-- The directory that programs start in. -/
  currentDir : Path
  history : History
  shouldExit : Bool := false
  /-- The status that was asked for at the end. -/
  exitCode : Option Int := none

namespace Environment

/-- An environment for a base command, without variables and history. -/
def start (here : Place) (base : Text) : Environment :=
  { vars := .empty, here := here, currentDir := here.cwd.path, history := .inMemory base [] }

def setVar (env : Environment) (name value : Text) : Environment := { env with vars := env.vars.set name value }

def removeVar (env : Environment) (name : Text) : Environment := { env with vars := env.vars.erase name }

/-- The value of a variable in a line. -/
def lookup (env : Environment) (name : Text) : Text := env.vars.value name

/-- The bindings that programs are given. -/
def programBindings (env : Environment) : List Text := env.vars.bindings.map fun b => b.1 ++ ['='] ++ b.2

end Environment

/-- What comes of something done in an environment: the environment behind it, what was written, and
the status or why it failed. -/
abbrev Answer (ε : Type) := Environment × Output × Except ε Int

/-- What comes of something that fails before it has changed or written anything. -/
def Answer.failed {ε : Type} (env : Environment) (e : ε) : Answer ε := (env, {}, .error e)

/-- What comes of something that has a status in any case. -/
def Answer.ended {ε : Type} (answer : Environment × Output × Int) : Answer ε := (answer.1, answer.2.1, .ok answer.2.2)

end WrapShell
