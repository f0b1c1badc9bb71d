import WrapShell.Files.Path
import WrapShell.Text.Blank
/-!
# Configuration

Where a session keeps its files and how much it logs. Every setting has a variable of its own;
a path without one lies under the home directory.
-/

namespace WrapShell

/-- How much is logged. -/
inductive LogLevel where
  | off
  | error
  | warn
  | info
  | debug
  | trace
  deriving DecidableEq, Repr

namespace LogLevel

def all : List LogLevel := [.off, .error, .warn, .info, .debug, .trace]

/-- The name of a level. -/
def name : LogLevel → Text
  | .off => "OFF"
  | .error => "ERROR"
  | .warn => "WARN"
  | .info => "INFO"
  | .debug => "DEBUG"
  | .trace => "TRACE"

/-- The level that a text names, in upper or lower case and between any blanks. -/
def read? (t : Text) : Option LogLevel := all.find? fun l => l.name == (Text.trim t).map Char.toUpper

/-- What is wrong with a text that names no level. -/
def invalid (t : Text) : Text :=
  "invalid log level '" ++ t ++ "', expected one of off, error, warn, info, debug, trace"

end LogLevel

/-- The files of a session and its log level. -/
structure Config where
  historyFile : Path
  completionDir : Path
  logFile : Path
  logLevel : LogLevel
  deriving DecidableEq, Repr

namespace Config

/-- The configuration that variables describe. A level that cannot be read is taken as `warn`. -/
def ofLookup (lookup : Text → Option Text) : Config :=
  let home : Path := ((lookup "HOME").filter (· != [])).getD ['.']
  let place (name : Text) (default : Path) : Path := (lookup name).getD (Path.join home default)
  { historyFile := place "WRASH_HISTORY_FILE" ".wrash_history.yaml"
    completionDir := place "WRASH_COMPLETION_DIR" ".wrash_completion"
    logFile := place "WRASH_LOG_FILE" ".local/share/wrash/wrash.log"
    logLevel := ((lookup "WRASH_LOG").bind LogLevel.read?).getD .warn }

/-- The file with the suggestions for a program: it has the name of the program's file. -/
def completionFileFor (config : Config) (program : Text) : Path :=
  Path.join config.completionDir ((Path.fileName? program).getD program ++ ".yaml")

end Config

end WrapShell
