import WrapShell.Script.Words
import WrapShell.Program.Format
import WrapShell.Variables
/-!
# The commands that a shell runs itself

Each takes the shell and its arguments, and gives the shell after it, with its status, and what
it wrote.
-/

namespace WrapShell.Shell

/-- The shell after a command, and what that wrote. -/
abbrev Step := Shell × Output

/-- A command that ends with a status. -/
def leave (sh : Shell) (status : Nat) (output : Output := {}) : Step := ({ sh with status := status }, output)

/-- What a shell says about a line of its script. -/
def complaint (sh : Shell) (line : Nat) (what : Text) : Output :=
  .diagnostic (sh.name ++ ": " ++ Text.ofNat line ++ ": " ++ what ++ "\n")

/-- A command that fails with a complaint. -/
def fail (sh : Shell) (line status : Nat) (what : Text) : Step := sh.leave status (sh.complaint line what)

/-- A shell that stops with a status. -/
def stop (sh : Shell) (status : Nat) : Shell :=
  { sh with status := status, ending := some (.exited status) }

/-- A number without a sign. -/
def natural? (t : Text) : Option Nat :=
  if t ≠ [] && t.all Char.isDigit then ((readInteger (.signed 32) 10 t).toOption).map Int.toNat else none

/-- Writes arguments with blanks between them, and their escapes. -/
def echo (sh : Shell) (arguments : List Text) : Step :=
  let (newline, words) : Bytes × List Text := match arguments with
    | ['-', 'n'] :: rest => ([], rest)
    | words => ([10], words)
  let piece := Format.unescape true (List.intercalate [' '] words)
  sh.leave 0 { stdout := if piece.final then piece.bytes else piece.bytes ++ newline }

/-- Writes arguments by a format. -/
def printf (sh : Shell) (line : Nat) (arguments : List Text) : Step :=
  match (match arguments with
    | ['-', '-'] :: rest => rest
    | words => words) with
  | [] => sh.fail line 2 "printf: usage: printf format [arg ...]"
  | format :: rest =>
    let r := Format.write format rest
    let complaints := (r.wrong.map fun t => sh.complaint line ("printf: " ++ t ++ ": expected numeric value")).foldl
      Output.append {}
    sh.leave (if r.wrong = [] then 0 else 1) ({ stdout := r.bytes } ++ complaints)

/-- Ends the shell. -/
def exit (sh : Shell) (line : Nat) (arguments : List Text) : Step :=
  match arguments with
  | [] => (sh.stop sh.status, {})
  | code :: _ =>
    match natural? code with
    | some n => (sh.stop (n % 256), {})
    | none => (sh.stop 2, sh.complaint line ("exit: Illegal number: " ++ code))

/-- The names of signals. -/
def signals : List (Text × Nat) :=
  [("HUP", 1), ("INT", 2), ("QUIT", 3), ("ILL", 4), ("TRAP", 5), ("ABRT", 6), ("BUS", 7), ("FPE", 8), ("KILL", 9),
    ("USR1", 10), ("SEGV", 11), ("USR2", 12), ("PIPE", 13), ("ALRM", 14), ("TERM", 15)]

/-- Signals that do not end a process. -/
def harmless : List Nat := [0, 17, 18, 23, 28]

/-- The signal that a word names. -/
def signal? (t : Text) : Option Nat :=
  match natural? t with
  | some n => some n
  | none => signals.lookup t

/-- Sends a signal to processes; only the shell's own is known. -/
def kill (sh : Shell) (line : Nat) (arguments : List Text) : Step :=
  let (signal?, targets) : Option Nat × List Text := match arguments with
    | ['-', 's'] :: name :: rest => (signal? name, rest)
    | ('-' :: name) :: rest => (signal? name, rest)
    | targets => (some 15, targets)
  match signal? with
  | none => sh.fail line 2 ("kill: Illegal number: " ++ (arguments.headD []))
  | some n =>
    if targets.contains processNumber then
      if harmless.contains n then sh.leave 0
      else ({ sh with ending := some (.signalled n) }, {})
    else sh.fail line 1 "kill: No such process"

/-- Goes to another directory. -/
def cd (sh : Shell) (line : Nat) (arguments : List Text) : Step :=
  let target := match arguments with
    | [] => (sh.value? "HOME").getD []
    | t :: _ => t
  if target = [] then sh.leave 0
  else
    match sh.here.directory target with
    | .ok l => (({ sh with here := { sh.here with cwd := l } }).set "PWD" l.path).leave 0
    | .error _ => sh.fail line 2 ("cd: can't cd to " ++ target)

/-- Sets variables that programs are given. -/
def exportNames (sh : Shell) (arguments : List Text) : Shell :=
  arguments.foldl (fun sh a =>
    let name := a.takeWhile (· != '=')
    let value := match a.dropWhile (· != '=') with
      | _ :: v => v
      | [] => (sh.value? name).getD []
    { sh with vars := Keyed.insert name (value, true) sh.vars }) sh

/-- Whether a comparison of two numbers holds. -/
def compares? (operator : Text) (a b : Int) : Option Bool :=
  [(("-eq" : Text), a == b), ("-ne", a != b), ("-lt", a < b), ("-le", a ≤ b), ("-gt", b < a), ("-ge", b ≤ a)].lookup operator

/-- Whether a condition holds; `none` if it is none. -/
def holds? (sh : Shell) (arguments : List Text) : Option Bool :=
  match arguments with
  | [] => some false
  | [t] => some (t != [])
  | [['!'], t] => some (t == [])
  | [operator, t] =>
    [(("-n" : Text), t != []), ("-z", t == []), ("-e", sh.here.isPresent t), ("-f", sh.here.isFile t),
      ("-d", sh.here.isDir t)].lookup operator
  | [a, ['='], b] => some (a == b)
  | [a, ['!', '='], b] => some (a != b)
  | [a, operator, b] =>
    match readInteger (.signed 64) 10 a, readInteger (.signed 64) 10 b with
    | .ok a, .ok b => compares? operator a b
    | _, _ => none
  | _ => none

/-- Tells by the status whether a condition holds. -/
def test (sh : Shell) (line : Nat) (arguments : List Text) : Step :=
  match sh.holds? arguments with
  | some true => sh.leave 0
  | some false => sh.leave 1
  | none => sh.fail line 2 "test: unexpected operator"

/-- Runs a command of the shell's own, if the name is one. -/
def builtin? (sh : Shell) (line : Nat) (name : Text) (arguments : List Text) : Option Step :=
  match String.ofList name with
  | "echo" => some (sh.echo arguments)
  | "printf" => some (sh.printf line arguments)
  | "true" | ":" => some (sh.leave 0)
  | "false" => some (sh.leave 1)
  | "exit" => some (sh.exit line arguments)
  | "pwd" => some (sh.leave 0 (.regular ((sh.value? "PWD").getD [] ++ "\n")))
  | "kill" => some (sh.kill line arguments)
  | "cd" => some (sh.cd line arguments)
  | "export" => some ((sh.exportNames arguments).leave 0)
  | "unset" =>
    some ({ sh with vars := arguments.foldl (fun vs n => Keyed.erase n vs) sh.vars }.leave 0)
  | "read" => some ((arguments.foldl (fun sh n => sh.set n []) sh).leave 1)
  | "shift" => some ({ sh with arguments := sh.arguments.drop 1 }.leave 0)
  | "test" => some (sh.test line arguments)
  | "[" =>
    some (if arguments.getLast? = some [']'] then sh.test line arguments.dropLast
      else sh.fail line 2 "[: missing ]")
  | _ => none

end WrapShell.Shell
