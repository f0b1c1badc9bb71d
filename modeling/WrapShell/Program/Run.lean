import WrapShell.Program.Tool
import WrapShell.Script.Run
/-!
# Running programs

A file can be run if it may be executed and holds a tool or starts with `#!` and the program
that reads it. `runCalls` is the `Runner` of all programs; it bounds how deep programs run
each other.
-/

namespace WrapShell

/-- How a shell is asked to run. -/
inductive ShellUse where
  | script (name : Text) (arguments : List Text) (text : Text)
  | nothing
  | refused (what : Text)

namespace Shell

/-- The letters of the options of a shell that do not change what a script does. -/
def quietLetters : Text := "aefhilmnuvxbCEIV"

/-- How the arguments of a shell ask it to run. `command` tells that the script is an argument. -/
def use (here : Place) (name : Text) (command : Bool) : List Text → ShellUse
  | [] => if command then .refused "-c requires an argument" else .nothing
  | a :: rest =>
    if a.head? = some '-' && 1 < a.length && a ≠ ['-', '-'] then
      match a.tail.find? fun c => c ≠ 'c' && !quietLetters.contains c with
      | some c => .refused ("Illegal option -" ++ [c])
      | none => use here name (command || a.tail.contains 'c') rest
    else
      match if a = ['-', '-'] || a = ['-'] then rest else a :: rest with
      | [] => if command then .refused "-c requires an argument" else .nothing
      | first :: rest =>
        if command then .script (rest.headD name) rest.tail first
        else
          match here.read first with
          | .ok text => .script first rest text
          | .error e => .refused (openProblem false first e)

/-- The variables that a shell starts with: the bindings it is given whose names are names, and
the directory it starts in. -/
def startVariables (here : Place) (bindings : List Text) : Keyed (Text × Bool) :=
  let given := bindings.filterMap fun b =>
    let name := b.takeWhile (· != '=')
    if name ≠ [] && name.all Script.isNameChar && !name.head?.any Char.isDigit then
      some (name, b.drop (name.length + 1), true)
    else none
  let vars : Keyed (Text × Bool) := Keyed.ofList given
  match List.lookup ("PWD" : Text) vars with
  | some (dir, _) =>
    if Path.isAbsolute dir && (here.resolve dir).toOption == some here.cwd then vars
    else Keyed.insert "PWD" (here.cwd.path, true) vars
  | none => Keyed.insert "PWD" (here.cwd.path, false) vars

/-- Runs a shell. -/
def answer (run : Runner) (here : Place) (call : Call) : Outcome :=
  match use here call.name false call.arguments with
  | .nothing => ⟨{}, .exited 0, here.tree⟩
  | .refused what => ⟨.diagnostic (call.name ++ ": 0: " ++ what ++ "\n"), .exited 2, here.tree⟩
  | .script name arguments text =>
    runScript run ⟨name, arguments, startVariables here call.bindings, here, 0, {}, none⟩ (Script.read text)

end Shell

/-- The program that a file asks to be read by, with the argument in front of the file: what
the first line says after `#!`. -/
def interpreter? (content : Text) : Option (Path × List Text) :=
  match content with
  | '#' :: '!' :: t =>
    let isSpace := fun c => c == ' ' || c == '\t'
    let line := (((t.takeWhile (· != '\n')).dropWhile isSpace).reverse.dropWhile isSpace).reverse
    let program := line.takeWhile (!isSpace ·)
    let argument := (line.drop program.length).dropWhile isSpace
    if program = [] then none else some (program, if argument = [] then [] else [argument])
  | _ => none

/-- Runs programs that run each other, at most as deep as the number says. -/
def runCalls : Nat → Runner
  | 0, _, _ => .error .tooManyLinks
  | depth + 1, here, call =>
    match here.resolve call.program with
    | .error e => .error e
    | .ok l =>
      match here.tree.get? l with
      | some (.file content true) =>
        match Tool.ofImage? content with
        | some tool =>
          match tool.answer? here call with
          | some (output, status) => .ok ⟨output, .exited status, here.tree⟩
          | none => .ok (Shell.answer (runCalls depth) here call)
        | none =>
          match interpreter? content with
          | some (program, argument) =>
            runCalls depth here
              { call with program := program, name := program, arguments := argument ++ call.program :: call.arguments }
          | none => .error .unknownFormat
      | _ => .error .permissionDenied

/-- How deep programs may run each other. -/
def maxDepth : Nat := 64

/-- The runner of programs. -/
def runPrograms : Runner := runCalls maxDepth

/-- Runs a program by its name. A name without a slash is looked for in the directories of the
search path; a file there of unknown format is read by a shell. -/
def runByName (run : Runner) (searchPath : Text) (here : Place) (call : Call) : Except FileError Outcome :=
  if call.program.contains '/' then run here call
  else go .notFound (Path.split searchPath)
where
  /-- Tries directories; `worst` is what is reported if none has the program. -/
  go (worst : FileError) : List Path → Except FileError Outcome
    | [] => .error worst
    | dir :: dirs =>
      let file := Path.join dir call.program
      match run here { call with program := file } with
      | .ok o => .ok o
      | .error .unknownFormat => run here { call with program := "/bin/sh", arguments := file :: call.arguments }
      | .error .permissionDenied => go .permissionDenied dirs
      | .error .notFound | .error .notDirectory => go worst dirs
      | .error e => .error e

end WrapShell
