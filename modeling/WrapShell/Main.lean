import WrapShell.Start
/-!
# The command line

Reads what the program works on, runs it, and writes back the files that it changed. The files
are those below the working directory and the home directory, down to some depth; the programs
that can be run are the tools, and the scripts among those files.
-/

namespace WrapShell.Main

/-- Puts what lies in a directory of the system into the tree, so many levels deep. Files that
are no text are left out. -/
def load (depth : Nat) (here : Place) (dir : String) : IO Place := do
  match depth with
  | 0 => return here
  | depth + 1 =>
    let mut here := (here.makeDirs dir.toList).1
    let dirPath ← IO.FS.realPath dir
    for entry in ← dirPath.readDir do
      let path := toString entry.path
      if ← entry.path.isDir then
        here ← load depth here path
      else
        try
          let content ← IO.FS.readFile path
          here := ((here.place path.toList (.file content.toList true)).toOption).getD here
        catch _ => pure ()
    return here

/-- Writes what differs between two trees to the system. -/
def store (before after : Tree) : IO Unit := do
  for (location, _) in after.entries.reverse do
    if after.get? location != before.get? location then
      let path := String.ofList location.path
      match after.get? location with
      | some .dir => IO.FS.createDirAll path
      | some (.file content _) => IO.FS.writeFile path (String.ofList content)
      | _ => pure ()

/-- The variables of the process. -/
def vars : IO (List (Text × Text)) := do
  let content ← IO.FS.readFile "/proc/self/environ"
  return (List.splitOn '\x00' content.toList).filterMap fun b =>
    match b.dropWhile (· != '=') with
    | _ :: value => some (b.takeWhile (· != '='), value)
    | [] => none

/-- All that can still be read. -/
partial def readAll (input : IO.FS.Stream) (before : Text) : IO Text := do
  let line ← input.getLine
  if line.isEmpty then return before
  readAll input (before ++ line.toList)

end WrapShell.Main

open WrapShell in
/-- The program. -/
def main (arguments : List String) : IO UInt32 := do
  let vars ← Main.vars
  let dir := toString (← IO.currentDir)
  let base := Tool.install ⟨.empty, []⟩
  let mut here ← Main.load 3 base dir
  if let some home := List.lookup ("HOME" : Text) vars then
    try here ← Main.load 2 here (String.ofList home)
    catch _ => pure ()
  here := { here with cwd := (here.resolve dir.toList).toOption.getD [] }
  let input ← Main.readAll (← IO.getStdin) []
  let finish := Start.run runPrograms ⟨arguments.map String.toList, vars, input, here⟩
  Main.store here.tree finish.here.tree
  (← IO.getStdout).write ⟨finish.output.stdout.toArray⟩
  (← IO.getStderr).write ⟨finish.output.stderr.toArray⟩
  return finish.status.toUInt32
