import WrapShell.Program.Call
import WrapShell.Program.Format
/-!
# Tools

The programs that are known without a file that says what they do. A file holds a tool if its
content is the tool's image.
-/

namespace WrapShell

/-- A program that is known. -/
inductive Tool where
  | sh
  | echo
  | printf
  | cat
  | pwd
  | succeed
  | fail
  deriving DecidableEq, Repr

namespace Tool

def all : List Tool := [.sh, .echo, .printf, .cat, .pwd, .succeed, .fail]

/-- The name of a tool's file. -/
def name : Tool → Text
  | .sh => "sh"
  | .echo => "echo"
  | .printf => "printf"
  | .cat => "cat"
  | .pwd => "pwd"
  | .succeed => "true"
  | .fail => "false"

/-- The content of a tool's file. -/
def image (t : Tool) : Text := "\x7fELF" ++ t.name

/-- The tool that a file's content holds. -/
def ofImage? (content : Text) : Option Tool := all.find? fun t => t.image == content

/-- The directories where tools lie. -/
def directories : List Path := ["/bin", "/usr/bin"]

/-- Puts the tools where they lie. -/
def install (here : Place) : Place :=
  directories.foldl (fun here d =>
    all.foldl (fun here t => (here.place (Path.join d t.name) (.file t.image true)).toOption.getD here)
      (here.makeDirs d).1) here

/-- What a tool wrote and the status it ended with. -/
abbrev Answer := Output × Nat

/-- Writes arguments with blanks between them. The letters of leading options leave out the
newline or ask for escapes. -/
def echoFrom (newline escapes : Bool) (arguments : List Text) : Answer :=
  match arguments with
  | ('-' :: c :: letters) :: rest =>
    if (c :: letters).all fun c => "neE".toList.contains c then
      echoFrom (newline && !(c :: letters).contains 'n')
        ((c :: letters).foldl (fun e c => if c = 'e' then true else if c = 'E' then false else e) escapes) rest
    else text arguments
  | _ => text arguments
where
  /-- Writes words. -/
  text (words : List Text) : Answer :=
    let line := List.intercalate [' '] words
    let piece : Format.Piece := if escapes then Format.unescape true line else { bytes := Text.utf8 line }
    let ended : Bytes := if newline && !piece.final then [10] else []
    ({ stdout := piece.bytes ++ ended }, 0)

/-- Writes arguments by a format. -/
def printfAnswer (name : Text) (arguments : List Text) : Answer :=
  match (match arguments with
    | ['-', '-'] :: rest => rest
    | words => words) with
  | [] => (.diagnostic (name ++ ": missing operand\nTry '" ++ name ++ " --help' for more information.\n"), 1)
  | format :: rest =>
    let r := Format.write format rest
    let complaints : Text := r.wrong.flatMap fun t => name ++ ": '" ++ t ++ "': expected a numeric value\n"
    ({ stdout := r.bytes } ++ .diagnostic complaints, if r.wrong = [] then 0 else 1)

/-- Writes the content of files, one after the other; nothing is there to be read but files. -/
def catAnswer (name : Text) (here : Place) (arguments : List Text) : Answer :=
  arguments.foldl (fun (o, status) file =>
    if file = ['-'] then (o, status)
    else
      match here.read file with
      | .ok content => (o ++ .regular content, status)
      | .error e => (o ++ .diagnostic (name ++ ": " ++ file ++ ": " ++ e.reason ++ "\n"), 1)) ({}, 0)

/-- What a tool that is no shell does. -/
def answer? (t : Tool) (here : Place) (call : Call) : Option Answer :=
  match t with
  | .sh => none
  | .echo => some (echoFrom true false call.arguments)
  | .printf => some (printfAnswer call.name call.arguments)
  | .cat => some (catAnswer call.name here call.arguments)
  | .pwd => some (.regular (here.cwd.path ++ "\n"), 0)
  | .succeed => some ({}, 0)
  | .fail => some ({}, 1)

end Tool

end WrapShell
