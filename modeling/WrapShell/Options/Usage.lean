import WrapShell.Options.Basic
/-!
# Usage

How the arguments of a program are explained, and the wording of what is wrong with some.
Descriptions start in one column and are broken into lines between words.
-/

namespace WrapShell

namespace Grammar

/-- The column where descriptions start. -/
def descriptionColumn : Nat := 20

/-- The greatest width of a line. -/
def lineWidth : Nat := 80

/-- Puts words into lines. The first word of a line is put in the column of descriptions. -/
def fill (line : Text) : List Text → List Text
  | [] => [line]
  | word :: words =>
    if descriptionColumn < line.length && lineWidth < line.length + word.length + 1 then
      line :: fill (Text.padRight descriptionColumn [] ++ word) words
    else if descriptionColumn < line.length then fill (line ++ ' ' :: word) words
    else fill (Text.padRight descriptionColumn line ++ word) words

/-- A name with its description. -/
def describe (name description : Text) : Text :=
  let head : Text := ' ' :: ' ' :: name
  let lines :=
    if head.length < descriptionColumn then fill head (List.splitOn ' ' description)
    else head :: fill [] (List.splitOn ' ' description)
  lines.flatMap fun l => '\n' :: l

/-- How a switch is written in the first line. -/
def switchUsage (s : Switch) : Text :=
  let name : Text := match s.short with
    | some c => ['-', c]
    | none => '-' :: '-' :: s.long
  let value : Text := match s.takes with
    | .nothing => []
    | .value _ => " <" ++ s.long ++ ">"
    | .values => " <" ++ s.long ++ "...>"
  " [" ++ name ++ value ++ "]"

/-- How operands are written in the first line. -/
def operandUsage (o : Operand) : Text :=
  if o.greedy then " [" ++ o.name ++ "...]" else " [--] [<" ++ o.name ++ ">]"

/-- The names of a switch. -/
def switchNames (s : Switch) : Text :=
  match s.short with
  | some c => ['-', c, ',', ' ', '-', '-'] ++ s.long
  | none => '-' :: '-' :: s.long

/-- What explains the arguments of a program. -/
def usage (g : Grammar) (program : Text) : Text :=
  let operands : Text := match g.operand with
    | some o => if o.greedy then [] else "\n\nPositional Arguments:" ++ describe o.name o.description
    | none => []
  "Usage: " ++ program ++ g.switches.flatMap switchUsage ++ (g.operand.map operandUsage).getD [] ++ "\n\n" ++
    g.summary ++ operands ++ "\n\nOptions:" ++
    (g.switches.flatMap fun s => describe (switchNames s) s.description) ++
    describe "--help, help" "display usage information" ++ "\n"

end Grammar

/-- What is said when arguments are not taken. -/
def Refusal.message (g : Grammar) (program : Text) : Refusal → Text
  | .help => g.usage program
  | .argumentsAfterHelp => "Trailing arguments are not allowed after `help`."
  | .unrecognized a => "Unrecognized argument: " ++ a ++ "\n"
  | .noValue a => "No value provided for option '" ++ a ++ "'.\n"
  | .badValue a v problem => "Error parsing option '" ++ a ++ "' with value '" ++ v ++ "': " ++ problem ++ "\n"

end WrapShell
