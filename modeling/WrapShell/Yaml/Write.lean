import WrapShell.Yaml.Plain
/-!
# Writing strings

A string is written without quotes where it would be read as the same string, and otherwise in
single quotes; text with line ends is a literal block; what cannot be shown is escaped between
double quotes. Lines are never folded.
-/

namespace WrapShell.Yaml

/-- Characters that are written as themselves. -/
def isShown (c : Char) : Bool :=
  let n := c.toNat
  n == 10 || (0x20 ≤ n && n ≤ 0x7E) || (0xA0 ≤ n && n ≤ 0xFFFD && n != 0xFEFF) || 0x10000 ≤ n

/-- A blank, a line end or the end of the string. -/
def isGap : Option Char → Bool
  | none => true
  | some c => isSpace c || isBreak c || c == '\x00'

/-- Whether two characters that satisfy `p` and `q` stand next to each other. -/
def hasPair (p q : Char → Bool) (t : Text) : Bool := (t.zip t.tail).any fun (a, b) => p a && q b

/-- The characters that a string without quotes does not start with. -/
def specialStarts : List Char := "#,[]\x7b\x7d&*!|>'\"%@`".toList

/-- Whether the start of a string means something else outside quotes. -/
def startsIndicator (t : Text) : Bool :=
  match t with
  | [] => false
  | c :: rest =>
    specialStarts.contains c ||
      (['?', ':', '-'].contains c && isGap rest.head?) ||
      t.startsWith ['-', '-', '-'] || t.startsWith ['.', '.', '.']

/-- Whether a comment or a key would start or end inside a string. -/
def hasIndicator (t : Text) : Bool :=
  hasPair (fun a => isGap (some a)) (· == '#') t || hasPair (· == ':') (fun b => isGap (some b)) t ||
    (2 ≤ t.length && t.getLast? == some ':')

/-- Whether a string has to be in double quotes if it is in quotes at all: it holds what cannot
be shown, or a space where a line starts or ends. -/
def needsEscapes (t : Text) : Bool := t.any (!isShown ·) || hasPair (· == ' ') isBreak t

/-- Whether a string of one line is read as the same string without quotes. -/
def standsAlone (t : Text) : Bool :=
  let edge (c? : Option Char) : Bool := c? == some ' ' || (c?.map isBreak).getD false
  let named := match Plain.ofText t with
    | .string _ => true
    | _ => false
  named && !isZeroLed t && !t.any isBreak && !edge t.head? && !edge t.getLast? && !startsIndicator t &&
    !hasIndicator t

/-- How a string is written. -/
def styleOf (t : Text) : Style :=
  if t.contains '\n' then
    if t.getLast? = some ' ' || needsEscapes t then .doubleQuoted else .literal
  else if needsEscapes t || hasPair isBreak (· == ' ') t then .doubleQuoted
  else if standsAlone t then .plain
  else .singleQuoted

/-- Digits of a number to the base 16, with zeros in front up to a width. -/
def hexDigits (width n : Nat) : Text :=
  let ds := (Nat.toDigits 16 n).map Char.toUpper
  List.replicate (width - ds.length) '0' ++ ds

/-- The letters of the escapes that have one. -/
def escapeLetters : List (Char × Char) :=
  [('\x00', '0'), ('\x07', 'a'), ('\x08', 'b'), ('\t', 't'), ('\n', 'n'), ('\x0b', 'v'), ('\x0c', 'f'),
    ('\r', 'r'), ('\x1b', 'e'), ('"', '"'), ('\\', '\\'), ('\u0085', 'N'), ('\u00a0', '_'),
    ('\u2028', 'L'), ('\u2029', 'P')]

/-- A character between double quotes. -/
def escapeChar (c : Char) : Text :=
  if isShown c && !isBreak c && c != '"' && c != '\\' then [c]
  else
    '\\' ::
      match escapeLetters.lookup c with
      | some letter => [letter]
      | none =>
        let n := c.toNat
        if n ≤ 0xFF then 'x' :: hexDigits 2 n
        else if n ≤ 0xFFFF then 'u' :: hexDigits 4 n
        else 'U' :: hexDigits 8 n

/-- Puts spaces at the start of each line that is not empty. `fresh` tells a line start. -/
def indentLines (indent : Text) (fresh : Bool) : Text → Text
  | [] => []
  | c :: t =>
    if isBreak c then c :: indentLines indent true t
    else (if fresh then indent else []) ++ c :: indentLines indent false t

/-- Which line ends behind a literal block count: all of them, if there is more than one or
nothing else, or else the only one, or none. -/
def chompOf (t : Text) : Chomp :=
  match t.reverse with
  | [] => .strip
  | last :: before =>
    if !isBreak last then .strip
    else
      match before with
      | [] => .keep
      | c :: _ => if isBreak c then .keep else .clip

/-- The indicator of what becomes of the line ends behind a literal block. -/
def Chomp.mark : Chomp → Text
  | .strip => ['-']
  | .clip => []
  | .keep => ['+']

/-- Whether the first line of a literal block does not show how far it is indented. -/
def startsBlank (t : Text) : Bool := (t.head?.map fun c => c == ' ' || isBreak c).getD false

/-- The text with each single quote twice. -/
def doubleQuotes (t : Text) : Text := t.flatMap fun c => if c = '\'' then ['\'', '\''] else [c]

/-- The indicators of a literal block: the width of its indentation, where its first line does
not show it, and what becomes of the line ends behind it. -/
def blockHeader (t : Text) : Text := '|' :: (if startsBlank t then ['2'] else []) ++ (chompOf t).mark

/-- A string behind its key, up to the end of its line. Lines of it start with `indent`. -/
def writeString (indent : Text) (t : Text) : Text :=
  match styleOf t with
  | .literal =>
    let ended := (t.getLast?.map isBreak).getD false
    blockHeader t ++ '\n' :: indentLines indent true t ++ (if ended then [] else ['\n'])
  | .doubleQuoted => '"' :: t.flatMap escapeChar ++ ['"', '\n']
  | .singleQuoted =>
    let atBreak : Bool := (t.getLast?.map isBreak).getD false
    '\'' :: indentLines indent false (doubleQuotes t) ++ (if atBreak then indent else []) ++ ['\'', '\n']
  | .plain | .folded => t ++ ['\n']

end WrapShell.Yaml
