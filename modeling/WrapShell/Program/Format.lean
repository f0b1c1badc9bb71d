import WrapShell.Number.Integer
import WrapShell.Text.Utf8
/-!
# Formats

A format is a text with escapes, which start with a backslash, and directives, which start with
a percent sign and stand for one argument each. It is used again until no argument is left;
an argument that is missing is empty, or zero.
-/

namespace WrapShell.Format

/-- Bytes, and whether nothing may follow them. -/
structure Piece where
  bytes : Bytes
  final : Bool := false

/-- The byte of a one-letter escape. -/
def escapeByte? (c : Char) : Option UInt8 :=
  match c with
  | '\\' => some 92
  | 'a' => some 7
  | 'b' => some 8
  | 'f' => some 12
  | 'n' => some 10
  | 'r' => some 13
  | 't' => some 9
  | 'v' => some 11
  | _ => none

/-- At most `n` octal digits in front of a text. -/
def octalDigits (n : Nat) (t : Text) : Text := (t.take n).takeWhile fun c => (digitValue? 8 c).isSome

/-- The byte that octal digits stand for. -/
def octalByte (digits : Text) : UInt8 :=
  UInt8.ofNat (digits.foldl (fun n c => n * 8 + (digitValue? 8 c).getD 0) 0)

/-- The bytes of a text with escapes. In an argument, octal digits may come after a zero, and
`\c` ends all output. -/
def unescape (argument : Bool) : Text → Piece
  | [] => ⟨[], false⟩
  | '\\' :: t =>
    let skip : Nat := if argument && t.head? = some '0' then 1 else 0
    let digits := octalDigits 3 (t.drop skip)
    if skip = 1 || digits ≠ [] then
      let more := unescape argument (t.drop (skip + digits.length))
      { more with bytes := octalByte digits :: more.bytes }
    else
      match t with
      | 'c' :: rest =>
        if argument then ⟨[], true⟩
        else
          let more := unescape argument rest
          { more with bytes := 92 :: 99 :: more.bytes }
      | c :: rest =>
        match escapeByte? c with
        | some b =>
          let more := unescape argument rest
          { more with bytes := b :: more.bytes }
        | none =>
          let more := unescape argument rest
          { more with bytes := 92 :: (Text.utf8 [c] ++ more.bytes) }
      | [] => ⟨[92], false⟩
  | c :: t =>
    let more := unescape argument t
    { more with bytes := Text.utf8 [c] ++ more.bytes }
termination_by t => t.length
decreasing_by all_goals (simp only [List.length_cons, List.length_drop]; omega)

/-- How an argument is put into the output. -/
structure Directive where
  left : Bool
  zero : Bool
  width : Nat
  precision : Option Nat
  letter : Char
  deriving Repr

/-- A part of a format. -/
inductive Part where
  | literal (t : Text)
  | directive (d : Directive)

/-- The number that digits stand for. -/
def number (digits : Text) : Nat := digits.foldl (fun n c => n * 10 + (digitValue? 10 c).getD 0) 0

/-- Reads the directive after a percent sign. -/
def readDirective (t : Text) : Option (Directive × Text) :=
  let flags := t.takeWhile fun c => c == '-' || c == '0'
  let t := t.drop flags.length
  let width := t.takeWhile Char.isDigit
  let t := t.drop width.length
  let precision := match t with
    | '.' :: t => some (t.takeWhile Char.isDigit)
    | _ => none
  match t.drop ((precision.map fun p => p.length + 1).getD 0) with
  | [] => none
  | letter :: rest =>
    some (⟨flags.contains '-', flags.contains '0', number width, precision.map number, letter⟩, rest)

theorem readDirective_length {t rest : Text} {d : Directive} (h : readDirective t = some (d, rest)) :
    rest.length < t.length := by
  unfold readDirective at h
  dsimp only at h
  split at h
  · cases h
  · next letter r hd =>
    cases h
    have := congrArg List.length hd
    simp only [List.length_drop, List.length_cons] at this
    omega

/-- The parts of a format. -/
def parts (t : Text) : List Part :=
  match t with
  | [] => []
  | '%' :: '%' :: t => .literal ['%'] :: parts t
  | '%' :: t =>
    match h : readDirective t with
    | none => [.literal ('%' :: t)]
    | some (d, rest) =>
      have := readDirective_length h
      .directive d :: parts rest
  | '\\' :: c :: t => .literal ['\\', c] :: parts t
  | c :: t => .literal [c] :: parts t
termination_by t.length

/-- Literal parts that follow each other as one. -/
def joined : List Part → List Part
  | [] => []
  | .literal a :: ps =>
    match joined ps with
    | .literal b :: rest => .literal (a ++ b) :: rest
    | rest => .literal a :: rest
  | p :: ps => p :: joined ps

/-- Fills bytes up to the width of a directive. -/
def Directive.fill (d : Directive) (numeric : Bool) (bytes : Bytes) : Bytes :=
  let missing := d.width - bytes.length
  if d.left then bytes ++ List.replicate missing 32
  else if d.zero && numeric then
    match bytes with
    | 45 :: digits => 45 :: (List.replicate missing 48 ++ digits)
    | digits => List.replicate missing 48 ++ digits
  else List.replicate missing 32 ++ bytes

/-- The integer that an argument stands for, if it is one: decimal, octal or hexadecimal, or a
character after a quote. -/
def integer? (argument : Text) : Option Int :=
  let range := IntegerRange.signed 64
  match argument with
  | [] => some 0
  | '\'' :: c :: _ | '"' :: c :: _ => some c.toNat
  | '0' :: 'x' :: digits | '0' :: 'X' :: digits => (readInteger range 16 digits).toOption
  | '0' :: digits => if digits = [] then some 0 else (readInteger range 8 digits).toOption
  | digits => (readInteger range 10 digits).toOption

/-- The digits of an integer as a letter asks for them. -/
def integerText (letter : Char) (n : Int) : Text :=
  let unsigned : Nat := (n % (Nat.pow 2 64 : Nat)).toNat
  match letter with
  | 'd' | 'i' => Text.ofInt n
  | 'o' => Nat.toDigits 8 unsigned
  | 'x' => Nat.toDigits 16 unsigned
  | 'X' => (Nat.toDigits 16 unsigned).map Char.toUpper
  | _ => Text.ofNat unsigned

/-- What a directive puts out for an argument, and whether the argument is no number where one
is needed. -/
def Directive.apply (d : Directive) (argument : Text) : Piece × Bool :=
  if d.letter = 's' then
    let bytes := Text.utf8 argument
    (⟨d.fill false (bytes.take (d.precision.getD bytes.length)), false⟩, false)
  else if d.letter = 'c' then (⟨d.fill false ((Text.utf8 argument).take 1), false⟩, false)
  else if d.letter = 'b' then
    let piece := unescape true argument
    ({ piece with bytes := d.fill false piece.bytes }, false)
  else
    (⟨d.fill true (Text.utf8 (integerText d.letter ((integer? argument).getD 0))), false⟩,
      (integer? argument).isNone)

/-- What a format puts out, the arguments that are no numbers, and the arguments left. -/
structure Result where
  bytes : Bytes := []
  final : Bool := false
  wrong : List Text := []
  rest : List Text

/-- Uses the parts of a format once. -/
def useOnce (r : Result) : List Part → Result
  | [] => r
  | p :: ps =>
    if r.final then r
    else
      match p with
      | .literal t =>
        let piece := unescape false t
        useOnce { r with bytes := r.bytes ++ piece.bytes } ps
      | .directive d =>
        let argument := r.rest.headD []
        let (piece, wrong) := d.apply argument
        useOnce
          { bytes := r.bytes ++ piece.bytes, final := piece.final, rest := r.rest.tail
            wrong := if wrong then r.wrong ++ [argument] else r.wrong } ps

/-- Uses a format until no argument is left; each round takes one at least, so there are no
more rounds than arguments. -/
def useAll (ps : List Part) : Nat → Result → Result
  | 0, r => r
  | n + 1, r =>
    let next := useOnce r ps
    if next.final || next.rest = [] || next.rest.length = r.rest.length then next else useAll ps n next

/-- What a format puts out for some arguments. -/
def write (format : Text) (arguments : List Text) : Result :=
  useAll (joined (parts format)) (arguments.length + 1) { rest := arguments }

end WrapShell.Format
