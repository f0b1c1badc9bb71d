import WrapShell.Yaml.Node
import WrapShell.Number.Binary
import WrapShell.Text.Quoted
/-!
# What a plain scalar stands for

Without quotes, a text can stand for nothing, a truth value, an integer or a fraction. Where a
string is asked for every scalar is one, so this decides only two things: what a message calls
a value, and which strings have to be quoted when they are written.
-/

namespace WrapShell.Yaml

/-- What a text without quotes stands for. -/
inductive Plain where
  | null
  | bool (b : Bool)
  | integer (n : Int)
  | fraction (text : Text)
  | string (text : Text)
  deriving DecidableEq, Repr

/-- A zero followed by digits, after an optional sign: neither an integer nor a fraction. -/
def isZeroLed (t : Text) : Bool :=
  let digits := match t with
    | '-' :: t | '+' :: t => t
    | t => t
  match digits with
  | '0' :: more => more ≠ [] && more.all Char.isDigit
  | _ => false

/-- The nothings. -/
def isNull (t : Text) : Bool := ["null".toList, "Null".toList, "NULL".toList, ['~']].contains t

def readBool? (t : Text) : Option Bool :=
  if ["true".toList, "True".toList, "TRUE".toList].contains t then some true
  else if ["false".toList, "False".toList, "FALSE".toList].contains t then some false
  else none

/-- The bases that a text can name in front of its digits. -/
def bases : List (Text × Nat) := [(['0', 'x'], 16), (['0', 'o'], 8), (['0', 'b'], 2)]

/-- Reads digits behind one of the marks of a base. -/
def readBased? (range : IntegerRange) (sign : Text) (t : Text) : Option Int :=
  bases.findSome? fun (mark, base) =>
    match Text.after? mark t with
    | none => none
    | some digits =>
      if sign = [] && (digits.head? = some '+' || digits.head? = some '-') then none
      else (readInteger range base (sign ++ digits)).toOption

/-- Reads an integer that is not negative. -/
def readUnsigned? (bits : Nat) (t : Text) : Option Int :=
  let range := IntegerRange.unsigned bits
  let positive := match t with
    | '+' :: rest => rest
    | t => t
  match readBased? range [] positive with
  | some n => some n
  | none =>
    if positive.head? = some '+' || positive.head? = some '-' || isZeroLed t then none
    else (readInteger range 10 positive).toOption

/-- Reads an integer that may be negative. -/
def readSigned? (bits : Nat) (t : Text) : Option Int :=
  let range := IntegerRange.signed bits
  let based := match t with
    | '-' :: rest => readBased? range ['-'] rest
    | _ => none
  match based with
  | some n => some n
  | none => if isZeroLed t then none else (readInteger range 10 t).toOption

/-- Reads an integer of at most 128 bits. -/
def readInt? (t : Text) : Option Int :=
  readUnsigned? 64 t <|> readSigned? 64 t <|> readUnsigned? 128 t <|> readSigned? 128 t

/-- Reads a fraction: its plain text. -/
def readFraction? (t : Text) : Option Text :=
  let positive := match t with
    | '+' :: rest => rest
    | t => t
  if t.head? = some '+' && (positive.head? = some '+' || positive.head? = some '-') then none
  else if [".inf".toList, ".Inf".toList, ".INF".toList].contains positive then some "inf"
  else if ["-.inf".toList, "-.Inf".toList, "-.INF".toList].contains t then some "-inf"
  else if [".nan".toList, ".NaN".toList, ".NAN".toList].contains t then some "NaN"
  else
    match Decimal.read? positive with
    | none => none
    | some d => (Binary.ofDecimal? d).map fun b => (if d.negative then ['-'] else []) ++ b.text

/-- What a text without quotes stands for. -/
def Plain.ofText (t : Text) : Plain :=
  if t = [] || isNull t then .null
  else
    match readBool? t with
    | some b => .bool b
    | none =>
      match readInt? t with
      | some n => .integer n
      | none =>
        match (if isZeroLed t then none else readFraction? t) with
        | some f => .fraction f
        | none => .string t

/-- What a message calls a value. -/
def Plain.description : Plain → Text
  | .null => "unit value"
  | .bool b => "boolean `" ++ (if b then "true".toList else "false".toList) ++ "`"
  | .integer n =>
    let wide : Text :=
      if n < (IntegerRange.signed 64).least then " as i128"
      else if (IntegerRange.unsigned 64).greatest < n then " as u128"
      else ([] : Text)
    "integer `" ++ Text.ofInt n ++ "`" ++ wide
  | .fraction f => "floating point `" ++ f ++ "`"
  | .string t => "string " ++ Text.quoted t

end WrapShell.Yaml
