import WrapShell.Text.Basic
/-!
# Reading integers

An integer is written as digits after an optional sign, and has to lie in a given range. The
first character or the first step out of the range that is wrong decides what is reported.
-/

namespace WrapShell

/-- The value of a digit in some base up to 36. -/
def digitValue? (base : Nat) (c : Char) : Option Nat :=
  let n :=
    if c.isDigit then c.toNat - '0'.toNat
    else if c.isLower then c.toNat - 'a'.toNat + 10
    else if c.isUpper then c.toNat - 'A'.toNat + 10
    else base
  if n < base then some n else none

/-- Why a text is no integer of a range. -/
inductive IntegerError where
  | empty
  | invalidDigit
  | tooLarge
  | tooSmall
  deriving DecidableEq, Repr

/-- The wording of an error. -/
def IntegerError.message : IntegerError → Text
  | .empty => "cannot parse integer from empty string"
  | .invalidDigit => "invalid digit found in string"
  | .tooLarge => "number too large to fit in target type"
  | .tooSmall => "number too small to fit in target type"

/-- A range of integers around zero. -/
structure IntegerRange where
  least : Int
  greatest : Int
  least_le : least ≤ 0 := by decide
  le_greatest : 0 ≤ greatest := by decide

namespace IntegerRange

/-- The integers of `n` bits with a sign. -/
def signed (n : Nat) : IntegerRange where
  least := -(Nat.pow 2 (n - 1) : Nat)
  greatest := (Nat.pow 2 (n - 1) : Nat) - 1
  least_le := by have : 0 < Nat.pow 2 (n - 1) := Nat.two_pow_pos _; omega
  le_greatest := by have : 0 < Nat.pow 2 (n - 1) := Nat.two_pow_pos _; omega

/-- The integers of `n` bits without a sign. -/
def unsigned (n : Nat) : IntegerRange where
  least := 0
  greatest := (Nat.pow 2 n : Nat) - 1
  least_le := by decide
  le_greatest := by have : 0 < Nat.pow 2 n := Nat.two_pow_pos _; omega

def contains (r : IntegerRange) (n : Int) : Bool := r.least ≤ n && n ≤ r.greatest

end IntegerRange

/-- Adds digits to a value, away from zero. -/
def addDigits (range : IntegerRange) (base : Nat) (negative : Bool) (value : Int) : Text → Except IntegerError Int
  | [] => .ok value
  | c :: t =>
    match digitValue? base c with
    | none => .error .invalidDigit
    | some d =>
      let next : Int := base * value + (if negative then -(d : Int) else d)
      if range.contains next then addDigits range base negative next t
      else .error (if negative then .tooSmall else .tooLarge)

/-- Reads an integer of a range. A minus sign needs a range that goes below zero. -/
def readInteger (range : IntegerRange) (base : Nat) (t : Text) : Except IntegerError Int :=
  match t with
  | [] => .error .empty
  | ['+'] | ['-'] => .error .invalidDigit
  | '+' :: digits => addDigits range base false 0 digits
  | '-' :: digits =>
    if range.least < 0 then addDigits range base true 0 digits else .error .invalidDigit
  | digits => addDigits range base false 0 digits

end WrapShell
