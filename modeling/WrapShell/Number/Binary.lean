import WrapShell.Number.Integer
/-!
# Decimal fractions as binary numbers

A number written with a point or an exponent stands for the nearest number with 53 binary
digits. It is shown with the fewest decimal digits that lead back to the same number, and
without an exponent.
-/

namespace WrapShell

/-- A decimal number: `digits · 10 ^ exponent`, with a sign. -/
structure Decimal where
  negative : Bool
  digits : Nat
  exponent : Int
  deriving DecidableEq, Repr

/-- The value of a run of decimal digits. -/
def digitsValue (t : Text) : Nat := t.foldl (fun n c => 10 * n + (c.toNat - '0'.toNat)) 0

namespace Decimal

/-- Reads a decimal number: digits with at most one point among them, then perhaps an `e` and
the digits of an exponent, each part with an optional sign. -/
def read? (t : Text) : Option Decimal :=
  let (negative, t) : Bool × Text := match t with
    | '-' :: t => (true, t)
    | '+' :: t => (false, t)
    | t => (false, t)
  let whole := t.takeWhile Char.isDigit
  let t := t.dropWhile Char.isDigit
  let (part, t) : Text × Text := match t with
    | '.' :: t => (t.takeWhile Char.isDigit, t.dropWhile Char.isDigit)
    | t => ([], t)
  if whole ++ part = [] then none
  else
    let of (e : Int) : Option Decimal := some ⟨negative, digitsValue (whole ++ part), e - part.length⟩
    match t with
    | [] => of 0
    | e :: t =>
      if e ≠ 'e' && e ≠ 'E' then none
      else
        let (down, t) : Bool × Text := match t with
          | '-' :: t => (true, t)
          | '+' :: t => (false, t)
          | t => (false, t)
        if t = [] || !t.all Char.isDigit then none
        else of (if down then -(digitsValue t : Int) else digitsValue t)

end Decimal

/-- A quotient rounded to the nearest integer, a half to the even neighbour. -/
def roundedQuotient (num den : Nat) : Nat :=
  let q := num / den
  let r := 2 * (num % den)
  if r < den || (r == den && q % 2 == 0) then q else q + 1

/-- A number with at most 53 binary digits: `significand · 2 ^ exponent`. -/
structure Binary where
  significand : Nat
  exponent : Int
  deriving DecidableEq, Repr

namespace Binary

/-- The least exponent there is. -/
def leastExponent : Int := -1074

/-- `base ^ e` as numerator and denominator. -/
def power (base : Nat) (e : Int) : Nat × Nat := if 0 ≤ e then (base.pow e.toNat, 1) else (1, base.pow (-e).toNat)

/-- `num / den` in units of `2 ^ e`, rounded. -/
def inUnits (num den : Nat) (e : Int) : Nat :=
  let (up, down) := power 2 e
  roundedQuotient (num * down) (den * up)

/-- The binary number nearest to a positive fraction, unless that is too large for one. -/
def nearest? (num den : Nat) : Option Binary :=
  let low := max ((Nat.log2 num : Int) - Nat.log2 den - 53) leastExponent
  let e := if inUnits num den low < Nat.pow 2 53 then low else low + 1
  let m := inUnits num den e
  if m = Nat.pow 2 53 then (if e + 1 ≤ 971 then some ⟨Nat.pow 2 52, e + 1⟩ else none)
  else if e ≤ 971 then some ⟨m, e⟩ else none

/-- The binary number that a decimal number stands for, sign aside. Exponents far out of range
are not worked out. -/
def ofDecimal? (d : Decimal) : Option Binary :=
  let top := d.exponent + (Nat.toDigits 10 d.digits).length
  if d.digits = 0 || top < -400 then some ⟨0, leastExponent⟩
  else if 400 < top then none
  else
    let (up, down) := power 10 d.exponent
    nearest? (d.digits * up) down

/-- Whether `d · 10 ^ e` is rounded to the binary number `b`. -/
def readsBack (b : Binary) (d : Nat) (e : Int) : Bool :=
  let (up, down) := power 10 e
  d != 0 && nearest? (d * up) down == some b

/-- The multiples of `10 ^ e` next to a binary number, the nearer one first. -/
def neighbours (b : Binary) (e : Int) : List Nat :=
  let (up, down) := power 2 b.exponent
  let (tenUp, tenDown) := power 10 e
  let num := b.significand * up * tenDown
  let den := down * tenUp
  let q := num / den
  if 2 * (num % den) ≤ den then [q, q + 1] else [q + 1, q]

/-- The fewest decimal digits that lead back to `b`, and their exponent. -/
def shortest (b : Binary) : Nat × Int :=
  let top : Int := (b.exponent + Nat.log2 b.significand) * 30103 / 100000 + 1
  let grids : List Int := (List.range 20).map fun n => top - (n : Nat)
  (grids.findSome? fun e => ((b.neighbours e).find? (b.readsBack · e)).map (·, e)).getD (0, 0)

/-- Digits with a point before the last `-e` of them, or zeros behind. -/
def positional (d : Nat) (e : Int) : Text :=
  if 0 ≤ e then Text.ofNat (d * Nat.pow 10 e.toNat) ++ ".0"
  else
    let places := (-e).toNat
    let ds := Text.ofNat d
    let ds := List.replicate (places + 1 - ds.length) '0' ++ ds
    ds.take (ds.length - places) ++ '.' :: ds.drop (ds.length - places)

/-- The text of a binary number: the fewest digits, always with a point. -/
def text (b : Binary) : Text :=
  if b.significand = 0 then "0.0" else let (d, e) := b.shortest; positional d e

end Binary

end WrapShell
