import WrapShell.Text.Basic
/-!
# UTF-8

The bytes of a text, and the text that bytes stand for. Bytes that are no UTF-8 become U+FFFD,
one for each longest run that could have started a character.
-/

namespace WrapShell

/-- Bytes, one after the other. -/
abbrev Bytes := List UInt8

namespace Text

/-- The bytes of a text. -/
def utf8 (t : Text) : Bytes := t.flatMap String.utf8EncodeChar

/-- For the first byte of a character of more than one byte: the number of bytes behind it, the
least and the greatest value of the next one, and the bits it gives itself. -/
def leadByte? (b : UInt8) : Option (Nat × Nat × Nat × Nat) :=
  let n := b.toNat
  if 0xC2 ≤ n && n ≤ 0xDF then some (1, 0x80, 0xBF, n - 0xC0)
  else if n = 0xE0 then some (2, 0xA0, 0xBF, 0)
  else if n = 0xED then some (2, 0x80, 0x9F, n - 0xE0)
  else if 0xE1 ≤ n && n ≤ 0xEF then some (2, 0x80, 0xBF, n - 0xE0)
  else if n = 0xF0 then some (3, 0x90, 0xBF, 0)
  else if 0xF1 ≤ n && n ≤ 0xF3 then some (3, 0x80, 0xBF, n - 0xF0)
  else if n = 0xF4 then some (3, 0x80, 0x8F, n - 0xF0)
  else none

/-- The bytes that go on a character, at most `n`; the first lies between `low` and `high`. -/
def continuation (n low high : Nat) : Bytes → Bytes
  | [] => []
  | b :: bs =>
    match n with
    | 0 => []
    | n + 1 => if low ≤ b.toNat && b.toNat ≤ high then b :: continuation n 0x80 0xBF bs else []

/-- The text that bytes stand for. -/
def ofUtf8 : Bytes → Text
  | [] => []
  | b :: bs =>
    if b.toNat < 0x80 then Char.ofNat b.toNat :: ofUtf8 bs
    else
      match leadByte? b with
      | none => '\ufffd' :: ofUtf8 bs
      | some (n, low, high, bits) =>
        let more := continuation n low high bs
        let code := more.foldl (fun code c => code * 64 + (c.toNat - 0x80)) bits
        (if more.length = n then Char.ofNat code else '\ufffd') :: ofUtf8 (bs.drop more.length)
termination_by bs => bs.length
decreasing_by all_goals (simp only [List.length_cons, List.length_drop]; omega)

end Text

end WrapShell
