import WrapShell.Text.Basic
/-!
# Blank characters

The characters of Unicode's property White_Space, and what follows from it: a line of blanks
only, and a text without the blanks at its ends.
-/

namespace WrapShell

/-- Unicode's White_Space. -/
def isBlank (c : Char) : Bool :=
  let n := c.toNat
  (9 ≤ n && n ≤ 13) || n == 32 || n == 0x85 || n == 0xA0 || n == 0x1680 ||
    (0x2000 ≤ n && n ≤ 0x200A) || n == 0x2028 || n == 0x2029 || n == 0x202F || n == 0x205F || n == 0x3000

namespace Text

/-- Only blanks, or nothing at all. -/
def allBlank (t : Text) : Bool := t.all isBlank

/-- The text without the blanks at its two ends. -/
def trim (t : Text) : Text :=
  ((t.dropWhile isBlank).reverse.dropWhile isBlank).reverse

end Text

end WrapShell
