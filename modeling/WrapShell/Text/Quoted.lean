import WrapShell.Text.Printable
/-!
# Quoted texts

A text in double quotes, with escapes for the quote, the backslash and all that cannot be shown:
how texts appear in messages.
-/

namespace WrapShell.Text

/-- How a character is written between double quotes. -/
def escapeChar (c : Char) : Text :=
  if c = '\x00' then "\\0"
  else if c = '\t' then "\\t"
  else if c = '\r' then "\\r"
  else if c = '\n' then "\\n"
  else if c = '"' || c = '\\' then ['\\', c]
  else if isExtender c || !isPrintable c then "\\u\x7b" ++ Nat.toDigits 16 c.toNat ++ "\x7d"
  else [c]

/-- A text in double quotes. -/
def quoted (t : Text) : Text := '"' :: t.flatMap escapeChar ++ ['"']

/-- Texts in double quotes, in brackets. -/
def quotedList (ts : List Text) : Text := '[' :: join ", " (ts.map quoted) ++ [']']

end WrapShell.Text
