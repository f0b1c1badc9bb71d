/-!
# Text

Text is a list of characters, so that everything read or written here can be taken apart by
recursion. Two texts are ordered by their code points, which is also the order of their UTF-8
bytes.
-/

namespace WrapShell

/-- A text, one character after the other. -/
abbrev Text := List Char

/-- A string literal stands for the text it spells. -/
instance : Coe String Text := ⟨String.toList⟩

/-- Texts are ordered by their code points. -/
instance : LE Text := List.instLE

instance : DecidableLE Text := List.decidableLE

namespace Text

/-- Whether `t` begins with `start`. -/
def startsWith (t start : Text) : Bool := start.isPrefixOf t

/-- What follows `start` in `t`, if `t` begins with it. -/
def after? (start t : Text) : Option Text := start.isPrefixOf? t

/-- Texts in a row, with a separator between two of them, as a message lists them. -/
abbrev join (sep : Text) (ts : List Text) : Text := List.intercalate sep ts

/-- A line without the carriage return that ends it. -/
def chomp (line : Text) : Text :=
  if line.getLast? = some '\r' then line.dropLast else line

/-- The lines of a text: each is ended by a newline, or a carriage return and a newline, and
the last may lack it. A carriage return that ends the text stays. -/
def lines (t : Text) : List Text :=
  match (List.splitOn '\n' t).reverse with
  | [] => []
  | last :: ended =>
    let done := (ended.map chomp).reverse
    if last = [] then done else done ++ [last]

/-- The number of bytes of the UTF-8 form. -/
def utf8Size (t : Text) : Nat := t.foldr (fun c n => c.utf8Size + n) 0

@[simp] theorem utf8Size_nil : utf8Size [] = 0 := rfl

@[simp] theorem utf8Size_cons (c : Char) (t : Text) : utf8Size (c :: t) = c.utf8Size + utf8Size t := by
  simp [utf8Size]

@[simp] theorem utf8Size_append (s t : Text) : utf8Size (s ++ t) = utf8Size s + utf8Size t := by
  induction s with
  | nil => simp
  | cons c s ih => simp [ih, Nat.add_assoc]

/-- `t` followed by spaces, up to `width` characters. -/
def padRight (width : Nat) (t : Text) : Text := t ++ List.replicate (width - t.length) ' '

/-- The decimal digits of a number. -/
def ofNat (n : Nat) : Text := Nat.toDigits 10 n

/-- The decimal digits of an integer, after a minus sign if it is negative. -/
def ofInt : Int → Text
  | .ofNat n => ofNat n
  | .negSucc n => '-' :: ofNat (n + 1)

end Text

end WrapShell
