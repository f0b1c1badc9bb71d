import WrapShell.Unicode.Cluster
/-!
# Typed lines

Input that does not come from a terminal is cut into lines, and in each line a backspace takes
back the cluster before it.
-/

namespace WrapShell

/-- The character that takes back the cluster before it. -/
def backspace : Char := '\x08'

/-- A line as far as it was meant so far: its text reversed, and how many bytes each backspace
would take back, the next one first. -/
structure TypedLine where
  text : Text
  sizes : List Nat
  deriving Repr

namespace TypedLine

/-- A reversed text without its last `n` bytes. -/
def dropBytes (n : Nat) : Text → Text
  | [] => []
  | c :: t => if n = 0 then c :: t else dropBytes (n - c.utf8Size) t

/-- The line after one more cluster. The size of a cluster is kept in one byte. -/
def type (l : TypedLine) (cluster : Text) : TypedLine :=
  if cluster = [backspace] then
    match l.sizes with
    | [] => l
    | n :: more => ⟨dropBytes n l.text, more⟩
  else ⟨cluster.reverse ++ l.text, (Text.utf8Size cluster % 256) :: l.sizes⟩

end TypedLine

/-- A line as it was meant. -/
def settle (line : Text) : Text :=
  if line.contains backspace then ((Cluster.clusters line).foldl TypedLine.type ⟨[], []⟩).text.reverse else line

/-- The lines of an input, as they were meant. -/
def typedLines (input : Text) : List Text := (Text.lines input).map settle

end WrapShell
