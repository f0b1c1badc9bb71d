import WrapShell.Files.Names
import WrapShell.Glob.Word
import WrapShell.Text.Escape
import WrapShell.Text.Utf8
/-!
# What a wildcard means

A bare word without brackets, read directly: which names its components stand for, what it takes
for a path to be there, and the order in which paths are given.
-/

namespace WrapShell

namespace Wildcard

/-- Which names a component of a word stands for. -/
inductive Describes : Text → Text → Prop
  | nil : Describes [] []
  | lone : Describes ['\\'] ['\\']
  | escaped (c : Char) {t n : Text} : Describes t n → Describes ('\\' :: c :: t) (c :: n)
  | anyChar (c : Char) {t n : Text} : Describes t n → Describes ('?' :: t) (c :: n)
  | anyRun (s : Text) {t n : Text} : Describes t n → Describes ('*' :: t) (s ++ n)
  | char {c : Char} {t n : Text} : c ∉ ['\\', '?', '*'] → Describes t n → Describes (c :: t) (c :: n)

/-- The pieces of a word between its slashes, without the one in front. -/
def components (word : Text) : List Text := List.splitOn '/' (if Path.isAbsolute word then word.tail else word)

end Wildcard

/-- A word with a live `*`, `+` or `?`, without a live `[`, and with components that are no paths
upwards and ask for no leading dot. -/
structure IsWildcard (word : Text) : Prop where
  live : word.escapes (fun c => !(['*', '+', '?'].contains c)) (fun _ => true) true = false
  brackets : word.escapes (· != '[') (· != '/') true
  components : ∀ t ∈ Wildcard.components word, t ≠ [] ∧ t.head? ≠ some '.' ∧ t.take 2 ≠ ['\\', '.']

instance (word : Text) : Decidable (IsWildcard word) :=
  decidable_of_iff
    (word.escapes (fun c => !(['*', '+', '?'].contains c)) (fun _ => true) true = false ∧
      word.escapes (· != '[') (· != '/') true ∧ ∀ t ∈ Wildcard.components word, t ≠ [] ∧ t.head? ≠ some '.' ∧ t.take 2 ≠ ['\\', '.'])
    ⟨fun ⟨h₁, h₂, h₃⟩ => ⟨h₁, h₂, h₃⟩, fun ⟨h₁, h₂, h₃⟩ => ⟨h₁, h₂, h₃⟩⟩

namespace Wildcard

/-- Whether a component has no character that a pattern must say with a special one: such a
component is looked up, for any other its directory is read. -/
def isLookedUp (t : Text) : Bool :=
  t.escapes (fun c => !(['*', '?'].contains c)) (fun c => !(['*', '?', '[', ']'].contains c)) true

/-- Whether the names that the components stand for lead anywhere. A path of 4096 bytes cannot be
looked up any more, only read from the directory that it ends in. -/
def IsThere (here : Place) (absolute : Bool) (ts ns : List Text) : Prop :=
  if Text.utf8Size (Path.ofNames absolute ns) < 4096 then here.isListed (Path.ofNames absolute ns) = true
  else (∀ t ∈ ts.getLast?, isLookedUp t = false) ∧ ∃ n ∈ ns.getLast?, n ∈ here.list (Path.ofNames absolute ns.dropLast)

/-- Depth first, and in each directory in the order of the bytes of the names. -/
def Before : List Text → List Text → Prop := List.Lex fun s t => Text.utf8 s < Text.utf8 t

end Wildcard

end WrapShell
