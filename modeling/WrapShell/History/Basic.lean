import WrapShell.Line.Mark
import WrapShell.Files.Path
/-!
# History

One history holds the lines typed for all base commands. Each entry remembers the base it was
typed for, so that a session recalls its own lines; a builtin line has an empty base and is
recalled everywhere. `entries_add` says what adding a line does.
-/

namespace WrapShell

/-- One line that was typed, and the base command it was typed for. -/
structure History.Entry where
  base : Text
  line : Text
  deriving DecidableEq, Repr

/-- The lines so far, the base they are typed for now, and the file they are kept in. -/
structure History where
  base : Text
  entries : List History.Entry
  file : Option Path
  deriving Repr

namespace History

/-- A history that is kept in no file. -/
def inMemory (base : Text) (entries : List Entry) : History := ⟨base, entries, none⟩

/-- The entry for a line. -/
def entryFor (h : History) (line : Text) : Entry := ⟨if isBuiltinLine line then [] else h.base, line⟩

/-- Whether a line is worth an entry: not empty, and not the same as the line before. -/
def keeps (h : History) (line : Text) : Bool :=
  line != [] && (h.entries.getLast?.map Entry.line) != some line

/-- The history after a line. -/
def add (h : History) (line : Text) : History :=
  if h.keeps line then { h with entries := h.entries ++ [h.entryFor line] } else h

/-- The lines that can be recalled under this base, oldest first. -/
def recallable (h : History) : List Text :=
  (h.entries.filter fun e => e.base == h.base || isBuiltinLine e.line).map Entry.line

/-- The lines typed for this base that satisfy `p`, oldest first. -/
def select (h : History) (p : Text → Bool) : List Text :=
  (h.entries.filter fun e => e.base == h.base && p e.line).map Entry.line

theorem entries_add (h : History) (line : Text) :
    (h.add line).entries = h.entries ++ (if h.keeps line then [h.entryFor line] else []) := by
  unfold add
  split <;> simp

@[simp] theorem file_add (h : History) (line : Text) : (h.add line).file = h.file := by
  unfold add
  split <;> rfl

end History

end WrapShell
