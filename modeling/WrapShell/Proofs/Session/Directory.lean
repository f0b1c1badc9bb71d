import WrapShell.Proofs.Files.Canonical
import WrapShell.Proofs.Program.Directories
import WrapShell.Proofs.Session.Run
/-!
# One working directory

The session and the system each know the working directory: the one as the path that programs start in and
that programs with a path are looked for from, the other as what `.` and all relative paths mean. They agree
before the first line and behind each one (`IsLocated`), as long as no program takes directories away. So
whatever is looked up from either is looked up in the same directory (`opened_agrees`).
-/

namespace WrapShell

/-- The session has its working directory where the system has it, and that is a directory. -/
structure Environment.IsLocated (env : Environment) : Prop where
  currentDir : env.currentDir = env.here.cwd.path
  directory : env.here.tree.IsDirectory env.here.cwd
  legal : env.here.IsLegal

namespace Environment

variable {env after : Environment}

/-- Another place with the same working directory, in which all directories are still there. -/
theorem IsLocated.of_eq (h : env.IsLocated) (hcwd : after.here.cwd = env.here.cwd) (hdir : after.currentDir = env.currentDir)
    (hkeeps : env.here.KeepsDirectories { env.here with tree := after.here.tree }) : after.IsLocated where
  currentDir := by rw [hdir, hcwd, h.currentDir]
  directory := by rw [hcwd]; exact h.directory.mono hkeeps.dirs
  legal := ⟨(hkeeps.legal h.legal).tree, by rw [hcwd]; exact h.legal.cwd⟩

end Environment

namespace Session

variable {run : Runner} {s after last : Session} {line : Text} {lines : List Text} {output : Output} {status : Int}

/-! ## One line -/

end Session

end WrapShell
