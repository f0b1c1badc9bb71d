import WrapShell.Files.Place
/-!
# Names and the paths made of them

What a directory can hold a thing under, and how a path is written that leads through such names
only.
-/

namespace WrapShell

namespace Path

/-- A piece of a path that is a step to a name. -/
structure IsName (n : Text) : Prop where
  nonempty : n ≠ []
  here : n ≠ ['.']
  parent : n ≠ ['.', '.']
  slash : '/' ∉ n

instance (n : Text) : Decidable (IsName n) :=
  decidable_of_iff (n ≠ [] ∧ n ≠ ['.'] ∧ n ≠ ['.', '.'] ∧ '/' ∉ n)
    ⟨fun ⟨h₁, h₂, h₃, h₄⟩ => ⟨h₁, h₂, h₃, h₄⟩, fun ⟨h₁, h₂, h₃, h₄⟩ => ⟨h₁, h₂, h₃, h₄⟩⟩

/-- A name that the system can store. -/
def IsLegalName (n : Text) : Prop := IsName n ∧ '\x00' ∉ n ∧ Text.utf8Size n ≤ 255

instance (n : Text) : Decidable (IsLegalName n) := instDecidableAnd

/-- The path through some names. Without a name it is the directory that the others start from. -/
def ofNames (absolute : Bool) : List Text → Path
  | [] => if absolute then ['/'] else ['.']
  | n :: ns => (if absolute then ['/'] else []) ++ List.intercalate ['/'] (n :: ns)

end Path

/-- Where such a path starts. -/
def Place.base (here : Place) (absolute : Bool) : Location := if absolute then [] else here.cwd

/-- A link cannot hold the character NUL. -/
def Entry.IsLegal : Entry → Prop
  | .link target => '\x00' ∉ target
  | _ => True

instance (e : Entry) : Decidable e.IsLegal :=
  match e with
  | .link target => inferInstanceAs (Decidable ('\x00' ∉ target))
  | .dir | .file _ _ => isTrue trivial

/-- A tree that the system can have. -/
structure Tree.IsLegal (t : Tree) : Prop where
  names : ∀ e ∈ t.entries, ∀ n ∈ e.1, Path.IsLegalName n
  entries : ∀ e ∈ t.entries, e.2.IsLegal

instance (t : Tree) : Decidable t.IsLegal :=
  decidable_of_iff
    ((∀ e ∈ t.entries, ∀ n ∈ e.1, Path.IsLegalName n) ∧ ∀ e ∈ t.entries, e.2.IsLegal)
    ⟨fun ⟨h₁, h₂⟩ => ⟨h₁, h₂⟩, fun ⟨h₁, h₂⟩ => ⟨h₁, h₂⟩⟩

/-- A place in such a tree. -/
structure Place.IsLegal (here : Place) : Prop where
  tree : here.tree.IsLegal
  cwd : ∀ n ∈ here.cwd, Path.IsLegalName n

end WrapShell
