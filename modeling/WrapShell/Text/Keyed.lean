import WrapShell.Text.Basic
/-!
# Keyed values

Values under keys, each key once, in code point order of the keys. `lookup_insert` and
`lookup_erase` say what a change does to each key; both changes keep the order (`IsSorted`).
-/

namespace WrapShell

/-- Values under keys. -/
abbrev Keyed (α : Type) := List (Text × α)

namespace Keyed

variable {α : Type}

/-- Sorts a value in, in place of one under the same key. -/
def insert (key : Text) (a : α) : Keyed α → Keyed α
  | [] => [(key, a)]
  | b :: bs =>
    if key = b.1 then (key, a) :: bs
    else if key ≤ b.1 then (key, a) :: b :: bs
    else b :: insert key a bs

def erase (key : Text) (bs : Keyed α) : Keyed α := bs.filter (·.1 != key)

/-- The values of a list; of two under one key the later counts. -/
def ofList (bs : List (Text × α)) : Keyed α := bs.foldl (fun m b => insert b.1 b.2 m) []

theorem lookup_cons (k : Text) (a : α) (bs : Keyed α) (n : Text) :
    List.lookup n ((k, a) :: bs) = if n = k then some a else List.lookup n bs := by
  by_cases h : n = k
  · simp [h]
  · rw [List.lookup_cons, beq_eq_false_iff_ne.2 h, if_neg h]

theorem lookup_insert (key : Text) (a : α) (bs : Keyed α) (n : Text) :
    List.lookup n (insert key a bs) = if n = key then some a else List.lookup n bs := by
  induction bs with
  | nil => rw [insert, lookup_cons]
  | cons b bs ih =>
    obtain ⟨k, v⟩ := b
    unfold insert
    split
    · next h =>
      rw [lookup_cons, lookup_cons, show key = k from h]
      split <;> rfl
    · next h =>
      split
      · rw [lookup_cons]
      · rw [lookup_cons, lookup_cons, ih]
        split
        · next e => subst e; rw [if_neg (Ne.symm h)]
        · rfl

theorem lookup_erase (key : Text) (bs : Keyed α) (n : Text) :
    List.lookup n (erase key bs) = if n = key then none else List.lookup n bs := by
  unfold erase
  induction bs with
  | nil => simp
  | cons b bs ih =>
    obtain ⟨k, v⟩ := b
    by_cases h : k = key
    · rw [List.filter_cons_of_neg (by simp [h]), ih, lookup_cons, h]
      split <;> rfl
    · rw [List.filter_cons_of_pos (by simp [h]), lookup_cons, lookup_cons, ih]
      split
      · next e => subst e; rw [if_neg h]
      · rfl

/-! ## Order -/

variable {bs : Keyed α} {b : Text × α} {key : Text} {a : α}

/-- Each key once, in code point order. -/
def IsSorted (bs : Keyed α) : Prop := bs.Pairwise fun a b => a.1 ≤ b.1 ∧ a.1 ≠ b.1

theorem mem_insert (h : b ∈ insert key a bs) : b = (key, a) ∨ b ∈ bs := by
  induction bs with
  | nil => simpa [insert] using h
  | cons c bs ih =>
    rw [insert] at h
    split at h
    · exact (List.mem_cons.1 h).imp_right (List.mem_cons_of_mem c)
    · split at h
      · exact List.mem_cons.1 h
      · rcases List.mem_cons.1 h with rfl | h
        · exact .inr List.mem_cons_self
        · exact (ih h).imp_right (List.mem_cons_of_mem c)

theorem IsSorted.insert (h : bs.IsSorted) (key : Text) (a : α) : (Keyed.insert key a bs).IsSorted := by
  induction bs with
  | nil => exact List.pairwise_singleton _ _
  | cons b bs ih =>
    obtain ⟨hb, hbs⟩ := List.pairwise_cons.1 h
    rw [Keyed.insert]
    split
    · next heq => exact List.pairwise_cons.2 ⟨heq ▸ hb, hbs⟩
    · next hne =>
      split
      · next hle =>
        refine List.pairwise_cons.2 ⟨fun c hc => ?_, h⟩
        rcases List.mem_cons.1 hc with rfl | hc
        · exact ⟨hle, hne⟩
        · obtain ⟨hle', -⟩ := hb c hc
          refine ⟨List.le_trans hle hle', ?_⟩
          rintro (rfl : key = c.1)
          exact hne (List.le_antisymm hle hle')
      · next hgt =>
        refine List.pairwise_cons.2 ⟨fun c hc => ?_, ih hbs⟩
        rcases mem_insert hc with rfl | hc
        · exact ⟨(List.le_total key b.1).resolve_left hgt, Ne.symm hne⟩
        · exact hb c hc

theorem IsSorted.erase (h : bs.IsSorted) (key : Text) : (Keyed.erase key bs).IsSorted := h.filter _

/-- What is under a key is all that is there with this key. -/
theorem IsSorted.lookup_eq (h : bs.IsSorted) (hb : b ∈ bs) : bs.lookup b.1 = some b.2 := by
  induction bs with
  | nil => cases hb
  | cons c bs ih =>
    obtain ⟨hc, hbs⟩ := List.pairwise_cons.1 h
    rw [lookup_cons]
    rcases List.mem_cons.1 hb with rfl | hb
    · exact if_pos rfl
    · rw [if_neg (hc b hb).2.symm, ih hbs hb]

end Keyed

end WrapShell
