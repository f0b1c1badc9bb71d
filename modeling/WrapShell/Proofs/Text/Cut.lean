import WrapShell.Text.Basic
/-!
# Cutting and joining

Lists are cut by `List.splitOn` and put together by `List.intercalate`. What the library does not say of
these: the first piece, the members of the pieces, and, for texts, their sizes.
-/

namespace WrapShell

section

variable {α : Type} {sep a : α} {xs : List α} {xss : List (List α)}

theorem intercalate_eq_append (sep : α) (xs : List α) (xss : List (List α)) :
    List.intercalate [sep] (xs :: xss) = xs ++ xss.flatMap (sep :: ·) := by
  induction xss generalizing xs with
  | nil => simp
  | cons ys xss ih => rw [List.intercalate_cons_cons, ih ys, List.flatMap_cons, List.append_assoc]; rfl

theorem mem_intercalate (ha : a ≠ sep) : a ∈ List.intercalate [sep] xss ↔ ∃ xs ∈ xss, a ∈ xs := by
  cases xss with
  | nil => simp
  | cons xs xss => simp [intercalate_eq_append, List.mem_flatMap, ha]

theorem intercalate_append (sep : α) (xss : List (List α)) (xs : List α) (yss : List (List α)) :
    List.intercalate [sep] (xss ++ xs :: yss) = xss.flatMap (· ++ [sep]) ++ List.intercalate [sep] (xs :: yss) := by
  induction xss with
  | nil => rfl
  | cons ys xss ih =>
    rw [List.cons_append, List.intercalate_cons_of_ne_nil (by simp), ih, List.flatMap_cons,
      List.append_assoc _ _ (List.intercalate [sep] (xs :: yss))]

theorem intercalate_concat (sep xs : List α) (h : xss ≠ []) :
    List.intercalate sep (xss ++ [xs]) = List.intercalate sep xss ++ sep ++ xs := by
  induction xss with
  | nil => exact absurd rfl h
  | cons ys xss ih =>
    by_cases e : xss = []
    · subst e
      simp [List.intercalate_cons_cons]
    · rw [List.cons_append, List.intercalate_cons_of_ne_nil (by simp), List.intercalate_cons_of_ne_nil e, ih e]
      simp

theorem head_intercalate (hx : xs ≠ []) : (List.intercalate [sep] (xs :: xss)).head? = xs.head? := by
  obtain ⟨a, ys, rfl⟩ := List.exists_cons_of_ne_nil hx
  rw [intercalate_eq_append]
  rfl

variable [BEq α] [LawfulBEq α] {ys : List α}

theorem splitOn_cons_self (sep : α) (xs : List α) : (sep :: xs).splitOn sep = [] :: xs.splitOn sep :=
  List.splitOn_append_cons_self [] xs

theorem splitOn_cons_ne (ha : a ≠ sep) (xs : List α) : (a :: xs).splitOn sep = (xs.splitOn sep).modifyHead (a :: ·) := by
  rw [List.splitOn_cons_eq_if_modifyHead, if_neg (by simpa using ha)]

/-- A list without a separator joins the first piece of what it stands in front of. -/
theorem splitOn_front (hx : sep ∉ xs) (ys : List α) :
    ∃ first rest, ys.splitOn sep = first :: rest ∧ (xs ++ ys).splitOn sep = (xs ++ first) :: rest := by
  obtain ⟨first, rest, hy⟩ := List.exists_cons_of_ne_nil (List.splitOn_ne_nil sep ys)
  refine ⟨first, rest, hy, ?_⟩
  induction xs with
  | nil => exact hy
  | cons a xs ih =>
    rw [List.mem_cons, not_or] at hx
    rw [List.cons_append, splitOn_cons_ne (Ne.symm hx.1), ih hx.2]
    rfl

theorem not_mem_of_mem_splitOn (h : xs ∈ ys.splitOn sep) : sep ∉ xs := by
  induction ys generalizing xs with
  | nil =>
    cases List.mem_singleton.1 h
    exact List.not_mem_nil
  | cons a ys ih =>
    by_cases ha : a = sep
    · subst ha
      rw [splitOn_cons_self, List.mem_cons] at h
      rcases h with rfl | h
      · exact List.not_mem_nil
      · exact ih h
    · obtain ⟨first, rest, e⟩ := List.exists_cons_of_ne_nil (List.splitOn_ne_nil sep ys)
      rw [splitOn_cons_ne ha, e, List.modifyHead_cons, List.mem_cons] at h
      rcases h with rfl | h
      · rw [List.mem_cons, not_or]
        exact ⟨Ne.symm ha, ih (e ▸ List.mem_cons_self)⟩
      · exact ih (e ▸ List.mem_cons_of_mem _ h)

theorem mem_of_mem_splitOn (h : xs ∈ ys.splitOn sep) (ha : a ∈ xs) : a ∈ ys := by
  have hne : a ≠ sep := fun e => not_mem_of_mem_splitOn h (e ▸ ha)
  rw [← @List.intercalate_splitOn _ ys _ _ sep, mem_intercalate hne]
  exact ⟨xs, h, ha⟩

end

namespace Text

theorem utf8Size_replicate (k : Nat) (c : Char) : utf8Size (List.replicate k c) = k * c.utf8Size := by
  induction k with
  | zero => simp
  | succ k ih => rw [List.replicate_succ, utf8Size_cons, ih, Nat.succ_mul, Nat.add_comm]

/-- A piece that is repeated takes its size and that of a separator each time. -/
theorem utf8Size_intercalate_replicate (sep : Char) (k : Nat) (s t : Text) :
    utf8Size (List.intercalate [sep] (List.replicate k s ++ [t])) = k * (utf8Size s + sep.utf8Size) + utf8Size t := by
  induction k with
  | zero => simp
  | succ k ih =>
    rw [List.replicate_succ, List.cons_append, List.intercalate_cons_of_ne_nil (by simp), utf8Size_append, utf8Size_append, ih,
      Nat.succ_mul, utf8Size_cons, utf8Size_nil]
    omega

end Text

end WrapShell
