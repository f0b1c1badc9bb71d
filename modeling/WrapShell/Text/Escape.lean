import WrapShell.Text.Basic
/-!
# Backslash pairs

Words, quotes and brackets are all taken apart the same way: from the left, and each backslash
takes the character after it along. `pairInduction` is the induction that follows this.
-/

namespace WrapShell

namespace Text

/-- Whether `alone` holds of every character that stands by itself and `taken` of every one that
a backslash takes along; `dangling` says whether a backslash at the end may take nothing. -/
def escapes (alone taken : Char → Bool) (dangling : Bool) : Text → Bool
  | [] => true
  | ['\\'] => dangling
  | '\\' :: c :: t => taken c && escapes alone taken dangling t
  | c :: t => alone c && escapes alone taken dangling t

@[elab_as_elim]
theorem pairInduction {P : Text → Prop} (nil : P []) (dangling : P ['\\'])
    (pair : ∀ c t, P t → P ('\\' :: c :: t)) (char : ∀ c t, c ≠ '\\' → P t → P (c :: t)) (t : Text) : P t := by
  fun_induction escapes (fun _ => true) (fun _ => true) true t with
  | case1 => exact nil
  | case2 => exact dangling
  | case3 c t ih => exact pair c t ih
  | case4 c t h h' ih =>
    refine char c t (fun hc => ?_) ih
    cases t with
    | nil => exact h hc rfl
    | cons d t => exact h' d t hc rfl

variable {alone taken : Char → Bool} {dangling : Bool} {c : Char} {t : Text}

@[simp] theorem escapes_nil : escapes alone taken dangling [] = true := rfl

@[simp] theorem escapes_dangling : escapes alone taken dangling ['\\'] = dangling := rfl

@[simp] theorem escapes_pair :
    escapes alone taken dangling ('\\' :: c :: t) = (taken c && escapes alone taken dangling t) := rfl

theorem escapes_char (h : c ≠ '\\') :
    escapes alone taken dangling (c :: t) = (alone c && escapes alone taken dangling t) := by
  simp [escapes, h]

/-- Without a backslash every character stands alone. -/
theorem escapes_of_not_mem (h : '\\' ∉ t) : escapes alone taken dangling t = t.all alone := by
  induction t with
  | nil => rfl
  | cons c t ih =>
    rw [List.mem_cons, not_or] at h
    rw [escapes_char (Ne.symm h.1), ih h.2, List.all_cons]

theorem escapes_mono {alone' : Char → Bool} (h : ∀ c, alone c → alone' c) (ht : t.escapes alone taken dangling) :
    t.escapes alone' taken dangling := by
  induction t using pairInduction with
  | nil => rfl
  | dangling => exact ht
  | pair c t ih =>
    rw [escapes_pair, Bool.and_eq_true] at ht ⊢
    exact ⟨ht.1, ih ht.2⟩
  | char c t hc ih =>
    rw [escapes_char hc, Bool.and_eq_true] at ht ⊢
    exact ⟨h c ht.1, ih ht.2⟩

/-- Whether a text ends in a backslash that takes nothing along. -/
def dangles (t : Text) : Bool := !t.escapes (fun _ => true) (fun _ => true) false

@[simp] theorem dangles_nil : dangles [] = false := rfl

@[simp] theorem dangles_pair : dangles ('\\' :: c :: t) = dangles t := by
  simp [dangles]

theorem dangles_char (h : c ≠ '\\') : dangles (c :: t) = dangles t := by
  simp [dangles, escapes_char h]

/-- Of a text that does not dangle, no backslash reaches into what follows. -/
theorem dangles_append {s : Text} (h : s.dangles = false) (t : Text) : dangles (s ++ t) = dangles t := by
  induction s using pairInduction with
  | nil => rfl
  | dangling => cases h
  | pair c s ih => exact dangles_pair.trans (ih (dangles_pair.symm.trans h))
  | char c s hc ih => exact (dangles_char hc).trans (ih ((dangles_char hc).symm.trans h))

theorem escapes_false_iff :
    escapes alone taken false t = true ↔ escapes alone taken true t = true ∧ dangles t = false := by
  induction t using pairInduction with
  | nil => simp
  | dangling => simp [dangles]
  | pair c t ih => simp [ih, and_assoc]
  | char c t hc ih => simp [escapes_char hc, dangles_char hc, ih, and_assoc]

/-- The text with a backslash before the characters at some positions. -/
def escapeAt (marked : Nat → Bool) : Text → Text
  | [] => []
  | c :: t => (if marked 0 then ['\\', c] else [c]) ++ escapeAt (fun i => marked (i + 1)) t

theorem escapeAt_none (t : Text) : t.escapeAt (fun _ => false) = t := by
  induction t with
  | nil => rfl
  | cons c t ih => simp [escapeAt, ih]

end Text

end WrapShell
