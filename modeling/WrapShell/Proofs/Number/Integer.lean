import WrapShell.Number.Integer
/-!
# Decimal integers

Which texts are integers written in decimal digits, said without reading them (`IsDecimal`). These are
the texts that are read, as far as their integer lies in the range (`readInteger_eq_ok_iff`).
-/

namespace WrapShell

/-- A text writes an integer in decimal digits: at least one, and a sign in front or none. -/
inductive IsDecimal : Text → Int → Prop
  | bare {ds : Text} (some : ds ≠ []) (digits : ∀ c ∈ ds, c.isDigit) : IsDecimal ds (Nat.ofDigitChars 10 ds 0)
  | plus {ds : Text} (some : ds ≠ []) (digits : ∀ c ∈ ds, c.isDigit) : IsDecimal ('+' :: ds) (Nat.ofDigitChars 10 ds 0)
  | minus {ds : Text} (some : ds ≠ []) (digits : ∀ c ∈ ds, c.isDigit) :
    IsDecimal ('-' :: ds) (-(Nat.ofDigitChars 10 ds 0 : Int))

variable {range : IntegerRange} {negative : Bool} {t : Text} {n : Int} {v w : Nat} {c : Char}

/-! ## The usual form -/

theorem digits_ofNat (n : Nat) :
    Text.ofNat n ≠ [] ∧ (∀ c ∈ Text.ofNat n, c.isDigit) ∧ Nat.ofDigitChars 10 (Text.ofNat n) 0 = n :=
  ⟨Nat.toDigits_ne_nil, fun _ hc => Nat.isDigit_of_mem_toDigits (by decide) (by decide) hc,
    Nat.ofDigitChars_toDigits (by decide) (by decide)⟩

theorem ofInt_ne_nil (n : Int) : Text.ofInt n ≠ [] := by
  cases n with
  | ofNat n => exact (digits_ofNat n).1
  | negSucc n => exact List.cons_ne_nil _ _

theorem mem_ofInt (hc : c ∈ Text.ofInt n) : c.isDigit ∨ c = '-' := by
  cases n with
  | ofNat n => exact .inl ((digits_ofNat n).2.1 c hc)
  | negSucc n => exact (List.mem_cons.1 hc).symm.imp_left ((digits_ofNat (n + 1)).2.1 c)

theorem isDecimal_ofInt (n : Int) : IsDecimal (Text.ofInt n) n := by
  cases n with
  | ofNat n =>
    obtain ⟨hne, hdigits, hvalue⟩ := digits_ofNat n
    have := IsDecimal.bare hne hdigits
    rwa [hvalue] at this
  | negSucc n =>
    obtain ⟨hne, hdigits, hvalue⟩ := digits_ofNat (n + 1)
    have := IsDecimal.minus hne hdigits
    rwa [hvalue] at this

/-! ## Reading digits -/

theorem digitValue?_ten (c : Char) : digitValue? 10 c = if c.isDigit then some (c.toNat - '0'.toNat) else none := by
  rw [digitValue?]
  split
  · next h =>
    have hc : c.toNat ≤ 57 := by
      simp only [Char.isDigit, Bool.and_eq_true, decide_eq_true_eq] at h
      exact h.2
    rw [if_pos (by simp; omega)]
  · split
    · simp
    · split <;> simp

/-- The integer of a magnitude. -/
def withSign (negative : Bool) (v : Nat) : Int := if negative then -(v : Int) else v

theorem contains_withSign (hw : range.contains (withSign negative w)) (h : v ≤ w) : range.contains (withSign negative v) := by
  have hleast := range.least_le
  have hgreatest := range.le_greatest
  cases negative <;> simp [IntegerRange.contains, withSign] at hw ⊢ <;> omega

theorem le_ofDigitChars (t : Text) (v : Nat) : v ≤ Nat.ofDigitChars 10 t v := by
  rw [Nat.ofDigitChars_eq_ofDigitChars_zero]
  have := Nat.le_mul_of_pos_left v (Nat.pow_pos (n := t.length) (show 0 < 10 by decide))
  omega

/-- Digits go on from a value as they do in a number, as long as all of it stays in the range. -/
theorem addDigits_eq_ok_iff (hv : range.contains (withSign negative v)) :
    addDigits range 10 negative (withSign negative v) t = .ok n ↔
      (∀ c ∈ t, c.isDigit) ∧ n = withSign negative (Nat.ofDigitChars 10 t v) ∧ range.contains n := by
  induction t generalizing v with
  | nil =>
    rw [addDigits]
    constructor
    · rintro ⟨⟩
      exact ⟨by simp, rfl, hv⟩
    · rintro ⟨-, rfl, -⟩
      rfl
  | cons c t ih =>
    rw [addDigits, digitValue?_ten, List.forall_mem_cons, Nat.ofDigitChars_cons]
    by_cases hc : c.isDigit
    · rw [if_pos hc]
      have hnext (d : Nat) : ((10 : Nat) : Int) * withSign negative v + (if negative then -(d : Int) else d) =
          withSign negative (10 * v + d) := by
        cases negative with
        | false => simp [withSign]
        | true => simp only [withSign, if_true]; omega
      dsimp only
      rw [hnext]
      split
      · next hin => rw [ih hin]; simp [hc]
      · next hout =>
        refine iff_of_false (by simp) ?_
        rintro ⟨-, rfl, hin⟩
        exact hout (contains_withSign hin (le_ofDigitChars _ _))
    · rw [if_neg hc]
      exact iff_of_false (by simp) fun h => hc h.1.1

/-! ## Reading signs -/

theorem isDecimal_plus :
    IsDecimal ('+' :: t) n ↔ t ≠ [] ∧ (∀ c ∈ t, c.isDigit) ∧ n = withSign false (Nat.ofDigitChars 10 t 0) := by
  constructor
  · intro h
    cases h with
    | bare _ digits => exact absurd (digits '+' List.mem_cons_self) (by decide)
    | plus some digits => exact ⟨some, digits, rfl⟩
  · rintro ⟨some, digits, rfl⟩
    exact .plus some digits

theorem isDecimal_minus :
    IsDecimal ('-' :: t) n ↔ t ≠ [] ∧ (∀ c ∈ t, c.isDigit) ∧ n = withSign true (Nat.ofDigitChars 10 t 0) := by
  constructor
  · intro h
    cases h with
    | bare _ digits => exact absurd (digits '-' List.mem_cons_self) (by decide)
    | minus some digits => exact ⟨some, digits, rfl⟩
  · rintro ⟨some, digits, rfl⟩
    exact .minus some digits

theorem isDecimal_bare (hplus : t.head? ≠ some '+') (hminus : t.head? ≠ some '-') :
    IsDecimal t n ↔ t ≠ [] ∧ (∀ c ∈ t, c.isDigit) ∧ n = withSign false (Nat.ofDigitChars 10 t 0) := by
  constructor
  · intro h
    cases h with
    | bare some digits => exact ⟨some, digits, rfl⟩
    | plus => exact absurd rfl hplus
    | minus => exact absurd rfl hminus
  · rintro ⟨some, digits, rfl⟩
    exact .bare some digits

/-- The texts that are read are those that write an integer of the range. -/
theorem readInteger_eq_ok_iff (hleast : range.least < 0) :
    readInteger range 10 t = .ok n ↔ IsDecimal t n ∧ range.contains n := by
  have hadd (negative : Bool) (ds : Text) (hne : ds ≠ []) : addDigits range 10 negative 0 ds = .ok n ↔
      (ds ≠ [] ∧ (∀ c ∈ ds, c.isDigit) ∧ n = withSign negative (Nat.ofDigitChars 10 ds 0)) ∧ range.contains n := by
    have hzero : withSign negative 0 = 0 := by cases negative <;> rfl
    have hiff := @addDigits_eq_ok_iff range negative ds n 0
      (by simp [hzero, IntegerRange.contains, range.least_le, range.le_greatest])
    rw [hzero] at hiff
    rw [hiff, and_assoc, and_assoc]
    exact (and_iff_right hne).symm
  unfold readInteger
  split
  · exact iff_of_false (by simp) fun h => by cases h.1; contradiction
  · exact iff_of_false (by simp) fun h => (isDecimal_plus.1 h.1).1 rfl
  · exact iff_of_false (by simp) fun h => (isDecimal_minus.1 h.1).1 rfl
  · next ds hne => rw [isDecimal_plus, hadd false ds (by rintro rfl; exact hne rfl)]
  · next ds hne => rw [if_pos hleast, isDecimal_minus, hadd true ds (by rintro rfl; exact hne rfl)]
  · next hnil _ _ hplus hminus =>
    rw [isDecimal_bare, hadd false t hnil]
    · intro h
      obtain ⟨ds, rfl⟩ := List.head?_eq_some_iff.1 h
      exact hplus ds rfl
    · intro h
      obtain ⟨ds, rfl⟩ := List.head?_eq_some_iff.1 h
      exact hminus ds rfl

end WrapShell
