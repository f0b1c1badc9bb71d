import WrapShell.Text.Utf8
/-!
# The order of texts

Code point order is the order of the bytes of the UTF-8 form (`utf8_lt`).
-/

namespace WrapShell

namespace Text

theorem lex_cons {a b : UInt8} {s t : Bytes} :
    List.Lex (· < ·) (a :: s) (b :: t) ↔ a.toNat < b.toNat ∨ (a.toNat = b.toNat ∧ List.Lex (· < ·) s t) := by
  rw [List.cons_lex_cons_iff, UInt8.lt_iff_toNat_lt, UInt8.toNat_inj]

/-- The bytes of the lesser character are less, whatever follows. -/
theorem utf8EncodeChar_lt {c d : Char} (h : c.toNat < d.toNat) (s t : Bytes) :
    List.Lex (· < ·) (String.utf8EncodeChar c ++ s) (String.utf8EncodeChar d ++ t) := by
  have hd : d.val.toNat < 0x110000 := by
    have := d.valid
    simp only [UInt32.isValidChar, Nat.isValidChar] at this
    omega
  change c.val.toNat < d.val.toNat at h
  simp only [String.utf8EncodeChar]
  generalize c.val.toNat = m at h ⊢
  generalize d.val.toNat = n at h hd ⊢
  -- six bits go into each byte, so the next ones are found by dividing on
  have nested (k : Nat) : k / 4096 = k / 64 / 64 ∧ k / 262144 = k / 64 / 64 / 64 := by omega
  rw [(nested m).1, (nested m).2, (nested n).1, (nested n).2]
  repeat' split
  all_goals
    simp only [List.cons_append, List.nil_append, lex_cons, UInt8.toNat_ofNat']
    omega

theorem utf8_lt {s t : Text} (h : s < t) : utf8 s < utf8 t := by
  induction h with
  | @nil d t =>
    obtain ⟨b, bs, e⟩ := List.exists_cons_of_ne_nil (@String.utf8EncodeChar_ne_nil d)
    rw [utf8, utf8, List.flatMap_cons, e]
    exact .nil
  | rel h => exact utf8EncodeChar_lt h _ _
  | cons _ ih => exact List.append_left_lt ih

end Text

end WrapShell
