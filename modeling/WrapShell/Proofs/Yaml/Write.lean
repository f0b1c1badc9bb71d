import WrapShell.Yaml.Write
import Mathlib.Data.List.Chain
import Mathlib.Data.Nat.Digits.Defs
import Mathlib.Tactic.SplitIfs
/-!
# What is written of a string

How a string is written depends on its characters and on which of them stand next to each other
(`styleOf_eq_literal`, `styleOf_eq_singleQuoted`, `styleOf_eq_plain`). However it is written, the
file holds only characters that can be shown (`isShown_of_mem_writeString`); one that cannot is
an escape (`escapedAs_escapeChar`).
-/

namespace WrapShell.Yaml

variable {p q : Char → Bool} {s t : Text} {c : Char}

/-! ## Characters -/

theorem isAllowed_of_isShown (h : isShown c) : isAllowed c := by
  simp only [isShown, isAllowed, Bool.or_eq_true, Bool.and_eq_true, beq_iff_eq, decide_eq_true_eq] at h ⊢
  omega

/-- A character that cannot be shown is none of those that can. -/
theorem ne_of_isShown {d : Char} (h : isShown c) (hd : isShown d = false) : c ≠ d := by
  rintro rfl
  rw [h] at hd
  cases hd

theorem isSpace_of_isShown (h : isShown c) : isSpace c = (c == ' ') := by
  simp [isSpace, ne_of_isShown h (d := '\t') (by decide)]

/-- The line ends that can be shown stand for themselves. -/
theorem lineEnd_of_isShown (h : isShown c) : lineEnd c = c := by
  simp [lineEnd, ne_of_isShown h (d := '\r') (by decide), ne_of_isShown h (d := '\u0085') (by decide)]

/-! ## Pairs of characters -/

theorem hasPair_cons_cons {a b : Char} : hasPair p q (a :: b :: t) = ((p a && q b) || hasPair p q (b :: t)) := rfl

theorem hasPair_eq_false_iff : hasPair p q t = false ↔ t.IsChain fun a b => p a → q b = false := by
  induction t with
  | nil => simp [hasPair]
  | cons a t ih =>
    cases t with
    | nil => simp [hasPair]
    | cons b t =>
      rw [List.isChain_cons_cons, hasPair_cons_cons, ← ih]
      cases p a <;> simp

theorem needsEscapes_eq_false_iff :
    needsEscapes t = false ↔ (∀ c ∈ t, isShown c) ∧ t.IsChain fun a b => a = ' ' → isBreak b = false := by
  rw [needsEscapes, Bool.or_eq_false_iff, hasPair_eq_false_iff]
  simp

/-- A string without quotes starts with no special character, and a mark that is special in
front of a blank stands in front of another character. -/
theorem startsIndicator_eq_false (h : startsIndicator (c :: t) = false) :
    c ∉ specialStarts ∧ (c ∈ ['?', ':', '-'] → ∃ d ∈ t.head?, isSpace d = false ∧ isBreak d = false) := by
  simp only [startsIndicator, Bool.or_eq_false_iff, Bool.and_eq_false_imp] at h
  obtain ⟨⟨⟨hspecial, hgap⟩, _⟩, _⟩ := h
  refine ⟨by simpa using hspecial, fun hc => ?_⟩
  have hnext := hgap (by simpa using hc)
  cases t with
  | nil => cases hnext
  | cons d t =>
    simp only [isGap, List.head?_cons, Bool.or_eq_false_iff] at hnext
    exact ⟨d, rfl, hnext.1⟩

/-! ## Styles -/

theorem styleOf_ne_folded : styleOf t ≠ .folded := by
  rw [styleOf]
  split_ifs <;> simp

/-- A literal block has more than one line, all of it can be shown, and no line ends in a space. -/
theorem styleOf_eq_literal (h : styleOf t = .literal) :
    '\n' ∈ t ∧ t.getLast? ≠ some ' ' ∧ (∀ c ∈ t, isShown c) ∧ t.IsChain fun a b => a = ' ' → isBreak b = false := by
  rw [styleOf] at h
  split_ifs at h with hn hl
  rw [Bool.or_eq_true, not_or, Bool.not_eq_true (needsEscapes t), needsEscapes_eq_false_iff] at hl
  exact ⟨by simpa using hn, by simpa using hl.1, hl.2⟩

/-- What is in single quotes can be shown and has no newline; no space is next to another line
end. -/
theorem styleOf_eq_singleQuoted (h : styleOf t = .singleQuoted) :
    '\n' ∉ t ∧ (∀ c ∈ t, isShown c) ∧ (t.IsChain fun a b => a = ' ' → isBreak b = false) ∧
      t.IsChain fun a b => isBreak a → b ≠ ' ' := by
  rw [styleOf] at h
  split_ifs at h with hn _ hb
  rw [Bool.or_eq_true, not_or, Bool.not_eq_true, Bool.not_eq_true, needsEscapes_eq_false_iff,
    hasPair_eq_false_iff] at hb
  exact ⟨by simpa using hn, hb.1.1, hb.1.2, by simpa using hb.2⟩

/-- Without quotes stands a line of words with nothing that starts a comment or a key. -/
theorem styleOf_eq_plain (h : styleOf t = .plain) :
    t ≠ [] ∧ (∀ c ∈ t, isShown c ∧ isBreak c = false) ∧ t.head? ≠ some ' ' ∧ t.getLast? ≠ some ' ' ∧
      startsIndicator t = false ∧ hasIndicator t = false := by
  rw [styleOf] at h
  split_ifs at h with hn _ hb halone
  rw [Bool.or_eq_true, not_or, Bool.not_eq_true, Bool.not_eq_true, needsEscapes_eq_false_iff] at hb
  simp only [standsAlone, Bool.and_eq_true, Bool.not_eq_true', Bool.or_eq_false_iff, List.any_eq_false] at halone
  obtain ⟨⟨⟨⟨⟨⟨hnamed, _⟩, hbreak⟩, hhead⟩, hlast⟩, hstart⟩, hind⟩ := halone
  refine ⟨?_, fun c hc => ⟨hb.1.1 c hc, by simpa using hbreak c hc⟩, by simpa using hhead.1,
    by simpa using hlast.1, hstart, hind⟩
  rintro rfl
  exact absurd hnamed (by decide)

/-! ## Escapes -/

/-- The digits that the writer uses are those that the reader knows. -/
theorem upper_digitChar : ∀ d < 16,
    digitValue? 16 (Nat.digitChar d).toUpper = some d ∧ isShown (Nat.digitChar d).toUpper ∧
      isBreak (Nat.digitChar d).toUpper = false := by
  decide

theorem hexValue?_concat (t : Text) (c : Char) :
    hexValue? (t ++ [c]) = (hexValue? t).bind fun n => (digitValue? 16 c).map (16 * n + ·) := by
  simp [hexValue?]

theorem hexValue?_zeros (k : Nat) (t : Text) : hexValue? (List.replicate k '0' ++ t) = hexValue? t := by
  induction k with
  | zero => rfl
  | succ k ih => exact ih

theorem hexValue?_toDigits (n : Nat) : hexValue? ((Nat.toDigits 16 n).map Char.toUpper) = some n := by
  induction n using Nat.strong_induction_on with
  | _ n ih =>
    rw [Nat.toDigits_eq_if (by decide)]
    split
    · next h => simp [hexValue?, (upper_digitChar n h).1]
    · next h =>
      have hlast := (upper_digitChar (n % 16) (Nat.mod_lt _ (by decide))).1
      rw [List.map_append, List.map_singleton, hexValue?_concat, ih (n / 16) (by omega), Option.bind_some,
        hlast, Option.map_some, Nat.div_add_mod]

theorem hexValue?_hexDigits (width n : Nat) : hexValue? (hexDigits width n) = some n :=
  (hexValue?_zeros _ _).trans (hexValue?_toDigits n)

theorem length_hexDigits {width n : Nat} (hwidth : 0 < width) (h : n < 16 ^ width) :
    (hexDigits width n).length = width := by
  have := Nat.toDigits_length 16 n width hwidth h
  simp only [hexDigits, List.length_append, List.length_replicate, List.length_map]
  omega

theorem mem_hexDigits {width n : Nat} (h : c ∈ hexDigits width n) : isShown c ∧ isBreak c = false := by
  have digits (n : Nat) : ∀ c ∈ (Nat.toDigits 16 n).map Char.toUpper, isShown c ∧ isBreak c = false := by
    induction n using Nat.strong_induction_on with
    | _ n ih =>
      intro c hc
      rw [Nat.toDigits_eq_if (by decide)] at hc
      split at hc
      · next h =>
        obtain rfl : c = (Nat.digitChar n).toUpper := by simpa using hc
        exact (upper_digitChar n h).2
      · next h =>
        rw [List.map_append, List.mem_append, List.map_singleton, List.mem_singleton] at hc
        rcases hc with hc | rfl
        · exact ih (n / 16) (by omega) c hc
        · exact (upper_digitChar _ (Nat.mod_lt _ (by decide))).2
  rcases List.mem_append.1 h with h | h
  · rw [List.eq_of_mem_replicate h]
    decide
  · exact digits n c h

/-- The ways in which a character stands between double quotes. -/
inductive EscapedAs (c : Char) : Text → Prop where
  | self (hshown : isShown c) (hbreak : isBreak c = false) (hquote : c ≠ '"') (hslash : c ≠ '\\') : EscapedAs c [c]
  | letter (e : Char) (he : simpleEscape? e = some c) (hbreak : isBreak e = false) (hshown : isShown e) :
    EscapedAs c ['\\', e]
  | code (e : Char) (digits : Text) (he : codeLength? e = some digits.length)
    (hvalue : hexValue? digits = some c.toNat) (hdigits : ∀ d ∈ digits, isShown d ∧ isBreak d = false) :
    EscapedAs c ('\\' :: e :: digits)

theorem letter_of_lookup {e : Char} (h : escapeLetters.lookup c = some e) :
    simpleEscape? e = some c ∧ isBreak e = false ∧ isShown e := by
  have letters : ∀ p ∈ escapeLetters, simpleEscape? p.2 = some p.1 ∧ isBreak p.2 = false ∧ isShown p.2 := by decide
  obtain ⟨before, after, hsplit, _⟩ := List.lookup_eq_some_iff.1 h
  exact letters (c, e) (by simp [hsplit])

theorem escapedAs_escapeChar (c : Char) : EscapedAs c (escapeChar c) := by
  have code (e : Char) (width : Nat) (hwidth : 0 < width) (he : codeLength? e = some width)
      (h : c.toNat < 16 ^ width) : EscapedAs c ('\\' :: e :: hexDigits width c.toNat) := by
    refine .code e _ ?_ (hexValue?_hexDigits _ _) fun d => mem_hexDigits
    rw [length_hexDigits hwidth h, he]
  rw [escapeChar]
  split
  · next h =>
    simp only [Bool.and_eq_true, Bool.not_eq_true', bne_iff_ne] at h
    exact .self h.1.1.1 h.1.1.2 h.1.2 h.2
  · cases hletter : escapeLetters.lookup c with
    | some e => exact .letter e (letter_of_lookup hletter).1 (letter_of_lookup hletter).2.1 (letter_of_lookup hletter).2.2
    | none =>
      have hmax : c.toNat < 0x110000 := by
        rcases c.valid with h | h
        · exact Nat.lt_trans h (by decide)
        · exact h.2
      dsimp only
      split
      · exact code 'x' 2 (by decide) rfl (by omega)
      · split
        · exact code 'u' 4 (by decide) rfl (by omega)
        · exact code 'U' 8 (by decide) rfl (by omega)

/-- A letter with digits behind it stands for no character by itself. -/
theorem simpleEscape?_of_codeLength? {e : Char} {n : Nat} (h : codeLength? e = some n) :
    simpleEscape? e = none ∧ isBreak e = false ∧ isShown e := by
  rw [codeLength?.eq_def] at h
  split at h
  · decide
  · decide
  · decide
  · cases h

/-- An escape stays on its line. -/
theorem mem_of_escapedAs (h : EscapedAs c t) : ∀ d ∈ t, isShown d ∧ isBreak d = false := by
  have slash : isShown '\\' ∧ isBreak '\\' = false := by decide
  intro d hd
  cases h with
  | self hshown hbreak =>
    rw [List.mem_singleton.1 hd]
    exact ⟨hshown, hbreak⟩
  | letter e _ hbreak hshown =>
    rcases List.mem_cons.1 hd with rfl | hd
    · exact slash
    · rw [List.mem_singleton.1 hd]
      exact ⟨hshown, hbreak⟩
  | code e digits he _ hdigits =>
    obtain ⟨_, hbreak, hshown⟩ := simpleEscape?_of_codeLength? he
    rcases List.mem_cons.1 hd with rfl | hd
    · exact slash
    · rcases List.mem_cons.1 hd with rfl | hd
      · exact ⟨hshown, hbreak⟩
      · exact hdigits d hd

theorem length_le_escaped (s : Text) : s.length ≤ (s.flatMap escapeChar).length := by
  induction s with
  | nil => exact Nat.zero_le _
  | cons c s ih =>
    have pos {w : Text} (h : EscapedAs c w) : 0 < w.length := by cases h <;> simp
    have := pos (escapedAs_escapeChar c)
    rw [List.flatMap_cons, List.length_append, List.length_cons]
    omega

/-! ## The written text -/

theorem mem_indentLines {indent : Text} {fresh : Bool} (h : c ∈ indentLines indent fresh t) : c ∈ indent ∨ c ∈ t := by
  induction t generalizing fresh with
  | nil => cases h
  | cons a t ih =>
    rw [indentLines] at h
    split at h
    · rcases List.mem_cons.1 h with rfl | h
      · exact .inr List.mem_cons_self
      · exact (ih h).imp_right (List.mem_cons_of_mem a)
    · rcases List.mem_append.1 h with h | h
      · split at h
        · exact .inl h
        · cases h
      · rcases List.mem_cons.1 h with rfl | h
        · exact .inr List.mem_cons_self
        · exact (ih h).imp_right (List.mem_cons_of_mem a)

theorem isShown_of_mem_blockHeader (h : c ∈ blockHeader t) : isShown c := by
  have marks (chomp : Chomp) : ∀ c ∈ chomp.mark, isShown c := by cases chomp <;> exact List.all_eq_true.1 (by decide)
  rw [blockHeader, List.cons_append, List.mem_cons, List.mem_append] at h
  rcases h with rfl | h | h
  · decide
  · split at h
    · rw [List.mem_singleton.1 h]
      decide
    · cases h
  · exact marks _ c h

/-- Everything that is written can be shown. -/
theorem isShown_of_mem_writeString {indent : Text} (hindent : ∀ c ∈ indent, isShown c)
    (h : c ∈ writeString indent t) : isShown c := by
  have lines {fresh : Bool} {u : Text} (hu : ∀ c ∈ u, isShown c) : ∀ c ∈ indentLines indent fresh u, isShown c :=
    fun c hc => (mem_indentLines hc).elim (hindent c) (hu c)
  have newline : isShown '\n' := by decide
  have quotes : isShown '\'' ∧ isShown '"' := by decide
  unfold writeString at h
  cases hstyle : styleOf t with
  | folded => exact absurd hstyle styleOf_ne_folded
  | plain =>
    obtain ⟨_, hshown, _⟩ := styleOf_eq_plain hstyle
    rw [hstyle] at h
    rcases List.mem_append.1 h with h | h
    · exact (hshown c h).1
    · rwa [List.mem_singleton.1 h]
  | literal =>
    obtain ⟨_, _, hshown, _⟩ := styleOf_eq_literal hstyle
    rw [hstyle] at h
    simp only [List.mem_append, List.mem_cons] at h
    rcases h with (h | rfl | h) | h
    · exact isShown_of_mem_blockHeader h
    · exact newline
    · exact lines hshown c h
    · split at h
      · cases h
      · rwa [List.mem_singleton.1 h]
  | doubleQuoted =>
    rw [hstyle] at h
    simp only [List.cons_append, List.mem_cons, List.mem_append, List.mem_flatMap, List.not_mem_nil, or_false] at h
    rcases h with rfl | ⟨a, _, h⟩ | rfl | rfl
    · exact quotes.2
    · exact (mem_of_escapedAs (escapedAs_escapeChar a) c h).1
    · exact quotes.2
    · exact newline
  | singleQuoted =>
    obtain ⟨_, hshown, _, _⟩ := styleOf_eq_singleQuoted hstyle
    rw [hstyle] at h
    simp only [List.cons_append, List.mem_cons, List.mem_append, List.not_mem_nil, or_false] at h
    rcases h with rfl | (h | h) | rfl | rfl
    · exact quotes.1
    · refine lines (fun d hd => ?_) c h
      obtain ⟨a, ha, hd⟩ := List.mem_flatMap.1 hd
      split at hd
      · simp only [List.mem_cons, List.not_mem_nil, or_false, or_self] at hd
        rw [hd]
        exact quotes.1
      · rw [List.mem_singleton.1 hd]
        exact hshown a ha
    · split at h
      · exact hindent c h
      · cases h
    · exact quotes.1
    · exact newline

end WrapShell.Yaml
