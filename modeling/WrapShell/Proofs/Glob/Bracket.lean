import Mathlib.Data.Char
import WrapShell.Proofs.Glob.Word
/-!
# What comes of a bracket

The class that a bracket is written as stands for what its rearranged members stand for. Whether
these are the characters the bracket was typed for is a finite question (`faithful_iff`), and no
question if nothing moves past a live `-` or in front of a live `!` (`IsSettled.faithful`).
-/

namespace WrapShell

namespace Bracket

open BracketMember

/-! ## Members that stay and members that leave -/

/-- The characters of the members that stay, in order. -/
def kept (lead : Bool) (ms : List BracketMember) : Text := ((marked lead ms).filter (!·.2)).map (·.1.char)

/-- The characters of the members that leave their places. -/
def moved (lead : Bool) (ms : List BracketMember) : Text := ((marked lead ms).filter (·.2)).map (·.1.char)

variable {lead : Bool} {m : BracketMember} {ms : List BracketMember} {b : Bracket} {c : Char}

theorem kept_stays (h : m.moves lead = false) : kept lead (m :: ms) = m.char :: kept false ms := by
  simp [kept, marked, h]

theorem kept_leaves (h : m.moves lead) : kept lead (m :: ms) = kept lead ms := by
  simp [kept, marked, h]

theorem moved_stays (h : m.moves lead = false) : moved lead (m :: ms) = moved false ms := by
  simp [moved, marked, h]

theorem moved_leaves (h : m.moves lead) : moved lead (m :: ms) = m.char :: moved lead ms := by
  simp [moved, marked, h]

theorem add_stays {p : Parts} (h : m.moves p.body.isEmpty = false) : p.add m = { p with body := p.body ++ [m.char] } := by
  cases m with
  | live c => rfl
  | escaped c =>
    simp only [moves, Bool.or_eq_false_iff, decide_eq_false_iff_not] at h
    simp [Parts.add, h, char]

theorem add_leaves {p : Parts} (h : m.moves p.body.isEmpty) :
    p.add m = ⟨p.close || ']' == m.char, p.bang || '!' == m.char, p.dash || '-' == m.char, p.body⟩ := by
  cases m with
  | live c => cases h
  | escaped c =>
    simp only [moves, Bool.or_eq_true, decide_eq_true_eq, Bool.and_eq_true] at h
    rcases h with (rfl | rfl) | ⟨rfl, h⟩
    · simp [Parts.add, char]
    · simp [Parts.add, char]
    · simp [Parts.add, char, h]

theorem map_marked (lead : Bool) (ms : List BracketMember) : (marked lead ms).map (·.1.char) = ms.map BracketMember.char := by
  induction ms generalizing lead with
  | nil => rfl
  | cons m ms ih => simp [marked, ih]

theorem kept_sublist (lead : Bool) (ms : List BracketMember) : (kept lead ms).Sublist (ms.map BracketMember.char) :=
  map_marked lead ms ▸ List.filter_sublist.map _

theorem moved_sublist (lead : Bool) (ms : List BracketMember) : (moved lead ms).Sublist (ms.map BracketMember.char) :=
  map_marked lead ms ▸ List.filter_sublist.map _

theorem foldl_add (p : Parts) (ms : List BracketMember) :
    ms.foldl Parts.add p =
      ⟨p.close || (moved p.body.isEmpty ms).contains ']', p.bang || (moved p.body.isEmpty ms).contains '!',
        p.dash || (moved p.body.isEmpty ms).contains '-', p.body ++ kept p.body.isEmpty ms⟩ := by
  induction ms generalizing p with
  | nil => simp [moved, kept, marked]
  | cons m ms ih =>
    rw [List.foldl_cons, ih]
    cases hm : m.moves p.body.isEmpty with
    | true =>
      rw [add_leaves hm, moved_leaves hm, kept_leaves hm]
      simp only [List.contains_cons, Bool.or_assoc]
    | false =>
      -- from here on the body is not empty, and a `!` stays
      have hb : (p.body ++ [m.char]).isEmpty = false := by simp
      rw [add_stays hm, moved_stays hm, kept_stays hm]
      simp only [hb]
      simp

theorem parts_eq (b : Bracket) :
    b.parts = ⟨(moved true b.members).contains ']', (moved true b.members).contains '!',
      (moved true b.members).contains '-', kept true b.members⟩ := by
  rw [parts, foldl_add]; rfl

theorem mem_moved (h : c ∈ moved lead ms) : c = ']' ∨ c = '!' ∨ c = '-' := by
  induction ms generalizing lead with
  | nil => cases h
  | cons m ms ih =>
    cases hm : m.moves lead with
    | false => rw [moved_stays hm] at h; exact ih h
    | true =>
      rw [moved_leaves hm, List.mem_cons] at h
      rcases h with rfl | h
      · cases m with
        | live d => cases hm
        | escaped d =>
          simp only [moves, Bool.or_eq_true, Bool.and_eq_true, decide_eq_true_eq] at hm
          rcases hm with (rfl | rfl) | ⟨rfl, -⟩ <;> simp [char]
      · exact ih h

theorem mem_kept (h : c ∈ kept lead ms) : .live c ∈ ms ∨ c ≠ ']' ∧ c ≠ '-' := by
  induction ms generalizing lead with
  | nil => cases h
  | cons m ms ih =>
    cases hm : m.moves lead with
    | true => rw [kept_leaves hm] at h; exact (ih h).imp_left (List.mem_cons_of_mem _)
    | false =>
      rw [kept_stays hm, List.mem_cons] at h
      rcases h with rfl | h
      · cases m with
        | live d => simp [char]
        | escaped d => simp_all [moves, char]
      · exact (ih h).imp_left (List.mem_cons_of_mem _)

/-- A `!` that stands in front without anything having moved was typed there. -/
theorem head_kept (h : (kept true ms).head? = some '!') (hm : moved true ms = []) : ms.head? = some (.live '!') := by
  cases ms with
  | nil => cases h
  | cons m ms =>
    cases hl : m.moves true with
    | true => rw [moved_leaves hl] at hm; cases hm
    | false =>
      rw [kept_stays hl] at h
      cases m with
      | live d => cases h; rfl
      | escaped d => cases h; cases hl

/-! ## The class that is written -/

theorem IsTyped.body_head (h : b.IsTyped) (hn : b.negated = false) (hb : b.parts.body.head? = some '!') :
    b.parts.close ∨ b.parts.bang ∨ b.parts.dash := by
  rw [parts_eq] at hb ⊢
  simp only [List.contains_iff_mem]
  cases e : moved true b.members with
  | nil => exact absurd rfl (h.unsigned hn _ (head_kept hb e)).1
  | cons c cs =>
    rcases mem_moved (e ▸ List.mem_cons_self : c ∈ moved true b.members) with rfl | rfl | rfl <;> simp

theorem write_eq (h : b.IsTyped) :
    b.write = if b.negated = false ∧ b.sorted = ['!'] then ['!']
      else '[' :: ((if b.negated then ['!'] else []) ++ b.sorted ++ [']']) := by
  have hb := h.body_head
  -- what is written depends on nothing but the four parts and the sign
  rw [write, sorted]
  generalize b.parts = p at hb ⊢
  generalize b.negated = negated at hb ⊢
  obtain ⟨close, bang, dash, body⟩ := p
  cases negated <;> cases close <;> cases bang <;> cases dash <;> cases body <;> simp_all

theorem IsTyped.not_mem_body (h : b.IsTyped) : ']' ∉ b.parts.body := by
  rw [parts_eq]
  intro hc
  rcases mem_kept hc with hc | hc
  · exact (h.plain _ hc).1 rfl
  · exact hc.1 rfl

theorem IsTyped.body_or (h : b.IsTyped) :
    b.parts.body ≠ [] ∨ b.parts.close ∨ b.parts.bang ∨ b.parts.dash := by
  rw [parts_eq]
  simp only [List.contains_iff_mem]
  obtain ⟨m, ms, e⟩ := List.exists_cons_of_ne_nil h.nonempty
  rw [e]
  cases hm : m.moves true with
  | false => exact .inl (by simp [kept_stays hm])
  | true =>
    rw [moved_leaves hm]
    rcases mem_moved (moved_leaves hm ▸ List.mem_cons_self : m.char ∈ moved true (m :: ms)) with hc | hc | hc <;> simp [hc]

/-- Between the brackets there is something, and a `]` only in front. -/
theorem IsTyped.sorted_cons (h : b.IsTyped) : ∃ c t, b.sorted = c :: t ∧ ']' ∉ t := by
  have hb := h.not_mem_body
  have hne := h.body_or
  rw [sorted]
  generalize b.parts = p at hb hne ⊢
  obtain ⟨close, bang, dash, body⟩ := p
  cases close <;> cases body <;> cases bang <;> cases dash <;> cases b.negated <;> simp_all

theorem splitClass_of_not_mem {t : Text} (h : ']' ∉ t) (rest : Text) :
    Pattern.splitClass (t ++ ']' :: rest) = some (t, rest) := by
  induction t with
  | nil => rfl
  | cons c t ih =>
    rw [List.mem_cons, not_or] at h
    simp [Pattern.splitClass, Ne.symm h.1, ih h.2]

theorem listed_live (t : Text) : listed (t.map .live) = Pattern.readMembers t := by
  fun_induction Pattern.readMembers t with
  | case1 lo hi t ih => simp [listed, char, ih]
  | case2 c t h ih =>
    rw [List.map_cons, listed, ih]
    · rfl
    · intro hi ms e
      cases t with
      | nil => cases e
      | cons d t =>
        cases t with
        | nil => cases e
        | cons d' t => cases e; exact h d' t rfl
  | case3 => rfl

/-- What follows the `[` of a written bracket is read as its class. -/
theorem IsTyped.readClass (h : b.IsTyped) (hw : ¬(b.negated = false ∧ b.sorted = ['!'])) (rest : Text) :
    Pattern.readClass ((if b.negated then ['!'] else []) ++ b.sorted ++ ']' :: rest) =
      some (WordPiece.classToken b, rest) := by
  obtain ⟨c, t, e, ht⟩ := h.sorted_cons
  have split := splitClass_of_not_mem ht rest
  rw [WordPiece.classToken, if_neg hw, rearranged]
  cases hn : b.negated with
  | true => simp [e, Pattern.readClass, split, ← listed_live]
  | false =>
    by_cases hc : c = '!'
    · subst hc
      cases t with
      | nil => exact absurd ⟨hn, e⟩ hw
      | cons d t =>
        rw [List.mem_cons, not_or] at ht
        simp [e, Pattern.readClass, splitClass_of_not_mem ht.2, ← listed_live]
    · simp [e, Pattern.readClass, hc, split, ← listed_live]

theorem describes_classToken (b : Bracket) (c : Char) :
    Pattern.describes [WordPiece.classToken b] [c] = b.rearranged.has c := by
  rw [WordPiece.classToken]
  split
  · next h => simp [Pattern.describes, rearranged, h.1, h.2, has, listed, Pattern.Member.has, char]
  · cases h : b.rearranged.negated <;> simp [Pattern.describes, has, h]

/-! ## Landmarks -/

theorem succ?_le {c d : Char} (h : c < d) : ∃ e, c.succ? = some e ∧ c < e ∧ e ≤ d := by
  have h' := Char.lt_iff_ordinal_lt.1 h
  have hn : c.ordinal.val + 1 < Char.numCodePoints := by have := d.ordinal.isLt; omega
  refine ⟨.ofOrdinal ⟨c.ordinal + 1, hn⟩, by rw [Char.succ?_eq, Fin.addNat?_eq_some hn, Option.map_some], ?_, ?_⟩
  · rw [Char.lt_iff_ordinal_lt, Char.ordinal_ofOrdinal, Fin.lt_def]
    exact Nat.lt_succ_self _
  · rw [Char.le_iff_ordinal_le, Char.ordinal_ofOrdinal, Fin.le_def]
    exact h'

theorem greatest_le {l : List Char} {c : Char} (h : ∃ d ∈ l, d ≤ c) : ∃ d ∈ l, d ≤ c ∧ ∀ e ∈ l, e ≤ c → e ≤ d := by
  induction l with
  | nil => simp at h
  | cons a l ih =>
    by_cases hl : ∃ d ∈ l, d ≤ c
    · obtain ⟨d, hd, hdc, hmax⟩ := ih hl
      by_cases ha : a ≤ c ∧ d ≤ a
      · refine ⟨a, by simp, ha.1, List.forall_mem_cons.2 ⟨fun _ => le_refl a, fun e he hec => ?_⟩⟩
        exact (hmax e he hec).trans ha.2
      · refine ⟨d, by simp [hd], hdc, List.forall_mem_cons.2 ⟨fun hac => ?_, hmax⟩⟩
        exact (lt_of_not_ge fun hda => ha ⟨hac, hda⟩).le
    · obtain ⟨d, hd, hdc⟩ := h
      rcases List.mem_cons.1 hd with rfl | hd
      · exact ⟨d, by simp, hdc, List.forall_mem_cons.2 ⟨fun _ => le_refl d, fun e he hec => absurd ⟨e, he, hec⟩ hl⟩⟩
      · exact absurd ⟨d, hd, hdc⟩ hl

/-- Two characters on the same side of every member. -/
def SameSide (chars : List Char) (c d : Char) : Prop := ∀ x ∈ chars, (x ≤ c ↔ x ≤ d) ∧ (c ≤ x ↔ d ≤ x)

theorem exists_landmark (b : Bracket) (c : Char) :
    ∃ d ∈ b.landmarks, SameSide (b.members.map BracketMember.char) c d := by
  obtain ⟨d, hd, hdc, hmax⟩ := @greatest_le b.landmarks c ⟨'\x00', by simp [landmarks], by simp [Char.le_def]⟩
  refine ⟨d, hd, fun x hx => ?_⟩
  obtain ⟨m, hm, rfl⟩ := List.mem_map.1 hx
  refine ⟨⟨hmax _ ?_, (·.trans hdc)⟩, hdc.trans, fun hdm => ?_⟩
  · exact List.mem_cons_of_mem _ (List.mem_flatMap.2 ⟨m, hm, by simp⟩)
  · -- the successor of a member below `c` is a landmark, so `d` does not lie before it
    by_contra hlt
    obtain ⟨e, he, hme, hec⟩ := succ?_le (lt_of_not_ge hlt)
    have hed := hmax e (List.mem_cons_of_mem _ (List.mem_flatMap.2 ⟨m, hm, by simp [he]⟩)) hec
    exact absurd (hed.trans hdm) hme.not_ge

theorem has_one_congr {x c d : Char} (h : SameSide [x] c d) : (Pattern.Member.one x).has c = (Pattern.Member.one x).has d := by
  obtain ⟨h₁, h₂⟩ := h x (by simp)
  rw [Bool.eq_iff_iff]
  simp only [Pattern.Member.has, beq_iff_eq]
  rw [le_antisymm_iff, le_antisymm_iff, h₁, h₂]

theorem has_range_congr {lo hi c d : Char} (h : SameSide [lo, hi] c d) :
    (Pattern.Member.range lo hi).has c = (Pattern.Member.range lo hi).has d := by
  have h₁ := (h lo (by simp)).1
  have h₂ := (h hi (by simp)).2
  rw [Char.le_def, Char.le_def, UInt32.le_iff_toNat_le, UInt32.le_iff_toNat_le] at h₁ h₂
  rw [Bool.eq_iff_iff]
  simpa [Pattern.Member.has] using and_congr h₁ h₂

theorem any_listed_congr {c d : Char} (h : SameSide (ms.map BracketMember.char) c d) :
    (listed ms).any (·.has c) = (listed ms).any (·.has d) := by
  fun_induction listed ms with
  | case1 lo hi ms ih =>
    rw [List.any_cons, List.any_cons, ih fun x hx => h x (by simp_all),
      has_range_congr fun x hx => h x (by simp at hx; rcases hx with rfl | rfl <;> simp)]
  | case2 m ms _ ih =>
    rw [List.any_cons, List.any_cons, ih fun x hx => h x (by simp_all), has_one_congr fun x hx => h x (by simp_all)]
  | case3 => rfl

theorem mem_sorted_iff : c ∈ b.sorted ↔
    c ∈ b.parts.body ∨ (b.parts.close ∧ c = ']') ∨ (b.parts.bang ∧ c = '!') ∨ (b.parts.dash ∧ c = '-') := by
  rw [sorted]
  generalize b.parts = p
  obtain ⟨close, bang, dash, body⟩ := p
  cases b.negated <;> cases close <;> cases bang <;> cases dash <;> cases body <;> simp <;> grind

theorem mem_moved_iff : c ∈ moved true b.members ↔
    (b.parts.close ∧ c = ']') ∨ (b.parts.bang ∧ c = '!') ∨ (b.parts.dash ∧ c = '-') := by
  simp only [parts_eq, List.contains_iff_mem]
  constructor
  · intro h
    rcases mem_moved h with rfl | rfl | rfl <;> simp [h]
  · rintro (⟨h, rfl⟩ | ⟨h, rfl⟩ | ⟨h, rfl⟩) <;> exact h

theorem mem_sorted (h : c ∈ b.sorted) : c ∈ b.members.map BracketMember.char := by
  rw [mem_sorted_iff, ← mem_moved_iff] at h
  rcases h with h | h
  · rw [parts_eq] at h
    exact (kept_sublist _ _).mem h
  · exact (moved_sublist _ _).mem h

/-- The members that come out are among those that went in. -/
theorem char_of_mem_rearranged (h : m ∈ b.rearranged.members) : m.char ∈ b.members.map BracketMember.char := by
  refine mem_sorted ?_
  rw [rearranged] at h
  split at h
  · next e =>
    rw [e]
    obtain ⟨c, hc, rfl⟩ := List.mem_map.1 h
    exact List.mem_cons_of_mem _ hc
  · obtain ⟨c, hc, rfl⟩ := List.mem_map.1 h
    exact hc

theorem faithful_iff (b : Bracket) : b.Faithful ↔ ∀ c, b.rearranged.has c = b.has c := by
  refine ⟨fun h c => ?_, fun h c _ => h c⟩
  obtain ⟨d, hd, hs⟩ := b.exists_landmark c
  have hb : b.has c = b.has d := by rw [has, has, any_listed_congr hs]
  have hr : b.rearranged.has c = b.rearranged.has d := by
    rw [has, has, any_listed_congr fun x hx => ?_]
    obtain ⟨m, hm, rfl⟩ := List.mem_map.1 hx
    exact hs _ (char_of_mem_rearranged hm)
  rw [hb, hr, h d hd]

/-! ## Settled brackets -/

theorem readMembers_one {t : Text} (h : ∀ hi u, t ≠ '-' :: hi :: u) :
    Pattern.readMembers (c :: t) = .one c :: Pattern.readMembers t := by
  rw [Pattern.readMembers]
  intro hi u e
  exact h hi u e

/-- The only members that stay and are a `-` are live ones. -/
theorem eq_live_dash (hm : m.moves lead = false) (hc : m.char = '-') : m = .live '-' := by
  cases m with
  | live d => cases hc; rfl
  | escaped d => cases hc; cases hm

theorem head_kept_apart {p : BracketMember × Bool} (h : (p :: marked lead ms).IsChain Apart) (hp : p.2) :
    (kept lead ms).head? ≠ some '-' := by
  induction ms generalizing lead p with
  | nil => simp [kept, marked]
  | cons m ms ih =>
    rw [marked, List.isChain_cons_cons] at h
    cases hm : m.moves lead with
    | true =>
      rw [hm, Bool.and_true] at h
      rw [kept_leaves hm]
      exact ih h.2 rfl
    | false =>
      rw [kept_stays hm]
      intro e
      exact h.1.2 ⟨hp, eq_live_dash hm (by simpa using e)⟩

/-- What has moved takes no part in a range. -/
theorem any_listed_apart (c : Char) (h : (marked lead ms).IsChain Apart) :
    (listed ms).any (·.has c) = ((Pattern.readMembers (kept lead ms)).any (·.has c) || (moved lead ms).contains c) := by
  fun_induction listed ms generalizing lead with
  | case1 lo hi ms ih =>
    simp only [marked, List.isChain_cons_cons] at h
    -- both ends of a range stay: one that moves is not apart from the `-`
    have hlo : lo.moves lead = false := by simpa using fun hm => h.1.2 ⟨hm, rfl⟩
    have hdash (l : Bool) : (live '-').moves l = false := rfl
    rw [hlo, Bool.and_false, Bool.false_and] at h
    have hhi : hi.moves false = false := by simpa using fun hm => h.2.1.1 ⟨rfl, hm⟩
    rw [kept_stays hlo, kept_stays (hdash _), kept_stays hhi, moved_stays hlo, moved_stays (hdash _), moved_stays hhi]
    rw [Bool.false_and] at h
    simp only [char, Pattern.readMembers, List.any_cons, ih h.2.2.tail, Bool.or_assoc]
  | case2 m ms hms ih =>
    have htail : (marked (lead && m.moves lead) ms).IsChain Apart := h.tail
    cases hm : m.moves lead with
    | true =>
      rw [hm, Bool.and_true] at htail
      rw [kept_leaves hm, moved_leaves hm, List.any_cons, ih htail, List.contains_cons, Bool.or_left_comm]
      rfl
    | false =>
      rw [hm, Bool.and_false] at htail
      rw [kept_stays hm, moved_stays hm, readMembers_one, List.any_cons, List.any_cons, ih htail, Bool.or_assoc]
      -- a `-` right behind `m` was there before, and then a member stood behind it
      intro hi u e
      cases ms with
      | nil => cases e
      | cons n ms =>
        rw [marked] at htail
        cases hn : n.moves false with
        | true =>
          rw [hn, Bool.and_true] at htail
          rw [kept_leaves hn] at e
          exact head_kept_apart htail rfl (by rw [e]; rfl)
        | false =>
          rw [kept_stays hn] at e
          cases eq_live_dash hn (List.head_eq_of_cons_eq e)
          cases ms with
          | nil => cases e
          | cons k ms => exact hms k ms rfl
  | case3 => rfl

/-- What can stand behind the other members. -/
def trailers : List Text := [[], ['!'], ['-'], ['!', '-']]

theorem ne_dash_of_trailer {t : Text} (ht : t ∈ trailers) (hi : Char) (u : Text) : t ≠ '-' :: hi :: u := by
  rintro rfl
  simp [trailers] at ht

theorem readMembers_trailer {t : Text} (ht : t ∈ trailers) : Pattern.readMembers t = t.map .one := by
  simp only [trailers, List.mem_cons, List.not_mem_nil, or_false] at ht
  rcases ht with rfl | rfl | rfl | rfl <;> rfl

theorem getLast?_ne_of_cons {d : Char} {s : Text} (h : (c :: s).getLast? ≠ some d) : s.getLast? ≠ some d := by
  cases s with
  | nil => simp
  | cons _ s => rwa [List.getLast?_cons_cons] at h

/-- The `!` and the `-` behind the other members stand for themselves. -/
theorem readMembers_append {s t : Text} (hs : t ≠ [] → s.getLast? ≠ some '-') (ht : t ∈ trailers) :
    Pattern.readMembers (s ++ t) = Pattern.readMembers s ++ t.map .one := by
  by_cases hne : t = []
  · simp [hne]
  replace hs := hs hne
  fun_induction Pattern.readMembers s with
  | case1 lo hi s ih =>
    rw [List.cons_append, List.cons_append, List.cons_append, Pattern.readMembers, List.cons_append,
      ih (getLast?_ne_of_cons (getLast?_ne_of_cons (getLast?_ne_of_cons hs)))]
  | case2 c s h ih =>
    have hs' := getLast?_ne_of_cons hs
    rw [List.cons_append, readMembers_one, ih hs', List.cons_append]
    -- a `-` right behind `c` would be the last of `s`, or one with a member behind it
    intro hi u e
    cases s with
    | nil => exact ne_dash_of_trailer ht hi u e
    | cons d s =>
      cases (List.cons.inj e).1
      cases s with
      | nil => exact hs' rfl
      | cons d' s => exact h d' s rfl
  | case3 => exact readMembers_trailer ht

/-- In front a `]` stands for itself. -/
theorem any_framed {s t : Text} {close : Bool} (hf : close → s.head? ≠ some '-') (hs : t ≠ [] → s.getLast? ≠ some '-')
    (ht : t ∈ trailers) (c : Char) :
    (Pattern.readMembers ((if close then [']'] else []) ++ s ++ t)).any (·.has c) =
      ((Pattern.readMembers s).any (·.has c) || (close && c == ']' || t.contains c)) := by
  have hone : (t.map Pattern.Member.one).any (·.has c) = t.contains c := by
    simp only [List.any_map, List.contains_eq_any_beq]
    rfl
  have hst := readMembers_append hs ht
  cases close with
  | false => simp [hst, hone]
  | true =>
    rw [if_pos rfl, List.append_assoc, List.singleton_append, readMembers_one, hst, List.any_cons, List.any_append, hone,
      Bool.or_left_comm]
    · simp [Pattern.Member.has]
    · intro hi u e
      cases s with
      | nil => exact ne_dash_of_trailer ht hi u e
      | cons d s => exact hf rfl (by rw [(List.cons.inj e).1]; rfl)

theorem IsSettled.any_sorted (h : b.IsSettled) (c : Char) :
    (Pattern.readMembers b.sorted).any (·.has c) =
      ((Pattern.readMembers b.parts.body).any (·.has c) || (moved true b.members).contains c) := by
  have hm : (moved true b.members).contains c =
      (b.parts.close && c == ']' || (b.parts.bang && c == '!' || b.parts.dash && c == '-')) := by
    rw [Bool.eq_iff_iff, List.contains_iff_mem, mem_moved_iff]
    simp
  rw [hm, sorted]
  have hf := h.front
  have hb := h.back
  generalize b.parts = p at hf hb ⊢
  obtain ⟨close, bang, dash, body⟩ := p
  have framed (t : Text) (hs : t ≠ [] → body.getLast? ≠ some '-') (ht : t ∈ trailers) :=
    any_framed hf hs ht c
  by_cases hl : (bang && !b.negated && !close && body.isEmpty && dash) = true
  · simp only [Bool.and_eq_true, List.isEmpty_iff, Bool.not_eq_true'] at hl
    obtain ⟨⟨⟨⟨rfl, hn⟩, rfl⟩, rfl⟩, rfl⟩ := hl
    simp [Pattern.readMembers, Pattern.Member.has, hn, Bool.or_comm]
  · rw [if_neg hl, framed]
    · rw [Bool.eq_iff_iff]
      cases bang <;> cases dash <;> simp
    · intro ht
      refine hb ?_
      cases bang <;> cases dash <;> simp_all
    · cases bang <;> cases dash <;> simp [trailers]

/-- Where no `!` stands in front, the members that come out have the sign that was typed. -/
theorem rearranged_eq (h : b.negated = false → ∀ c t, b.sorted ≠ '!' :: c :: t) :
    b.rearranged = ⟨b.negated, b.sorted.map .live⟩ := by
  rw [rearranged]
  split
  · next hn hs => exact absurd hs (h hn _ _)
  · rfl

theorem IsSettled.sorted_ne (h : b.IsSettled) (hn : b.negated = false) (c : Char) (t : Text) : b.sorted ≠ '!' :: c :: t := by
  have hs := h.sign hn
  rw [sorted, hn]
  generalize b.parts = p at hs ⊢
  obtain ⟨close, bang, dash, body⟩ := p
  cases close <;> cases bang <;> cases dash <;> cases body <;> simp_all

theorem IsSettled.faithful (h : b.IsSettled) : b.Faithful := by
  refine b.faithful_iff.2 fun c => ?_
  rw [rearranged_eq h.sorted_ne, has, listed_live, h.any_sorted, has, any_listed_apart c h.apart, parts_eq]

end Bracket

end WrapShell
