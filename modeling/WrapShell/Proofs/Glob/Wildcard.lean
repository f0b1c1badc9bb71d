import WrapShell.Glob.Search
import WrapShell.Glob.Wildcard
import WrapShell.Proofs.Glob.Token
import WrapShell.Proofs.Text.Cut
/-!
# Wildcards as patterns

Each component of a wildcard becomes a component of the pattern, and the tokens of that describe
the names that the component stands for, read directly (`Spells.describes_iff`). A word that is no
pattern describes as one only what it says (`wordPattern_literal`).
-/

namespace WrapShell

namespace Wildcard

open Pattern

variable {t n : Text} {c : Char}

@[simp] theorem describes_nil : Describes [] n ↔ n = [] :=
  ⟨fun h => by cases h; rfl, fun h => h ▸ .nil⟩

@[simp] theorem describes_lone : Describes ['\\'] n ↔ n = ['\\'] := by
  constructor
  · intro h
    cases h with
    | lone => rfl
    | char hc => simp at hc
  · rintro rfl
    exact .lone

@[simp] theorem describes_escaped : Describes ('\\' :: c :: t) n ↔ ∃ m, n = c :: m ∧ Describes t m := by
  constructor
  · intro h
    cases h with
    | escaped _ h => exact ⟨_, rfl, h⟩
    | char hc => simp at hc
  · rintro ⟨m, rfl, h⟩
    exact .escaped c h

@[simp] theorem describes_anyChar : Describes ('?' :: t) n ↔ ∃ d m, n = d :: m ∧ Describes t m := by
  constructor
  · intro h
    cases h with
    | anyChar d h => exact ⟨d, _, rfl, h⟩
    | char hc => simp at hc
  · rintro ⟨d, m, rfl, h⟩
    exact .anyChar d h

@[simp] theorem describes_anyRun : Describes ('*' :: t) n ↔ ∃ s m, n = s ++ m ∧ Describes t m := by
  constructor
  · intro h
    cases h with
    | anyRun s h => exact ⟨s, _, rfl, h⟩
    | char hc => simp at hc
  · rintro ⟨s, m, rfl, h⟩
    exact .anyRun s h

theorem describes_char (hc : c ∉ ['\\', '?', '*']) : Describes (c :: t) n ↔ ∃ m, n = c :: m ∧ Describes t m := by
  constructor
  · intro h
    cases h with
    | char _ h => exact ⟨_, rfl, h⟩
    | lone | escaped | anyChar | anyRun => simp at hc
  · rintro ⟨m, rfl, h⟩
    exact .char hc h

/-- A run of stars is one star. -/
theorem describes_stars (k : Nat) : Describes ('*' :: List.replicate k '*' ++ t) n ↔ ∃ s m, n = s ++ m ∧ Describes t m := by
  induction k generalizing n with
  | zero => exact describes_anyRun
  | succ k ih =>
    rw [List.replicate_succ, List.cons_append, describes_anyRun]
    simp only [ih]
    constructor
    · rintro ⟨s, _, rfl, s', m, rfl, h⟩
      exact ⟨s ++ s', m, by simp, h⟩
    · rintro ⟨s, m, rfl, h⟩
      exact ⟨[], s ++ m, rfl, s, m, rfl, h⟩

/-- A component of plain characters stands for itself. -/
theorem describes_plain (h : ∀ c ∈ t, c ∉ ['\\', '?', '*']) : Describes t n ↔ n = t := by
  induction t generalizing n with
  | nil => exact describes_nil
  | cons c t ih =>
    obtain ⟨hc, ht⟩ := List.forall_mem_cons.1 h
    rw [describes_char hc]
    simp only [ih ht]
    constructor
    · rintro ⟨_, rfl, rfl⟩; rfl
    · rintro rfl; exact ⟨t, rfl, rfl⟩

end Wildcard

namespace Pattern

theorem anyEnd_iff {p : Text → Bool} {t : Text} : anyEnd p t ↔ ∃ s m, t = s ++ m ∧ p m := by
  induction t with
  | nil => simp [anyEnd]
  | cons c t ih =>
    rw [anyEnd, Bool.or_eq_true, ih]
    constructor
    · rintro (h | ⟨s, m, rfl, h⟩)
      · exact ⟨[], c :: t, rfl, h⟩
      · exact ⟨c :: s, m, rfl, h⟩
    · rintro ⟨s, m, e, h⟩
      cases s with
      | nil => cases e; exact .inl h
      | cons d s => cases e; exact .inr ⟨s, m, rfl, h⟩

theorem describes_char_cons {c : Char} {ks : List Token} {n : Text} :
    describes (.char c :: ks) n ↔ ∃ m, n = c :: m ∧ describes ks m := by
  cases n with
  | nil => simp [describes]
  | cons d n => simp [describes]

theorem describes_within_cons {c : Char} {ks : List Token} {n : Text} :
    describes (.within [.one c] :: ks) n ↔ ∃ m, n = c :: m ∧ describes ks m := by
  cases n with
  | nil => simp [describes]
  | cons d n => simp [describes, Member.has]

theorem describes_anyChar_cons {ks : List Token} {n : Text} :
    describes (.anyChar :: ks) n ↔ ∃ d m, n = d :: m ∧ describes ks m := by
  cases n with
  | nil => simp [describes]
  | cons d n => simp [describes]

/-- Tokens that are plain characters describe the text of these. -/
theorem eq_of_literal {ks : List Token} {n : Text} (h : literal? ks = some n) : ks = n.map .char := by
  fun_induction literal? ks generalizing n with
  | case1 => cases h; rfl
  | case2 c ks ih =>
    obtain ⟨m, hm, rfl⟩ := Option.map_eq_some_iff.1 h
    rw [ih hm]; rfl
  | case3 => cases h

theorem describes_literal {ks : List Token} {m n : Text} (h : literal? ks = some m) : describes ks n ↔ n = m := by
  rw [eq_of_literal h]
  clear h
  induction m generalizing n with
  | nil => simp [describes]
  | cons c m ih =>
    rw [List.map_cons, describes_char_cons]
    simp only [ih]
    constructor
    · rintro ⟨_, rfl, rfl⟩; rfl
    · rintro rfl; exact ⟨m, rfl, rfl⟩

end Pattern

namespace WordPiece

open Pattern Wildcard

variable {t u n : Text} {ps qs : List WordPiece} {taken : Char → Bool} {dangling : Bool}

theorem describes_escaped_cons {c : Char} {ks : List Token} :
    Pattern.describes ((escaped c).token :: ks) n ↔ ∃ m, n = c :: m ∧ Pattern.describes ks m := by
  rw [token]
  split
  · exact describes_within_cons
  · exact describes_char_cons

/-! ## Words without brackets -/

theorem no_bracket_tail {p : WordPiece} (hb : ∀ b, .bracket b ∉ p :: ps) : ∀ b, .bracket b ∉ ps :=
  fun b h => hb b (List.mem_cons_of_mem _ h)

theorem escapes_of_stars {alone : Char → Bool} {k : Nat}
    (h : Text.escapes alone taken dangling ('*' :: List.replicate k '*' ++ t)) : t.escapes alone taken dangling := by
  induction k with
  | zero =>
    rw [List.replicate_zero, List.singleton_append, Text.escapes_char (by decide), Bool.and_eq_true] at h
    exact h.2
  | succ k ih =>
    rw [List.replicate_succ, List.cons_append, Text.escapes_char (by decide), Bool.and_eq_true] at h
    exact ih h.2

theorem Spells.no_bracket (h : Spells t ps) (ht : t.escapes (· != '[') taken dangling) (b : Bracket) : .bracket b ∉ ps := by
  induction h with
  | nil => simp
  | dangling => simp
  | escaped c _ ih =>
    rw [Text.escapes_pair, Bool.and_eq_true] at ht
    simpa using ih ht.2
  | stars k _ _ ih => simpa using ih (escapes_of_stars ht)
  | bracket => simp [Text.escapes_char] at ht
  | @plain c _ _ hc _ ih =>
    have hs : c ≠ '\\' := by rintro rfl; simp at hc
    rw [Text.escapes_char hs, Bool.and_eq_true] at ht
    simpa using ih ht.2

/-- Nothing but a bracket can go wrong in a word. -/
theorem exists_spells (h : t.escapes (· != '[') taken dangling) : ∃ ps, Spells t ps := by
  induction t using Text.pairInduction with
  | nil => exact ⟨_, .nil⟩
  | dangling => exact ⟨_, .dangling⟩
  | pair c t ih =>
    rw [Text.escapes_pair, Bool.and_eq_true] at h
    obtain ⟨ps, hps⟩ := ih h.2
    exact ⟨_, .escaped c hps⟩
  | char c t hc ih =>
    rw [Text.escapes_char hc, Bool.and_eq_true, bne_iff_ne] at h
    obtain ⟨ps, hps⟩ := ih h.2
    by_cases hs : c = '*'
    · subst hs
      obtain ⟨qs, hqs, -⟩ := hps.star
      exact ⟨qs, hqs⟩
    · exact ⟨_, .plain (by simp [hc, hs, h.1]) hps⟩

theorem Spells.describes_iff (h : Spells t ps) (hb : ∀ b, .bracket b ∉ ps) :
    Pattern.describes (ps.map token) n ↔ Wildcard.Describes t n := by
  induction h generalizing n with
  | nil => simp [Pattern.describes]
  | dangling => simp [token, describes_char_cons, Pattern.describes]
  | escaped c _ ih =>
    rw [List.map_cons, describes_escaped_cons, describes_escaped]
    simp only [ih (no_bracket_tail hb)]
  | @stars k _ _ _ _ ih =>
    rw [describes_stars, List.map_cons, token, Pattern.describes, anyEnd_iff]
    simp only [ih (no_bracket_tail hb)]
  | bracket => exact absurd List.mem_cons_self (hb _)
  | @plain c _ _ hc _ ih =>
    simp only [List.mem_cons, List.not_mem_nil, or_false, not_or] at hc
    by_cases hq : c = '?'
    · subst hq
      rw [List.map_cons, token, if_pos rfl, describes_anyChar_cons, describes_anyChar]
      simp only [ih (no_bracket_tail hb)]
    · rw [List.map_cons, token, if_neg hq, describes_char_cons, describes_char (by simp [hc, hq])]
      simp only [ih (no_bracket_tail hb)]

/-! ## Components -/

/-- A pattern has the slashes of its word, unless a bracket holds one. -/
theorem Spells.slash_not_mem (h : Spells t ps) (hb : ∀ b, .bracket b ∉ ps) (ht : '/' ∉ t) : '/' ∉ writeAll ps := by
  induction h with
  | nil => simp [writeAll]
  | dangling => decide
  | escaped c _ ih =>
    simp only [List.mem_cons, not_or] at ht
    rw [writeAll, List.flatMap_cons, List.mem_append, not_or]
    refine ⟨?_, ih (no_bracket_tail hb) ht.2.2⟩
    rw [write]
    split <;> simp [ht.2.1]
  | @stars k _ _ _ _ ih =>
    rw [List.mem_append, not_or] at ht
    rw [writeAll, List.flatMap_cons, List.mem_append, not_or]
    exact ⟨by decide, ih (no_bracket_tail hb) ht.2⟩
  | bracket => exact absurd List.mem_cons_self (hb _)
  | plain _ _ ih =>
    rw [List.mem_cons, not_or] at ht
    rw [writeAll, List.flatMap_cons, List.mem_append, not_or]
    exact ⟨by simpa [write] using ht.1, ih (no_bracket_tail hb) ht.2⟩

theorem Spells.append_slash (h : Spells t ps) (ht : t.escapes (· != '[') taken false) (hu : Spells u qs) :
    Spells (t ++ '/' :: u) (ps ++ .plain '/' :: qs) := by
  induction h with
  | nil => exact .plain (by decide) hu
  | dangling => cases ht
  | escaped c _ ih =>
    rw [Text.escapes_pair, Bool.and_eq_true] at ht
    exact .escaped c (ih ht.2)
  | @stars k t _ ends _ ih =>
    -- a slash is no star, so the run ends where it did
    have := Spells.stars k (t := t ++ '/' :: u) ?_ (ih (escapes_of_stars ht))
    · simpa using this
    · cases t with
      | nil => simp
      | cons c t => simpa using ends
  | bracket => simp [Text.escapes_char] at ht
  | @plain c _ _ hc _ ih =>
    have hs : c ≠ '\\' := by rintro rfl; simp at hc
    rw [Text.escapes_char hs, Bool.and_eq_true] at ht
    exact .plain hc (ih ht.2)

theorem escapes_append_slash (h : (t ++ '/' :: u).escapes (· != '[') (· != '/') dangling) :
    t.escapes (· != '[') (· != '/') false ∧ u.escapes (· != '[') (· != '/') dangling := by
  induction t using Text.pairInduction with
  | nil =>
    rw [List.nil_append, Text.escapes_char (by decide), Bool.and_eq_true] at h
    exact ⟨rfl, h.2⟩
  | dangling => simp at h
  | pair c t ih =>
    rw [List.cons_append, List.cons_append, Text.escapes_pair, Bool.and_eq_true] at h
    rw [Text.escapes_pair, h.1, Bool.true_and]
    exact ih h.2
  | char c t hc ih =>
    rw [List.cons_append, Text.escapes_char hc, Bool.and_eq_true] at h
    rw [Text.escapes_char hc, h.1, Bool.true_and]
    exact ih h.2

theorem Spells.writeAll_ne_nil (h : Spells t ps) (ht : t ≠ []) (hb : ∀ b, .bracket b ∉ ps) : writeAll ps ≠ [] := by
  cases h with
  | nil => exact absurd rfl ht
  | bracket => exact absurd List.mem_cons_self (hb _)
  | escaped c =>
    rw [writeAll, List.flatMap_cons, write]
    split <;> simp
  | dangling | stars | plain => simp [writeAll, write]

/-- The pieces of a component, as they are used from here on. -/
structure IsComponent (t : Text) (ps : List WordPiece) : Prop where
  spells : Spells t ps
  no_bracket : ∀ b, .bracket b ∉ ps
  nonempty : t ≠ []
  slash : '/' ∉ t

theorem exists_components {ts : List Text} (hne : ts ≠ []) (hts : ∀ t ∈ ts, t ≠ [] ∧ '/' ∉ t)
    (h : Text.escapes (· != '[') (· != '/') true (List.intercalate ['/'] ts)) :
    ∃ pss ps, List.Forall₂ IsComponent ts pss ∧ Spells (List.intercalate ['/'] ts) ps ∧
      writeAll ps = List.intercalate ['/'] (pss.map writeAll) := by
  induction ts with
  | nil => exact absurd rfl hne
  | cons t ts ih =>
    obtain ⟨⟨htne, hslash⟩, hts⟩ := List.forall_mem_cons.1 hts
    by_cases e : ts = []
    · subst e
      rw [List.intercalate_singleton] at h ⊢
      obtain ⟨ps, hps⟩ := exists_spells h
      exact ⟨[ps], ps, .cons ⟨hps, hps.no_bracket h, htne, hslash⟩ .nil, hps, by simp⟩
    · rw [List.intercalate_cons_of_ne_nil e, List.append_assoc, List.singleton_append] at h ⊢
      obtain ⟨ht, hrest⟩ := escapes_append_slash h
      obtain ⟨ps, hps⟩ := exists_spells ht
      obtain ⟨pss, qs, hpss, hqs, hw⟩ := ih e hts hrest
      refine ⟨ps :: pss, ps ++ .plain '/' :: qs, .cons ⟨hps, hps.no_bracket ht, htne, hslash⟩ hpss, hps.append_slash ht hqs, ?_⟩
      have hpne : pss.map writeAll ≠ [] := by
        rintro hp
        cases hpss with
        | nil => exact e rfl
        | cons => cases hp
      rw [List.map_cons, List.intercalate_cons_of_ne_nil hpne, ← hw]
      simp [writeAll, write]

theorem IsComponent.written (h : IsComponent t ps) : writeAll ps ≠ [] ∧ '/' ∉ writeAll ps :=
  ⟨h.spells.writeAll_ne_nil h.nonempty h.no_bracket, h.spells.slash_not_mem h.no_bracket h.slash⟩

/-- What pieces without slashes make of a path when they are joined, and a pattern is cut into. -/
theorem components_join {absolute : Bool} {xs : List Text} (hne : xs ≠ []) (h : ∀ x ∈ xs, x ≠ [] ∧ '/' ∉ x) :
    Path.isAbsolute ((if absolute then ['/'] else []) ++ List.intercalate ['/'] xs) = absolute ∧
      Pattern.components ((if absolute then ['/'] else []) ++ List.intercalate ['/'] xs) = xs ∧
      ((if absolute then ['/'] else []) ++ List.intercalate ['/'] xs).getLast? ≠ some '/' := by
  have hcut : List.splitOn '/' (List.intercalate ['/'] xs) = xs := List.splitOn_intercalate '/' (fun x hx => (h x hx).2) hne
  have hlast : xs.getLast? ≠ some [] := fun e => (h [] (List.mem_of_getLast? e)).1 rfl
  have habs : Path.isAbsolute ((if absolute then ['/'] else []) ++ List.intercalate ['/'] xs) = absolute := by
    cases absolute with
    | true => rfl
    | false =>
      obtain ⟨x, xs, rfl⟩ := List.exists_cons_of_ne_nil hne
      obtain ⟨hx, hs⟩ := h x (by simp)
      rw [if_neg (by simp), List.nil_append, Path.isAbsolute, head_intercalate hx]
      simpa using fun e => hs (List.mem_of_mem_head? e)
  refine ⟨habs, ?_, ?_⟩
  · have htail : (if absolute then ((if absolute then ['/'] else []) ++ List.intercalate ['/'] xs).tail
        else (if absolute then ['/'] else []) ++ List.intercalate ['/'] xs) = List.intercalate ['/'] xs := by cases absolute <;> rfl
    rw [Pattern.components, habs, htail, hcut, if_neg hlast]
  · obtain ⟨ys, x, rfl⟩ : ∃ ys x, xs = ys ++ [x] := ⟨_, _, (List.dropLast_append_getLast hne).symm⟩
    obtain ⟨hx, hs⟩ := h x (by simp)
    have hjoin : (List.intercalate ['/'] (ys ++ [x])).getLast? = x.getLast? := by
      by_cases hy : ys = []
      · subst hy
        rw [List.nil_append, List.intercalate_singleton]
      · rw [intercalate_concat _ _ hy, List.getLast?_append_of_ne_nil _ hx]
    have hne' : List.intercalate ['/'] (ys ++ [x]) ≠ [] := by
      intro e
      rw [e, eq_comm] at hjoin
      exact hx (List.getLast?_eq_none_iff.1 hjoin)
    rw [List.getLast?_append_of_ne_nil _ hne', hjoin]
    exact fun e => hs (List.mem_of_getLast? e)

theorem forall_written {ts : List Text} {pss : List (List WordPiece)} (h : List.Forall₂ IsComponent ts pss) :
    ∀ x ∈ pss.map writeAll, x ≠ [] ∧ '/' ∉ x := by
  induction h with
  | nil => simp
  | cons hp _ ih => exact List.forall_mem_cons.2 ⟨hp.written, ih⟩

theorem mapM_read {ts : List Text} {pss : List (List WordPiece)} (h : List.Forall₂ IsComponent ts pss) :
    (pss.map writeAll).mapM Pattern.read = .ok (pss.map (·.map token)) := by
  induction h with
  | nil => rfl
  | cons hp _ ih =>
    rw [List.map_cons, List.mapM_cons, ih, Pattern.read, hp.spells.readsAs]
    rfl

/-- A wildcard is read as its components, and each of these piece by piece. -/
theorem readPath_wildcard {word : Text} (h : IsWildcard word) :
    ∃ pattern pss, wordPattern word = .ok pattern ∧ Pattern.readPath pattern = .ok (pss.map (·.map token)) ∧
      Path.isAbsolute pattern = Path.isAbsolute word ∧ pattern.getLast? ≠ some '/' ∧
      List.Forall₂ IsComponent (Wildcard.components word) pss := by
  have hts : ∀ t ∈ Wildcard.components word, t ≠ [] ∧ '/' ∉ t := fun t ht => ⟨(h.components t ht).1, not_mem_of_mem_splitOn ht⟩
  have hne : Wildcard.components word ≠ [] := List.splitOn_ne_nil _ _
  have hword : word = (if Path.isAbsolute word then ['/'] else []) ++ List.intercalate ['/'] (Wildcard.components word) := by
    rw [Wildcard.components, List.intercalate_splitOn]
    cases ha : Path.isAbsolute word with
    | false => rfl
    | true =>
      rw [Path.isAbsolute, beq_iff_eq] at ha
      obtain ⟨t, rfl⟩ := List.head?_eq_some_iff.1 ha
      rfl
  have hescapes : Text.escapes (· != '[') (· != '/') true (List.intercalate ['/'] (Wildcard.components word)) := by
    have hb := h.brackets
    rw [hword] at hb
    cases ha : Path.isAbsolute word with
    | false => simpa [ha] using hb
    | true =>
      rw [ha, if_pos rfl, List.singleton_append, Text.escapes_char (by decide), Bool.and_eq_true] at hb
      exact hb.2
  -- without the slash in front the word is its components, and that slash goes into the pattern as it is
  obtain ⟨pss, ps, hpss, hps, hw⟩ := exists_components hne hts hescapes
  have hpne : pss.map writeAll ≠ [] := by
    rw [← List.length_pos_iff, List.length_map, ← hpss.length_eq]
    exact List.length_pos_iff.2 hne
  obtain ⟨habs, hcomp, hlast⟩ := @components_join (Path.isAbsolute word) _ hpne (forall_written hpss)
  obtain ⟨qs, hqs, hpattern⟩ : ∃ qs, Spells word qs ∧
      writeAll qs = (if Path.isAbsolute word then ['/'] else []) ++ List.intercalate ['/'] (pss.map writeAll) := by
    cases ha : Path.isAbsolute word with
    | false => exact ⟨ps, by rw [hword, ha]; exact hps, by simpa using hw⟩
    | true => exact ⟨.plain '/' :: ps, by rw [hword, ha]; exact .plain (by decide) hps, by rw [if_pos rfl, ← hw]; rfl⟩
  refine ⟨writeAll qs, pss, hqs.wordPattern_eq, ?_, hpattern ▸ habs, hpattern ▸ hlast, hpss⟩
  rw [Pattern.readPath, Pattern.read, hqs.readsAs, hpattern, hcomp, mapM_read hpss]

/-! ## Components that are looked up -/

theorem Spells.isSome_literal (h : Spells t ps) (hb : ∀ b, .bracket b ∉ ps) :
    (literal? (ps.map token)).isSome = isLookedUp t := by
  induction h with
  | nil => rfl
  | dangling => rfl
  | escaped c _ ih =>
    have ih := ih (no_bracket_tail hb)
    rw [List.map_cons, isLookedUp, Text.escapes_pair, ← isLookedUp, ← ih, token]
    split
    · next hc => rcases hc with rfl | rfl | rfl | rfl <;> rfl
    · next hc =>
      simp only [not_or] at hc
      simp [literal?, hc]
  | stars => simp [token, literal?, isLookedUp, Text.escapes_char]
  | bracket => exact absurd List.mem_cons_self (hb _)
  | @plain c _ _ hc _ ih =>
    have ih := ih (no_bracket_tail hb)
    simp only [List.mem_cons, List.not_mem_nil, or_false, not_or] at hc
    rw [List.map_cons, isLookedUp, Text.escapes_char hc.1, ← isLookedUp, ← ih, token]
    split
    · next hq => subst hq; rfl
    · next hq => simp [literal?, hc, hq]

theorem writeAll_of_literal (hb : ∀ b, .bracket b ∉ ps) (h : literal? (ps.map token) = some n) : writeAll ps = n := by
  induction ps generalizing n with
  | nil => cases h; rfl
  | cons p ps ih =>
    have ih {m} := @ih m (no_bracket_tail hb)
    cases p with
    | stars => cases h
    | bracket => exact absurd List.mem_cons_self (hb _)
    | plain c =>
      rw [List.map_cons, token] at h
      split at h
      · cases h
      · obtain ⟨m, hm, rfl⟩ := Option.map_eq_some_iff.1 h
        rw [writeAll, List.flatMap_cons, ← writeAll, ih hm]; rfl
    | escaped c =>
      rw [List.map_cons, token] at h
      split at h
      · cases h
      · next hc =>
        obtain ⟨m, hm, rfl⟩ := Option.map_eq_some_iff.1 h
        rw [writeAll, List.flatMap_cons, ← writeAll, ih hm, write, if_neg (by simpa [or_assoc] using hc)]; rfl

/-- A component that asks for no leading dot. -/
theorem IsComponent.undotted (h : IsComponent t ps) (hd : t.head? ≠ some '.') (he : t.take 2 ≠ ['\\', '.']) :
    (writeAll ps).head? ≠ some '.' ∧ Place.specialNames (ps.map token) = [] := by
  obtain ⟨hs, hb, hne, -⟩ := h
  cases hs with
  | nil => exact absurd rfl hne
  | dangling => exact ⟨by decide, rfl⟩
  | escaped c =>
    have hc : c ≠ '.' := by rintro rfl; exact he rfl
    constructor
    · rw [writeAll, List.flatMap_cons, write]
      split <;> simp [hc]
    · rw [List.map_cons, token]
      split <;> simp [Place.specialNames, hc]
  | stars => exact ⟨by simp [writeAll, write], rfl⟩
  | bracket => exact absurd List.mem_cons_self (hb _)
  | @plain c =>
    have hc : c ≠ '.' := by rintro rfl; exact hd rfl
    constructor
    · simpa [writeAll, write] using hc
    · rw [List.map_cons, token]
      split <;> simp [Place.specialNames, hc]

theorem IsComponent.isName (h : IsComponent t ps) (hd : (writeAll ps).head? ≠ some '.') (hn : literal? (ps.map token) = some n) :
    Path.IsName n := by
  rw [← writeAll_of_literal h.no_bracket hn]
  exact ⟨h.written.1, fun e => hd (by rw [e]; rfl), fun e => hd (by rw [e]; rfl), h.written.2⟩

end WordPiece

/-! ## Words without wildcards -/

/-- Read directly, a word without a live metacharacter stands for what is left without its backslashes. -/
theorem Wildcard.describes_stripped {t s n : Text} (h : stripEscapes t = some s) : Describes t n ↔ n = s := by
  induction t using Text.pairInduction generalizing s n with
  | nil => cases h; exact describes_nil
  | dangling => cases h; exact describes_lone
  | pair c t ih =>
    obtain ⟨u, hu, rfl⟩ := Option.map_eq_some_iff.1 h
    rw [describes_escaped]
    simp only [ih hu, exists_eq_right]
  | char c t hc ih =>
    rw [stripEscapes_char hc] at h
    split at h
    · cases h
    · next hmeta =>
      obtain ⟨u, hu, rfl⟩ := Option.map_eq_some_iff.1 h
      simp only [metacharacters, List.contains_eq_mem, decide_eq_true_eq, List.mem_cons, List.not_mem_nil, or_false, not_or] at hmeta
      rw [describes_char (by simp [hc, hmeta])]
      simp only [ih hu, exists_eq_right]

/-- A word without a live metacharacter is also a pattern, and this describes the text that the word is without its
backslashes, and nothing else. -/
theorem wordPattern_literal {word s : Text} (h : stripEscapes word = some s) :
    ∃ pattern ks, wordPattern word = .ok pattern ∧ Pattern.read pattern = .ok ks ∧ ∀ n, Pattern.describes ks n ↔ n = s := by
  have hdead : word.escapes (fun c => !metacharacters.contains c) (fun _ => true) true := by
    rw [← Bool.not_eq_false, ← stripEscapes_eq_none_iff, h]
    simp
  have hplain : word.escapes (· != '[') (fun _ => true) true := Text.escapes_mono (fun c hc => by
    rw [bne_iff_ne]
    rintro rfl
    exact absurd hc (by decide)) hdead
  obtain ⟨ps, hps⟩ := WordPiece.exists_spells hplain
  refine ⟨_, _, hps.wordPattern_eq, hps.readsAs true 0, fun n => ?_⟩
  rw [hps.describes_iff (hps.no_bracket hplain), Wildcard.describes_stripped h]

/-- Backslashes of every kind, the last of them alone. -/
theorem wordPattern_literal_escaped :
    stripEscapes "\\*a\\b]\\\\\\]\\+\\".toList = some "*ab]\\]+\\".toList ∧
      ∃ pattern ks, wordPattern "\\*a\\b]\\\\\\]\\+\\".toList = .ok pattern ∧ Pattern.read pattern = .ok ks ∧
        ∀ n, Pattern.describes ks n ↔ n = "*ab]\\]+\\".toList := by
  have h : stripEscapes "\\*a\\b]\\\\\\]\\+\\".toList = some "*ab]\\]+\\".toList := by decide
  exact ⟨h, wordPattern_literal h⟩

end WrapShell
