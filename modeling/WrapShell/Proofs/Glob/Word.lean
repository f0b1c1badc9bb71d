import WrapShell.Glob.Meaning
/-!
# Words as they are typed

Which words are patterns (`stripEscapes_eq_none_iff`), how a bracket is typed (`read_eq_some_iff`) and how a word
spells its pieces (`Spells`).
-/

namespace WrapShell

theorem stripEscapes_char {c : Char} (hc : c ≠ '\\') (t : Text) :
    stripEscapes (c :: t) = if metacharacters.contains c then none else (stripEscapes t).map (c :: ·) := by
  simp [stripEscapes, hc]

/-- A word is a pattern exactly if a metacharacter of it is live. -/
theorem stripEscapes_eq_none_iff {t : Text} :
    stripEscapes t = none ↔ t.escapes (fun c => !metacharacters.contains c) (fun _ => true) true = false := by
  induction t using Text.pairInduction with
  | nil => exact iff_of_false (by simp [stripEscapes]) (by simp)
  | dangling => exact iff_of_false (by simp [stripEscapes]) (by simp)
  | pair c t ih => rw [stripEscapes, Option.map_eq_none_iff, ih, Text.escapes_pair, Bool.true_and]
  | char c t hc ih =>
    rw [stripEscapes_char hc, Text.escapes_char hc]
    cases metacharacters.contains c with
    | true => simp
    | false => simpa using ih

namespace Bracket

open BracketMember

theorem readMembers_char {c : Char} {t : Text} (h : c ≠ '\\') :
    readMembers (c :: t) =
      if c = ']' then some ([], t) else (readMembers t).map fun (ms, rest) => (.live c :: ms, rest) := by
  simp [readMembers, h]

theorem readMembers_eq_some_iff {t rest : Text} {ms : List BracketMember} :
    readMembers t = some (ms, rest) ↔
      t = ms.flatMap typed ++ ']' :: rest ∧ ∀ c, .live c ∈ ms → c ≠ ']' ∧ c ≠ '\\' := by
  constructor
  · intro h
    induction t using Text.pairInduction generalizing ms with
    | nil => cases h
    | dangling => cases h
    | pair c t ih =>
      obtain ⟨⟨ms', r⟩, hr, he⟩ := Option.map_eq_some_iff.1 h
      cases he
      obtain ⟨rfl, hms⟩ := ih hr
      exact ⟨rfl, by simpa using hms⟩
    | char c t hc ih =>
      rw [readMembers_char hc] at h
      split at h
      · next hb => cases h; simp [hb]
      · next hb =>
        obtain ⟨⟨ms', r⟩, hr, he⟩ := Option.map_eq_some_iff.1 h
        cases he
        obtain ⟨rfl, hms⟩ := ih hr
        refine ⟨rfl, fun d hd => ?_⟩
        rcases List.mem_cons.1 hd with hd | hd
        · cases hd; exact ⟨hb, hc⟩
        · exact hms d hd
  · rintro ⟨rfl, hms⟩
    induction ms with
    | nil => rfl
    | cons m ms ih =>
      have ih := ih fun c hc => hms c (List.mem_cons_of_mem _ hc)
      cases m with
      | escaped c => simp [typed, readMembers, ih]
      | live c =>
        obtain ⟨hb, hs⟩ := hms c (by simp)
        simp [typed, readMembers_char hs, hb, ih]

theorem typed_head {ms : List BracketMember} {c : Char} {t : Text} (h : ms.flatMap typed = c :: t) :
    c = '\\' ∨ ms.head? = some (.live c) := by
  cases ms with
  | nil => cases h
  | cons m ms =>
    cases m with
    | live d => cases h; exact .inr rfl
    | escaped d => cases h; exact .inl rfl

/-- A bracket is its sign, its members as they are typed, and the `]` that ends them. -/
theorem read_eq_some_iff {t rest : Text} {b : Bracket} (hne : b.members ≠ []) :
    read t = some (b, rest) ↔
      b.IsTyped ∧ ∃ sign, t = sign ++ b.members.flatMap typed ++ ']' :: rest ∧
        if b.negated then sign = ['!'] ∨ sign = ['^'] else sign = [] := by
  constructor
  · intro h
    unfold read at h
    split at h
    all_goals
      obtain ⟨⟨ms, r⟩, hr, he⟩ := Option.map_eq_some_iff.1 h
      cases he
      obtain ⟨rfl, hms⟩ := readMembers_eq_some_iff.1 hr
    · exact ⟨⟨hne, hms, by simp⟩, ['!'], by simp⟩
    · exact ⟨⟨hne, hms, by simp⟩, ['^'], by simp⟩
    · next hbang hcaret =>
      refine ⟨⟨hne, hms, fun _ c hc => ?_⟩, [], by simp⟩
      obtain ⟨ms', rfl⟩ := List.head?_eq_some_iff.1 hc
      constructor
      · rintro rfl; exact hbang _ rfl
      · rintro rfl; exact hcaret _ rfl
  · rintro ⟨ht, sign, rfl, hs⟩
    have hr : readMembers (b.members.flatMap typed ++ ']' :: rest) = some (b.members, rest) :=
      readMembers_eq_some_iff.2 ⟨rfl, ht.plain⟩
    obtain ⟨negated, ms⟩ := b
    cases negated with
    | true =>
      rcases (hs : sign = ['!'] ∨ sign = ['^']) with rfl | rfl
      · simp [read, hr]
      · simp [read, hr]
    | false =>
      cases (hs : sign = [])
      -- the first member is not taken for a sign: it is typed with a backslash, or it is neither `!` nor `^`
      obtain ⟨c, u, e⟩ : ∃ c u, ms.flatMap typed = c :: u := by
        cases ms with
        | nil => exact absurd rfl hne
        | cons m ms => cases m <;> exact ⟨_, _, rfl⟩
      have hc : c ≠ '!' ∧ c ≠ '^' := by
        rcases typed_head e with rfl | h
        · decide
        · exact ht.unsigned rfl c h
      change read (ms.flatMap typed ++ ']' :: rest) = _
      change readMembers (ms.flatMap typed ++ ']' :: rest) = some (ms, rest) at hr
      rw [e, List.cons_append] at hr ⊢
      simp [read, hc, hr]

end Bracket

namespace WordPiece

open Pattern

/-- How a word spells pieces. -/
inductive Spells : Text → List WordPiece → Prop
  | nil : Spells [] []
  | dangling : Spells ['\\'] [.plain '\\']
  | escaped (c : Char) {t : Text} {ps : List WordPiece} (more : Spells t ps) : Spells ('\\' :: c :: t) (.escaped c :: ps)
  | stars (n : Nat) {t : Text} {ps : List WordPiece} (ends : t.head? ≠ some '*') (more : Spells t ps) :
    Spells ('*' :: List.replicate n '*' ++ t) (.stars :: ps)
  | bracket {b : Bracket} {t rest : Text} {ps : List WordPiece} (read : Bracket.read t = some (b, rest))
    (some : b.members ≠ []) (more : Spells rest ps) : Spells ('[' :: t) (.bracket b :: ps)
  | plain {c : Char} {t : Text} {ps : List WordPiece} (char : c ∉ ['\\', '*', '[']) (more : Spells t ps) :
    Spells (c :: t) (.plain c :: ps)

theorem map_cons_eq_ok {ε α : Type} {x : α} {e : Except ε (List α)} {l : List α} :
    (x :: ·) <$> e = .ok l ↔ ∃ l', e = .ok l' ∧ l = x :: l' := by
  cases e <;> simp [Functor.map, Except.map, eq_comm]

theorem dropWhile_stars (t : Text) :
    ∃ n, t = List.replicate n '*' ++ t.dropWhile (· == '*') ∧ (t.dropWhile (· == '*')).head? ≠ some '*' := by
  induction t with
  | nil => exact ⟨0, rfl, by simp⟩
  | cons c t ih =>
    by_cases hc : c = '*'
    · obtain ⟨n, e, h⟩ := ih
      refine ⟨n + 1, ?_, by simpa [hc] using h⟩
      rw [List.replicate_succ, List.dropWhile_cons_of_pos (by simpa using hc), hc, List.cons_append, ← e]
    · exact ⟨0, by simp [hc], by simp [hc]⟩

theorem Spells.star {t : Text} {ps : List WordPiece} (h : Spells t ps) : ∃ qs, Spells ('*' :: t) qs ∧ qs ⊆ .stars :: ps := by
  by_cases ht : t.head? = some '*'
  · cases h with
    | stars k ends more => exact ⟨_, .stars (k + 1) ends more, List.subset_cons_self _ _⟩
    | plain hc => cases ht; simp at hc
    | nil | dangling | escaped | bracket => cases ht
  · exact ⟨_, .stars 0 ht h, List.Subset.refl _⟩

/-! ## Reading one piece -/

variable {pos : Nat} {t rest : Text} {ps : List WordPiece}

theorem readFrom_stars (n : Nat) (ends : t.head? ≠ some '*') :
    readFrom pos ('*' :: List.replicate n '*' ++ t) = (.stars :: ·) <$> readFrom (pos + 1) t := by
  have hdrop : (List.replicate n '*' ++ t).dropWhile (· == '*') = t := by
    rw [List.dropWhile_append_of_pos (by simp +contextual [List.mem_replicate])]
    cases t with
    | nil => rfl
    | cons c t => exact List.dropWhile_cons_of_neg (by simpa using ends)
  rw [List.cons_append, readFrom, hdrop]

theorem readFrom_bracket {b : Bracket} (read : Bracket.read t = some (b, rest)) (some : b.members ≠ []) :
    readFrom pos ('[' :: t) = (.bracket b :: ·) <$> readFrom (pos + Text.utf8Size b.write) rest := by
  rw [readFrom]
  split
  · simp_all
  · rename_i h
    rw [read] at h
    cases h
    rw [if_neg (by simpa using some)]

theorem readFrom_plain {c : Char} (char : c ∉ ['\\', '*', '[']) (t : Text) :
    readFrom pos (c :: t) = (.plain c :: ·) <$> readFrom (pos + c.utf8Size) t := by
  simp only [List.mem_cons, List.not_mem_nil, or_false, not_or] at char
  rw [readFrom] <;> simp_all

/-- A character is read as a plain piece when all other cases have been tried. -/
theorem plain_of_untried {c : Char} (dangling : c = '\\' → t = [] → False) (pair : ∀ d u, c = '\\' → t = d :: u → False)
    (star : c = '*' → False) (bracket : c = '[' → False) : c ∉ ['\\', '*', '['] := by
  simp only [List.mem_cons, List.not_mem_nil, or_false, not_or]
  refine ⟨fun hc => ?_, star, bracket⟩
  cases t with
  | nil => exact dangling hc rfl
  | cons d u => exact pair d u hc rfl

theorem readFrom_eq_ok_iff : readFrom pos t = .ok ps ↔ Spells t ps := by
  constructor
  · intro h
    fun_induction readFrom pos t generalizing ps with
    | case1 => cases h; exact .nil
    | case2 => cases h; exact .dangling
    | case3 pos c t ih =>
      obtain ⟨ps', h', rfl⟩ := map_cons_eq_ok.1 h
      exact .escaped c (ih h')
    | case4 pos t _ ih =>
      obtain ⟨ps', h', rfl⟩ := map_cons_eq_ok.1 h
      obtain ⟨n, e, hn⟩ := dropWhile_stars t
      rw [e]
      exact .stars n hn (ih h')
    | case5 => cases h
    | case6 => cases h
    | case7 pos t b rest hr _ hne ih =>
      obtain ⟨ps', h', rfl⟩ := map_cons_eq_ok.1 h
      exact .bracket hr (by simpa using hne) (ih h')
    | case8 pos c t hdangling hpair hstar hbracket ih =>
      obtain ⟨ps', h', rfl⟩ := map_cons_eq_ok.1 h
      exact .plain (plain_of_untried hdangling hpair hstar hbracket) (ih h')
  · intro h
    induction h generalizing pos with
    | nil => rw [readFrom]
    | dangling => rw [readFrom]
    | escaped c _ ih => rw [readFrom, ih]; rfl
    | stars n ends _ ih => rw [readFrom_stars n ends, ih]; rfl
    | bracket hr hne _ ih => rw [readFrom_bracket hr hne, ih]; rfl
    | plain hc _ ih => rw [readFrom_plain hc, ih]; rfl

theorem Spells.wordPattern_eq {word : Text} (h : Spells word ps) : wordPattern word = .ok (writeAll ps) := by
  rw [wordPattern, read, readFrom_eq_ok_iff.2 h]
  rfl

end WordPiece

end WrapShell
