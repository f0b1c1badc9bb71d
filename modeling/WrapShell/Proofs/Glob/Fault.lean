import WrapShell.Glob.Fault
import WrapShell.Line.Expand
import WrapShell.Proofs.Glob.Components
/-!
# Words that are no patterns

A bare word with live characters is refused for a bracket that is never closed, that has no member, or that holds a
slash, and for nothing else (`Node.expand_invalid`). Of the first two the first one in the word is told, before any
slash.
-/

namespace WrapShell

namespace Bracket

open BracketMember

variable {t rest inside : Text} {b : Bracket} {ms : List BracketMember}

/-! ## The end of a bracket -/

theorem readMembers_inside (h : IsInside inside) (rest : Text) :
    ∃ ms, readMembers (inside ++ ']' :: rest) = some (ms, rest) ∧ inside = ms.flatMap typed := by
  induction inside using Text.pairInduction with
  | nil => exact ⟨[], by simp [readMembers_char], rfl⟩
  | dangling => cases h
  | pair c t ih =>
    obtain ⟨ms, hms, rfl⟩ := ih (by simpa [IsInside] using h)
    exact ⟨.escaped c :: ms, by simp [readMembers, hms], rfl⟩
  | char c t hc ih =>
    rw [IsInside, Text.escapes_char hc, Bool.and_eq_true, bne_iff_ne] at h
    obtain ⟨ms, hms, rfl⟩ := ih h.2
    exact ⟨.live c :: ms, by simp [readMembers_char hc, h.1, hms], rfl⟩

theorem readMembers_eq_none_iff : readMembers t = none ↔ t.escapes (· != ']') (fun _ => true) true := by
  induction t using Text.pairInduction with
  | nil => exact iff_of_true rfl rfl
  | dangling => exact iff_of_true rfl rfl
  | pair c t ih => simp [readMembers, ih]
  | char c t hc ih =>
    rw [readMembers_char hc, Text.escapes_char hc]
    by_cases hb : c = ']'
    · simp [hb]
    · simp [hb, ih]

theorem isInside_typed (h : ∀ c, .live c ∈ ms → c ≠ ']' ∧ c ≠ '\\') : IsInside (ms.flatMap typed) := by
  induction ms with
  | nil => rfl
  | cons m ms ih =>
    have ih := ih fun c hc => h c (List.mem_cons_of_mem m hc)
    cases m with
    | escaped c => simpa [typed, IsInside] using ih
    | live c =>
      obtain ⟨hb, hs⟩ := h c List.mem_cons_self
      simpa [typed, IsInside, Text.escapes_char hs, hb] using ih

theorem slash_mem_typed : '/' ∈ ms.flatMap typed ↔ '/' ∈ ms.map BracketMember.char := by
  induction ms with
  | nil => rfl
  | cons m ms ih =>
    rw [List.flatMap_cons, List.mem_append, List.map_cons, List.mem_cons, ih]
    refine or_congr_left ?_
    cases m <;> simp [typed, char]

theorem typed_eq_nil_iff : ms.flatMap typed = [] ↔ ms = [] := by
  cases ms with
  | nil => simp
  | cons m ms => cases m <;> simp [typed]

theorem read_signed {c : Char} (hc : c = '!' ∨ c = '^') (t : Text) :
    read (c :: t) = (readMembers t).map fun (ms, rest) => (⟨true, ms⟩, rest) := by
  rcases hc with rfl | rfl <;> rfl

theorem read_unsigned (h : ∀ c u, t = c :: u → ¬(c = '!' ∨ c = '^')) :
    read t = (readMembers t).map fun (ms, rest) => (⟨false, ms⟩, rest) := by
  unfold read
  split
  · exact absurd (.inl rfl) (h _ _ rfl)
  · exact absurd (.inr rfl) (h _ _ rfl)
  · rfl

/-- What is read of a bracket that is closed. -/
theorem read_inside (h : IsInside inside) (rest : Text) :
    ∃ b, read (inside ++ ']' :: rest) = some (b, rest) ∧ (b.members = [] ↔ inside ∈ [[], ['!'], ['^']]) ∧
      (b.HoldsSlash ↔ '/' ∈ inside) := by
  by_cases hsign : ∃ c u, inside = c :: u ∧ (c = '!' ∨ c = '^')
  · obtain ⟨c, u, rfl, hc⟩ := hsign
    have hu : IsInside u := by
      rcases hc with rfl | rfl <;> simpa [IsInside, Text.escapes_char] using h
    obtain ⟨ms, hms, rfl⟩ := readMembers_inside hu rest
    refine ⟨⟨true, ms⟩, by rw [List.cons_append, read_signed hc, hms]; rfl, ?_, ?_⟩
    · rw [← typed_eq_nil_iff]
      rcases hc with rfl | rfl <;> simp
    · rw [HoldsSlash, ← slash_mem_typed]
      rcases hc with rfl | rfl <;> simp
  · obtain ⟨ms, hms, rfl⟩ := readMembers_inside h rest
    have hfirst : ∀ c u, ms.flatMap typed ++ ']' :: rest = c :: u → ¬(c = '!' ∨ c = '^') := by
      intro c u e hc
      cases hinside : ms.flatMap typed with
      | nil =>
        rw [hinside] at e
        cases e
        rcases hc with hc | hc <;> cases hc
      | cons d v =>
        rw [hinside] at e
        cases e
        exact hsign ⟨c, v, hinside, hc⟩
    refine ⟨⟨false, ms⟩, by rw [read_unsigned hfirst, hms]; rfl, ?_, by rw [HoldsSlash, ← slash_mem_typed]⟩
    rw [← typed_eq_nil_iff]
    constructor
    · rintro (e : ms.flatMap typed = [])
      simp [e]
    · intro hmem
      simp only [List.mem_cons, List.not_mem_nil, or_false] at hmem
      rcases hmem with e | e | e
      · exact e
      · exact absurd ⟨_, _, e, .inl rfl⟩ hsign
      · exact absurd ⟨_, _, e, .inr rfl⟩ hsign

theorem read_eq_none_iff : read t = none ↔ t.escapes (· != ']') (fun _ => true) true := by
  rw [← readMembers_eq_none_iff]
  unfold read
  split
  · rw [Option.map_eq_none_iff, readMembers_char (by decide)]
    simp
  · rw [Option.map_eq_none_iff, readMembers_char (by decide)]
    simp
  · rw [Option.map_eq_none_iff]

theorem isInside_of_read (h : read t = some (b, rest)) : ∃ inside, t = inside ++ ']' :: rest ∧ IsInside inside := by
  unfold read at h
  split at h
  all_goals
    obtain ⟨⟨ms, r⟩, hr, he⟩ := Option.map_eq_some_iff.1 h
    cases he
    obtain ⟨rfl, hms⟩ := readMembers_eq_some_iff.1 hr
    have hinside := isInside_typed hms
  · exact ⟨'!' :: ms.flatMap typed, rfl, by simpa [IsInside, Text.escapes_char] using hinside⟩
  · exact ⟨'^' :: ms.flatMap typed, rfl, by simpa [IsInside, Text.escapes_char] using hinside⟩
  · exact ⟨ms.flatMap typed, rfl, hinside⟩

/-! ## Where brackets open -/

theorem Outside.append {s : Text} (hs : Outside s) (ht : Outside t) : Outside (s ++ t) := by
  induction hs with
  | nil => exact ht
  | escaped c _ ih => exact .escaped c ih
  | char hc _ ih => exact .char hc ih
  | bracket hinside _ ih =>
    rw [List.append_assoc, List.cons_append]
    exact .bracket hinside ih

theorem outside_stars (n : Nat) : Outside (List.replicate n '*') := by
  induction n with
  | zero => exact .nil
  | succ n ih => exact .char (by decide) ih

theorem OpensAt.behind {s front : Text} (hs : Outside s) (h : OpensAt t front rest) : OpensAt (s ++ t) (s ++ front) rest :=
  ⟨by rw [h.word_eq, List.append_assoc], hs.append h.outside⟩

theorem OpensAt.append {word front : Text} (h : OpensAt word front t) (more : Text) : OpensAt (word ++ more) front (t ++ more) :=
  ⟨by rw [h.word_eq, List.append_assoc, List.cons_append], h.outside⟩

theorem HasFault.append (h : HasFault .empty t) (more : Text) : HasFault .empty (t ++ more) := by
  cases h with
  | empty hsign =>
    rw [List.append_assoc, List.cons_append]
    exact .empty hsign

theorem Any.behind {P : Text → Prop} {s : Text} (hs : Outside s) (h : Any P t) : Any P (s ++ t) := by
  obtain ⟨front, u, hopens, hu⟩ := h
  exact ⟨s ++ front, u, hopens.behind hs, hu⟩

theorem Any.behind_bracket {P : Text → Prop} (hinside : IsInside inside) (h : Any P t) : Any P ('[' :: (inside ++ ']' :: t)) := by
  simpa using h.behind (.bracket hinside .nil)

theorem AnyFault.exists_first {word : Text} (h : AnyFault word) : ∃ front fault, IsFirstFault word front fault := by
  obtain ⟨front, t, h, fault, hf⟩ := h
  induction hn : front.length using Nat.strong_induction_on generalizing front t fault with
  | _ n ih =>
    by_cases hearlier : ∃ front' t' fault', OpensAt word front' t' ∧ HasFault fault' t' ∧ front'.length < n
    · obtain ⟨front', t', fault', h', hf', hlt⟩ := hearlier
      exact ih _ hlt front' t' h' fault' hf' rfl
    · refine ⟨front, fault, ⟨t, h, hf⟩, fun front' t' fault' h' hf' => ?_⟩
      rw [hn]
      exact Nat.le_of_not_lt fun hlt => hearlier ⟨front', t', fault', h', hf', hlt⟩

end Bracket

namespace WordPiece

open WrapShell.Bracket

variable {word front t : Text} {ps : List WordPiece} {fault : Fault} {pos : Nat}

/-! ## What is read up to a bracket -/

theorem map_cons_append (p : WordPiece) (ps : List WordPiece) (x : Except PatternError (List WordPiece)) :
    (p :: ·) <$> (ps ++ ·) <$> x = (p :: ps ++ ·) <$> x := by
  cases x <;> rfl

theorem readFrom_fault (h : HasFault fault t) : readFrom pos ('[' :: t) = .error ⟨pos, fault.reason⟩ := by
  cases h with
  | unterminated hend =>
    rw [readFrom]
    split
    · rfl
    · rename_i h'
      rw [Bracket.read_eq_none_iff.2 hend] at h'
      cases h'
  | @empty sign rest hsign =>
    have hinside : IsInside sign := by
      simp only [List.mem_cons, List.not_mem_nil, or_false] at hsign
      rcases hsign with rfl | rfl | rfl <;> decide
    obtain ⟨b, hb, hempty, -⟩ := read_inside hinside rest
    rw [readFrom]
    split
    · simp_all
    · rename_i h'
      rw [hb] at h'
      cases h'
      rw [if_pos (by rw [hempty.2 hsign]; rfl)]
      rfl

theorem head_append_ne {s : Text} (hs : s.head? ≠ some '*') (ht : t.head? ≠ some '*') : (s ++ t).head? ≠ some '*' := by
  cases s with
  | nil => exact ht
  | cons c s => exact hs

theorem read_append {b : Bracket} {rest : Text} (h : Bracket.read t = some (b, rest)) (hne : b.members ≠ []) (more : Text) :
    Bracket.read (t ++ more) = some (b, rest ++ more) := by
  obtain ⟨hb, sign, rfl, hsign⟩ := (Bracket.read_eq_some_iff hne).1 h
  exact (Bracket.read_eq_some_iff hne).2 ⟨hb, sign, by simp, hsign⟩

theorem utf8Size_writeAll_cons (p : WordPiece) (ps : List WordPiece) :
    Text.utf8Size (writeAll (p :: ps)) = Text.utf8Size p.write + Text.utf8Size (writeAll ps) := by
  rw [writeAll, List.flatMap_cons, Text.utf8Size_append]
  rfl

/-- Pieces in front are read, and then what follows them; no star may follow, since it might belong to the last. -/
theorem Spells.readFrom_append (h : Spells front ps) (hp : .plain '\\' ∉ ps) (ht : t.head? ≠ some '*') :
    readFrom pos (front ++ t) = (ps ++ ·) <$> readFrom (pos + Text.utf8Size (writeAll ps)) t := by
  induction h generalizing pos with
  | nil =>
    change readFrom pos t = ([] ++ ·) <$> readFrom pos t
    cases readFrom pos t <;> rfl
  | dangling => exact absurd List.mem_cons_self hp
  | escaped c _ ih =>
    have ih {pos} := @ih pos fun h => hp (List.mem_cons_of_mem _ h)
    rw [List.cons_append, List.cons_append, readFrom, ih, map_cons_append, utf8Size_writeAll_cons, Nat.add_assoc]
  | @stars n u ps ends _ ih =>
    have ih {pos} := @ih pos fun h => hp (List.mem_cons_of_mem _ h)
    rw [List.append_assoc, readFrom_stars n (head_append_ne ends ht), ih, map_cons_append, utf8Size_writeAll_cons,
      Nat.add_assoc]
    rfl
  | bracket hr hne _ ih =>
    have ih {pos} := @ih pos fun h => hp (List.mem_cons_of_mem _ h)
    rw [List.cons_append, readFrom_bracket (read_append hr hne t) hne, ih, map_cons_append, utf8Size_writeAll_cons,
      Nat.add_assoc]
    rfl
  | @plain c _ _ hc _ ih =>
    have ih {pos} := @ih pos fun h => hp (List.mem_cons_of_mem _ h)
    rw [List.cons_append, readFrom_plain hc, ih, map_cons_append, utf8Size_writeAll_cons, Nat.add_assoc]
    rfl

/-- A text outside of brackets spells pieces, unless a bracket in it has no member. -/
theorem spells_or (h : Outside front) : (∃ ps, Spells front ps ∧ .plain '\\' ∉ ps) ∨
    Any (HasFault .empty) front := by
  induction h with
  | nil => exact .inl ⟨[], .nil, List.not_mem_nil⟩
  | escaped c _ ih =>
    refine ih.imp ?_ (Any.behind (.escaped c .nil))
    rintro ⟨ps, hps, hp⟩
    exact ⟨_, .escaped c hps, by simpa using hp⟩
  | @char c t hc _ ih =>
    refine ih.imp ?_ (Any.behind (.char hc .nil))
    rintro ⟨ps, hps, hp⟩
    simp only [List.mem_cons, List.not_mem_nil, or_false, not_or] at hc
    by_cases hs : c = '*'
    · subst hs
      obtain ⟨qs, hqs, hsub⟩ := hps.star
      exact ⟨qs, hqs, fun hmem => by simpa [hp] using hsub hmem⟩
    · exact ⟨_, .plain (by simp [hc, hs]) hps, by simpa [Ne.symm hc.1] using hp⟩
  | @bracket inside t hinside _ ih =>
    rw [List.cons_append]
    by_cases hsign : inside ∈ [[], ['!'], ['^']]
    · exact .inr ⟨[], inside ++ ']' :: t, ⟨rfl, .nil⟩, .empty hsign⟩
    · obtain ⟨b, hb, hempty, -⟩ := read_inside hinside t
      refine ih.imp ?_ fun h => ?_
      · rintro ⟨ps, hps, hp⟩
        exact ⟨_, .bracket hb (fun e => hsign (hempty.1 e)) hps, by simpa using hp⟩
      · exact h.behind_bracket hinside

/-! ## Faults -/

/-- The first fault in a word is told, at the end of the pattern that the word in front of it makes. -/
theorem read_of_isFirstFault (h : IsFirstFault word front fault) :
    ∃ ps, Spells front ps ∧ read word = .error ⟨Text.utf8Size (writeAll ps), fault.reason⟩ := by
  obtain ⟨t, ⟨rfl, hout⟩, hfault⟩ := h.here
  rcases spells_or hout with ⟨ps, hps, hp⟩ | ⟨front', u, hopens, hempty⟩
  · refine ⟨ps, hps, ?_⟩
    rw [read, hps.readFrom_append hp (by simp), readFrom_fault hfault, Nat.zero_add]
    rfl
  · -- a bracket without a member in front of the first fault would be an earlier one
    have hle := h.first front' _ _ (hopens.append _) (hempty.append _)
    have hlength := congrArg List.length hopens.word_eq
    rw [List.length_append, List.length_cons] at hlength
    omega

theorem Spells.not_anyFault (h : Spells word ps) : ¬AnyFault word := by
  intro hany
  obtain ⟨front, fault, hfirst⟩ := hany.exists_first
  obtain ⟨qs, -, herror⟩ := read_of_isFirstFault hfirst
  rw [read, readFrom_eq_ok_iff.2 h] at herror
  cases herror

theorem map_cons_eq_error {α ε : Type} {x : α} {r : Except ε (List α)} {e : ε} (h : (x :: ·) <$> r = .error e) : r = .error e := by
  cases r with
  | error => exact h
  | ok => cases h

/-- Only a fault keeps a word from being read. -/
theorem anyFault_of_error {e : PatternError} (h : readFrom pos t = .error e) : AnyFault t := by
  fun_induction readFrom pos t with
  | case1 | case2 => cases h
  | case3 pos c t ih => exact (ih (map_cons_eq_error h)).behind (.escaped c .nil)
  | case4 pos t _ ih =>
    obtain ⟨n, e, -⟩ := dropWhile_stars t
    have := (ih (map_cons_eq_error h)).behind (outside_stars (n + 1))
    rwa [List.replicate_succ, List.cons_append, ← e] at this
  | case5 pos t hnone => exact ⟨[], t, ⟨rfl, .nil⟩, .unterminated, .unterminated (Bracket.read_eq_none_iff.1 hnone)⟩
  | case6 pos t b rest hr _ hempty =>
    obtain ⟨inside, rfl, hinside⟩ := isInside_of_read hr
    obtain ⟨b', hb', hsign, -⟩ := read_inside hinside rest
    rw [hr] at hb'
    cases hb'
    exact ⟨[], _, ⟨rfl, .nil⟩, .empty, .empty (hsign.1 (List.isEmpty_iff.1 hempty))⟩
  | case7 pos t b rest hr _ _ ih =>
    obtain ⟨inside, rfl, hinside⟩ := isInside_of_read hr
    exact (ih (map_cons_eq_error h)).behind_bracket hinside
  | case8 pos c t hdangling hpair hstar hbracket ih =>
    have hc := plain_of_untried hdangling hpair hstar hbracket
    simp only [List.mem_cons, List.not_mem_nil, or_false, not_or] at hc
    exact (ih (map_cons_eq_error h)).behind (.char (by simp [hc]) .nil)

theorem exists_spells_of_not_anyFault (h : ¬AnyFault word) : ∃ ps, Spells word ps := by
  cases hread : readFrom 0 word with
  | ok ps => exact ⟨ps, readFrom_eq_ok_iff.1 hread⟩
  | error => exact absurd (anyFault_of_error hread) h

/-! ## Slashes -/

/-- Behind a front without a fault the pieces of a word go on with a bracket that is closed. -/
theorem Spells.holdsSlash (h : Spells word ps) (hs : AnySlash word) : ∃ p ∈ ps, p.HoldsSlash := by
  obtain ⟨front, _, hopens, inside, rest, rfl, hinside, hslash⟩ := hs
  obtain ⟨b, hb, hempty, hholds⟩ := read_inside hinside rest
  have hne : b.members ≠ [] := fun e => h.not_anyFault ⟨front, _, hopens, .empty, .empty (hempty.1 e)⟩
  obtain ⟨qs, hqs, hq⟩ := (spells_or hopens.outside).resolve_right fun ⟨front', u, hopens', hfault⟩ => by
    have hword := hopens.word_eq
    subst hword
    exact h.not_anyFault ⟨front', _, hopens'.append _, .empty, hfault.append _⟩
  have hread : readFrom 0 word = .ok ps := readFrom_eq_ok_iff.2 h
  rw [hopens.word_eq, hqs.readFrom_append hq (by simp), readFrom_bracket hb hne] at hread
  generalize readFrom _ rest = r at hread
  cases r with
  | error => cases hread
  | ok => cases hread; exact ⟨.bracket b, by simp, hholds.2 hslash⟩

/-- Where in a word a bracket among its pieces stands. -/
theorem Spells.opensAt {b : Bracket} (h : Spells word ps) (hb : .bracket b ∈ ps) :
    Any (fun t => ∃ rest, Bracket.read t = some (b, rest)) word := by
  induction h with
  | nil => cases hb
  | dangling => simp at hb
  | escaped c _ ih => exact (ih (by simpa using hb)).behind (.escaped c .nil)
  | stars n _ _ ih => exact (ih (by simpa using hb)).behind (outside_stars (n + 1))
  | bracket hr _ _ ih =>
    rcases List.mem_cons.1 hb with e | hb
    · cases e
      exact ⟨[], _, ⟨rfl, .nil⟩, _, hr⟩
    · obtain ⟨inside, rfl, hinside⟩ := isInside_of_read hr
      exact (ih hb).behind_bracket hinside
  | plain hc _ ih =>
    simp only [List.mem_cons, List.not_mem_nil, or_false, not_or] at hc
    exact (ih (by simpa using hb)).behind (.char (by simp [hc]) .nil)

theorem Spells.anySlash {p : WordPiece} (h : Spells word ps) (hp : p ∈ ps) (hslash : p.HoldsSlash) : AnySlash word := by
  cases p with
  | plain | escaped | stars => exact absurd hslash id
  | bracket b =>
    obtain ⟨front, t, hopens, rest, hr⟩ := h.opensAt hp
    obtain ⟨inside, rfl, hinside⟩ := isInside_of_read hr
    obtain ⟨b', hb', -, hholds⟩ := read_inside hinside rest
    rw [hr] at hb'
    cases hb'
    exact ⟨front, _, hopens, inside, rest, rfl, hinside, hholds.1 hslash⟩

/-! ## Tokens -/

theorem becomes_classToken (b : Bracket) : (bracket b).Becomes (classToken b) := by
  rw [classToken]
  split
  · exact .bang b
  · split
    · exact .except b _
    · exact .within b _

theorem Spells.becomes (h : Spells word ps) : List.Forall₂ Becomes ps (ps.map token) := by
  induction h with
  | nil => exact .nil
  | dangling => exact .cons (.plain (by decide)) .nil
  | escaped c _ ih =>
    refine .cons ?_ ih
    rw [token]
    split
    · next hc => exact .special (by simpa using hc)
    · next hc => exact .escaped (by simpa using hc)
  | stars _ _ _ ih => exact .cons .anyRun ih
  | bracket _ _ _ ih => exact .cons (becomes_classToken _) ih
  | @plain c _ _ hc _ ih =>
    refine .cons ?_ ih
    simp only [List.mem_cons, List.not_mem_nil, or_false, not_or] at hc
    rw [token]
    split
    · next hq => subst hq; exact .anyChar
    · next hq => exact .plain (by simp [hc, hq])

theorem classToken_cases (b : Bracket) : classToken b ≠ .anyRun ∧ classToken b ≠ .anyDepth := by
  rw [classToken]
  split
  · decide
  · split <;> simp

theorem token_eq_anyRun_iff {p : WordPiece} : p.token = .anyRun ↔ p = .stars := by
  cases p with
  | stars => simp [token]
  | bracket b => simp [token, (classToken_cases b).1]
  | plain | escaped => rw [token]; split <;> simp

theorem token_ne_anyDepth (p : WordPiece) : p.token ≠ .anyDepth := by
  cases p with
  | stars => simp [token]
  | bracket b => exact (classToken_cases b).2
  | plain | escaped => rw [token]; split <;> simp

/-- A run of stars is one piece. -/
theorem Spells.stars_apart (h : Spells word ps) : (ps.map token).IsChain fun k l => ¬(k = .anyRun ∧ l = .anyRun) := by
  induction h with
  | nil => exact .nil
  | dangling => exact .singleton _
  | @stars n t ps ends more ih =>
    refine List.isChain_cons.2 ⟨fun l hl ⟨_, he⟩ => ?_, ih⟩
    cases more with
    | stars => exact ends rfl
    | nil => cases hl
    | dangling | escaped | bracket | plain =>
      cases hl
      cases token_eq_anyRun_iff.1 he
  | escaped _ _ ih | bracket _ _ _ ih | plain _ _ ih =>
    refine List.isChain_cons.2 ⟨fun _ _ ⟨hk, _⟩ => ?_, ih⟩
    cases token_eq_anyRun_iff.1 hk

end WordPiece

/-! ## Words -/

section

variable {here : Place} {word w : Text} {ps : List WordPiece} {e : PatternError}

theorem expandWord_live (hlive : stripEscapes word = none) :
    expandWord here word = (matchWord here word).map (·.map quoteSpaced) := by
  rw [expandWord, hlive]

theorem expandWord_read_error (hlive : stripEscapes word = none) (h : WordPiece.read word = .error e) :
    expandWord here word = .error (.invalidPattern word e) := by
  rw [expandWord_live hlive, matchWord, wordPattern, h]
  rfl

theorem expandWord_readPath_error (hlive : stripEscapes word = none) (h : WordPiece.Spells word ps)
    (hread : Pattern.readPath (WordPiece.writeAll ps) = .error e) : expandWord here word = .error (.invalidPattern word e) := by
  rw [expandWord_live hlive, matchWord, h.wordPattern_eq]
  simp only [Place.glob, hread]
  rfl

theorem expandWord_of_readPath {kss : List (List Pattern.Token)} (hlive : stripEscapes word = none) (h : WordPiece.Spells word ps)
    (hread : Pattern.readPath (WordPiece.writeAll ps) = .ok kss) : expandWord here word ≠ .error (.invalidPattern w e) := by
  rw [expandWord_live hlive, matchWord, h.wordPattern_eq]
  simp only [Place.glob, hread]
  generalize here.search _ _ _ _ = paths
  cases paths <;> simp [Except.map]

end

namespace Node

open WrapShell.Bracket

/-- A bare word with a live metacharacter is refused as a pattern exactly for a bracket with a fault or a slash in it,
and the first fault is told before any slash. Any other word is read the same as a whole and by its components: each
piece gives one token, and no two stars are left side by side for a `**`. -/
theorem expand_invalid {text : Text} (hlive : text.escapes (fun c => !metacharacters.contains c) (fun _ => true) true = false)
    (here : Place) (lookup : Text → Text) :
    ((∃ w e, (word text).expand here lookup = .error (.invalidPattern w e)) ↔ AnyFault text ∨ AnySlash text) ∧
    (AnyFault text → ∃ front fault pattern, IsFirstFault text front fault ∧ wordPattern front = .ok pattern ∧
      (word text).expand here lookup = .error (.invalidPattern text ⟨Text.utf8Size pattern, fault.reason⟩)) ∧
    (¬AnyFault text → AnySlash text → ∃ pos,
      (word text).expand here lookup = .error (.invalidPattern text (Pattern.invalidRange pos))) ∧
    (¬AnyFault text → ¬AnySlash text → ∃ ps pattern ks, WordPiece.Spells text ps ∧ wordPattern text = .ok pattern ∧
      Pattern.read pattern = .ok ks ∧ Pattern.readPath pattern = .ok (Pattern.cutTokens ks) ∧
      List.Forall₂ WordPiece.Becomes ps ks ∧ (ks.IsChain fun k l => ¬(k = .anyRun ∧ l = .anyRun)) ∧
      .anyDepth ∉ ks ∧ ∀ l ∈ Pattern.cutTokens ks, .anyDepth ∉ l) := by
  have hlive := stripEscapes_eq_none_iff.2 hlive
  have hexpand : (word text).expand here lookup = expandWord here text := by rw [expand]
  rw [hexpand]
  have hfault : AnyFault text → ∃ front fault pattern, IsFirstFault text front fault ∧ wordPattern front = .ok pattern ∧
      expandWord here text = .error (.invalidPattern text ⟨Text.utf8Size pattern, fault.reason⟩) := by
    intro hany
    obtain ⟨front, fault, hfirst⟩ := hany.exists_first
    obtain ⟨ps, hps, herror⟩ := WordPiece.read_of_isFirstFault hfirst
    exact ⟨front, fault, _, hfirst, hps.wordPattern_eq, expandWord_read_error hlive herror⟩
  have hslash : ¬AnyFault text → AnySlash text →
      ∃ pos, expandWord here text = .error (.invalidPattern text (Pattern.invalidRange pos)) := by
    intro hnone hany
    obtain ⟨ps, hps⟩ := WordPiece.exists_spells_of_not_anyFault hnone
    obtain ⟨pos, hread⟩ := hps.readPath_slash (hps.holdsSlash hany)
    exact ⟨pos, expandWord_readPath_error hlive hps hread⟩
  refine ⟨⟨?_, ?_⟩, hfault, hslash, ?_⟩
  · rintro ⟨w, e, herror⟩
    by_contra hnone
    rw [not_or] at hnone
    obtain ⟨ps, hps⟩ := WordPiece.exists_spells_of_not_anyFault hnone.1
    exact expandWord_of_readPath hlive hps (hps.readPath fun p hp hs => hnone.2 (hps.anySlash hp hs)) herror
  · rintro hany
    by_cases h : AnyFault text
    · obtain ⟨_, _, _, -, -, herror⟩ := hfault h
      exact ⟨_, _, herror⟩
    · obtain ⟨_, herror⟩ := hslash h (hany.resolve_left h)
      exact ⟨_, _, herror⟩
  · intro hnone hplain
    obtain ⟨ps, hps⟩ := WordPiece.exists_spells_of_not_anyFault hnone
    have hdepth : .anyDepth ∉ ps.map WordPiece.token := by
      rw [List.mem_map]
      rintro ⟨p, -, hp⟩
      exact p.token_ne_anyDepth hp
    exact ⟨ps, _, _, hps, hps.wordPattern_eq, hps.readsAs true 0,
      hps.readPath fun p hp hs => hplain (hps.anySlash hp hs), hps.becomes, hps.stars_apart, hdepth,
      fun l hl hk => hdepth (Pattern.mem_of_mem_cutTokens hl hk)⟩

/-- The bracket that is never closed is told, and not the slash in the one before it. -/
theorem expand_invalid_open :
    Text.escapes (fun c => !metacharacters.contains c) (fun _ => true) true "a[x/y]*[b".toList = false ∧
      AnySlash "a[x/y]*[b".toList ∧
      ∀ (here : Place) (lookup : Text → Text), ∃ front fault pattern, IsFirstFault "a[x/y]*[b".toList front fault ∧
        wordPattern front = .ok pattern ∧ (word "a[x/y]*[b".toList).expand here lookup =
          .error (.invalidPattern "a[x/y]*[b".toList ⟨Text.utf8Size pattern, fault.reason⟩) := by
  have hfront : Outside "a[x/y]*".toList :=
    .char (by decide) (@Outside.bracket "x/y".toList ['*'] (by decide) (.char (by decide) .nil))
  have hslash : HasSlash "x/y]*[b".toList := ⟨"x/y".toList, "*[b".toList, rfl, by decide, by decide⟩
  exact ⟨by decide, ⟨['a'], _, ⟨rfl, .char (by decide) .nil⟩, hslash⟩, fun here lookup =>
    (expand_invalid (by decide) here lookup).2.1 ⟨_, ['b'], ⟨rfl, hfront⟩, _, .unterminated (by decide)⟩⟩

end Node

end WrapShell
