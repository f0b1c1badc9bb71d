import WrapShell.Proofs.Glob.Bracket
/-!
# From pieces to tokens

The pattern of a word is read as one token for each piece of the word (`Spells.readsAs`), whatever
stands before and behind it. What a typed bracket becomes on this way is said by `read_bracket`.
-/

namespace WrapShell

namespace Pattern

variable {start : Bool} {pos : Nat} {s t rest : Text} {ks : List Token} {k : Token} {c : Char}

/-- A text that is read the same wherever it stands. -/
def ReadsAs (t : Text) (ks : List Token) : Prop := ∀ start pos, readFrom start pos t = .ok ks

/-- In front of `t` the text `s` is read as one token, and reading goes on with `t`. -/
def Adds (s : Text) (k : Token) (t : Text) : Prop :=
  ∀ start pos, ∃ start' pos', readFrom start pos (s ++ t) = (k :: ·) <$> readFrom start' pos' t

attribute [local simp] readFrom

theorem ReadsAs.nil : ReadsAs [] [] := fun _ _ => by rw [readFrom]

theorem Adds.readsAs (h : Adds s k t) (ht : ReadsAs t ks) : ReadsAs (s ++ t) (k :: ks) := by
  intro start pos
  obtain ⟨start', pos', e⟩ := h start pos
  rw [e, ht]
  rfl

theorem readFrom_char (hc : c ∉ ['?', '*', '[']) (t : Text) :
    readFrom start pos (c :: t) = (.char c :: ·) <$> readFrom (c == '/') (pos + 1) t := by
  simp only [List.mem_cons, List.not_mem_nil, or_false, not_or] at hc
  rw [readFrom] <;> simp [hc]

theorem adds_char (hc : c ∉ ['?', '*', '[']) : Adds [c] (.char c) t := fun _ _ => ⟨_, _, readFrom_char hc t⟩

theorem adds_anyChar : Adds ['?'] .anyChar t := fun start pos => ⟨_, _, by rw [List.singleton_append, readFrom]⟩

theorem adds_anyRun (ht : t.head? ≠ some '*') : Adds ['*'] .anyRun t := by
  intro start pos
  refine ⟨false, pos + 1, ?_⟩
  cases t with
  | nil => simp
  | cons c t =>
    have hc : c ≠ '*' := by simpa using ht
    rw [List.singleton_append, readFrom] <;> simp [hc]

theorem adds_class (hk : readClass (s ++ t) = some (k, t)) : Adds ('[' :: s) k t := by
  intro start pos
  rw [List.cons_append, readFrom]
  split
  · simp_all
  · rename_i h
    rw [hk] at h
    cases h
    exact ⟨_, _, rfl⟩

theorem literal_readClass {k : Token} {rest : Text} (h : readClass t = some (k, rest)) (ks : List Token) :
    literal? (k :: ks) = none := by
  unfold readClass at h
  split at h
  · obtain ⟨_, -, he⟩ := Option.map_eq_some_iff.1 h
    cases he
    rfl
  · cases h
  · obtain ⟨_, -, he⟩ := Option.map_eq_some_iff.1 h
    cases he
    rfl
  · cases h

/-- Where every token is a plain character, the pattern is what these are. -/
theorem eq_of_read_literal {n : Text} (h : readFrom start pos t = .ok ks) (hn : literal? ks = some n) : n = t := by
  fun_induction readFrom start pos t generalizing ks n with
  | case1 => cases h; cases hn; rfl
  | case3 | case5 | case6 | case7 | case10 => cases h
  | case4 => cases h; cases hn
  | case2 | case8 | case9 =>
    obtain ⟨ks', -, rfl⟩ := WordPiece.map_cons_eq_ok.1 h
    cases hn
  | case11 _ _ _ k rest hk =>
    obtain ⟨ks', -, rfl⟩ := WordPiece.map_cons_eq_ok.1 h
    rw [literal_readClass hk] at hn
    cases hn
  | case12 start pos c t _ _ _ _ _ _ ih =>
    obtain ⟨ks', hread, rfl⟩ := WordPiece.map_cons_eq_ok.1 h
    obtain ⟨m, hm, rfl⟩ := Option.map_eq_some_iff.1 hn
    rw [ih hread hm]

end Pattern

namespace WordPiece

open Pattern

theorem adds_escaped (c : Char) (t : Text) : Adds (escaped c).write (escaped c).token t := by
  by_cases hc : c = '*' ∨ c = '?' ∨ c = '[' ∨ c = ']'
  · rw [token, if_pos hc]
    have hw : (escaped c).write = ['[', c, ']'] := by rcases hc with rfl | rfl | rfl | rfl <;> rfl
    rw [hw]
    refine adds_class ?_
    rcases hc with rfl | rfl | rfl | rfl <;> rfl
  · rw [token, if_neg hc]
    have hw : (escaped c).write = [c] := by simp_all [write]
    rw [hw]
    simp only [not_or] at hc
    exact adds_char (by simp [hc])

theorem adds_bracket {b : Bracket} (hb : b.IsTyped) (t : Text) : Adds b.write (classToken b) t := by
  rw [b.write_eq hb]
  split
  · next hw =>
    rw [classToken, if_pos hw]
    exact adds_char (by decide)
  · next hw =>
    refine adds_class ?_
    simpa using hb.readClass hw t

theorem head_write (b : Bracket) : ∃ c t, b.write = c :: t ∧ c ≠ '*' ∧ c ≠ '/' := by
  rw [Bracket.write]
  split
  · exact ⟨'!', [], rfl, by decide⟩
  · exact ⟨'[', _, rfl, by decide⟩

theorem write_ne_nil (p : WordPiece) : p.write ≠ [] := by
  cases p with
  | plain | stars => exact List.cons_ne_nil _ _
  | escaped c =>
    rw [write]
    split <;> exact List.cons_ne_nil _ _
  | bracket b =>
    obtain ⟨c, t, e, -⟩ := head_write b
    rw [write, e]
    exact List.cons_ne_nil c t

/-- No pattern starts with a star that the word does not start with. -/
theorem Spells.head_writeAll {word : Text} {ps : List WordPiece} (h : Spells word ps) (hs : word.head? ≠ some '*') :
    (writeAll ps).head? ≠ some '*' := by
  cases h with
  | nil => simp [writeAll]
  | dangling => simp [writeAll, write]
  | escaped c =>
    by_cases hc : c = '*'
    · subst hc; simp [writeAll, write]
    · simp only [writeAll, List.flatMap_cons, write]
      split <;> simp [hc]
  | stars n => exact absurd rfl hs
  | @bracket b =>
    obtain ⟨c, t, e, hc, -⟩ := head_write b
    simp [writeAll, write, e, hc]
  | plain hc => simpa [writeAll, write] using hs

/-- The piece in front is read as its token, in front of anything that no star of its own begins. -/
theorem Spells.adds {word t : Text} {p : WordPiece} {ps : List WordPiece} (h : Spells word (p :: ps))
    (ht : t.head? = some '*' → (writeAll ps).head? = some '*') : Adds p.write p.token t := by
  cases h with
  | dangling => exact adds_char (by decide)
  | escaped c => exact adds_escaped c t
  | stars n ends more => exact adds_anyRun fun e => more.head_writeAll ends (ht e)
  | bracket hr hne => exact adds_bracket ((Bracket.read_eq_some_iff hne).1 hr).1 t
  | @plain c _ _ hc =>
    simp only [List.mem_cons, List.not_mem_nil, or_false, not_or] at hc
    by_cases hq : c = '?'
    · subst hq; exact adds_anyChar
    · rw [token, if_neg hq]
      exact adds_char (by simp [hc, hq])

theorem Spells.tail {word : Text} {p : WordPiece} {ps : List WordPiece} (h : Spells word (p :: ps)) :
    ∃ pre t, word = pre ++ t ∧ Spells t ps := by
  cases h with
  | dangling => exact ⟨['\\'], [], rfl, .nil⟩
  | escaped c more => exact ⟨['\\', c], _, rfl, more⟩
  | stars n _ more => exact ⟨_, _, rfl, more⟩
  | @bracket b _ _ _ hr hne more =>
    obtain ⟨-, sign, rfl, -⟩ := (Bracket.read_eq_some_iff hne).1 hr
    exact ⟨'[' :: (sign ++ b.members.flatMap BracketMember.typed ++ [']']), _, by simp, more⟩
  | plain _ more => exact ⟨[_], _, rfl, more⟩

theorem Spells.readsAs {word : Text} {ps : List WordPiece} (h : Spells word ps) : ReadsAs (writeAll ps) (ps.map token) := by
  induction ps generalizing word with
  | nil => exact .nil
  | cons p ps ih =>
    obtain ⟨-, t, -, ht⟩ := h.tail
    exact (h.adds fun e => e).readsAs (ih ht)

theorem Spells.drop {word : Text} {ps qs : List WordPiece} (h : Spells word (ps ++ qs)) :
    ∃ pre t, word = pre ++ t ∧ Spells t qs := by
  induction ps generalizing word with
  | nil => exact ⟨[], word, rfl, h⟩
  | cons p ps ih =>
    obtain ⟨u, t, rfl, ht⟩ := h.tail
    obtain ⟨v, t', rfl, ht'⟩ := ih ht
    exact ⟨u ++ v, t', by simp, ht'⟩

/-- What comes of a bracket in a word, as it is typed there: one class, at its place between the
other pieces. It has the rearranged members, and it stands for the characters that the bracket
was typed for exactly if these do. -/
theorem read_bracket {word : Text} {ps qs : List WordPiece} {b : Bracket} (h : read word = .ok (ps ++ .bracket b :: qs)) :
    (b.IsTyped ∧ ∃ pre sign post, word = pre ++ '[' :: sign ++ b.members.flatMap BracketMember.typed ++ ']' :: post ∧
      if b.negated then sign = ['!'] ∨ sign = ['^'] else sign = []) ∧
    (∃ pattern ks k ls, wordPattern word = .ok pattern ∧ Pattern.read pattern = .ok (ks ++ k :: ls) ∧
      ks.length = ps.length ∧ ls.length = qs.length ∧ (∀ c, describes [k] [c] = b.rearranged.has c) ∧
      ((∀ c, describes [k] [c] = b.has c) ↔ b.Faithful)) ∧
    (b.IsSettled → b.Faithful) := by
  have hs := readFrom_eq_ok_iff.1 h
  refine ⟨?_, ?_, Bracket.IsSettled.faithful⟩
  · obtain ⟨pre, t, rfl, ht⟩ := hs.drop
    cases ht with
    | @bracket _ _ post _ hr hne _ =>
      obtain ⟨hb, sign, rfl, hsign⟩ := (Bracket.read_eq_some_iff hne).1 hr
      exact ⟨hb, pre, sign, post, by simp, hsign⟩
  · refine ⟨_, ps.map token, classToken b, qs.map token, by rw [wordPattern, h]; rfl, ?_, by simp, by simp,
      b.describes_classToken, ?_⟩
    · have := hs.readsAs true 0
      rwa [List.map_append, List.map_cons] at this
    · simp only [b.describes_classToken, b.faithful_iff]

/-- A range stays one, and a `]` behind it comes to stand in front. -/
theorem read_bracket_settled :
    ∃ pattern ks k ls, wordPattern "x[a-c\\]]*".toList = .ok pattern ∧ Pattern.read pattern = .ok (ks ++ k :: ls) ∧
      ks.length = 1 ∧ ls.length = 1 ∧
      ∀ c, describes [k] [c] = Bracket.has ⟨false, [.live 'a', .live '-', .live 'c', .escaped ']']⟩ c := by
  have h : read "x[a-c\\]]*".toList =
      .ok ([.plain 'x'] ++ .bracket ⟨false, [.live 'a', .live '-', .live 'c', .escaped ']']⟩ :: [.stars]) := by decide +kernel
  obtain ⟨-, ⟨pattern, ks, k, ls, hp, hr, hks, hls, -, hiff⟩, hsettled⟩ := read_bracket h
  exact ⟨pattern, ks, k, ls, hp, hr, hks, hls, hiff.2 (hsettled (by decide))⟩

/-- An escaped `-` leaves a `!` in front, and the class is negated. -/
example : ¬(Bracket.mk false [.escaped '-', .live '!', .live 'a']).Faithful := by decide

/-- An escaped `!` leaves the `-` behind it in front, and the range is gone. -/
example : ¬(Bracket.mk false [.escaped '!', .live '-', .live 'a']).Faithful := by decide

end WordPiece

end WrapShell
