import WrapShell.Glob.Search
import WrapShell.Proofs.Glob.Token
import WrapShell.Proofs.Text.Cut
/-!
# Components of a pattern

The pattern of a word is read a second time, cut at its slashes. Where no bracket holds a slash, the tokens of the
components are those of the whole pattern, cut at its slashes (`Spells.readPath`); where one does, the component that
ends in it is no pattern (`Spells.readPath_slash`).
-/

namespace WrapShell

namespace Pattern

variable {s t x : Text} {ts : List Text} {ks l : List Token} {kss : List (List Token)} {k : Token}

/-! ## Lists of components -/

/-- Tokens cut at the slashes; neither one in front nor one at the end cuts anything off. -/
def cutTokens (ks : List Token) : List (List Token) :=
  let pieces := (if ks.head? = some (.char '/') then ks.tail else ks).splitOn (.char '/')
  if pieces.getLast? = some [] then pieces.dropLast else pieces

/-- A text that is no pattern, wherever it stands, for want of the end of a class. -/
def Fails (t : Text) : Prop := ∀ start pos, ∃ pos', readFrom start pos t = .error (invalidRange pos')

theorem Adds.fails (h : Adds s k t) (ht : Fails t) : Fails (s ++ t) := by
  intro start pos
  obtain ⟨start', pos', e⟩ := h start pos
  obtain ⟨pos'', e'⟩ := ht start' pos'
  exact ⟨pos'', by rw [e, e']; rfl⟩

theorem fails_class (h : readClass t = none) : Fails ('[' :: t) := by
  intro start pos
  refine ⟨pos, ?_⟩
  rw [readFrom]
  split
  · rfl
  · simp_all

/-- Texts of which one fails, behind others that are read. -/
inductive Stops : List Text → Prop
  | here {t : Text} {ts : List Text} (fails : Fails t) : Stops (t :: ts)
  | behind {t : Text} {ts : List Text} {ks : List Token} (reads : ReadsAs t ks) (more : Stops ts) : Stops (t :: ts)

theorem Stops.mapM (h : Stops ts) : ∃ pos, ts.mapM read = .error (invalidRange pos) := by
  induction h with
  | here fails =>
    obtain ⟨pos, e⟩ := fails true 0
    exact ⟨pos, by rw [List.mapM_cons, read, e]; rfl⟩
  | behind reads _ ih =>
    obtain ⟨pos, e⟩ := ih
    exact ⟨pos, by rw [List.mapM_cons, read, reads, e]; rfl⟩

theorem Stops.dropLast (h : Stops ts) (hlast : ts.getLast? = some []) : Stops ts.dropLast := by
  induction h with
  | @here t ts fails =>
    cases ts with
    | nil =>
      cases hlast
      obtain ⟨pos, e⟩ := fails true 0
      rw [ReadsAs.nil] at e
      cases e
    | cons u ts => exact .here fails
  | @behind t ts _ reads more ih =>
    cases ts with
    | nil => cases more
    | cons u ts =>
      rw [List.getLast?_cons_cons] at hlast
      exact .behind reads (ih hlast)

theorem mapM_of_readsAs (h : List.Forall₂ ReadsAs ts kss) : ts.mapM read = .ok kss := by
  induction h with
  | nil => rfl
  | cons reads _ ih =>
    rw [List.mapM_cons, read, reads, ih]
    rfl

theorem ReadsAs.nil_iff (h : ReadsAs t ks) : t = [] ↔ ks = [] := by
  constructor
  · rintro rfl
    exact Except.ok.inj ((h true 0).symm.trans (ReadsAs.nil true 0))
  · rintro rfl
    exact (eq_of_read_literal (h true 0) rfl).symm

theorem getLast?_nil_iff (h : List.Forall₂ ReadsAs ts kss) : ts.getLast? = some [] ↔ kss.getLast? = some [] := by
  induction h with
  | nil => simp
  | @cons t ks ts kss reads more ih =>
    cases more with
    | nil => simp [reads.nil_iff]
    | cons => rwa [List.getLast?_cons_cons, List.getLast?_cons_cons]

theorem forall₂_dropLast (h : List.Forall₂ ReadsAs ts kss) : List.Forall₂ ReadsAs ts.dropLast kss.dropLast := by
  rw [List.dropLast_eq_take, List.dropLast_eq_take, h.length_eq]
  exact List.forall₂_take _ h

theorem mem_of_mem_cutTokens (h : l ∈ cutTokens ks) (hk : k ∈ l) : k ∈ ks := by
  have htail : k ∈ (if ks.head? = some (.char '/') then ks.tail else ks) → k ∈ ks := by
    split
    · exact List.mem_of_mem_tail
    · exact id
  rw [cutTokens] at h
  generalize (if ks.head? = some (.char '/') then ks.tail else ks) = ks' at h htail
  split at h
  · exact htail (mem_of_mem_splitOn (List.dropLast_subset _ h) hk)
  · exact htail (mem_of_mem_splitOn h hk)

/-! ## Classes without an end -/

theorem splitClass_eq_none (h : ']' ∉ t) : splitClass t = none := by
  induction t with
  | nil => rfl
  | cons c t ih =>
    rw [List.mem_cons, not_or] at h
    rw [splitClass, if_neg (Ne.symm h.1), ih h.2]
    rfl

/-- The first member of a class does not end it, with a sign in front of it or without. -/
theorem readClass_eq_none (h : ']' ∉ t.tail) : readClass t = none ∧ readClass ('!' :: t) = none := by
  cases t with
  | nil => exact ⟨rfl, rfl⟩
  | cons c t =>
    have hnone : splitClass t = none := splitClass_eq_none h
    refine ⟨?_, by rw [readClass, hnone]; rfl⟩
    by_cases hc : c = '!'
    · subst hc
      cases t with
      | nil => rfl
      | cons d t =>
        rw [readClass, splitClass_eq_none fun hmem => h (List.mem_cons_of_mem d hmem)]
        rfl
    · simp [readClass, hc, hnone]

end Pattern

namespace Bracket

variable {b : Bracket} {lead : Bool} {ms : List BracketMember} {c : Char}

/-- A bracket with a slash among its members. -/
def HoldsSlash (b : Bracket) : Prop := '/' ∈ b.members.map BracketMember.char

theorem mem_kept_or_moved (h : c ∈ ms.map BracketMember.char) : c ∈ kept lead ms ∨ c ∈ moved lead ms := by
  rw [← map_marked lead] at h
  obtain ⟨m, hm, rfl⟩ := List.mem_map.1 h
  cases hmoves : m.2 with
  | true => exact .inr (List.mem_map_of_mem (List.mem_filter.2 ⟨hm, hmoves⟩))
  | false => exact .inl (List.mem_map_of_mem (List.mem_filter.2 ⟨hm, by simp [hmoves]⟩))

/-- A slash does not leave its place. -/
theorem slash_mem_sorted_iff : '/' ∈ b.sorted ↔ b.HoldsSlash := by
  refine ⟨mem_sorted, fun h => mem_sorted_iff.2 (.inl ?_)⟩
  rw [parts_eq]
  refine (mem_kept_or_moved h).resolve_right fun hmoved => ?_
  rcases mem_moved hmoved with hc | hc | hc <;> cases hc

theorem IsTyped.slash_not_mem (h : b.IsTyped) (hs : ¬b.HoldsSlash) : '/' ∉ b.write := by
  have hsorted : '/' ∉ b.sorted := fun hmem => hs (slash_mem_sorted_iff.1 hmem)
  rw [b.write_eq h]
  split
  · decide
  · cases b.negated <;> simp [hsorted]

/-- The first slash of a written bracket leaves its class without an end. -/
theorem IsTyped.splitOn_slash (h : b.IsTyped) (hs : b.HoldsSlash) (t : Text) :
    ∃ s u, b.write ++ t = '[' :: s ++ '/' :: u ∧ '/' ∉ s ∧ Pattern.readClass s = none := by
  obtain ⟨s, u, hsorted, hfirst⟩ := List.eq_append_cons_of_mem (slash_mem_sorted_iff.2 hs)
  have hend : ']' ∉ s.tail := by
    obtain ⟨c, v, e, hv⟩ := h.sorted_cons
    rw [hsorted] at e
    cases s with
    | nil => simp
    | cons d s =>
      obtain ⟨-, rfl⟩ := List.cons.inj e
      exact fun hmem => hv (List.mem_append_left _ hmem)
  obtain ⟨hplain, hsigned⟩ := Pattern.readClass_eq_none hend
  have hlone : b.sorted ≠ ['!'] := by
    rw [hsorted]
    rintro e
    have := congrArg ('/' ∈ ·) e
    simp at this
  rw [b.write_eq h, if_neg fun e => hlone e.2, hsorted]
  cases b.negated with
  | false => exact ⟨s, u ++ ']' :: t, by simp, hfirst, hplain⟩
  | true => exact ⟨'!' :: s, u ++ ']' :: t, by simp, by simpa using hfirst, hsigned⟩

end Bracket

namespace WordPiece

open Pattern

variable {word : Text} {p : WordPiece} {ps : List WordPiece} {t : Text}

/-- A bracket with a slash among its members. -/
def HoldsSlash : WordPiece → Prop
  | .bracket b => b.HoldsSlash
  | _ => False

theorem Spells.isTyped {b : Bracket} (h : Spells word (.bracket b :: ps)) : b.IsTyped := by
  cases h with
  | bracket hr hne => exact ((Bracket.read_eq_some_iff hne).1 hr).1

theorem classToken_ne_slash (b : Bracket) : classToken b ≠ .char '/' := by
  rw [classToken]
  split
  · decide
  · split <;> simp

/-- A piece is a slash in the pattern and among the tokens, or in neither. -/
theorem Spells.slash_or (h : Spells word (p :: ps)) (hp : ¬p.HoldsSlash) :
    (p.write = ['/'] ∧ p.token = .char '/') ∨ ('/' ∉ p.write ∧ p.token ≠ .char '/') := by
  cases p with
  | plain c =>
    by_cases hc : c = '/'
    · subst hc; exact .inl ⟨rfl, rfl⟩
    · refine .inr ⟨by simpa [write] using Ne.symm hc, ?_⟩
      rw [token]
      split <;> simp [hc]
  | escaped c =>
    by_cases hc : c = '/'
    · subst hc; exact .inl ⟨rfl, rfl⟩
    · refine .inr ⟨?_, ?_⟩
      · rw [write]
        split <;> simp [Ne.symm hc]
      · rw [token]
        split <;> simp [hc]
  | stars => exact .inr ⟨by decide, by simp [token]⟩
  | bracket b => exact .inr ⟨h.isTyped.slash_not_mem hp, classToken_ne_slash b⟩

/-- A pattern begins with a slash exactly if its tokens do. -/
theorem Spells.front_or (h : Spells word (p :: ps)) :
    (p.write = ['/'] ∧ p.token = .char '/' ∧ ¬p.HoldsSlash) ∨ ∃ c t, p.write = c :: t ∧ c ≠ '/' ∧ p.token ≠ .char '/' := by
  by_cases hp : p.HoldsSlash
  · cases p with
    | plain | escaped | stars => exact absurd hp id
    | bracket b =>
      obtain ⟨c, t, e, -, hc⟩ := head_write b
      exact .inr ⟨c, t, e, hc, classToken_ne_slash b⟩
  · rcases h.slash_or hp with ⟨hw, hk⟩ | ⟨hw, hk⟩
    · exact .inl ⟨hw, hk, hp⟩
    · obtain ⟨c, t, e⟩ := List.exists_cons_of_ne_nil p.write_ne_nil
      exact .inr ⟨c, t, e, by rintro rfl; exact hw (e ▸ List.mem_cons_self), hk⟩

theorem head_of_splitOn {x : Text} {rest : List Text} (h : List.splitOn '/' t = x :: rest) (hx : x.head? = some '*') : t.head? = some '*' := by
  cases t with
  | nil => cases h; cases hx
  | cons c t =>
    by_cases hc : c = '/'
    · subst hc
      rw [splitOn_cons_self] at h
      cases h
      cases hx
    · obtain ⟨first, rest', ht⟩ := List.exists_cons_of_ne_nil (List.splitOn_ne_nil '/' t)
      rw [splitOn_cons_ne hc, ht] at h
      cases h
      exact hx

/-- Where no bracket holds a slash, cutting at the slashes and reading come to the same in either order. -/
theorem Spells.components (h : Spells word ps) (hs : ∀ p ∈ ps, ¬p.HoldsSlash) :
    List.Forall₂ ReadsAs (List.splitOn '/' (writeAll ps)) ((ps.map token).splitOn (.char '/')) := by
  induction ps generalizing word with
  | nil => exact .cons .nil .nil
  | cons p ps ih =>
    obtain ⟨hp, hps⟩ := List.forall_mem_cons.1 hs
    obtain ⟨-, t, -, ht⟩ := h.tail
    have ih := ih ht hps
    change List.Forall₂ ReadsAs (List.splitOn '/' (p.write ++ writeAll ps)) ((p.token :: ps.map token).splitOn (.char '/'))
    rcases h.slash_or hp with ⟨hw, hk⟩ | ⟨hw, hk⟩
    · rw [hw, hk, List.singleton_append, splitOn_cons_self, splitOn_cons_self]
      exact .cons .nil ih
    · obtain ⟨x, rest, hcut, hfront⟩ := splitOn_front hw (writeAll ps)
      rw [hcut] at ih
      obtain ⟨k, kss, hk', hkss, e⟩ := List.forall₂_cons_left_iff.1 ih
      rw [hfront, splitOn_cons_ne hk, e]
      exact .cons ((h.adds (head_of_splitOn hcut)).readsAs hk') hkss

/-- Where some bracket holds a slash, a component fails. -/
theorem Spells.stops (h : Spells word ps) (hs : ∃ p ∈ ps, p.HoldsSlash) : Stops (List.splitOn '/' (writeAll ps)) := by
  induction ps generalizing word with
  | nil => simp at hs
  | cons p ps ih =>
    change Stops (List.splitOn '/' (p.write ++ writeAll ps))
    by_cases hp : p.HoldsSlash
    · cases p with
      | plain | escaped | stars => exact absurd hp id
      | bracket b =>
        obtain ⟨s, u, e, hslash, hnone⟩ := h.isTyped.splitOn_slash hp (writeAll ps)
        rw [write, e, List.splitOn_append_cons_self_of_not_mem (by simpa using hslash)]
        exact .here (fails_class hnone)
    · obtain ⟨q, hq, hqs⟩ := hs
      have hq : q ∈ ps := (List.mem_cons.1 hq).resolve_left fun e => hp (e ▸ hqs)
      obtain ⟨-, t, -, ht⟩ := h.tail
      have ih := ih ht ⟨q, hq, hqs⟩
      rcases h.slash_or hp with ⟨hw, -⟩ | ⟨hw, -⟩
      · rw [hw, List.singleton_append, splitOn_cons_self]
        exact .behind .nil ih
      · obtain ⟨x, rest, hcut, hfront⟩ := splitOn_front hw (writeAll ps)
        rw [hcut] at ih
        rw [hfront]
        have hadds := h.adds (head_of_splitOn hcut)
        cases ih with
        | here fails => exact .here (hadds.fails fails)
        | behind reads more => exact .behind (hadds.readsAs reads) more

/-- The pieces behind a slash in front are what the pattern and the tokens have behind theirs. -/
theorem Spells.relative (h : Spells word ps) : ∃ t qs, Spells t qs ∧
    (if Path.isAbsolute (writeAll ps) then (writeAll ps).tail else writeAll ps) = writeAll qs ∧
    (if (ps.map token).head? = some (.char '/') then (ps.map token).tail else ps.map token) = qs.map token ∧
    ∀ p, p.HoldsSlash → (p ∈ ps ↔ p ∈ qs) := by
  cases ps with
  | nil => exact ⟨word, [], h, rfl, rfl, fun _ _ => Iff.rfl⟩
  | cons p ps =>
    rcases h.front_or with ⟨hw, hk, hp⟩ | ⟨c, w, hw, hc, hk⟩
    · obtain ⟨-, t, -, ht⟩ := h.tail
      refine ⟨t, ps, ht, ?_, ?_, fun q hq => ?_⟩
      · rw [writeAll, List.flatMap_cons, hw]
        rfl
      · rw [List.map_cons, hk]
        rfl
      · have hne : q ≠ p := fun e => hp (e ▸ hq)
        rw [List.mem_cons, or_iff_right hne]
    · refine ⟨word, p :: ps, h, ?_, ?_, fun _ _ => Iff.rfl⟩
      · rw [writeAll, List.flatMap_cons, hw, List.cons_append, Path.isAbsolute, if_neg (by simpa using hc)]
      · rw [List.map_cons, List.head?_cons, if_neg (by simpa using hk)]

/-- Where no bracket holds a slash, both ways of reading the pattern cut it at the same places. -/
theorem Spells.readPath (h : Spells word ps) (hs : ∀ p ∈ ps, ¬p.HoldsSlash) :
    Pattern.readPath (writeAll ps) = .ok (cutTokens (ps.map token)) := by
  obtain ⟨t, qs, ht, hpattern, htokens, hmem⟩ := h.relative
  have hcomponents := ht.components fun p hp hslash => hs p ((hmem p hslash).2 hp) hslash
  rw [Pattern.readPath, Pattern.read, h.readsAs, Pattern.components, hpattern, cutTokens, htokens]
  dsimp only
  by_cases hlast : (List.splitOn '/' (writeAll qs)).getLast? = some []
  · rw [if_pos hlast, if_pos ((getLast?_nil_iff hcomponents).1 hlast)]
    exact mapM_of_readsAs (forall₂_dropLast hcomponents)
  · rw [if_neg hlast, if_neg fun e => hlast ((getLast?_nil_iff hcomponents).2 e)]
    exact mapM_of_readsAs hcomponents

/-- Where some bracket holds a slash, the pattern is refused for a class without an end. -/
theorem Spells.readPath_slash (h : Spells word ps) (hs : ∃ p ∈ ps, p.HoldsSlash) :
    ∃ pos, Pattern.readPath (writeAll ps) = .error (invalidRange pos) := by
  obtain ⟨t, qs, ht, hpattern, -, hmem⟩ := h.relative
  obtain ⟨p, hp, hslash⟩ := hs
  have hstops := ht.stops ⟨p, (hmem p hslash).1 hp, hslash⟩
  rw [Pattern.readPath, Pattern.read, h.readsAs, Pattern.components, hpattern]
  dsimp only
  split
  · next hlast => exact (hstops.dropLast hlast).mapM
  · exact hstops.mapM

end WordPiece

end WrapShell
