import WrapShell.Proofs.Suggest.Candidates
/-!
# Typing on

What is offered for a word is all that its source holds and that begins with the word, in order
(`CommandTree.suggest_selects`). So a word that is typed further is offered those of the candidates that still
fit, and no others (`CommandTree.suggest_narrows`).
-/

namespace WrapShell

namespace Candidate

variable {ks ls source : List Candidate} {word : Text}

theorem le_total (a b : Candidate) : le a b || le b a := by
  by_cases h : a.text = b.text
  · simpa [le, h] using List.le_total a.description b.description
  · simpa [le, h, Ne.symm h] using List.le_total a.text b.text

theorem le_trans {a b c : Candidate} (h : le a b) (h' : le b c) : le a c := by
  unfold le at *
  split at h <;> split at h' <;> split
  all_goals rw [decide_eq_true_eq] at *
  · exact List.le_trans h h'
  · next hab hbc hac => exact absurd (hab.trans hbc) hac
  · next hab hbc hac => exact absurd (hab.symm.trans hac) hbc
  · next hab _ _ => rwa [hab]
  · next hab hbc hac => exact absurd (hac.trans hbc.symm) hab
  · next _ hbc _ => rwa [← hbc]
  · next hab _ hac => exact absurd (List.le_antisymm h (hac ▸ h')) hab
  · exact List.le_trans h h'

theorem le_antisymm {a b : Candidate} (h : le a b) (h' : le b a) : a = b := by
  by_cases ht : a.text = b.text
  · rw [le, if_pos ht, decide_eq_true_eq] at h
    rw [le, if_pos ht.symm, decide_eq_true_eq] at h'
    obtain ⟨text, description⟩ := a
    exact congr (congrArg mk ht) (List.le_antisymm h h')
  · rw [le, if_neg ht, decide_eq_true_eq] at h
    rw [le, if_neg (Ne.symm ht), decide_eq_true_eq] at h'
    exact absurd (List.le_antisymm h h') ht

/-- The candidates of a source for a word: in order, each begins with the word, and each that does is there as
often as the source holds it. -/
structure Selects (source : List Candidate) (word : Text) (ks : List Candidate) : Prop where
  sorted : ks.Pairwise fun a b => le a b
  begins : ∀ k ∈ ks, word <+: k.text
  count : ∀ k, word <+: k.text → ks.count k = source.count k

theorem begins_iff {k : Candidate} : Text.startsWith k.text word ↔ word <+: k.text := List.isPrefixOf_iff_prefix

theorem Selects.count_eq_zero (h : Selects source word ks) {k : Candidate} (hk : ¬word <+: k.text) : ks.count k = 0 :=
  List.count_eq_zero.2 fun hmem => hk (h.begins k hmem)

/-- Nothing is left open by what is said about the candidates. -/
theorem Selects.unique (h : Selects source word ks) (h' : Selects source word ls) : ks = ls := by
  have hperm : ks.Perm ls := List.perm_iff_count.2 fun k => by
    by_cases hk : word <+: k.text
    · rw [h.count k hk, h'.count k hk]
    · rw [h.count_eq_zero hk, h'.count_eq_zero hk]
  exact hperm.eq_of_pairwise (fun a b _ _ => le_antisymm) h.sorted h'.sorted

theorem selects_sort (source : List Candidate) (word : Text) :
    Selects source word (sort (source.filter fun k => Text.startsWith k.text word)) where
  sorted := @List.pairwise_mergeSort _ le (fun _ _ _ => le_trans) le_total _
  begins k hk := begins_iff.1 (List.mem_filter.1 (mem_sort.1 hk)).2
  count k hk := by
    have hperm := List.mergeSort_perm (source.filter fun k => Text.startsWith k.text word) le
    rw [sort, hperm.count_eq, List.count_filter]
    exact begins_iff.2 hk

/-- A longer word selects from what the shorter one has selected. -/
theorem Selects.filter (h : Selects source word ks) (more : Text) :
    Selects source (word ++ more) (ks.filter fun k => Text.startsWith k.text (word ++ more)) where
  sorted := h.sorted.filter _
  begins k hk := begins_iff.1 (List.mem_filter.1 hk).2
  count k hk := by
    rw [List.count_filter, h.count k ((List.prefix_append word more).trans hk)]
    exact begins_iff.2 hk

end Candidate

open Candidate (Selects)

variable {ask : Ask} {here : Place} {word more : Text} {words : List Text}

/-- The values of a source, unless they are paths. -/
def ValueSource.values (s : ValueSource) (ask : Ask) : List Candidate :=
  (if s.program ≠ [] then (((ask s.program).map Text.lines).getD []).filter (· ≠ []) else s.choices).map .plain

theorem ValueSource.candidates_eq_filter {s : ValueSource} (hs : ¬s.IsPaths) :
    s.candidates ask here word = (s.values ask).filter fun k => Text.startsWith k.text word := by
  unfold candidates values
  dsimp only
  split
  · rw [List.filter_map]
    rfl
  · next hprogram =>
    split
    · rw [List.filter_map]
      rfl
    · next hchoices =>
      rw [Decidable.not_not] at hprogram hchoices
      rw [if_neg fun hkind => hs ⟨hprogram, hchoices, hkind⟩, hchoices]
      rfl

namespace CommandTree

variable {t : CommandTree} {pending : Option FlagInfo}

/-- All that a word at a command may stand for, unless these are paths: the flags for one that begins with a dash,
else the values of the flag that waits, else the subcommands, or the values of a command without any. -/
def known (t : CommandTree) (pending : Option FlagInfo) (ask : Ask) (word : Text) : List Candidate :=
  if word.head? = some '-' then t.flags.map fun e => ⟨e.1, e.2.description⟩
  else
    match pending with
    | some flag => flag.source.values ask
    | none => if t.subcommands.isEmpty then t.source.values ask else t.subcommands.map fun e => ⟨e.1, e.2.description⟩

theorem offers_eq_filter (hpaths : ¬t.OffersPaths pending word) :
    t.offers pending ask here word = (t.known pending ask word).filter fun k => Text.startsWith k.text word := by
  unfold offers known
  split
  · rw [flagCandidates, List.filter_map]
    rfl
  · next hflag =>
    cases pending with
    | some flag => exact ValueSource.candidates_eq_filter fun hs => hpaths ⟨hflag, hs⟩
    | none =>
      dsimp only
      split
      · next hsub => exact ValueSource.candidates_eq_filter fun hs => hpaths ⟨hflag, List.isEmpty_iff.1 hsub, hs⟩
      · rw [subcommandCandidates, List.filter_map]
        rfl

/-- All that a word behind some words may stand for. -/
def knownAfter (t : CommandTree) (words : List Text) (ask : Ask) (word : Text) : List Candidate :=
  (t.walk none words).1.known (t.walk none words).2 ask word

theorem suggest_selects (hpaths : ¬t.SuggestsPaths words word) :
    Selects (t.knownAfter words ask word) word (t.suggest ask here (words ++ [word]) true) := by
  rw [suggest_partly, offers_eq_filter hpaths]
  exact Candidate.selects_sort _ _

/-- A word that is just being started differs from the empty word in nothing. -/
theorem suggest_started : t.suggest ask here words false = t.suggest ask here (words ++ [[]]) true := by
  rw [suggest_partly]
  rfl

theorem head_append (h : word ≠ [] ∨ more.head? ≠ some '-') : (word ++ more).head? = some '-' ↔ word.head? = some '-' := by
  cases word with
  | nil => simpa using h.resolve_left (by simp)
  | cons c word => exact Iff.rfl

/-- Typing on leads to no other source. -/
theorem knownAfter_append (h : word ≠ [] ∨ more.head? ≠ some '-') :
    t.knownAfter words ask (word ++ more) = t.knownAfter words ask word := by
  simp only [knownAfter, known, head_append h]

theorem suggestsPaths_append (h : word ≠ [] ∨ more.head? ≠ some '-') :
    t.SuggestsPaths words (word ++ more) ↔ t.SuggestsPaths words word := by
  simp only [SuggestsPaths, OffersPaths, ne_eq, head_append h]

/-- What is offered for a word that is typed further is what was offered for it before and still begins with it, in the
same order. Before and after it is all that the source holds and that begins with the word, in order and with nothing
twice that the source does not hold twice. A word that has not been started may not become a flag. -/
theorem suggest_narrows (hmore : word ≠ [] ∨ more.head? ≠ some '-') (hpaths : ¬t.SuggestsPaths words (word ++ more)) :
    let shorter := if word = [] then t.suggest ask here words false else t.suggest ask here (words ++ [word]) true
    let longer := t.suggest ask here (words ++ [word ++ more]) true
    longer = shorter.filter (fun k => Text.startsWith k.text (word ++ more)) ∧
      Selects (t.knownAfter words ask word) word shorter ∧
      Selects (t.knownAfter words ask word) (word ++ more) longer := by
  intro shorter longer
  have hshorter : shorter = t.suggest ask here (words ++ [word]) true := by
    by_cases h : word = []
    · rw [h, ← suggest_started]
      exact if_pos h
    · exact if_neg h
  have hbefore : Selects (t.knownAfter words ask word) word shorter := by
    rw [hshorter]
    exact suggest_selects fun h => hpaths ((suggestsPaths_append hmore).2 h)
  have hafter : Selects (t.knownAfter words ask word) (word ++ more) longer := by
    rw [← knownAfter_append hmore]
    exact suggest_selects hpaths
  exact ⟨hafter.unique (hbefore.filter more), hbefore, hafter⟩

/-- The value of a flag from a program that writes one line twice. -/
theorem suggest_narrows_repeated :
    let t : CommandTree := { flags := [("-b", { source := { program := ["git", "branch"] } })] }
    let ask : Ask := fun _ => some "main\nmaster\n\nmain\n"
    let source : List Candidate := [⟨"main", []⟩, ⟨"master", []⟩, ⟨"main", []⟩]
    ¬t.SuggestsPaths ["-b"] "mai" ∧ t.knownAfter ["-b"] ask "m" = source ∧
      ∀ here, t.suggest ask here ["-b", "mai"] true =
          (t.suggest ask here ["-b", "m"] true).filter (fun k => Text.startsWith k.text "mai") ∧
        Selects source "mai" (t.suggest ask here ["-b", "mai"] true) := by
  intro t ask source
  have hpaths : ¬t.SuggestsPaths ["-b"] "mai" := fun h => List.cons_ne_nil _ _ h.2.noProgram
  have hsource : t.knownAfter ["-b"] ask "m" = source := rfl
  refine ⟨hpaths, hsource, fun here => ?_⟩
  obtain ⟨hfilter, -, hafter⟩ := @suggest_narrows ask here "m" "ai" ["-b"] t (.inl (by simp)) hpaths
  exact ⟨hfilter, hsource ▸ hafter⟩

end CommandTree

end WrapShell
