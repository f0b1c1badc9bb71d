import WrapShell.Suggest.CommandTree
/-!
# What is offered begins with what is typed

Values from a program, choices, subcommands and flags are offered only if they begin with the word that is
typed (`prefix_of_mem_suggest`). For paths that is a matter of the files, so they are told apart
(`CommandTree.SuggestsPaths`).
-/

namespace WrapShell

variable {k : Candidate} {ask : Ask} {here : Place} {word : Text} {words : List Text}

theorem Candidate.mem_sort {ks : List Candidate} : k ∈ sort ks ↔ k ∈ ks := List.mem_mergeSort

namespace ValueSource

variable {s : ValueSource}

/-- The values of the source are paths. -/
structure IsPaths (s : ValueSource) : Prop where
  noProgram : s.program = []
  noChoices : s.choices = []
  paths : s.kind = .path

theorem prefix_of_mem_candidates (hs : ¬s.IsPaths) (h : k ∈ s.candidates ask here word) : word <+: k.text := by
  have startingWith {values : List Text} (h : k ∈ (values.filter (Text.startsWith · word)).map Candidate.plain) :
      word <+: k.text := by
    obtain ⟨value, hvalue, rfl⟩ := List.mem_map.1 h
    exact List.isPrefixOf_iff_prefix.1 (List.mem_filter.1 hvalue).2
  unfold candidates at h
  dsimp only at h
  split at h
  · exact startingWith h
  · next hprogram =>
    split at h
    · exact startingWith h
    · next hchoices =>
      split at h
      · next hkind => exact absurd ⟨Decidable.not_not.1 hprogram, Decidable.not_not.1 hchoices, hkind⟩ hs
      · cases h

end ValueSource

namespace CommandTree

variable {t : CommandTree} {pending : Option FlagInfo}

/-- What is offered at a command for a word are paths: the word is no flag, and the values of the flag that
waits are paths, or if none waits, those of a command without subcommands. -/
def OffersPaths (t : CommandTree) (pending : Option FlagInfo) (word : Text) : Prop :=
  word.head? ≠ some '-' ∧
    match pending with
    | some flag => flag.source.IsPaths
    | none => t.subcommands = [] ∧ t.source.IsPaths

/-- What is offered for a word behind some words are paths. -/
def SuggestsPaths (t : CommandTree) (words : List Text) (word : Text) : Prop :=
  (t.walk none words).1.OffersPaths (t.walk none words).2 word

/-- The names among which a word is completed begin with it. -/
theorem prefix_of_mem_named {α : Type} {entries : List (Text × α)} {describe : Text × α → Text}
    (h : k ∈ (entries.filter fun e => Text.startsWith e.1 word).map fun e => ⟨e.1, describe e⟩) : word <+: k.text := by
  obtain ⟨e, he, rfl⟩ := List.mem_map.1 h
  exact List.isPrefixOf_iff_prefix.1 (List.mem_filter.1 he).2

theorem prefix_of_mem_offers (hpaths : ¬t.OffersPaths pending word) (h : k ∈ t.offers pending ask here word) :
    word <+: k.text := by
  unfold offers at h
  split at h
  · exact prefix_of_mem_named h
  · next hflag =>
    cases pending with
    | some flag => exact ValueSource.prefix_of_mem_candidates (fun hs => hpaths ⟨hflag, hs⟩) h
    | none =>
      dsimp only at h
      split at h
      · next hsub =>
        exact ValueSource.prefix_of_mem_candidates (fun hs => hpaths ⟨hflag, List.isEmpty_iff.1 hsub, hs⟩) h
      · exact prefix_of_mem_named h

theorem suggest_partly : t.suggest ask here (words ++ [word]) true =
    Candidate.sort ((t.walk none words).1.offers (t.walk none words).2 ask here word) := by
  simp only [suggest, if_true, List.dropLast_concat, List.getLastD_concat]

theorem prefix_of_mem_suggest (hpaths : ¬t.SuggestsPaths words word) (h : k ∈ t.suggest ask here (words ++ [word]) true) :
    word <+: k.text := by
  rw [suggest_partly, Candidate.mem_sort] at h
  exact prefix_of_mem_offers hpaths h

end CommandTree

end WrapShell
