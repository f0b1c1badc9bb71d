import Mathlib.Data.List.DropRight
import WrapShell.Completion
import WrapShell.Proofs.Line.Lossless
import WrapShell.Proofs.Suggest.Candidates
/-!
# The word that is completed

Candidates come for the last argument of a line, and take the place of what stands behind its last blank. These
are the same thing as long as the argument has no blank in it. In one that has, behind a backslash or in a
quote, only the part behind the last blank gives way, and if nothing is behind it, a next argument is started
(`ofLine_argument`). The byte that the part starts at is one where the text can be cut, on every line (`ofLine_cut`).
-/

namespace WrapShell

/-! ## Texts cut at a number of bytes -/

namespace Text

theorem utf8Size_eq_zero {t : Text} : utf8Size t = 0 ↔ t = [] := by
  cases t with
  | nil => simp
  | cons c t => simpa using fun h => absurd h c.utf8Size_pos.ne'

/-- A text can be cut at a number of bytes in one way only. -/
theorem append_inj_of_utf8Size {s s' t t' : Text} (h : s ++ t = s' ++ t') (hsize : utf8Size s = utf8Size s') : t = t' := by
  have short {more : Text} (hmore : utf8Size s = utf8Size s + utf8Size more) : more = [] :=
    utf8Size_eq_zero.1 (by omega)
  rcases List.append_eq_append_iff.1 h with ⟨more, hs, ht⟩ | ⟨more, hs, ht⟩
  · rw [hs, utf8Size_append] at hsize
    rw [ht, short hsize, List.nil_append]
  · rw [hs, utf8Size_append] at hsize
    rw [ht, utf8Size_eq_zero.1 (show utf8Size more = 0 by omega), List.nil_append]

theorem length_utf8 (t : Text) : (utf8 t).length = utf8Size t := by
  induction t with
  | nil => rfl
  | cons c t ih =>
    rw [utf8, List.flatMap_cons, List.length_append, String.length_utf8EncodeChar, utf8Size_cons, ← ih]
    rfl

theorem utf8_append (s t : Text) : utf8 (s ++ t) = utf8 s ++ utf8 t := List.flatMap_append

theorem isValid_utf8Size (s t : Text) : (⟨utf8Size s⟩ : String.Pos.Raw).IsValid (String.ofList (s ++ t)) := by
  refine String.Pos.Raw.isValid_iff_exists_append.2 ⟨String.ofList s, String.ofList t, String.ofList_append, ?_⟩
  rw [← length_utf8, utf8]
  refine String.Pos.Raw.ext ?_
  rw [String.byteIdx_rawEndPos, String.utf8ByteSize, String.toByteArray_ofList, List.utf8Encode, List.size_toByteArray]

end Text

/-! ## The end of a line -/

namespace Command

variable {line : Text} {c : Command}

/-- Nothing of a next argument is typed yet: the line is empty, or ends in a blank that separates. -/
def StartsNext (line : Text) : Prop := line = [] ∨ (Guard.free.separates line).getLast? = some true

theorem IsCanonical.render_ne_nil {a : Arg} (h : c.IsCanonical) (ha : a ∈ c.args) : a.render ≠ [] := by
  obtain ⟨n, ns, hnodes⟩ := List.exists_cons_of_ne_nil (h.nonempty a ha)
  obtain ⟨d, t, hrender, -⟩ := (h.nodes a ha n (by simp [hnodes])).head_render
  simp [Arg.render, hnodes, Node.renderAll, hrender]

theorem spaced_concat {rs gaps : List Text} (h : gaps.length = rs.length) (r g : Text) :
    spaced (rs ++ [r]) (gaps ++ [g]) = spaced rs gaps ++ r ++ g := by
  simp [spaced, List.zipWith_append h.symm]

theorem spacedMarks_concat {rs gaps : List Text} (h : gaps.length = rs.length) (r g : Text) :
    spacedMarks (rs ++ [r]) (gaps ++ [g]) = spacedMarks rs gaps ++ r.map (fun _ => false) ++ g.map fun _ => true := by
  simp [spacedMarks, List.zipWith_append h.symm]

/-- Whatever is in front of an argument ends in a blank. -/
theorem getLast?_spaced {rs gaps : List Text} {lead : Text} (hlen : gaps.length = rs.length) (hlead : lead.allBlank)
    (hgaps : ∀ g ∈ gaps, g.allBlank ∧ g ≠ []) : ∀ b ∈ (lead ++ spaced rs gaps).getLast?, isBlank b := by
  have last {g : Text} (hg : g.allBlank) : ∀ b ∈ g.getLast?, isBlank b := fun b hb =>
    List.all_eq_true.1 hg b (List.mem_of_getLast? hb)
  rcases List.eq_nil_or_concat' gaps with rfl | ⟨gaps, g, rfl⟩
  · simpa [spaced] using last hlead
  · rcases List.eq_nil_or_concat' rs with rfl | ⟨rs, r, rfl⟩
    · simp at hlen
    · obtain ⟨hg, hne⟩ := hgaps g (by simp)
      rw [spaced_concat (by simpa using hlen), ← List.append_assoc, List.getLast?_append_of_ne_nil _ hne]
      exact last hg

/-- A line that is read either starts a next argument, or its last argument goes on to its end. -/
theorem last_argument (h : read line = .ok c) :
    (StartsNext line ∧ ∀ b ∈ line.getLast?, isBlank b) ∨
      ¬StartsNext line ∧ ∃ earlier arg front, c.renderArgs = earlier ++ [arg] ∧ line = front ++ arg ∧ arg ≠ [] ∧
        ∀ b ∈ front.getLast?, isBlank b := by
  obtain ⟨lead, gaps, hlen, hlead, hgaps, hinner, hline, hmarks⟩ := read_lossless h
  rcases List.eq_nil_or_concat' c.renderArgs with hargs | ⟨earlier, arg, hargs⟩
  · -- no argument at all
    rw [hargs] at hlen hline hmarks
    obtain rfl : gaps = [] := List.length_eq_zero_iff.1 hlen
    obtain rfl : line = lead := by simpa [spaced] using hline
    refine .inl ⟨?_, fun b hb => List.all_eq_true.1 hlead b (List.mem_of_getLast? hb)⟩
    rcases List.eq_nil_or_concat' line with rfl | ⟨blanks, b, rfl⟩
    · exact .inl rfl
    · exact .inr (by simp [hmarks, spacedMarks])
  · rcases List.eq_nil_or_concat' gaps with rfl | ⟨gaps, gap, rfl⟩
    · simp [hargs] at hlen
    · have harg : arg ≠ [] := by
        obtain ⟨a, ha, hrender⟩ := List.mem_map.1 (show arg ∈ c.renderArgs by simp [hargs])
        exact hrender ▸ (isCanonical_of_read h).render_ne_nil ha
      rw [hargs] at hlen hline hmarks
      replace hlen : gaps.length = earlier.length := by simpa using hlen
      rw [spaced_concat hlen] at hline
      rw [spacedMarks_concat hlen] at hmarks
      rw [List.dropLast_concat] at hinner
      by_cases hgap : gap = []
      · subst hgap
        refine .inr ⟨?_, earlier, arg, lead ++ spaced earlier gaps, hargs, by simpa using hline, harg,
          getLast?_spaced hlen hlead fun g hg => ⟨hgaps g (by simp [hg]), hinner g hg⟩⟩
        rintro (hnil | hlast)
        · simp [hnil, harg] at hline
        · obtain ⟨init, d, rfl⟩ := (List.eq_nil_or_concat' arg).resolve_left harg
          rw [hmarks] at hlast
          simp at hlast
      · obtain ⟨init, b, rfl⟩ := (List.eq_nil_or_concat' gap).resolve_left hgap
        refine .inl ⟨.inr (by simp [hmarks]), fun b' hb' => ?_⟩
        rw [hline, ← List.append_assoc, ← List.append_assoc, List.getLast?_concat] at hb'
        obtain rfl := Option.some.inj hb'
        exact List.all_eq_true.1 (hgaps (init ++ [b]) (by simp)) b (by simp)

end Command

/-! ## The last word -/

namespace Completion

variable {t front word before : Text} {d : Char} {tree : CommandTree} {ask : Ask} {here : Place}

/-- It is what a search from the end finds in front of the first blank. -/
theorem lastWord_eq_rtakeWhile (t : Text) : lastWord t = t.rtakeWhile (!isBlank ·) := rfl

theorem lastWord_concat (h : isBlank d = false) : lastWord (t ++ [d]) = lastWord t ++ [d] := by
  rw [lastWord_eq_rtakeWhile, List.rtakeWhile_concat_pos _ _ _ (by simpa using h), lastWord_eq_rtakeWhile]

theorem lastWord_concat_blank (h : isBlank d) : lastWord (t ++ [d]) = [] := by
  rw [lastWord_eq_rtakeWhile, List.rtakeWhile_concat_neg _ _ _ (by simpa using h)]

theorem lastWord_eq_self : lastWord t = t ↔ ∀ b ∈ t, isBlank b = false := by
  rw [lastWord_eq_rtakeWhile, List.rtakeWhile_eq_self_iff]
  simp

/-- In front of the last word stands nothing, or a blank. -/
theorem exists_front (t : Text) : ∃ front, t = front ++ lastWord t ∧ ∀ b ∈ front.getLast?, isBlank b := by
  refine ⟨t.rdropWhile (!isBlank ·), List.rdropWhile_append_rtakeWhile.symm, fun b hb => ?_⟩
  obtain ⟨hne, rfl⟩ := List.mem_getLast?_eq_getLast hb
  simpa using List.rdropWhile_last_not _ _ hne

theorem isBlank_of_mem_lastWord (h : d ∈ lastWord t) : isBlank d = false := by
  rw [lastWord_eq_rtakeWhile] at h
  simpa using List.mem_rtakeWhile_imp h

theorem lastWord_eq_nil (h : ∀ b ∈ t.getLast?, isBlank b) : lastWord t = [] := by
  rcases List.eq_nil_or_concat' t with rfl | ⟨init, b, rfl⟩
  · rfl
  · exact lastWord_concat_blank (by simpa using h)

/-- What is in front of a word does not count if it ends in a blank, or if the word has a blank itself. -/
theorem lastWord_append (h : (∀ b ∈ front.getLast?, isBlank b) ∨ ∃ b ∈ word, isBlank b) :
    lastWord (front ++ word) = lastWord word := by
  induction word using List.reverseRecOn with
  | nil =>
    rw [List.append_nil, lastWord_eq_nil (h.resolve_right (by simp))]
    rfl
  | append_singleton word d ih =>
    rw [← List.append_assoc]
    by_cases hd : isBlank d
    · rw [lastWord_concat_blank hd, lastWord_concat_blank hd]
    · rw [Bool.not_eq_true] at hd
      rw [lastWord_concat hd, lastWord_concat hd, ih]
      refine h.imp_right ?_
      rintro ⟨b, hb, hblank⟩
      rcases List.mem_append.1 hb with hb | hb
      · exact ⟨b, hb, hblank⟩
      · rw [List.mem_singleton.1 hb, hd] at hblank
        cases hblank

/-- What a completion of a line takes the place of: all from some byte on. -/
def Replaces (done : Completion) (before word : Text) : Prop :=
  ∃ front, before = front ++ word ∧ done.start = Text.utf8Size front

theorem Replaces.unique {done : Completion} {word' : Text} (h : done.Replaces before word) (h' : done.Replaces before word') :
    word = word' := by
  obtain ⟨front, hbefore, hstart⟩ := h
  obtain ⟨front', hbefore', hstart'⟩ := h'
  exact Text.append_inj_of_utf8Size (hbefore.symm.trans hbefore') (hstart.symm.trans hstart')

theorem ofLine_start (tree? : Option CommandTree) (ask : Ask) (here : Place) (before : Text) :
    (ofLine tree? ask here before).start = Text.utf8Size before - Text.utf8Size (lastWord before) := by
  unfold ofLine
  dsimp only
  split
  · rfl
  · split
    · rfl
    · split <;> rfl

theorem start_of_front (tree? : Option CommandTree) (ask : Ask) (here : Place) (h : before = front ++ lastWord before) :
    (ofLine tree? ask here before).start = Text.utf8Size front := by
  have hsize := congrArg Text.utf8Size h
  rw [Text.utf8Size_append] at hsize
  rw [ofLine_start]
  omega

/-- On any line it is the last word that gives way. -/
theorem ofLine_replaces (tree? : Option CommandTree) (ask : Ask) (here : Place) (before : Text) :
    (ofLine tree? ask here before).Replaces before (lastWord before) := by
  obtain ⟨front, hfront, -⟩ := exists_front before
  exact ⟨front, hfront, start_of_front tree? ask here hfront⟩

theorem ofLine_candidates {c : Command} (hmark : ¬builtinMark <+: before) (hread : Command.read before = .ok c) :
    (ofLine (some tree) ask here before).candidates = tree.suggest ask here c.renderArgs (lastWord before ≠ []) := by
  have hafter : Text.after? builtinMark before = none := by
    cases h : Text.after? builtinMark before with
    | none => rfl
    | some rest => exact absurd ⟨rest, List.append_eq_of_isPrefixOf?_eq_some h⟩ hmark
  simp only [ofLine, hafter, hread]

/-- What is offered for a line that is read, from a command tree. If a next argument is to be started, nothing
gives way, and it is started. Otherwise the last argument goes on to the end of the line, and only its part
behind its last blank gives way: the argument is what gives way and what is completed exactly if it has no
blank. Where that part is not empty, the argument is completed, and what is offered begins with it, paths
apart; where it is empty, a next argument is started all the same. -/
theorem ofLine_argument {c : Command} (hmark : ¬builtinMark <+: before) (hread : Command.read before = .ok c)
    (tree : CommandTree) (ask : Ask) (here : Place) :
    let done := ofLine (some tree) ask here before
    (Command.StartsNext before → done.Replaces before [] ∧ done.candidates = tree.suggest ask here c.renderArgs false) ∧
      (¬Command.StartsNext before → ∃ earlier arg, c.renderArgs = earlier ++ [arg] ∧ arg <:+ before ∧
        done.Replaces before (lastWord arg) ∧
        (done.Replaces before arg ∧ done.candidates = tree.suggest ask here (earlier ++ [arg]) true ↔
          ∀ b ∈ arg, isBlank b = false) ∧
        (lastWord arg ≠ [] → done.candidates = tree.suggest ask here (earlier ++ [arg]) true ∧
          (¬tree.SuggestsPaths earlier arg → ∀ k ∈ done.candidates, arg <+: k.text)) ∧
        (lastWord arg = [] → done.candidates = tree.suggest ask here (earlier ++ [arg]) false)) := by
  intro done
  have hreplaces : done.Replaces before (lastWord before) := ofLine_replaces _ _ _ _
  have hcandidates : done.candidates = tree.suggest ask here c.renderArgs (lastWord before ≠ []) :=
    ofLine_candidates hmark hread
  rcases Command.last_argument hread with ⟨hnext, hlast⟩ | ⟨hnext, earlier, arg, front, hargs, rfl, hne, hfront⟩
  · refine ⟨fun _ => ?_, fun h => absurd hnext h⟩
    rw [lastWord_eq_nil hlast] at hreplaces hcandidates
    exact ⟨hreplaces, hcandidates⟩
  · refine ⟨fun h => absurd h hnext, fun _ => ⟨earlier, arg, hargs, List.suffix_append _ _, ?_⟩⟩
    rw [lastWord_append (.inl hfront)] at hreplaces hcandidates
    rw [hargs] at hcandidates
    have hcompletes (hword : lastWord arg ≠ []) : done.candidates = tree.suggest ask here (earlier ++ [arg]) true := by
      rw [hcandidates, decide_eq_true hword]
    refine ⟨hreplaces, ⟨fun h => lastWord_eq_self.1 (hreplaces.unique h.1), fun h => ?_⟩, fun hword => ⟨hcompletes hword, ?_⟩,
      fun hword => ?_⟩
    · -- without a blank the argument is its own last word
      have hself := lastWord_eq_self.2 h
      rw [hself] at hreplaces
      exact ⟨hreplaces, hcompletes (by rwa [hself])⟩
    · intro hpaths k hk
      rw [hcompletes hword] at hk
      exact CommandTree.prefix_of_mem_suggest hpaths hk
    · rw [hcandidates, hword]
      rfl

/-- An argument without a blank gives way as a whole. Of one with a blank behind a backslash only the end does,
though what is offered is a longer argument. -/
theorem ofLine_argument_blank :
    let here : Place := ⟨.empty, []⟩
    let ask : Ask := fun _ => none
    let tree : CommandTree := { subcommands := [("a\\ bc", {}), ("add", {})] }
    let plain := ofLine (some tree) ask here "ad"
    let blank := ofLine (some tree) ask here "a\\ b"
    Command.read "ad" = .ok ⟨[⟨[.word "ad".toList]⟩]⟩ ∧ ¬Command.StartsNext "ad" ∧
      plain.Replaces "ad" "ad" ∧ plain.candidates = tree.suggest ask here ["ad".toList] true ∧
      Command.read "a\\ b" = .ok ⟨[⟨[.word "a\\ b".toList]⟩]⟩ ∧ ¬Command.StartsNext "a\\ b" ∧
      blank.Replaces "a\\ b" "b" ∧ ¬blank.Replaces "a\\ b" "a\\ b" ∧
      blank.candidates = tree.suggest ask here ["a\\ b".toList] true ∧ ∀ k ∈ blank.candidates, "a\\ b".toList <+: k.text := by
  intro here ask tree plain blank
  have hplain : Command.read "ad" = .ok ⟨[⟨[.word "ad".toList]⟩]⟩ := by decide +kernel
  have hblank : Command.read "a\\ b" = .ok ⟨[⟨[.word "a\\ b".toList]⟩]⟩ := by decide +kernel
  have hgoes : ¬Command.StartsNext "ad" := by simp +decide [Command.StartsNext]
  have hgoes' : ¬Command.StartsNext "a\\ b" := by simp +decide [Command.StartsNext]
  obtain ⟨earlier, arg, hargs, -, -, hwhole, -⟩ := (ofLine_argument (by decide) hplain tree ask here).2 hgoes
  obtain ⟨rfl, harg⟩ := List.append_inj' (show [] ++ ["ad".toList] = earlier ++ [arg] from hargs) rfl
  obtain rfl := (List.cons.inj harg).1
  obtain ⟨hreplaces, hcandidates⟩ := hwhole.2 (by simp [isBlank])
  obtain ⟨earlier', arg', hargs', -, hreplaces', hwhole', hpart', -⟩ := (ofLine_argument (by decide) hblank tree ask here).2 hgoes'
  obtain ⟨rfl, harg'⟩ := List.append_inj' (show [] ++ ["a\\ b".toList] = earlier' ++ [arg'] from hargs') rfl
  obtain rfl := (List.cons.inj harg').1
  obtain ⟨hcandidates', hbegins'⟩ := hpart' (by decide)
  have hpaths : ¬tree.SuggestsPaths [] "a\\ b".toList := by rintro ⟨-, hsub, -⟩; cases hsub
  refine ⟨hplain, hgoes, hreplaces, hcandidates, hblank, hgoes', hreplaces', fun h => ?_, hcandidates', hbegins' hpaths⟩
  exact absurd (hreplaces'.unique h) (by decide)

/-! ## The byte that it starts at -/

theorem lastWord_append_blank {b : Char} (hb : isBlank b) (hword : ∀ c ∈ word, isBlank c = false) :
    lastWord (front ++ b :: word) = word := by
  rw [lastWord_eq_rtakeWhile, List.rtakeWhile, List.reverse_append, List.reverse_cons, List.append_assoc,
    List.takeWhile_append_of_pos (by simpa using hword)]
  simp [hb]

/-- Behind the last blank: as many bytes into the line as are in front of the blank, and those of the blank itself. -/
theorem ofLine_start_of_blank (tree? : Option CommandTree) (ask : Ask) (here : Place) {b : Char} (hb : isBlank b)
    (hword : ∀ c ∈ word, isBlank c = false) :
    (ofLine tree? ask here (front ++ b :: word)).start = Text.utf8Size front + b.utf8Size := by
  have hcut : front ++ b :: word = (front ++ [b]) ++ lastWord (front ++ b :: word) := by
    rw [lastWord_append_blank hb hword, List.append_assoc]
    rfl
  rw [start_of_front tree? ask here hcut, Text.utf8Size_append, Text.utf8Size_cons]
  rfl

/-- Without any blank, at the front of the line. -/
theorem ofLine_start_eq_zero (tree? : Option CommandTree) (ask : Ask) (here : Place) (h : ∀ c ∈ before, isBlank c = false) :
    (ofLine tree? ask here before).start = 0 := by
  rw [ofLine_start, lastWord_eq_self.2 h, Nat.sub_self]

/-- Builtins are offered for a whole line only. -/
theorem ofLine_builtin (tree? : Option CommandTree) (ask : Ask) (here : Place) (name : Text) :
    (ofLine tree? ask here (builtinMark ++ name)).candidates =
      if (ofLine tree? ask here (builtinMark ++ name)).start = 0 then builtins name else [] := by
  have hafter : Text.after? builtinMark (builtinMark ++ name) = some name := rfl
  simp only [ofLine, hafter]

/-- On every line that byte is a place between two characters, at the very front or behind a blank, and no blank
comes after it. So there is none at all in a line that builtins are offered for. -/
theorem ofLine_cut (tree? : Option CommandTree) (ask : Ask) (here : Place) (before : Text) :
    let done := ofLine tree? ask here before
    done.start ≤ (Text.utf8 before).length ∧ (⟨done.start⟩ : String.Pos.Raw).IsValid (String.ofList before) ∧
      (∃ front word, before = front ++ word ∧
        (Text.utf8 before).take done.start = Text.utf8 front ∧ (Text.utf8 before).drop done.start = Text.utf8 word ∧
        (∀ c ∈ word, isBlank c = false) ∧ (done.start = 0 ∨ ∃ init b, front = init ++ [b] ∧ isBlank b)) ∧
      (builtinMark <+: before → done.candidates ≠ [] → done.start = 0 ∧ ∀ c ∈ before, isBlank c = false) := by
  intro done
  obtain ⟨front, hbefore, hblank⟩ := exists_front before
  have hstart : done.start = Text.utf8Size front := start_of_front tree? ask here hbefore
  have hlen : done.start = (Text.utf8 front).length := hstart.trans (Text.length_utf8 front).symm
  have hbytes : Text.utf8 before = Text.utf8 front ++ Text.utf8 (lastWord before) := by
    rw [← Text.utf8_append, ← hbefore]
  refine ⟨?_, ?_, ⟨front, lastWord before, hbefore, ?_, ?_, fun c => isBlank_of_mem_lastWord, ?_⟩, ?_⟩
  · rw [hbytes, List.length_append, hlen]
    omega
  · rw [hstart, hbefore]
    exact Text.isValid_utf8Size front (lastWord before)
  · rw [hbytes, hlen, List.take_left]
  · rw [hbytes, hlen, List.drop_left]
  · rcases List.eq_nil_or_concat' front with rfl | ⟨init, b, rfl⟩
    · exact .inl hstart
    · exact .inr ⟨init, b, rfl, hblank b (by simp)⟩
  · rintro ⟨name, rfl⟩ hoffers
    have hzero : done.start = 0 := by
      by_contra hne
      exact hoffers ((ofLine_builtin tree? ask here name).trans (if_neg hne))
    obtain rfl : front = [] := Text.utf8Size_eq_zero.1 (hstart.symm.trans hzero)
    rw [List.nil_append] at hbefore
    exact ⟨hzero, lastWord_eq_self.1 hbefore.symm⟩

/-- A blank of three bytes behind a letter of two. -/
example : (ofLine none (fun _ => none) ⟨.empty, []⟩ "é\u3000b".toList).start = 5 := by decide

end Completion

end WrapShell
