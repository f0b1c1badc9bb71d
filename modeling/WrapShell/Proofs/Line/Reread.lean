import WrapShell.Proofs.Line.Append
import WrapShell.Proofs.Line.Argument
import WrapShell.Proofs.Line.Expand
import WrapShell.Proofs.Line.Front
/-!
# Paths that are read again

The paths that a word gives, written as its strings with a space between two of them, are a line again. It gives the
same paths back if each of them is unambiguous (`Path.IsUnambiguous`) and only the last ends in an open backslash; and
only then, unless the line has a pattern itself that finds some of them (`expandWord_reread`). The quotes around a path
with a space in it do not help with quotes and backslashes in the path, nor against blanks other than the space.
-/

namespace WrapShell

/-! ## Counting characters -/

section Counts

variable {alone taken : Char → Bool} {c d : Char} {w v : Text}

theorem Text.escapes_of_forall (h : ∀ c ∈ v, alone c ∧ taken c) : v.escapes alone taken true := by
  induction v using Text.pairInduction with
  | nil | dangling => rfl
  | pair c t ih =>
    rw [List.forall_mem_cons, List.forall_mem_cons] at h
    rw [Text.escapes_pair, h.2.1.2, ih h.2.2]
    rfl
  | char c t hc ih =>
    rw [List.forall_mem_cons] at h
    rw [Text.escapes_char hc, h.1.1, ih h.2]
    rfl

/-- What is joined, but for the order of the characters. -/
theorem Text.intercalate_perm (sep : Char) (ts : List Text) :
    (List.intercalate [sep] ts).Perm (List.replicate (ts.length - 1) sep ++ ts.flatten) := by
  induction ts with
  | nil => exact .refl _
  | cons t ts ih =>
    by_cases e : ts = []
    · subst e
      simp [List.intercalate]
    · obtain ⟨k, hk⟩ : ∃ k, ts.length = k + 1 := Nat.exists_eq_succ_of_ne_zero (by simpa using e)
      rw [List.intercalate_cons_of_ne_nil e]
      refine List.perm_iff_count.2 fun c => ?_
      have hcount := ih.count_eq c
      simp only [hk, List.count_append, List.length_cons, List.flatten_cons, Nat.add_one_sub_one, List.replicate_succ',
        List.count_singleton] at hcount ⊢
      omega

theorem count_escaping (hc : c ≠ '\\') (v : Text) : (escaping d v).count c = v.count c := by
  induction v with
  | nil => rfl
  | cons e v ih =>
    by_cases he : e = d
    · subst he
      simp [List.count_cons, ih, Ne.symm hc]
    · rw [escaping_cons_ne he, List.count_cons, List.count_cons, ih]

theorem escaping_of_not_mem (h : d ∉ v) : escaping d v = v := by
  induction v with
  | nil => rfl
  | cons e v ih =>
    rw [List.mem_cons, not_or] at h
    rw [escaping_cons_ne (Ne.symm h.1), ih h.2]

theorem length_escaping (d : Char) (v : Text) : (escaping d v).length = v.length + v.count d := by
  induction v with
  | nil => rfl
  | cons e v ih =>
    by_cases he : e = d
    · subst he
      simp [ih]
      omega
    · rw [escaping_cons_ne he, List.length_cons, List.length_cons, ih, List.count_cons_of_ne he]
      omega

theorem count_stripEscapes (h : stripEscapes w = some v) (hc : c ≠ '\\') : w.count c = v.count c := by
  induction w using Text.pairInduction generalizing v with
  | nil | dangling => cases h; rfl
  | pair d t ih =>
    obtain ⟨u, hu, rfl⟩ := Option.map_eq_some_iff.1 h
    rw [List.count_cons_of_ne hc.symm, List.count_cons, List.count_cons, ih hu]
  | char d t hd ih =>
    rw [stripEscapes_char hd] at h
    split at h
    · cases h
    · obtain ⟨u, hu, rfl⟩ := Option.map_eq_some_iff.1 h
      rw [List.count_cons, List.count_cons, ih hu]

theorem length_stripEscapes (h : stripEscapes w = some v) : v.length ≤ w.length ∧ (w.length = v.length → w = v) := by
  induction w using Text.pairInduction generalizing v with
  | nil | dangling => cases h; exact ⟨Nat.le_refl _, fun _ => rfl⟩
  | pair d t ih =>
    obtain ⟨u, hu, rfl⟩ := Option.map_eq_some_iff.1 h
    have := (ih hu).1
    simp only [List.length_cons]
    omega
  | char d t hd ih =>
    rw [stripEscapes_char hd] at h
    split at h
    · cases h
    · obtain ⟨u, hu, rfl⟩ := Option.map_eq_some_iff.1 h
      obtain ⟨hle, heq⟩ := ih hu
      simp only [List.length_cons]
      exact ⟨by omega, fun e => by rw [heq (by omega)]⟩

/-- A word that is what is left without its backslashes has none in front of a space. -/
theorem space_not_mem (h : stripEscapes w = some w) (hw : isWordText true w) : ' ' ∉ w := by
  induction w using Text.pairInduction with
  | nil | dangling => decide
  | pair d t =>
    obtain ⟨u, hu, e⟩ := Option.map_eq_some_iff.1 h
    have hlength := congrArg List.length e
    have := (length_stripEscapes hu).1
    simp only [List.length_cons] at hlength
    omega
  | char d t hd ih =>
    rw [stripEscapes_char hd] at h
    rw [isWordText_char hd, Bool.and_eq_true] at hw
    split at h
    · cases h
    · obtain ⟨u, hu, e⟩ := Option.map_eq_some_iff.1 h
      obtain rfl := (List.cons.inj e).2
      rw [List.mem_cons, not_or]
      refine ⟨?_, ih hu hw.2⟩
      rintro rfl
      exact absurd hw.1 (by decide)

end Counts

namespace Node

def isSingle : Node → Bool
  | .single _ => true
  | _ => false

end Node

/-! ## The account of a line -/

/-- The node has the text as it is, and gives it back. -/
inductive Node.Shows : Node → Text → Prop
  | single {p : Text} (quotes : '\'' ∉ p) : Shows (.single p) p
  | word {p : Text} (spaces : ' ' ∉ p) (plain : stripEscapes p = some p) : Shows (.word p) p

/-- A text takes as many spaces in a line as it has itself, as many quotes but for those of a single quote, and no less
room. What is to spare is taken by backslashes, by double quotes and by the names of variables; with nothing to spare,
the node shows the text. -/
structure Node.Accounts (n : Node) (p : Text) (spare : Nat) : Prop where
  spaces : n.render.count ' ' = p.count ' '
  quotes : n.render.count '\'' = p.count '\'' + 2 * n.isSingle.toNat
  length : n.render.length = p.length + 2 * n.isSingle.toNat + spare
  shows : spare = 0 → n.Shows p

namespace Node

variable {here : Place} {n : Node} {ns : List Node} {p : Text} {ps : List Text} {c : Char}

theorem count_var {name : Text} (h : isName name) (hc : c ≠ '$' ∧ isNameChar c = false) : ('$' :: name).count c = 0 := by
  refine List.count_eq_zero.2 fun hmem => ?_
  rcases List.mem_cons.1 hmem with rfl | hmem
  · exact hc.1 rfl
  · have hname := h.2 c hmem
    rw [hc.2] at hname
    cases hname

/-- In a double quote without values all that is not written for the quote is in the text. -/
theorem count_spliced (h : ∀ n ∈ ns, n.IsChild) (hc : c ≠ '\\' ∧ c ≠ '$' ∧ isNameChar c = false) :
    (renderAll ns).count c = (spliced (fun _ => []) ns).count c := by
  induction ns with
  | nil => rfl
  | cons n ns ih =>
    obtain ⟨hn, hns⟩ := List.forall_mem_cons.1 h
    have ih := ih hns
    simp only [renderAll, spliced, List.flatMap_cons, List.count_append] at ih ⊢
    rw [ih, Nat.add_right_cancel_iff]
    cases n with
    | quoted v => exact count_escaping hc.1 v
    | var name => exact count_var hn hc.2
    | word | single | double => exact hn.elim

theorem length_spliced_le (ns : List Node) : (spliced (fun _ => []) ns).length ≤ (renderAll ns).length := by
  induction ns with
  | nil => exact Nat.le_refl _
  | cons n ns ih =>
    simp only [renderAll, spliced, List.flatMap_cons, List.length_append] at ih ⊢
    refine Nat.add_le_add ?_ ih
    cases n with
    | quoted v => rw [render, length_escaping]; exact Nat.le_add_right _ _
    | word | single | double | var => exact Nat.zero_le _

/-- The text that a node stands for without values accounts for the node, unless it is a pattern. -/
theorem IsCanonical.exists_accounts (h : n.IsCanonical) (hplain : n.isPattern = false) (here : Place) :
    ∃ p spare, n.expand here (fun _ => []) = .ok [p] ∧ n.Accounts p spare := by
  have hname : isNameChar ' ' = false ∧ isNameChar '\'' = false := by decide +kernel
  cases n with
  | quoted => exact h.elim
  | word w =>
    obtain ⟨p, hp⟩ := isPattern_word.1 hplain
    obtain ⟨hle, heq⟩ := length_stripEscapes hp
    exact ⟨p, w.length - p.length, by rw [expand, expandWord, hp],
      { spaces := count_stripEscapes hp (by decide)
        quotes := count_stripEscapes hp (by decide)
        length := by simp [render, isSingle]; omega
        shows := fun hspare => by
          obtain rfl := heq (by omega)
          exact .word (space_not_mem hp h.2.2) hp }⟩
  | single p =>
    exact ⟨p, p.count '\'', rfl,
      { spaces := by simp [render, count_escaping]
        quotes := by simp [render, count_escaping, isSingle]
        length := by simp [render, length_escaping, isSingle]; omega
        shows := fun hspare => .single (List.count_eq_zero.1 hspare) }⟩
  | double ns =>
    have hle := length_spliced_le ns
    exact ⟨spliced (fun _ => []) ns, (renderAll ns).length - (spliced (fun _ => []) ns).length + 2,
      by rw [expand, splice_children h.1]; rfl,
      { spaces := by simp [render, count_spliced h.1 ⟨by decide, by decide, hname.1⟩]
        quotes := by simp [render, isSingle, count_spliced h.1 ⟨by decide, by decide, hname.2⟩]
        length := by simp [render, isSingle]; omega
        shows := fun hspare => by cases hspare }⟩
  | var name =>
    exact ⟨[], name.length + 1, rfl,
      { spaces := count_var h ⟨by decide, hname.1⟩
        quotes := count_var h ⟨by decide, hname.2⟩
        length := by simp [render, isSingle]
        shows := fun hspare => by cases hspare }⟩

/-- The same for all nodes of a line. -/
theorem exists_accounts (h : ∀ n ∈ ns, n.IsCanonical ∧ n.isPattern = false) (here : Place) :
    ∃ ps spare, expandAll here (fun _ => []) ns = .ok ps ∧
      (ns.flatMap render).count ' ' = ps.flatten.count ' ' ∧
      (ns.flatMap render).count '\'' = ps.flatten.count '\'' + 2 * ns.countP isSingle ∧
      (ns.flatMap render).length = ps.flatten.length + 2 * ns.countP isSingle + spare ∧
      (spare = 0 → List.Forall₂ Shows ns ps) := by
  induction ns with
  | nil => exact ⟨[], 0, rfl, rfl, rfl, rfl, fun _ => .nil⟩
  | cons n ns ih =>
    obtain ⟨⟨hcan, hplain⟩, hns⟩ := List.forall_mem_cons.1 h
    obtain ⟨p, spare, hp, haccounts⟩ := hcan.exists_accounts hplain here
    obtain ⟨ps, spares, hps, hspaces, hquotes, hlength, hshows⟩ := ih hns
    have hsingle : (n :: ns).countP isSingle = n.isSingle.toNat + ns.countP isSingle := by
      cases hn : n.isSingle <;> simp [hn, Nat.add_comm]
    refine ⟨p :: ps, spare + spares, by rw [expandAll, hp, hps]; rfl, ?_, ?_, ?_, fun hzero => ?_⟩
    · simp [haccounts.spaces, hspaces]
    · simp only [List.flatMap_cons, List.flatten_cons, List.count_append, haccounts.quotes, hquotes, hsingle]
      omega
    · simp only [List.flatMap_cons, List.flatten_cons, List.length_append, haccounts.length, hlength, hsingle]
      omega
    · exact .cons (haccounts.shows (by omega)) (hshows (by omega))

/-- The strings of paths have the spaces of these, and two quotes more for each path with a space. -/
theorem accounts_strings (ps : List Text) :
    (ps.map quoteSpaced).flatten.count ' ' = ps.flatten.count ' ' ∧
      (ps.map quoteSpaced).flatten.count '\'' = ps.flatten.count '\'' + 2 * ps.countP (' ' ∈ ·) ∧
      (ps.map quoteSpaced).flatten.length = ps.flatten.length + 2 * ps.countP (' ' ∈ ·) := by
  induction ps with
  | nil => exact ⟨rfl, rfl, rfl⟩
  | cons p ps ih =>
    obtain ⟨hspaces, hquotes, hlength⟩ := ih
    simp only [List.map_cons, List.flatten_cons, List.count_append, List.length_append, List.countP_cons, hspaces, hquotes,
      hlength]
    by_cases hp : ' ' ∈ p
    · simp [quoteSpaced, hp]; omega
    · simp [quoteSpaced, hp]; omega

/-- The node that the string of a path is meant to be. -/
def ofPath (p : Text) : Node := if ' ' ∈ p then .single p else .word p

/-- With no more quotes than there are texts with a space, each text is shown by the node that its string is meant to
be. -/
theorem eq_ofPath_of_shows (h : List.Forall₂ Shows ns ps) :
    ps.countP (' ' ∈ ·) ≤ ns.countP isSingle ∧
      (ns.countP isSingle = ps.countP (' ' ∈ ·) → ns = ps.map ofPath ∧ ∀ p ∈ ps, (ofPath p).Shows p) := by
  induction h with
  | nil => simp
  | @cons n p ns ps hn _ ih =>
    obtain ⟨hle, heq⟩ := ih
    rw [List.countP_cons, List.countP_cons]
    have hcons (hcount : ns.countP isSingle = ps.countP (' ' ∈ ·)) (hp : n = ofPath p) :
        n :: ns = (p :: ps).map ofPath ∧ ∀ q ∈ p :: ps, (ofPath q).Shows q := by
      obtain ⟨hns, hshows⟩ := heq hcount
      exact ⟨by rw [List.map_cons, hns, hp], List.forall_mem_cons.2 ⟨hp ▸ hn, hshows⟩⟩
    cases hn with
    | single quotes =>
      by_cases hp : ' ' ∈ p
      · simp only [isSingle, hp, decide_true, if_true]
        exact ⟨by omega, fun hcount => hcons (by omega) (if_pos hp).symm⟩
      · -- a quote too many
        simp only [isSingle, hp, decide_false, if_true, Bool.false_eq_true, if_false]
        exact ⟨by omega, fun hcount => by omega⟩
    | word spaces plain =>
      simp only [isSingle, spaces, decide_false, Bool.false_eq_true, if_false]
      exact ⟨by omega, fun hcount => hcons (by omega) (if_neg spaces).symm⟩

end Node

namespace Command

variable {here : Place} {c : Command} {ps : List Text}

/-- Between its nodes a line has blanks. -/
theorem Spells.exists_gaps {t : Text} {args : List Arg} (h : Spells t args) :
    ∃ gaps : Text, gaps.allBlank ∧ t.Perm (gaps ++ (args.flatMap Arg.nodes).flatMap Node.render) := by
  induction h with
  | @nil t blanks => exact ⟨t, blanks, by simp⟩
  | @cons lead rest a args blanks _ _ _ ih =>
    obtain ⟨gaps, hgaps, hperm⟩ := ih
    refine ⟨lead ++ gaps, ?_, List.perm_iff_count.2 fun c => ?_⟩
    · rw [Text.allBlank, List.all_append, Bool.and_eq_true]
      exact ⟨blanks, hgaps⟩
    · have hcount := hperm.count_eq c
      simp only [Arg.render, Node.renderAll_eq_flatMap, List.flatMap_cons, List.flatMap_append, List.count_append] at hcount ⊢
      omega

theorem not_mem_metacharacters {x : Char} {k : Nat} (hmeta : ∀ p ∈ ps, ∀ x ∈ p, x ∉ metacharacters)
    (hx : x ∈ List.replicate k ' ' ++ (ps.map quoteSpaced).flatten) : x ∉ metacharacters := by
  rcases List.mem_append.1 hx with hx | hx
  · rw [(List.mem_replicate.1 hx).2]
    decide
  · obtain ⟨_, hs, hx⟩ := List.mem_flatten.1 hx
    obtain ⟨p, hp, rfl⟩ := List.mem_map.1 hs
    rw [quoteSpaced] at hx
    split at hx
    · rcases List.mem_append.1 hx with hx | hx
      · rcases List.mem_cons.1 hx with rfl | hx
        · decide
        · exact hmeta p hp x hx
      · rw [List.mem_singleton.1 hx]
        decide
    · exact hmeta p hp x hx

/-- The characters of a line that the strings of some paths are read as are those of the paths, but for spaces, quotes
and gaps. -/
theorem exists_gaps_of_read (hread : read (List.intercalate [' '] (ps.map quoteSpaced)) = .ok c) :
    ∃ gaps : Text, gaps.allBlank ∧ (gaps ++ (c.args.flatMap Arg.nodes).flatMap Node.render).Perm
      (List.replicate ((ps.map quoteSpaced).length - 1) ' ' ++ (ps.map quoteSpaced).flatten) := by
  obtain ⟨gaps, hgaps, hperm⟩ := (read_eq_ok_iff.1 hread).exists_gaps
  exact ⟨gaps, hgaps, hperm.symm.trans (Text.intercalate_perm ' ' (ps.map quoteSpaced))⟩

/-- Paths without metacharacters are read as no pattern. -/
theorem isPattern_of_read (hmeta : ∀ p ∈ ps, ∀ x ∈ p, x ∉ metacharacters)
    (hread : read (List.intercalate [' '] (ps.map quoteSpaced)) = .ok c) : ∀ n ∈ c.args.flatMap Arg.nodes, n.isPattern = false := by
  intro n hn
  obtain ⟨gaps, -, hline⟩ := exists_gaps_of_read hread
  cases n with
  | word w =>
    have hw : ∀ x ∈ w, x ∉ metacharacters := fun x hx =>
      not_mem_metacharacters hmeta (hline.subset (List.mem_append_right _ (List.mem_flatMap.2 ⟨_, hn, hx⟩)))
    rw [Node.isPattern, Text.escapes_of_forall fun x hx => ⟨by simpa using hw x hx, rfl⟩]
    rfl
  | quoted | single | double | var => rfl

/-- What the strings of some paths are read as if they give the paths back and nothing is a pattern: for each path the
node that its string is meant to be. Besides the spaces that separate the strings there is no room in the line for
anything else. -/
theorem eq_ofPath_of_read (hplain : ∀ n ∈ c.args.flatMap Arg.nodes, n.isPattern = false)
    (hread : read (List.intercalate [' '] (ps.map quoteSpaced)) = .ok c) (hexpand : c.expand here (fun _ => []) = .ok ps) :
    c.args.flatMap Arg.nodes = ps.map Node.ofPath ∧ ∀ p ∈ ps, (Node.ofPath p).Shows p := by
  have hcan : ∀ n ∈ c.args.flatMap Arg.nodes, n.IsCanonical := fun n hn => by
    obtain ⟨a, ha, hna⟩ := List.mem_flatMap.1 hn
    exact (isCanonical_of_read hread).nodes a ha n hna
  obtain ⟨gaps, hgaps, hline⟩ := exists_gaps_of_read hread
  rw [expand, expandArgs_eq_expandAll] at hexpand
  generalize c.args.flatMap Arg.nodes = ns at hcan hplain hline hexpand ⊢
  obtain ⟨ps', spare, hps', hspaces, hquotes, hlength, hshows⟩ :=
    Node.exists_accounts (fun n hn => ⟨hcan n hn, hplain n hn⟩) here
  obtain rfl : ps' = ps := Except.ok.inj (hps'.symm.trans hexpand)
  obtain ⟨hspaces', hquotes', hlength'⟩ := Node.accounts_strings ps'
  -- spaces first: all that separate strings are gaps; then quotes: as many are single quotes as have to be
  have hcount := hline.count_eq ' '
  have hcount' := hline.count_eq '\''
  have hlengths := hline.length_eq
  have hgap : gaps.count '\'' = 0 := List.count_eq_zero.2 fun h => by
    cases List.all_eq_true.1 hgaps _ h
  have hle : gaps.count ' ' ≤ gaps.length := List.count_le_length
  have hother : (' ' == '\'') = false := by decide
  simp only [List.count_append, List.length_append, List.count_replicate, List.length_replicate, List.length_map, hspaces,
    hquotes, hlength, hspaces', hquotes', hlength', hgap, beq_self_eq_true, if_true, hother, Bool.false_eq_true, if_false]
    at hcount hcount' hlengths
  exact (Node.eq_ofPath_of_shows (hshows (by omega))).2 (by omega)

end Command

/-! ## Paths that are found -/

namespace Place

variable {here : Place} {dir p : Path} {dirsOnly isDir : Bool} {kss : List (List Pattern.Token)}

theorem ne_nil_of_isListed (h : here.isListed p) : p ≠ [] := by
  rintro rfl
  obtain ⟨f, x, hfind⟩ := find_of_isListed h
  cases hfind

theorem join_ne_nil {n : Text} (hdir : dir ≠ []) : Path.join dir n ≠ [] := by
  rw [Path.join]
  split
  · next habs =>
    rintro rfl
    cases habs
  · split
    · exact List.append_ne_nil_of_left_ne_nil hdir _
    · exact List.append_ne_nil_of_left_ne_nil hdir _

theorem below_ne_nil {n : Text} (hdir : dir ≠ []) (hn : n ≠ []) : below dir n ≠ [] := by
  rw [below]
  split
  · exact hn
  · exact join_ne_nil hdir

/-- The paths that a search finds are not empty, as none of its steps leads to the empty path. -/
theorem ne_nil_of_mem_search (ht : here.tree.IsLegal) (hdir : dir ≠ []) (hp : p ∈ here.search dirsOnly kss dir isDir) :
    p ≠ [] := by
  induction kss generalizing dir isDir with
  | nil =>
    rw [search] at hp
    split at hp
    · cases hp
    · rw [List.mem_singleton.1 hp]
      exact hdir
  | cons ks kss ih =>
    obtain ⟨next, isDir', hp, hstep⟩ := step_of_mem_search hp
    refine ih ?_ hp
    rcases hstep with ⟨n, -, hn, rfl⟩ | ⟨n, -, rfl⟩ | ⟨n, hlist, -, rfl⟩
    · rcases hn with rfl | rfl | hn
      · exact below_ne_nil hdir (List.cons_ne_nil _ _)
      · exact below_ne_nil hdir (List.cons_ne_nil _ _)
      · exact ne_nil_of_isListed hn
    · exact join_ne_nil hdir
    · exact below_ne_nil hdir (name_of_mem_list ht hlist).nonempty

end Place

theorem ne_nil_of_mem_matchWord {here : Place} {word : Text} {ps : List Path} {p : Path} (ht : here.tree.IsLegal)
    (h : matchWord here word = .ok ps) (hp : p ∈ ps) : p ≠ [] := by
  obtain ⟨-, pattern, -, hglob⟩ := matchWord_eq_ok_iff.1 h
  obtain ⟨kss, -, rfl⟩ := Place.glob_eq_ok_iff.1 hglob
  refine Place.ne_nil_of_mem_search ht ?_ hp
  split <;> exact List.cons_ne_nil _ _

/-! ## Unambiguous paths -/

/-- The string of the path is one argument that gives the path back. In quotes the path must not have a quote
itself, nor end in an open backslash; as a bare word it must be one word, no variable, and expand to itself. -/
def Path.IsUnambiguous (here : Place) (p : Path) : Prop :=
  if ' ' ∈ p then '\'' ∉ p ∧ Text.dangles p = false
  else p.head? ≠ some '$' ∧ isWordText true p ∧ expandWord here p = .ok [p]

namespace Node

variable {here : Place} {p : Path} {ps : List Path}

theorem render_ofPath (h : ' ' ∈ p → '\'' ∉ p) : (ofPath p).render = quoteSpaced p := by
  by_cases hp : ' ' ∈ p
  · rw [ofPath, if_pos hp, render, escaping_of_not_mem (h hp)]
    simp [quoteSpaced, hp]
  · simp [ofPath, quoteSpaced, hp, render]

/-- A path is unambiguous exactly if the node that its string is meant to be is written as the string, is one that
reading gives, and gives the path back. -/
theorem isUnambiguous_iff (hne : p ≠ []) : p.IsUnambiguous here ↔
    (' ' ∈ p → '\'' ∉ p) ∧ (ofPath p).IsCanonical ∧ ∀ lookup, (ofPath p).expand here lookup = .ok [p] := by
  by_cases hp : ' ' ∈ p
  · have hescapes (hquote : '\'' ∉ p) : (single p).IsCanonical ↔ Text.dangles p = false :=
      Text.escapes_false_iff.trans (and_iff_right (Text.escapes_of_forall fun c hc =>
        ⟨rfl, bne_iff_ne.2 (ne_of_mem_of_not_mem hc hquote)⟩))
    simp only [Path.IsUnambiguous, ofPath, hp, if_true, expand, implies_true, and_true, forall_const]
    exact and_congr_right fun hquote => (hescapes hquote).symm
  · simp [Path.IsUnambiguous, ofPath, hp, IsCanonical, expand, hne, and_assoc]

/-- Where paths are unambiguous, their nodes are closed if they do not end in an open backslash. -/
theorem isClosed_ofPath (hne : p ≠ []) (h : p.IsUnambiguous here) : (ofPath p).IsClosed ↔ Text.dangles p = false := by
  rw [((isUnambiguous_iff hne).1 h).2.1.isClosed_iff]
  by_cases hp : ' ' ∈ p
  · rw [Path.IsUnambiguous, if_pos hp] at h
    simp [ofPath, hp, h.2]
  · simp [ofPath, hp]

theorem expandAll_ofPath (h : ∀ p ∈ ps, ∀ lookup, (ofPath p).expand here lookup = .ok [p]) (lookup : Text → Text) :
    expandAll here lookup (ps.map ofPath) = .ok ps := by
  induction ps with
  | nil => rfl
  | cons p ps ih =>
    obtain ⟨hp, hps⟩ := List.forall_mem_cons.1 h
    rw [List.map_cons, expandAll, hp, ih hps]
    rfl

/-- A node that shows a path gives it back, and the path does not break the quotes. -/
theorem isUnambiguous_of_shows (hne : p ≠ []) (hcan : (ofPath p).IsCanonical) (h : (ofPath p).Shows p) :
    p.IsUnambiguous here := by
  refine (isUnambiguous_iff hne).2 ⟨fun hp => ?_, hcan, fun lookup => ?_⟩
  · rw [ofPath, if_pos hp] at h
    cases h with
    | single quotes => exact quotes
  · generalize ofPath p = n at h
    cases h with
    | single => rfl
    | word _ plain => rw [expand, expandWord, plain]

end Node

namespace Command

variable {here : Place} {ps : List Path}

/-- The strings of the paths are read as a line that expands to the paths. -/
def RestoresPaths (here : Place) (ps : List Path) : Prop :=
  ∃ c, read (List.intercalate [' '] (ps.map quoteSpaced)) = .ok c ∧ ∀ lookup, c.expand here lookup = .ok ps

/-- The strings of unambiguous paths are read as one node each. -/
theorem restoresPaths_of_unambiguous (hne : ∀ p ∈ ps, p ≠ []) (h : ∀ p ∈ ps, p.IsUnambiguous here)
    (hclosed : ∀ p ∈ ps.dropLast, Text.dangles p = false) : RestoresPaths here ps := by
  have hps (p : Path) (hp : p ∈ ps) := (Node.isUnambiguous_iff (hne p hp)).1 (h p hp)
  have hcan : (ofNodes (ps.map Node.ofPath)).IsCanonical := by
    refine isCanonical_ofNodes (List.forall_mem_map.2 fun p hp => (hps p hp).2.1) ?_
    rw [← List.map_dropLast]
    refine List.forall_mem_map.2 fun p hp => ?_
    have hmem := List.dropLast_subset _ hp
    exact (Node.isClosed_ofPath (hne p hmem) (h p hmem)).2 (hclosed p hp)
  have hrender : (ofNodes (ps.map Node.ofPath)).render = List.intercalate [' '] (ps.map quoteSpaced) := by
    rw [render_ofNodes, List.map_map]
    exact congrArg _ (List.map_congr_left fun p hp => Node.render_ofPath (hps p hp).1)
  refine ⟨_, hrender ▸ hcan.read_render, fun lookup => ?_⟩
  rw [expand, expandArgs_eq_expandAll, flatMap_ofNodes]
  exact Node.expandAll_ofPath (fun p hp => (hps p hp).2.2) lookup

/-- Without a pattern in the line no other paths are given back. -/
theorem unambiguous_of_expand {c : Command} (hne : ∀ p ∈ ps, p ≠ [])
    (hread : read (List.intercalate [' '] (ps.map quoteSpaced)) = .ok c)
    (hplain : ∀ n ∈ c.args.flatMap Arg.nodes, n.isPattern = false) (hexpand : ∀ lookup, c.expand here lookup = .ok ps) :
    (∀ p ∈ ps, p.IsUnambiguous here) ∧ ∀ p ∈ ps.dropLast, Text.dangles p = false := by
  have hcan := isCanonical_of_read hread
  obtain ⟨hnodes, hshows⟩ := eq_ofPath_of_read hplain hread (hexpand _)
  have hunambiguous : ∀ p ∈ ps, p.IsUnambiguous here := fun p hp => by
    have hmem : Node.ofPath p ∈ c.args.flatMap Arg.nodes := hnodes ▸ List.mem_map_of_mem hp
    obtain ⟨a, ha, hn⟩ := List.mem_flatMap.1 hmem
    exact Node.isUnambiguous_of_shows (hne p hp) (hcan.nodes a ha _ hn) (hshows p hp)
  refine ⟨hunambiguous, fun p hp => ?_⟩
  have hclosed := hcan.closed
  rw [hnodes, ← List.map_dropLast] at hclosed
  have hmem := List.dropLast_subset _ hp
  exact (Node.isClosed_ofPath (hne p hmem) (hunambiguous p hmem)).1 (hclosed _ (List.mem_map_of_mem hp))

/-- The strings of the paths are read with a pattern among the nodes, which finds some of the paths again, side by side;
what stands in front of it and behind it gives the others. -/
def RestoresByPattern (here : Place) (ps : List Path) : Prop :=
  ∃ c before word behind found, read (List.intercalate [' '] (ps.map quoteSpaced)) = .ok c ∧
    c.args.flatMap Arg.nodes = before ++ .word word :: behind ∧ stripEscapes word = none ∧ matchWord here word = .ok found ∧
      ∀ lookup, ∃ front back, Node.expandAll here lookup before = .ok front ∧ Node.expandAll here lookup behind = .ok back ∧
        ps = front ++ found.map quoteSpaced ++ back

theorem RestoresByPattern.restoresPaths (h : RestoresByPattern here ps) : RestoresPaths here ps := by
  obtain ⟨c, before, word, behind, found, hread, hnodes, hlive, hfound, hexpand⟩ := h
  refine ⟨c, hread, fun lookup => ?_⟩
  obtain ⟨front, back, hfront, hback, rfl⟩ := hexpand lookup
  rw [expand, expandArgs_eq_expandAll, hnodes, Node.expandAll_append_cons]
  exact ⟨front, found.map quoteSpaced, back, hfront, (Node.expand_pattern hlive).2 ⟨found, hfound, rfl⟩, hback, rfl⟩

/-- Paths are given back if they are unambiguous, and otherwise only if a pattern in their line finds some of them. -/
theorem restoresPaths_iff (hne : ∀ p ∈ ps, p ≠ []) : RestoresPaths here ps ↔
    ((∀ p ∈ ps, p.IsUnambiguous here) ∧ ∀ p ∈ ps.dropLast, Text.dangles p = false) ∨ RestoresByPattern here ps := by
  constructor
  · rintro ⟨c, hread, hexpand⟩
    by_cases hplain : ∀ n ∈ c.args.flatMap Arg.nodes, n.isPattern = false
    · exact .inl (unambiguous_of_expand hne hread hplain hexpand)
    · right
      obtain ⟨n, hn, hpattern⟩ : ∃ n ∈ c.args.flatMap Arg.nodes, n.isPattern = true := by
        simpa only [not_forall, Bool.not_eq_false, exists_prop] using hplain
      obtain ⟨before, behind, hnodes⟩ := List.append_of_mem hn
      obtain ⟨word, rfl, hlive⟩ := Node.exists_word_of_isPattern hpattern
      have hall (lookup : Text → Text) := hexpand lookup
      simp only [expand, expandArgs_eq_expandAll, hnodes, Node.expandAll_append_cons, Node.expand_pattern hlive] at hall
      obtain ⟨-, -, -, -, ⟨found, hfound, -⟩, -⟩ := hall fun _ => []
      refine ⟨c, before, word, behind, found, hread, hnodes, hlive, hfound, fun lookup => ?_⟩
      obtain ⟨front, -, back, hfront, ⟨found', hfound', rfl⟩, hback, hps⟩ := hall lookup
      obtain rfl := Except.ok.inj (hfound.symm.trans hfound')
      exact ⟨front, back, hfront, hback, hps⟩
  · rintro (⟨hunambiguous, hclosed⟩ | hpattern)
    · exact restoresPaths_of_unambiguous hne hunambiguous hclosed
    · exact hpattern.restoresPaths

end Command

/-- What a word with a live metacharacter expands to are the strings of the paths that it describes. The line of these
strings, a space between two of them, gives the paths back if each of them is unambiguous and none but the last ends in
an open backslash; and only then, as long as no path has a metacharacter. Whatever the paths are, others are given back
only by a pattern that the line of their strings has itself. -/
theorem expandWord_reread {here : Place} {word : Text} {ps : List Path} (ht : here.tree.IsLegal)
    (hlive : stripEscapes word = none) (hps : matchWord here word = .ok ps) :
    expandWord here word = .ok (ps.map quoteSpaced) ∧
      ((∀ p ∈ ps, p.IsUnambiguous here) ∧ (∀ p ∈ ps.dropLast, Text.dangles p = false) → Command.RestoresPaths here ps) ∧
      ((∀ p ∈ ps, ∀ x ∈ p, x ∉ metacharacters) →
        (Command.RestoresPaths here ps ↔
          (∀ p ∈ ps, p.IsUnambiguous here) ∧ ∀ p ∈ ps.dropLast, Text.dangles p = false)) ∧
      (Command.RestoresPaths here ps ↔
        ((∀ p ∈ ps, p.IsUnambiguous here) ∧ ∀ p ∈ ps.dropLast, Text.dangles p = false) ∨ Command.RestoresByPattern here ps) := by
  have hne : ∀ p ∈ ps, p ≠ [] := fun p hp => ne_nil_of_mem_matchWord ht hps hp
  have hrestores : Command.RestoresPaths here ps ↔ _ := Command.restoresPaths_iff hne
  refine ⟨?_, fun h => hrestores.2 (.inl h), fun hmeta => ⟨?_, fun h => hrestores.2 (.inl h)⟩, hrestores⟩
  · rw [expandWord, hlive, hps]
    rfl
  · rintro ⟨c, hread, hexpand⟩
    exact Command.unambiguous_of_expand hne hread (Command.isPattern_of_read hmeta hread) hexpand

/-- A directory with one file. -/
def holding (n : Text) : Place := ⟨⟨[([n], .file [] false)]⟩, []⟩

theorem list_holding (n : Text) : (holding n).list (Path.ofNames false []) = [n] := by
  have hdir : (holding n).directory (Path.ofNames false []) = .ok [] :=
    (Place.directory_ofNames (by simp)).2 ⟨by simp, by decide, by rw [Tree.walk]; rfl, rfl⟩
  rw [Place.list, hdir]
  simp [Tree.names, holding, List.eraseDups_cons]

theorem matchWord_holding {n : Text} (ht : (holding n).tree.IsLegal) : matchWord (holding n) ['*'] = .ok [n] := by
  have htokens : (Wildcard.components ['*']).map Wildcard.tokens = [[.anyRun]] := by decide +kernel
  have hdescribes : Pattern.describes [.anyRun] n := Pattern.anyEnd_iff.2 ⟨n, [], (List.append_nil n).symm, rfl⟩
  have hfound : Wildcard.found (holding n) ['*'] = [[n]] := by
    rw [Wildcard.found, htokens]
    simp [Place.trails, Place.candidates, Pattern.literal?, Path.isAbsolute, list_holding, hdescribes]
  rw [Wildcard.matchWord_wildcard ht (by decide), hfound, if_neg (by simp), List.map_singleton, Place.ofNames_singleton]
  rfl

/-- A file with a space in its name is given back, one with a tab or with a quote beside the space is not. One with a
tab in front of a star is, though it is not unambiguous: the star is read as a pattern, which finds the file. -/
theorem expandWord_reread_holding :
    (expandWord (holding "b 1".toList) ['*'] = .ok ["'b 1'".toList] ∧
        Command.RestoresPaths (holding "b 1".toList) ["b 1".toList]) ∧
      (expandWord (holding "c\td".toList) ['*'] = .ok ["c\td".toList] ∧
        ¬Command.RestoresPaths (holding "c\td".toList) ["c\td".toList]) ∧
      (expandWord (holding "it's b".toList) ['*'] = .ok ["'it's b'".toList] ∧
        ¬Command.RestoresPaths (holding "it's b".toList) ["it's b".toList]) ∧
      Command.RestoresPaths (holding "\t*".toList) ["\t*".toList] ∧
        ¬Path.IsUnambiguous (holding "\t*".toList) "\t*".toList := by
  have hreread (n : Text) (ht : (holding n).tree.IsLegal) := expandWord_reread ht (by decide) (matchWord_holding ht)
  have hplain (n : Text) (h : n.all (!metacharacters.contains ·)) : ∀ p ∈ [n], ∀ x ∈ p, x ∉ metacharacters := by
    simpa using h
  -- a word with a tab in it is not one word
  have htabbed (n : Path) (hspace : ' ' ∉ n) (hword : isWordText true n = false) : ¬Path.IsUnambiguous (holding n) n := by
    intro h
    rw [Path.IsUnambiguous, if_neg hspace, hword] at h
    exact absurd h.2.1 Bool.false_ne_true
  obtain ⟨hspace, hrestores, -⟩ := hreread "b 1".toList (by decide)
  obtain ⟨htab, -, htab', -⟩ := hreread "c\td".toList (by decide)
  obtain ⟨hquote, -, hquote', -⟩ := hreread "it's b".toList (by decide)
  obtain ⟨-, -, -, hstar⟩ := hreread "\t*".toList (by decide)
  refine ⟨⟨hspace, hrestores ⟨?_, List.forall_mem_nil _⟩⟩, ⟨htab, fun h => ?_⟩, ⟨hquote, fun h => ?_⟩, hstar.2 (.inr ?_),
    htabbed _ (by decide) (by decide)⟩
  · rw [List.forall_mem_singleton, Path.IsUnambiguous, if_pos (by decide)]
    decide
  · exact htabbed _ (by decide) (by decide) (((htab' (hplain _ (by decide))).1 h).1 _ (List.mem_singleton_self _))
  · -- the quote in the name ends the quotes around it
    have hsingle := ((hquote' (hplain _ (by decide))).1 h).1 _ (List.mem_singleton_self _)
    rw [Path.IsUnambiguous, if_pos (by decide)] at hsingle
    exact absurd hsingle.1 (by decide)
  · have hread : Command.read "\t*".toList = .ok ⟨[⟨[.word ['*']]⟩]⟩ := by decide +kernel
    exact ⟨_, [], ['*'], [], ["\t*".toList], hread, rfl, by decide, matchWord_holding (by decide),
      fun _ => ⟨[], [], rfl, rfl, rfl⟩⟩

end WrapShell
