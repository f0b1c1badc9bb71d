import Mathlib.Data.Set.List
import WrapShell.Suggest.Candidate
import WrapShell.Proofs.Glob.Components
import WrapShell.Proofs.Line.Expand
/-!
# Paths that are offered for a word

A word that ends a path is searched for with its special characters escaped and a star behind it.
What is offered are the names in the directory that begin like the word, whatever characters it has
(`fileCandidates_entries`), and a slash behind those whose paths lead to directories.
-/

namespace WrapShell

open WrapShell.Path (IsName ofNames)
open Pattern (Token)

/-- The path into a directory, with the slash behind its name. -/
def Path.opened (absolute : Bool) (ds : List Text) : Path := (if absolute then ['/'] else []) ++ ds.flatMap (· ++ ['/'])

/-- Whether names, followed one after the other and links too, lead to a directory. -/
def Place.LeadsIn (here : Place) (absolute : Bool) (ns : List Text) : Prop :=
  ∃ l, here.tree.walk true Tree.maxLinks (here.base absolute) ns = .ok (.present l) ∧ here.tree.get? l = some .dir

variable {here : Place} {absolute : Bool} {ds ns : List Text} {m n start t : Text} {ks : List Token} {l : Location}

theorem Path.opened_append (absolute : Bool) (ds : List Text) (n : Text) :
    opened absolute ds ++ n = ofNames absolute (ds ++ [n]) := by
  obtain ⟨m, ms, e⟩ := List.exists_cons_of_ne_nil (List.append_ne_nil_of_right_ne_nil ds (List.cons_ne_nil n []))
  have hjoin : List.intercalate ['/'] (ds ++ [n]) = ds.flatMap (· ++ ['/']) ++ n := by
    rw [intercalate_append, List.intercalate_singleton]
  rw [opened, List.append_assoc, ← hjoin, e, ofNames]

theorem Path.isAbsolute_opened (hds : ∀ d ∈ ds, IsName d) (hstart : '/' ∉ start) :
    isAbsolute (opened absolute ds ++ start) = absolute := by
  cases absolute with
  | true => rfl
  | false =>
    cases ds with
    | nil => simpa [isAbsolute, opened] using fun e => hstart (List.mem_of_mem_head? e)
    | cons d ds =>
      have hd := hds d (by simp)
      obtain ⟨c, d, rfl⟩ := List.exists_cons_of_ne_nil hd.nonempty
      simpa [isAbsolute, opened] using hd.head_ne

/-! ## The pattern of a word -/

namespace Pattern

/-- The tokens that ask for the characters of a text, whatever these are. -/
def exactly (t : Text) : List Token := t.map fun c => (WordPiece.escaped c).token

/-- The tokens that ask for a name that begins with a text. -/
def beginning (t : Text) : List Token := exactly t ++ [.anyRun]

/-- The components that ask for a name in a directory. -/
def entering (ds : List Text) (start : Text) : List (List Token) := ds.map exactly ++ [beginning start]

theorem entering_cons {d : Text} : entering (d :: ds) start = exactly d :: entering ds start := rfl

theorem getLast?_entering : (entering ds start).getLast? = some (beginning start) := List.getLast?_concat

theorem entering_ne_nil : entering ds start ≠ [] := List.append_ne_nil_of_right_ne_nil _ (List.cons_ne_nil _ _)

theorem describes_exactly_append : describes (exactly t ++ ks) n ↔ ∃ m, n = t ++ m ∧ describes ks m := by
  induction t generalizing n with
  | nil => simp [exactly]
  | cons c t ih =>
    change describes ((WordPiece.escaped c).token :: (exactly t ++ ks)) n ↔ _
    rw [WordPiece.describes_escaped_cons]
    simp only [ih]
    constructor
    · rintro ⟨_, rfl, m, rfl, h⟩
      exact ⟨m, rfl, h⟩
    · rintro ⟨m, rfl, h⟩
      exact ⟨t ++ m, rfl, m, rfl, h⟩

theorem describes_exactly : describes (exactly t) n ↔ n = t := by
  rw [← List.append_nil (exactly t), describes_exactly_append]
  simp [describes]

theorem describes_beginning : describes (beginning t) n ↔ t <+: n := by
  have hany (m : Text) : describes [.anyRun] m := anyEnd_iff.2 ⟨m, [], by simp, rfl⟩
  rw [beginning, describes_exactly_append]
  constructor
  · rintro ⟨m, rfl, -⟩
    exact List.prefix_append t m
  · rintro ⟨m, rfl⟩
    exact ⟨m, rfl, hany m⟩

/-- A text escaped, with a star behind it, is the pattern of the word that has a backslash before
each of its characters. -/
theorem spells_starred (t : Text) :
    WordPiece.Spells (t.flatMap (fun c => ['\\', c]) ++ ['*']) (t.map .escaped ++ [.stars]) := by
  induction t with
  | nil => exact .stars 0 (by simp) .nil
  | cons c t ih => exact .escaped c ih

theorem escape_starred (t : Text) : escape t ++ ['*'] = WordPiece.writeAll (t.map .escaped ++ [.stars]) := by
  rw [WordPiece.writeAll, List.flatMap_append, List.flatMap_map, escape]
  simp [WordPiece.write, or_comm]

theorem readPath_starred (t : Text) : readPath (escape t ++ ['*']) = .ok (cutTokens (beginning t)) := by
  have hread := (spells_starred t).readPath fun p hp => by
    rcases List.mem_append.1 hp with hp | hp
    · obtain ⟨c, -, rfl⟩ := List.mem_map.1 hp
      exact id
    · cases List.mem_singleton.1 hp
      exact id
  rw [escape_starred, hread, List.map_append, List.map_map]
  rfl

theorem isAbsolute_escape (t : Text) : Path.isAbsolute (escape t ++ ['*']) = Path.isAbsolute t := by
  cases t with
  | nil => rfl
  | cons c t =>
    rw [escape, List.flatMap_cons]
    split
    · next hc =>
      have hslash : c ≠ '/' := by rintro rfl; simp at hc
      simp [Path.isAbsolute, hslash]
    · rfl

theorem token_escaped {c d : Char} (hd : d ∉ ['*', '?', '[', ']']) : (WordPiece.escaped c).token = .char d ↔ c = d := by
  rw [WordPiece.token]
  split
  · next hc =>
    refine iff_of_false (by simp) ?_
    rintro rfl
    simp_all
  · simp

theorem head_beginning {d : Char} (hd : d ∉ ['*', '?', '[', ']']) (t : Text) :
    (beginning t).head? = some (.char d) ↔ t.head? = some d := by
  cases t with
  | nil => simp [beginning, exactly]
  | cons c t => simp [beginning, exactly, token_escaped hd]

theorem slash_not_mem_exactly (h : '/' ∉ t) : Token.char '/' ∉ exactly t := by
  intro hmem
  obtain ⟨c, hc, e⟩ := List.mem_map.1 hmem
  exact h ((token_escaped (by decide)).1 e ▸ hc)

theorem splitOn_beginning (hds : ∀ d ∈ ds, IsName d) (hstart : '/' ∉ start) :
    (beginning (ds.flatMap (· ++ ['/']) ++ start)).splitOn (.char '/') = entering ds start := by
  induction ds with
  | nil => exact List.splitOn_eq_singleton (by simpa [beginning] using slash_not_mem_exactly hstart)
  | cons d ds ih =>
    obtain ⟨hd, hds⟩ := List.forall_mem_cons.1 hds
    have e : beginning ((d :: ds).flatMap (· ++ ['/']) ++ start) =
        exactly d ++ .char '/' :: beginning (ds.flatMap (· ++ ['/']) ++ start) := by
      simp [beginning, exactly, WordPiece.token]
    rw [e, List.splitOn_append_cons_self_of_not_mem (slash_not_mem_exactly hd.slash), ih hds]
    rfl

/-- The components are the names of the directories and the beginning of the name that is sought. -/
theorem cutTokens_opened (hds : ∀ d ∈ ds, IsName d) (hstart : '/' ∉ start) :
    cutTokens (beginning (Path.opened absolute ds ++ start)) = entering ds start := by
  have habs := @Path.isAbsolute_opened absolute ds start hds hstart
  have hfront : (beginning (Path.opened absolute ds ++ start)).head? = some (.char '/') ↔ absolute = true := by
    rw [head_beginning (by decide), ← beq_iff_eq]
    exact Bool.eq_iff_iff.1 habs
  have hrelative : (if (beginning (Path.opened absolute ds ++ start)).head? = some (.char '/')
      then (beginning (Path.opened absolute ds ++ start)).tail else beginning (Path.opened absolute ds ++ start)) =
        beginning (ds.flatMap (· ++ ['/']) ++ start) := by
    cases absolute with
    | true => rw [if_pos (hfront.2 rfl)]; rfl
    | false => rw [if_neg fun h => Bool.noConfusion (hfront.1 h)]; rfl
  rw [cutTokens, hrelative, splitOn_beginning hds hstart, if_neg (by simp [getLast?_entering, beginning])]

theorem isSought_exactly (hn : IsName n) : Place.IsSought (exactly n) where
  undotted := by
    refine List.filter_eq_nil_iff.2 fun m hm hd => ?_
    cases describes_exactly.1 hd
    rcases (Place.mem_specialNames.1 hm).1 with h | h
    · exact hn.parent h
    · exact hn.here h
  name m hm := describes_exactly.1 ((describes_literal hm).2 rfl) ▸ hn

theorem literal_beginning (t : Text) : literal? (beginning t) = none := by
  refine Option.eq_none_iff_forall_ne_some.2 fun m h => ?_
  have hmem : Token.anyRun ∈ m.map Token.char := eq_of_literal h ▸ List.mem_append_right _ List.mem_cons_self
  simp at hmem

theorem isSought_beginning (hdot : start.head? ≠ some '.') : Place.IsSought (beginning start) where
  undotted := List.filter_eq_nil_iff.2 fun _ hm =>
    absurd ((head_beginning (by decide) start).1 (Place.mem_specialNames.1 hm).2) hdot
  name m hm := by
    rw [literal_beginning] at hm
    cases hm

end Pattern

/-! ## What is offered -/

namespace Place

theorem forall₂_entering :
    List.Forall₂ (fun ks n => Pattern.describes ks n = true) (Pattern.entering ds start) ns ↔
      ∃ m, ns = ds ++ [m] ∧ start <+: m := by
  induction ds generalizing ns with
  | nil =>
    rw [show Pattern.entering [] start = [Pattern.beginning start] from rfl, List.forall₂_cons_left_iff]
    simp [Pattern.describes_beginning, and_comm]
  | cons d ds ih =>
    rw [Pattern.entering_cons, List.forall₂_cons_left_iff]
    simp only [ih, Pattern.describes_exactly]
    constructor
    · rintro ⟨_, _, rfl, ⟨m, rfl, h⟩, rfl⟩
      exact ⟨m, rfl, h⟩
    · rintro ⟨m, rfl, h⟩
      exact ⟨d, ds ++ [m], rfl, ⟨m, rfl, h⟩, rfl⟩

theorem isSought_entering (hds : ∀ d ∈ ds, IsName d) (hdot : start.head? ≠ some '.') :
    ∀ ks ∈ Pattern.entering ds start, IsSought ks := by
  intro ks hks
  rcases List.mem_append.1 hks with h | h
  · obtain ⟨d, hd, rfl⟩ := List.mem_map.1 h
    exact Pattern.isSought_exactly (hds d hd)
  · cases List.mem_singleton.1 h
    exact Pattern.isSought_beginning hdot

/-- A search goes through the directory, and from there to each name in it that begins as asked. -/
theorem mem_trails_entering (ht : here.tree.IsLegal) (hds : ∀ d ∈ ds, IsName d) (hdot : start.head? ≠ some '.') :
    ns ∈ here.trails absolute (Pattern.entering ds start) [] ↔
      ∃ m, ns = ds ++ [m] ∧ start <+: m ∧ m ∈ here.list (ofNames absolute ds) := by
  have hlists (m : Text) : here.Lists absolute (Pattern.beginning start) ds m ↔ m ∈ here.list (ofNames absolute ds) := by
    simp [Lists, Pattern.literal_beginning]
  rw [mem_trails_iff ht (isSought_entering hds hdot) (by simp) Pattern.entering_ne_nil, forall₂_entering,
    Pattern.getLast?_entering]
  constructor
  · rintro ⟨⟨m, rfl, hm⟩, -, init, n, e, ks, hks, hl⟩
    cases hks
    obtain ⟨rfl, rfl⟩ := List.append_singleton_inj.1 e
    exact ⟨m, rfl, hm, (hlists m).1 hl⟩
  · rintro ⟨m, rfl, hm, hl⟩
    exact ⟨⟨m, rfl, hm⟩, (name_of_mem_list ht hl).concat hds, ds, m, rfl, _, rfl, (hlists m).2 hl⟩

theorem before_append {ds ms ns : List Text} : Wildcard.Before (ds ++ ms) (ds ++ ns) ↔ Wildcard.Before ms ns := by
  induction ds with
  | nil => exact Iff.rfl
  | cons d ds ih =>
    rw [← ih]
    constructor
    · intro h
      cases h with
      | rel h => exact absurd h (List.lt_irrefl _)
      | cons h => exact h
    · exact .cons

/-- The word for a path into a directory is offered the names in the directory that begin like the
rest of the word. -/
theorem glob_opened (ht : here.tree.IsLegal) (hds : ∀ d ∈ ds, IsName d) (hstart : '/' ∉ start) (hdot : start.head? ≠ some '.') :
    ∃ ms : List Text, (∀ m, m ∈ ms ↔ start <+: m ∧ m ∈ here.list (ofNames absolute ds)) ∧
      ms.Pairwise (fun m n => Text.utf8 m < Text.utf8 n) ∧
      here.glob (Pattern.escape (Path.opened absolute ds ++ start) ++ ['*']) = .ok (ms.map (Path.opened absolute ds ++ ·)) := by
  have hmem (ns : List Text) := @mem_trails_entering here absolute ds ns start ht hds hdot
  have hsorted := here.trails_sorted absolute (Pattern.entering ds start) []
  have hsearch := @search_eq_trails here absolute _ [] ht (isSought_entering hds hdot) (by simp)
  -- all that is found is the directory with one more name behind it
  obtain ⟨ms, e⟩ : here.trails absolute (Pattern.entering ds start) [] ∈
      Set.range (List.map fun m => ds ++ [m]) := by
    rw [Set.range_list_map]
    intro ns hns
    obtain ⟨m, rfl, -⟩ := (hmem ns).1 hns
    exact ⟨m, rfl⟩
  rw [← e] at hmem hsorted hsearch
  refine ⟨ms, fun m => ?_, ?_, ?_⟩
  · have := hmem (ds ++ [m])
    simpa using this
  · exact (List.pairwise_map.1 hsorted).imp fun h => by
      cases before_append.1 h with
      | rel h => exact h
      | cons h => cases h
  · have habs := @Path.isAbsolute_opened absolute ds start hds hstart
    rw [glob, Pattern.readPath_starred, Pattern.cutTokens_opened hds hstart, Pattern.isAbsolute_escape, habs]
    have hlast : ((Pattern.escape (Path.opened absolute ds ++ start) ++ ['*']).getLast? == some '/') = false := by simp
    rw [hlast]
    change Except.ok (here.search false _ (ofNames absolute []) (here.isDir (ofNames absolute []))) = _
    rw [hsearch, List.map_map]
    exact congrArg Except.ok (List.map_congr_left fun m _ => (Path.opened_append absolute ds m).symm)

/-- What is asked of a name to get its slash: the system must be able to look the path up. -/
theorem isDir_opened (ht : here.tree.IsLegal) (hds : ∀ d ∈ ds, IsName d) (hm : m ∈ here.list (ofNames absolute ds)) :
    here.isDir (Path.opened absolute ds ++ m) ↔
      Text.utf8Size (Path.opened absolute ds ++ m) < 4096 ∧ here.LeadsIn absolute (ds ++ [m]) := by
  obtain ⟨l, hdir, hml⟩ := mem_list.1 hm
  obtain ⟨hnul, -⟩ := (directory_ofNames hds).1 hdir
  obtain ⟨hn, hn0, -⟩ := ht.name hml
  have hnul : ∀ n ∈ ds ++ [m], '\x00' ∉ n := List.forall_mem_append.2 ⟨hnul, List.forall_mem_singleton.2 hn0⟩
  rw [Path.opened_append, isDir_iff]
  simp only [directory_ofNames (hn.concat hds), exists_and_left, LeadsIn]
  exact and_iff_right hnul

/-- An entry that is no link is a directory if its path leads to one. -/
theorem leadsIn_iff (ht : here.tree.IsLegal) (hds : ∀ d ∈ ds, IsName d) (hdir : here.directory (ofNames absolute ds) = .ok l)
    {e : Entry} (he : here.tree.get? (m :: l) = some e) (hlink : ∀ target, e ≠ .link target) :
    here.LeadsIn absolute (ds ++ [m]) ↔ e = .dir := by
  obtain ⟨-, -, hw, hd⟩ := (directory_ofNames hds).1 hdir
  obtain ⟨hn, -, hsize⟩ := ht.name (Tree.mem_names.2 (by rw [he]; rfl))
  rw [LeadsIn, Tree.walk_name hw hd hn hsize he (.inr hlink)]
  constructor
  · rintro ⟨l', h, hl'⟩
    cases h
    exact Option.some.inj (he.symm.trans hl')
  · rintro rfl
    exact ⟨_, rfl, he⟩

theorem fileCandidates_opened (ht : here.tree.IsLegal) (hds : ∀ d ∈ ds, IsName d) (hstart : '/' ∉ start)
    (hdot : start.head? ≠ some '.') (hne : Path.opened absolute ds ++ start ≠ []) :
    ∃ ms : List Text, (∀ m, m ∈ ms ↔ start <+: m ∧ m ∈ here.list (ofNames absolute ds)) ∧
      ms.Pairwise (fun m n => Text.utf8 m < Text.utf8 n) ∧
      here.fileCandidates (Path.opened absolute ds ++ start) = ms.map fun m =>
        .plain (Path.opened absolute ds ++ m ++ if here.isDir (Path.opened absolute ds ++ m) then ['/'] else []) := by
  obtain ⟨ms, hmem, hsorted, hglob⟩ := @glob_opened here absolute ds start ht hds hstart hdot
  refine ⟨ms, hmem, hsorted, ?_⟩
  rw [fileCandidates, if_neg hne, pathCandidates, hglob]
  dsimp only
  rw [List.map_map]
  refine List.map_congr_left fun m _ => congrArg Candidate.plain ?_
  dsimp only
  split <;> simp

/-- For a word that goes into a directory, with the beginning of a name behind it or nothing, the
entries of the directory are offered whose names begin so: each once, in the order of the bytes of
the names, and no matter which characters are special in a pattern. A slash stands behind those whose
paths, short enough to be looked up, lead to directories. -/
theorem fileCandidates_entries {here : Place} {absolute : Bool} {ds : List Text} {start : Text} (ht : here.tree.IsLegal)
    (hds : ∀ d ∈ ds, IsName d) (hstart : '/' ∉ start) (hdot : start.head? ≠ some '.')
    (hne : Path.opened absolute ds ++ start ≠ []) :
    (∀ e, here.directory (ofNames absolute ds) = .error e → here.fileCandidates (Path.opened absolute ds ++ start) = []) ∧
    ∀ l, here.directory (ofNames absolute ds) = .ok l → ∃ ms : List Text,
      (∀ m, m ∈ ms ↔ start <+: m ∧ (here.tree.get? (m :: l)).isSome) ∧
      ms.Pairwise (fun m n => Text.utf8 m < Text.utf8 n) ∧
      here.fileCandidates (Path.opened absolute ds ++ start) = ms.map (fun m =>
        .plain (Path.opened absolute ds ++ m ++ if here.isDir (Path.opened absolute ds ++ m) then ['/'] else [])) ∧
      ∀ m ∈ ms,
        (here.isDir (Path.opened absolute ds ++ m) ↔
          Text.utf8Size (Path.opened absolute ds ++ m) < 4096 ∧ here.LeadsIn absolute (ds ++ [m])) ∧
        ∀ e, here.tree.get? (m :: l) = some e → (∀ target, e ≠ .link target) →
          (here.LeadsIn absolute (ds ++ [m]) ↔ e = .dir) := by
  obtain ⟨ms, hmem, hsorted, hfiles⟩ := fileCandidates_opened ht hds hstart hdot hne
  constructor
  · intro e he
    have hnil : ms = [] := List.eq_nil_iff_forall_not_mem.2 fun m hm => by simpa [list, he] using ((hmem m).1 hm).2
    rw [hfiles, hnil]
    rfl
  · intro l hl
    have hlist (m : Text) : m ∈ here.list (ofNames absolute ds) ↔ (here.tree.get? (m :: l)).isSome := by
      rw [list, hl, Tree.mem_names]
    refine ⟨ms, fun m => by rw [hmem, hlist], hsorted, hfiles, fun m hm => ⟨?_, fun e he hlink => ?_⟩⟩
    · exact isDir_opened ht hds ((hmem m).1 hm).2
    · exact leadsIn_iff ht hds hl he hlink

/-- A directory with a star in its name, and in it a hidden file and a directory in brackets. -/
def drawer : Place :=
  ⟨⟨[(["a*".toList], .dir), ([".h".toList, "a*".toList], .file [] false), (["[x]".toList, "a*".toList], .dir),
    (["ab".toList], .dir), (["b".toList, "ab".toList], .file [] false)]⟩, []⟩

theorem fileCandidates_entries_drawer :
    .plain "a*/.h".toList ∈ drawer.fileCandidates "a*/".toList ∧
      .plain "a*/[x]/".toList ∈ drawer.fileCandidates "a*/".toList := by
  have hdir : drawer.directory (ofNames false ["a*".toList]) = .ok ["a*".toList] := by
    have hwalk := @Tree.walk_into drawer.tree true 40 [] [] "a*".toList rfl (by decide) (by decide) rfl
    rw [Tree.walk] at hwalk
    exact (directory_ofNames (by decide)).2 ⟨by decide, by decide, hwalk, rfl⟩
  obtain ⟨ms, hmem, -, hfiles, hslash⟩ := (@fileCandidates_entries drawer false ["a*".toList] [] (by decide) (by decide)
    (by decide) (by decide) (by decide)).2 _ hdir
  have hhidden : ".h".toList ∈ ms := (hmem _).2 ⟨List.nil_prefix, rfl⟩
  have hbrackets : "[x]".toList ∈ ms := (hmem _).2 ⟨List.nil_prefix, rfl⟩
  have hplain : drawer.isDir "a*/.h".toList = false := by
    have h := hslash _ hhidden
    exact Bool.eq_false_iff.2 fun hd => by cases (h.2 _ rfl (by simp)).1 (h.1.1 hd).2
  have hopen : drawer.isDir "a*/[x]".toList := by
    have h := hslash _ hbrackets
    exact h.1.2 ⟨by decide, (h.2 _ rfl (by simp)).2 rfl⟩
  have hword : Path.opened false ["a*".toList] ++ [] = "a*/".toList := by decide
  rw [hword] at hfiles
  rw [hfiles]
  refine ⟨List.mem_map.2 ⟨_, hhidden, ?_⟩, List.mem_map.2 ⟨_, hbrackets, ?_⟩⟩
  · change Candidate.plain ("a*/.h".toList ++ if drawer.isDir "a*/.h".toList then _ else _) = _
    rw [hplain]; rfl
  · change Candidate.plain ("a*/[x]".toList ++ if drawer.isDir "a*/[x]".toList then _ else _) = _
    rw [hopen]; rfl

/-- The directory that `Node.roundabout` leads to, with a directory in it. -/
def shaft : Place :=
  ⟨⟨[([List.replicate 255 'l'], .link ['.']), ([List.replicate 254 'm'], .dir), ([['a'], List.replicate 254 'm'], .dir)]⟩, []⟩

/-- A directory in a directory has no slash where its path is too long to be looked up. -/
theorem not_fileCandidates_slash :
    ¬∀ (here : Place) (absolute : Bool) (ds : List Text) (start m : Text) (l : Location), here.tree.IsLegal →
      (∀ d ∈ ds, IsName d) → '/' ∉ start → start.head? ≠ some '.' → Path.opened absolute ds ++ start ≠ [] →
      here.directory (ofNames absolute ds) = .ok l → start <+: m → here.tree.get? (m :: l) = some .dir →
      .plain (Path.opened absolute ds ++ m ++ ['/']) ∈ here.fileCandidates (Path.opened absolute ds ++ start) := by
  intro h
  have ht : shaft.tree.IsLegal := Node.isLegal_holding (by decide) trivial
  have hnames := Node.isName_roundabout
  have hdir : shaft.directory (ofNames false Node.roundabout) = .ok [List.replicate 254 'm'] :=
    Node.directory_roundabout (by decide +kernel) (by decide +kernel)
  have hlong : ¬Text.utf8Size (Path.opened false Node.roundabout ++ ['a']) < 4096 := by
    rw [Path.opened_append, utf8Size_ofNames_concat false Node.roundabout_ne_nil, Node.utf8Size_roundabout]
    decide
  have hne : Path.opened false Node.roundabout ++ [] ≠ [] := by decide +kernel
  have hmem := h shaft false Node.roundabout [] ['a'] _ ht hnames (by decide) (by decide) hne hdir List.nil_prefix
    (by decide +kernel)
  obtain ⟨ms, hms, -, hfiles⟩ := @fileCandidates_opened shaft false _ [] ht hnames (by decide) (by decide) hne
  rw [hfiles] at hmem
  obtain ⟨m, hm, e⟩ := List.mem_map.1 hmem
  have hm := ((hms m).1 hm).2
  -- either the name itself would end in the slash, or its path would be short
  have e := congrArg Candidate.text e
  simp only [Candidate.plain, List.append_assoc, List.append_cancel_left_eq] at e
  split at e
  · next hd =>
    obtain ⟨rfl, -⟩ := List.append_inj' e rfl
    exact hlong ((isDir_opened ht hnames hm).1 hd).1
  · rw [List.append_nil] at e
    exact (name_of_mem_list ht hm).slash (by simp [e])

end Place

end WrapShell
