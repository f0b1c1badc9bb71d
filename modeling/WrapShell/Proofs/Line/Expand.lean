import WrapShell.Line.Expand
import WrapShell.Proofs.Glob.Search
/-!
# What a wildcard expands to

A bare word without brackets gives the paths whose names its components stand for, each once and
in order (`expand_wildcard`), up to the length that the system can look up.
-/

namespace WrapShell

open WrapShell.Path (IsName IsLegalName ofNames)
open Wildcard (Describes IsThere Before)
open WordPiece (IsComponent token)

namespace Wildcard

variable {here : Place} {absolute : Bool} {ts ns : List Text} {pss : List (List WordPiece)}

theorem stripEscapes_of_live {t : Text} (h : t.escapes (fun c => !(['*', '+', '?'].contains c)) (fun _ => true) true = false) :
    stripEscapes t = none := by
  rw [stripEscapes_eq_none_iff, Bool.eq_false_iff] at *
  refine mt (Text.escapes_mono fun c hc => ?_) h
  simp [metacharacters] at hc ⊢
  tauto

theorem isSought (h : List.Forall₂ IsComponent ts pss) (hts : ∀ t ∈ ts, t.head? ≠ some '.' ∧ t.take 2 ≠ ['\\', '.']) :
    ∀ ks ∈ pss.map (·.map token), Place.IsSought ks := by
  induction h with
  | nil => simp
  | @cons t ps _ _ hp _ ih =>
    obtain ⟨⟨hd, he⟩, hts⟩ := List.forall_mem_cons.1 hts
    obtain ⟨hdot, hspecial⟩ := hp.undotted hd he
    exact List.forall_mem_cons.2 ⟨⟨by simp [hspecial], fun n hn => hp.isName hdot hn⟩, ih hts⟩

theorem forall₂_describes (h : List.Forall₂ IsComponent ts pss) :
    List.Forall₂ (fun ks n => Pattern.describes ks n = true) (pss.map (·.map token)) ns ↔ List.Forall₂ Describes ts ns := by
  induction h generalizing ns with
  | nil => simp
  | cons hp _ ih =>
    rw [List.map_cons, List.forall₂_cons_left_iff, List.forall₂_cons_left_iff]
    simp only [ih, hp.spells.describes_iff hp.no_bracket]

theorem getLast_component (h : List.Forall₂ IsComponent ts pss) (hne : ts ≠ []) :
    ∃ t ps, ts.getLast? = some t ∧ (pss.map (·.map token)).getLast? = some (ps.map token) ∧ IsComponent t ps := by
  induction h with
  | nil => exact absurd rfl hne
  | @cons t ps ts pss hp hps ih =>
    cases hps with
    | nil => exact ⟨t, ps, rfl, rfl, hp⟩
    | cons _ _ =>
      obtain ⟨t', ps', ht, hks, hp'⟩ := ih (by simp)
      refine ⟨t', ps', ?_, ?_, hp'⟩
      · rw [List.getLast?_cons_cons, ht]
      · rw [List.map_cons, List.getLast?_cons_of_ne_nil (by simp), hks]

theorem eq_of_plain (h : ∀ t ∈ ts, ∀ c ∈ t, c ∉ ['\\', '?', '*']) (hf : List.Forall₂ Describes ts ns) : ns = ts := by
  induction hf with
  | nil => rfl
  | cons hd _ ih =>
    obtain ⟨ht, hts⟩ := List.forall_mem_cons.1 h
    rw [(describes_plain ht).1 hd, ih hts]

theorem not_before (ns : List Text) : ¬Before ns ns := by
  induction ns with
  | nil => intro h; cases h
  | cons n ns ih =>
    intro h
    cases h with
    | rel h => exact List.lt_irrefl _ h
    | cons h => exact ih h

/-- Different names make different paths. -/
theorem ofNames_inj {ms : List Text} (hns : ∀ n ∈ ns, IsName n) (hms : ∀ m ∈ ms, IsName m) (hn : ns ≠ []) (hm : ms ≠ [])
    (h : ofNames absolute ns = ofNames absolute ms) : ns = ms := by
  have hjoin {xs : List Text} (hx : xs ≠ []) : ofNames absolute xs = (if absolute then ['/'] else []) ++ List.intercalate ['/'] xs := by
    obtain ⟨x, xs, rfl⟩ := List.exists_cons_of_ne_nil hx
    rfl
  rw [hjoin hn, hjoin hm, List.append_cancel_left_eq] at h
  rw [← Place.splitOn_names hns hn, h, Place.splitOn_names hms hm]

theorem components_ofNames (hns : ∀ n ∈ ns, IsName n) (hne : ns ≠ []) : components (ofNames absolute ns) = ns := by
  have habs := @Place.isAbsolute_ofNames absolute _ hns
  obtain ⟨n, ns, rfl⟩ := List.exists_cons_of_ne_nil hne
  rw [components, habs]
  cases absolute <;> exact Place.splitOn_names hns hne

/-- A path with a live character in it, and with none that changes what another stands for. -/
theorem isWildcard_ofNames (hns : ∀ n ∈ ns, IsName n) (hne : ns ≠ []) (hplain : ∀ n ∈ ns, ∀ c ∈ n, c ∉ ['.', '\\', '['])
    (hlive : ∃ n ∈ ns, ∃ c ∈ n, c ∈ ['*', '+', '?']) : IsWildcard (ofNames absolute ns) := by
  have hback : '\\' ∉ ofNames absolute ns := by
    rw [Place.mem_ofNames (by decide) hne]
    rintro ⟨n, hn, hc⟩
    exact hplain n hn _ hc (by decide)
  refine ⟨?_, ?_, fun t ht => ?_⟩
  · obtain ⟨n, hn, c, hc, hwild⟩ := hlive
    have hslash : c ≠ '/' := by rintro rfl; exact absurd hwild (by decide)
    rw [Text.escapes_of_not_mem hback, List.all_eq_false]
    exact ⟨c, (Place.mem_ofNames hslash hne).2 ⟨n, hn, hc⟩, by simpa [or_iff_not_imp_left] using hwild⟩
  · rw [Text.escapes_of_not_mem hback, List.all_eq_true]
    intro c hc
    rw [bne_iff_ne]
    rintro rfl
    obtain ⟨n, hn, hc⟩ := (Place.mem_ofNames (by decide) hne).1 hc
    exact hplain n hn _ hc (by decide)
  · rw [components_ofNames hns hne] at ht
    refine ⟨(hns t ht).nonempty, fun h => ?_, fun h => ?_⟩
    · exact hplain t ht _ (List.mem_of_mem_head? h) (by decide)
    · exact hplain t ht '\\' (List.mem_of_mem_take (h ▸ List.mem_cons_self)) (by decide)

/-- What the last component has to ask for is the path to be there. -/
theorem isThere_iff (ht : here.tree.IsLegal) (h : List.Forall₂ IsComponent ts pss) (hne : ts ≠ []) (hns : ∀ n ∈ ns, IsName n)
    (hlen : ns ≠ []) :
    (∃ init n, ns = init ++ [n] ∧ ∃ ks ∈ (pss.map (·.map token)).getLast?, here.Lists absolute ks init n) ↔
      IsThere here absolute ts ns := by
  obtain ⟨t, ps, hlast, hks, hp⟩ := getLast_component h hne
  obtain ⟨init, n, rfl⟩ : ∃ init n, ns = init ++ [n] := ⟨_, _, (List.dropLast_append_getLast hlen).symm⟩
  have hinit : ∀ m ∈ init, IsName m := fun m hm => hns m (by simp [hm])
  have hn : IsName n := hns n (by simp)
  have hlists : (∃ init' n', init ++ [n] = init' ++ [n'] ∧ ∃ ks ∈ (pss.map (·.map token)).getLast?,
      here.Lists absolute ks init' n') ↔ here.Lists absolute (ps.map token) init n := by
    constructor
    · rintro ⟨init', n', e, ks, hk, hl⟩
      obtain ⟨rfl, e'⟩ := List.append_inj' e rfl
      cases e'
      rw [hks] at hk
      cases hk
      exact hl
    · exact fun hl => ⟨init, n, rfl, _, hks, hl⟩
  -- a path that is short enough is there exactly if it is listed, whichever way it is asked for
  rw [hlists, Place.lists_iff ht hinit hn, hp.spells.isSome_literal hp.no_bracket, IsThere]
  split
  · next hs => simp [Place.isListed_ofNames ht hinit hn, hs]
  · next hs => simp [hlast, hs, and_comm]

/-! ## What is found -/

/-- The tokens of a component. -/
def tokens (t : Text) : List Pattern.Token :=
  match WordPiece.read t with
  | .ok ps => ps.map token
  | .error _ => []

theorem map_tokens (h : List.Forall₂ IsComponent ts pss) : ts.map tokens = pss.map (·.map token) := by
  induction h with
  | nil => rfl
  | cons hp _ ih => rw [List.map_cons, List.map_cons, ih, tokens, WordPiece.read, WordPiece.readFrom_eq_ok_iff.2 hp.spells]

/-- The names that a wildcard finds. -/
def found (here : Place) (word : Text) : List (List Text) :=
  here.trails (Path.isAbsolute word) ((components word).map tokens) []

variable {word : Text}

theorem mem_found (ht : here.tree.IsLegal) (hw : IsWildcard word) :
    ns ∈ found here word ↔ List.Forall₂ Describes (components word) ns ∧ (∀ n ∈ ns, IsName n) ∧
      IsThere here (Path.isAbsolute word) (components word) ns := by
  obtain ⟨_, pss, -, -, -, -, hpss⟩ := WordPiece.readPath_wildcard hw
  have hne : components word ≠ [] := List.splitOn_ne_nil _ _
  have hpne : pss.map (·.map token) ≠ [] := by
    rw [← List.length_pos_iff, List.length_map, ← hpss.length_eq]
    exact List.length_pos_iff.2 hne
  rw [found, map_tokens hpss, Place.mem_trails_iff ht (isSought hpss fun t h => (hw.components t h).2) (by simp) hpne,
    forall₂_describes hpss]
  refine and_congr_right fun hf => and_congr_right fun hns => isThere_iff ht hpss hne hns ?_
  rintro rfl
  exact hne (List.forall₂_nil_right_iff.1 hf)

theorem found_sorted (here : Place) (word : Text) : (found here word).Pairwise Before := here.trails_sorted _ _ _

theorem nodup_found (ht : here.tree.IsLegal) (hw : IsWildcard word) :
    ((found here word).map (ofNames (Path.isAbsolute word))).Nodup := by
  refine List.pairwise_map.2 ((found_sorted here word).imp_of_mem fun {ns ms} hns hms h e => ?_)
  obtain ⟨hn, hnames, -⟩ := (mem_found ht hw).1 hns
  obtain ⟨hm, hmames, -⟩ := (mem_found ht hw).1 hms
  have hne {xs : List Text} (hf : List.Forall₂ Describes (components word) xs) : xs ≠ [] := by
    rintro rfl
    exact List.splitOn_ne_nil _ _ (List.forall₂_nil_right_iff.1 hf)
  -- no list of names comes before itself
  cases ofNames_inj hnames hmames (hne hn) (hne hm) e
  exact not_before _ h

theorem matchWord_wildcard (ht : here.tree.IsLegal) (hw : IsWildcard word) :
    matchWord here word = if found here word = [] then .error (.noMatches word)
      else .ok ((found here word).map (ofNames (Path.isAbsolute word))) := by
  obtain ⟨pattern, pss, hpattern, hread, habs, hslash, hpss⟩ := WordPiece.readPath_wildcard hw
  have hsought := isSought hpss fun t h => (hw.components t h).2
  have hglob : here.glob pattern = .ok ((found here word).map (ofNames (Path.isAbsolute word))) := by
    have hsearch := @Place.search_eq_trails here (Path.isAbsolute word) _ [] ht hsought (by simp)
    have hdirs : (pattern.getLast? == some '/') = false := by simpa using hslash
    rw [Place.glob, hread, habs, hdirs, found, map_tokens hpss]
    exact congrArg Except.ok (hsearch _)
  rw [matchWord, hpattern]
  simp only [hglob]
  cases found here word <;> rfl

theorem expand_found (ht : here.tree.IsLegal) (hw : IsWildcard word) (lookup : Text → Text) :
    Node.expand here lookup (.word word) = if found here word = [] then .error (.noMatches word)
      else .ok ((found here word).map fun ns => quoteSpaced (ofNames (Path.isAbsolute word) ns)) := by
  have hexpand : Node.expand here lookup (.word word) = (matchWord here word).map (·.map quoteSpaced) := by
    rw [Node.expand, expandWord, stripEscapes_of_live hw.live]
  rw [hexpand, matchWord_wildcard ht hw]
  split
  · rfl
  · simp [Except.map, Function.comp_def]

end Wildcard

namespace Node

/-- A wildcard gives the paths whose names its components stand for, as far as they are there:
each path once, in order, and in quotes exactly if a space is in it. If there are none, that is
an error. -/
theorem expand_wildcard {here : Place} {word : Text} (ht : here.tree.IsLegal) (hw : IsWildcard word) (lookup : Text → Text) :
    ∃ found : List (List Text),
      (∀ ns, ns ∈ found ↔ List.Forall₂ Describes (Wildcard.components word) ns ∧ (∀ n ∈ ns, IsName n) ∧
        IsThere here (Path.isAbsolute word) (Wildcard.components word) ns) ∧
      found.Pairwise Before ∧ (found.map (ofNames (Path.isAbsolute word))).Nodup ∧
      Node.expand here lookup (.word word) =
        if found = [] then .error (.noMatches word)
        else .ok (found.map fun ns =>
          if ' ' ∈ ofNames (Path.isAbsolute word) ns then '\'' :: ofNames (Path.isAbsolute word) ns ++ ['\'']
          else ofNames (Path.isAbsolute word) ns) := by
  refine ⟨Wildcard.found here word, fun ns => Wildcard.mem_found ht hw, Wildcard.found_sorted here word,
    Wildcard.nodup_found ht hw, ?_⟩
  rw [Wildcard.expand_found ht hw]
  simp [quoteSpaced]

/-- A directory and a file, both with a space in their names. -/
def shelf : Place := ⟨⟨[(["old files".toList], .dir), (["b 1".toList, "old files".toList], .file [] false)]⟩, []⟩

theorem expand_wildcard_shelf :
    ∃ strings, Node.expand shelf (fun _ => []) (.word "old*/?\\ 1".toList) = .ok strings ∧
      "'old files/b 1'".toList ∈ strings := by
  obtain ⟨found, hmem, -, -, he⟩ := @expand_wildcard shelf "old*/?\\ 1".toList (by decide) (by decide) fun _ => []
  have hfile : "b 1".toList ∈ shelf.list (ofNames false ["old files".toList]) := by
    have hdir := @Tree.walk_into shelf.tree true 40 [] [] "old files".toList rfl (by decide) (by decide) rfl
    rw [Tree.walk] at hdir
    exact Place.mem_list.2 ⟨_, (Place.directory_ofNames (by decide)).2 ⟨by decide, by decide, hdir, rfl⟩, Tree.mem_names.2 rfl⟩
  have hthere : IsThere shelf false ["old*".toList, "?\\ 1".toList] ["old files".toList, "b 1".toList] := by
    rw [IsThere, if_pos (by decide)]
    have hlisted := @Place.isListed_ofNames shelf false ["old files".toList] "b 1".toList (by decide) (by decide) (by decide)
    exact hlisted.2 ⟨by decide, hfile⟩
  have hdescribes : List.Forall₂ Describes ["old*".toList, "?\\ 1".toList] ["old files".toList, "b 1".toList] := by
    refine .cons ?_ (.cons ?_ .nil)
    · exact .char (by decide) (.char (by decide) (.char (by decide) (.anyRun " files".toList .nil)))
    · exact .anyChar _ (.escaped _ (.char (by decide) .nil))
  have hfound : ["old files".toList, "b 1".toList] ∈ found := (hmem _).2 ⟨hdescribes, by decide, hthere⟩
  rw [if_neg (List.ne_nil_of_mem hfound)] at he
  exact ⟨_, he, List.mem_map.2 ⟨_, hfound, by decide⟩⟩

/-! ## Paths that are too long -/

/-- A directory with a file, and beside it a link to where both the link and the directory lie. -/
def looped : Place :=
  ⟨⟨[([List.replicate 255 'l'], .link ['.']), ([List.replicate 254 'm'], .dir),
    ([['a', '+', 'b'], List.replicate 254 'm'], .file [] false)]⟩, []⟩

/-- A way to the directory that is as long as a path can be. -/
def roundabout : List Text := List.replicate 15 (List.replicate 255 'l') ++ [List.replicate 254 'm']

theorem isLegalName_link : IsLegalName (List.replicate 255 'l') :=
  Path.isLegalName_replicate (by decide) (by decide) (by decide)

theorem isLegalName_dir : IsLegalName (List.replicate 254 'm') :=
  Path.isLegalName_replicate (by decide) (by decide) (by decide)

theorem eq_of_mem_roundabout {n : Text} (h : n ∈ roundabout) : n = List.replicate 255 'l' ∨ n = List.replicate 254 'm' :=
  (List.mem_append.1 h).imp List.eq_of_mem_replicate List.mem_singleton.1

theorem letter_of_mem_roundabout {n : Text} {c : Char} (h : n ∈ roundabout) (hc : c ∈ n) : c = 'l' ∨ c = 'm' := by
  rcases eq_of_mem_roundabout h with rfl | rfl
  · exact .inl (List.eq_of_mem_replicate hc)
  · exact .inr (List.eq_of_mem_replicate hc)

theorem isLegalName_roundabout : ∀ n ∈ roundabout, IsLegalName n := by
  intro n hn
  rcases eq_of_mem_roundabout hn with rfl | rfl
  · exact isLegalName_link
  · exact isLegalName_dir

theorem isName_roundabout : ∀ n ∈ roundabout, IsName n := fun n hn => (isLegalName_roundabout n hn).1

theorem roundabout_ne_nil : roundabout ≠ [] := List.append_ne_nil_of_right_ne_nil _ (List.cons_ne_nil _ _)

theorem utf8Size_roundabout : Text.utf8Size (ofNames false roundabout) = 4094 := by
  have hsize := Text.utf8Size_intercalate_replicate '/' 15 (List.replicate 255 'l') (List.replicate 254 'm')
  rw [Text.utf8Size_replicate, Text.utf8Size_replicate] at hsize
  exact hsize

/-- Anything the directory can hold leaves the tree legal. -/
theorem isLegal_holding {n : Text} {e : Entry} (hn : IsLegalName n) (he : e.IsLegal) :
    Tree.IsLegal ⟨[([List.replicate 255 'l'], .link ['.']), ([List.replicate 254 'm'], .dir),
      ([n, List.replicate 254 'm'], e)]⟩ := by
  constructor
  · simp only [List.forall_mem_cons]
    exact ⟨⟨isLegalName_link, nofun⟩, ⟨isLegalName_dir, nofun⟩, ⟨hn, isLegalName_dir, nofun⟩, nofun⟩
  · simp only [List.forall_mem_cons]
    exact ⟨by decide, trivial, he, nofun⟩

/-- In every tree with the link and the directory it leads there. -/
theorem directory_roundabout {t : Tree} (hlink : t.get? [List.replicate 255 'l'] = some (.link ['.']))
    (hdir : t.get? [List.replicate 254 'm'] = some .dir) :
    (⟨t, []⟩ : Place).directory (ofNames false roundabout) = .ok [List.replicate 254 'm'] := by
  obtain ⟨hl, -, hlsize⟩ := isLegalName_link
  obtain ⟨hm, -, hmsize⟩ := isLegalName_dir
  have hself := @Tree.walk_self t true 25 [] [List.replicate 254 'm'] _ rfl hl hlsize hlink (List.cons_ne_nil _ _) 15
  have hinto := @Tree.walk_into t true 25 [] [] _ rfl hm hmsize hdir
  have hend : t.walk true 25 [List.replicate 254 'm'] [] = .ok (.present [List.replicate 254 'm']) := by rw [Tree.walk]
  have hshort : Text.utf8Size (ofNames false roundabout) < 4096 := by rw [utf8Size_roundabout]; decide
  exact (Place.directory_ofNames isName_roundabout).2
    ⟨fun n hn => (isLegalName_roundabout n hn).2.1, hshort, hself.trans (hinto.trans hend), hdir⟩

theorem mem_list_roundabout : ['a', '+', 'b'] ∈ looped.list (ofNames false roundabout) :=
  Place.mem_list.2 ⟨_, directory_roundabout (by decide +kernel) (by decide +kernel), Tree.mem_names.2 (by decide +kernel)⟩

/-- The file, by that way. -/
def detour : List Text := roundabout ++ [['a', '+', 'b']]

/-- A word for which the directory of the file is read. -/
def asking : Text := ofNames false (roundabout ++ [['a', '?', 'b']])

/-- A word for which the file is looked up. -/
def naming : Text := ofNames false detour

theorem isLegal_looped : looped.tree.IsLegal := isLegal_holding (by decide) trivial

theorem isName_detour : ∀ n ∈ detour, IsName n := Path.IsName.concat (by decide) isName_roundabout

theorem isWildcard_behind {n : Text} (hn : IsName n) (hplain : ∀ c ∈ n, c ∉ ['.', '\\', '['])
    (hlive : ∃ c ∈ n, c ∈ ['*', '+', '?']) : IsWildcard (ofNames false (roundabout ++ [n])) := by
  refine Wildcard.isWildcard_ofNames (hn.concat isName_roundabout) (by simp) ?_ ⟨n, by simp, hlive⟩
  intro m hm c hc
  rcases List.mem_append.1 hm with h | h
  · rcases letter_of_mem_roundabout h hc with rfl | rfl <;> decide
  · rw [List.mem_singleton.1 h] at hc
    exact hplain c hc

theorem isWildcard_asking : IsWildcard asking := isWildcard_behind (by decide) (by simp) ⟨'?', by decide, by decide⟩

theorem isWildcard_naming : IsWildcard naming := isWildcard_behind (by decide) (by simp) ⟨'+', by decide, by decide⟩

theorem detour_long : ¬Text.utf8Size (ofNames false detour) < 4096 := by
  rw [detour, Place.utf8Size_ofNames_concat false roundabout_ne_nil, utf8Size_roundabout]
  decide

theorem detour_plain : ∀ t ∈ detour, ∀ c ∈ t, c ∉ ['\\', '?', '*'] := by
  intro t ht c hc
  rcases List.mem_append.1 ht with h | h
  · rcases letter_of_mem_roundabout h hc with rfl | rfl <;> decide
  · rw [List.mem_singleton.1 h] at hc
    simp only [List.mem_cons, List.not_mem_nil, or_false] at hc
    rcases hc with rfl | rfl | rfl <;> decide

theorem components_asking : Wildcard.components asking = roundabout ++ [['a', '?', 'b']] ∧ Path.isAbsolute asking = false := by
  have h : ∀ n ∈ roundabout ++ [['a', '?', 'b']], IsName n := Path.IsName.concat (by decide) isName_roundabout
  exact ⟨Wildcard.components_ofNames h (by simp), Place.isAbsolute_ofNames h⟩

theorem components_naming : Wildcard.components naming = detour ∧ Path.isAbsolute naming = false :=
  ⟨Wildcard.components_ofNames isName_detour (by simp [detour]), Place.isAbsolute_ofNames isName_detour⟩

theorem detour_mem_found : detour ∈ Wildcard.found looped asking := by
  obtain ⟨hcomp, habs⟩ := components_asking
  rw [Wildcard.mem_found isLegal_looped isWildcard_asking, hcomp, habs]
  refine ⟨List.rel_append (List.forall₂_same.2 fun t h => ?_) (.cons ?_ .nil), isName_detour, ?_⟩
  · exact (Wildcard.describes_plain (detour_plain t (List.mem_append_left _ h))).2 rfl
  · exact .char (by decide) (.anyChar _ (.char (by decide) .nil))
  · rw [IsThere, if_neg detour_long, detour, List.getLast?_concat, List.getLast?_concat, List.dropLast_concat]
    refine ⟨?_, _, rfl, mem_list_roundabout⟩
    rintro _ ⟨⟩
    decide

theorem found_naming : Wildcard.found looped naming = [] := by
  obtain ⟨hcomp, habs⟩ := components_naming
  refine List.eq_nil_iff_forall_not_mem.2 fun ns hns => ?_
  rw [Wildcard.mem_found isLegal_looped isWildcard_naming, hcomp, habs] at hns
  obtain ⟨hf, -, hthere⟩ := hns
  -- the components are plain, so the file is all that could be found, and its path is too long
  rw [Wildcard.eq_of_plain detour_plain hf, IsThere, if_neg detour_long, detour, List.getLast?_concat] at hthere
  exact absurd (hthere.1 _ rfl) (by decide)

/-- Whatever it is for a path to be there: a name that is looked for in its directory is found
where the same name is not found that is looked up. -/
theorem not_expand_wildcard :
    ¬∃ present : Place → Path → Prop, ∀ (here : Place) (word : Text) (lookup : Text → Text),
      here.tree.IsLegal → IsWildcard word → ∀ ns, List.Forall₂ Describes (Wildcard.components word) ns → (∀ n ∈ ns, IsName n) →
        (present here (ofNames (Path.isAbsolute word) ns) ↔
          ∃ paths, Node.expand here lookup (.word word) = .ok paths ∧
            quoteSpaced (ofNames (Path.isAbsolute word) ns) ∈ paths) := by
  rintro ⟨present, h⟩
  have hasked : ∃ paths, Node.expand looped (fun _ => []) (.word asking) = .ok paths ∧
      quoteSpaced (ofNames (Path.isAbsolute asking) detour) ∈ paths := by
    rw [Wildcard.expand_found isLegal_looped isWildcard_asking, if_neg (List.ne_nil_of_mem detour_mem_found)]
    exact ⟨_, rfl, List.mem_map_of_mem detour_mem_found⟩
  have hasking := ((Wildcard.mem_found isLegal_looped isWildcard_asking).1 detour_mem_found).1
  have hpresent := (h looped asking (fun _ => []) isLegal_looped isWildcard_asking detour hasking isName_detour).2 hasked
  have hnaming : List.Forall₂ Describes (Wildcard.components naming) detour := by
    rw [components_naming.1]
    exact List.forall₂_same.2 fun t ht => (Wildcard.describes_plain (detour_plain t ht)).2 rfl
  rw [components_asking.2, ← components_naming.2] at hpresent
  obtain ⟨paths, hpaths, -⟩ :=
    (h looped naming (fun _ => []) isLegal_looped isWildcard_naming detour hnaming isName_detour).1 hpresent
  rw [Wildcard.expand_found isLegal_looped isWildcard_naming, if_pos found_naming] at hpaths
  cases hpaths

end Node

end WrapShell
