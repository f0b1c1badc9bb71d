import Mathlib.Data.List.Induction
import WrapShell.Files.Names
import WrapShell.Proofs.Text.Cut
import WrapShell.Proofs.Text.Order
/-!
# Following a path

A path that ends in a name leads somewhere exactly if the path before the name leads to a
directory, links followed, and that directory has the name (`walk_name`, `walk_name_present`).
For the operations on paths as they are written: what can be looked up is listed
(`isListed_ofNames`).
-/

namespace WrapShell

open WrapShell.Path (IsName ofNames)

namespace Path.IsName

variable {n : Text}

theorem not_void (h : IsName n) : isVoid n = false := by
  simp [isVoid, h.nonempty, h.here]

theorem head_ne (h : IsName n) : n.head? ≠ some '/' := by
  intro e
  exact h.slash (List.mem_of_mem_head? e)

theorem isAbsolute (h : IsName n) : isAbsolute n = false := by
  simpa [Path.isAbsolute] using h.head_ne

theorem concat {ns : List Text} (h : IsName n) (hns : ∀ m ∈ ns, IsName m) : ∀ m ∈ ns ++ [n], IsName m :=
  List.forall_mem_append.2 ⟨hns, List.forall_mem_singleton.2 h⟩

end Path.IsName

/-- A letter makes a name, however often it is repeated, as long as the system can store it. -/
theorem Path.isLegalName_replicate {c : Char} {k : Nat} (hc : c ∉ ['.', '/', '\x00']) (hk : k ≠ 0)
    (hsize : k * c.utf8Size ≤ 255) : IsLegalName (List.replicate k c) := by
  have hmem {d : Char} (h : d ∈ List.replicate k c) : c = d := (List.eq_of_mem_replicate h).symm
  simp only [List.mem_cons, List.not_mem_nil, or_false, not_or] at hc
  refine ⟨⟨by simp [hk], fun h => hc.1 (hmem ?_), fun h => hc.1 (hmem ?_), fun h => hc.2.1 (hmem h)⟩,
    fun h => hc.2.2 (hmem h), Text.utf8Size_replicate k c ▸ hsize⟩
  · rw [h]
    exact List.mem_cons_self
  · rw [h]
    exact List.mem_cons_self

namespace Tree

variable {t : Tree} {f : Bool} {k : Nat} {l l' : Location} {ps : List Text} {n : Text}

/-- Who gets to the end of a path has passed each place on it, links followed. -/
theorem walk_front_present {x : Location} {qs : List Text} (hne : qs ≠ []) (h : t.walk f k l (ps ++ qs) = .ok (.present x)) :
    ∃ l', t.walk true k l ps = .ok (.present l') := by
  -- the cases are those of the front, whose walk takes the same steps as long as there are any
  fun_induction t.walk true k l ps with
  | case1 k l => exact ⟨l, rfl⟩
  | case2 k l piece rest hd hv ih => exact ih (by rw [List.cons_append, walk] at h; simpa [hd, hv] using h)
  | case3 k l rest hd hv ih => exact ih (by rw [List.cons_append, walk] at h; simpa [hd, hv] using h)
  | case4 k l piece rest hd hv hp hs => rw [List.cons_append, walk] at h; simp [hd, hv, hp, hs] at h
  | case5 k l piece rest hd hv hp hs he _ =>
    rw [List.cons_append, walk] at h
    simp only [hd, hv, hp, hs, he, Bool.false_eq_true, if_false] at h
    split at h <;> cases h
  | case6 k l piece rest hd hv hp hs he _ =>
    rw [List.cons_append, walk] at h
    simp only [hd, hv, hp, hs, he, Bool.false_eq_true, if_false] at h
    split at h <;> cases h
  | case7 => simp_all
  | case8 l piece rest hd hv hp hs target he _ => rw [List.cons_append, walk] at h; simp [hd, hv, hp, hs, he, hne] at h
  | case9 l piece rest hd hv hp hs target he _ k ih =>
    refine ih ?_
    rw [List.cons_append, walk] at h
    simpa [hd, hv, hp, hs, he, hne] using h
  | case10 k l piece rest hd hv hp hs e he hl ih =>
    refine ih ?_
    rw [List.cons_append, walk] at h
    cases e with
    | link target => exact absurd rfl (he target)
    | dir | file => simpa [hd, hv, hp, hs, hl] using h
  | case11 k l piece rest hd =>
    rw [List.cons_append, walk] at h
    split at h <;> simp_all

/-- From a directory that is reached the rest of a path goes on as it does from there, with the
links that are left. -/
theorem walk_append {qs : List Text} (hw : t.walk true k l ps = .ok (.present l')) (hne : qs ≠ []) :
    ∃ j, ∀ f, t.walk f k l (ps ++ qs) = t.walk f j l' qs := by
  fun_induction t.walk true k l ps with
  | case1 k l =>
    cases hw
    exact ⟨k, fun _ => rfl⟩
  | case2 k l piece rest hd hv ih =>
    obtain ⟨j, e⟩ := ih hw
    exact ⟨j, fun f => by rw [List.cons_append, walk]; simpa [hd, hv] using e f⟩
  | case3 k l rest hd hv ih =>
    obtain ⟨j, e⟩ := ih hw
    exact ⟨j, fun f => by rw [List.cons_append, walk]; simpa [hd, hv] using e f⟩
  | case4 | case5 | case6 | case8 => cases hw
  | case7 => simp_all
  | case9 l piece rest hd hv hp hs target he _ k ih =>
    obtain ⟨j, e⟩ := ih hw
    exact ⟨j, fun f => by rw [List.cons_append, walk]; simpa [hd, hv, hp, hs, he, hne] using e f⟩
  | case10 k l piece rest hd hv hp hs e he hl ih =>
    obtain ⟨j, eq⟩ := ih hw
    refine ⟨j, fun f => ?_⟩
    rw [List.cons_append, walk]
    cases e with
    | link target => exact absurd rfl (he target)
    | dir | file => simpa [hd, hv, hp, hs, hl] using eq f
  | case11 => simp_all

/-- Who gets to the end of a path that ends in a name has passed the directory of that name. -/
theorem walk_name_present {x : Location} (hn : IsName n) (h : t.walk f k l (ps ++ [n]) = .ok (.present x)) :
    ∃ l', t.walk true k l ps = .ok (.present l') ∧ t.get? l' = some .dir ∧ (t.get? (n :: l')).isSome := by
  obtain ⟨l', hl⟩ := walk_front_present (List.cons_ne_nil n []) h
  obtain ⟨j, hj⟩ := walk_append hl (List.cons_ne_nil n [])
  rw [hj, walk] at h
  refine ⟨l', hl, ?_⟩
  split at h
  · next hd =>
    refine ⟨hd, ?_⟩
    cases he : t.get? (n :: l') with
    | some => rfl
    | none =>
      simp only [hn.not_void, hn.parent, he, Bool.false_eq_true, if_false] at h
      split at h <;> simp at h
  · cases h

/-- A directory that is reached, and a name in it, make a path that is reached: to the name itself,
unless it is a link that has to be followed. -/
theorem walk_name {e : Entry} (hw : t.walk true k l ps = .ok (.present l')) (hd : t.get? l' = some .dir) (hn : IsName n)
    (hs : Text.utf8Size n ≤ 255) (he : t.get? (n :: l') = some e) (hf : f = false ∨ ∀ target, e ≠ .link target) :
    t.walk f k l (ps ++ [n]) = .ok (.present (n :: l')) := by
  obtain ⟨j, heq⟩ := walk_append hw (List.cons_ne_nil n [])
  rw [heq, walk]
  cases e with
  | dir | file => simp [hd, hn.not_void, hn.parent, Nat.not_lt.2 hs, he, walk]
  | link target =>
    obtain rfl := hf.resolve_right fun h => h target rfl
    simp [hd, hn.not_void, hn.parent, Nat.not_lt.2 hs, he]

theorem walk_into (hd : t.get? l = some .dir) (hn : IsName n) (hs : Text.utf8Size n ≤ 255) (he : t.get? (n :: l) = some .dir) :
    t.walk f k l (n :: ps) = t.walk f k (n :: l) ps := by
  rw [walk]
  simp [hd, hn.not_void, hn.parent, Nat.not_lt.2 hs, he]

/-- A link to where it lies takes up nothing but itself. -/
theorem walk_self (hd : t.get? l = some .dir) (hn : IsName n) (hs : Text.utf8Size n ≤ 255)
    (he : t.get? (n :: l) = some (.link ['.'])) (hne : ps ≠ []) (j : Nat) : t.walk f (k + j) l (List.replicate j n ++ ps) = t.walk f k l ps := by
  induction j with
  | zero => rfl
  | succ j ih =>
    rw [List.replicate_succ, List.cons_append, walk]
    simp only [hd, hn.not_void, Bool.false_eq_true, if_false, hn.parent, Nat.not_lt.2 hs, he]
    rw [if_neg (by simp [hne])]
    change t.walk f (k + j) l (['.'] :: (List.replicate j n ++ ps)) = _
    rw [walk]
    simpa [hd, Path.isVoid] using ih

/-! ## The names in a directory -/

theorem nodup_eraseDups (ts : List Text) : ts.eraseDups.Nodup := by
  induction h : ts.length using Nat.strongRecOn generalizing ts with
  | ind k ih =>
    cases ts with
    | nil => simp
    | cons a as =>
      rw [List.eraseDups_cons, List.nodup_cons]
      refine ⟨by simp [List.mem_eraseDups], ih _ ?_ _ rfl⟩
      rw [← h, List.length_cons]
      exact Nat.lt_succ_of_le (List.length_filter_le _ _)

theorem get?_name (t : Tree) (n : Text) (l : Location) : t.get? (n :: l) = t.entries.lookup (n :: l) := rfl

theorem mem_names : n ∈ t.names l ↔ (t.get? (n :: l)).isSome := by
  rw [names, List.mem_mergeSort, List.mem_eraseDups, get?_name, List.lookup_isSome_iff, List.mem_filterMap]
  refine exists_congr fun e => and_congr_right fun _ => ?_
  obtain ⟨l', e⟩ := e
  rw [beq_iff_eq]
  cases l' with
  | nil => simp
  | cons m up =>
    by_cases hu : up = l
    · subst hu; simp [eq_comm]
    · simp [hu, Ne.symm hu]

/-- Each name is there once, and the names are in the order of their bytes. -/
theorem names_sorted (t : Tree) (l : Location) : (t.names l).Pairwise fun m n => Text.utf8 m < Text.utf8 n := by
  have hle : (t.names l).Pairwise fun m n : Text => decide (m ≤ n) :=
    List.pairwise_mergeSort (fun _ _ _ => by simpa using List.le_trans) (fun m n => by simpa using List.le_total m n) _
  have hne : (t.names l).Nodup := (List.mergeSort_perm _ _).nodup_iff.2 (nodup_eraseDups _)
  refine hle.imp₂ (fun m n hmn hne => Text.utf8_lt ?_) hne
  exact (List.le_iff_lt_or_eq.1 (of_decide_eq_true hmn)).resolve_right hne

theorem IsLegal.name (ht : t.IsLegal) (hn : n ∈ t.names l) : Path.IsLegalName n := by
  rw [mem_names, get?_name, List.lookup_isSome_iff] at hn
  obtain ⟨e, he, hl⟩ := hn
  rw [beq_iff_eq] at hl
  exact ht.names e he n (by rw [← hl]; simp)

end Tree

namespace Place

variable {here : Place} {absolute : Bool} {ns : List Text} {n : Text} {l : Location} {p : Path}

/-! ## Directories -/

theorem isDir_iff : here.isDir p ↔ ∃ l, here.directory p = .ok l := by
  rw [isDir, entry?, directory]
  cases here.resolve p with
  | error => simp
  | ok l => by_cases h : here.tree.get? l = some .dir <;> simp [h]

theorem mem_list : n ∈ here.list p ↔ ∃ l, here.directory p = .ok l ∧ n ∈ here.tree.names l := by
  rw [list]
  cases here.directory p <;> simp

theorem list_sorted (here : Place) (p : Path) : (here.list p).Pairwise fun m n => Text.utf8 m < Text.utf8 n := by
  rw [list]
  split
  · exact here.tree.names_sorted _
  · exact .nil

/-! ## Paths of names -/

theorem ofNames_singleton (absolute : Bool) (n : Text) : ofNames absolute [n] = (if absolute then ['/'] else []) ++ n := by
  rw [ofNames, List.intercalate_singleton]

theorem utf8Size_ofNames_concat (absolute : Bool) (hne : ns ≠ []) (n : Text) :
    Text.utf8Size (ofNames absolute (ns ++ [n])) = Text.utf8Size (ofNames absolute ns) + 1 + Text.utf8Size n := by
  obtain ⟨m, ns, rfl⟩ := List.exists_cons_of_ne_nil hne
  have hslash : Text.utf8Size ['/'] = 1 := rfl
  rw [List.cons_append, ofNames, ofNames, ← List.cons_append, intercalate_concat _ _ hne]
  simp only [Text.utf8Size_append, hslash, Nat.add_assoc]

theorem utf8Size_ofNames_le (hn : n ≠ []) :
    Text.utf8Size (ofNames absolute ns) ≤ Text.utf8Size (ofNames absolute (ns ++ [n])) := by
  cases ns with
  | nil =>
    obtain ⟨c, t, rfl⟩ := List.exists_cons_of_ne_nil hn
    have := c.utf8Size_pos
    rw [List.nil_append, ofNames_singleton]
    cases absolute
    · change 1 ≤ Text.utf8Size (c :: t)
      rw [Text.utf8Size_cons]
      omega
    · change 1 ≤ Text.utf8Size ('/' :: c :: t)
      rw [Text.utf8Size_cons, Text.utf8Size_cons]
      omega
  | cons m ns =>
    rw [utf8Size_ofNames_concat absolute (List.cons_ne_nil m ns)]
    omega

theorem splitOn_names (hns : ∀ n ∈ ns, IsName n) (hne : ns ≠ []) : List.splitOn '/' (List.intercalate ['/'] ns) = ns :=
  List.splitOn_intercalate '/' (fun n hn => (hns n hn).slash) hne

theorem ofNames_ne_nil (hns : ∀ n ∈ ns, IsName n) : ofNames absolute ns ≠ [] := by
  cases ns with
  | nil => cases absolute <;> decide
  | cons n ns =>
    obtain ⟨c, t, rfl⟩ := List.exists_cons_of_ne_nil (hns n (by simp)).nonempty
    cases absolute <;> cases ns <;> simp [ofNames, List.intercalate]

theorem isAbsolute_ofNames (hns : ∀ n ∈ ns, IsName n) : Path.isAbsolute (ofNames absolute ns) = absolute := by
  cases ns with
  | nil => cases absolute <;> rfl
  | cons n ns =>
    have hn := hns n (by simp)
    cases absolute with
    | true => rfl
    | false =>
      rw [ofNames, if_neg (by simp), List.nil_append, Path.isAbsolute, head_intercalate hn.nonempty]
      simpa using hn.head_ne

theorem mem_ofNames {c : Char} (hc : c ≠ '/') (hne : ns ≠ []) : c ∈ ofNames absolute ns ↔ ∃ n ∈ ns, c ∈ n := by
  obtain ⟨n, ns, rfl⟩ := List.exists_cons_of_ne_nil hne
  rw [← mem_intercalate hc, ofNames]
  cases absolute <;> simp [hc]

/-- A path of names is followed name by name, if it can be looked up at all. -/
theorem find_ofNames {f : Bool} {x : Tree.Found} (hns : ∀ n ∈ ns, IsName n) (hne : ns ≠ []) :
    here.find f (ofNames absolute ns) = .ok x ↔
      (∀ n ∈ ns, '\x00' ∉ n) ∧ Text.utf8Size (ofNames absolute ns) < 4096 ∧
        here.tree.walk f Tree.maxLinks (here.base absolute) ns = .ok x := by
  have habs := @isAbsolute_ofNames absolute _ hns
  -- a NUL in the path is in one of the names
  have hmem := @mem_ofNames absolute ns '\x00' (by decide) hne
  obtain ⟨n, ns, rfl⟩ := List.exists_cons_of_ne_nil hne
  have hcut := splitOn_names hns hne
  have hnil := @ofNames_ne_nil absolute _ hns
  -- the void piece before a slash in front takes no step
  have hwalk : here.tree.walk f Tree.maxLinks (if absolute then [] else here.cwd) (List.splitOn '/' (ofNames absolute (n :: ns))) =
      here.tree.walk f Tree.maxLinks (here.base absolute) (n :: ns) := by
    cases absolute with
    | false =>
      change here.tree.walk f _ here.cwd (List.splitOn '/' (List.intercalate ['/'] (n :: ns))) = _
      rw [hcut]; rfl
    | true =>
      change here.tree.walk f _ [] ([] :: List.splitOn '/' (List.intercalate ['/'] (n :: ns))) = _
      rw [hcut, Tree.walk]
      simp [Path.isVoid, base]
  rw [find, habs, hwalk]
  by_cases hnul : '\x00' ∈ ofNames absolute (n :: ns)
  · obtain ⟨m, hm, hn⟩ := hmem.1 hnul
    rw [if_pos (List.contains_iff_mem.2 hnul)]
    exact ⟨fun h => absurd h (by simp), fun h => absurd hn (h.1 m hm)⟩
  · have hall : ∀ m ∈ n :: ns, '\x00' ∉ m := fun m hm hn => hnul (hmem.2 ⟨m, hm, hn⟩)
    rw [if_neg (mt List.contains_iff_mem.1 hnul), if_neg hnil]
    by_cases hs : 4096 ≤ Text.utf8Size (ofNames absolute (n :: ns))
    · rw [if_pos hs]
      exact ⟨fun h => absurd h (by simp), fun h => absurd hs (Nat.not_le.2 h.2.1)⟩
    · rw [if_neg hs]
      exact ⟨fun h => ⟨hall, Nat.not_le.1 hs, h⟩, fun h => h.2.2⟩

theorem resolve_eq_ok_iff : here.resolve p = .ok l ↔ here.find true p = .ok (.present l) := by
  rw [resolve]
  split <;> simp_all

theorem directory_eq_ok_iff :
    here.directory p = .ok l ↔ here.find true p = .ok (.present l) ∧ here.tree.get? l = some .dir := by
  rw [directory, ← resolve_eq_ok_iff]
  cases here.resolve p with
  | error => simp
  | ok l' =>
    by_cases h : here.tree.get? l' = some .dir
    · simp only [h, if_true, Except.ok.injEq, iff_self_and]
      rintro rfl
      exact h
    · simp only [h, if_false, reduceCtorEq, Except.ok.injEq, false_iff, not_and]
      rintro rfl
      exact h

theorem directory_ofNames (hns : ∀ n ∈ ns, IsName n) :
    here.directory (ofNames absolute ns) = .ok l ↔
      (∀ n ∈ ns, '\x00' ∉ n) ∧ Text.utf8Size (ofNames absolute ns) < 4096 ∧
        here.tree.walk true Tree.maxLinks (here.base absolute) ns = .ok (.present l) ∧ here.tree.get? l = some .dir := by
  rw [directory_eq_ok_iff]
  by_cases hne : ns = []
  · subst hne
    have hfind : here.find true (ofNames absolute []) =
        if here.tree.get? (here.base absolute) = some .dir then .ok (.present (here.base absolute))
        else .error .notDirectory := by
      cases absolute with
      | false =>
        change here.tree.walk true _ here.cwd [['.']] = _
        have hbase : here.base false = here.cwd := rfl
        rw [Tree.walk, hbase]
        split
        · next hd => simp [hd, Path.isVoid, Tree.walk]
        · next hd => rw [if_neg hd]
      | true =>
        change here.tree.walk true _ [] [[], []] = _
        simp [Tree.walk, Path.isVoid, base]
    have hs : Text.utf8Size (ofNames absolute []) < 4096 := by cases absolute <;> decide
    rw [hfind, Tree.walk]
    by_cases hd : here.tree.get? (here.base absolute) = some .dir
    · rw [if_pos hd]
      simp [hs]
    · rw [if_neg hd]
      simp only [reduceCtorEq, false_and, false_iff, not_and]
      rintro - - h
      cases h
      exact hd
  · rw [find_ofNames hns hne]
    simp only [and_assoc]

theorem find_of_isListed (h : here.isListed p) : ∃ f x, here.find f p = .ok (.present x) := by
  rw [isListed, Bool.or_eq_true] at h
  rcases h with h | h
  · rw [isPresent, entry?] at h
    cases hr : here.resolve p with
    | error => simp [hr] at h
    | ok l => exact ⟨true, l, resolve_eq_ok_iff.1 hr⟩
  · split at h
    · next x hf => exact ⟨false, x, hf⟩
    · cases h

/-- What can be looked up is what its directory lists, as far as the path is not too long. -/
theorem isListed_ofNames (ht : here.tree.IsLegal) (hns : ∀ m ∈ ns, IsName m) (hn : IsName n) :
    here.isListed (ofNames absolute (ns ++ [n])) ↔
      Text.utf8Size (ofNames absolute (ns ++ [n])) < 4096 ∧ n ∈ here.list (ofNames absolute ns) := by
  have hall := hn.concat hns
  rw [mem_list]
  constructor
  · intro h
    obtain ⟨f, x, hf⟩ := find_of_isListed h
    obtain ⟨hnul, hs, hw⟩ := (find_ofNames hall (by simp)).1 hf
    obtain ⟨l, hl, hd, he⟩ := Tree.walk_name_present hn hw
    have hs' := Nat.lt_of_le_of_lt (@utf8Size_ofNames_le absolute ns n hn.nonempty) hs
    exact ⟨hs, l, (directory_ofNames hns).2 ⟨fun m hm => hnul m (by simp [hm]), hs', hl, hd⟩, Tree.mem_names.2 he⟩
  · rintro ⟨hs, l, hl, he⟩
    -- a name that is listed is legal, so nothing but the length of the path is left to ask for
    obtain ⟨hnul, -, hw, hd⟩ := (directory_ofNames hns).1 hl
    obtain ⟨-, hn0, hn255⟩ := ht.name he
    obtain ⟨e, he⟩ := Option.isSome_iff_exists.1 (Tree.mem_names.1 he)
    have hw := Tree.walk_name hw hd hn hn255 he (.inl rfl)
    have hf := (@find_ofNames here absolute _ _ _ hall (by simp)).2
      ⟨List.forall_mem_append.2 ⟨hnul, List.forall_mem_singleton.2 hn0⟩, hs, hw⟩
    rw [isListed, hf]
    simp

theorem isListed_of_directory (h : here.directory p = .ok l) : here.isListed p := by
  obtain ⟨hf, hd⟩ := directory_eq_ok_iff.1 h
  rw [isListed, isPresent, entry?, resolve_eq_ok_iff.2 hf]
  simp [hd]

/-- Whatever leads through a directory shows that it is there. -/
theorem isListed_of_directory_append {ms : List Text} (ht : here.tree.IsLegal) (hns : ∀ m ∈ ns, IsName m)
    (hms : ∀ m ∈ ms, IsName m) (h : here.directory (ofNames absolute (ns ++ ms)) = .ok l) : here.isListed (ofNames absolute ns) := by
  induction ms using List.reverseRecOn generalizing l with
  | nil => exact isListed_of_directory (by simpa using h)
  | append_singleton ms m ih =>
    have hms' : ∀ m ∈ ms, IsName m := fun x hx => hms x (by simp [hx])
    rw [← List.append_assoc] at h
    have hl := isListed_of_directory h
    rw [isListed_ofNames ht (List.forall_mem_append.2 ⟨hns, hms'⟩) (hms m (by simp)), mem_list] at hl
    obtain ⟨-, l', hl', -⟩ := hl
    exact ih hms' hl'

end Place

end WrapShell
