import WrapShell.Proofs.Files.Directory
/-!
# The steps of a path as it is written

A path is pieces with slashes between them. A first piece that is empty makes it absolute; behind a slash a
piece counts if it is neither empty nor a dot. So a path that is relative is one step (`IsStep`) or several
(`HasSteps`). A path that leads to a file ends in a name (`exists_name_of_leadsToFile`), and one that is joined of
a directory and a name leads into that directory and nowhere else (`LiesIn`).
-/

namespace WrapShell

open WrapShell.Path (IsName)

namespace Path

variable {p q : Path} {x n : Text} {ts us : List Text}

theorem isVoid_iff : isVoid x ↔ x = [] ∨ x = ['.'] := by simp [isVoid]

/-! ## Pieces -/

/-- A path is a first piece and others, with a slash in front of each of these. -/
structure HasPieces (p : Path) (x : Text) (ts : List Text) : Prop where
  written : p = x ++ ts.flatMap ('/' :: ·)
  slash : ∀ t ∈ x :: ts, '/' ∉ t

theorem hasPieces_iff : HasPieces p x ts ↔ List.splitOn '/' p = x :: ts := by
  constructor
  · rintro ⟨rfl, hslash⟩
    rw [← intercalate_eq_append]
    exact List.splitOn_intercalate '/' hslash (List.cons_ne_nil x ts)
  · intro h
    exact ⟨by rw [← intercalate_eq_append, ← h, List.intercalate_splitOn], fun t ht => not_mem_of_mem_splitOn (h ▸ ht)⟩

theorem exists_hasPieces (p : Path) : ∃ x ts, HasPieces p x ts := by
  obtain ⟨x, ts, h⟩ := List.exists_cons_of_ne_nil (List.splitOn_ne_nil '/' p)
  exact ⟨x, ts, hasPieces_iff.2 h⟩

theorem HasPieces.isAbsolute_iff (h : HasPieces p x ts) : isAbsolute p ↔ x = [] ∧ ts ≠ [] := by
  obtain ⟨rfl, hslash⟩ := h
  cases x with
  | nil => cases ts <;> simp [isAbsolute]
  | cons c x =>
    have hc : c ≠ '/' := by rintro rfl; exact hslash _ List.mem_cons_self List.mem_cons_self
    simp [isAbsolute, hc]

/-- A path of one step: behind its first piece stand slashes only, each alone or with a dot. -/
def IsStep (p : Path) (x : Text) : Prop := x ≠ [] ∧ ∃ ts, HasPieces p x ts ∧ ∀ t ∈ ts, t = [] ∨ t = ['.']

/-- A relative path of several steps: behind one of its slashes stands a piece that is neither empty nor a dot. -/
def HasSteps (p : Path) : Prop := ∃ x ts, x ≠ [] ∧ HasPieces p x ts ∧ ∃ t ∈ ts, t ≠ [] ∧ t ≠ ['.']

theorem empty_or_absolute_or_steps (p : Path) : p = [] ∨ isAbsolute p ∨ (∃ x, IsStep p x) ∨ HasSteps p := by
  obtain ⟨x, ts, h⟩ := exists_hasPieces p
  by_cases hx : x = []
  · by_cases hts : ts = []
    · exact .inl (by rw [h.written, hx, hts]; rfl)
    · exact .inr (.inl (h.isAbsolute_iff.2 ⟨hx, hts⟩))
  · by_cases hvoid : ∀ t ∈ ts, t = [] ∨ t = ['.']
    · exact .inr (.inr (.inl ⟨x, hx, ts, h, hvoid⟩))
    · simp only [not_forall, not_or, exists_prop] at hvoid
      exact .inr (.inr (.inr ⟨x, ts, hx, h, hvoid⟩))

theorem IsStep.isAbsolute (h : IsStep p x) : isAbsolute p = false := by
  obtain ⟨hx, ts, hp, -⟩ := h
  exact Bool.eq_false_iff.2 fun habs => hx (hp.isAbsolute_iff.1 habs).1

theorem HasSteps.isAbsolute (h : HasSteps p) : isAbsolute p = false := by
  obtain ⟨x, ts, hx, hp, -⟩ := h
  exact Bool.eq_false_iff.2 fun habs => hx (hp.isAbsolute_iff.1 habs).1

/-! ## Steps -/

/-- The step that the first piece of a path stands for. -/
def ofFirst (x : Text) : Component := if x = [] then .root else if x = ['.'] then .current else ofPiece x

theorem HasPieces.components (h : HasPieces p x ts) (hp : p ≠ []) :
    components p = ofFirst x :: (ts.filter (!isVoid ·)).map ofPiece := by
  rw [Path.components, hasPieces_iff.1 h, ofFirst]
  dsimp only
  split
  · rfl
  · split <;> rfl

theorem HasPieces.ne_nil (h : HasPieces p x ts) (hx : x ≠ [] ∨ ts ≠ []) : p ≠ [] := by
  rw [h.written]
  rcases hx with hx | hts
  · exact List.append_ne_nil_of_left_ne_nil hx _
  · obtain ⟨t, ts, rfl⟩ := List.exists_cons_of_ne_nil hts
    simp

theorem filter_void (h : ∀ t ∈ ts, isVoid t) : ts.filter (!isVoid ·) = [] :=
  List.filter_eq_nil_iff.2 fun t ht => by simp [h t ht]

theorem IsStep.components (h : IsStep p x) : ∃ c : Component, components p = [c] ∧ c.text = x := by
  obtain ⟨hx, ts, hp, hvoid⟩ := h
  refine ⟨ofFirst x, ?_, ?_⟩
  · rw [hp.components (hp.ne_nil (.inl hx)), filter_void fun t ht => isVoid_iff.2 (hvoid t ht)]
    rfl
  · rw [ofFirst, if_neg hx]
    split
    · next hcurrent => rw [hcurrent]; rfl
    · rw [ofPiece]
      split
      · next hparent => rw [hparent]; rfl
      · rfl

theorem HasSteps.components (h : HasSteps p) : ∃ c d ds, components p = c :: d :: ds := by
  obtain ⟨x, ts, hx, hp, t, ht, hcounts⟩ := h
  have hmem : t ∈ ts.filter (!isVoid ·) := List.mem_filter.2 ⟨ht, by simpa [isVoid] using hcounts⟩
  obtain ⟨u, us, hfilter⟩ := List.exists_cons_of_ne_nil (List.ne_nil_of_mem hmem)
  exact ⟨ofFirst x, ofPiece u, us.map ofPiece, by rw [hp.components (hp.ne_nil (.inl hx)), hfilter]; rfl⟩

/-- A path ends in a name: in front of the name stands nothing or a slash, and behind it slashes only, each alone or
with a dot. -/
def EndsIn (p : Path) (n : Text) : Prop :=
  IsName n ∧ ∃ front q, p = front ++ q ∧ (front = [] ∨ front.getLast? = some '/') ∧ IsStep q n

theorem endsIn_of_splitOn (h : List.splitOn '/' p = ts ++ n :: us) (hn : IsName n) (hus : ∀ t ∈ us, isVoid t) : EndsIn p n := by
  have hslash : ∀ t ∈ n :: us, '/' ∉ t := fun t ht => not_mem_of_mem_splitOn (h ▸ List.mem_append_right ts ht)
  refine ⟨hn, ts.flatMap (· ++ ['/']), n ++ us.flatMap ('/' :: ·), ?_, ?_,
    hn.nonempty, us, ⟨rfl, hslash⟩, fun t ht => isVoid_iff.1 (hus t ht)⟩
  · rw [← intercalate_eq_append, ← intercalate_append, ← h, List.intercalate_splitOn]
  · rcases List.eq_nil_or_concat' ts with rfl | ⟨ts, t, rfl⟩
    · exact .inl rfl
    · exact .inr (by simp)

theorem fileName_of_splitOn (h : List.splitOn '/' p = ts ++ n :: us) (hn : IsName n) (hus : ∀ t ∈ us, isVoid t) :
    fileName? p = some n := by
  have hname : ofPiece n = .name n := if_neg hn.parent
  have hcounts : (n :: us).filter (!isVoid ·) = [n] := by
    rw [List.filter_cons_of_pos (by simp [hn.not_void]), filter_void hus]
  have hlast : (components p).getLast? = some (.name n) := by
    cases ts with
    | nil =>
      have hp : HasPieces p n us := hasPieces_iff.2 h
      rw [hp.components (hp.ne_nil (.inl hn.nonempty)), filter_void hus, ofFirst, if_neg hn.nonempty, if_neg hn.here,
        hname]
      rfl
    | cons x ts =>
      have hp : HasPieces p x (ts ++ n :: us) := hasPieces_iff.2 h
      rw [hp.components (hp.ne_nil (.inr (by simp))), List.filter_append, hcounts, List.map_append, List.map_singleton,
        hname, ← List.cons_append, List.getLast?_concat]
  rw [fileName?, hlast]

/-! ## Joined paths -/

theorem prefix_join (hq : isAbsolute q = false) : p <+: join p q := by
  rw [join, hq, if_neg (by simp)]
  split
  · exact List.prefix_append _ _
  · exact List.prefix_append _ _

theorem isAbsolute_join (hp : p ≠ []) (hq : isAbsolute q = false) : isAbsolute (join p q) = isAbsolute p := by
  obtain ⟨c, t, rfl⟩ := List.exists_cons_of_ne_nil hp
  obtain ⟨rest, hrest⟩ := @prefix_join (c :: t) q hq
  rw [← hrest]
  rfl

/-- The pieces that a path has in front of what is joined to it. -/
def leading (p : Path) : List Text :=
  if p = [] then [] else if p.getLast? = some '/' then (List.splitOn '/' p).dropLast else List.splitOn '/' p

theorem splitOn_of_leading (hp : p ≠ []) : List.splitOn '/' p = leading p ∨ List.splitOn '/' p = leading p ++ [[]] := by
  rw [leading, if_neg hp]
  split
  · next hlast =>
    obtain ⟨front, rfl⟩ := List.getLast?_eq_some_iff.1 hlast
    rw [List.splitOn_append_cons_self]
    exact .inr (by simp)
  · exact .inl rfl

theorem splitOn_join (hq : isAbsolute q = false) : List.splitOn '/' (join p q) = leading p ++ List.splitOn '/' q := by
  rw [join, hq, if_neg (by simp), leading]
  by_cases hp : p = []
  · simp [hp]
  · by_cases hlast : p.getLast? = some '/'
    · obtain ⟨front, rfl⟩ := List.getLast?_eq_some_iff.1 hlast
      rw [if_pos (by simp), if_neg hp, if_pos hlast, List.append_assoc, List.singleton_append, List.splitOn_append_cons_self,
        List.splitOn_append_cons_self]
      simp
    · rw [if_neg (by simp [hp, hlast]), if_neg hp, if_neg hlast, List.splitOn_append_cons_self]

theorem leading_ne_nil (hp : p ≠ []) : leading p ≠ [] := by
  intro hnil
  rcases splitOn_of_leading hp with hcut | hcut
  · exact List.splitOn_ne_nil '/' p (hcut.trans hnil)
  · rw [hnil] at hcut
    exact hp (hasPieces_iff.2 hcut).written

/-- A name behind a path is one step more. -/
theorem components_join (hn : IsName n) (p : Path) : components (join p n) = components p ++ [.name n] := by
  have hcut := @splitOn_join p n hn.isAbsolute
  rw [List.splitOn_eq_singleton hn.slash] at hcut
  have hlast : (([n] : List Text).filter (!isVoid ·)).map ofPiece = [.name n] := by
    simp [hn.not_void, ofPiece, hn.parent]
  by_cases hp : p = []
  · subst hp
    have hpieces : HasPieces (join [] n) n [] := hasPieces_iff.2 hcut
    rw [hpieces.components (hpieces.ne_nil (.inl hn.nonempty)), ofFirst, if_neg hn.nonempty, if_neg hn.here, ofPiece,
      if_neg hn.parent]
    rfl
  · obtain ⟨x, ts, hleading⟩ := List.exists_cons_of_ne_nil (leading_ne_nil hp)
    have hjoined : HasPieces (join p n) x (ts ++ [n]) := hasPieces_iff.2 (by rw [hcut, hleading, List.cons_append])
    rw [hjoined.components (hjoined.ne_nil (.inr (by simp))), List.filter_append, List.map_append, hlast,
      ← List.cons_append]
    congr 1
    -- a slash at the end of the path adds no step to it
    rcases splitOn_of_leading hp with hp' | hp'
    · rw [hleading] at hp'
      rw [(hasPieces_iff.2 hp').components hp]
    · rw [hleading, List.cons_append] at hp'
      rw [(hasPieces_iff.2 hp').components hp, List.filter_append]
      simp [isVoid]

end Path

/-! ## Where they lead -/

namespace Tree

variable {t : Tree} {f : Bool} {k : Nat} {l x : Location} {ps : List Text} {piece : Text}

theorem dir_of_walk {found : Found} (hne : ps ≠ []) (hw : t.walk f k l ps = .ok found) : t.get? l = some .dir := by
  obtain ⟨piece, rest, rfl⟩ := List.exists_cons_of_ne_nil hne
  rw [walk] at hw
  split at hw
  · assumption
  · cases hw

/-- What is reached by a last piece that is no name is a directory. -/
theorem dir_of_walk_not_name (h : t.IsDirectory l.tail) (hpiece : Path.isVoid piece ∨ piece = ['.', '.'])
    (hw : t.walk true k l (ps ++ [piece]) = .ok (.present x)) : t.get? x = some .dir := by
  obtain ⟨l', hl⟩ := walk_front_present (List.cons_ne_nil piece []) hw
  obtain ⟨j, hj⟩ := walk_append hl (List.cons_ne_nil piece [])
  rw [hj, walk] at hw
  split at hw
  · next hd =>
    by_cases hv : Path.isVoid piece
    · rw [if_pos hv, walk] at hw
      cases hw
      exact hd
    · rw [if_neg hv, if_pos (hpiece.resolve_left hv), walk] at hw
      cases hw
      exact (walk_isDirectory h hl).dir
  · cases hw

/-- A last name that is not followed further is what is reached. -/
theorem location_of_walk_name {d : Location} {n : Text} (hn : IsName n) (hd : t.walk true k l ps = .ok (.present d))
    (hw : t.walk false k l (ps ++ [n]) = .ok (.present x)) : x = n :: d := by
  obtain ⟨j, hj⟩ := walk_append hd (List.cons_ne_nil n [])
  rw [hj, walk] at hw
  split at hw
  · simp only [hn.not_void, hn.parent, Bool.false_eq_true, if_false] at hw
    split at hw
    · cases hw
    · split at hw
      · split at hw <;> cases hw
      · simpa [eq_comm] using hw
      · simpa [walk, eq_comm] using hw
  · cases hw

end Tree

namespace Place

variable {here : Place} {p dir : Path} {n : Text} {l : Location}

/-- A path leads to a file, links followed. -/
def LeadsToFile (here : Place) (p : Path) : Prop :=
  ∃ l content executable, here.find true p = .ok (.present l) ∧ here.tree.get? l = some (.file content executable)

theorem isFile_iff : here.isFile p ↔ here.LeadsToFile p := by
  rw [isFile, entry?, LeadsToFile]
  simp only [← resolve_eq_ok_iff]
  cases here.resolve p with
  | error => simp
  | ok l =>
    dsimp only
    constructor
    · intro h
      split at h
      · next content executable he => exact ⟨l, content, executable, rfl, he⟩
      · cases h
    · rintro ⟨_, content, executable, ⟨⟩, he⟩
      rw [he]

/-- The working directory lies in directories, unless it is none, for it was removed. -/
def IsRooted (here : Place) : Prop := here.tree.get? here.cwd = some .dir → here.tree.IsDirectory here.cwd

/-- A path that leads to a file ends in a name, with nothing behind it. -/
theorem exists_name_of_leadsToFile (hcwd : here.IsRooted) (h : here.LeadsToFile p) :
    ∃ ts n, List.splitOn '/' p = ts ++ [n] ∧ IsName n := by
  obtain ⟨l, content, executable, hfind, hfile⟩ := h
  obtain ⟨ts, n, hcut⟩ := (List.eq_nil_or_concat' (List.splitOn '/' p)).resolve_left (List.splitOn_ne_nil '/' p)
  have hwalk := (find_eq_ok_iff.1 hfind).2
  have hdir := Tree.dir_of_walk (List.splitOn_ne_nil '/' p) hwalk
  rw [hcut] at hwalk
  have hstart : here.tree.IsDirectory (if Path.isAbsolute p then [] else here.cwd).tail := by
    split
    · exact here.tree.isDirectory_root
    · next hrel =>
      rw [if_neg hrel] at hdir
      exact (hcwd hdir).suffix (List.tail_suffix _)
  have hcounts : ¬(Path.isVoid n ∨ n = ['.', '.']) := fun hn => by
    cases hfile.symm.trans (Tree.dir_of_walk_not_name hstart hn hwalk)
  rw [not_or, Path.isVoid_iff, not_or] at hcounts
  have hslash : '/' ∉ n := not_mem_of_mem_splitOn (hcut ▸ List.mem_append_right ts List.mem_cons_self)
  exact ⟨ts, n, hcut, hcounts.1.1, hcounts.1.2, hcounts.2, hslash⟩

/-- What a name behind a directory leads to lies in that directory. The empty path stands for the working directory. -/
theorem find_below (hn : IsName n) (h : here.find false (Path.join dir n) = .ok (.present l)) :
    ∃ d, here.directory (if dir = [] then ['.'] else dir) = .ok d ∧ l = n :: d := by
  obtain ⟨⟨hnul, -, hsize⟩, hwalk⟩ := find_eq_ok_iff.1 h
  rw [Path.splitOn_join hn.isAbsolute, List.splitOn_eq_singleton hn.slash] at hwalk
  obtain ⟨d, hd, hdir, hthere⟩ := Tree.walk_name_present hn hwalk
  refine ⟨d, ?_, Tree.location_of_walk_name hn hd hwalk⟩
  by_cases hempty : dir = []
  · have hstart : here.tree.walk true Tree.maxLinks (here.base false) [] = .ok (.present d) := by
      have hjoin : Path.join dir n = n := by simp [Path.join, hempty, hn.isAbsolute]
      rw [hjoin, hn.isAbsolute, Path.leading, if_pos hempty] at hd
      exact hd
    rw [if_pos hempty]
    exact (@directory_ofNames here false [] d (by simp)).2 ⟨by simp, by decide, hstart, hdir⟩
  · rw [if_neg hempty, directory_eq_ok_iff, find_eq_ok_iff]
    rw [Path.isAbsolute_join hempty hn.isAbsolute] at hd
    obtain ⟨rest, hrest⟩ := @Path.prefix_join dir n hn.isAbsolute
    rw [← hrest] at hnul hsize
    rw [Text.utf8Size_append] at hsize
    refine ⟨⟨⟨fun hmem => hnul (List.mem_append_left rest hmem), hempty, by omega⟩, ?_⟩, hdir⟩
    rcases Path.splitOn_of_leading hempty with hcut | hcut
    · rw [hcut, hd]
    · -- the slash at the end asks for a directory, and there is one
      obtain ⟨j, hj⟩ := Tree.walk_append hd (List.cons_ne_nil [] [])
      rw [hcut, hj]
      exact Tree.walk_slashes hdir (by simp)

end Place

/-- A file lies in a directory under a name: it is what is found there under it, and nothing else. -/
structure Path.LiesIn (file dir : Path) (n : Text) : Prop where
  joined : file = join dir n
  name : IsName n
  components : components file = components dir ++ [.name n]
  /-- The empty path stands for the working directory. -/
  found : ∀ (here : Place) l, here.find false file = .ok (.present l) →
    ∃ d, here.directory (if dir = [] then ['.'] else dir) = .ok d ∧ l = n :: d

theorem Path.liesIn_join {n : Text} (hn : IsName n) (dir : Path) : LiesIn (join dir n) dir n :=
  ⟨rfl, hn, components_join hn dir, fun _ _ => Place.find_below hn⟩

end WrapShell
