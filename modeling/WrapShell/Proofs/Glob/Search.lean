import WrapShell.Glob.Search
import WrapShell.Proofs.Files.Walk
import WrapShell.Proofs.Glob.Wildcard
/-!
# What a search finds

A search for components that stand for neither `.` nor `..` finds paths of names. `trails` are these
names, in the order in which they are found, and `mem_trails_iff` says which they are: what the
directory of the last name has, no matter how the search has come there.
-/

namespace WrapShell

open WrapShell.Path (IsName ofNames)
open Pattern (Token)

namespace Place

variable {here : Place} {absolute : Bool} {k : Token} {ks : List Token} {kss : List (List Token)} {pre ns : List Text} {n : Text}

theorem below_ofNames (hns : ∀ m ∈ ns, IsName m) (hn : IsName n) :
    below (ofNames absolute ns) n = ofNames absolute (ns ++ [n]) := by
  cases ns with
  | nil =>
    rw [List.nil_append, ofNames_singleton]
    cases absolute with
    | false => rw [below, if_pos (by decide)]; rfl
    | true => rw [below, if_neg (by decide), ofNames, Path.join, hn.isAbsolute]; rfl
  | cons m ns =>
    have hm := hns m (by simp)
    have hcut := splitOn_names hns (by simp)
    have hcur : Path.components (ofNames absolute (m :: ns)) ≠ [.current] := by
      cases absolute with
      | false =>
        rw [ofNames, if_neg (by simp), List.nil_append, Path.components, hcut]
        simp [hm.nonempty, hm.here, Path.ofPiece, hm.parent]
      | true =>
        rw [ofNames, if_pos rfl, List.singleton_append, Path.components, splitOn_cons_self, hcut]
        simp
    have hlast : (ofNames absolute (m :: ns)).getLast? ≠ some '/' :=
      (@WordPiece.components_join absolute (m :: ns) (by simp) fun x hx => ⟨(hns x hx).nonempty, (hns x hx).slash⟩).2.2
    rw [below, if_neg hcur, Path.join, hn.isAbsolute, if_neg (by simp), if_neg (by simp [ofNames_ne_nil hns, hlast])]
    rw [List.cons_append, ofNames, ofNames, ← List.cons_append, intercalate_concat _ _ (by simp)]
    simp

theorem list_of_not_isDir {p : Path} (h : ¬here.isDir p) : here.list p = [] := by
  rw [isDir_iff, not_exists] at h
  exact List.eq_nil_iff_forall_not_mem.2 fun n hn => by
    obtain ⟨l, hl, -⟩ := mem_list.1 hn
    exact h l hl

theorem name_of_mem_list {p : Path} (ht : here.tree.IsLegal) (h : n ∈ here.list p) : IsName n := by
  obtain ⟨l, -, hn⟩ := mem_list.1 h
  exact (ht.name hn).1

/-- The names in a directory that may go on a path with the component `ks`. -/
def candidates (here : Place) (absolute : Bool) (ks : List Token) (pre : List Text) : List Text :=
  match Pattern.literal? ks with
  | some n => if here.isListed (ofNames absolute (pre ++ [n])) then [n] else []
  | none => (here.list (ofNames absolute pre)).filter (Pattern.describes ks)

/-- The names that a search goes through below `pre`. -/
def trails (here : Place) (absolute : Bool) : List (List Token) → List Text → List (List Text)
  | [], _ => [[]]
  | ks :: kss, pre => (here.candidates absolute ks pre).flatMap fun n => (here.trails absolute kss (pre ++ [n])).map (n :: ·)

theorem mem_specialNames : n ∈ specialNames ks ↔ (n = ['.', '.'] ∨ n = ['.']) ∧ ks.head? = some (.char '.') := by
  unfold specialNames
  split
  · simp
  · next h =>
    refine iff_of_false List.not_mem_nil fun hn => ?_
    obtain ⟨ks', rfl⟩ := List.head?_eq_some_iff.1 hn.2
    exact h ks' rfl

/-- A component that stands for neither special name, and is a name if it is looked up. -/
structure IsSought (ks : List Token) : Prop where
  undotted : (specialNames ks).filter (Pattern.describes ks) = []
  name : ∀ n, Pattern.literal? ks = some n → IsName n

theorem search_eq_trails (ht : here.tree.IsLegal) (hk : ∀ ks ∈ kss, IsSought ks) (hpre : ∀ m ∈ pre, IsName m) (isDir : Bool) :
    here.search false kss (ofNames absolute pre) isDir =
      (here.trails absolute kss pre).map fun ns => ofNames absolute (pre ++ ns) := by
  induction kss generalizing pre isDir with
  | nil => simp [search, trails]
  | cons ks kss ih =>
    obtain ⟨hks, hkss⟩ := List.forall_mem_cons.1 hk
    have step (n : Text) (hn : IsName n) (isDir : Bool) :
        here.search false kss (below (ofNames absolute pre) n) isDir =
          ((here.trails absolute kss (pre ++ [n])).map (n :: ·)).map fun ns => ofNames absolute (pre ++ ns) := by
      rw [below_ofNames hpre hn, ih hkss (hn.concat hpre)]
      simp [Function.comp_def]
    rw [search, trails, candidates]
    -- a component of plain characters is looked up, for any other the directory is read
    cases hlit : Pattern.literal? ks with
    | some n =>
      have hname := hks.name n hlit
      simp only [hname.here, hname.parent, decide_false, Bool.or_self, Bool.false_eq_true, if_false, below_ofNames hpre hname]
      split
      · have hstep := step n hname
        rw [below_ofNames hpre hname] at hstep
        rw [hstep, List.flatMap_singleton]
      · rfl
    | none =>
      simp only [hks.undotted, List.flatMap_nil, List.nil_append]
      split
      · rw [List.map_flatMap]
        exact List.flatMap_congr fun n hn => step n (name_of_mem_list ht (List.mem_of_mem_filter hn)) _
      · next hd => rw [list_of_not_isDir hd]; rfl

/-! ## Order -/

theorem candidates_sorted (here : Place) (absolute : Bool) (ks : List Token) (pre : List Text) :
    (here.candidates absolute ks pre).Pairwise fun m n => Text.utf8 m < Text.utf8 n := by
  rw [candidates]
  split
  · split
    · exact List.pairwise_singleton _ _
    · exact .nil
  · exact (here.list_sorted _).filter _

theorem trails_sorted (here : Place) (absolute : Bool) (kss : List (List Token)) (pre : List Text) :
    (here.trails absolute kss pre).Pairwise Wildcard.Before := by
  induction kss generalizing pre with
  | nil => exact List.pairwise_singleton _ _
  | cons ks kss ih =>
    rw [trails, List.pairwise_flatMap]
    -- below one name the rest decides, and between two the names do
    refine ⟨fun n _ => ?_, (here.candidates_sorted absolute ks pre).imp fun h ns hns ms hms => ?_⟩
    · exact List.pairwise_map.2 ((ih _).imp fun h => .cons h)
    · obtain ⟨ns, -, rfl⟩ := List.mem_map.1 hns
      obtain ⟨ms, -, rfl⟩ := List.mem_map.1 hms
      exact .rel h

/-! ## Members -/

/-- Whether a directory has a name, by the way in which a search asks it. -/
def Lists (here : Place) (absolute : Bool) (ks : List Token) (pre : List Text) (n : Text) : Prop :=
  if (Pattern.literal? ks).isSome then here.isListed (ofNames absolute (pre ++ [n])) else n ∈ here.list (ofNames absolute pre)

theorem mem_candidates : n ∈ here.candidates absolute ks pre ↔ Pattern.describes ks n ∧ here.Lists absolute ks pre n := by
  rw [candidates, Lists]
  cases h : Pattern.literal? ks with
  | none => simp [and_comm]
  | some m =>
    rw [Pattern.describes_literal h]
    by_cases hl : here.isListed (ofNames absolute (pre ++ [m])) <;> simp +contextual [hl]

theorem isName_of_lists (ht : here.tree.IsLegal) (hk : IsSought ks) (hd : Pattern.describes ks n)
    (h : here.Lists absolute ks pre n) : IsName n := by
  rw [Lists] at h
  cases hlit : Pattern.literal? ks with
  | none => exact name_of_mem_list ht (by simpa [hlit] using h)
  | some m =>
    rw [Pattern.describes_literal hlit] at hd
    exact hd ▸ hk.name m hlit

/-- In both ways the directory must be there; what is looked up must have a path that can be. -/
theorem lists_iff (ht : here.tree.IsLegal) (hpre : ∀ m ∈ pre, IsName m) (hn : IsName n) :
    here.Lists absolute ks pre n ↔ n ∈ here.list (ofNames absolute pre) ∧
      ((Pattern.literal? ks).isSome → Text.utf8Size (ofNames absolute (pre ++ [n])) < 4096) := by
  rw [Lists]
  cases (Pattern.literal? ks).isSome with
  | false => simp
  | true => simpa [and_comm] using isListed_ofNames ht hpre hn

/-- A name that may go on the path leaves the rest of it to the components behind. -/
theorem mem_trails_cons (ht : here.tree.IsLegal) (hk : IsSought ks) :
    ns ∈ here.trails absolute (ks :: kss) pre ↔ ∃ n ms, ns = n :: ms ∧ IsName n ∧ Pattern.describes ks n ∧
      here.Lists absolute ks pre n ∧ ms ∈ here.trails absolute kss (pre ++ [n]) := by
  rw [trails, List.mem_flatMap]
  constructor
  · rintro ⟨n, hn, hns⟩
    obtain ⟨ms, hms, rfl⟩ := List.mem_map.1 hns
    obtain ⟨hd, hl⟩ := mem_candidates.1 hn
    exact ⟨n, ms, rfl, isName_of_lists ht hk hd hl, hd, hl, hms⟩
  · rintro ⟨n, ms, rfl, -, hd, hl, hms⟩
    exact ⟨n, mem_candidates.2 ⟨hd, hl⟩, List.mem_map_of_mem hms⟩

/-- A name is there if another one is there below it, in whichever ways they are asked for. -/
theorem lists_of_lists_append {ms : List Text} {m : Text} {ks' : List Token} (ht : here.tree.IsLegal) (hpre : ∀ x ∈ pre, IsName x)
    (hn : IsName n) (hms : ∀ x ∈ ms, IsName x) (hm : IsName m) (h : here.Lists absolute ks' (pre ++ [n] ++ ms) m) :
    here.Lists absolute ks pre n := by
  have hpn := hn.concat hpre
  have hlist := ((lists_iff ht (List.forall_mem_append.2 ⟨hpn, hms⟩) hm).1 h).1
  obtain ⟨l, hdir, -⟩ := mem_list.1 hlist
  obtain ⟨hshort, hl⟩ := (isListed_ofNames ht hpre hn).1 (isListed_of_directory_append ht hpn hms hdir)
  exact (lists_iff ht hpre hn).2 ⟨hl, fun _ => hshort⟩

theorem mem_trails_iff (ht : here.tree.IsLegal) (hk : ∀ ks ∈ kss, IsSought ks) (hpre : ∀ m ∈ pre, IsName m) (hne : kss ≠ []) :
    ns ∈ here.trails absolute kss pre ↔
      List.Forall₂ (fun ks n => Pattern.describes ks n = true) kss ns ∧ (∀ n ∈ ns, IsName n) ∧
        ∃ init n, ns = init ++ [n] ∧ ∃ ks ∈ kss.getLast?, here.Lists absolute ks (pre ++ init) n := by
  induction kss generalizing pre ns with
  | nil => exact absurd rfl hne
  | cons ks kss ih =>
    obtain ⟨hks, hkss⟩ := List.forall_mem_cons.1 hk
    rw [mem_trails_cons ht hks]
    by_cases he : kss = []
    · subst he
      simp only [trails, List.mem_singleton]
      constructor
      · rintro ⟨n, ms, rfl, hn, hd, hl, rfl⟩
        exact ⟨.cons hd .nil, by simpa using hn, [], n, rfl, ks, rfl, by simpa using hl⟩
      · rintro ⟨hf, hnames, init, n, rfl, k, hk, hl⟩
        cases hk
        cases init with
        | nil => exact ⟨n, [], rfl, hnames n (by simp), by cases hf; assumption, by simpa using hl, rfl⟩
        | cons m init => cases hf with | cons _ h => cases init <;> cases h
    · rw [List.getLast?_cons_of_ne_nil he]
      constructor
      · rintro ⟨n, ms, rfl, hn, hd, hl, hms⟩
        obtain ⟨hf, hnames, init, m, rfl, k, hk, hl'⟩ := (ih hkss (hn.concat hpre) he).1 hms
        exact ⟨.cons hd hf, List.forall_mem_cons.2 ⟨hn, hnames⟩, n :: init, m, rfl, k, hk, by simpa using hl'⟩
      · rintro ⟨hf, hnames, init, m, e, k, hk, hl⟩
        obtain ⟨n, ms, hd, hms, rfl⟩ := List.forall₂_cons_left_iff.1 hf
        obtain ⟨hn, hmnames⟩ := List.forall_mem_cons.1 hnames
        cases init with
        | nil =>
          cases e
          exact absurd (List.forall₂_nil_right_iff.1 hms) he
        | cons n' init =>
          cases e
          obtain ⟨hinit, hm⟩ := List.forall_mem_append.1 hmnames
          have hl' : here.Lists absolute k (pre ++ [n] ++ init) m := by simpa using hl
          -- only the last name is asked for in the claim, so the names above it have to follow from it
          have habove : here.Lists absolute ks pre n := lists_of_lists_append ht hpre hn hinit (hm m (by simp)) hl'
          exact ⟨n, _, rfl, hn, hd, habove, (ih hkss (hn.concat hpre) he).2 ⟨hms, hmnames, init, m, rfl, k, hk, hl'⟩⟩

end Place

end WrapShell
