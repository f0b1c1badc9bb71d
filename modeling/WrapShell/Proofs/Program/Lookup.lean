import WrapShell.Program.Lookup
import WrapShell.Proofs.Files.Steps
/-!
# The file that a program name stands for

A name of one step is looked for in the search path and nowhere else, and any other name is a path by itself,
from the root or from the directory that is given (`findProgram_file`). A name that stands for a file ends in
the name of that file (`exists_name_of_findProgram`).
-/

namespace WrapShell

open WrapShell.Path (IsName IsStep HasSteps)

namespace Place

variable {here : Place} {searchPath : Text} {dir name p q : Path} {ps : List Path} {x : Text}

/-- What a search through some paths is to give: the first that leads to a file, and nothing if none does. -/
structure IsFirstFile (here : Place) (ps : List Path) (found : Option Path) : Prop where
  some_iff : ∀ p, found = some p ↔
    here.LeadsToFile p ∧ ∃ earlier later, ps = earlier ++ p :: later ∧ ∀ q ∈ earlier, ¬here.LeadsToFile q
  none_iff : found = none ↔ ∀ q ∈ ps, ¬here.LeadsToFile q

theorem isFirstFile_firstFile (here : Place) (ps : List Path) : here.IsFirstFile ps (here.firstFile ps) where
  some_iff p := by simp only [firstFile, List.find?_eq_some_iff_append, Bool.not_eq_true', ← Bool.not_eq_true, isFile_iff]
  none_iff := by simp only [firstFile, List.find?_eq_none, isFile_iff]

/-! ## Where is looked -/

theorem findProgram_nil : here.findProgram searchPath dir [] = none := rfl

theorem findProgram_of_isAbsolute (h : Path.isAbsolute name) : here.findProgram searchPath dir name = here.firstFile [name] := by
  rw [findProgram, if_pos h]

theorem findProgram_of_isStep (h : IsStep name x) :
    here.findProgram searchPath dir name = here.firstFile ((Path.split searchPath).map (Path.join · x)) := by
  obtain ⟨c, hcomponents, rfl⟩ := h.components
  rw [findProgram, h.isAbsolute, if_neg (by simp), hcomponents]

theorem findProgram_of_hasSteps (h : HasSteps name) :
    here.findProgram searchPath dir name = here.firstFile [Path.join dir name] := by
  obtain ⟨c, d, ds, hcomponents⟩ := h.components
  rw [findProgram, h.isAbsolute, if_neg (by simp), hcomponents]

/-- Each name is empty, absolute, of one step or of several. Nothing is found for the empty one. One of a single
step is looked for in the directories of the search path, in their order, wherever the directory is that is
given; the other two stand for themselves and for what they are from that directory, whatever the search path
is. What is found is a file, links followed. -/
theorem findProgram_file (here : Place) (searchPath : Text) (dir name : Path) :
    (∀ p, here.findProgram searchPath dir name = some p → here.LeadsToFile p) ∧
    (name = [] ∨ Path.isAbsolute name ∨ (∃ x, IsStep name x) ∨ HasSteps name) ∧
    (name = [] → here.findProgram searchPath dir name = none) ∧
    (∀ x, IsStep name x →
      (∀ dir', here.findProgram searchPath dir' name = here.findProgram searchPath dir name) ∧
      here.IsFirstFile ((Path.split searchPath).map (Path.join · x)) (here.findProgram searchPath dir name)) ∧
    (Path.isAbsolute name →
      (∀ searchPath' dir', here.findProgram searchPath' dir' name = here.findProgram searchPath dir name) ∧
      here.IsFirstFile [name] (here.findProgram searchPath dir name)) ∧
    (HasSteps name →
      (∀ searchPath', here.findProgram searchPath' dir name = here.findProgram searchPath dir name) ∧
      here.IsFirstFile [Path.join dir name] (here.findProgram searchPath dir name)) := by
  refine ⟨fun p h => isFile_iff.1 (isFile_of_findProgram h), Path.empty_or_absolute_or_steps name, ?_, fun x h => ⟨?_, ?_⟩,
    fun h => ⟨?_, ?_⟩, fun h => ⟨?_, ?_⟩⟩
  · rintro rfl
    exact findProgram_nil
  · intro dir'
    rw [findProgram_of_isStep h, findProgram_of_isStep h]
  · rw [findProgram_of_isStep h]
    exact isFirstFile_firstFile here _
  · intro searchPath' dir'
    rw [findProgram_of_isAbsolute h, findProgram_of_isAbsolute h]
  · rw [findProgram_of_isAbsolute h]
    exact isFirstFile_firstFile here _
  · intro searchPath'
    rw [findProgram_of_hasSteps h, findProgram_of_hasSteps h]
  · rw [findProgram_of_hasSteps h]
    exact isFirstFile_firstFile here _

/-- A link to a file, a directory of the same name, and names that are found in the search path, in the directory
and from the root. -/
theorem findProgram_file_git :
    let here : Place := ⟨⟨[(["b"], .dir), (["git", "b"], .file [] true), (["c"], .dir), (["git", "c"], .dir),
      (["k"], .link "b/git")]⟩, ["b"]⟩
    (∀ dir, here.findProgram "/c:" dir "git/." = some "git".toList) ∧
      (∀ searchPath, here.findProgram searchPath "/" "./k" = some "/./k".toList) ∧
      (∀ searchPath dir, here.findProgram searchPath dir "/c/git" = none) ∧
      here.LeadsToFile "/./k" ∧ ¬here.LeadsToFile "/c/git" := by
  intro here
  have hgit : here.LeadsToFile "git" := ⟨["git", "b"], [], true, by
    simp +decide [here, Place.find, List.splitOn_cons_eq_if_modifyHead, Tree.walk, Tree.get?, List.lookup_cons], rfl⟩
  have hlink : here.LeadsToFile "/./k" := ⟨["git", "b"], [], true, by
    simp +decide [here, Place.find, List.splitOn_cons_eq_if_modifyHead, Tree.walk, Tree.get?, List.lookup_cons], rfl⟩
  have hdir : ¬here.LeadsToFile "/c/git" := by
    rintro ⟨l, content, executable, hfind, hfile⟩
    simp +decide [here, Place.find, List.splitOn_cons_eq_if_modifyHead, Tree.walk, Tree.get?, List.lookup_cons] at hfind
    subst hfind
    cases hfile
  have hstep : IsStep "git/.".toList "git" := ⟨by decide, [['.']], Path.hasPieces_iff.2 rfl, by simp⟩
  have hsteps : HasSteps "./k".toList :=
    ⟨['.'], [['k']], by decide, Path.hasPieces_iff.2 rfl, ['k'], by simp, by decide, by decide⟩
  refine ⟨fun dir => ?_, fun searchPath => ?_, fun searchPath dir => ?_, hlink, hdir⟩
  · obtain ⟨-, -, -, hfound, -⟩ := findProgram_file here "/c:" dir "git/."
    refine ((hfound _ hstep).2.some_iff _).2 ⟨hgit, [['/', 'c', '/', 'g', 'i', 't']], [], rfl, ?_⟩
    simpa using hdir
  · obtain ⟨-, -, -, -, -, hfound⟩ := findProgram_file here searchPath "/" "./k"
    exact ((hfound hsteps).2.some_iff _).2 ⟨hlink, [], [], rfl, by simp⟩
  · obtain ⟨-, -, -, -, hfound, -⟩ := findProgram_file here searchPath dir "/c/git"
    exact (hfound rfl).2.none_iff.2 (by simpa using hdir)

/-! ## What is found -/

/-- Behind the name of the file that is found stand slashes only, each alone or with a dot. By the way the name was
looked for: its last piece is the last piece of the path that was found, or its only one. -/
theorem exists_name_of_findProgram (hcwd : here.IsRooted) (h : here.findProgram searchPath dir name = some p) :
    ∃ ts n us, List.splitOn '/' name = ts ++ n :: us ∧ IsName n ∧ ∀ t ∈ us, Path.isVoid t := by
  have hfile := exists_name_of_leadsToFile hcwd (isFile_iff.1 (isFile_of_findProgram h))
  rcases Path.empty_or_absolute_or_steps name with rfl | habs | ⟨x, hstep⟩ | hsteps
  · cases h
  · rw [findProgram_of_isAbsolute habs] at h
    obtain rfl := List.mem_singleton.1 (List.mem_of_find?_eq_some h)
    obtain ⟨ts, n, hcut, hn⟩ := hfile
    exact ⟨ts, n, [], hcut, hn, by simp⟩
  · rw [findProgram_of_isStep hstep] at h
    obtain ⟨d, -, rfl⟩ := List.mem_map.1 (List.mem_of_find?_eq_some h)
    obtain ⟨ts, n, hcut, hn⟩ := hfile
    obtain ⟨-, us, hpieces, hvoid⟩ := hstep
    have hslash : '/' ∉ x := hpieces.slash x List.mem_cons_self
    have hrel : Path.isAbsolute x = false := by simpa [Path.isAbsolute] using fun e => hslash (List.mem_of_mem_head? e)
    rw [Path.splitOn_join hrel, List.splitOn_eq_singleton hslash] at hcut
    obtain ⟨-, rfl⟩ := List.append_singleton_inj.1 hcut
    exact ⟨[], x, us, Path.hasPieces_iff.1 hpieces, hn, fun t ht => Path.isVoid_iff.2 (hvoid t ht)⟩
  · rw [findProgram_of_hasSteps hsteps] at h
    obtain rfl := List.mem_singleton.1 (List.mem_of_find?_eq_some h)
    obtain ⟨ts, n, hcut, hn⟩ := hfile
    rw [Path.splitOn_join hsteps.isAbsolute] at hcut
    obtain ⟨us, m, hname⟩ := (List.eq_nil_or_concat' (List.splitOn '/' name)).resolve_left (List.splitOn_ne_nil '/' name)
    rw [hname, ← List.append_assoc] at hcut
    obtain ⟨-, rfl⟩ := List.append_singleton_inj.1 hcut
    exact ⟨us, m, [], hname, hn, by simp⟩

end Place

end WrapShell
