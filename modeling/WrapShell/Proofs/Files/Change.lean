import WrapShell.Proofs.Files.Walk
/-!
# What a change to a tree leaves as it was

What is put where nothing was, and another content for a file, change no path that led somewhere. So a
file is read as it was written (`read_write`), and making directories or a file adds what lies where
their paths lead and nothing else (`Grows`).
-/

namespace WrapShell

namespace Tree

variable {t t' : Tree} {f : Bool} {k : Nat} {l x : Location} {ps : List Text} {e : Entry} {slashed : Bool}

/-- What lies somewhere in one tree lies there in the other. -/
def IsPartOf (t t' : Tree) : Prop := ∀ l e, t.get? l = some e → t'.get? l = some e

theorem isPartOf_put (h : t.get? x = none) (e : Entry) : t.IsPartOf (t.put x e) := by
  intro l e' hl
  have hx : x ≠ [] := by rintro rfl; cases h
  rw [get?_put t x l e hx, if_neg (by rintro rfl; rw [h] at hl; cases hl), hl]

theorem IsPartOf.walk_present (h : t.IsPartOf t') (hw : t.walk f k l ps = .ok (.present x)) :
    t'.walk f k l ps = .ok (.present x) := by
  fun_induction t.walk f k l ps with
  | case1 => rw [walk]; exact hw
  | case2 k l piece rest hd hv ih => rw [walk]; simpa [h l _ hd, hv] using ih hw
  | case3 k l rest hd hv ih => rw [walk]; simpa [h l _ hd, hv] using ih hw
  | case4 | case5 | case6 | case8 | case11 => cases hw
  | case7 k l piece rest hd hv hp hs target he hlast =>
    rw [walk]
    simpa [h l _ hd, hv, hp, hs, h _ _ he, hlast] using hw
  | case9 l piece rest hd hv hp hs target he hlast k ih =>
    rw [walk]
    simpa [h l _ hd, hv, hp, hs, h _ _ he, hlast] using ih hw
  | case10 k l piece rest hd hv hp hs e he hl ih =>
    rw [walk]
    cases e with
    | link target => exact absurd rfl (he target)
    | dir | file => simpa [h l _ hd, hv, hp, hs, h _ _ hl] using ih hw

/-- Empty pieces lead nowhere else. -/
theorem walk_slashes (hd : t.get? l = some .dir) (hps : ps.all (· == [])) : t.walk f k l ps = .ok (.present l) := by
  induction ps with
  | nil => rw [walk]
  | cons p ps ih =>
    simp only [List.all_cons, Bool.and_eq_true, beq_iff_eq] at hps
    obtain ⟨rfl, hps⟩ := hps
    rw [walk]
    simpa [hd, Path.isVoid] using ih hps

theorem get?_absent (hw : t.walk f k l ps = .ok (.absent x slashed)) : t.get? x = none := by
  fun_induction t.walk f k l ps with
  | case5 _ _ _ _ _ _ _ _ he => cases hw; exact he
  | case2 _ _ _ _ _ _ ih | case3 _ _ _ _ _ ih | case9 _ _ _ _ _ _ _ _ _ _ _ ih => exact ih hw
  | case10 _ _ _ _ _ _ _ _ _ _ _ ih => exact ih hw
  | case1 | case4 | case6 | case7 | case8 | case11 => cases hw

/-- A path that led to nothing leads to what is put there; a file is not what a slash asks for. -/
theorem walk_put_absent (hw : t.walk f k l ps = .ok (.absent x slashed)) (he : e = .dir ∨ (∃ c b, e = .file c b) ∧ slashed = false) :
    (t.put x e).walk true k l ps = .ok (.present x) := by
  have hnone := get?_absent hw
  have hkeep := isPartOf_put hnone e
  have hx : x ≠ [] := by rintro rfl; cases hnone
  fun_induction t.walk f k l ps with
  | case2 k l piece rest hd hv ih => rw [walk]; simpa [hkeep l _ hd, hv] using ih hw
  | case3 k l rest hd hv ih => rw [walk]; simpa [hkeep l _ hd, hv] using ih hw
  | case1 | case4 | case6 | case7 | case8 | case11 => cases hw
  | case5 k l piece rest hd hv hp hs hn hrest =>
    cases hw
    have hput : (t.put (piece :: l) e).get? (piece :: l) = some e := by rw [get?_put t _ _ e hx, if_pos rfl]
    rw [walk]
    rcases he with rfl | ⟨⟨c, b, rfl⟩, hslash⟩
    · simpa [hkeep l _ hd, hv, hp, hs, hput] using walk_slashes hput hrest
    · obtain rfl : rest = [] := by simpa using hslash
      simp [hkeep l _ hd, hv, hp, hs, hput, walk]
  | case9 l piece rest hd hv hp hs target hl hlast k ih =>
    rw [walk]
    simp only [hkeep l _ hd, hv, hp, hs, hkeep _ _ hl, Bool.false_eq_true, if_false, Bool.not_true, Bool.and_false]
    exact ih hw
  | case10 k l piece rest hd hv hp hs e' hl he' ih =>
    rw [walk]
    cases e' with
    | link target => exact absurd rfl (hl target)
    | dir | file => simpa [hkeep l _ hd, hv, hp, hs, hkeep _ _ he'] using ih hw

/-- Where paths lead does not depend on what is in the files. -/
theorem walk_put_file {c c' : Text} {b b' : Bool} (hx : t.get? x = some (.file c b)) :
    (t.put x (.file c' b')).walk f k l ps = t.walk f k l ps := by
  have hroot : x ≠ [] := by rintro rfl; cases hx
  have hget (l : Location) : (t.put x (.file c' b')).get? l = if l = x then some (.file c' b') else t.get? l :=
    get?_put t x l _ hroot
  have other {l : Location} {e : Entry} (hl : t.get? l = some e) (he : ∀ c b, e ≠ .file c b) :
      (t.put x (.file c' b')).get? l = some e := by
    rw [hget, if_neg (by rintro rfl; exact he c b (Option.some.inj (hl.symm.trans hx))), hl]
  have dir {l : Location} (hd : t.get? l = some .dir) : (t.put x (.file c' b')).get? l = some .dir :=
    other hd (by rintro _ _ ⟨⟩)
  fun_induction t.walk f k l ps with
  | case1 => rw [walk]
  | case2 k l piece rest hd hv ih => rw [walk]; simpa [dir hd, hv] using ih
  | case3 k l rest hd hv ih => rw [walk]; simpa [dir hd, hv] using ih
  | case4 k l piece rest hd hv hp hs => rw [walk]; simp [dir hd, hv, hp, hs]
  | case5 k l piece rest hd hv hp hs hn hrest =>
    have hnone : (t.put x (.file c' b')).get? (piece :: l) = none := by
      rw [hget, if_neg (by rintro rfl; rw [hx] at hn; cases hn), hn]
    rw [walk]
    simp only [dir hd, hv, hp, hs, hnone, hrest, Bool.false_eq_true, if_false, if_true]
  | case6 k l piece rest hd hv hp hs hn hrest =>
    have hnone : (t.put x (.file c' b')).get? (piece :: l) = none := by
      rw [hget, if_neg (by rintro rfl; rw [hx] at hn; cases hn), hn]
    rw [walk]
    simp only [dir hd, hv, hp, hs, hnone, hrest, Bool.false_eq_true, if_false]
  | case7 k l piece rest hd hv hp hs target he hlast =>
    rw [walk]
    simp [dir hd, hv, hp, hs, other he (by rintro _ _ ⟨⟩), hlast]
  | case8 l piece rest hd hv hp hs target he hlast =>
    rw [walk]
    simp [dir hd, hv, hp, hs, other he (by rintro _ _ ⟨⟩), hlast]
  | case9 l piece rest hd hv hp hs target he hlast k ih =>
    rw [walk]
    simpa [dir hd, hv, hp, hs, other he (by rintro _ _ ⟨⟩), hlast] using ih
  | case10 k l piece rest hd hv hp hs e he hl ih =>
    rw [walk]
    cases e with
    | link target => exact absurd rfl (he target)
    | dir => simpa [dir hd, hv, hp, hs, dir hl] using ih
    | file c'' b'' =>
      have hfile : ∃ c b, (t.put x (.file c' b')).get? (piece :: l) = some (.file c b) := by
        rw [hget]
        split
        · exact ⟨c', b', rfl⟩
        · exact ⟨c'', b'', hl⟩
      obtain ⟨c₁, b₁, hfile⟩ := hfile
      simpa [dir hd, hv, hp, hs, hfile] using ih
  | case11 k l piece rest hd =>
    rw [walk]
    have hnot : (t.put x (.file c' b')).get? l ≠ some .dir := by
      rw [hget]
      split
      · rintro ⟨⟩
      · exact hd
    split <;> simp_all

end Tree

namespace Place

variable {here there : Place} {f : Bool} {p : Path} {l : Location} {x : Tree.Found} {content : Text}

theorem find_eq_ok_iff : here.find f p = .ok x ↔ ('\x00' ∉ p ∧ p ≠ [] ∧ Text.utf8Size p < 4096) ∧
    here.tree.walk f Tree.maxLinks (if Path.isAbsolute p then [] else here.cwd) (List.splitOn '/' p) = .ok x := by
  rw [find]
  by_cases hnul : '\x00' ∈ p
  · simp [hnul]
  · by_cases hnil : p = []
    · simp [hnil]
    · by_cases hlong : 4096 ≤ Text.utf8Size p
      · simp [hnul, hnil, hlong, Nat.not_lt.2 hlong]
      · simp [hnul, hnil, hlong, Nat.lt_of_not_le hlong]

theorem find_put_absent {e : Entry} {slashed : Bool} (h : here.find f p = .ok (.absent l slashed))
    (he : e = .dir ∨ (∃ c b, e = .file c b) ∧ slashed = false) : (here.put l e).find true p = .ok (.present l) := by
  rw [find_eq_ok_iff] at h ⊢
  exact ⟨h.1, Tree.walk_put_absent h.2 he⟩

/-- What a path leads to does not depend on what is in the files. -/
theorem find_put_file {c c' : Text} {b b' : Bool} (hl : here.tree.get? l = some (.file c b)) (f : Bool) (p : Path) :
    (here.put l (.file c' b')).find f p = here.find f p := by
  unfold find
  simp only [put, Tree.walk_put_file hl]

theorem resolve_put_file {c c' : Text} {b b' : Bool} (hl : here.tree.get? l = some (.file c b)) (p : Path) :
    (here.put l (.file c' b')).resolve p = here.resolve p := by
  unfold resolve
  rw [find_put_file hl]

theorem get?_put_self {e : Entry} (hl : l ≠ []) : (here.put l e).tree.get? l = some e :=
  (Tree.get?_put here.tree l l e hl).trans (if_pos rfl)

/-- The ways in which a file is written: a new one is made, or one that is there gets another content. -/
theorem exists_put_of_write (h : here.write p content = .ok there) :
    ∃ l, (here.find true p = .ok (.absent l false) ∧ there = here.put l (.file content false)) ∨
      ∃ old executable, here.find true p = .ok (.present l) ∧ here.tree.get? l = some (.file old executable) ∧
        there = here.put l (.file content executable) := by
  rw [write] at h
  split at h
  · cases h
  · next l slashed hf =>
    cases slashed with
    | false => exact ⟨l, .inl ⟨hf, (Except.ok.inj h).symm⟩⟩
    | true => cases h
  · next l hf =>
    split at h
    · next old executable hl => exact ⟨l, .inr ⟨old, executable, hf, hl, (Except.ok.inj h).symm⟩⟩
    · cases h

/-- Where one content can be written, any other can. -/
theorem exists_write (h : here.write p content = .ok there) (other : Text) : ∃ there', here.write p other = .ok there' := by
  obtain ⟨l, ⟨hf, _⟩ | ⟨old, executable, hf, hl, _⟩⟩ := exists_put_of_write h
  · exact ⟨here.put l (.file other false), by simp [write, hf]⟩
  · exact ⟨here.put l (.file other executable), by simp [write, hf, hl]⟩

/-- What is written to a file is what is read from it. -/
theorem read_write (h : here.write p content = .ok there) : there.read p = .ok content := by
  have main {l : Location} {executable : Bool} (hl : l ≠ [])
      (hf : (here.put l (.file content executable)).find true p = .ok (.present l)) :
      (here.put l (.file content executable)).read p = .ok content := by
    rw [read, resolve_eq_ok_iff.2 hf]
    simp only [get?_put_self hl]
  obtain ⟨l, ⟨hf, rfl⟩ | ⟨old, executable, hf, hl, rfl⟩⟩ := exists_put_of_write h
  · have hnone := Tree.get?_absent (find_eq_ok_iff.1 hf).2
    exact main (by rintro rfl; cases hnone) (find_put_absent hf (.inr ⟨⟨_, _, rfl⟩, rfl⟩))
  · exact main (by rintro rfl; cases hl) ((find_put_file hl true _).trans hf)

theorem write_cwd (h : here.write p content = .ok there) : there.cwd = here.cwd := by
  obtain ⟨l, ⟨-, rfl⟩ | ⟨old, executable, -, -, rfl⟩⟩ := exists_put_of_write h
  · rfl
  · rfl

/-- What lies anywhere else than the file is not written to. -/
theorem write_keeps {e : Entry} (h : here.write p content = .ok there) (he : here.tree.get? l = some e)
    (helse : there.resolve p ≠ .ok l) : there.tree.get? l = some e := by
  obtain ⟨x, ⟨hf, rfl⟩ | ⟨old, executable, hf, hx, rfl⟩⟩ := exists_put_of_write h
  · exact Tree.isPartOf_put (Tree.get?_absent (find_eq_ok_iff.1 hf).2) _ l e he
  · have hroot : x ≠ [] := by rintro rfl; cases hx
    have hother : l ≠ x := by
      rintro rfl
      exact helse (resolve_eq_ok_iff.2 ((find_put_file hx true _).trans hf))
    exact (Tree.get?_put here.tree x l _ hroot).trans (by rw [if_neg hother, he])

/-- An absolute path leads to the same from everywhere. -/
theorem read_of_cwd {cwd : Location} (h : Path.isAbsolute p ∨ cwd = here.cwd) : ({ here with cwd := cwd } : Place).read p = here.read p := by
  rcases h with habs | rfl
  · simp [read, resolve, find, habs]
  · rfl

/-- What a path leads to in one place it leads to in the other, and what lies there is the same. -/
def Preserves (p : Path) (here there : Place) : Prop :=
  ∀ l e, here.resolve p = .ok l → here.tree.get? l = some e → there.resolve p = .ok l ∧ there.tree.get? l = some e

theorem Preserves.refl (p : Path) (here : Place) : Preserves p here here := fun _ _ hl he => ⟨hl, he⟩

theorem Preserves.trans {far : Place} (h : Preserves p here there) (h' : Preserves p there far) : Preserves p here far := by
  intro l e hl he
  obtain ⟨hl', he'⟩ := h l e hl he
  exact h' l e hl' he'

theorem Preserves.read_eq {e : Entry} (h : Preserves p here there) (hl : here.resolve p = .ok l) (he : here.tree.get? l = some e) :
    there.read p = here.read p := by
  obtain ⟨hl', he'⟩ := h l e hl he
  simp only [read, hl, he, hl', he']

/-! ## Making things -/

/-- All that was there is there as it was. What has come is a directory, where one of some paths leads,
or lies where one of some other paths does. -/
structure Grows (here there : Place) (dirs files : List Path) : Prop where
  cwd : there.cwd = here.cwd
  keeps : here.tree.IsPartOf there.tree
  adds : ∀ l e, here.tree.get? l = none → there.tree.get? l = some e →
    (e = .dir ∧ ∃ p ∈ dirs, there.resolve p = .ok l) ∨ ∃ p ∈ files, there.resolve p = .ok l

namespace Grows

variable {far : Place} {dirs dirs' files files' : List Path}

theorem refl (here : Place) (dirs files : List Path) : here.Grows here dirs files :=
  ⟨rfl, fun _ _ h => h, fun l e h h' => by rw [h] at h'; cases h'⟩

theorem resolve (h : here.Grows there dirs files) (hp : here.resolve p = .ok l) : there.resolve p = .ok l := by
  rw [resolve_eq_ok_iff, find_eq_ok_iff] at hp ⊢
  exact ⟨hp.1, h.cwd ▸ h.keeps.walk_present hp.2⟩

theorem preserves (h : here.Grows there dirs files) (p : Path) : Preserves p here there :=
  fun _ _ hl he => ⟨h.resolve hl, h.keeps _ _ he⟩

theorem mono (h : here.Grows there dirs files) (hdirs : dirs ⊆ dirs') (hfiles : files ⊆ files') :
    here.Grows there dirs' files' where
  cwd := h.cwd
  keeps := h.keeps
  adds l e hnone hsome := by
    obtain ⟨he, p, hp, hr⟩ | ⟨p, hp, hr⟩ := h.adds l e hnone hsome
    · exact .inl ⟨he, p, hdirs hp, hr⟩
    · exact .inr ⟨p, hfiles hp, hr⟩

theorem trans (h : here.Grows there dirs files) (h' : there.Grows far dirs files) : here.Grows far dirs files where
  cwd := h'.cwd.trans h.cwd
  keeps l e hl := h'.keeps l e (h.keeps l e hl)
  adds l e hnone hsome := by
    cases hl : there.tree.get? l with
    | none => exact h'.adds l e hl hsome
    | some e' =>
      obtain rfl : e' = e := Option.some.inj ((h'.keeps l e' hl).symm.trans hsome)
      obtain ⟨he, p, hp, hr⟩ | ⟨p, hp, hr⟩ := h.adds l e' hnone hl
      · exact .inl ⟨he, p, hp, h'.resolve hr⟩
      · exact .inr ⟨p, hp, h'.resolve hr⟩

end Grows

/-- What is put where a path led to nothing is all that has come. -/
theorem get?_of_put_absent {e e' : Entry} {l' : Location} {slashed : Bool} (h : here.find f p = .ok (.absent l slashed))
    (hnone : here.tree.get? l' = none) (hsome : (here.put l e).tree.get? l' = some e') : l' = l ∧ e' = e := by
  have habsent := Tree.get?_absent (find_eq_ok_iff.1 h).2
  have hget := Tree.get?_put here.tree l l' e (by rintro rfl; cases habsent)
  rw [put, hget] at hsome
  split at hsome
  · next hl => exact ⟨hl, (Option.some.inj hsome).symm⟩
  · rw [hnone] at hsome
    cases hsome

theorem makeDir_grows (h : here.makeDir p = .ok there) : here.Grows there [p] [] := by
  rw [makeDir] at h
  split at h
  · cases h
  · cases h
  · next l slashed hf =>
    cases h
    refine ⟨rfl, Tree.isPartOf_put (Tree.get?_absent (find_eq_ok_iff.1 hf).2) .dir, fun l' e hnone hsome => .inl ?_⟩
    obtain ⟨rfl, rfl⟩ := get?_of_put_absent hf hnone hsome
    exact ⟨rfl, p, by simp, resolve_eq_ok_iff.2 (find_put_absent hf (.inl rfl))⟩

theorem makeDirsFrom_grows (here : Place) (ps : List Path) : here.Grows (here.makeDirsFrom ps).1 ps [] := by
  induction ps with
  | nil => exact .refl here [] []
  | cons p up ih =>
    rw [makeDirsFrom]
    split
    · next made hm => exact (makeDir_grows hm).mono (by simp) (by simp)
    · split
      · next above e hup => rw [hup] at ih; exact ih.mono (by simp) (by simp)
      · next above hup =>
        rw [hup] at ih
        have hup : here.Grows above (p :: up) [] := ih.mono (by simp) (by simp)
        split
        · next made hm => exact hup.trans ((makeDir_grows hm).mono (by simp) (by simp))
        · exact hup
    · exact .refl here _ _

theorem makeDirs_grows (here : Place) (p : Path) : here.Grows (here.makeDirs p).1 (Path.upwards p) [] :=
  makeDirsFrom_grows here _

/-- Writing what a file holds already, or to one that is not there. -/
theorem write_grows (h : here.write p content = .ok there) (hread : ∀ old, here.read p = .ok old → old = content) :
    here.Grows there [] [p] := by
  obtain ⟨l, ⟨hf, rfl⟩ | ⟨old, executable, hf, hl, rfl⟩⟩ := exists_put_of_write h
  · refine ⟨rfl, Tree.isPartOf_put (Tree.get?_absent (find_eq_ok_iff.1 hf).2) _, fun l' e hnone hsome => .inr ?_⟩
    obtain ⟨rfl, rfl⟩ := get?_of_put_absent hf hnone hsome
    exact ⟨p, by simp, resolve_eq_ok_iff.2 (find_put_absent hf (.inr ⟨⟨_, _, rfl⟩, rfl⟩))⟩
  · obtain rfl : old = content := hread old (by rw [read, resolve_eq_ok_iff.2 hf]; simp only [hl])
    have hget (l' : Location) : (here.put l (.file old executable)).tree.get? l' = here.tree.get? l' := by
      refine (Tree.get?_put here.tree l l' _ (by rintro rfl; cases hl)).trans ?_
      split
      · next e => rw [e, hl]
      · rfl
    refine ⟨rfl, fun l' e h => (hget l').trans h, fun l' e hnone hsome => ?_⟩
    rw [hget, hnone] at hsome
    cases hsome

end Place

end WrapShell
