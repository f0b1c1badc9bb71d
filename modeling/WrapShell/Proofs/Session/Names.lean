import WrapShell.Proofs.Session.Variables
import WrapShell.Proofs.Start
/-!
# Which names variables have

A program starts with variables of plain names only, whatever it inherits and is given. Its lines ask nothing
of a name: behind them a name that is not plain is there just if the last line that says anything of it gives
it a value (`variables_told`).
-/

namespace WrapShell

variable {vars vars' : Variables} {name value : Text}

/-! ## Changes one after the other -/

namespace Variables

/-- The variables behind some changes. -/
def assignAll (vars : Variables) (told : List (Text × Option Text)) : Variables :=
  told.foldl (fun vars a => vars.assign a.1 a.2) vars

/-- What was said last counts. -/
theorem get?_assignAll (vars : Variables) (told : List (Text × Option Text)) (n : Text) :
    (vars.assignAll told).get? n = (told.reverse.lookup n).getD (vars.get? n) := by
  induction told generalizing vars with
  | nil => rfl
  | cons a told ih =>
    obtain ⟨m, value?⟩ := a
    have hvars : vars.assignAll ((m, value?) :: told) = (vars.assign m value?).assignAll told := rfl
    rw [hvars, ih, get?_assign, List.reverse_cons, List.lookup_append]
    cases told.reverse.lookup n with
    | some last => rfl
    | none =>
      rw [Option.none_or, Keyed.lookup_cons]
      split <;> rfl

theorem isSorted_assignAll (h : vars.bindings.IsSorted) (told : List (Text × Option Text)) :
    (vars.assignAll told).bindings.IsSorted := by
  induction told generalizing vars with
  | nil => exact h
  | cons a told ih =>
    obtain ⟨m, value?⟩ := a
    have hvars : (vars.assign m value?).bindings.IsSorted := by
      cases value? with
      | none => exact h.erase m
      | some value => exact h.insert m value
    exact ih hvars

/-! ## Plain names -/

/-- Each name once, and all are plain. -/
structure ArePlain (vars : Variables) : Prop where
  sorted : vars.bindings.IsSorted
  plain : ∀ b ∈ vars.bindings, isPlainName b.1

theorem ArePlain.set (h : vars.ArePlain) (hname : isPlainName name) (value : Text) : (vars.set name value).ArePlain where
  sorted := h.sorted.insert name value
  plain b hb := by
    rcases Keyed.mem_insert hb with rfl | hb
    · exact hname
    · exact h.plain b hb

theorem ArePlain.get?_eq_none (h : vars.ArePlain) (hname : ¬isPlainName name) : vars.get? name = none := by
  refine Option.eq_none_iff_forall_ne_some.2 fun value hvalue => hname ?_
  obtain ⟨before, after, hbindings, -⟩ := List.lookup_eq_some_iff.1 hvalue
  exact h.plain (name, value) (by simp [hbindings])

theorem inherited_arePlain (bs : List (Text × Text)) : (inherited bs).ArePlain := by
  have hplain : ∀ b ∈ bs.filter fun b => isPlainName b.1, isPlainName b.1 := fun b hb => (List.mem_filter.1 hb).2
  -- each binding that is left is set behind those before it
  have hset (bs : List (Text × Text)) (hbs : ∀ b ∈ bs, isPlainName b.1) (vars : Variables) (h : vars.ArePlain) :
      (Variables.mk (bs.foldl (fun m b => Keyed.insert b.1 b.2 m) vars.bindings)).ArePlain := by
    induction bs generalizing vars with
    | nil => exact h
    | cons b bs ih =>
      obtain ⟨hb, hbs⟩ := List.forall_mem_cons.1 hbs
      exact ih hbs _ (h.set hb b.2)
  exact hset _ hplain .empty ⟨List.Pairwise.nil, by simp [empty]⟩

end Variables

namespace Start

variable {s : Start} {given : Given} {config : Config}

theorem isPlainName_of_readBinding {b : Text} (h : readBinding b = .ok (name, value)) : isPlainName name := by
  unfold readBinding at h
  split at h
  · cases h
  · dsimp only at h
    split at h
    · next hname =>
      cases h
      exact hname
    · cases h

theorem arePlain_of_bindAll {bs : List Text} (h : vars.ArePlain) (hbind : bindAll vars bs = .ok vars') : vars'.ArePlain := by
  induction bs generalizing vars with
  | nil =>
    cases hbind
    exact h
  | cons b bs ih =>
    rw [bindAll] at hbind
    split at hbind
    · cases hbind
    · next n v hread => exact ih (h.set (isPlainName_of_readBinding hread) v) hbind

/-- All names that a program starts with are plain. -/
theorem Prepared.arePlain (h : s.Prepared given config vars) : vars.ArePlain :=
  arePlain_of_bindAll (Variables.inherited_arePlain s.vars) h.bound

end Start

/-! ## What lines say of variables -/

namespace Session

/-- What the lines of a run say of variables, one after the other: each says that a variable has a value, or
with none that it is not set, or nothing. -/
inductive Tells (run : Runner) : Session → List Text → List (Text × Option Text) → Prop
  | done (s : Session) : Tells run s [] []
  | assigning {s mid : Session} {line name : Text} {value? : Option Text} {lines : List Text} {told : List (Text × Option Text)}
    {output : Output} {status : Int} (assigns : s.Assigns line name value?)
    (executed : s.execute run line = (mid, output, status)) (rest : Tells run mid lines told) :
    Tells run s (line :: lines) ((name, value?) :: told)
  | silent {s mid : Session} {line : Text} {lines : List Text} {told : List (Text × Option Text)} {output : Output}
    {status : Int} (none : ∀ name value?, ¬s.Assigns line name value?)
    (executed : s.execute run line = (mid, output, status)) (rest : Tells run mid lines told) :
    Tells run s (line :: lines) told

/-- The variables behind some lines are what the lines say of them. -/
theorem Reaches.tells {run : Runner} {s last : Session} {lines : List Text} (h : Reaches run s lines last) :
    ∃ told, Tells run s lines told ∧ last.env.vars = s.env.vars.assignAll told := by
  induction h with
  | here s => exact ⟨[], .done s, rfl⟩
  | step executed _ ih =>
    obtain ⟨told, htold, hlast⟩ := ih
    rcases execute_vars executed with ⟨name, value?, hassigns, hvars⟩ | ⟨hnone, hvars⟩
    · exact ⟨(name, value?) :: told, .assigning hassigns executed htold, by rw [hlast, hvars]; rfl⟩
    · exact ⟨told, .silent hnone executed htold, by rw [hlast, hvars]⟩

end Session

namespace Start

variable {s : Start} {given : Given} {config : Config}

/-- All variables of a start have plain names. Behind any lines a name that is not plain has the value that
was said last of it, if that is one, and else it is not there; so each binding that programs are given has a
plain name, or one that a line gave that value to, with no later line that says anything of it. -/
theorem variables_told (hprepared : s.Prepared given config vars) (runner : Runner) (here : Place) (argv : List Text)
    (tree? : Option CommandTree) (history : History) :
    (∀ b ∈ vars.bindings, isPlainName b.1) ∧
      ∀ lines last, Session.Reaches runner (Session.opened here vars argv tree? history) lines last →
        ∃ told, Session.Tells runner (Session.opened here vars argv tree? history) lines told ∧
          last.env.vars = vars.assignAll told ∧
          (∀ n, ¬isPlainName n → last.env.vars.get? n = (told.reverse.lookup n).join) ∧
          ∀ t ∈ last.env.programBindings, ∃ n v, t = n ++ ['='] ++ v ∧
            (isPlainName n ∨ told.reverse.lookup n = some (some v)) := by
  have hplain := hprepared.arePlain
  refine ⟨hplain.plain, fun lines last hlines => ?_⟩
  obtain ⟨told, htold, hvars⟩ := hlines.tells
  have hlast (n : Text) (hn : ¬isPlainName n) : last.env.vars.get? n = (told.reverse.lookup n).join := by
    have hnone : (Session.opened here vars argv tree? history).env.vars.get? n = none := hplain.get?_eq_none hn
    rw [hvars, Variables.get?_assignAll, hnone]
    cases told.reverse.lookup n <;> rfl
  refine ⟨told, htold, hvars, hlast, fun t ht => ?_⟩
  obtain ⟨⟨n, v⟩, hmem, rfl⟩ := List.mem_map.1 ht
  refine ⟨n, v, rfl, or_iff_not_imp_left.2 fun hn => ?_⟩
  have hsorted : last.env.vars.bindings.IsSorted := by
    rw [hvars]
    exact Variables.isSorted_assignAll hplain.sorted told
  have hvalue : last.env.vars.get? n = some v := hsorted.lookup_eq hmem
  rw [hlast n hn] at hvalue
  exact Option.join_eq_some_iff.1 hvalue

/-- A name that is left out where it is inherited, and set by a line. -/
theorem variables_told_hyphen :
    let runner : Runner := fun here _ => .ok ⟨{}, .exited 0, here.tree⟩
    let s : Start := ⟨["-e", "C=d", "git"], [("A-B", "1"), ("A", "2")], [], ⟨.empty, []⟩⟩
    let given : Given := ⟨[("env", "C=d")], ["git"]⟩
    let vars : Variables := ⟨[("A", "2"), ("C", "d")]⟩
    let first := Session.opened s.here vars ["git"] none (.inMemory "git" [])
    let name : Text := "A-B"
    grammar.read s.arguments = .ok given ∧ (∃ config, s.Prepared given config vars) ∧ isPlainName name = false ∧
      ∃ last told, Session.Reaches runner first ["!!env set A-B x"] last ∧ Session.Tells runner first ["!!env set A-B x"] told ∧
        told.reverse.lookup name = some (some ['x']) ∧
        last.env.programBindings = [("A=2" : Text), ("A-B=x" : Text), ("C=d" : Text)] := by
  intro runner s given vars first name
  have hgiven : grammar.read s.arguments = .ok given := by decide +kernel
  have hname : isPlainName name = false := by decide
  obtain ⟨config, hconfig, -⟩ | ⟨t, ht, -⟩ := s.configure_cases given
  · have hprepared : s.Prepared given config vars := ⟨hconfig, by decide +kernel⟩
    have hread : Command.read "!!env set A-B x" =
        .ok ⟨[⟨[.word "!!env"]⟩, ⟨[.word "set"]⟩, ⟨[.word "A-B"]⟩, ⟨[.word "x"]⟩]⟩ := by decide +kernel
    have hassigns : first.Assigns "!!env set A-B x" name (some "x") :=
      ⟨["set", "A-B", "x"], _, ⟨rfl, "!!env", .inl rfl, _, hread, rfl⟩, Builtin.read_set _, rfl⟩
    have hlines := Session.Reaches.step (hassigns.execute_eq runner) (.here _)
    obtain ⟨-, hall⟩ := variables_told hprepared runner s.here ["git"] none (.inMemory "git" [])
    obtain ⟨told, htold, -, hlast, -⟩ := hall _ _ hlines
    have hvalue := (hlast name (by simp [hname])).symm.trans (Variables.get?_assign vars name (some "x") name)
    exact ⟨hgiven, ⟨config, hprepared⟩, hname, _, told, hlines, htold, Option.join_eq_some_iff.1 hvalue, by decide +kernel⟩
  · cases ht

end Start

end WrapShell
