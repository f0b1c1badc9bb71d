import Mathlib.Logic.Function.Basic
import WrapShell.Proofs.History.File
/-!
# Two sessions with one history file

A session reads the history file when it is opened and writes all it knows when it ends, whatever has been
written in between. So of two sessions the one that writes last keeps what was there before both, and what it
was given itself; the lines of the other it keeps only if it was opened after the other had written
(`runs_load`).
-/

namespace WrapShell

namespace History

/-! ## Two sessions -/

/-- How far a session has come, with its history and with the entries that were added for it. -/
inductive Stage where
  | before
  | opened (history : History) (recorded : List Entry)
  | written (recorded : List Entry)

/-- What a session does. -/
inductive Action where
  | opens (base : Text)
  | add (line : Text)
  | sync

/-- The files, and how far each of two sessions has come. -/
structure Shared where
  here : Place
  stage : Bool → Stage

namespace Shared

/-- Neither session has been opened. -/
def start (here : Place) : Shared := ⟨here, fun _ => .before⟩

def advance (s : Shared) (here : Place) (who : Bool) (stage : Stage) : Shared := ⟨here, Function.update s.stage who stage⟩

variable {s : Shared} {here : Place} {who : Bool} {stage : Stage}

@[simp] theorem stage_advance_self : (s.advance here who stage).stage who = stage := Function.update_self ..

end Shared

/-- One session does something, all at once. A line that is not kept is added nothing for, and a session is
written when that goes well. -/
inductive Step (file : Path) : Shared → Bool × Action → Shared → Prop
  | opens {s : Shared} {who : Bool} {base : Text} {h : History} (idle : s.stage who = .before)
    (opened : openFile s.here base file = .ok h) : Step file s (who, .opens base) (s.advance s.here who (.opened h []))
  | add {s : Shared} {who : Bool} {h : History} {recorded : List Entry} (line : Text) (live : s.stage who = .opened h recorded) :
    Step file s (who, .add line)
      (s.advance s.here who (.opened (h.add line) (recorded ++ if h.keeps line then [h.entryFor line] else [])))
  | sync {s : Shared} {who : Bool} {h : History} {recorded : List Entry} {there : Place} (live : s.stage who = .opened h recorded)
    (synced : h.sync s.here = (there, none)) : Step file s (who, .sync) (s.advance there who (.written recorded))

/-- The two sessions take steps in any order. -/
inductive Runs (file : Path) (s : Shared) : List (Bool × Action) → Shared → Prop
  | start : Runs file s [] s
  | step {steps : List (Bool × Action)} {mid after : Shared} {step : Bool × Action} (run : Runs file s steps mid)
    (next : Step file mid step after) : Runs file s (steps ++ [step]) after

/-- A session is opened when the other one has written. -/
def OpensBehind (steps : List (Bool × Action)) (who : Bool) : Prop :=
  ∃ first rest base, steps = first ++ (!who, .sync) :: rest ∧ (who, .opens base) ∈ rest

variable {file : Path} {steps : List (Bool × Action)} {s after last : Shared} {act : Bool × Action} {who : Bool} {entries : List Entry}

theorem not_opensBehind_nil : ¬OpensBehind [] who := by
  rintro ⟨first, rest, base, hsteps, -⟩
  exact absurd hsteps (by simp)

theorem opensBehind_concat : OpensBehind (steps ++ [act]) who ↔
    OpensBehind steps who ∨ (!who, .sync) ∈ steps ∧ ∃ base, act = (who, .opens base) := by
  constructor
  · rintro ⟨first, rest, base, hsteps, hopens⟩
    obtain ⟨rest, last, rfl⟩ := (List.eq_nil_or_concat' rest).resolve_left (List.ne_nil_of_mem hopens)
    rw [← List.cons_append, ← List.append_assoc] at hsteps
    obtain ⟨rfl, hlast⟩ := List.append_inj' hsteps rfl
    rcases List.mem_append.1 hopens with hopens | hopens
    · exact .inl ⟨first, rest, base, rfl, hopens⟩
    · refine .inr ⟨by simp, base, ?_⟩
      rw [List.mem_singleton.1 hopens]
      exact List.singleton_inj.1 hlast
  · rintro (⟨first, rest, base, rfl, hopens⟩ | ⟨hsync, base, rfl⟩)
    · exact ⟨first, rest ++ [act], base, by simp, List.mem_append_left _ hopens⟩
    · obtain ⟨first, rest, rfl⟩ := List.append_of_mem hsync
      exact ⟨first, rest ++ [(who, .opens base)], base, by simp, by simp⟩

theorem OpensBehind.sync_mem (h : OpensBehind steps who) : (!who, .sync) ∈ steps := by
  obtain ⟨first, rest, base, rfl, -⟩ := h
  simp

theorem sync_mem_concat (hact : act.2 ≠ .sync) : (who, .sync) ∈ steps ++ [act] ↔ (who, .sync) ∈ steps := by
  rw [List.mem_append, List.mem_singleton]
  refine or_iff_left ?_
  rintro rfl
  exact hact rfl

/-- A session is the last that has written. -/
def SyncsLast (steps : List (Bool × Action)) (who : Bool) : Prop :=
  ∃ first rest, steps = first ++ (who, .sync) :: rest ∧ ∀ other, (other, .sync) ∉ rest

theorem SyncsLast.concat (h : SyncsLast steps who) (hact : act.2 ≠ .sync) : SyncsLast (steps ++ [act]) who := by
  obtain ⟨first, rest, rfl, hrest⟩ := h
  exact ⟨first, rest ++ [act], by simp, fun other hmem => hrest other ((sync_mem_concat hact).1 hmem)⟩

theorem SyncsLast.eq_of_concat {other : Bool} (h : SyncsLast (steps ++ [(other, .sync)]) who) : who = other := by
  obtain ⟨first, rest, hsteps, hrest⟩ := h
  rcases List.eq_nil_or_concat' rest with rfl | ⟨rest, last, rfl⟩
  · obtain ⟨-, hlast⟩ := List.append_inj' hsteps rfl
    exact (congrArg Prod.fst (List.singleton_inj.1 hlast)).symm
  · rw [← List.cons_append, ← List.append_assoc] at hsteps
    obtain ⟨-, hlast⟩ := List.append_inj' hsteps rfl
    exact absurd (by simp [← hlast]) (hrest other)

/-! ## What holds behind all steps -/

/-- A session knows what was in the file before both sessions, behind that what the other one had been given
if it had written, and last what it was given itself. -/
def Knows (entries : List Entry) (steps : List (Bool × Action)) (s : Shared) (who : Bool) (recorded known : List Entry) : Prop :=
  (OpensBehind steps who ∧ ∃ others, s.stage (!who) = .written others ∧ known = entries ++ others ++ recorded) ∨
    ¬OpensBehind steps who ∧ known = entries ++ recorded

/-- What holds behind some steps. -/
structure Invariant (file : Path) (entries : List Entry) (steps : List (Bool × Action)) (s : Shared) : Prop where
  syncs : ∀ who, (who, .sync) ∈ steps ↔ ∃ recorded, s.stage who = .written recorded
  live : ∀ who h recorded, s.stage who = .opened h recorded → h.file = some file ∧ Knows entries steps s who recorded h.entries
  stored : ∃ known, load s.here file = .ok known ∧
    ((known = entries ∧ ∀ who, (who, .sync) ∉ steps) ∨
      ∃ who recorded, SyncsLast steps who ∧ s.stage who = .written recorded ∧ Knows entries steps s who recorded known)

theorem invariant_start {here : Place} (hload : load here file = .ok entries) : Invariant file entries [] (.start here) where
  syncs who := by simp [Shared.start]
  live _ _ _ h := nomatch h
  stored := ⟨entries, hload, .inl ⟨rfl, fun _ h => nomatch h⟩⟩

/-! ### What a step leaves as it was -/

theorem Step.stage_of_ne (h : Step file s act after) (hne : who ≠ act.1) : after.stage who = s.stage who := by
  cases h <;> exact Function.update_of_ne hne _ _

/-- A session that has written is done. -/
theorem Step.written {recorded : List Entry} (h : Step file s act after) (hwho : s.stage who = .written recorded) :
    after.stage who = .written recorded := by
  by_cases hne : who = act.1
  · subst hne
    cases h with
    | opens idle => rw [idle] at hwho; cases hwho
    | add _ live | sync live => rw [live] at hwho; cases hwho
  · rw [h.stage_of_ne hne, hwho]

theorem Step.written_iff (h : Step file s act after) :
    (∃ recorded, after.stage who = .written recorded) ↔ (∃ recorded, s.stage who = .written recorded) ∨ act = (who, .sync) := by
  constructor
  · rintro ⟨recorded, hafter⟩
    by_cases hne : who = act.1
    · subst hne
      cases h with
      | opens => rw [Shared.stage_advance_self] at hafter; cases hafter
      | add => rw [Shared.stage_advance_self] at hafter; cases hafter
      | sync => exact .inr rfl
    · rw [h.stage_of_ne hne] at hafter
      exact .inl ⟨recorded, hafter⟩
  · rintro (⟨recorded, hwho⟩ | rfl)
    · exact ⟨recorded, h.written hwho⟩
    · cases h with
      | sync => exact ⟨_, Shared.stage_advance_self⟩

theorem Step.idle {base : Text} (h : Step file s (who, .opens base) after) : s.stage who = .before := by
  cases h with
  | opens idle => exact idle

/-- What a session knows stays what it knows, as long as it is not the one that is opened. -/
theorem Knows.step {recorded known : List Entry} (h : Knows entries steps s who recorded known) (hstep : Step file s act after)
    (hother : ∀ base, act ≠ (who, .opens base)) : Knows entries (steps ++ [act]) after who recorded known := by
  have hbehind : OpensBehind (steps ++ [act]) who ↔ OpensBehind steps who := by
    rw [opensBehind_concat]
    refine or_iff_left ?_
    rintro ⟨-, base, hopens⟩
    exact hother base hopens
  rcases h with ⟨hopens, others, hwritten, hknown⟩ | ⟨hopens, hknown⟩
  · exact .inl ⟨hbehind.2 hopens, others, hstep.written hwritten, hknown⟩
  · exact .inr ⟨mt hbehind.1 hopens, hknown⟩

theorem Knows.append {recorded known : List Entry} (h : Knows entries steps s who recorded known) (new : List Entry) :
    Knows entries steps s who (recorded ++ new) (known ++ new) := by
  rcases h with ⟨hopens, others, hwritten, rfl⟩ | ⟨hopens, rfl⟩
  · exact .inl ⟨hopens, others, hwritten, by simp⟩
  · exact .inr ⟨hopens, by simp⟩

/-! ### What a step keeps true -/

/-- What is stored stays so, if nobody writes. -/
theorem Invariant.stored_step (h : Invariant file entries steps s) (hstep : Step file s act after) (hact : act.2 ≠ .sync)
    (hhere : after.here = s.here) : ∃ known, load after.here file = .ok known ∧
      ((known = entries ∧ ∀ who, (who, .sync) ∉ steps ++ [act]) ∨
        ∃ who recorded, SyncsLast (steps ++ [act]) who ∧ after.stage who = .written recorded ∧
          Knows entries (steps ++ [act]) after who recorded known) := by
  obtain ⟨known, hload, hstored⟩ := h.stored
  refine ⟨known, by rw [hhere, hload], ?_⟩
  rcases hstored with ⟨hknown, hnone⟩ | ⟨who, recorded, hlast, hwritten, hknows⟩
  · exact .inl ⟨hknown, fun who hmem => hnone who ((sync_mem_concat hact).1 hmem)⟩
  · refine .inr ⟨who, recorded, hlast.concat hact, hstep.written hwritten, hknows.step hstep ?_⟩
    rintro base rfl
    rw [hstep.idle] at hwritten
    cases hwritten

/-- Each step keeps the invariant, if it does so for what the session that takes it knows, and for what is stored. -/
theorem Invariant.of_step (h : Invariant file entries steps s) (hstep : Step file s act after)
    (hlive : ∀ history recorded, after.stage act.1 = .opened history recorded →
      history.file = some file ∧ Knows entries (steps ++ [act]) after act.1 recorded history.entries)
    (hstored : ∃ known, load after.here file = .ok known ∧
      ((known = entries ∧ ∀ who, (who, .sync) ∉ steps ++ [act]) ∨
        ∃ who recorded, SyncsLast (steps ++ [act]) who ∧ after.stage who = .written recorded ∧
          Knows entries (steps ++ [act]) after who recorded known)) :
    Invariant file entries (steps ++ [act]) after where
  syncs who := by rw [List.mem_append, List.mem_singleton, h.syncs, hstep.written_iff, eq_comm]
  live who history recorded hwho := by
    by_cases hne : who = act.1
    · subst hne
      exact hlive history recorded hwho
    · rw [hstep.stage_of_ne hne] at hwho
      obtain ⟨hfile, hknows⟩ := h.live who history recorded hwho
      exact ⟨hfile, hknows.step hstep fun base hact => hne (by rw [hact])⟩
  stored := hstored

/-- What is stored is what a session finds that is opened. -/
theorem Invariant.knows_opened {base : Text} {known : List Entry} (h : Invariant file entries steps s) (idle : s.stage who = .before)
    (hstep : Step file s (who, .opens base) after) (hload : load s.here file = .ok known) :
    Knows entries (steps ++ [(who, .opens base)]) after who [] known := by
  obtain ⟨known', hload', hstored⟩ := h.stored
  obtain rfl : known' = known := Except.ok.inj (hload'.symm.trans hload)
  rcases hstored with ⟨rfl, hnone⟩ | ⟨first, others, -, hwritten, hknows⟩
  · have hopens : (who, Action.opens base).2 ≠ .sync := by simp
    exact .inr ⟨fun hbehind => hnone _ ((sync_mem_concat hopens).1 hbehind.sync_mem), by simp⟩
  · -- who has written is the other one, and knew of nobody
    obtain rfl : first = !who := by
      obtain rfl | rfl := Bool.eq_or_eq_not first who
      · rw [idle] at hwritten
        cases hwritten
      · rfl
    rcases hknows with ⟨-, _, hnever, -⟩ | ⟨-, rfl⟩
    · rw [Bool.not_not, idle] at hnever
      cases hnever
    · exact .inl ⟨opensBehind_concat.2 (.inr ⟨(h.syncs _).2 ⟨others, hwritten⟩, base, rfl⟩), others, hstep.written hwritten, by simp⟩

theorem Invariant.step (h : Invariant file entries steps s) (hstep : Step file s act after) :
    Invariant file entries (steps ++ [act]) after := by
  have hstep' := hstep
  cases hstep' with
  | @opens who base history idle opened =>
    refine h.of_step hstep (fun history' recorded hlive => ?_) (h.stored_step hstep (by simp) rfl)
    rw [Shared.stage_advance_self] at hlive
    cases hlive
    cases hload : load s.here file with
    | error => rw [openFile, hload] at opened; cases opened
    | ok known =>
      rw [openFile, hload] at opened
      cases opened
      exact ⟨rfl, h.knows_opened idle hstep hload⟩
  | @add who history recorded line live =>
    refine h.of_step hstep (fun history' recorded' hlive => ?_) (h.stored_step hstep (by simp) rfl)
    rw [Shared.stage_advance_self] at hlive
    cases hlive
    obtain ⟨hfile, hknows⟩ := h.live who history recorded live
    refine ⟨by rw [file_add, hfile], ?_⟩
    rw [entries_add]
    exact (hknows.step hstep (by simp)).append _
  | @sync who history recorded there live synced =>
    obtain ⟨hfile, hknows⟩ := h.live who history recorded live
    refine h.of_step hstep (fun history' recorded' hlive => ?_) ⟨history.entries, load_sync hfile synced, .inr ?_⟩
    · rw [Shared.stage_advance_self] at hlive
      cases hlive
    · exact ⟨who, recorded, ⟨steps, [], rfl, fun _ => List.not_mem_nil⟩, Shared.stage_advance_self, hknows.step hstep (by simp)⟩

theorem invariant_of_runs {here : Place} (hload : load here file = .ok entries) (h : Runs file (.start here) steps last) :
    Invariant file entries steps last := by
  induction h with
  | start => exact invariant_start hload
  | step _ next ih => exact ih.step next

/-- No session is opened with a file that cannot be read. -/
theorem exists_load_of_runs {here : Place} (h : Runs file (.start here) steps last) (hopened : last.stage who ≠ .before) :
    ∃ entries, load here file = .ok entries := by
  cases hload : load here file with
  | ok entries => exact ⟨entries, rfl⟩
  | error e =>
    have hstuck : last = .start here := by
      clear hopened
      induction h with
      | start => rfl
      | step _ next ih =>
        subst ih
        cases next with
        | @opens _ base _ _ opened =>
          have hfail : openFile here base file = .error e := by rw [openFile, hload]; rfl
          rw [Shared.start, hfail] at opened
          cases opened
        | add _ live | sync live => cases live
    rw [hstuck] at hopened
    exact absurd rfl hopened

/-- When both sessions have written, the file is one that could be read before, and all that was in it then is
in it still, with all that was added for the session that wrote last. What was added for the other one is there
if the last was opened when that had written; otherwise nothing of it is. -/
theorem runs_load {here : Place} {recorded : Bool → List Entry} (h : Runs file (.start here) steps last)
    (hdone : ∀ who, last.stage who = .written (recorded who)) :
    ∃ entries who, load here file = .ok entries ∧ SyncsLast steps who ∧
      (OpensBehind steps who → load last.here file = .ok (entries ++ recorded (!who) ++ recorded who)) ∧
      (¬OpensBehind steps who → load last.here file = .ok (entries ++ recorded who)) := by
  have hopened : last.stage true ≠ .before := by rw [hdone]; nofun
  obtain ⟨entries, hload⟩ := exists_load_of_runs h hopened
  have hinvariant := invariant_of_runs hload h
  obtain ⟨known, hknown, ⟨-, hnone⟩ | ⟨who, mine, hlast, hwho, hknows⟩⟩ := hinvariant.stored
  · exact absurd ((hinvariant.syncs true).2 ⟨_, hdone true⟩) (hnone true)
  · obtain rfl : mine = recorded who := by
      rw [hdone] at hwho
      exact (Stage.written.inj hwho).symm
    refine ⟨entries, who, hload, hlast, fun hbehind => ?_, fun hbehind => ?_⟩
    · rcases hknows with ⟨-, others, hothers, rfl⟩ | ⟨hnot, -⟩
      · rw [hdone] at hothers
        rw [hknown, Stage.written.inj hothers]
      · exact absurd hbehind hnot
    · rcases hknows with ⟨hopens, -⟩ | ⟨-, rfl⟩
      · exact absurd hopens hbehind
      · exact hknown

/-- Both sessions are opened before either writes: the one that writes first has its line lost. -/
theorem runs_load_lost :
    let here : Place := ⟨⟨[]⟩, []⟩
    let steps : List (Bool × Action) := [(false, .opens "git"), (true, .opens "ls"), (false, .add "log"), (true, .add "-l"),
      (false, .sync), (true, .sync)]
    let recorded : Bool → List Entry := fun who => if who then [⟨"ls", "-l"⟩] else [⟨"git", "log"⟩]
    ∃ last, Runs "h" (.start here) steps last ∧ (∀ who, last.stage who = .written (recorded who)) ∧
      load last.here "h" = .ok [⟨"ls", "-l"⟩] := by
  intro here steps recorded
  let there : Place := ⟨⟨[(["h"], .file (write (recorded false)) false)]⟩, []⟩
  let written : Place := ⟨⟨[(["h"], .file (write (recorded true)) false), (["h"], .file (write (recorded false)) false)]⟩, []⟩
  have hnone : load here "h" = .ok [] := by
    have hread : here.read "h" = .error .notFound := by
      simp +decide [here, Place.read, Place.resolve, Place.find, List.splitOn_cons_eq_if_modifyHead, Tree.walk, Tree.get?]
    rw [load, hread]
  have hfirst : sync ⟨"git", recorded false, some "h"⟩ here = (there, none) := by
    have hwrite : here.write "h" (write (recorded false)) = .ok there := by
      simp +decide [here, there, Place.write, Place.find, List.splitOn_cons_eq_if_modifyHead, Tree.walk, Tree.get?, Place.put, Tree.put]
    exact sync_of_write rfl rfl hwrite
  have hsecond : sync ⟨"ls", recorded true, some "h"⟩ there = (written, none) := by
    have hwrite : there.write "h" (write (recorded true)) = .ok written := by
      simp +decide [there, written, Place.write, Place.find, List.splitOn_cons_eq_if_modifyHead, Tree.walk, Tree.get?, Place.put, Tree.put]
    exact sync_of_write rfl rfl hwrite
  have hopens (base : Text) : openFile here base "h" = .ok ⟨base, [], some "h"⟩ := by rw [openFile, hnone]; rfl
  let s₁ := (Shared.start here).advance here false (.opened ⟨"git", [], some "h"⟩ [])
  let s₂ := s₁.advance here true (.opened ⟨"ls", [], some "h"⟩ [])
  let s₃ := s₂.advance here false (.opened ⟨"git", recorded false, some "h"⟩ (recorded false))
  let s₄ := s₃.advance here true (.opened ⟨"ls", recorded true, some "h"⟩ (recorded true))
  let s₅ := s₄.advance there false (.written (recorded false))
  let s₆ := s₅.advance written true (.written (recorded true))
  have h₁ : Step "h" (.start here) (false, .opens "git") s₁ := .opens rfl (hopens "git")
  have h₂ : Step "h" s₁ (true, .opens "ls") s₂ := .opens rfl (hopens "ls")
  have h₃ : Step "h" s₂ (false, .add "log") s₃ := @Step.add "h" s₂ false ⟨"git", [], some "h"⟩ [] "log" rfl
  have h₄ : Step "h" s₃ (true, .add "-l") s₄ := @Step.add "h" s₃ true ⟨"ls", [], some "h"⟩ [] "-l" rfl
  have h₅ : Step "h" s₄ (false, .sync) s₅ := .sync rfl hfirst
  have h₆ : Step "h" s₅ (true, .sync) s₆ := .sync rfl hsecond
  have hruns : Runs "h" (.start here) steps s₆ := .step (.step (.step (.step (.step (.step .start h₁) h₂) h₃) h₄) h₅) h₆
  have hdone : ∀ who, s₆.stage who = .written (recorded who) := by
    intro who
    cases who <;> rfl
  obtain ⟨entries, who, hload, hlast, -, hlost⟩ := runs_load hruns hdone
  obtain rfl : [] = entries := Except.ok.inj (hnone.symm.trans hload)
  have hlast : SyncsLast (steps.dropLast ++ [(true, .sync)]) who := hlast
  obtain rfl : who = true := hlast.eq_of_concat
  have hbehind : ¬OpensBehind ([] ++ [(false, .opens "git")] ++ [(true, .opens "ls")] ++ [(false, .add "log")] ++ [(true, .add "-l")] ++
      [(false, .sync)] ++ [(true, .sync)]) true := by
    simp only [opensBehind_concat, not_opensBehind_nil, Bool.not_true]
    simp
  exact ⟨s₆, hruns, hdone, hlost hbehind⟩

end History

end WrapShell
