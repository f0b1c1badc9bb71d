import Mathlib.Data.List.Chain
import WrapShell.History.Basic
/-!
# Bases apart in one history

Lines that are added under one base become entries behind those that are there; one that is empty or
repeats the line before it is left out (`kept`). What another base sees of the history does not change,
but for the lines of builtins (`addAll_apart`).
-/

namespace WrapShell

namespace History

/-- The line of the last entry. -/
def lastLine? (h : History) : Option Text := h.entries.getLast?.map Entry.line

/-- The lines that get an entry behind a last line: those that are not empty and not the same as the line
before them. -/
def kept (last? : Option Text) : List Text → List Text
  | [] => []
  | line :: lines => if line = [] ∨ last? = some line then kept last? lines else line :: kept (some line) lines

/-- The history after some lines. -/
def addAll (h : History) (lines : List Text) : History := lines.foldl add h

/-- The entries as another base sees them. -/
def under (h : History) (base : Text) : History := { h with base := base }

variable {h : History} {base line : Text} {last? : Option Text} {lines : List Text}

/-! ## One line -/

theorem keeps_iff : h.keeps line ↔ ¬(line = [] ∨ h.lastLine? = some line) := by
  simp [keeps, lastLine?]

theorem add_of_dropped (hline : line = [] ∨ h.lastLine? = some line) : h.add line = h := by
  rw [add, if_neg fun hkeeps => keeps_iff.1 hkeeps hline]

theorem add_of_kept (hline : ¬(line = [] ∨ h.lastLine? = some line)) :
    h.add line = { h with entries := h.entries ++ [h.entryFor line] } := by
  rw [add, if_pos (keeps_iff.2 hline)]

/-! ## The lines that are kept -/

theorem ne_nil_of_mem_kept (hline : line ∈ kept last? lines) : line ≠ [] := by
  induction lines generalizing last? with
  | nil => cases hline
  | cons first lines ih =>
    rw [kept] at hline
    split at hline
    · exact ih hline
    · next hfirst =>
      rcases List.mem_cons.1 hline with rfl | hline
      · exact fun hnil => hfirst (.inl hnil)
      · exact ih hline

theorem isChain_kept (last? : Option Text) (lines : List Text) :
    (last?.toList ++ kept last? lines).IsChain (· ≠ ·) := by
  induction lines generalizing last? with
  | nil => cases last? <;> simp [kept]
  | cons line lines ih =>
    rw [kept]
    split
    · exact ih last?
    · next hline =>
      have hrest : (line :: kept (some line) lines).IsChain (· ≠ ·) := ih (some line)
      cases last? with
      | none => exact hrest
      | some last =>
        have hne : last ≠ line := fun he => hline (.inr (congrArg some he))
        exact List.isChain_cons_cons.2 ⟨hne, hrest⟩

/-- By induction on the lines: each looks at the entry that the one before it has left. -/
theorem addAll_eq (h : History) (lines : List Text) :
    h.addAll lines = { h with entries := h.entries ++ (kept h.lastLine? lines).map h.entryFor } := by
  induction lines generalizing h with
  | nil => simp [addAll, kept]
  | cons line lines ih =>
    have hfirst : h.addAll (line :: lines) = (h.add line).addAll lines := rfl
    rw [hfirst, ih, kept]
    split
    · next hline => rw [add_of_dropped hline]
    · next hline =>
      have hlast : (h.add line).lastLine? = some line := by simp [add_of_kept hline, lastLine?, entryFor]
      have hentry : (h.add line).entryFor = h.entryFor := by rw [add_of_kept hline]; rfl
      rw [hlast, hentry, add_of_kept hline]
      simp

/-! ## What a base sees of new entries -/

theorem recallable_append (h : History) (es : List Entry) :
    ({ h with entries := h.entries ++ es } : History).recallable =
      h.recallable ++ ({ h with entries := es } : History).recallable := by
  simp [recallable]

theorem select_append (h : History) (es : List Entry) (p : Text → Bool) :
    ({ h with entries := h.entries ++ es } : History).select p =
      h.select p ++ ({ h with entries := es } : History).select p := by
  simp [select]

/-- The base that lines are typed for recalls them all. -/
theorem recallable_own (h : History) (lines : List Text) :
    ({ h with entries := lines.map h.entryFor } : History).recallable = lines := by
  have hall : ∀ e ∈ lines.map h.entryFor, (e.base == h.base || isBuiltinLine e.line) = true := by
    intro e he
    obtain ⟨line, -, rfl⟩ := List.mem_map.1 he
    cases hb : isBuiltinLine line <;> simp [entryFor, hb]
  rw [recallable, List.filter_eq_self.2 hall, List.map_map]
  exact List.map_id lines

/-- The lines of builtins are typed for no base. -/
theorem select_own (hbase : h.base ≠ []) (lines : List Text) (p : Text → Bool) :
    ({ h with entries := lines.map h.entryFor } : History).select p = lines.filter fun line => !isBuiltinLine line && p line := by
  have hview (line : Text) : ((h.entryFor line).base == h.base && p (h.entryFor line).line) = (!isBuiltinLine line && p line) := by
    cases hb : isBuiltinLine line
    · simp [entryFor, hb]
    · simp [entryFor, hb, hbase]
  rw [select, List.filter_map, List.map_map]
  simp only [Function.comp_def, hview]
  exact List.map_id _

theorem base_entryFor_ne (hne : base ≠ []) (hother : base ≠ h.base) (line : Text) : ((h.entryFor line).base == base) = false := by
  rw [beq_eq_false_iff_ne]
  cases hb : isBuiltinLine line
  · simpa [entryFor, hb] using Ne.symm hother
  · simpa [entryFor, hb] using Ne.symm hne

theorem select_other (hne : base ≠ []) (hother : base ≠ h.base) (lines : List Text) (p : Text → Bool) :
    (({ h with entries := lines.map h.entryFor } : History).under base).select p = [] := by
  have hview (line : Text) : ((h.entryFor line).base == base && p (h.entryFor line).line) = false := by
    rw [base_entryFor_ne hne hother, Bool.false_and]
  rw [select, under, List.filter_map]
  simp only [Function.comp_def, hview, List.filter_false, List.map_nil]

/-- Another base recalls only the lines of builtins. -/
theorem recallable_other (hne : base ≠ []) (hother : base ≠ h.base) (lines : List Text) :
    (({ h with entries := lines.map h.entryFor } : History).under base).recallable = lines.filter isBuiltinLine := by
  have hview (line : Text) : ((h.entryFor line).base == base || isBuiltinLine (h.entryFor line).line) = isBuiltinLine line := by
    rw [base_entryFor_ne hne hother, Bool.false_or]
    rfl
  rw [recallable, under, List.filter_map, List.map_map]
  simp only [Function.comp_def, hview]
  exact List.map_id _

/-! ## Many lines -/

/-- What lines that are added under a base do to a history, whatever it holds: those that are kept get an
entry each, none is empty or the same as the line before it. The base itself recalls all of them, and
finds those that are typed for it; any other base finds what it found, and recalls the lines of builtins
besides. -/
theorem addAll_apart (hbase : h.base ≠ []) (lines : List Text) :
    let after := h.addAll lines
    let new := kept h.lastLine? lines
    after = { h with entries := h.entries ++ new.map h.entryFor } ∧
      (∀ line ∈ new, line ≠ []) ∧ (h.lastLine?.toList ++ new).IsChain (· ≠ ·) ∧
      after.recallable = h.recallable ++ new ∧
      (∀ p, after.select p = h.select p ++ new.filter fun line => !isBuiltinLine line && p line) ∧
      ∀ other, other ≠ [] → other ≠ h.base →
        (∀ p, (after.under other).select p = (h.under other).select p) ∧
        (after.under other).recallable = (h.under other).recallable ++ new.filter isBuiltinLine := by
  intro after new
  have hafter : after = { h with entries := h.entries ++ new.map h.entryFor } := addAll_eq h lines
  refine ⟨hafter, fun line hline => ne_nil_of_mem_kept hline, isChain_kept _ lines, ?_, fun p => ?_,
    fun other hne hother => ⟨fun p => ?_, ?_⟩⟩
  · rw [hafter, recallable_append, recallable_own]
  · rw [hafter, select_append, select_own hbase]
  · have hnone := select_other hne hother new p
    rw [hafter]
    calc _ = (h.under other).select p ++ (({ h with entries := new.map h.entryFor } : History).under other).select p :=
          select_append (h.under other) _ p
      _ = (h.under other).select p := by rw [hnone, List.append_nil]
  · have hbuiltins := recallable_other hne hother new
    rw [hafter]
    calc _ = (h.under other).recallable ++ (({ h with entries := new.map h.entryFor } : History).under other).recallable :=
          recallable_append (h.under other) _
      _ = (h.under other).recallable ++ new.filter isBuiltinLine := by rw [hbuiltins]

/-- Behind an entry of another base: a line that repeats it, an empty one, a builtin and a line that is typed
twice. -/
theorem addAll_apart_mixed :
    let h : History := ⟨"git", [⟨"git", "log"⟩, ⟨"ls", "-l"⟩], none⟩
    let lines : List Text := ["-l", "log", "log", "", "!!help"]
    h.base ≠ [] ∧ kept h.lastLine? lines = (["log", "!!help"] : List Text) ∧
      (h.addAll lines).recallable = h.recallable ++ (["log", "!!help"] : List Text) ∧
      (h.addAll lines).select (fun _ => true) = h.select (fun _ => true) ++ (["log"] : List Text) ∧
      ((h.addAll lines).under "ls").select (fun _ => true) = (h.under "ls").select (fun _ => true) ∧
      ((h.addAll lines).under "ls").recallable = (h.under "ls").recallable ++ (["!!help"] : List Text) := by
  intro h lines
  have hbase : h.base ≠ [] := by decide
  have hkept : kept h.lastLine? lines = (["log", "!!help"] : List Text) := by decide
  obtain ⟨-, -, -, hrecall, hselect, hother⟩ := addAll_apart hbase lines
  obtain ⟨hsame, hbuiltins⟩ := hother "ls" (by decide) (by decide)
  rw [hkept] at hrecall hselect hbuiltins
  exact ⟨hbase, hkept, hrecall, hselect _, hsame _, hbuiltins⟩

end History

end WrapShell
