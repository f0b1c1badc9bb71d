import WrapShell.Line.Expand
import WrapShell.Proofs.Line.Canonical
/-!
# Any text as an argument

A backslash before each character that reading or expanding would take for more than itself makes a
bare word of any text, and the word stands for that text alone, whatever the variables and the files
are (`read_escapeAt`). More backslashes than needed do no harm.
-/

namespace WrapShell

/-- A character that has to be escaped to be literal in a bare word. A `$` has to only in front. -/
def isSpecial (c : Char) : Bool := isBlank c || isQuote c || c == '\\' || metacharacters.contains c

/-- The special characters of a text are among the marked ones. -/
def Text.MarksSpecial (marked : Nat → Bool) (s : Text) : Prop := ∀ i c, s[i]? = some c → isSpecial c → marked i

namespace Text

variable {s : Text} {marked : Nat → Bool} {c : Char}

theorem MarksSpecial.tail (h : MarksSpecial marked (c :: s)) : MarksSpecial (fun i => marked (i + 1)) s :=
  fun i d hd => h (i + 1) d hd

theorem MarksSpecial.head (h : MarksSpecial marked (c :: s)) (hm : marked 0 = false) : isSpecial c = false := by
  refine Bool.eq_false_iff.2 fun hc => ?_
  have hmarked := h 0 c rfl hc
  rw [hm] at hmarked
  cases hmarked

theorem isSpecial_eq_false : isSpecial c = false ↔
    c ≠ '\\' ∧ (isQuote c || isBlank c) = false ∧ metacharacters.contains c = false := by
  simp only [isSpecial, Bool.or_eq_false_iff, beq_eq_false_iff_ne]
  tauto

theorem isWordText_escapeAt (h : MarksSpecial marked s) : isWordText true (s.escapeAt marked) := by
  induction s generalizing marked with
  | nil => rfl
  | cons c s ih =>
    have htail := ih h.tail
    rw [escapeAt]
    cases hm : marked 0 with
    | true => exact htail
    | false =>
      obtain ⟨hc, hq, -⟩ := isSpecial_eq_false.1 (h.head hm)
      simpa [isWordText_char hc, hq] using htail

theorem stripEscapes_escapeAt (h : MarksSpecial marked s) : stripEscapes (s.escapeAt marked) = some s := by
  induction s generalizing marked with
  | nil => rfl
  | cons c s ih =>
    have htail := ih h.tail
    rw [escapeAt]
    cases hm : marked 0 with
    | true => simp [stripEscapes, htail]
    | false =>
      obtain ⟨hc, -, hmeta⟩ := isSpecial_eq_false.1 (h.head hm)
      have hmeta : c ∉ metacharacters := by simpa using hmeta
      simp [stripEscapes, hc, htail, hmeta]

/-- What the first character of an escaped text can be: a backslash, or a character that needs none. -/
theorem escapeAt_head (marked : Nat → Bool) (hs : s ≠ []) :
    ∃ c t, s.escapeAt marked = c :: t ∧ (c = '\\' ∨ s[0]? = some c ∧ marked 0 = false) := by
  obtain ⟨c, s, rfl⟩ := List.exists_cons_of_ne_nil hs
  cases hm : marked 0 with
  | true => exact ⟨'\\', _, by rw [escapeAt, hm]; rfl, .inl rfl⟩
  | false => exact ⟨c, _, by rw [escapeAt, hm]; rfl, .inr ⟨rfl, rfl⟩⟩

end Text

/-- The escaped text as a word. -/
theorem Node.isCanonical_escapeAt {s : Text} {marked : Nat → Bool} (hs : s ≠ []) (h : s.MarksSpecial marked)
    (hvar : s.head? = some '$' → marked 0) : (word (s.escapeAt marked)).IsCanonical := by
  obtain ⟨c, t, hhead, hc⟩ := Text.escapeAt_head marked hs
  refine ⟨by simp [hhead], ?_, Text.isWordText_escapeAt h⟩
  rw [hhead, List.head?_cons]
  rintro ⟨⟩
  obtain hc | ⟨hc, hm⟩ := hc
  · cases hc
  · rw [hvar (by rwa [List.head?_eq_getElem?])] at hm
    cases hm

namespace Command

/-- A text with a backslash before each special character, a `$` in front of all, and whatever else: it
is read as one argument that is one bare word, and this expands to the text and nothing else. Without a
special character no backslash is needed. -/
theorem read_escapeAt {s : Text} {marked : Nat → Bool} (hs : s ≠ []) (h : s.MarksSpecial marked)
    (hvar : s.head? = some '$' → marked 0) :
    read (s.escapeAt marked) = .ok ⟨[⟨[.word (s.escapeAt marked)]⟩]⟩ ∧
      (∀ (here : Place) (lookup : Text → Text),
        Command.expand here lookup ⟨[⟨[.word (s.escapeAt marked)]⟩]⟩ = .ok [s]) ∧
      ((∀ i, marked i = false) → s.escapeAt marked = s) := by
  have hword := Node.isCanonical_escapeAt hs h hvar
  have hcan : (Command.mk [⟨[.word (s.escapeAt marked)]⟩]).IsCanonical :=
    ⟨by simp, by simpa using hword, by simp, by simp⟩
  refine ⟨?_, fun here lookup => ?_, fun hnone => ?_⟩
  · have hread := hcan.read_render
    simpa [render, renderArgs, List.intercalate, Arg.render, Node.renderAll, Node.render] using hread
  · have hexpand : expandWord here (s.escapeAt marked) = .ok [s] := by
      rw [expandWord, Text.stripEscapes_escapeAt h]
    simp [Command.expand, expandArgs, Arg.expand, Node.expandAll, Node.expand, hexpand]
  · rw [show marked = fun _ => false from funext hnone, Text.escapeAt_none]

/-- A text of special characters, with a backslash also where none is needed. -/
theorem read_escapeAt_hostile :
    Text.escapeAt (fun i => i != 1) "$a *'b".toList = "\\$a\\ \\*\\'\\b".toList ∧
      read "\\$a\\ \\*\\'\\b".toList = .ok ⟨[⟨[.word "\\$a\\ \\*\\'\\b".toList]⟩]⟩ ∧
      ∀ (here : Place) (lookup : Text → Text),
        Command.expand here lookup ⟨[⟨[.word "\\$a\\ \\*\\'\\b".toList]⟩]⟩ = .ok ["$a *'b".toList] := by
  have hmarks : Text.MarksSpecial (fun i => i != 1) "$a *'b".toList := by
    rintro i c hc hspecial
    refine bne_iff_ne.2 ?_
    rintro rfl
    obtain rfl : 'a' = c := Option.some.inj hc
    exact absurd hspecial (by decide)
  obtain ⟨hread, hexpand, -⟩ := read_escapeAt (s := "$a *'b".toList) (List.cons_ne_nil _ _) hmarks (fun _ => rfl)
  exact ⟨rfl, hread, hexpand⟩

end Command

end WrapShell
