import WrapShell.Proofs.Glob.Word
import WrapShell.Proofs.Line.Literal
import WrapShell.Proofs.Line.Value
/-!
# Arguments that stand for one text

Every node but a pattern stands for one text (`exists_expand`). Nodes that stand for the same text everywhere, with a
space between two of them, are a line that expands to these texts (`read_standing`). Every text has such a node
(`standsFor_asArgument`).
-/

namespace WrapShell

/-! ## Nodes that are no patterns -/

namespace Node

/-- A bare word with a live metacharacter. Nothing else is matched against the files. -/
def isPattern : Node → Bool
  | .word v => !v.escapes (fun c => !metacharacters.contains c) (fun _ => true) true
  | _ => false

variable {n : Node}

theorem isPattern_word {v : Text} : (word v).isPattern = false ↔ ∃ s, stripEscapes v = some s := by
  rw [← Option.ne_none_iff_exists', ne_eq, stripEscapes_eq_none_iff, isPattern, Bool.not_eq_eq_eq_not, Bool.not_false,
    Bool.not_eq_false]

theorem exists_word_of_isPattern (h : n.isPattern) : ∃ w, n = word w ∧ stripEscapes w = none := by
  cases n with
  | word w =>
    refine ⟨w, rfl, ?_⟩
    by_contra hstrip
    rw [isPattern_word.2 (Option.ne_none_iff_exists'.1 hstrip)] at h
    cases h
  | quoted | single | double | var => cases h

/-- A pattern stands for the strings of the paths that it finds. -/
theorem expand_pattern {here : Place} {look : Text → Text} {w : Text} {ss : List Text} (hlive : stripEscapes w = none) :
    (word w).expand here look = .ok ss ↔ ∃ found, matchWord here w = .ok found ∧ ss = found.map quoteSpaced := by
  rw [expand, expandWord, hlive]
  dsimp only
  cases matchWord here w with
  | error => simp [Except.map]
  | ok found => simp [Except.map, eq_comm]

/-- A node that is no pattern stands for one string, and the files have no say in it. -/
theorem IsCanonical.exists_expand (h : n.IsCanonical) (hp : n.isPattern = false) (look : Text → Text) :
    ∃ s, ∀ here, n.expand here look = .ok [s] := by
  cases n with
  | quoted => exact h.elim
  | single v => exact ⟨v, fun _ => rfl⟩
  | var name => exact ⟨look name, fun _ => rfl⟩
  | double children => exact ⟨spliced look children, fun here => by rw [expand, splice_children h.1]; rfl⟩
  | word v =>
    obtain ⟨s, hs⟩ := isPattern_word.1 hp
    exact ⟨s, fun here => by rw [expand, expandWord, hs]⟩

end Node

/-! ## Nodes for given texts -/

/-- The node may stand anywhere in a line, and gives the text and nothing else, whatever the variables and the
files are. -/
structure Node.StandsFor (n : Node) (t : Text) : Prop where
  canonical : n.IsCanonical
  closed : n.IsClosed
  expand : ∀ here lookup, n.expand here lookup = .ok [t]

namespace Text

variable {s : Text} {marked : Nat → Bool}

/-- In an escaped text every backslash takes a character along. -/
theorem dangles_escapeAt (h : MarksSpecial marked s) : (s.escapeAt marked).dangles = false := by
  induction s generalizing marked with
  | nil => rfl
  | cons c s ih =>
    have htail := ih h.tail
    rw [escapeAt]
    cases hm : marked 0 with
    | true => exact dangles_pair.trans htail
    | false =>
      obtain ⟨hc, -, -⟩ := isSpecial_eq_false.1 (h.head hm)
      exact (dangles_char hc).trans htail

/-- A text as one argument of a line: a backslash before each character, or an empty quote. -/
def asArgument (t : Text) : Text := if t = [] then ['\'', '\''] else t.escapeAt fun _ => true

end Text

namespace Node

theorem standsFor_escapeAt {s : Text} {marked : Nat → Bool} (hs : s ≠ []) (h : s.MarksSpecial marked)
    (hvar : s.head? = some '$' → marked 0) : (word (s.escapeAt marked)).StandsFor s where
  canonical := isCanonical_escapeAt hs h hvar
  closed := Text.escapes_false_iff.2 ⟨Text.isWordText_escapeAt h, Text.dangles_escapeAt h⟩
  expand here lookup := by rw [expand, expandWord, Text.stripEscapes_escapeAt h]

theorem standsFor_asArgument (t : Text) : ∃ n : Node, n.StandsFor t ∧ n.render = t.asArgument := by
  by_cases ht : t = []
  · subst ht
    exact ⟨single [], ⟨rfl, trivial, fun _ _ => rfl⟩, rfl⟩
  · have hmarks : t.MarksSpecial fun _ => true := fun _ _ _ _ => rfl
    refine ⟨_, standsFor_escapeAt ht hmarks fun _ => rfl, ?_⟩
    rw [render, Text.asArgument, if_neg ht]

/-- A text without a double quote, a `$` and a backslash stands in a double quote as it is. -/
theorem isChild_quoted {t : Text} (ht : t ≠ []) (h : ∀ c ∈ t, c ≠ '"' ∧ c ≠ '$' ∧ c ≠ '\\') :
    (quoted t).IsChild ∧ (quoted t).render = t := by
  suffices t.escapes (· != '$') (· != '"') false ∧ escaping '"' t = t from ⟨⟨ht, this.1⟩, this.2⟩
  clear ht
  induction t with
  | nil => exact ⟨rfl, rfl⟩
  | cons c t ih =>
    obtain ⟨⟨hquote, hvar, hback⟩, h⟩ := List.forall_mem_cons.1 h
    obtain ⟨hescapes, hescaping⟩ := ih h
    exact ⟨by simp [Text.escapes_char hback, hvar, hescapes], by rw [escaping_cons_ne hquote, hescaping]⟩

/-- Texts as arguments one after the other. -/
theorem exists_standing (ts : List Text) : ∃ ns : List Node, List.Forall₂ StandsFor ns ts ∧ ns.map render = ts.map Text.asArgument := by
  induction ts with
  | nil => exact ⟨[], .nil, rfl⟩
  | cons t ts ih =>
    obtain ⟨n, hn, hrender⟩ := standsFor_asArgument t
    obtain ⟨ns, hns, hrenders⟩ := ih
    exact ⟨n :: ns, .cons hn hns, by rw [List.map_cons, List.map_cons, hrender, hrenders]⟩

variable {ns : List Node} {ts : List Text}

theorem expandAll_standing (h : List.Forall₂ StandsFor ns ts) (here : Place) (lookup : Text → Text) :
    expandAll here lookup ns = .ok ts := by
  induction h with
  | nil => rfl
  | cons hn _ ih => rw [expandAll, hn.expand, ih]; rfl

end Node

namespace Command

/-- A line of nodes that each are an argument. -/
def ofNodes (ns : List Node) : Command := ⟨ns.map fun n => ⟨[n]⟩⟩

variable {ns : List Node} {ts : List Text}

theorem flatMap_ofNodes (ns : List Node) : (ofNodes ns).args.flatMap Arg.nodes = ns := by
  simp [ofNodes, List.flatMap_map]

theorem render_ofNodes (ns : List Node) : (ofNodes ns).render = List.intercalate [' '] (ns.map Node.render) := by
  simp [ofNodes, render, renderArgs, Arg.render, Node.renderAll, Function.comp_def]

theorem isCanonical_ofNodes (h : ∀ n ∈ ns, n.IsCanonical) (hclosed : ∀ n ∈ ns.dropLast, n.IsClosed) :
    (ofNodes ns).IsCanonical where
  nonempty := by simp [ofNodes]
  nodes := by simpa [ofNodes] using h
  chain := by simp [ofNodes]
  closed := by rwa [flatMap_ofNodes]

/-- Nodes that each stand for a text, with a space between two of them, are read as a line that expands to
these texts. -/
theorem read_standing (h : List.Forall₂ Node.StandsFor ns ts) :
    read (List.intercalate [' '] (ns.map Node.render)) = .ok (ofNodes ns) ∧
      ∀ here lookup, (ofNodes ns).expand here lookup = .ok ts := by
  have hall : ∀ n ∈ ns, n.IsCanonical ∧ n.IsClosed :=
    ((List.forall₂_and_left ns ts).1 (h.imp fun _ _ ht => ⟨⟨ht.canonical, ht.closed⟩, ht⟩)).1
  refine ⟨?_, fun here lookup => ?_⟩
  · rw [← render_ofNodes]
    exact (isCanonical_ofNodes (fun n hn => (hall n hn).1) fun n hn => (hall n (List.dropLast_subset _ hn)).2).read_render
  · rw [expand, expandArgs_eq_expandAll, flatMap_ofNodes]
    exact Node.expandAll_standing h here lookup

end Command

end WrapShell
