import WrapShell.Yaml.Document
import WrapShell.Yaml.Write
import Mathlib.Data.List.Forall2
/-!
# The tree of a sequence of mappings

The tokens of a block sequence of block mappings, with scalars for keys and values, make the
tree that they should (`ofText_records`), whatever the places are that they come from.
-/

namespace WrapShell.Yaml

/-- The tokens of a field with a string as its value. -/
def fieldKinds (f : Text × Text) : List TokenKind :=
  [.key, .scalar f.1 .plain, .value, .scalar f.2 (styleOf f.2)]

/-- The tokens of an entry of a sequence that is a mapping with some fields, up to its end. -/
def entryKinds (fields : List (Text × Text)) : List TokenKind :=
  .blockEntry :: .blockMappingStart :: fields.flatMap fieldKinds

/-- The tokens of such an entry and of the end of its mapping. -/
def recordKinds (fields : List (Text × Text)) : List TokenKind := entryKinds fields ++ [.blockEnd]

/-- The key and the value of a field. -/
def IsField (f : Text × Text) (e : Node × Node) : Prop :=
  ∃ p q, e = (.scalar p f.1 .plain, .scalar q f.2 (styleOf f.2))

/-- A mapping with some fields. -/
def IsRecord (fields : List (Text × Text)) (n : Node) : Prop :=
  ∃ p es, n = .mapping p es ∧ List.Forall₂ IsField fields es

namespace Reader

variable {tokens ts : List Token} {rest : List TokenKind} {ending : Error} {anchors : List (Text × Nat)}
  {handles : List (Text × Bytes)} {fuel : Nat} {start a b : Mark} {t : Text} {style : Style} {block indentless : Bool}
  {ends : List TokenKind}

theorem readNode_scalar : readNode (fuel + 1) block indentless ⟨⟨.scalar t style, a, b⟩ :: ts, ending, anchors, handles⟩ =
    (.scalar ⟨a, none, none⟩ t style, .ok ⟨ts, ending, anchors, handles⟩) := by
  simp [readNode, peek, readProperties, tagName, name, skip]

theorem readUnless_node {kind : TokenKind} (h : kind ∉ ends) (mark : Mark) :
    readUnless (fuel + 1) block indentless ends mark ⟨⟨kind, a, b⟩ :: ts, ending, anchors, handles⟩ =
      readNode fuel block indentless ⟨⟨kind, a, b⟩ :: ts, ending, anchors, handles⟩ := by
  simp [readUnless, peek, isAt, h]

/-- A value of a field, or its key. -/
theorem readUnless_scalar (h : .scalar t style ∉ ends) (mark : Mark) :
    readUnless (fuel + 2) block indentless ends mark ⟨⟨.scalar t style, a, b⟩ :: ts, ending, anchors, handles⟩ =
      (.scalar ⟨a, none, none⟩ t style, .ok ⟨ts, ending, anchors, handles⟩) := by
  rw [readUnless_node h, readNode_scalar]

theorem readBlockEntries_field {s : Text} {style' : Style} {a₁ b₁ a₂ b₂ a₃ b₃ a₄ b₄ : Mark} :
    readBlockEntries (fuel + 3) start ⟨⟨.key, a₁, b₁⟩ :: ⟨.scalar s style, a₂, b₂⟩ :: ⟨.value, a₃, b₃⟩ ::
        ⟨.scalar t style', a₄, b₄⟩ :: ts, ending, anchors, handles⟩ =
      ((.scalar ⟨a₂, none, none⟩ s style, .scalar ⟨a₄, none, none⟩ t style') ::
          (readBlockEntries (fuel + 2) start ⟨ts, ending, anchors, handles⟩).1,
        (readBlockEntries (fuel + 2) start ⟨ts, ending, anchors, handles⟩).2) := by
  have hends (t : Text) (style : Style) : TokenKind.scalar t style ∉ [.key, .value, .blockEnd] := by simp
  rw [readBlockEntries]
  simp only [peek, skip, List.tail_cons, readUnless_scalar (hends _ _), if_true]

theorem readBlockEntries_fields (start : Mark) (ending : Error) (anchors : List (Text × Nat))
    (handles : List (Text × Bytes)) (fields : List (Text × Text))
    (h : tokens.map Token.kind = fields.flatMap fieldKinds ++ .blockEnd :: rest) :
    ∃ es ts, List.Forall₂ IsField fields es ∧ ts.map Token.kind = rest ∧ ∀ fuel, tokens.length + 2 ≤ fuel →
      readBlockEntries fuel start ⟨tokens, ending, anchors, handles⟩ = (es, .ok ⟨ts, ending, anchors, handles⟩) := by
  induction fields generalizing tokens with
  | nil =>
    obtain ⟨⟨_, a, b⟩, ts, rfl, rfl, hts⟩ := List.map_eq_cons_iff.1 h
    refine ⟨[], ts, .nil, hts, fun fuel hfuel => ?_⟩
    obtain ⟨fuel, rfl⟩ : ∃ f, fuel = f + 1 := Nat.exists_eq_succ_of_ne_zero (by omega)
    simp [readBlockEntries, peek, skip]
  | cons f fields ih =>
    simp only [List.flatMap_cons, fieldKinds, List.cons_append, List.nil_append,
      List.map_eq_cons_iff] at h
    obtain ⟨⟨_, a₁, b₁⟩, _, rfl, rfl, ⟨_, a₂, b₂⟩, _, rfl, rfl, ⟨_, a₃, b₃⟩, _, rfl, rfl, ⟨_, a₄, b₄⟩, ts, rfl, rfl, hts⟩ := h
    obtain ⟨es, ts', hes, hts', hread⟩ := ih hts
    refine ⟨(.scalar ⟨a₂, none, none⟩ f.1 .plain, .scalar ⟨a₄, none, none⟩ f.2 (styleOf f.2)) :: es, ts',
      .cons ⟨_, _, rfl⟩ hes, hts', fun fuel hfuel => ?_⟩
    simp only [List.length_cons] at hfuel
    obtain ⟨fuel, rfl⟩ : ∃ f, fuel = f + 3 := ⟨fuel - 3, by omega⟩
    rw [readBlockEntries_field, hread (fuel + 2) (by omega)]

theorem readNode_mapping : readNode (fuel + 1) true indentless ⟨⟨.blockMappingStart, a, b⟩ :: ts, ending, anchors, handles⟩ =
    collect (.mapping ⟨a, none, none⟩) (readBlockEntries fuel a ⟨ts, ending, anchors, handles⟩) := by
  simp only [readNode, peek, readProperties, tagName, name, skip, List.tail_cons]

theorem readNode_sequence : readNode (fuel + 1) true indentless ⟨⟨.blockSequenceStart, a, b⟩ :: ts, ending, anchors, handles⟩ =
    collect (.sequence ⟨a, none, none⟩) (readBlockItems fuel a ⟨ts, ending, anchors, handles⟩) := by
  simp only [readNode, peek, readProperties, tagName, name, skip, List.tail_cons]

theorem readBlockItems_records (start : Mark) (ending : Error) (anchors : List (Text × Nat))
    (handles : List (Text × Bytes)) (records : List (List (Text × Text)))
    (h : tokens.map Token.kind = records.flatMap recordKinds ++ .blockEnd :: rest) :
    ∃ ns ts, List.Forall₂ IsRecord records ns ∧ ts.map Token.kind = rest ∧ ∀ fuel, tokens.length + 3 ≤ fuel →
      readBlockItems fuel start ⟨tokens, ending, anchors, handles⟩ = (ns, .ok ⟨ts, ending, anchors, handles⟩) := by
  induction records generalizing tokens with
  | nil =>
    obtain ⟨⟨_, a, b⟩, ts, rfl, rfl, hts⟩ := List.map_eq_cons_iff.1 h
    refine ⟨[], ts, .nil, hts, fun fuel hfuel => ?_⟩
    obtain ⟨fuel, rfl⟩ : ∃ f, fuel = f + 1 := Nat.exists_eq_succ_of_ne_zero (by omega)
    simp [readBlockItems, peek, skip]
  | cons fields records ih =>
    simp only [List.flatMap_cons, recordKinds, entryKinds, List.cons_append, List.nil_append, List.append_assoc,
      List.map_eq_cons_iff] at h
    obtain ⟨⟨_, a₁, b₁⟩, _, rfl, rfl, ⟨_, a₂, b₂⟩, ts, rfl, rfl, hts⟩ := h
    obtain ⟨es, ts', hes, hts', hread⟩ := readBlockEntries_fields a₂ ending anchors handles fields hts
    obtain ⟨ns, ts'', hns, hts'', hread'⟩ := ih hts'
    refine ⟨.mapping ⟨a₂, none, none⟩ es :: ns, ts'', .cons ⟨_, _, rfl, hes⟩ hns, hts'', fun fuel hfuel => ?_⟩
    have hlength : ts'.length ≤ ts.length := by
      have hlong := congrArg List.length hts
      have hshort := congrArg List.length hts'
      rw [List.length_map] at hlong hshort
      rw [hlong, hshort]
      simp
      omega
    simp only [List.length_cons] at hfuel
    obtain ⟨fuel, rfl⟩ : ∃ f, fuel = f + 3 := ⟨fuel - 3, by omega⟩
    have hmore := hread' (fuel + 2) (by omega)
    rw [readBlockItems]
    simp only [peek, skip, List.tail_cons]
    rw [readUnless_node (by simp), readNode_mapping, hread fuel (by omega)]
    simp only [collect, hmore]

end Reader

/-- A text with these tokens is one document: the sequence, with nothing wrong behind it. -/
theorem Document.ofText_records {text : Text} {tokens : List Token} (records : List (List (Text × Text)))
    (hscan : scan text = (tokens, none)) (h : tokens.map Token.kind =
      .streamStart :: .blockSequenceStart :: (records.flatMap recordKinds ++ [.blockEnd, .streamEnd])) :
    ∃ p ns, ofText text = ⟨.sequence p ns, none⟩ ∧ List.Forall₂ IsRecord records ns := by
  simp only [List.map_eq_cons_iff] at h
  obtain ⟨⟨_, a₁, b₁⟩, _, rfl, rfl, ⟨_, a₂, b₂⟩, ts, rfl, rfl, hts⟩ := h
  obtain ⟨ns, ts', hns, hts', hread⟩ :=
    Reader.readBlockItems_records a₂ .endOfStream [] Reader.standardHandles records hts
  obtain ⟨⟨_, a₃, b₃⟩, _, rfl, rfl, hnone⟩ := List.map_eq_cons_iff.1 hts'
  obtain rfl := List.map_eq_nil_iff.1 hnone
  refine ⟨⟨a₂, none, none⟩, ns, ?_, hns⟩
  have hopening : readOpening ⟨⟨.blockSequenceStart, a₂, b₂⟩ :: ts, .endOfStream, [], []⟩ =
      .ok (false, ⟨⟨.blockSequenceStart, a₂, b₂⟩ :: ts, .endOfStream, [], Reader.standardHandles⟩) := by
    simp [readOpening, readDirectives, Reader.peek]
  have hroot : readRoot false ⟨⟨.blockSequenceStart, a₂, b₂⟩ :: ts, .endOfStream, [], Reader.standardHandles⟩ =
      (.sequence ⟨a₂, none, none⟩ ns, .ok ⟨[⟨.streamEnd, a₃, b₃⟩], .endOfStream, [], Reader.standardHandles⟩) := by
    have hitems := hread (2 * (ts.length + 1) + 7) (by omega)
    rw [readRoot]
    simp only [Reader.peek, Bool.false_and, Bool.false_eq_true, if_false, List.length_cons]
    rw [Reader.readNode_sequence, hitems]
    rfl
  have hdrop : List.dropWhile (fun t : Token => t.kind == .streamStart) (⟨.streamStart, a₁, b₁⟩ ::
      ⟨.blockSequenceStart, a₂, b₂⟩ :: ts) = ⟨.blockSequenceStart, a₂, b₂⟩ :: ts := by simp
  rw [ofText, hscan]
  simp only [hdrop, Option.getD_none, hopening, hroot]
  simp [trailingFault, Reader.peek]

end WrapShell.Yaml
