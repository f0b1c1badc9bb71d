import WrapShell.Text.Utf8
/-!
# Tokens of a YAML text

The units that a YAML text is cut into, each with the place it comes from, and the errors that
a text or a value read from it can have.
-/

namespace WrapShell.Yaml

/-- A place in a text. All numbers start at zero. -/
structure Mark where
  /-- The bytes before it. -/
  index : Nat
  line : Nat
  column : Nat
  deriving DecidableEq, Repr, Inhabited

/-- The beginning of a text. -/
def Mark.origin : Mark := ⟨0, 0, 0⟩

def Mark.isOrigin (m : Mark) : Bool := m.line == 0 && m.column == 0

/-- Characters that end a line. -/
def isBreak (c : Char) : Bool :=
  c == '\n' || c == '\r' || c == '\u0085' || c == '\u2028' || c == '\u2029'

/-- The text with one character for each line end: a carriage return stands for itself and the
newline behind it, and one without is a newline. -/
def joinBreaks : Text → Text
  | '\r' :: '\n' :: t => '\r' :: joinBreaks t
  | '\r' :: t => '\n' :: joinBreaks t
  | c :: t => c :: joinBreaks t
  | [] => []

/-- The bytes of a character of a text with joined line ends. -/
def width (c : Char) : Nat := if c = '\r' then 2 else c.utf8Size

/-- What a line end stands for inside a scalar: a newline, unless it has a character of its own. -/
def lineEnd (c : Char) : Char := if c = '\r' || c = '\u0085' then '\n' else c

def isSpace (c : Char) : Bool := c == ' ' || c == '\t'

/-- The place behind a character. -/
def Mark.step (m : Mark) (c : Char) : Mark :=
  if isBreak c then ⟨m.index + width c, m.line + 1, 0⟩ else ⟨m.index + width c, m.line, m.column + 1⟩

/-- The start of the line after a place, unless a line starts there. -/
def Mark.nextLine (m : Mark) : Mark := if m.column = 0 then m else ⟨m.index, m.line + 1, 0⟩

/-- The place behind a text. -/
def Mark.advance (m : Mark) (t : Text) : Mark := t.foldl Mark.step m

@[simp] theorem Mark.advance_nil (m : Mark) : m.advance [] = m := rfl

@[simp] theorem Mark.advance_cons (m : Mark) (c : Char) (t : Text) : m.advance (c :: t) = (m.step c).advance t := rfl

@[simp] theorem Mark.advance_append (m : Mark) (s t : Text) : m.advance (s ++ t) = (m.advance s).advance t :=
  List.foldl_append

theorem Mark.column_step {c : Char} (h : isBreak c = false) (m : Mark) : (m.step c).column = m.column + 1 := by
  simp [Mark.step, h]

theorem Mark.column_step_break {c : Char} (h : isBreak c) (m : Mark) : (m.step c).column = 0 := by
  simp [Mark.step, h]

theorem Mark.step_inside {c : Char} (h : isBreak c = false) (m : Mark) :
    m.step c = ⟨m.index + c.utf8Size, m.line, m.column + 1⟩ := by
  have hc : c ≠ '\r' := by
    rintro rfl
    cases h
  simp [Mark.step, h, width, hc]

/-- Inside a line, the index counts bytes. -/
theorem Mark.index_advance {t : Text} (h : ∀ c ∈ t, isBreak c = false) (m : Mark) :
    (m.advance t).index = m.index + Text.utf8Size t ∧ (m.advance t).line = m.line := by
  induction t generalizing m with
  | nil => exact ⟨rfl, rfl⟩
  | cons c t ih =>
    rw [advance_cons, step_inside (h c List.mem_cons_self)]
    obtain ⟨hindex, hline⟩ := ih (fun d hd => h d (List.mem_cons_of_mem c hd)) ⟨m.index + c.utf8Size, m.line, m.column + 1⟩
    exact ⟨by rw [hindex, Text.utf8Size_cons, Nat.add_assoc], hline⟩

/-- Inside a line, columns count characters. -/
theorem Mark.column_advance {t : Text} (h : ∀ c ∈ t, isBreak c = false) (m : Mark) :
    (m.advance t).column = m.column + t.length := by
  induction t generalizing m with
  | nil => rfl
  | cons c t ih =>
    rw [advance_cons, ih (fun d hd => h d (List.mem_cons_of_mem c hd)), column_step (h c List.mem_cons_self),
      List.length_cons]
    omega

/-- The wording of a place. -/
def Mark.text (m : Mark) : Text :=
  if m.isOrigin then "position " ++ Text.ofNat m.index
  else "line " ++ Text.ofNat (m.line + 1) ++ " column " ++ Text.ofNat (m.column + 1)

/-- Why a text is no YAML, or not the value that was asked for. -/
inductive Error where
  /-- A control character, that many bytes into the text. -/
  | character (offset : Nat)
  /-- A token or an event is not where it may be; the context says what was being read. -/
  | malformed (problem : Text) (mark : Mark) (context : Option (Text × Mark))
  | unknownAnchor (mark : Mark)
  /-- Nothing is left where a value is needed. -/
  | endOfStream
  | moreThanOneDocument
  | tooDeep (mark : Mark)
  /-- Aliases are followed over and over. -/
  | tooManyAliases
  /-- A value of another kind than asked for, at a path inside the document. -/
  | value (message : Text) (mark : Mark) (path : Text)
  deriving DecidableEq, Repr

namespace Error

/-- The wording of a place after a message; the beginning of the text is not worth one. -/
def place (m : Mark) : Text := if m.isOrigin then [] else " at " ++ m.text

/-- The wording of an error. -/
def message : Error → Text
  | .character 0 => "control characters are not allowed"
  | .character offset => "control characters are not allowed at position " ++ Text.ofNat offset
  | .malformed problem mark none => problem ++ place mark
  | .malformed problem mark (some (context, origin)) =>
    problem ++ place mark ++ ", " ++ context ++
      (if origin.line = mark.line && origin.column = mark.column then [] else place origin)
  | .unknownAnchor mark => "unknown anchor" ++ place mark
  | .endOfStream => "EOF while parsing a value"
  | .moreThanOneDocument => "deserializing from YAML containing more than one document is not supported"
  | .tooManyAliases => "repetition limit exceeded"
  | .tooDeep mark => "recursion limit exceeded" ++ place mark
  | .value message mark ['.'] => message ++ place mark
  | .value message mark path => path ++ ": " ++ message ++ place mark

end Error

/-- How a scalar is written. -/
inductive Style where
  | plain
  | singleQuoted
  | doubleQuoted
  | literal
  | folded
  deriving DecidableEq, Repr

/-- What a token is. -/
inductive TokenKind where
  | streamStart
  | streamEnd
  | versionDirective (major minor : Nat)
  | tagDirective (handle : Text) (start : Bytes)
  | documentStart
  | documentEnd
  | blockSequenceStart
  | blockMappingStart
  | blockEnd
  | flowSequenceStart
  | flowSequenceEnd
  | flowMappingStart
  | flowMappingEnd
  | blockEntry
  | flowEntry
  | key
  | value
  | alias (name : Text)
  | anchor (name : Text)
  | tag (handle : Text) (suffix : Bytes)
  | scalar (text : Text) (style : Style)
  deriving DecidableEq, Repr

/-- A token and where it starts and stops. -/
structure Token where
  kind : TokenKind
  start : Mark
  stop : Mark
  deriving DecidableEq, Repr

/-- A text that is still to be read, and where it starts. -/
structure Cursor where
  mark : Mark
  rest : Text
  deriving Repr

namespace Cursor

/-- The cursor behind the next `n` characters. -/
def skip (c : Cursor) (n : Nat) : Cursor := ⟨c.mark.advance (c.rest.take n), c.rest.drop n⟩

/-- The characters up to the first that does not satisfy `p`, and the cursor there. -/
def span (c : Cursor) (p : Char → Bool) : Text × Cursor :=
  (c.rest.takeWhile p, ⟨c.mark.advance (c.rest.takeWhile p), c.rest.dropWhile p⟩)

/-- The cursor at the first character that does not satisfy `p`. -/
def skipWhile (c : Cursor) (p : Char → Bool) : Cursor := (c.span p).2

theorem span_append {m : Mark} {s t : Text} {p : Char → Bool} (hs : ∀ c ∈ s, p c) (ht : ∀ c ∈ t.head?, p c = false) :
    (Cursor.mk m (s ++ t)).span p = (s, ⟨m.advance s, t⟩) := by
  rw [span, List.takeWhile_append_of_pos hs, List.dropWhile_append_of_pos hs]
  cases t with
  | nil => simp
  | cons c t => simp [ht c rfl]

/-- Whether the character `n` places ahead is a space, a tab, a line end or the end. -/
def blankAt (c : Cursor) (n : Nat) : Bool :=
  match c.rest.drop n with
  | [] => true
  | x :: _ => isSpace x || isBreak x

/-- Whether the line is at its end. -/
def atLineEnd (c : Cursor) : Bool :=
  match c.rest with
  | [] => true
  | x :: _ => isBreak x

/-- Whether a marker of a document's start or end stands here, alone at the start of a line. -/
def atDocumentMark (c : Cursor) : Bool :=
  c.mark.column == 0 && (c.rest.take 3 == ['-', '-', '-'] || c.rest.take 3 == ['.', '.', '.']) && c.blankAt 3

/-- Markers stand at the start of a line only. -/
theorem atDocumentMark_inside {m : Mark} (h : 0 < m.column) (t : Text) : (Cursor.mk m t).atDocumentMark = false := by
  simp [atDocumentMark, Nat.ne_of_gt h]

end Cursor

/-- The characters that a text may hold. -/
def isAllowed (c : Char) : Bool :=
  let n := c.toNat
  n == 9 || n == 10 || n == 13 || (0x20 ≤ n && n ≤ 0x7E) || n == 0x85 || (0xA0 ≤ n && n ≤ 0xFFFD) || 0x10000 ≤ n

end WrapShell.Yaml
