import WrapShell.Regex.Fault
import WrapShell.Text.Blank
import WrapShell.Text.Alphanumeric
import WrapShell.Number.Integer
/-!
# Reading regular expressions

An expression is read from left to right; the first fault ends it. In the mode that ignores
blanks, blanks and comments may stand between any two parts, even inside an escape.
-/

namespace WrapShell.Regex

/-- What is still to be read, and where it starts. -/
structure Cursor where
  position : Position
  rest : Text
  deriving Repr

namespace Cursor

/-- The cursor behind the next character. -/
def bump (c : Cursor) : Cursor :=
  match c.rest with
  | [] => c
  | x :: t => ⟨c.position.step x, t⟩

def atEnd (c : Cursor) : Bool := c.rest == []

/-- Whether the next character is `x`. -/
def isAt (c : Cursor) (x : Char) : Bool := c.rest.head? == some x

/-- The span of the next character. -/
def charSpan (c : Cursor) : Span := ⟨c.position, c.bump.position⟩

/-- The cursor behind `t`, if that comes next. -/
def after? (c : Cursor) (t : Text) : Option Cursor :=
  (Text.after? t c.rest).map fun rest => ⟨t.foldl Position.step c.position, rest⟩

/-- Skips blanks and comments. -/
def skipBlanks (inComment : Bool) (p : Position) : Text → Cursor
  | [] => ⟨p, []⟩
  | x :: t =>
    if inComment then skipBlanks (x != '\n') (p.step x) t
    else if isBlank x then skipBlanks false (p.step x) t
    else if x = '#' then skipBlanks true (p.step x) t
    else ⟨p, x :: t⟩

/-- Skips blanks and comments where they do not count. -/
def settle (c : Cursor) (blanks : Bool) : Cursor := if blanks then skipBlanks false c.position c.rest else c

/-- The cursor behind the next character and what does not count there. -/
def next (c : Cursor) (blanks : Bool) : Cursor := c.bump.settle blanks

/-- Skips blanks, as they stand around a number in any mode. -/
def skipSpace (c : Cursor) : Cursor :=
  ⟨(c.rest.takeWhile isBlank).foldl Position.step c.position, c.rest.dropWhile isBlank⟩

/-- The character behind the next one, blanks aside. One `#` counts as a blank here. -/
def peek? (c : Cursor) (blanks : Bool) : Option Char :=
  let behind := c.rest.tail
  if !blanks then behind.head?
  else
    let skipped := behind.dropWhile isBlank
    let skipped := match skipped with
      | '#' :: more => more.dropWhile isBlank
      | more => more
    match skipped with
    | [] => behind.head?
    | x :: _ => some x

end Cursor

/-- How the rest of an expression is read: whether blanks count for nothing, and the names of
the groups so far. -/
structure Mode where
  blanks : Bool
  names : List (Text × Span)
  deriving Repr

/-! ## Numbers and escapes -/

/-- The digits of a number, blanks among them aside. -/
def readDigits (blanks : Bool) : Nat → Cursor → Text × Cursor
  | 0, c => ([], c)
  | fuel + 1, c =>
    match c.rest with
    | d :: _ =>
      if d.isDigit then
        let (ds, c) := readDigits blanks fuel (c.next blanks)
        (d :: ds, c)
      else ([], c)
    | [] => ([], c)

/-- Reads a number of 32 bits. -/
def readDecimal (blanks : Bool) (c : Cursor) : Except Fault Nat × Cursor :=
  let start := c.skipSpace
  let (ds, stop) := readDigits blanks start.rest.length start
  let value : Except Fault Nat :=
    match readInteger (.unsigned 32) 10 ds with
    | .ok n => .ok n.toNat
    | .error .empty => .error (fault .repetitionCountDecimalEmpty start.position stop.position)
    | .error _ => .error (fault .decimalInvalid start.position stop.position)
  (value, stop.skipSpace.settle blanks)

/-- The character with a code in hexadecimal digits. -/
def hexChar? (digits : Text) : Option Char :=
  match readInteger (.unsigned 32) 16 digits with
  | .ok n => if h : n.toNat.isValidChar then some (Char.ofNatAux n.toNat h) else none
  | .error _ => none

def isHexDigit (c : Char) : Bool := (digitValue? 16 c).isSome

/-- Reads a given number of hexadecimal digits; the cursor stands at the first. -/
def readFixedHex (blanks : Bool) : Nat → Cursor → Except Fault (Text × Cursor)
  | 0, c => .ok ([], c)
  | n + 1, c =>
    match c.rest with
    | [] => .error (fault .escapeUnexpectedEnd c.position c.position)
    | d :: _ =>
      if isHexDigit d then (readFixedHex blanks n (c.next blanks)).map fun (ds, c) => (d :: ds, c)
      else .error ⟨.escapeHexInvalidDigit, c.charSpan, none⟩

/-- Reads what stands before a closing brace, each character satisfying `p`. The number bounds
the characters. -/
def readBraced (blanks : Bool) (p : Char → Bool) (kind : FaultKind) : Nat → Cursor → Except Fault (Text × Cursor)
  | 0, c => .ok ([], c)
  | fuel + 1, c =>
    match c.rest with
    | [] | '\x7d' :: _ => .ok ([], c)
    | d :: _ =>
      if p d then (readBraced blanks p kind fuel (c.next blanks)).map fun (ds, c) => (d :: ds, c)
      else .error ⟨kind, c.charSpan, none⟩

/-- Reads the code of a character behind `\x`, `\u` or `\U`. -/
def readHex (blanks : Bool) (start : Position) (c : Cursor) : Except Fault (Term × Cursor) :=
  let length := if c.isAt 'x' then 2 else if c.isAt 'u' then 4 else 8
  let byte := c.isAt 'x'
  let c := c.next blanks
  if c.atEnd then .error (fault .escapeUnexpectedEnd c.position c.position)
  else if c.isAt '\x7b' then
    match readBraced blanks isHexDigit .escapeHexInvalidDigit c.rest.length (c.next blanks) with
    | .error e => .error e
    | .ok (digits, stop) =>
      if stop.atEnd then .error (fault .escapeUnexpectedEnd c.position stop.position)
      else
        let behind := stop.next blanks
        if digits = [] then .error (fault .escapeHexEmpty c.position behind.position)
        else
          match hexChar? digits with
          | some x => .ok (.literal ⟨⟨start, behind.position⟩, x, false⟩, behind)
          | none => .error (fault .escapeHexInvalid c.bump.position stop.position)
  else
    match readFixedHex blanks length c with
    | .error e => .error e
    | .ok (digits, behind) =>
      match hexChar? digits with
      | some x => .ok (.literal ⟨⟨start, behind.position⟩, x, byte⟩, behind)
      | none => .error (fault .escapeHexInvalid c.position behind.position)

/-- A property as it is written: its name, perhaps a value, and whether the two are put apart
by `!=`. -/
def splitProperty (t : Text) : Text × Option Text × Bool :=
  let apart (sep : Text) : Option (Text × Text) :=
    (List.range t.length).findSome? fun i => (Text.after? sep (t.drop i)).map fun value => (t.take i, value)
  match apart ['!', '='], apart [':'], apart ['='] with
  | some (n, v), _, _ => (n, some v, true)
  | none, some (n, v), _ => (n, some v, false)
  | none, none, some (n, v) => (n, some v, false)
  | none, none, none => (t, none, false)

/-- Reads the class of a Unicode property behind its backslash. -/
def readProperty (blanks : Bool) (start : Position) (c : Cursor) : Except Fault (Term × Cursor) :=
  let negated := c.isAt 'P'
  let c := c.next blanks
  match c.rest with
  | [] => .error (fault .escapeUnexpectedEnd c.position c.position)
  | '\x7b' :: _ =>
    match readBraced blanks (fun _ => true) .unicodeClassInvalid c.rest.length (c.next blanks) with
    | .error e => .error e
    | .ok (content, stop) =>
      if stop.atEnd then .error (fault .escapeUnexpectedEnd stop.position stop.position)
      else
        let (name, value, differs) := splitProperty content
        let behind := stop.bump
        .ok (.property ⟨start, behind.position⟩ (negated != differs) name value, behind)
  | '\\' :: _ => .error ⟨.unicodeClassInvalid, c.charSpan, none⟩
  | x :: _ =>
    let behind := c.next blanks
    .ok (.property ⟨start, behind.position⟩ negated [x] none, behind)

/-- Reads the name of a special word boundary in braces. A brace with anything but a letter
behind it starts a repetition instead. -/
def readBoundaryName (blanks : Bool) (start : Position) (c : Cursor) : Except Fault (Option (Assertion × Cursor)) :=
  let isNameChar (x : Char) : Bool := x.isAlpha || x == '-'
  let inner := c.next blanks
  match inner.rest with
  | [] => .error (fault .wordBoundaryUnexpectedEnd start inner.position)
  | x :: _ =>
    if !isNameChar x then .ok none
    else
      let (name, stop) := readName isNameChar inner.rest.length inner
      if !stop.isAt '\x7d' then .error (fault .wordBoundaryUnclosed c.position stop.position)
      else
        let names : List (Text × Assertion) :=
          [("start", .wordStart), ("end", .wordEnd), ("start-half", .wordStartHalf), ("end-half", .wordEndHalf)]
        match names.lookup name with
        | some a => .ok (some (a, stop.bump))
        | none => .error (fault .wordBoundaryUnrecognized inner.position stop.position)
where
  /-- The characters of a name. -/
  readName (isNameChar : Char → Bool) : Nat → Cursor → Text × Cursor
    | 0, c => ([], c)
    | fuel + 1, c =>
      match c.rest with
      | x :: _ =>
        if isNameChar x then
          let (name, c) := readName isNameChar fuel (c.next blanks)
          (x :: name, c)
        else ([], c)
      | [] => ([], c)

/-- The characters with a meaning of their own: escaped, they stand for themselves. -/
def metaCharacters : List Char := "\\.+*?()|[]\x7b\x7d^$#&-~".toList

/-- Whether a character may be escaped without need. -/
def isEscapable (c : Char) : Bool :=
  metaCharacters.contains c || (c.toNat < 128 && !c.isAlphanum && c != '<' && c != '>')

/-- The characters that escapes of one letter stand for. -/
def controlEscape? : Char → Option Char
  | 'a' => some '\x07'
  | 'f' => some '\x0c'
  | 't' => some '\t'
  | 'n' => some '\n'
  | 'r' => some '\r'
  | 'v' => some '\x0b'
  | _ => none

/-- The assertions that are written as a letter behind a backslash. -/
def assertionEscape? : Char → Option Assertion
  | 'A' => some .textStart
  | 'z' => some .textEnd
  | 'B' => some .notWordBoundary
  | '<' => some .wordStart
  | '>' => some .wordEnd
  | _ => none

/-- The classes that are written as a letter behind a backslash. -/
def shorthandEscape? (x : Char) : Option (Shorthand × Bool) :=
  match x.toLower with
  | 'd' => some (.digit, x.isUpper)
  | 's' => some (.space, x.isUpper)
  | 'w' => some (.word, x.isUpper)
  | _ => none

/-- Reads an escape. -/
def readEscape (blanks : Bool) (c : Cursor) : Except Fault (Term × Cursor) :=
  let start := c.position
  let c := c.bump
  match c.rest with
  | [] => .error (fault .escapeUnexpectedEnd start c.position)
  | x :: _ =>
    let behind := c.bump
    let s : Span := ⟨start, behind.position⟩
    if x.isDigit then .error ⟨.backreference, s, none⟩
    else if x = 'x' || x = 'u' || x = 'U' then readHex blanks start c
    else if x = 'p' || x = 'P' then readProperty blanks start c
    else
      match shorthandEscape? x, controlEscape? x, assertionEscape? x with
      | some (k, negated), _, _ => .ok (.shorthand s k negated, behind)
      | none, some y, _ => .ok (.literal ⟨s, y, false⟩, behind)
      | none, none, some a => .ok (.assertion s a, behind)
      | none, none, none =>
        if isEscapable x then .ok (.literal ⟨s, x, false⟩, behind)
        else if x = 'b' then
          if behind.isAt '\x7b' then
            match readBoundaryName blanks start behind with
            | .error e => .error e
            | .ok (some (a, behind)) => .ok (.assertion ⟨start, behind.position⟩ a, behind)
            | .ok none => .ok (.assertion s .wordBoundary, behind)
          else .ok (.assertion s .wordBoundary, behind)
        else .error ⟨.escapeUnrecognized, s, none⟩

/-! ## Classes -/

/-- The items of a class as one term. -/
def unionOf (s : Span) : List Term → Term
  | [] => .empty s
  | [one] => one
  | first :: more => .union ⟨first.span.start, ((first :: more).getLast?.getD first).span.stop⟩ (first :: more)

/-- Adds the set read last to what stands before an operator. -/
def combine (left : Option (Term × SetOperation)) (right : Term) : Term :=
  match left with
  | none => right
  | some (l, op) => .combined ⟨l.span.start, right.span.stop⟩ op l right

/-- A named class `[:name:]` inside brackets, if there is one here. -/
def readAscii? (c : Cursor) : Option (Term × Cursor) :=
  match c.after? ['[', ':'] with
  | none => none
  | some inner =>
    let (negated, inner) := match inner.after? ['^'] with
      | some inner => (true, inner)
      | none => (false, inner)
    let name := inner.rest.takeWhile (· != ':')
    match (inner.after? name).bind (·.after? [':', ']']), AsciiClass.names.lookup name with
    | some behind, some k => some (.ascii ⟨c.position, behind.position⟩ k negated, behind)
    | _, _ => none

/-- Reads one character or class inside brackets. -/
def readClassItem (blanks : Bool) (c : Cursor) : Except Fault (Term × Cursor) :=
  match c.rest with
  | '\\' :: _ => readEscape blanks c
  | x :: _ => .ok (.literal ⟨c.charSpan, x, false⟩, c.bump)
  | [] => .ok (.empty c.charSpan, c)

/-- The character that a term inside brackets is, as an end of a range. -/
def boundary (t : Term) : Except Fault Literal :=
  match t with
  | .literal l => .ok l
  | t => .error ⟨.classRangeLiteral, t.span, none⟩

/-- Reads a character, a class or a range inside brackets that were opened at `opened`. -/
def readClassRange (blanks : Bool) (opened : Span) (c : Cursor) : Except Fault (Term × Cursor) :=
  match readClassItem blanks c with
  | .error e => .error e
  | .ok (first, c) =>
    let c := c.settle blanks
    if c.atEnd then .error ⟨.classUnclosed, opened, none⟩
    else if !c.isAt '-' || c.peek? blanks == some ']' || c.peek? blanks == some '-' then
      match first with
      | .assertion s _ => .error ⟨.classEscapeInvalid, s, none⟩
      | first => .ok (first, c)
    else
      let c := c.next blanks
      if c.atEnd then .error ⟨.classUnclosed, opened, none⟩
      else
        match readClassItem blanks c with
        | .error e => .error e
        | .ok (last, c) =>
          let s : Span := ⟨first.span.start, last.span.stop⟩
          match boundary first, boundary last with
          | .error e, _ => .error e
          | _, .error e => .error e
          | .ok a, .ok b =>
            if a.char ≤ b.char then .ok (.range s a b, c) else .error ⟨.classRangeInvalid, s, none⟩

/-- Reads dashes that open a class; they stand for themselves. The number bounds them. -/
def readDashes (blanks : Bool) (start : Position) : Nat → Cursor → Except Fault (List Term × Cursor)
  | 0, c => .ok ([], c)
  | fuel + 1, c =>
    if c.isAt '-' then
      let behind := c.next blanks
      if behind.atEnd then .error (fault .classUnclosed start start)
      else (readDashes blanks start fuel behind).map fun (ts, c') => (.literal ⟨c.charSpan, '-', false⟩ :: ts, c')
    else .ok ([], c)

/-- What a class opens with: whether it is negated, and characters that only stand for
themselves in this place. -/
def readClassStart (blanks : Bool) (c : Cursor) : Except Fault (Bool × List Term × Cursor) :=
  let start := c.position
  let unclosed (c : Cursor) : Fault := fault .classUnclosed start c.position
  let c := c.next blanks
  if c.atEnd then .error (unclosed c)
  else
    let negated := c.isAt '^'
    let c := if negated then c.next blanks else c
    if c.atEnd then .error (unclosed c)
    else
      match readDashes blanks start c.rest.length c with
      | .error e => .error e
      | .ok (dashes, c) =>
        if dashes = [] && c.isAt ']' then
          let behind := c.next blanks
          if behind.atEnd then .error (unclosed behind)
          else .ok (negated, [.literal ⟨c.charSpan, ']', false⟩], behind)
        else .ok (negated, dashes, c)

/-- Reads the inside of a class up to its closing bracket. `items` are those read last, the
last one first. The number bounds the parts. -/
def readClassBody (blanks : Bool) (fuel : Nat) (opened : Span) (left : Option (Term × SetOperation))
    (items : List Term) (c : Cursor) : Except Fault (Term × Cursor) :=
  match fuel with
  | 0 => .error ⟨.classUnclosed, opened, none⟩
  | fuel + 1 =>
    let c := c.settle blanks
    let here : Span := ⟨c.position, c.position⟩
    let add (t : Term) (c : Cursor) := readClassBody blanks fuel opened left (t :: items) c
    let operator (op : SetOperation) :=
      readClassBody blanks fuel opened (some (combine left (unionOf here items.reverse), op)) [] c.bump.bump
    match c.rest with
    | [] => .error ⟨.classUnclosed, opened, none⟩
    | ']' :: _ => .ok (combine left (unionOf here items.reverse), c.bump)
    | '&' :: '&' :: _ => operator .intersection
    | '-' :: '-' :: _ => operator .difference
    | '~' :: '~' :: _ => operator .symmetricDifference
    | '[' :: _ =>
      match readAscii? c with
      | some (t, behind) => add t behind
      | none =>
        match readClassStart blanks c with
        | .error e => .error e
        | .ok (negated, starts, inner) =>
          match readClassBody blanks fuel ⟨c.position, inner.position⟩ none starts.reverse inner with
          | .error e => .error e
          | .ok (set, behind) => add (.bracketed ⟨c.position, behind.position⟩ negated set) behind
    | _ =>
      match readClassRange blanks opened c with
      | .error e => .error e
      | .ok (t, behind) => add t behind

/-- Reads a class in brackets. -/
def readClass (blanks : Bool) (c : Cursor) : Except Fault (Term × Cursor) :=
  match readClassStart blanks c with
  | .error e => .error e
  | .ok (negated, starts, inner) =>
    match readClassBody blanks (c.rest.length + 1) ⟨c.position, inner.position⟩ none starts.reverse inner with
    | .error e => .error e
    | .ok (set, behind) => .ok (.bracketed ⟨c.position, behind.position⟩ negated set, behind)

/-! ## Groups and repetitions -/

/-- Reads flags up to `:` or `)`. `items` are those so far, with their spans. -/
def readFlags (items : List (Option Flag × Span)) : Nat → Cursor → Except Fault (FlagItems × Cursor)
  | 0, c => .error (fault .flagUnexpectedEnd c.position c.position)
  | fuel + 1, c =>
    match c.rest with
    | [] => .error (fault .flagUnexpectedEnd c.position c.position)
    | x :: _ =>
      if x = ':' || x = ')' then
        match items.getLast? with
        | some (none, s) => .error ⟨.flagDanglingNegation, s, none⟩
        | _ => .ok (items.map Prod.fst, c)
      else
        let item : Option (Option Flag) := if x = '-' then some none else (Flag.ofChar? x).map some
        match item with
        | none => .error ⟨.flagUnrecognized, c.charSpan, none⟩
        | some item =>
          match items.lookup item with
          | some before =>
            .error ⟨if item.isNone then .flagRepeatedNegation else .flagDuplicate, c.charSpan, some before⟩
          | none =>
            if c.bump.atEnd then .error (fault .flagUnexpectedEnd c.bump.position c.bump.position)
            else readFlags (items ++ [(item, c.charSpan)]) fuel c.bump

/-- Whether a character may stand in the name of a group. -/
def isGroupNameChar (first : Bool) (x : Char) : Bool :=
  x == '_' || (if first then isAlphabetic x else x == '.' || x == '[' || x == ']' || isAlphanumeric x)

/-- Reads the name of a group behind its `<`. -/
def readGroupName (names : List (Text × Span)) (c : Cursor) : Except Fault (Text × Span × Cursor) :=
  let name := c.rest.takeWhile (· != '>')
  let stop : Cursor := ⟨name.foldl Position.step c.position, c.rest.drop name.length⟩
  let s : Span := ⟨c.position, stop.position⟩
  match name.zipIdx.find? fun (x, i) => !isGroupNameChar (i == 0) x with
  | some (x, i) =>
    let p := (name.take i).foldl Position.step c.position
    .error (fault .groupNameInvalid p (p.step x))
  | none =>
    if stop.atEnd then .error (fault .groupNameUnexpectedEnd stop.position stop.position)
    else if name = [] then .error (fault .groupNameEmpty c.position c.position)
    else
      match names.lookup name with
      | some before => .error ⟨.groupNameDuplicate, s, some before⟩
      | none => .ok (name, s, stop.bump)

/-- What stands behind an opening parenthesis. -/
inductive Opening where
  /-- Flags alone: the parenthesis is closed again. -/
  | flags (items : FlagItems)
  /-- A group with flags; one that is remembered may have a name. -/
  | group (items : FlagItems) (remembered : Bool) (name : Option (Text × Span))

/-- Reads the opening of a group. -/
def readOpening (m : Mode) (c : Cursor) : Except Fault (Opening × Cursor) :=
  let opened := c.charSpan
  let c := c.next m.blanks
  let lookAround : List Text := [['?', '='], ['?', '!'], ['?', '<', '='], ['?', '<', '!']]
  match lookAround.findSome? (c.after? ·) with
  | some behind => .error (fault .lookAround opened.start behind.position)
  | none =>
    match c.after? ['?', 'P', '<'] <|> c.after? ['?', '<'] with
    | some inner =>
      (readGroupName m.names inner).map fun (name, s, behind) => (.group [] true (some (name, s)), behind)
    | none =>
      match c.after? ['?'] with
      | none => .ok (.group [] true none, c)
      | some inner =>
        if inner.atEnd then .error ⟨.groupUnclosed, opened, none⟩
        else
          match readFlags [] (inner.rest.length + 1) inner with
          | .error e => .error e
          | .ok (items, stop) =>
            if stop.isAt ')' then
              if items = [] then .error (fault .repetitionMissing c.position c.position)
              else .ok (.flags items, stop.bump)
            else .ok (.group items false none, stop.bump)

/-- Whether a repetition may follow a term. -/
def isRepeatable : Term → Bool
  | .empty _ | .flags _ _ => false
  | _ => true

/-- The term in front of a repetition operator at `p`, and those before it. -/
def operand (terms : List Term) (p : Position) : Except Fault (Term × List Term) :=
  match terms with
  | t :: before => if isRepeatable t then .ok (t, before) else .error (fault .repetitionMissing p p)
  | [] => .error (fault .repetitionMissing p p)

/-- Reads the `?` that makes a repetition lazy, if there is one. -/
def readLazy (c : Cursor) : Bool × Cursor := if c.isAt '?' then (true, c.bump) else (false, c)

/-- Reads the counts of a repetition in braces, and whether it is lazy. -/
def readCounts (blanks : Bool) (c : Cursor) : Except Fault (Nat × Option Nat × Bool × Cursor) :=
  let unclosed (stop : Cursor) : Fault := fault .repetitionCountUnclosed c.position stop.position
  let inner := c.next blanks
  if inner.atEnd then .error (unclosed inner)
  else
    let (least, stop) := readDecimal blanks inner
    if stop.atEnd then .error (unclosed stop)
    else
      let counts : Except Fault (Nat × Option Nat × Cursor) :=
        if stop.isAt ',' then
          let second := stop.next blanks
          if second.atEnd then .error (unclosed second)
          else if second.isAt '\x7d' then least.map fun n => (n, none, second)
          else
            match least with
            | .error e => .error e
            | .ok n =>
              match readDecimal blanks second with
              | (.error e, _) => .error e
              | (.ok m, stop) => .ok (n, some m, stop)
        else least.map fun n => (n, some n, stop)
      match counts with
      | .error e => .error e
      | .ok (n, m, stop) =>
        if !stop.isAt '\x7d' then .error (unclosed stop)
        else
          let (isLazy, behind) := readLazy (stop.next blanks)
          if (m.map fun k => decide (n ≤ k)).getD true then .ok (n, m, isLazy, behind)
          else .error (fault .repetitionCountInvalid c.position behind.position)

/-- Terms one after the other as one term. -/
def sequenceOf (s : Span) : List Term → Term
  | [] => .empty s
  | [one] => one
  | ts => .concat s ts

mutual

/-- Reads alternatives up to a closing parenthesis or the end. The number bounds the parts. -/
def readAlternatives (fuel : Nat) (m : Mode) (start : Position) (done : List Term) (c : Cursor) :
    Except Fault (Term × Mode × Cursor) :=
  match fuel with
  | 0 => .error (fault .groupUnclosed c.position c.position)
  | fuel + 1 =>
    match readSequence fuel m c.position [] c with
    | .error e => .error e
    | .ok (t, m, stop) =>
      if stop.isAt '|' then readAlternatives fuel m start (done ++ [t]) stop.bump
      else if done = [] then .ok (t, m, stop)
      else .ok (.alternation ⟨start, stop.position⟩ (done ++ [t]), m, stop)

/-- Reads terms up to a bar, a closing parenthesis or the end. `terms` are those so far, the
last one first. -/
def readSequence (fuel : Nat) (m : Mode) (start : Position) (terms : List Term) (c : Cursor) :
    Except Fault (Term × Mode × Cursor) :=
  match fuel with
  | 0 => .error (fault .groupUnclosed c.position c.position)
  | fuel + 1 =>
    let c := c.settle m.blanks
    let p := c.position
    let add (t : Term) (behind : Cursor) := readSequence fuel m start (t :: terms) behind
    let repetition (least : Nat) (greatest : Option Nat) (behind : Cursor) :=
      match operand terms p with
      | .error e => .error e
      | .ok (t, before) =>
        let (isLazy, behind) := readLazy behind
        readSequence fuel m start
          (.repetition ⟨t.span.start, behind.position⟩ least greatest isLazy t :: before) behind
    match c.rest with
    | [] | ')' :: _ | '|' :: _ => .ok (sequenceOf ⟨start, p⟩ terms.reverse, m, c)
    | '(' :: _ =>
      match readOpening m c with
      | .error e => .error e
      | .ok (.flags items, behind) =>
        let blanks := (items.state? .ignoreBlanks).getD m.blanks
        readSequence fuel { m with blanks } start (.flags ⟨p, behind.position⟩ items :: terms) behind
      | .ok (.group items remembered name, inner) =>
        let within : Mode := ⟨(items.state? .ignoreBlanks).getD m.blanks, name.toList ++ m.names⟩
        match readAlternatives fuel within inner.position [] inner with
        | .error e => .error e
        | .ok (t, after, stop) =>
          if stop.atEnd then .error ⟨.groupUnclosed, c.charSpan, none⟩
          else
            let behind := stop.bump
            readSequence fuel { after with blanks := m.blanks } start
              (.group ⟨p, behind.position⟩ items remembered t :: terms) behind
    | '[' :: _ =>
      match readClass m.blanks c with
      | .error e => .error e
      | .ok (t, behind) => add t behind
    | '?' :: _ => repetition 0 (some 1) c.bump
    | '*' :: _ => repetition 0 none c.bump
    | '+' :: _ => repetition 1 none c.bump
    | '\x7b' :: _ =>
      match operand terms p with
      | .error e => .error e
      | .ok (t, before) =>
        match readCounts m.blanks c with
        | .error e => .error e
        | .ok (least, greatest, isLazy, behind) =>
          readSequence fuel m start
            (.repetition ⟨t.span.start, behind.position⟩ least greatest isLazy t :: before) behind
    | '\\' :: _ =>
      match readEscape m.blanks c with
      | .error e => .error e
      | .ok (t, behind) => add t behind
    | '.' :: _ => add (.dot c.charSpan) c.bump
    | '^' :: _ => add (.assertion c.charSpan .lineStart) c.bump
    | '$' :: _ => add (.assertion c.charSpan .lineEnd) c.bump
    | x :: _ => add (.literal ⟨c.charSpan, x, false⟩) c.bump

end

/-! ## Nesting -/

/-- How deep terms may lie inside each other. -/
def maxNesting : Nat := 250

mutual

/-- The first term that lies too deep, if there is one; `left` levels are still allowed. -/
def tooDeep? (left : Nat) : Term → Option Span
  | .repetition s _ _ _ r | .group s _ _ r | .bracketed s _ r =>
    match left with
    | 0 => some s
    | left + 1 => tooDeep? left r
  | .combined s _ l r =>
    match left with
    | 0 => some s
    | left + 1 => (tooDeep? left l).or (tooDeep? left r)
  | .union s rs | .alternation s rs | .concat s rs =>
    match left with
    | 0 => some s
    | left + 1 => anyTooDeep? left rs
  | _ => none

/-- The first of some terms that lies too deep. -/
def anyTooDeep? (left : Nat) : List Term → Option Span
  | [] => none
  | r :: rs => (tooDeep? left r).or (anyTooDeep? left rs)

end

/-- Reads an expression. -/
def Term.read (pattern : Text) : Except Fault Term :=
  match readAlternatives (2 * pattern.length + 4) ⟨false, []⟩ ⟨1, 1⟩ [] ⟨⟨1, 1⟩, pattern⟩ with
  | .error e => .error e
  | .ok (t, _, stop) =>
    if !stop.atEnd then .error ⟨.groupUnopened, stop.charSpan, none⟩
    else
      match tooDeep? maxNesting t with
      | some s => .error ⟨.nestLimitExceeded maxNesting, s, none⟩
      | none => .ok t

end WrapShell.Regex
