import WrapShell.Yaml.Token
import WrapShell.Number.Integer
/-!
# Scalars as they are written

Plain and quoted scalars are read one character after the other. Blanks and line ends between
two words are held back in a `Gap`: what becomes of them is known only when the next word
comes. Block scalars are read one line after the other.
-/

namespace WrapShell.Yaml

/-- Blanks and line ends after a word of a scalar. -/
structure Gap where
  /-- Blanks, up to the first line end. -/
  blanks : Text
  /-- The first line end; empty if it is escaped. -/
  lead : Option Text
  /-- The line ends after the first. -/
  more : Text
  deriving DecidableEq, Repr

namespace Gap

def none : Gap := ⟨[], .none, []⟩

/-- An escaped line end. -/
def escaped : Gap := ⟨[], some [], []⟩

def isNone (g : Gap) : Bool := g.blanks == [] && g.lead == .none

def hasBreak (g : Gap) : Bool := g.lead.isSome

/-- Adds a blank or a line end. Blanks that start a line do not count. -/
def add (g : Gap) (c : Char) : Gap :=
  if isBreak c then
    match g.lead with
    | .none => ⟨[], some [lineEnd c], []⟩
    | some _ => { g with more := g.more ++ [lineEnd c] }
  else if g.lead.isSome then g
  else { g with blanks := g.blanks ++ [c] }

/-- What a gap between two words stands for: its blanks, or one space for one newline, or the
line ends after the first newline, or all line ends if the first is none. -/
def fold (g : Gap) : Text :=
  match g.lead with
  | .none => g.blanks
  | some ['\n'] => if g.more = [] then [' '] else g.more
  | some lead => lead ++ g.more

end Gap

/-- An error about the token that starts at `start`, found at `mark`. -/
def whileScanning (context : Text) (start : Mark) (problem : Text) (mark : Mark) : Error :=
  .malformed problem mark (some (context, start))

/-! ## Quoted scalars -/

/-- The characters that an escape of one letter stands for. -/
def simpleEscape? : Char → Option Char
  | '0' => some '\x00'
  | 'a' => some '\x07'
  | 'b' => some '\x08'
  | 't' | '\t' => some '\t'
  | 'n' => some '\n'
  | 'v' => some '\x0b'
  | 'f' => some '\x0c'
  | 'r' => some '\r'
  | 'e' => some '\x1b'
  | ' ' => some ' '
  | '"' => some '"'
  | '/' => some '/'
  | '\\' => some '\\'
  | 'N' => some '\u0085'
  | '_' => some '\u00a0'
  | 'L' => some '\u2028'
  | 'P' => some '\u2029'
  | _ => none

/-- The number of hexadecimal digits after the letter of an escape. -/
def codeLength? : Char → Option Nat
  | 'x' => some 2
  | 'u' => some 4
  | 'U' => some 8
  | _ => none

/-- The value of hexadecimal digits. -/
def hexValue? (t : Text) : Option Nat :=
  t.foldl (fun n? c => n?.bind fun n => (digitValue? 16 c).map (16 * n + ·)) (some 0)

/-- The character with a code, unless there is none with it. -/
def charOfCode? (n : Nat) : Option Char :=
  if h : n.isValidChar then some (Char.ofNatAux n h) else none

/-- Reads the rest of a single-quoted scalar. -/
def readSingleQuoted (start : Mark) (m : Mark) (gap : Gap) : Text → Except Error (Text × Cursor)
  | [] => .error (whileScanning "while scanning a quoted scalar" start "found unexpected end of stream" m)
  | c :: t =>
    if isSpace c || isBreak c then readSingleQuoted start (m.step c) (gap.add c) t
    else if (Cursor.mk m (c :: t)).atDocumentMark then
      .error (whileScanning "while scanning a quoted scalar" start "found unexpected document indicator" m)
    else if c = '\'' then
      match t with
      | '\'' :: t' =>
        (readSingleQuoted start ((m.step c).step c) .none t').map fun (s, rest) => (gap.fold ++ c :: s, rest)
      | t => .ok (gap.fold, ⟨m.step c, t⟩)
    else (readSingleQuoted start (m.step c) .none t).map fun (s, rest) => (gap.fold ++ c :: s, rest)

/-- Reads the rest of a double-quoted scalar. The number bounds the characters read. -/
def readDoubleQuoted (start : Mark) : Nat → Mark → Gap → Text → Except Error (Text × Cursor)
  | _, m, _, [] =>
    .error (whileScanning "while scanning a quoted scalar" start "found unexpected end of stream" m)
  | 0, m, _, _ => .error (.malformed [] m none)
  | fuel + 1, m, gap, c :: t =>
    if isSpace c || isBreak c then readDoubleQuoted start fuel (m.step c) (gap.add c) t
    else if (Cursor.mk m (c :: t)).atDocumentMark then
      .error (whileScanning "while scanning a quoted scalar" start "found unexpected document indicator" m)
    else if c = '"' then .ok (gap.fold, ⟨m.step c, t⟩)
    else if c = '\\' then
      match t with
      | [] => .error (whileScanning "while parsing a quoted scalar" start "found unknown escape character" m)
      | e :: t' =>
        let after := (m.step c).step e
        if isBreak e then
          (readDoubleQuoted start fuel after .escaped t').map fun (s, rest) => (gap.fold ++ s, rest)
        else
          match simpleEscape? e, codeLength? e with
          | some x, _ => (readDoubleQuoted start fuel after .none t').map fun (s, rest) => (gap.fold ++ x :: s, rest)
          | none, some n =>
            let digits := t'.take n
            match (if digits.length = n then hexValue? digits else none) with
            | none =>
              .error (whileScanning "while parsing a quoted scalar" start
                "did not find expected hexadecimal number" after)
            | some code =>
              match charOfCode? code with
              | none =>
                .error (whileScanning "while parsing a quoted scalar" start
                  "found invalid Unicode character escape code" after)
              | some x =>
                (readDoubleQuoted start fuel (after.advance digits) .none (t'.drop n)).map fun (s, rest) =>
                  (gap.fold ++ x :: s, rest)
          | none, none =>
            .error (whileScanning "while parsing a quoted scalar" start "found unknown escape character" m)
    else (readDoubleQuoted start fuel (m.step c) .none t).map fun (s, rest) => (gap.fold ++ c :: s, rest)

/-! ## Plain scalars -/

/-- A plain scalar: its text, whether a line end comes after its last word, and where to go on. -/
structure PlainStop where
  text : Text
  newLine : Bool
  rest : Cursor
  deriving Repr

/-- Reads a plain scalar. Outside flow collections it must stay at `indent` or deeper. -/
def readPlain (start : Mark) (flow : Bool) (indent : Nat) (m : Mark) (gap : Gap) : Text → Except Error PlainStop
  | [] => .ok ⟨[], gap.hasBreak, ⟨m, []⟩⟩
  | c :: t =>
    let here : Cursor := ⟨m, c :: t⟩
    let ended : PlainStop := ⟨[], gap.hasBreak, here⟩
    if isSpace c || isBreak c then
      if gap.hasBreak && m.column < indent && c == '\t' then
        .error (whileScanning "while scanning a plain scalar" start "found a tab character that violates indentation" m)
      else readPlain start flow indent (m.step c) (gap.add c) t
    else if !gap.isNone && !flow && m.column < indent then .ok ended
    else if here.atDocumentMark then .ok ended
    else if !gap.isNone && c == '#' then .ok ended
    else if flow && c == ':' && [',', '?', '[', ']', '\x7b', '\x7d'].any (t.head? == some ·) then
      .error (whileScanning "while scanning a plain scalar" start "found unexpected ':'" m)
    else if (c == ':' && here.blankAt 1) || (flow && [',', '[', ']', '\x7b', '\x7d'].contains c) then .ok ended
    else
      (readPlain start flow indent (m.step c) .none t).map fun p => { p with text := gap.fold ++ c :: p.text }

/-! ## Block scalars -/

/-- Skips the indentation and the empty lines before the next line of a block scalar: the
greatest column reached, the line ends and the cursor behind. An `indent` of zero stands for
one that is not known yet. -/
def readBlockBreaks (start : Mark) (indent : Nat) (m : Mark) : Text → Except Error (Nat × Text × Cursor)
  | [] => .ok (m.column, [], ⟨m, []⟩)
  | c :: t =>
    let shallow := indent = 0 || m.column < indent
    if c = ' ' && shallow then readBlockBreaks start indent (m.step c) t
    else if c = '\t' && shallow then
      .error (whileScanning "while scanning a block scalar" start
        "found a tab character where an indentation space is expected" m)
    else if isBreak c then
      (readBlockBreaks start indent (m.step c) t).map fun (deepest, breaks, rest) =>
        (max m.column deepest, lineEnd c :: breaks, rest)
    else .ok (m.column, [], ⟨m, c :: t⟩)

/-- The lines of a block scalar, as far as they are read. -/
structure BlockLines where
  text : Text
  /-- The line end of the last line. -/
  lead : Text
  /-- The empty lines after it. -/
  trailing : Text
  rest : Cursor
  deriving Repr

/-- Reads the lines of a block scalar that start at column `indent`. The number bounds them. -/
def readBlockLines (literal : Bool) (start : Mark) (indent : Nat) :
    Nat → (leadingBlank : Bool) → BlockLines → Except Error BlockLines
  | 0, _, b => .ok b
  | fuel + 1, leadingBlank, b =>
    match b.rest.rest with
    | [] => .ok b
    | c :: _ =>
      if b.rest.mark.column ≠ indent then .ok b
      else
        let blank := isSpace c
        let joined : Text :=
          if !literal && b.lead == ['\n'] && !leadingBlank && !blank then
            if b.trailing = [] then [' '] else b.trailing
          else b.lead ++ b.trailing
        let (line, eol) := b.rest.span (!isBreak ·)
        let next := eol.skip 1
        match readBlockBreaks start indent next.mark next.rest with
        | .error e => .error e
        | .ok (_, breaks, rest) =>
          readBlockLines literal start indent fuel blank ⟨b.text ++ joined ++ line, (eol.rest.take 1).map lineEnd, breaks, rest⟩

/-- What becomes of the line ends behind a block scalar. -/
inductive Chomp where
  | strip
  | clip
  | keep
  deriving DecidableEq, Repr

/-- The line ends behind a block scalar that belong to its text. -/
def Chomp.tail (b : BlockLines) : Chomp → Text
  | .strip => []
  | .clip => b.lead
  | .keep => b.lead ++ b.trailing

/-- The chomping indicator, if one is next. -/
def readChomp? (c : Cursor) : Option (Chomp × Cursor) :=
  match c.rest with
  | '+' :: _ => some (.keep, c.skip 1)
  | '-' :: _ => some (.strip, c.skip 1)
  | _ => none

/-- The indentation indicator, if one is next. -/
def readIndent (start : Mark) (c : Cursor) : Except Error (Option Nat × Cursor) :=
  match c.rest with
  | [] => .ok (none, c)
  | d :: _ =>
    if d = '0' then
      .error (whileScanning "while scanning a block scalar" start "found an indentation indicator equal to 0" c.mark)
    else if d.isDigit then .ok (some (d.toNat - '0'.toNat), c.skip 1)
    else .ok (none, c)

/-- The header of a block scalar: both indicators, in any order. -/
def readBlockHeader (start : Mark) (c : Cursor) : Except Error (Option Nat × Chomp × Cursor) :=
  match readChomp? c with
  | some (chomp, c) => (readIndent start c).map fun (n, c) => (n, chomp, c)
  | none =>
    (readIndent start c).map fun (n, c) =>
      match n, readChomp? c with
      | some n, some (chomp, c) => (some n, chomp, c)
      | n, _ => (n, .clip, c)

/-- Reads a block scalar behind its `|` or `>`. `parent` is the column of the collection it
stands in, or -1. -/
def readBlock (literal : Bool) (parent : Int) (start : Mark) (c : Cursor) : Except Error (Text × Cursor) :=
  match readBlockHeader start c with
  | .error e => .error e
  | .ok (increment, chomp, c) =>
    let c := c.skipWhile isSpace
    let c := if c.rest.head? = some '#' then c.skipWhile (!isBreak ·) else c
    if !c.atLineEnd then
      .error (whileScanning "while scanning a block scalar" start "did not find expected comment or line break" c.mark)
    else
      let c := c.skip 1
      let given : Nat := match increment with
        | some n => parent.toNat + n
        | none => 0
      match readBlockBreaks start given c.mark c.rest with
      | .error e => .error e
      | .ok (deepest, breaks, rest) =>
        let indent := if given ≠ 0 then given else max (max deepest (parent + 1).toNat) 1
        match readBlockLines literal start indent (rest.rest.length + 1) false ⟨[], [], breaks, rest⟩ with
        | .error e => .error e
        | .ok b =>
          .ok (b.text ++ chomp.tail b, b.rest)

end WrapShell.Yaml
