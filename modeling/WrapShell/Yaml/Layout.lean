import WrapShell.Yaml.Scalar
/-!
# From characters to tokens

Indentation opens and closes block collections, and a `:` makes a key of the scalar before it:
so a token can be placed in front of others that are already read. Tokens that this can still
happen to are held back. If the text turns out to be wrong while some are held back, they are
never handed on: `scan` gives the tokens that come before the error.
-/

namespace WrapShell.Yaml

/-- A token that becomes a key if a `:` follows it on its line. -/
structure KeyCandidate where
  /-- A block mapping goes on here, so that nothing else than a key can stand in this place. -/
  required : Bool
  /-- The number of tokens before it. -/
  before : Nat
  mark : Mark
  deriving Repr

/-- How far a text is cut into tokens. -/
structure Layout where
  cursor : Cursor
  /-- Tokens handed on, the last one first. -/
  done : List Token
  /-- Tokens held back, in order. -/
  held : List Token
  /-- The possible key of each open flow collection and of the block around, innermost first. -/
  keys : List (Option KeyCandidate)
  /-- Whether a key may start here. -/
  keyAllowed : Bool
  /-- The column of the innermost block collection, or -1. -/
  indent : Int
  /-- The columns of the block collections around it. -/
  outer : List Int
  deriving Repr

namespace Layout

/-- Before the first character. -/
def start (text : Text) : Layout :=
  { cursor := ⟨.origin, text⟩
    done := []
    held := [⟨.streamStart, .origin, .origin⟩]
    keys := [none]
    keyAllowed := true
    indent := -1
    outer := [] }

/-- The number of open flow collections. -/
def flowLevel (l : Layout) : Nat := l.keys.length - 1

def inFlow (l : Layout) : Bool := 0 < l.flowLevel

def mark (l : Layout) : Mark := l.cursor.mark

/-- The number of tokens read so far. -/
def count (l : Layout) : Nat := l.done.length + l.held.length

def push (l : Layout) (kind : TokenKind) (start stop : Mark) : Layout :=
  { l with held := l.held ++ [⟨kind, start, stop⟩] }

/-- Puts a token in front of those after the first `before`. -/
def insertAt (l : Layout) (before : Nat) (t : Token) : Layout :=
  let n := before - l.done.length
  { l with held := l.held.take n ++ t :: l.held.drop n }

/-- Adds a token for the next `n` characters. -/
def take (l : Layout) (n : Nat) (kind : TokenKind) : Layout :=
  let next := l.cursor.skip n
  { l.push kind l.mark next.mark with cursor := next }

/-- What is wrong when a required key has no `:`. -/
def missingColon (k : KeyCandidate) (mark : Mark) : Error :=
  whileScanning "while scanning a simple key" k.mark "could not find expected ':'" mark

/-- Gives up the possible key of the innermost collection. -/
def dropKey (l : Layout) : Except Error Layout :=
  match l.keys with
  | some k :: rest => if k.required then .error (missingColon k l.mark) else .ok { l with keys := none :: rest }
  | _ => .ok l

/-- Whether a key has to be given up: it must lie on this line, at most 1024 bytes back. -/
def isStale (m : Mark) (k : KeyCandidate) : Bool := k.mark.line < m.line || k.mark.index + 1024 < m.index

/-- Gives up the keys that lie too far back, the outermost first. -/
def dropStale (m : Mark) : List (Option KeyCandidate) → Except Error (List (Option KeyCandidate))
  | [] => .ok []
  | k? :: rest =>
    match dropStale m rest with
    | .error e => .error e
    | .ok rest =>
      match k? with
      | none => .ok (none :: rest)
      | some k =>
        if isStale m k then
          if k.required then .error (missingColon k m) else .ok (none :: rest)
        else .ok (some k :: rest)

/-- Remembers that the token that starts here may become a key. -/
def saveKey (l : Layout) : Except Error Layout :=
  if l.keyAllowed then
    let required := !l.inFlow && l.indent == (l.mark.column : Int)
    match l.dropKey with
    | .error e => .error e
    | .ok l => .ok { l with keys := some ⟨required, l.count, l.mark⟩ :: l.keys.tail }
  else .ok l

/-- Opens a block collection at `column`, unless one is open there. -/
def openBlock (l : Layout) (column : Nat) (before : Nat) (kind : TokenKind) (m : Mark) : Layout :=
  if l.inFlow then l
  else if l.indent < column then
    { l.insertAt before ⟨kind, m, m⟩ with indent := column, outer := l.indent :: l.outer }
  else l

/-- Closes the block collections that lie deeper than `column`. -/
def closeBlocks (l : Layout) (column : Int) : Layout :=
  if l.inFlow then l else go l.indent l.outer l.held
where
  /-- One closing token for each column given up. -/
  go (indent : Int) (outer : List Int) (held : List Token) : Layout :=
    match outer with
    | [] => { l with indent := indent, outer := [], held := held }
    | next :: rest =>
      if column < indent then go next rest (held ++ [⟨.blockEnd, l.mark, l.mark⟩])
      else { l with indent := indent, outer := outer, held := held }

/-- Skips blanks, comments and line ends. `allowed` tells whether a key may start there, which
a tab may not stand in front of; outside flow collections one may start on each new line. The
number bounds the lines. -/
def skipVoid (inFlow : Bool) : Nat → Cursor → (allowed : Bool) → Cursor × Bool
  | 0, c, allowed => (c, allowed)
  | fuel + 1, c, allowed =>
    let c := if c.mark.column = 0 && c.rest.head? = some '\ufeff' then c.skip 1 else c
    let c := c.skipWhile fun x => x == ' ' || ((inFlow || !allowed) && x == '\t')
    let c := if c.rest.head? = some '#' then c.skipWhile (!isBreak ·) else c
    match c.rest with
    | x :: _ => if isBreak x then skipVoid inFlow fuel (c.skip 1) (allowed || !inFlow) else (c, allowed)
    | [] => (c, allowed)

/-! ## Directives, anchors and tags -/

/-- A character of an anchor or of the handle of a tag. -/
def isNameChar (c : Char) : Bool := c.isAlphanum || c == '_' || c == '-'

/-- A character of a tag, apart from escapes; `full` admits those that flow collections use. -/
def isTagChar (full : Bool) (c : Char) : Bool :=
  isNameChar c || ";/?:@&=+$.!~*'()".toList.contains c || (full && ",[]".toList.contains c)

/-- Reads the number of a version. -/
def readVersionNumber (start : Mark) (c : Cursor) : Except Error (Nat × Cursor) :=
  let fault (problem : Text) (m : Mark) := whileScanning "while scanning a %YAML directive" start problem m
  let (digits, rest) := c.span Char.isDigit
  if digits = [] then .error (fault "did not find expected version number" c.mark)
  else if 9 < digits.length then .error (fault "found extremely long version number" (c.skip 9).mark)
  else .ok (digits.foldl (fun n d => 10 * n + (d.toNat - '0'.toNat)) 0, rest)

/-- Reads the handle of a tag. -/
def readTagHandle (directive : Bool) (start : Mark) (c : Cursor) : Except Error (Text × Cursor) :=
  let context : Text := if directive then "while scanning a tag directive" else "while scanning a tag"
  if c.rest.head? ≠ some '!' then .error (whileScanning context start "did not find expected '!'" c.mark)
  else
    let (name, rest) := (c.skip 1).span isNameChar
    if rest.rest.head? = some '!' then .ok ('!' :: name ++ ['!'], rest.skip 1)
    else if directive && name ≠ [] then
      .error (whileScanning "while parsing a tag directive" start "did not find expected '!'" rest.mark)
    else .ok ('!' :: name, rest)

/-- Reads a byte of a tag that is written as a `%` and two digits. -/
def readOctet (fault : Text → Mark → Error) (c : Cursor) : Except Error (UInt8 × Cursor) :=
  match c.rest.take 3 with
  | ['%', a, b] =>
    match hexValue? [a, b] with
    | some n => .ok (UInt8.ofNat n, c.skip 3)
    | none => .error (fault "did not find URI escaped octet" c.mark)
  | _ => .error (fault "did not find URI escaped octet" c.mark)

/-- The number of bytes behind the first byte of a character. -/
def trailingOctets? (lead : UInt8) : Option Nat :=
  if lead < 0x80 then some 0
  else if 0xC0 ≤ lead && lead < 0xE0 then some 1
  else if 0xE0 ≤ lead && lead < 0xF0 then some 2
  else if 0xF0 ≤ lead && lead < 0xF8 then some 3
  else none

/-- Reads `n` bytes behind the first byte of a character. -/
def readTrailing (fault : Text → Mark → Error) : Nat → Cursor → Except Error (Bytes × Cursor)
  | 0, c => .ok ([], c)
  | n + 1, c =>
    match readOctet fault c with
    | .error e => .error e
    | .ok (b, rest) =>
      if 0x80 ≤ b && b < 0xC0 then (readTrailing fault n rest).map fun (bs, rest) => (b :: bs, rest)
      else .error (fault "found an incorrect trailing UTF-8 octet" c.mark)

/-- Reads the bytes of a character of a tag that is written in escapes. -/
def readEscaped (fault : Text → Mark → Error) (c : Cursor) : Except Error (Bytes × Cursor) :=
  match readOctet fault c with
  | .error e => .error e
  | .ok (lead, rest) =>
    match trailingOctets? lead with
    | none => .error (fault "found an incorrect leading UTF-8 octet" c.mark)
    | some n => (readTrailing fault n rest).map fun (bs, rest) => (lead :: bs, rest)

/-- Reads the characters of a tag. The first number bounds them. -/
def readTagChars (full : Bool) (fault : Text → Mark → Error) : Nat → Cursor → Except Error (Bytes × Cursor)
  | 0, c => .ok ([], c)
  | fuel + 1, c =>
    match c.rest with
    | [] => .ok ([], c)
    | x :: _ =>
      let part : Except Error (Bytes × Cursor) :=
        if x = '%' then readEscaped fault c
        else if isTagChar full x then .ok (Text.utf8 [x], c.skip 1)
        else .ok ([], c)
      match part with
      | .error e => .error e
      | .ok ([], _) => .ok ([], c)
      | .ok (bs, rest) => (readTagChars full fault fuel rest).map fun (more, rest) => (bs ++ more, rest)

/-- Reads the part of a tag behind its handle. It counts up to its first byte that is zero. -/
def readTagUri (full directive : Bool) (head : Text) (start : Mark) (c : Cursor) : Except Error (Bytes × Cursor) :=
  let context : Text := if directive then "while parsing a %TAG directive" else "while parsing a tag"
  match readTagChars full (whileScanning context start) c.rest.length c with
  | .error e => .error e
  | .ok (uri, rest) =>
    if uri = [] && head = [] then .error (whileScanning context start "did not find expected tag URI" c.mark)
    else .ok ((Text.utf8 head.tail ++ uri).takeWhile (· ≠ 0), rest)

/-- Reads a tag: `!<uri>`, `!suffix` or `!handle!suffix`. -/
def readTag (inFlow : Bool) (start : Mark) (c : Cursor) : Except Error (TokenKind × Cursor) :=
  let parts : Except Error (Text × Bytes × Cursor) :=
    match c.rest with
    | '!' :: '<' :: _ =>
      match readTagUri true false [] start (c.skip 2) with
      | .error e => .error e
      | .ok (suffix, rest) =>
        if rest.rest.head? = some '>' then .ok ([], suffix, rest.skip 1)
        else .error (whileScanning "while scanning a tag" start "did not find the expected '>'" rest.mark)
    | _ =>
      match readTagHandle false start c with
      | .error e => .error e
      | .ok (handle, rest) =>
        if 1 < handle.length && handle.getLast? = some '!' then
          (readTagUri false false [] start rest).map fun (suffix, rest) => (handle, suffix, rest)
        else
          match readTagUri false false handle start rest with
          | .error e => .error e
          | .ok ([], rest) => .ok ([], Text.utf8 ['!'], rest)
          | .ok (suffix, rest) => .ok (['!'], suffix, rest)
  match parts with
  | .error e => .error e
  | .ok (handle, suffix, rest) =>
    if rest.blankAt 0 || (inFlow && rest.rest.head? = some ',') then .ok (.tag handle suffix, rest)
    else .error (whileScanning "while scanning a tag" start "did not find expected whitespace or line break" rest.mark)

/-- Reads a directive behind its `%`, up to the end of its line. -/
def readDirective (start : Mark) (c : Cursor) : Except Error (TokenKind × Cursor) :=
  let fault (problem : Text) (m : Mark) := whileScanning "while scanning a directive" start problem m
  let (name, rest) := c.span isNameChar
  let value : Except Error (TokenKind × Cursor) :=
    if name = [] then .error (fault "could not find expected directive name" rest.mark)
    else if !rest.blankAt 0 then .error (fault "found unexpected non-alphabetical character" rest.mark)
    else if name = "YAML" then
      match readVersionNumber start (rest.skipWhile isSpace) with
      | .error e => .error e
      | .ok (major, rest) =>
        if rest.rest.head? ≠ some '.' then
          .error (whileScanning "while scanning a %YAML directive" start
            "did not find expected digit or '.' character" rest.mark)
        else (readVersionNumber start (rest.skip 1)).map fun (minor, rest) => (.versionDirective major minor, rest)
    else if name = "TAG" then
      let faultTag (problem : Text) (m : Mark) := whileScanning "while scanning a %TAG directive" start problem m
      match readTagHandle true start (rest.skipWhile isSpace) with
      | .error e => .error e
      | .ok (handle, rest) =>
        if (rest.rest.head?.map isSpace).getD false then
          match readTagUri true true [] start (rest.skipWhile isSpace) with
          | .error e => .error e
          | .ok (uri, rest) =>
            if rest.blankAt 0 then .ok (.tagDirective handle uri, rest)
            else .error (faultTag "did not find expected whitespace or line break" rest.mark)
        else .error (faultTag "did not find expected whitespace" rest.mark)
    else .error (fault "found unknown directive name" rest.mark)
  match value with
  | .error e => .error e
  | .ok (kind, rest) =>
    let rest := rest.skipWhile isSpace
    let rest := if rest.rest.head? = some '#' then rest.skipWhile (!isBreak ·) else rest
    if rest.atLineEnd then .ok (kind, rest.skip 1)
    else .error (fault "did not find expected comment or line break" rest.mark)

/-- Reads the name of an anchor or an alias. -/
def readAnchor (context : Text) (start : Mark) (c : Cursor) : Except Error (Text × Cursor) :=
  let (name, rest) := c.span isNameChar
  if name ≠ [] && (rest.blankAt 0 || "?:,]\x7d%@`".toList.any (rest.rest.head? == some ·)) then .ok (name, rest)
  else .error (whileScanning context start "did not find expected alphabetic or numeric character" rest.mark)

/-! ## One token -/

/-- Adds a token that a reader gives, from here to where it stops. -/
def give (l : Layout) (result : Except Error (TokenKind × Cursor)) : Except Error Layout :=
  result.map fun (kind, rest) => { l.push kind l.mark rest.mark with cursor := rest }

/-- Adds a token for the next character, which starts or ends a flow collection or an entry. -/
def openFlow (l : Layout) (kind : TokenKind) : Except Error Layout :=
  l.saveKey.map fun l => { (l.take 1 kind) with keys := none :: l.keys, keyAllowed := true }

def closeFlow (l : Layout) (kind : TokenKind) : Except Error Layout :=
  l.dropKey.map fun l =>
    { (l.take 1 kind) with keys := (if l.inFlow then l.keys.tail else l.keys), keyAllowed := false }

/-- Adds the token of a `-`, `?` or `:` that opens a block collection if none is open here. -/
def blockIndicator (l : Layout) (collection kind : TokenKind) (problem : Text) (allowAfter : Bool) :
    Except Error Layout :=
  if !l.inFlow && !l.keyAllowed then .error (.malformed problem l.mark none)
  else
    (l.openBlock l.mark.column l.count collection l.mark).dropKey.map fun l =>
      { (l.take 1 kind) with keyAllowed := allowAfter }

/-- Adds the token of a `:`; the possible key before it becomes one. -/
def fetchValue (l : Layout) : Except Error Layout :=
  match l.keys with
  | some k :: rest =>
    let l := l.insertAt k.before ⟨.key, k.mark, k.mark⟩
    let l := l.openBlock k.mark.column k.before .blockMappingStart k.mark
    .ok (({ l with keys := none :: rest, keyAllowed := false } : Layout).take 1 .value)
  | _ =>
    l.blockIndicator .blockMappingStart .value "mapping values are not allowed in this context" (!l.inFlow)

/-- The characters that start no plain scalar, unless they are followed by more. -/
def indicators : List Char := "-?:,[]\x7b\x7d#&*!|>'\"%@`".toList

/-- Goes on to where the next token starts. -/
def settle (l : Layout) : Layout :=
  let (cursor, allowed) := skipVoid l.inFlow (l.cursor.rest.length + 1) l.cursor l.keyAllowed
  { l with cursor := cursor, keyAllowed := allowed }

/-- Gives up the keys that lie too far back and closes the block collections that end here. -/
def align (l : Layout) : Except Error Layout :=
  (dropStale l.mark l.keys).map fun keys => ({ l with keys := keys } : Layout).closeBlocks l.mark.column

/-- Adds the tokens of the end of the text. -/
def fetchEnd (l : Layout) : Except Error Layout :=
  let ended := ({ l with cursor := ⟨l.mark.nextLine, []⟩ } : Layout).closeBlocks (-1)
  ended.dropKey.map fun l => l.push .streamEnd l.mark l.mark

/-- Adds a block scalar, which starts with `x`. -/
def fetchBlock (l : Layout) (x : Char) : Except Error Layout :=
  match l.dropKey with
  | .error e => .error e
  | .ok l =>
    ({ l with keyAllowed := true } : Layout).give
      ((readBlock (x == '|') l.indent l.mark (l.cursor.skip 1)).map fun (text, rest) =>
        (.scalar text (if x = '|' then .literal else .folded), rest))

/-- Adds an alias, an anchor, a tag or a quoted scalar, which starts with `x`. -/
def fetchMarked (l : Layout) (x : Char) : Except Error Layout :=
  match l.saveKey with
  | .error e => .error e
  | .ok l =>
    let next := l.cursor.skip 1
    ({ l with keyAllowed := false } : Layout).give <|
      if x = '*' then (readAnchor "while scanning an alias" l.mark next).map fun (name, rest) => (.alias name, rest)
      else if x = '&' then
        (readAnchor "while scanning an anchor" l.mark next).map fun (name, rest) => (.anchor name, rest)
      else if x = '!' then readTag l.inFlow l.mark l.cursor
      else if x = '\'' then
        (readSingleQuoted l.mark next.mark .none next.rest).map fun (text, rest) => (.scalar text .singleQuoted, rest)
      else
        (readDoubleQuoted l.mark (next.rest.length + 1) next.mark .none next.rest).map fun (text, rest) =>
          (.scalar text .doubleQuoted, rest)

/-- Adds a plain scalar. -/
def fetchPlain (l : Layout) : Except Error Layout :=
  match l.saveKey with
  | .error e => .error e
  | .ok l =>
    match readPlain l.mark l.inFlow (l.indent + 1).toNat l.mark .none l.cursor.rest with
    | .error e => .error e
    | .ok p =>
      .ok { l.push (.scalar p.text .plain) l.mark p.rest.mark with cursor := p.rest, keyAllowed := p.newLine }

/-- Adds the token that starts with `x`. -/
def fetchAt (l : Layout) (x : Char) : Except Error Layout :=
  let c := l.cursor
  let m := c.mark
  let apart := { l.closeBlocks (-1) with keyAllowed := false }
  if m.column = 0 && x = '%' then
    match apart.dropKey with
    | .error e => .error e
    | .ok l => l.give (readDirective m (c.skip 1))
  else if c.atDocumentMark then
    apart.dropKey.map fun l => l.take 3 (if x = '-' then .documentStart else .documentEnd)
  else if x = '[' then l.openFlow .flowSequenceStart
  else if x = '\x7b' then l.openFlow .flowMappingStart
  else if x = ']' then l.closeFlow .flowSequenceEnd
  else if x = '\x7d' then l.closeFlow .flowMappingEnd
  else if x = ',' then l.dropKey.map fun l => { (l.take 1 .flowEntry) with keyAllowed := true }
  else if x = '-' && c.blankAt 1 then
    l.blockIndicator .blockSequenceStart .blockEntry "block sequence entries are not allowed in this context" true
  else if x = '?' && (l.inFlow || c.blankAt 1) then
    l.blockIndicator .blockMappingStart .key "mapping keys are not allowed in this context" (!l.inFlow)
  else if x = ':' && (l.inFlow || c.blankAt 1) then l.fetchValue
  else if x = '|' && !l.inFlow || x = '>' && !l.inFlow then l.fetchBlock x
  else if ['*', '&', '!', '\'', '"'].contains x then l.fetchMarked x
  else if !(isSpace x || isBreak x || indicators.contains x) || (x = '-' && !c.blankAt 1) ||
      (!l.inFlow && (x = '?' || x = ':') && !c.blankAt 1) then
    l.fetchPlain
  else
    .error (whileScanning "while scanning for the next token" m "found character that cannot start any token" m)

/-- Adds the token that starts here. -/
def fetchHere (l : Layout) : Except Error Layout :=
  match l.align with
  | .error e => .error e
  | .ok l =>
    match l.cursor.rest with
    | [] => l.fetchEnd
    | x :: _ => l.fetchAt x

/-- Adds the next token. -/
def fetch (l : Layout) : Except Error Layout := l.settle.fetchHere

/-- Hands on the tokens that no key can come in front of any more. -/
def release (l : Layout) : Except Error Layout :=
  if l.held = [] then .ok l
  else
    match dropStale l.mark l.keys with
    | .error e => .error e
    | .ok keys =>
      let first := (keys.filterMap (·.map KeyCandidate.before)).foldl min l.count
      let n := first - l.done.length
      .ok { l with keys := keys, done := (l.held.take n).reverse ++ l.done, held := l.held.drop n }

/-- Reads tokens to the end of the stream. The number bounds them. -/
def run : Nat → Layout → List Token × Option Error
  | 0, l => (l.done.reverse, none)
  | fuel + 1, l =>
    match l.release with
    | .error e => (l.done.reverse, some e)
    | .ok l =>
      match l.done with
      | ⟨.streamEnd, _, _⟩ :: _ => (l.done.reverse, none)
      | _ =>
        match l.fetch with
        | .error e => (l.done.reverse, some e)
        | .ok l => run fuel l

end Layout

/-- The tokens of a text, and the error that they end in, if there is one. -/
def scan (text : Text) : List Token × Option Error :=
  match text.span isAllowed with
  | (before, _ :: _) => ([], some (.character (Text.utf8Size before)))
  | _ => Layout.run (2 * text.length + 4) (.start (joinBreaks text))

end WrapShell.Yaml
