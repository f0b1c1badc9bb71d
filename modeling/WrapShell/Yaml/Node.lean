import WrapShell.Yaml.Layout
/-!
# Nodes of a YAML document

The tokens of a document make a tree of scalars, sequences and mappings. A text that is wrong
somewhere still has a tree: it ends in a `broken` node, so that what comes before the error can
be looked at first. An alias holds the number of an anchor; `Node.anchors` says which node has
that number, and a later one takes it from an earlier one.
-/

namespace WrapShell.Yaml

/-- What comes before the content of a node: its tag and the number of its anchor, and the
place where it all starts. -/
structure Properties where
  mark : Mark
  tag : Option Bytes
  anchor : Option Nat
  deriving DecidableEq, Repr

/-- A node of a document. -/
inductive Node where
  | scalar (properties : Properties) (text : Text) (style : Style)
  | sequence (properties : Properties) (items : List Node)
  | mapping (properties : Properties) (entries : List (Node × Node))
  | alias (mark : Mark) (anchor : Nat)
  /-- The text holds no document. -/
  | void
  /-- The text breaks off here. -/
  | broken (error : Error)
  deriving Repr, Inhabited

namespace Node

/-- A node that is not written. -/
def missing (mark : Mark) : Node := .scalar ⟨mark, none, none⟩ [] .plain

def properties? : Node → Option Properties
  | .scalar p _ _ | .sequence p _ | .mapping p _ => some p
  | _ => none

mutual

/-- A node and all nodes inside it, in the order in which they start. -/
def nodes (n : Node) : List Node :=
  match n with
  | .sequence _ items => n :: nodesOf items
  | .mapping _ entries => n :: nodesOfEntries entries
  | _ => [n]

def nodesOf : List Node → List Node
  | [] => []
  | n :: ns => n.nodes ++ nodesOf ns

def nodesOfEntries : List (Node × Node) → List Node
  | [] => []
  | (k, v) :: es => k.nodes ++ v.nodes ++ nodesOfEntries es

end

/-- The anchored nodes with their numbers, the last one first. -/
def anchors (n : Node) : List (Nat × Node) :=
  (n.nodes.filterMap fun m => (m.properties?.bind Properties.anchor).map (·, m)).reverse

/-- The number of places where a node or a collection starts or ends. -/
def size (n : Node) : Nat :=
  n.nodes.foldl (fun size m => match m with
    | .sequence _ _ | .mapping _ _ => size + 2
    | .broken _ => size
    | _ => size + 1) 0

end Node

/-- Where the reading of a document stands. -/
structure Reader where
  tokens : List Token
  /-- What is met behind the tokens. -/
  ending : Error
  /-- The anchors so far and their numbers, the last one first. -/
  anchors : List (Text × Nat)
  /-- The handles of tags and what they stand for. -/
  handles : List (Text × Bytes)
  deriving Repr

/-- A value as far as it could be read, and where to go on or why that is not possible. -/
abbrev Reading (α : Type) := α × Except Error Reader

namespace Reader

/-- The tags that need no directive. -/
def standardHandles : List (Text × Bytes) :=
  [(['!'], Text.utf8 ['!']), (['!', '!'], Text.utf8 "tag:yaml.org,2002:")]

/-- The reader behind the next token. -/
def skip (r : Reader) : Reader := { r with tokens := r.tokens.tail }

/-- The next token. -/
def peek (r : Reader) : Except Error Token :=
  match r.tokens with
  | t :: _ => .ok t
  | [] => .error r.ending

/-- Whether the next token is one of some kinds. -/
def isAt (r : Reader) (kinds : List TokenKind) : Bool :=
  match r.tokens with
  | t :: _ => kinds.contains t.kind
  | [] => false

/-- Ends a reading of a node. -/
def stop (e : Error) : Reading Node := (.broken e, .error e)

/-- Gives a number to an anchor. The number is how many anchors differ by name so far. -/
def name (r : Reader) (anchor : Option Text) : Option Nat × Reader :=
  match anchor with
  | none => (none, r)
  | some a =>
    let n := (r.anchors.map Prod.fst).eraseDups.length
    (some n, { r with anchors := (a, n) :: r.anchors })

/-- What is written before the content of a node: anchor and tag in any order. -/
structure Written where
  start : Mark
  stop : Mark
  anchor : Option Text
  /-- Handle, suffix and place of a tag. -/
  tag : Option (Text × Bytes × Mark)

/-- Reads the properties of a node. -/
def readProperties (r : Reader) : Except Error (Written × Reader) :=
  match r.peek with
  | .error e => .error e
  | .ok t =>
    match t.kind with
    | .anchor a =>
      match r.skip.peek with
      | .error e => .error e
      | .ok u =>
        match u.kind with
        | .tag handle suffix => .ok (⟨t.start, u.stop, some a, some (handle, suffix, u.start)⟩, r.skip.skip)
        | _ => .ok (⟨t.start, t.stop, some a, none⟩, r.skip)
    | .tag handle suffix =>
      match r.skip.peek with
      | .error e => .error e
      | .ok u =>
        match u.kind with
        | .anchor a => .ok (⟨t.start, u.stop, some a, some (handle, suffix, t.start)⟩, r.skip.skip)
        | _ => .ok (⟨t.start, t.stop, none, some (handle, suffix, t.start)⟩, r.skip)
    | _ => .ok (⟨t.start, t.start, none, none⟩, r)

/-- The full name of a tag. -/
def tagName (r : Reader) (w : Written) : Except Error (Option Bytes) :=
  match w.tag with
  | none => .ok none
  | some ([], suffix, _) => .ok (some suffix)
  | some (handle, suffix, mark) =>
    match r.handles.lookup handle with
    | some start => .ok (some (start ++ suffix))
    | none => .error (whileScanning "while parsing a node" w.start "found undefined tag handle" mark)

/-- The token that starts the next part of a flow collection, or none at its end. Between two
parts stands a comma. -/
def nextInFlow (first : Bool) (last : TokenKind) (fault : Mark → Error) (r : Reader) :
    Except Error (Option Token × Reader) :=
  match r.peek with
  | .error e => .error e
  | .ok t =>
    if t.kind = last then .ok (none, r.skip)
    else if first then .ok (some t, r)
    else if t.kind = .flowEntry then
      match r.skip.peek with
      | .error e => .error e
      | .ok u => if u.kind = last then .ok (none, r.skip.skip) else .ok (some u, r.skip)
    else .error (fault t.start)

/-- The error where a node should start and nothing does. -/
def noContent (block : Bool) (start : Mark) (t : Token) : Error :=
  whileScanning (if block then "while parsing a block node" else "while parsing a flow node") start
    "did not find expected node content" t.start

/-- A collection of what was read. -/
def collect {α : Type} (make : α → Node) (r : Reading α) : Reading Node := (make r.1, r.2)

mutual

/-- Reads a node. The number bounds the tokens; `block` admits block collections, `indentless`
a block sequence at the column of the mapping around it. -/
def readNode (fuel : Nat) (block indentless : Bool) (r : Reader) : Reading Node :=
  match fuel with
  | 0 => stop .endOfStream
  | fuel + 1 =>
    match r.peek with
    | .error e => stop e
    | .ok t =>
      match t.kind with
      | .alias a =>
        match r.anchors.lookup a with
        | some n => (.alias t.start n, .ok r.skip)
        | none => stop (.unknownAnchor t.start)
      | _ =>
        match r.readProperties with
        | .error e => stop e
        | .ok (w, r) =>
          match r.peek with
          | .error e => stop e
          | .ok t =>
            match r.tagName w with
            | .error e => stop e
            | .ok tag =>
              let (anchor, named) := r.name w.anchor
              let p : Properties := ⟨w.start, tag, anchor⟩
              match t.kind, block with
              | .blockEntry, _ =>
                if indentless then collect (.sequence p) (readIndentless fuel named)
                else if w.anchor.isSome || tag.isSome then (.scalar p [] .plain, .ok named)
                else stop (noContent block w.start t)
              | .scalar text style, _ => (.scalar p text style, .ok named.skip)
              | .flowSequenceStart, _ => collect (.sequence p) (readFlowItems fuel t.start true named.skip)
              | .flowMappingStart, _ => collect (.mapping p) (readFlowEntries fuel t.start true named.skip)
              | .blockSequenceStart, true => collect (.sequence p) (readBlockItems fuel t.start named.skip)
              | .blockMappingStart, true => collect (.mapping p) (readBlockEntries fuel t.start named.skip)
              | _, _ =>
                if w.anchor.isSome || tag.isSome then (.scalar p [] .plain, .ok named)
                else stop (noContent block w.start t)

/-- Reads a node, unless one of some tokens shows that it is left out. -/
def readUnless (fuel : Nat) (block indentless : Bool) (ends : List TokenKind) (mark : Mark) (r : Reader) :
    Reading Node :=
  match fuel with
  | 0 => stop .endOfStream
  | fuel + 1 =>
    match r.peek with
    | .error e => stop e
    | .ok _ => if r.isAt ends then (.missing mark, .ok r) else readNode fuel block indentless r

/-- Reads the items of a block sequence. -/
def readBlockItems (fuel : Nat) (start : Mark) (r : Reader) : Reading (List Node) :=
  match fuel with
  | 0 => ([], .error .endOfStream)
  | fuel + 1 =>
    match r.peek with
    | .error e => ([.broken e], .error e)
    | .ok t =>
      match t.kind with
      | .blockEntry =>
        match readUnless fuel true false [.blockEntry, .blockEnd] t.stop r.skip with
        | (n, .error e) => ([n], .error e)
        | (n, .ok r) => let (ns, next) := readBlockItems fuel start r; (n :: ns, next)
      | .blockEnd => ([], .ok r.skip)
      | _ =>
        let e := whileScanning "while parsing a block collection" start "did not find expected '-' indicator" t.start
        ([.broken e], .error e)

/-- Reads the items of a block sequence that nothing but its entries shows. -/
def readIndentless (fuel : Nat) (r : Reader) : Reading (List Node) :=
  match fuel with
  | 0 => ([], .error .endOfStream)
  | fuel + 1 =>
    match r.peek with
    | .error e => ([.broken e], .error e)
    | .ok t =>
      match t.kind with
      | .blockEntry =>
        match readUnless fuel true false [.blockEntry, .key, .value, .blockEnd] t.stop r.skip with
        | (n, .error e) => ([n], .error e)
        | (n, .ok r) => let (ns, next) := readIndentless fuel r; (n :: ns, next)
      | _ => ([], .ok r)

/-- Reads the entries of a block mapping. -/
def readBlockEntries (fuel : Nat) (start : Mark) (r : Reader) : Reading (List (Node × Node)) :=
  match fuel with
  | 0 => ([], .error .endOfStream)
  | fuel + 1 =>
    match r.peek with
    | .error e => ([(.broken e, .broken e)], .error e)
    | .ok t =>
      match t.kind with
      | .key =>
        match readUnless fuel true true [.key, .value, .blockEnd] t.stop r.skip with
        | (k, .error e) => ([(k, .broken e)], .error e)
        | (k, .ok r) =>
          match r.peek with
          | .error e => ([(k, .broken e)], .error e)
          | .ok u =>
            let (v, next) :=
              if u.kind = .value then readUnless fuel true true [.key, .value, .blockEnd] u.stop r.skip
              else (.missing u.start, .ok r)
            match next with
            | .error e => ([(k, v)], .error e)
            | .ok r => let (es, next) := readBlockEntries fuel start r; ((k, v) :: es, next)
      | .blockEnd => ([], .ok r.skip)
      | _ =>
        let e := whileScanning "while parsing a block mapping" start "did not find expected key" t.start
        ([(.broken e, .broken e)], .error e)

/-- Reads the items of a flow sequence. An item `key: value` is a mapping by itself. -/
def readFlowItems (fuel : Nat) (start : Mark) (first : Bool) (r : Reader) : Reading (List Node) :=
  match fuel with
  | 0 => ([], .error .endOfStream)
  | fuel + 1 =>
    match r.nextInFlow first .flowSequenceEnd
        (whileScanning "while parsing a flow sequence" start "did not find expected ',' or ']'") with
    | .error e => ([.broken e], .error e)
    | .ok (none, r) => ([], .ok r)
    | .ok (some t, r) =>
      let (n, next) :=
        if t.kind = .key then
          let (es, next) := readFlowPair fuel r.skip
          (.mapping ⟨t.start, none, none⟩ es, next)
        else readNode fuel false false r
      match next with
      | .error e => ([n], .error e)
      | .ok r => let (ns, next) := readFlowItems fuel start false r; (n :: ns, next)

/-- Reads the one entry of a mapping that is an item of a flow sequence. -/
def readFlowPair (fuel : Nat) (r : Reader) : Reading (List (Node × Node)) :=
  match fuel with
  | 0 => ([], .error .endOfStream)
  | fuel + 1 =>
    match r.peek with
    | .error e => ([(.broken e, .broken e)], .error e)
    | .ok t =>
      let (k, next) :=
        if r.isAt [.value, .flowEntry, .flowSequenceEnd] then (.missing t.stop, .ok r.skip)
        else readNode fuel false false r
      match next with
      | .error e => ([(k, .broken e)], .error e)
      | .ok r =>
        match r.peek with
        | .error e => ([(k, .broken e)], .error e)
        | .ok u =>
          let (v, next) :=
            if u.kind = .value then readFlowValue fuel [.flowEntry, .flowSequenceEnd] r.skip
            else (.missing u.start, .ok r)
          ([(k, v)], next)

/-- Reads the value of an entry in a flow collection; if it is left out, it is there where
the next token starts. -/
def readFlowValue (fuel : Nat) (ends : List TokenKind) (r : Reader) : Reading Node :=
  match fuel with
  | 0 => stop .endOfStream
  | fuel + 1 =>
    match r.peek with
    | .error e => stop e
    | .ok t => readUnless fuel false false ends t.start r

/-- Reads the entries of a flow mapping. -/
def readFlowEntries (fuel : Nat) (start : Mark) (first : Bool) (r : Reader) : Reading (List (Node × Node)) :=
  match fuel with
  | 0 => ([], .error .endOfStream)
  | fuel + 1 =>
    match r.nextInFlow first .flowMappingEnd
        (whileScanning "while parsing a flow mapping" start "did not find expected ',' or '\x7d'") with
    | .error e => ([(.broken e, .broken e)], .error e)
    | .ok (none, r) => ([], .ok r)
    | .ok (some t, r) =>
      let keyed := t.kind = .key
      let (k, next) :=
        if keyed then readFlowValue fuel [.value, .flowEntry, .flowMappingEnd] r.skip
        else readNode fuel false false r
      match next with
      | .error e => ([(k, .broken e)], .error e)
      | .ok r =>
        match r.peek with
        | .error e => ([(k, .broken e)], .error e)
        | .ok u =>
          let (v, next) :=
            if keyed && u.kind = .value then readFlowValue fuel [.flowEntry, .flowMappingEnd] r.skip
            else (.missing u.start, .ok r)
          match next with
          | .error e => ([(k, v)], .error e)
          | .ok r => let (es, next) := readFlowEntries fuel start false r; ((k, v) :: es, next)

end

end Reader

end WrapShell.Yaml
