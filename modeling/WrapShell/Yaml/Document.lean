import WrapShell.Yaml.Node
/-!
# Documents

A YAML text that is read for one value holds one document. What is wrong in the text only
behind the value is reported after everything else.
-/

namespace WrapShell.Yaml

/-- The document of a text. -/
structure Document where
  root : Node
  /-- What is wrong behind the value, or what the value breaks off with. -/
  fault : Option Error
  deriving Repr

namespace Document

/-- Reads the directives in front of a document. -/
def readDirectives (fuel : Nat) (version : Bool) (r : Reader) : Except Error Reader :=
  match fuel with
  | 0 => .error .endOfStream
  | fuel + 1 =>
    match r.peek with
    | .error e => .error e
    | .ok t =>
      match t.kind with
      | .versionDirective major minor =>
        if version then .error (.malformed "found duplicate %YAML directive" t.start none)
        else if major = 1 && (minor = 1 || minor = 2) then readDirectives fuel true r.skip
        else .error (.malformed "found incompatible YAML document" t.start none)
      | .tagDirective handle start =>
        if (r.handles.lookup handle).isSome then
          .error (.malformed "found duplicate %TAG directive" t.start none)
        else readDirectives fuel version { r.skip with handles := r.handles ++ [(handle, start)] }
      | _ => .ok r

/-- Reads what opens a document, from directives to `---`; a bare document has nothing there. -/
def readOpening (r : Reader) : Except Error (Bool × Reader) :=
  match readDirectives (r.tokens.length + 1) false r with
  | .error e => .error e
  | .ok opened =>
    let ready := { opened with handles := opened.handles ++ Reader.standardHandles }
    match opened.peek with
    | .error e => .error e
    | .ok t =>
      if t.kind = .documentStart then .ok (true, ready.skip)
      else if opened.tokens.length = r.tokens.length then .ok (false, ready)
      else .error (.malformed "did not find expected <document start>" t.start none)

/-- Reads the root of a document. Behind `---` it may be left out. -/
def readRoot (marked : Bool) (r : Reader) : Reading Node :=
  match r.peek with
  | .error e => Reader.stop e
  | .ok t =>
    let bound := 2 * r.tokens.length + 8
    let isEnd := match t.kind with
      | .versionDirective _ _ | .tagDirective _ _ | .documentStart | .documentEnd | .streamEnd => true
      | _ => false
    if marked && isEnd then (.missing t.start, .ok r) else Reader.readNode bound true false r

/-- What is wrong behind the root: an error, or more than the end of the text. -/
def trailingFault (r : Reader) : Option Error :=
  match r.peek with
  | .error e => some e
  | .ok _ =>
    match r.tokens.dropWhile (·.kind == .documentEnd) with
    | [⟨.streamEnd, _, _⟩] => none
    | _ => some .moreThanOneDocument

/-- The document of a text. -/
def ofText (text : Text) : Document :=
  let (tokens, ending) := scan text
  let r : Reader :=
    { tokens := tokens.dropWhile (·.kind == .streamStart), ending := ending.getD .endOfStream
      anchors := [], handles := [] }
  match r.tokens with
  | [⟨.streamEnd, _, _⟩] => ⟨.void, none⟩
  | _ =>
    match readOpening r with
    | .error e => ⟨.broken e, some e⟩
    | .ok (marked, r) =>
      match readRoot marked r with
      | (root, .error e) => ⟨root, some e⟩
      | (root, .ok r) => ⟨root, trailingFault r⟩

end Document

end WrapShell.Yaml
