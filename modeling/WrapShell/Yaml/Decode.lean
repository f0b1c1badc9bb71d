import WrapShell.Yaml.Document
import WrapShell.Yaml.Plain
/-!
# Values from nodes

A decoder turns a node into a value of the kind that is asked for. It follows aliases, but only
so many, and goes only so deep. What is wrong is reported with the place of the node and the
path to it. Where a collection is asked for, a value that is left out is an empty one.
-/

namespace WrapShell.Yaml

/-- A computation that may follow so many more aliases. -/
abbrev Decoder := StateT Nat (Except Error)

/-- Where a node stands: the path to it, the path and the place of the collection around it, how
many collections may still lie inside, and the anchored nodes of its document. -/
structure Site where
  path : Text
  outer : Text × Mark
  depth : Nat
  anchors : List (Nat × Node)

namespace Site

/-- The greatest number of collections inside each other. -/
def maxDepth : Nat := 128

/-- The site of the root of a document. -/
def root (n : Node) : Site := ⟨['.'], (['.'], .origin), maxDepth, n.anchors⟩

/-- The site of an item of a sequence. -/
def item (s : Site) (i : Nat) : Site := { s with path := s.path ++ '[' :: Text.ofNat i ++ [']'] }

/-- The site of an entry of a mapping. -/
def entry (s : Site) (key : Text) : Site :=
  { s with path := if s.path = ['.'] then key else s.path ++ '.' :: key }

/-- The site of the value under a key. -/
def under (s : Site) : Node → Site
  | .scalar _ key _ => s.entry key
  | _ => s.entry ['?']

end Site

namespace Node

/-- Where a node starts. -/
def mark : Node → Mark
  | .scalar p _ _ | .sequence p _ | .mapping p _ => p.mark
  | .alias m _ => m
  | _ => .origin

/-- The tag of a kind of scalar. -/
def kindTag (name : Text) : Bytes := Text.utf8 ("tag:yaml.org,2002:" ++ name)

/-- What a node is, for a message. -/
def description (expected : Text) : Node → Text
  | .scalar p t style =>
    let as (v : Plain) : Text := "invalid type: " ++ v.description ++ ", expected " ++ expected
    let not (kind : Text) : Text := "invalid value: string " ++ Text.quoted t ++ ", expected " ++ kind
    let untagged := if style = .plain then Plain.ofText t else .string t
    match p.tag with
    | none => as untagged
    | some tag =>
      if tag = kindTag "bool" then ((readBool? t).map fun b => as (.bool b)).getD (not "a boolean")
      else if tag = kindTag "int" then ((readInt? t).map fun n => as (.integer n)).getD (not "an integer")
      else if tag = kindTag "float" then ((readFraction? t).map fun f => as (.fraction f)).getD (not "a float")
      else if tag = kindTag "null" then if isNull t then as .null else not "null"
      else as (if (Text.ofUtf8 tag).head? = some '!' then untagged else .string t)
  | .mapping _ _ => "invalid type: map, expected " ++ expected
  | _ => "invalid type: sequence, expected " ++ expected

/-- The error at a node with a message of its own. -/
def fault (site : Site) (n : Node) (message : Text) : Error := .value message n.mark site.path

/-- The error for a node of another kind than expected. -/
def mismatch (site : Site) (expected : Text) : Node → Error
  | .broken e => e
  | .void => .endOfStream
  | n => n.fault site (n.description expected)

/-- Whether a node is left out, so that it can stand for an empty collection. -/
def isLeftOut : Node → Bool
  | .void => true
  | .scalar _ t style => t == [] && style == .plain
  | _ => false

/-- What breaks off inside a node, if it breaks off. -/
def brokenWith? (n : Node) : Option Error :=
  n.nodes.findSome? fun m => match m with
    | .broken e => some e
    | _ => none

end Node

namespace Decoder

/-- Passes over a node whose value is not asked for. -/
def ignore (n : Node) : Decoder Unit :=
  match n.brokenWith? with
  | some e => throw e
  | none => pure ()

/-- Follows an alias to its node. -/
def follow (site : Site) (n : Node) : Decoder Node :=
  match n with
  | .alias _ a => do
    match ← get with
    | 0 => throw .tooManyAliases
    | left + 1 =>
      set left
      pure ((site.anchors.lookup a).getD n)
  | n => pure n

/-- The site inside a collection. -/
def inside (site : Site) (n : Node) : Decoder Site :=
  match site.depth with
  | 0 => throw (.tooDeep n.mark)
  | depth + 1 => pure { site with depth, outer := (site.path, n.mark) }

/-- Any scalar as a string. -/
def string (expected : Text) (site : Site) (n : Node) : Decoder Text := do
  match ← follow site n with
  | .scalar _ t _ => pure t
  | n => throw (n.mismatch site expected)

/-- The items of a sequence, each with its number. -/
def items {α : Type} (item : Site → Node → Decoder α) (site : Site) (i : Nat) : List Node → Decoder (List α)
  | [] => pure []
  | n :: ns => do
    let a ← item (site.item i) n
    let as ← items item site (i + 1) ns
    pure (a :: as)

/-- A sequence. -/
def list {α : Type} (item : Site → Node → Decoder α) (site : Site) (n : Node) : Decoder (List α) := do
  let n ← follow site n
  match n with
  | .sequence _ ns => items item (← inside site n) 0 ns
  | n => if n.isLeftOut then pure [] else throw (n.mismatch site "a sequence")

/-- The entries of a mapping with any keys, in order. -/
def pairs {α : Type} (value : Site → Node → Decoder α) (site : Site) : List (Node × Node) → Decoder (List (Text × α))
  | [] => pure []
  | (k, v) :: es => do
    let key ← string "a string" site k
    let a ← value (site.under k) v
    let rest ← pairs value site es
    pure ((key, a) :: rest)

/-- A mapping with any keys. -/
def map {α : Type} (value : Site → Node → Decoder α) (site : Site) (n : Node) : Decoder (List (Text × α)) := do
  let n ← follow site n
  match n with
  | .mapping _ es => pairs value (← inside site n) es
  | n => if n.isLeftOut then pure [] else throw (n.mismatch site "a map")

/-- A record: its name, its fields in order, and those that may not be left out. -/
structure Shape where
  name : Text
  fields : List Text
  required : List Text

/-- The fields of a record that is written as a mapping. Other keys count for nothing, and no
field may come twice. `seen` are the fields so far. -/
def keyed {α : Type} (shape : Shape) (field : α → Text → Site → Node → Decoder α) (whole site : Site) (n : Node)
    (seen : List Text) (a : α) : List (Node × Node) → Decoder α
  | [] =>
    match shape.required.find? (!seen.contains ·) with
    | some f => throw (n.fault whole ("missing field `" ++ f ++ "`"))
    | none => pure a
  | (k, v) :: es => do
    let key ← string "field identifier" site k
    if shape.fields.contains key then
      if seen.contains key then throw (n.fault whole ("duplicate field `" ++ key ++ "`"))
      else do
        let a ← field a key (site.under k) v
        keyed shape field whole site n (key :: seen) a es
    else do
      ignore v
      keyed shape field whole site n seen a es

/-- A record. `field` takes in the value of one field. -/
def record {α : Type} (shape : Shape) (field : α → Text → Site → Node → Decoder α) (start : α) (site : Site)
    (n : Node) : Decoder α := do
  let n ← follow site n
  match n with
  | .mapping _ es => keyed shape field site (← inside site n) n [] start es
  | n =>
    if n.isLeftOut then keyed shape field site site n [] start []
    else throw (n.mismatch site ("struct " ++ shape.name))

/-- The wording for a name that is none of those expected. -/
def unknownVariant (name : Text) (names : List Text) : Text :=
  "unknown variant `" ++ name ++ "`, expected one of " ++
    Text.join ", " (names.map fun v => "`" ++ v ++ "`")

/-- The name that a node gives by its tag: what follows the `!`, or the `!` if it stands alone. -/
def tagged? (n : Node) : Option Text :=
  match n.properties?.bind Properties.tag with
  | none => none
  | some tag =>
    match Text.ofUtf8 tag with
    | '!' :: name => if Text.utf8 ('!' :: name) = tag then some (if name = [] then ['!'] else name) else none
    | _ => none

/-- One of some names: a scalar, or a tag on nothing. A tag has no place of its own: one that is
unknown is reported at the alias that leads to it, or else at the collection around. -/
def variant {α : Type} (names : List (Text × α)) (site : Site) (n : Node) : Decoder α := do
  let target ← follow site n
  let unknown (name : Text) : Text := unknownVariant name (names.map Prod.fst)
  let (path, mark) := match n with
    | .alias m _ => (site.path, m)
    | _ => site.outer
  match tagged? target with
  | some name =>
    match names.lookup name with
    | none => throw (.value (unknown name) mark path)
    | some a =>
      match target with
      | .scalar _ t .plain => if t = [] || isNull t then pure a else throw (target.fault site (asNull t))
      | .scalar _ t _ => throw (target.fault site (asNull t))
      | _ => throw (target.mismatch site "unit")
  | none =>
    match target with
    | .scalar _ t _ =>
      match names.lookup t with
      | some a => pure a
      | none => throw (target.fault site (unknown t))
    | _ => throw (target.mismatch site "a YAML tag starting with '!'")
where
  /-- What is wrong with a text that should be nothing. -/
  asNull (t : Text) : Text := "invalid value: string " ++ Text.quoted t ++ ", expected null"

end Decoder

/-- Reads a text for one value. -/
def decode {α : Type} (decoder : Site → Node → Decoder α) (text : Text) : Except Error α :=
  let d := Document.ofText text
  match (decoder (.root d.root) d.root).run (100 * d.root.size) with
  | .error e => .error e
  | .ok (a, _) =>
    match d.fault with
    | some e => .error e
    | none => .ok a

end WrapShell.Yaml
