import WrapShell.Regex.Property
import WrapShell.Regex.Reader
import WrapShell.Regex.Normal
import WrapShell.Regex.Size
import WrapShell.Unicode.CaseFold
/-!
# Regular expressions

`Regex.read` works out the flags and the classes of an expression. What the flags forbid is
found here: without Unicode, no part may match a piece of a character.
-/

namespace WrapShell.Regex

/-- The flags that change what terms match. -/
structure Flags where
  caseInsensitive : Bool := false
  multiLine : Bool := false
  dotMatchesNewline : Bool := false
  swapGreed : Bool := false
  unicode : Bool := true
  carriageReturn : Bool := false
  deriving DecidableEq, Repr

/-- The flags after some are switched. -/
def Flags.switch (f : Flags) (items : FlagItems) : Flags :=
  { caseInsensitive := (items.state? .caseInsensitive).getD f.caseInsensitive
    multiLine := (items.state? .multiLine).getD f.multiLine
    dotMatchesNewline := (items.state? .dotMatchesNewline).getD f.dotMatchesNewline
    swapGreed := (items.state? .swapGreed).getD f.swapGreed
    unicode := (items.state? .unicode).getD f.unicode
    carriageReturn := (items.state? .carriageReturn).getD f.carriageReturn }

/-- A set with all case variants of its characters, if the flags ask for them. -/
def Flags.folded (f : Flags) (set : CharSet) : CharSet :=
  if !f.caseInsensitive then set else if f.unicode then set.folded else set.foldedAscii

/-- A character, with all its case variants if the flags ask for them. -/
def Flags.variants (f : Flags) (c : Char) : CharSet :=
  if !f.caseInsensitive then .singleton c
  else if f.unicode then .variantsOf c
  else (CharSet.singleton c).foldedAscii

/-! ## Classes -/

/-- The characters of a named ASCII class. -/
def AsciiClass.set (k : AsciiClass) : CharSet :=
  .ofCodes ((List.range 128).filter fun n => k.holds (Char.ofNat n))

/-- A class with a letter of its own. -/
def Shorthand.set (k : Shorthand) (unicode : Bool) : CharSet :=
  match k, unicode with
  | .digit, true => Category.decimalNumber
  | .space, true => Trait.whiteSpace
  | .word, true => Trait.word
  | .digit, false => AsciiClass.digit.set
  | .space, false => AsciiClass.space.set
  | .word, false => AsciiClass.word.set

/-- Some set operation. -/
def SetOperation.apply (op : SetOperation) (a b : CharSet) : CharSet :=
  match op with
  | .intersection => a.inter b
  | .difference => a.diff b
  | .symmetricDifference => a.xor b

/-- A set, or all that is outside it. Without Unicode nothing lies outside: that would be pieces of
characters. -/
def Flags.negatedIf (f : Flags) (s : Span) (negated : Bool) (set : CharSet) : Except Fault CharSet :=
  if !negated then .ok set
  else if f.unicode then .ok set.compl
  else .error ⟨.invalidBytes, s, none⟩

/-- What the flags forbid about a character inside brackets. -/
def Flags.refusal? (f : Flags) (l : Literal) : Option Fault :=
  if f.unicode || l.char.toNat < 0x80 then none
  else some ⟨if l.byte then .invalidBytes else .unicodeNotAllowed, l.span, none⟩

mutual

/-- The set of characters that a term inside brackets stands for. -/
def classSet (f : Flags) : Term → Except Fault CharSet
  | .literal l =>
    match f.refusal? l with
    | some e => .error e
    | none => .ok (.singleton l.char)
  | .range _ first last =>
    match (f.refusal? first).or (f.refusal? last) with
    | some e => .error e
    | none => .ok (.ofRange first.char.toNat last.char.toNat)
  | .shorthand s k negated => f.negatedIf s negated (k.set f.unicode)
  | .property s negated name value =>
    if f.unicode then (propertySet s name value).bind fun set => f.negatedIf s negated (f.folded set)
    else .error ⟨.unicodeNotAllowed, s, none⟩
  | .ascii s k negated => f.negatedIf s negated (f.folded k.set)
  | .union _ ts => unionSet f ts
  | .combined _ op l r =>
    match classSet f l with
    | .error e => .error e
    | .ok a =>
      match classSet f r with
      | .error e => .error e
      | .ok b => .ok (op.apply (f.folded a) (f.folded b))
  | .bracketed s negated t => (classSet f t).bind fun set => f.negatedIf s negated (f.folded set)
  | _ => .ok .empty

/-- The characters of some terms together. -/
def unionSet (f : Flags) : List Term → Except Fault CharSet
  | [] => .ok .empty
  | t :: ts =>
    match classSet f t with
    | .error e => .error e
    | .ok a => (unionSet f ts).map fun b => a.union b

end

/-! ## Terms -/

/-- What an assertion asks under some flags. -/
def lookOf (f : Flags) : Assertion → Look
  | .lineStart =>
    if !f.multiLine then .textStart else if f.carriageReturn then .returnStart else .lineStart
  | .lineEnd => if !f.multiLine then .textEnd else if f.carriageReturn then .returnEnd else .lineEnd
  | .textStart => .textStart
  | .textEnd => .textEnd
  | a => .word a f.unicode

/-- The characters that a dot stands for. -/
def dotSet (f : Flags) : CharSet :=
  if f.dotMatchesNewline then .scalars
  else if f.carriageReturn then ((CharSet.singleton '\n').union (.singleton '\r')).compl
  else (CharSet.singleton '\n').compl

mutual

/-- The pattern of a term, and the flags behind it. -/
def patternOf (f : Flags) : Term → Except Fault (Pattern × Flags)
  | .empty _ => .ok (.empty, f)
  | .flags _ items => .ok (.empty, f.switch items)
  | .literal l =>
    if !f.unicode && l.byte && 0x80 ≤ l.char.toNat then .error ⟨.invalidBytes, l.span, none⟩
    else .ok (.ofSet (f.variants l.char), f)
  | .dot s => if f.unicode then .ok (.ofSet (dotSet f), f) else .error ⟨.invalidBytes, s, none⟩
  | .assertion _ a => .ok (.look (lookOf f a), f)
  | t@(.shorthand _ _ _) | t@(.property _ _ _ _) | t@(.bracketed _ _ _) =>
    (classSet f t).map fun set => (.ofSet set, f)
  | .repetition _ least greatest isLazy r =>
    (patternOf f r).map fun (p, _) => (.repeated least greatest (isLazy == f.swapGreed) p, f)
  | .group _ items remembered r =>
    (patternOf (f.switch items) r).map fun (p, _) => (if remembered then .capture p else p, f)
  | .alternation _ rs => (patternsOf f rs).map fun (ps, f) => (.alternatives ps, f)
  | .concat _ rs => (patternsOf f rs).map fun (ps, f) => (.concat ps, f)
  | _ => .ok (.empty, f)

/-- The patterns of terms, each under the flags behind the one before. -/
def patternsOf (f : Flags) : List Term → Except Fault (List Pattern × Flags)
  | [] => .ok ([], f)
  | t :: ts =>
    match patternOf f t with
    | .error e => .error e
    | .ok (p, f) => (patternsOf f ts).map fun (ps, f) => (p :: ps, f)

end

end WrapShell.Regex

namespace WrapShell

/-- A regular expression that was read. -/
structure Regex where
  source : Text
  pattern : Regex.Pattern

namespace Regex

/-- Reads an expression. The error is the whole wording of what is wrong. -/
def read (source : Text) : Except Text Regex :=
  match (Term.read source).bind (patternOf {}) with
  | .error e => .error (e.message source)
  | .ok (pattern, _) => if pattern.isTooLarge then .error tooLarge else .ok ⟨source, pattern⟩

/-- Whether an expression matches some part of a text. -/
def isMatch (r : Regex) (t : Text) : Bool := r.pattern.isMatch t

end Regex

end WrapShell
