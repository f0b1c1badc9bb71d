import Mathlib.Data.List.Chain
import WrapShell.Line.Reader
import WrapShell.Text.Escape
/-!
# Canonical lines

The nodes, arguments and lines that reading gives. A tree put together by hand need not be one:
a name may run on into the word behind it, or a quote may hold what its written form cannot.
-/

namespace WrapShell

def isQuote (c : Char) : Bool := c == '\'' || c == '"'

/-- A text without a live quote or blank, as a bare word has it. -/
def isWordText (dangling : Bool) (v : Text) : Bool :=
  v.escapes (fun c => !(isQuote c || isBlank c)) (fun _ => true) dangling

theorem isWordText_char {d : Bool} {c : Char} {t : Text} (h : c ≠ '\\') :
    isWordText d (c :: t) = (!(isQuote c || isBlank c) && isWordText d t) := Text.escapes_char h

def isName (name : Text) : Prop := name ≠ [] ∧ ∀ c ∈ name, isNameChar c

instance (name : Text) : Decidable (isName name) :=
  @instDecidableAnd (name ≠ []) _ _ (List.decidableBAll (isNameChar ·) name)

namespace Node

/-- Whether `n` may stand right behind `m`: it must not be taken for more of `m`. -/
def MayPrecede (m n : Node) : Prop :=
  match m, n with
  | .word _, .single _ | .word _, .double _ => True
  | .word _, _ => False
  | .quoted _, .quoted _ => False
  | .var _, .word v | .var _, .quoted v => ∀ c ∈ v.head?, isNameChar c = false
  | _, _ => True

instance (m n : Node) : Decidable (m.MayPrecede n) :=
  match m, n with
  | .word _, .single _ | .word _, .double _ => isTrue trivial
  | .word _, .word _ | .word _, .quoted _ | .word _, .var _ => isFalse id
  | .quoted _, .quoted _ => isFalse id
  | .var _, .word v | .var _, .quoted v => Option.decidableForallMem v.head?
  | .var _, .single _ | .var _, .double _ | .var _, .var _ => isTrue trivial
  | .quoted _, .word _ | .quoted _, .single _ | .quoted _, .double _ | .quoted _, .var _ => isTrue trivial
  | .single _, _ => isTrue trivial
  | .double _, _ => isTrue trivial

/-- A child of a double quote: a name, or a run with a backslash before each `$` and none before
a double quote. -/
def IsChild : Node → Prop
  | .quoted v => v ≠ [] ∧ v.escapes (· != '$') (· != '"') false
  | .var name => isName name
  | _ => False

instance (n : Node) : Decidable n.IsChild :=
  match n with
  | .quoted v => inferInstanceAs (Decidable (v ≠ [] ∧ v.escapes (· != '$') (· != '"') false))
  | .var name => inferInstanceAs (Decidable (isName name))
  | .word _ | .single _ | .double _ => isFalse id

/-- A node outside quotes. -/
def IsCanonical : Node → Prop
  | .word v => v ≠ [] ∧ v.head? ≠ some '$' ∧ isWordText true v
  | .quoted _ => False
  | .single v => v.escapes (fun _ => true) (· != '\'') false
  | .double ns => (∀ n ∈ ns, n.IsChild) ∧ ns.IsChain MayPrecede
  | .var name => isName name

instance (n : Node) : Decidable n.IsCanonical :=
  match n with
  | .word v => inferInstanceAs (Decidable (v ≠ [] ∧ v.head? ≠ some '$' ∧ isWordText true v))
  | .quoted _ => isFalse id
  | .single v => inferInstanceAs (Decidable (v.escapes (fun _ => true) (· != '\'') false = true))
  | .double ns => inferInstanceAs (Decidable ((∀ n ∈ ns, n.IsChild) ∧ ns.IsChain MayPrecede))
  | .var name => inferInstanceAs (Decidable (isName name))

/-- No backslash at the end of the node waits for another character. -/
def IsClosed : Node → Prop
  | .word v => isWordText false v
  | _ => True

instance (n : Node) : Decidable n.IsClosed :=
  match n with
  | .word v => inferInstanceAs (Decidable (isWordText false v = true))
  | .quoted _ | .single _ | .double _ | .var _ => isTrue trivial

end Node

/-- The lines that reading gives. Only the last node of all may leave a backslash open. -/
structure Command.IsCanonical (c : Command) : Prop where
  nonempty : ∀ a ∈ c.args, a.nodes ≠ []
  nodes : ∀ a ∈ c.args, ∀ n ∈ a.nodes, n.IsCanonical
  chain : ∀ a ∈ c.args, a.nodes.IsChain Node.MayPrecede
  closed : ∀ n ∈ (c.args.flatMap Arg.nodes).dropLast, n.IsClosed

instance (c : Command) : Decidable c.IsCanonical :=
  decidable_of_iff
    ((∀ a ∈ c.args, a.nodes ≠ []) ∧ (∀ a ∈ c.args, ∀ n ∈ a.nodes, n.IsCanonical) ∧
      (∀ a ∈ c.args, a.nodes.IsChain Node.MayPrecede) ∧ ∀ n ∈ (c.args.flatMap Arg.nodes).dropLast, n.IsClosed)
    ⟨fun ⟨h₁, h₂, h₃, h₄⟩ => ⟨h₁, h₂, h₃, h₄⟩, fun ⟨h₁, h₂, h₃, h₄⟩ => ⟨h₁, h₂, h₃, h₄⟩⟩

end WrapShell
