import WrapShell.Text.Keyed
/-!
# Variables

The variables of a session, each name once and in code point order. `get?_set` and `get?_erase`
say what a change does to each of them.
-/

namespace WrapShell

/-- A character of a plain name: an ASCII letter or digit, or `_`. -/
def isPlainNameChar (c : Char) : Bool := c.isAlphanum || c == '_'

/-- A plain name: the only kind the environment of a process gives or takes. -/
def isPlainName (name : Text) : Bool := !name.isEmpty && name.all isPlainNameChar

/-- Variables and their values, in code point order of the names. -/
structure Variables where
  bindings : Keyed Text
  deriving DecidableEq, Repr

namespace Variables

/-- No variables. -/
def empty : Variables := ⟨[]⟩

def get? (vars : Variables) (name : Text) : Option Text := vars.bindings.lookup name

/-- The value of a variable; one that is not set is empty. -/
def value (vars : Variables) (name : Text) : Text := (vars.get? name).getD []

def set (vars : Variables) (name value : Text) : Variables := ⟨Keyed.insert name value vars.bindings⟩

def erase (vars : Variables) (name : Text) : Variables := ⟨Keyed.erase name vars.bindings⟩

@[simp] theorem get?_set (vars : Variables) (name value n : Text) :
    (vars.set name value).get? n = if n = name then some value else vars.get? n :=
  Keyed.lookup_insert name value vars.bindings n

@[simp] theorem get?_erase (vars : Variables) (name n : Text) :
    (vars.erase name).get? n = if n = name then none else vars.get? n :=
  Keyed.lookup_erase name vars.bindings n

/-- Variables that hold the given bindings; of two with one name the later counts. -/
def ofList (bs : List (Text × Text)) : Variables := ⟨Keyed.ofList bs⟩

/-- The variables that a process hands on: bindings without a plain name are left out. -/
def inherited (bs : List (Text × Text)) : Variables := ofList (bs.filter fun b => isPlainName b.1)

end Variables

/-- Why a text is no binding `NAME=VALUE`. -/
inductive BindingError where
  | noEquals (binding : Text)
  | invalidName (name : Text)
  deriving DecidableEq, Repr

/-- The wording of an error. -/
def BindingError.message : BindingError → Text
  | .noEquals binding => "no '=' found in environment variable '" ++ binding ++ "'"
  | .invalidName name => "invalid identifier '" ++ name ++ "', must match pattern ^[a-zA-Z0-9_]+$"

/-- The name and the value of a binding `NAME=VALUE`; the value may hold more equals signs. -/
def readBinding (binding : Text) : Except BindingError (Text × Text) :=
  match binding.dropWhile (· != '=') with
  | [] => .error (.noEquals binding)
  | _ :: value =>
    let name := binding.takeWhile (· != '=')
    if isPlainName name then .ok (name, value) else .error (.invalidName name)

end WrapShell
