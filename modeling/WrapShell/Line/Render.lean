import WrapShell.Line.Basic
/-!
# Writing a line

A node is written the way it is read: a quote gets its delimiters back, and inside it the
delimiter is escaped. Arguments are separated by one space.
-/

namespace WrapShell

/-- `t` with a backslash before every `delimiter`. -/
def escaping (delimiter : Char) (t : Text) : Text :=
  t.flatMap fun c => if c = delimiter then ['\\', c] else [c]

@[simp] theorem escaping_nil (d : Char) : escaping d [] = [] := rfl

namespace Node

mutual

/-- The written form of a node. -/
def render : Node → Text
  | .word value => value
  | .quoted value => escaping '"' value
  | .single value => '\'' :: escaping '\'' value ++ ['\'']
  | .double children => '"' :: renderAll children ++ ['"']
  | .var name => '$' :: name

/-- The written form of a run of nodes. -/
def renderAll : List Node → Text
  | [] => []
  | n :: ns => render n ++ renderAll ns

end

theorem renderAll_eq_flatMap (ns : List Node) : renderAll ns = ns.flatMap render := by
  induction ns with
  | nil => rfl
  | cons n ns ih => simp [renderAll, ih]

end Node

/-- The written form of an argument. -/
def Arg.render (a : Arg) : Text := Node.renderAll a.nodes

namespace Command

/-- The written form of each argument. -/
def renderArgs (c : Command) : List Text := c.args.map Arg.render

/-- The written form of a line. -/
def render (c : Command) : Text := List.intercalate [' '] c.renderArgs

end Command

end WrapShell
