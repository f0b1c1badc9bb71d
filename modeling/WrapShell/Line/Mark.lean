import WrapShell.Text.Basic
/-!
# Builtin lines

A line that starts with `!!` is for the shell itself and not for the base command.
-/

namespace WrapShell

/-- What marks a builtin line. -/
def builtinMark : Text := ['!', '!']

/-- Whether a line is for the shell itself. -/
def isBuiltinLine (line : Text) : Bool := Text.startsWith line builtinMark

end WrapShell
