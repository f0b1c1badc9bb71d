import WrapShell.Line.Reader
import WrapShell.Line.Render
import WrapShell.Program.Run
import WrapShell.Session.Builtin
import WrapShell.Suggest.CommandTree
/-!
# Completing a line

The word to be completed is what stands behind the last blank. On a builtin line only the first
word is completed, to the names of builtins; elsewhere the command tree decides, or the files if
there is none.
-/

namespace WrapShell

/-- What is offered for a line: candidates that replace what follows the byte `start`. -/
structure Completion where
  start : Nat
  candidates : List Candidate
  deriving DecidableEq, Repr

namespace Completion

/-- The part of a text behind its last blank. -/
def lastWord (t : Text) : Text := (t.reverse.takeWhile (!isBlank ·)).reverse

/-- The builtins that start with `word`. -/
def builtins (word : Text) : List Candidate :=
  (Builtin.all.filter fun b => Text.startsWith b.name word).map fun b => ⟨b.invocation, b.summary⟩

/-- What is offered for the text before the cursor. -/
def ofLine (tree? : Option CommandTree) (ask : Ask) (here : Place) (before : Text) : Completion :=
  let word := lastWord before
  let start := Text.utf8Size before - Text.utf8Size word
  match Text.after? builtinMark before with
  | some name => ⟨start, if start = 0 then builtins name else []⟩
  | none =>
    match tree? with
    | none => ⟨start, here.fileCandidates word⟩
    | some tree =>
      match Command.read before with
      | .error _ => ⟨start, []⟩
      | .ok command => ⟨start, tree.suggest ask here command.renderArgs (word ≠ [])⟩

/-- What the output of programs is taken from: a program is looked for in the search path, given
some bindings, and only what it writes regularly counts. -/
def askBy (run : Runner) (searchPath : Text) (here : Place) (bindings : List Text) : Ask
  | [] => none
  | program :: arguments =>
    let call : Call := ⟨program, program, arguments, bindings⟩
    if call.hasNul then none
    else
      match runByName run searchPath here call with
      | .ok o => some (Text.ofUtf8 o.output.stdout)
      | .error _ => none

end Completion

end WrapShell
