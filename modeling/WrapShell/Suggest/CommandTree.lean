import WrapShell.Suggest.Candidate
import WrapShell.Text.Keyed
/-!
# Command trees

A command tree describes a program to whoever types its arguments: its subcommands, its flags
and where the values of either come from. Words are walked from the root of the tree; what is
offered next depends on where they lead.
-/

namespace WrapShell

/-- What kind of value an argument takes. -/
inductive ValueKind where
  /-- A value, if some are known. -/
  | default
  /-- Any value. -/
  | value
  /-- A path. -/
  | path
  /-- No value. -/
  | none
  deriving DecidableEq, Repr, Inhabited

/-- Where the values of an argument come from. -/
structure ValueSource where
  kind : ValueKind := .default
  choices : List Text := []
  /-- A program and its arguments; the lines it writes are the values. -/
  program : List Text := []
  deriving DecidableEq, Repr, Inhabited

/-- What is known about a flag. -/
structure FlagInfo where
  description : Text := []
  source : ValueSource := {}
  deriving DecidableEq, Repr, Inhabited

/-- What is known about a command: its subcommands and flags are sorted by name. -/
structure CommandTree where
  description : Text := []
  subcommands : List (Text × CommandTree) := []
  flags : Keyed FlagInfo := []
  source : ValueSource := {}
  deriving Repr, Inhabited

/-- What a program with its arguments writes, if it can be run. -/
abbrev Ask := List Text → Option Text

namespace ValueSource

/-- Whether a flag with this argument takes the next word. -/
def expectsValue (s : ValueSource) : Bool :=
  match s.kind with
  | .default => !s.choices.isEmpty || !s.program.isEmpty
  | .none => false
  | .value | .path => true

/-- The values of a source that start with `word`. A program comes before choices, and choices
come before paths. -/
def candidates (s : ValueSource) (ask : Ask) (here : Place) (word : Text) : List Candidate :=
  let startingWith (values : List Text) : List Candidate :=
    (values.filter (Text.startsWith · word)).map Candidate.plain
  if s.program ≠ [] then startingWith ((((ask s.program).map Text.lines).getD []).filter (· ≠ []))
  else if s.choices ≠ [] then startingWith s.choices
  else if s.kind = .path then here.pathCandidates word
  else []

end ValueSource

namespace CommandTree

/-- Where some words lead, and the flag that waits for its value then. -/
def walk (t : CommandTree) (pending : Option FlagInfo) : List Text → CommandTree × Option FlagInfo
  | [] => (t, pending)
  | word :: words =>
    match t.subcommands.lookup word with
    | some sub => walk sub none words
    | none => walk t ((t.flags.lookup word).filter (·.source.expectsValue)) words

/-- The subcommands that start with `word`. -/
def subcommandCandidates (t : CommandTree) (word : Text) : List Candidate :=
  (t.subcommands.filter fun e => Text.startsWith e.1 word).map fun e => ⟨e.1, e.2.description⟩

/-- The flags that start with `word`. -/
def flagCandidates (t : CommandTree) (word : Text) : List Candidate :=
  (t.flags.filter fun e => Text.startsWith e.1 word).map fun e => ⟨e.1, e.2.description⟩

/-- What is offered at a command, before sorting. Nothing typed yet differs from the empty word
only in that it is no flag. -/
def offers (t : CommandTree) (pending : Option FlagInfo) (ask : Ask) (here : Place) (word : Text) :
    List Candidate :=
  if word.head? = some '-' then t.flagCandidates word
  else
    match pending with
    | some flag => flag.source.candidates ask here word
    | none =>
      if t.subcommands.isEmpty then t.source.candidates ask here word else t.subcommandCandidates word

/-- What is offered after some words. If `partly` is set, the last of them is still being typed. -/
def suggest (t : CommandTree) (ask : Ask) (here : Place) (words : List Text) (partly : Bool) : List Candidate :=
  let (walked, word) : List Text × Text := if partly then (words.dropLast, words.getLastD []) else (words, [])
  let (command, pending) := t.walk none walked
  Candidate.sort (command.offers pending ask here word)

end CommandTree

end WrapShell
