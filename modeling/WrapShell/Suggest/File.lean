import WrapShell.Suggest.CommandTree
import WrapShell.Yaml.Decode
/-!
# Files of suggestions

A command tree is kept in a YAML file. All fields may be left out, and fields that are not
known count for nothing.
-/

namespace WrapShell

open Yaml (Site Decoder)

/-- The kinds of values and their names. -/
def ValueKind.names : List (Text × ValueKind) :=
  [("default", .default), ("value", .value), ("path", .path), ("none", .none)]

/-- Reads where values come from. -/
def ValueSource.decoder : Site → Yaml.Node → Decoder ValueSource :=
  Decoder.record ⟨"ArgSuggestion", ["kind".toList, "choices".toList, "cmd".toList], []⟩
    (fun s field site n =>
      if field = "kind" then do pure { s with kind := ← Decoder.variant ValueKind.names site n }
      else do
        let texts ← Decoder.list (Decoder.string "a string") site n
        pure (if field = "choices" then { s with choices := texts } else { s with program := texts }))
    {}

/-- Reads what is known about a flag. -/
def FlagInfo.decoder : Site → Yaml.Node → Decoder FlagInfo :=
  Decoder.record ⟨"FlagSuggestion", ["description".toList, "args".toList], []⟩
    (fun f field site n =>
      if field = "description" then do pure { f with description := ← Decoder.string "a string" site n }
      else do pure { f with source := ← ValueSource.decoder site n })
    {}

namespace CommandTree

/-- Reads a command tree. The number bounds how deep subcommands lie inside each other. -/
def decoder : Nat → Site → Yaml.Node → Decoder CommandTree
  | 0, _, n => throw (.tooDeep n.mark)
  | depth + 1, site, n =>
    Decoder.record
      ⟨"CommandSuggestion", ["description".toList, "subcommands".toList, "flags".toList, "args".toList], []⟩
      (fun t field site n =>
        if field = "description" then do pure { t with description := ← Decoder.string "a string" site n }
        else if field = "subcommands" then do
          pure { t with subcommands := Keyed.ofList (← Decoder.map (decoder depth) site n) }
        else if field = "flags" then do
          pure { t with flags := Keyed.ofList (← Decoder.map FlagInfo.decoder site n) }
        else do pure { t with source := ← ValueSource.decoder site n })
      {} site n

/-- Why a command tree cannot be read from a file. -/
inductive LoadError where
  | unreadable (file : Path) (cause : FileError)
  | malformed (file : Path) (cause : Yaml.Error)
  deriving DecidableEq, Repr

namespace LoadError

/-- What failed. -/
def summary : LoadError → Text
  | .unreadable file _ => "failed to read file '" ++ file ++ "'"
  | .malformed file _ => "failed to parse suggestions in '" ++ file ++ "'"

/-- Why it failed. -/
def cause : LoadError → Text
  | .unreadable _ c => c.message
  | .malformed _ c => c.message

/-- The wording of an error. -/
def message (e : LoadError) : Text := e.summary ++ ": " ++ e.cause

end LoadError

/-- The command tree in a file. -/
def load (here : Place) (file : Path) : Except LoadError CommandTree :=
  match here.read file with
  | .error e => .error (.unreadable file e)
  | .ok content =>
    match Yaml.decode (decoder (Yaml.Site.maxDepth + 1)) content with
    | .error e => .error (.malformed file e)
    | .ok t => .ok t

end CommandTree

end WrapShell
