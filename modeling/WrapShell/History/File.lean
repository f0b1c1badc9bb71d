import WrapShell.History.Basic
import WrapShell.Files.Place
import WrapShell.Text.Blank
import WrapShell.Yaml.Decode
import WrapShell.Yaml.Write
/-!
# The history file

The file is a YAML sequence with one mapping of `base` and `cmd` for each entry. One that is
missing or blank is an empty history.
-/

namespace WrapShell

/-- Why a history cannot be read from its file or written to it. -/
inductive HistoryError where
  | unreadable (file : Path) (cause : FileError)
  | malformed (file : Path) (cause : Yaml.Error)
  | noDirectory (dir : Path) (cause : FileError)
  | unwritable (file : Path) (cause : FileError)
  deriving DecidableEq, Repr

namespace HistoryError

/-- What failed. -/
def summary : HistoryError → Text
  | .unreadable file _ => "could not read history file " ++ file
  | .malformed file _ => "could not parse history file " ++ file
  | .noDirectory dir _ => "could not create " ++ dir
  | .unwritable file _ => "could not sync history to " ++ file

/-- Why it failed. -/
def cause : HistoryError → Text
  | .unreadable _ c | .noDirectory _ c | .unwritable _ c => c.message
  | .malformed _ c => c.message

/-- The wording of an error. -/
def message (e : HistoryError) : Text := e.summary ++ ": " ++ e.cause

end HistoryError

namespace History.Entry

/-- The record of an entry. Only the line is needed. -/
def shape : Yaml.Decoder.Shape := ⟨"Entry", ["base".toList, "cmd".toList], ["cmd".toList]⟩

/-- Reads an entry. -/
def decoder (site : Yaml.Site) (n : Yaml.Node) : Yaml.Decoder Entry :=
  Yaml.Decoder.record shape
    (fun e field site n => do
      let t ← Yaml.Decoder.string "a string" site n
      pure (if field = "base" then { e with base := t } else { e with line := t }))
    ⟨[], []⟩ site n

/-- The lines of an entry in the file. -/
def yaml (e : Entry) : Text :=
  let indent : Text := List.replicate 4 ' '
  "- base: " ++ Yaml.writeString indent e.base ++ "  cmd: " ++ Yaml.writeString indent e.line

end History.Entry

namespace History

/-- The content of a file that holds some entries. -/
def write : List Entry → Text
  | [] => "[]\n"
  | es => es.flatMap Entry.yaml

/-- The entries in the content of a file. -/
def read (content : Text) : Except Yaml.Error (List Entry) :=
  if Text.allBlank content then .ok []
  else Yaml.decode (Yaml.Decoder.list Entry.decoder) content

/-- The entries in a file. -/
def load (here : Place) (file : Path) : Except HistoryError (List Entry) :=
  match here.read file with
  | .error .notFound => .ok []
  | .error e => .error (.unreadable file e)
  | .ok content =>
    match read content with
    | .error e => .error (.malformed file e)
    | .ok entries => .ok entries

/-- The history for a base that is kept in a file. -/
def openFile (here : Place) (base : Text) (file : Path) : Except HistoryError History :=
  (load here file).map fun entries => ⟨base, entries, some file⟩

/-- Makes the directory that a file lies in. -/
def makeRoom (here : Place) (file : Path) : Place × Option HistoryError :=
  match Path.parent? file with
  | none | some [] => (here, none)
  | some dir =>
    let (there, e?) := here.makeDirs dir
    (there, e?.map (.noDirectory dir))

/-- Writes the history to its file: what is there in the end, and what went wrong. -/
def sync (h : History) (here : Place) : Place × Option HistoryError :=
  match h.file with
  | none => (here, none)
  | some file =>
    match makeRoom here file with
    | (there, some e) => (there, some e)
    | (there, none) =>
      match there.write file (write h.entries) with
      | .error e => (there, some (.unwritable file e))
      | .ok written => (written, none)

end History

end WrapShell
