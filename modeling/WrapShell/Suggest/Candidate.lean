import WrapShell.Glob.Search
/-!
# Candidates

A candidate is a text offered in place of the word that is being typed, with a description.
Candidates are ordered by text, then by description.
-/

namespace WrapShell

/-- A text offered in place of a word. -/
structure Candidate where
  text : Text
  description : Text
  deriving DecidableEq, Repr

namespace Candidate

/-- A candidate without a description. -/
def plain (text : Text) : Candidate := ⟨text, []⟩

/-- The order of candidates. -/
def le (a b : Candidate) : Bool :=
  if a.text = b.text then a.description ≤ b.description else a.text ≤ b.text

/-- Candidates in order. -/
def sort (cs : List Candidate) : List Candidate := cs.mergeSort le

/-- How a candidate is shown: with its description, if it has one. -/
def display (c : Candidate) : Text :=
  if c.description = [] then c.text else c.text ++ "  (" ++ c.description ++ ")"

end Candidate

namespace Place

/-- The paths that start with `word`; a directory ends in a slash. -/
def pathCandidates (here : Place) (word : Text) : List Candidate :=
  match here.glob (Pattern.escape word ++ ['*']) with
  | .error _ => []
  | .ok paths => paths.map fun p => .plain (if here.isDir p then p ++ ['/'] else p)

/-- What is offered for a word when nothing is known about the program: paths, but nothing at
all for the empty word. -/
def fileCandidates (here : Place) (word : Text) : List Candidate :=
  if word = [] then [] else here.pathCandidates word

end Place

end WrapShell
