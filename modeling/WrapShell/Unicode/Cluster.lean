import WrapShell.Unicode.Boundary
/-!
# Clusters

What is seen as one character may be written as several: a letter and its marks, the parts of a
Korean syllable, a picture with its joiners. A text is cut into clusters between two characters
of which neither joins the other.
-/

namespace WrapShell.Cluster

/-- A character that is a cluster of its own; a carriage return and a newline are one together. -/
def standsAlone (c : Char) : Bool := c == '\r' || c == '\n' || control.has c

/-- Consonants that are written as one if a linking mark stands between them. -/
def consonant : CharSet := .ofRuns [
  "915-939 958-95F 978-97F 995-9A8 9AA-9B0 9B2 9B6-9B9 9DC-9DD 9DF 9F0-9F1 A95-AA8 AAA-AB0",
  "AB2-AB3 AB5-AB9 AF9 B15-B28 B2A-B30 B32-B33 B35-B39 B5C-B5D B5F B71 C15-C28 C2A-C39",
  "C58-C5A D15-D3A"]

/-- Marks that link two consonants. -/
def linker : CharSet := .ofRuns ["94D 9CD ACD B4D C4D D4D"]

/-- Marks that may stand beside a linking mark. -/
def besideLinker : CharSet := (extend.union joiner).diff (linker.union (.ofRuns ["200C"]))

/-- Whether a reversed text ends in a consonant and a linking mark. -/
def endsLinked (linked : Bool) : Text → Bool
  | [] => false
  | c :: t =>
    if linker.has c then endsLinked true t
    else if besideLinker.has c then endsLinked linked t
    else linked && consonant.has c

/-- Whether a reversed text ends in a picture, with marks behind it. -/
def endsInPicture (t : Text) : Bool :=
  match t.dropWhile extend.has with
  | [] => false
  | c :: _ => Trait.extendedPictographic.has c

/-- Whether a character goes on the cluster that is there so far, reversed. -/
def joins (before : Text) (c : Char) : Bool :=
  match before with
  | [] => false
  | p :: t =>
    let korean :=
      (leading.has p && (leading.has c || vowel.has c || openSyllable.has c || closedSyllable.has c)) ||
        ((openSyllable.has p || vowel.has p) && (vowel.has c || trailing.has c)) ||
        ((closedSyllable.has p || trailing.has p) && trailing.has c)
    if p == '\r' && c == '\n' then true
    else if standsAlone p || standsAlone c then false
    else
      korean || extend.has c || joiner.has c || spacingMark.has c || prepending.has p ||
        (consonant.has c && endsLinked false before) ||
        (joiner.has p && Trait.extendedPictographic.has c && endsInPicture t) ||
        (Trait.regionalIndicator.has c && (before.takeWhile Trait.regionalIndicator.has).length % 2 == 1)

/-- The clusters of a text behind the cluster that is there so far, reversed. -/
def clustersFrom (before : Text) : Text → List Text
  | [] => if before = [] then [] else [before.reverse]
  | c :: t =>
    if before = [] || joins before c then clustersFrom (c :: before) t
    else before.reverse :: clustersFrom [c] t

/-- The clusters of a text. -/
def clusters (t : Text) : List Text := clustersFrom [] t

end WrapShell.Cluster
