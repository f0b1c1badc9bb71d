import WrapShell.Regex.Term
/-!
# Faults of regular expressions

What can be wrong with an expression, and how it is shown: the expression itself, carets under
the part that is wrong, and a sentence. An expression of several lines is shown with numbers.
-/

namespace WrapShell.Regex

/-- What is wrong. -/
inductive FaultKind where
  | classEscapeInvalid
  | classRangeInvalid
  | classRangeLiteral
  | classUnclosed
  | decimalEmpty
  | decimalInvalid
  | escapeHexEmpty
  | escapeHexInvalid
  | escapeHexInvalidDigit
  | escapeUnexpectedEnd
  | escapeUnrecognized
  | flagDanglingNegation
  | flagDuplicate
  | flagRepeatedNegation
  | flagUnexpectedEnd
  | flagUnrecognized
  | groupNameDuplicate
  | groupNameEmpty
  | groupNameInvalid
  | groupNameUnexpectedEnd
  | groupUnclosed
  | groupUnopened
  | nestLimitExceeded (limit : Nat)
  | repetitionCountInvalid
  | repetitionCountDecimalEmpty
  | repetitionCountUnclosed
  | repetitionMissing
  | wordBoundaryUnclosed
  | wordBoundaryUnrecognized
  | wordBoundaryUnexpectedEnd
  | unicodeClassInvalid
  | backreference
  | lookAround
  | unicodeNotAllowed
  | invalidBytes
  | propertyNotFound
  | propertyValueNotFound
  deriving DecidableEq, Repr

/-- The sentence for a fault. -/
def FaultKind.message : FaultKind → Text
  | .classEscapeInvalid => "invalid escape sequence found in character class"
  | .classRangeInvalid => "invalid character class range, the start must be <= the end"
  | .classRangeLiteral => "invalid range boundary, must be a literal"
  | .classUnclosed => "unclosed character class"
  | .decimalEmpty => "decimal literal empty"
  | .decimalInvalid => "decimal literal invalid"
  | .escapeHexEmpty => "hexadecimal literal empty"
  | .escapeHexInvalid => "hexadecimal literal is not a Unicode scalar value"
  | .escapeHexInvalidDigit => "invalid hexadecimal digit"
  | .escapeUnexpectedEnd => "incomplete escape sequence, reached end of pattern prematurely"
  | .escapeUnrecognized => "unrecognized escape sequence"
  | .flagDanglingNegation => "dangling flag negation operator"
  | .flagDuplicate => "duplicate flag"
  | .flagRepeatedNegation => "flag negation operator repeated"
  | .flagUnexpectedEnd => "expected flag but got end of regex"
  | .flagUnrecognized => "unrecognized flag"
  | .groupNameDuplicate => "duplicate capture group name"
  | .groupNameEmpty => "empty capture group name"
  | .groupNameInvalid => "invalid capture group character"
  | .groupNameUnexpectedEnd => "unclosed capture group name"
  | .groupUnclosed => "unclosed group"
  | .groupUnopened => "unopened group"
  | .nestLimitExceeded limit =>
    "exceed the maximum number of nested parentheses/brackets (" ++ Text.ofNat limit ++ ")"
  | .repetitionCountInvalid => "invalid repetition count range, the start must be <= the end"
  | .repetitionCountDecimalEmpty => "repetition quantifier expects a valid decimal"
  | .repetitionCountUnclosed => "unclosed counted repetition"
  | .repetitionMissing => "repetition operator missing expression"
  | .wordBoundaryUnclosed =>
    "special word boundary assertion is either unclosed or contains an invalid character"
  | .wordBoundaryUnrecognized =>
    "unrecognized special word boundary assertion, valid choices are: start, end, start-half or end-half"
  | .wordBoundaryUnexpectedEnd =>
    "found either the beginning of a special word boundary or a bounded repetition on a \\b with an opening brace, but no closing brace"
  | .unicodeClassInvalid => "invalid Unicode character class"
  | .backreference => "backreferences are not supported"
  | .lookAround => "look-around, including look-ahead and look-behind, is not supported"
  | .unicodeNotAllowed => "Unicode not allowed here"
  | .invalidBytes => "pattern can match invalid UTF-8"
  | .propertyNotFound => "Unicode property not found"
  | .propertyValueNotFound => "Unicode property value not found"

/-- What is wrong and where. A second span shows what the first collides with. -/
structure Fault where
  kind : FaultKind
  span : Span
  other : Option Span
  deriving DecidableEq, Repr

/-- A fault without a second span. -/
def fault (kind : FaultKind) (start stop : Position) : Fault := ⟨kind, ⟨start, stop⟩, none⟩

namespace Fault

def spans (f : Fault) : List Span := f.span :: f.other.toList

/-- The spans that lie in one line, in order. -/
def spansOn (f : Fault) (line : Nat) : List Span :=
  (f.spans.filter fun s => s.start.line == line && s.stop.line == line).mergeSort fun a b =>
    a.start.column < b.start.column || (a.start.column == b.start.column && a.stop.column ≤ b.stop.column)

/-- Carets under spans, from column `done + 1` on. -/
def carets (done : Nat) : List Span → Text
  | [] => []
  | s :: ss =>
    let gap := s.start.column - 1 - done
    let width := max 1 (s.stop.column - s.start.column)
    List.replicate gap ' ' ++ List.replicate width '^' ++ carets (done + gap + width) ss

/-- The lines of an expression with the carets under them; `width` is that of the line
numbers, if there are any. -/
def annotated (f : Fault) (width : Nat) (pattern : Text) : Text :=
  ((Text.lines pattern).zipIdx 1).flatMap fun (line, n) =>
    let number := Text.ofNat n
    let margin : Text :=
      if width = 0 then List.replicate 4 ' '
      else List.replicate (width - number.length) ' ' ++ number ++ [':', ' ']
    let notes : Text :=
      match f.spansOn n with
      | [] => []
      | spans => List.replicate margin.length ' ' ++ carets 0 spans ++ ['\n']
    margin ++ line ++ '\n' :: notes

/-- The wording of a fault in an expression. -/
def message (pattern : Text) (f : Fault) : Text :=
  let count := (Text.lines pattern).length + if pattern.getLast? = some '\n' then 1 else 0
  let width := if count ≤ 1 then 0 else (Text.ofNat count).length
  let shown := f.annotated width pattern
  let last : Text := "error: " ++ f.kind.message
  if pattern.contains '\n' then
    let divider : Text := List.replicate 79 '~' ++ ['\n']
    let long := f.spans.filter fun s => s.start.line != s.stop.line
    let note (s : Span) : Text :=
      "on line " ++ Text.ofNat s.start.line ++ " (column " ++ Text.ofNat s.start.column ++ ") through line " ++
        Text.ofNat s.stop.line ++ " (column " ++ Text.ofNat (s.stop.column - 1) ++ ")"
    let notes : Text := if long = [] then [] else List.intercalate ['\n'] (long.map note) ++ ['\n']
    "regex parse error:\n" ++ divider ++ shown ++ divider ++ notes ++ last
  else "regex parse error:\n" ++ shown ++ last

end Fault

end WrapShell.Regex
