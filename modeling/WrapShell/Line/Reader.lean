import WrapShell.Line.Basic
import WrapShell.Text.Blank
import WrapShell.Text.Alphabetic
/-!
# Reading a line

`Command.read` cuts a text at its blanks into arguments and each argument into nodes. Every
scanner starts on the first character of its node and gives the node with the rest of the
text; the rest is shorter (`Node.read_length`), so reading ends.
-/

namespace WrapShell

/-- A character of a variable name. -/
def isNameChar (c : Char) : Bool := isAlphabetic c || c == '_'

namespace Node

/-- The name after a `$`, with the rest. -/
def readName (t : Text) : Except ReadError (Text × Text) :=
  match t.takeWhile isNameChar with
  | [] => .error (.invalidIdentifier (t.take 1))
  | name => .ok (name, t.dropWhile isNameChar)

/-- A bare word runs to a blank or a quote. A backslash keeps the character after it in the
word, whatever it is. -/
def readWord : Text → Text × Text
  | [] => ([], [])
  | ['\\'] => (['\\'], [])
  | '\\' :: c :: t => let (w, rest) := readWord t; ('\\' :: c :: w, rest)
  | c :: t =>
    if c = '\'' || c = '"' || isBlank c then ([], c :: t)
    else let (w, rest) := readWord t; (c :: w, rest)

/-- The text up to the closing single quote. Only a quote can be escaped. -/
def readSingle : Text → Option (Text × Text)
  | [] => none
  | ['\\'] => none
  | '\\' :: c :: t =>
    (readSingle t).map fun (v, rest) => (if c = '\'' then c :: v else '\\' :: c :: v, rest)
  | c :: t => if c = '\'' then some ([], t) else (readSingle t).map fun (v, rest) => (c :: v, rest)

/-- A literal run inside a double quote, up to the closing quote, a `$` or the end. Only a
double quote can be escaped; `none` if the text ends right after a backslash. -/
def readQuoted : Text → Option (Text × Text)
  | [] => some ([], [])
  | ['\\'] => none
  | '\\' :: c :: t =>
    (readQuoted t).map fun (v, rest) => (if c = '"' then c :: v else '\\' :: c :: v, rest)
  | c :: t =>
    if c = '"' || c = '$' then some ([], c :: t) else (readQuoted t).map fun (v, rest) => (c :: v, rest)

theorem readName_length {t name rest : Text} (h : readName t = .ok (name, rest)) : rest.length < t.length := by
  unfold readName at h
  split at h
  · cases h
  · next hn =>
    simp only [Except.ok.injEq, Prod.mk.injEq] at h
    obtain ⟨-, rfl⟩ := h
    have e := congrArg List.length (List.takeWhile_append_dropWhile (p := isNameChar) (l := t))
    have : 0 < (t.takeWhile isNameChar).length := List.length_pos_iff.2 hn
    rw [List.length_append] at e
    omega

theorem readWord_length_le (t : Text) : (readWord t).2.length ≤ t.length := by
  fun_induction readWord t <;> simp_all <;> omega

theorem readSingle_length {t v rest : Text} (h : readSingle t = some (v, rest)) : rest.length < t.length := by
  fun_induction readSingle t generalizing v with
  | case1 => cases h
  | case2 => cases h
  | case3 c t ih =>
    obtain ⟨⟨v', r⟩, hr, he⟩ := Option.map_eq_some_iff.1 h
    cases he
    have := ih hr
    simp only [List.length_cons]; omega
  | case4 => cases h; simp
  | case5 =>
    rename_i ih
    obtain ⟨⟨v', r⟩, hr, he⟩ := Option.map_eq_some_iff.1 h
    cases he
    have := ih hr
    simp only [List.length_cons]; omega

theorem readQuoted_length_le {t v rest : Text} (h : readQuoted t = some (v, rest)) : rest.length ≤ t.length := by
  fun_induction readQuoted t generalizing v with
  | case1 => cases h; simp
  | case2 => cases h
  | case3 c t ih =>
    obtain ⟨⟨v', r⟩, hr, he⟩ := Option.map_eq_some_iff.1 h
    cases he
    have := ih hr
    simp only [List.length_cons]; omega
  | case4 => cases h; simp
  | case5 =>
    rename_i ih
    obtain ⟨⟨v', r⟩, hr, he⟩ := Option.map_eq_some_iff.1 h
    cases he
    have := ih hr
    simp only [List.length_cons]; omega

/-- A literal run that starts on a character of its own uses it up. -/
theorem readQuoted_length {c : Char} {t v rest : Text} (hq : c ≠ '"') (hd : c ≠ '$')
    (h : readQuoted (c :: t) = some (v, rest)) : rest.length < (c :: t).length := by
  rw [readQuoted.eq_def] at h
  split at h
  · next e => cases e
  · cases h
  · next e =>
    obtain ⟨⟨v', r⟩, hr, he⟩ := Option.map_eq_some_iff.1 h
    cases he; cases e
    have := readQuoted_length_le hr
    simp only [List.length_cons]; omega
  · next e =>
    cases e
    simp only [hq, hd, decide_false, Bool.or_self, Bool.false_eq_true, if_false] at h
    obtain ⟨⟨v', r⟩, hr, he⟩ := Option.map_eq_some_iff.1 h
    cases he
    have := readQuoted_length_le hr
    simp only [List.length_cons]; omega

/-- The children of a double quote, up to and past the closing quote. -/
def readDouble (t : Text) : Except ReadError (List Node × Text) :=
  match t with
  | [] => .error (.unterminated '"')
  | c :: t' =>
    if hq : c = '"' then .ok ([], t')
    else if hd : c = '$' then
      match h : readName t' with
      | .error e => .error e
      | .ok (name, rest) =>
        have := readName_length h
        match readDouble rest with
        | .error e => .error e
        | .ok (children, rest') => .ok (.var name :: children, rest')
    else
      match h : readQuoted (c :: t') with
      | none => .error (.unterminated '"')
      | some (value, rest) =>
        have := readQuoted_length hq hd h
        match readDouble rest with
        | .error e => .error e
        | .ok (children, rest') => .ok (.quoted value :: children, rest')
termination_by t.length
decreasing_by all_goals (simp only [List.length_cons] at *; omega)

theorem readDouble_length {t : Text} {ns : List Node} {rest : Text} (h : readDouble t = .ok (ns, rest)) :
    rest.length < t.length := by
  fun_induction readDouble t generalizing ns with
  | case1 => cases h
  | case2 => cases h; simp
  | case3 => cases h
  | case4 => cases h
  | case5 =>
    rename_i hc _ ih
    cases h
    have := ih hc
    simp only [List.length_cons]; omega
  | case6 => cases h
  | case7 => cases h
  | case8 =>
    rename_i hc ih
    cases h
    have := ih hc
    omega

/-- The node that starts on the first character of a text; a blank starts none. -/
def read : Text → Except ReadError (Node × Text)
  | '$' :: t =>
    match readName t with
    | .error e => .error e
    | .ok (name, rest) => .ok (.var name, rest)
  | '\'' :: t =>
    match readSingle t with
    | none => .error (.unterminated '\'')
    | some (value, rest) => .ok (.single value, rest)
  | '"' :: t =>
    match readDouble t with
    | .error e => .error e
    | .ok (children, rest) => .ok (.double children, rest)
  | t => .ok (.word (readWord t).1, (readWord t).2)

/-- A word that starts on a character of its own uses it up. -/
theorem readWord_length {c : Char} {t : Text} (hs : c ≠ '\'') (hd : c ≠ '"') (hb : isBlank c = false) :
    (readWord (c :: t)).2.length < (c :: t).length := by
  rw [readWord.eq_def]
  split
  · next e => cases e
  · simp
  · next e =>
    cases e
    have := readWord_length_le (by assumption)
    simp only [List.length_cons]
    omega
  · next e =>
    cases e
    simp only [hs, hd, hb, decide_false, Bool.or_self, Bool.false_eq_true, if_false, List.length_cons]
    have := readWord_length_le t
    omega

/-- Reading a node uses up at least one character. -/
theorem read_length {c : Char} {t rest : Text} {n : Node} (hb : isBlank c = false)
    (h : read (c :: t) = .ok (n, rest)) : rest.length < (c :: t).length := by
  rw [read.eq_def] at h
  split at h
  · next e =>
    cases e
    split at h
    · cases h
    · next hn => cases h; have := readName_length hn; simp only [List.length_cons]; omega
  · next e =>
    cases e
    split at h
    · cases h
    · next hn => cases h; have := readSingle_length hn; simp only [List.length_cons]; omega
  · next e =>
    cases e
    split at h
    · cases h
    · next hn => cases h; have := readDouble_length hn; simp only [List.length_cons]; omega
  · next hs hq =>
    cases h
    exact readWord_length (fun e => hs t (e ▸ rfl)) (fun e => hq t (e ▸ rfl)) hb

end Node

namespace Command

/-- The nodes of one argument, up to the next blank or the end. -/
def readArg (t : Text) : Except ReadError (List Node × Text) :=
  match t with
  | [] => .ok ([], [])
  | c :: t' =>
    if hb : isBlank c then .ok ([], c :: t')
    else
      match h : Node.read (c :: t') with
      | .error e => .error e
      | .ok (n, rest) =>
        have := Node.read_length (Bool.eq_false_iff.2 hb) h
        match readArg rest with
        | .error e => .error e
        | .ok (ns, rest') => .ok (n :: ns, rest')
termination_by t.length
decreasing_by all_goals (simp only [List.length_cons] at *; omega)

theorem readArg_length_le {t : Text} {ns : List Node} {rest : Text} (h : readArg t = .ok (ns, rest)) :
    rest.length ≤ t.length := by
  fun_induction readArg t generalizing ns with
  | case1 => cases h; simp
  | case2 => cases h; simp
  | case3 => cases h
  | case4 => cases h
  | case5 =>
    rename_i hc ih
    cases h
    have := ih hc
    omega

/-- An argument that starts on a character other than a blank uses it up. -/
theorem readArg_length {c : Char} {t : Text} {ns : List Node} {rest : Text} (hb : isBlank c = false)
    (h : readArg (c :: t) = .ok (ns, rest)) : rest.length < (c :: t).length := by
  rw [readArg.eq_def] at h
  simp only [hb, Bool.false_eq_true, dite_false] at h
  split at h
  · cases h
  · next hn =>
    split at h
    · cases h
    · next ha =>
      cases h
      have := Node.read_length hb hn
      have := readArg_length_le ha
      omega

/-- The arguments of a text. -/
def readArgs (t : Text) : Except ReadError (List Arg) :=
  match t with
  | [] => .ok []
  | c :: t' =>
    if hb : isBlank c then readArgs t'
    else
      match h : readArg (c :: t') with
      | .error e => .error e
      | .ok (ns, rest) =>
        have := readArg_length (Bool.eq_false_iff.2 hb) h
        match readArgs rest with
        | .error e => .error e
        | .ok args => .ok (⟨ns⟩ :: args)
termination_by t.length
decreasing_by all_goals (simp only [List.length_cons] at *; omega)

/-- Reads a line: blanks separate arguments, and nodes written back to back belong to one. -/
def read (line : Text) : Except ReadError Command :=
  (readArgs line).map Command.mk

end Command

end WrapShell
