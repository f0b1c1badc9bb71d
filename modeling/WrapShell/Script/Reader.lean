import WrapShell.Script.Basic
/-!
# Reading a script

A script is cut into words and operators. Words are put together from quoted and bare pieces;
operators end them, and connect steps or redirect streams. Steps take effect line by line, so a
fault leaves the lines before it as they are.
-/

namespace WrapShell.Script

/-- A character that ends a bare word. -/
def isDelimiter (c : Char) : Bool := " \t\n;&|<>()".toList.contains c

/-- A character of a parameter's name. -/
def isNameChar (c : Char) : Bool := c.isAlphanum || c == '_'

/-- The name of a parameter after a dollar sign, with the rest; `none` if the sign stands for
itself. -/
def readParameter (t : Text) : Except Fault (Option (Text × Text)) :=
  match t with
  | '\x7b' :: t =>
    let name := t.takeWhile (· != '\x7d')
    let plain := name.all isNameChar || (name.length == 1 && name.all ("#?*@$!-".toList.contains ·))
    match t.drop name.length with
    | _ :: rest => if name ≠ [] && plain then .ok (some (name, rest)) else .error .badSubstitution
    | [] => .error (.unexpected "end of file")
  | c :: t =>
    if c.isDigit || "#?*@$!-".toList.contains c then .ok (some ([c], t))
    else if c.isAlpha || c == '_' then
      .ok (some (c :: t.takeWhile isNameChar, t.dropWhile isNameChar))
    else .ok none
  | [] => .ok none

theorem readParameter_length {t name rest : Text} (h : readParameter t = .ok (some (name, rest))) :
    rest.length < t.length := by
  unfold readParameter at h
  split at h
  · next t =>
    dsimp only at h
    split at h
    · next _ r hd =>
      split at h
      · cases h
        have := congrArg List.length hd
        simp only [List.length_drop, List.length_cons] at this ⊢
        omega
      · cases h
    · cases h
  · split at h
    · cases h; simp
    · split at h
      · cases h
        exact Nat.lt_succ_of_le (List.dropWhile_suffix isNameChar).length_le
      · cases h
  · cases h

/-- Puts pieces in front of what a reader gave. -/
def onto (pieces : Word) (r : Except Fault (Word × Text)) : Except Fault (Word × Text) :=
  r.map fun (w, rest) => (pieces ++ w, rest)

/-- The pieces up to the double quote that closes them. -/
def readDouble (t : Text) : Except Fault (Word × Text) :=
  match t with
  | [] => .error .unterminatedQuote
  | '"' :: t => .ok ([], t)
  | '\\' :: '\n' :: t => readDouble t
  | '\\' :: c :: t =>
    onto [.text (if "$\"\\\u0060".toList.contains c then [c] else ['\\', c]) true] (readDouble t)
  | '$' :: t =>
    match h : readParameter t with
    | .error e => .error e
    | .ok none => onto [.text ['$'] true] (readDouble t)
    | .ok (some (name, rest)) =>
      have := readParameter_length h
      onto [.parameter name true] (readDouble rest)
  | c :: t => onto [.text [c] true] (readDouble t)
termination_by t.length

/-- A word, up to a delimiter, with the rest: each bare character is a piece of its own, and quotes
leave a piece even if nothing is between them. The first argument bounds the number of pieces. -/
def readWord : Nat → Text → Except Fault (Word × Text)
  | 0, t => .ok ([], t)
  | n + 1, t =>
    match t with
    | [] => .ok ([], [])
    | '\'' :: t =>
      let body := t.takeWhile (· != '\'')
      match t.drop body.length with
      | [] => .error .unterminatedQuote
      | _ :: rest => onto [.text body true] (readWord n rest)
    | '"' :: t =>
      match readDouble t with
      | .error e => .error e
      | .ok (pieces, rest) =>
        onto (if pieces = [.parameter ['@'] true] then pieces else .text [] true :: pieces) (readWord n rest)
    | '\\' :: '\n' :: t => readWord n t
    | '\\' :: c :: t => onto [.text [c] true] (readWord n t)
    | '$' :: t =>
      match readParameter t with
      | .error e => .error e
      | .ok none => onto [.text ['$'] false] (readWord n t)
      | .ok (some (name, rest)) => onto [.parameter name false] (readWord n rest)
    | c :: t => if isDelimiter c then .ok ([], c :: t) else onto [.text [c] false] (readWord n t)

/-- A unit of a script. -/
inductive Token where
  | word (w : Word)
  | redirect (stream : Nat) (sign : Text)
  | operator (sign : Text)
  | newline
  deriving DecidableEq, Repr

/-- The operators, each before those that it starts with. -/
def operators : List Text := ["&&", "||", ";;", ";", "&", "|", "(", ")"]

/-- The signs of redirections, each before those that it starts with. -/
def redirectSigns : List Text := [">>", ">&", ">", "<"]

/-- The first of some signs that a text starts with, and the rest. -/
def readSign (signs : List Text) (t : Text) : Option (Text × Text) :=
  signs.findSome? fun s => (Text.after? s t).map (s, ·)

/-- A redirection, with the number of its stream in front or without. -/
def readRedirect (t : Text) : Option (Token × Text) :=
  let digits := t.takeWhile Char.isDigit
  (readSign redirectSigns (t.drop digits.length)).map fun (sign, rest) =>
    (.redirect (if digits = [] then (if sign = ['<'] then 0 else 1) else
      digits.foldl (fun n c => n * 10 + (c.toNat - '0'.toNat)) 0) sign, rest)

/-- The first token of a text, with the rest. -/
def readToken (t : Text) : Except Fault (Option Token × Text) :=
  match t with
  | [] => .ok (none, [])
  | ' ' :: t | '\t' :: t | '\\' :: '\n' :: t => .ok (none, t)
  | '\n' :: t => .ok (some .newline, t)
  | '#' :: t => .ok (none, t.dropWhile (· != '\n'))
  | t =>
    match readRedirect t with
    | some (token, rest) => .ok (some token, rest)
    | none =>
      match readSign operators t with
      | some (sign, rest) => .ok (some (.operator sign), rest)
      | none => (readWord t.length t).map fun (w, rest) => (some (.word w), rest)

/-- The tokens of a text with their lines, and the fault that ended reading. The first argument
bounds their number. -/
def readTokens : Nat → Nat → Text → List (Nat × Token) × Option (Nat × Fault)
  | 0, _, _ => ([], none)
  | n + 1, line, t =>
    if t = [] then ([], none)
    else
      match readToken t with
      | .error e => ([], some (line, e))
      | .ok (token?, rest) =>
        let consumed := t.take (t.length - rest.length)
        let (tokens, fault) := readTokens n (line + consumed.count '\n') rest
        ((token?.map (line, ·)).toList ++ tokens, fault)

/-- The state of reading steps: the steps of whole lines, those of the line that is read, the
step itself, and the redirection that still lacks its word. -/
structure Draft where
  whole : List Step := []
  line : List Step := []
  step : Option Step := none
  connection : Connection := .always
  pending : Option (Nat × Text) := none
  fault : Option (Nat × Fault) := none

namespace Draft

/-- The step that is read, started on `line` if there is none yet. -/
def current (d : Draft) (line : Nat) : Step := d.step.getD { connection := d.connection, line := line }

/-- The binding that a word is, if it starts with a name and an equals sign. -/
def binding? : Word → Option (Text × Word)
  | w =>
    let bare := (w.takeWhile fun p => match p with
      | .text _ false => true
      | _ => false).flatMap fun p => match p with
        | .text t _ => t
        | .parameter _ _ => []
    let name := bare.takeWhile isNameChar
    if name ≠ [] && !name.head?.any Char.isDigit && (bare.drop name.length).head? = some '=' then
      some (name, w.drop (name.length + 1))
    else none

/-- Ends the step that is read. -/
def close (d : Draft) (next : Connection) : Draft :=
  { d with line := d.line ++ d.step.toList, step := none, connection := next }

/-- What is wrong with a token that may not stand where it does. -/
def quote (sign : Text) : Text := ['"'] ++ sign ++ ['"']

/-- Adds a word. -/
def addWord (d : Draft) (line : Nat) (w : Word) : Draft :=
  let s := d.current line
  match d.pending with
  | some (stream, sign) =>
    let target : Target :=
      if sign = ['>', '&'] then .stream w
      else if sign = ['<'] then .source w
      else .file w (sign == ['>', '>'])
    { d with step := some { s with redirections := s.redirections ++ [⟨stream, target⟩] }, pending := none }
  | none =>
    match if s.words = [] then binding? w else none with
    | some b => { d with step := some { s with bindings := s.bindings ++ [b] } }
    | none => { d with step := some { s with words := s.words ++ [w] } }

/-- Adds a token. After a fault nothing counts any more. -/
def add (d : Draft) (t : Nat × Token) : Draft :=
  if d.fault.isSome then d
  else
    match t.2 with
    | .word w => d.addWord t.1 w
    | .redirect stream sign =>
      if d.pending.isSome then { d with fault := some (t.1, .unexpected "redirection") }
      else { d with step := some (d.current t.1), pending := some (stream, sign) }
    | .operator sign =>
      let next? : Option Connection :=
        if sign = [';'] then some .always
        else if sign = ['&', '&'] then some .onSuccess
        else if sign = ['|', '|'] then some .onFailure
        else none
      match next? with
      | none => { d with fault := some (t.1, .unexpected (quote sign)) }
      | some next =>
        if d.pending.isSome || d.step.isNone then { d with fault := some (t.1, .unexpected (quote sign)) }
        else d.close next
    | .newline =>
      if d.pending.isSome then { d with fault := some (t.1, .unexpected "newline") }
      else if d.step.isNone && d.connection ≠ .always then d
      else
        let closed := d.close .always
        { closed with whole := closed.whole ++ closed.line, line := [] }

/-- The script that has been read when the text ends on some line. -/
def script (d : Draft) (line : Nat) : Script :=
  if d.fault.isSome then ⟨d.whole, d.fault⟩
  else if d.pending.isSome || (d.step.isNone && d.connection ≠ .always) then
    ⟨d.whole, some (line, .unexpected "end of file")⟩
  else ⟨d.whole ++ d.line ++ d.step.toList, none⟩

end Draft

/-- Reads a script. -/
def read (t : Text) : Script :=
  let (tokens, fault) := readTokens (t.length + 1) 1 t
  let d := tokens.foldl Draft.add {}
  match d.fault, fault with
  | none, some f => ⟨d.whole, some f⟩
  | _, _ => d.script (1 + t.count '\n')

end WrapShell.Script
