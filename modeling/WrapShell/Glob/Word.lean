import WrapShell.Glob.Pattern
/-!
# Bare words as patterns

In a bare word a backslash makes the next character literal, and `*`, `?` and `[` are live
otherwise. A pattern has no backslash, so a word is first read into pieces and each piece is
then written the way a pattern says it: an escaped special character becomes a class of its
own, and the escaped members of a bracket move to where a pattern reads them literally.
-/

namespace WrapShell

/-- The live characters that make a bare word a pattern. -/
def metacharacters : List Char := ['*', '+', '?', '[']

/-- The word with its backslashes resolved; `none` if a live metacharacter makes it a pattern.
A backslash at the end stands for itself. -/
def stripEscapes : Text → Option Text
  | [] => some []
  | ['\\'] => some ['\\']
  | '\\' :: c :: t => (stripEscapes t).map (c :: ·)
  | c :: t => if metacharacters.contains c then none else (stripEscapes t).map (c :: ·)

/-- A member of a bracket as it is typed. -/
inductive BracketMember where
  | live (c : Char)
  | escaped (c : Char)
  deriving DecidableEq, Repr

/-- A bracket as it is typed: `[`, an optional `!` or `^`, members, `]`. -/
structure Bracket where
  negated : Bool
  members : List BracketMember
  deriving DecidableEq, Repr

namespace Bracket

/-- The members up to the first live `]`, with what follows it. -/
def readMembers : Text → Option (List BracketMember × Text)
  | [] => none
  | ['\\'] => none
  | '\\' :: c :: t => (readMembers t).map fun (ms, rest) => (.escaped c :: ms, rest)
  | c :: t => if c = ']' then some ([], t) else (readMembers t).map fun (ms, rest) => (.live c :: ms, rest)

/-- The bracket after a `[`, with what follows it; `none` if it is never closed. -/
def read (t : Text) : Option (Bracket × Text) :=
  match t with
  | '!' :: t => (readMembers t).map fun (ms, rest) => (⟨true, ms⟩, rest)
  | '^' :: t => (readMembers t).map fun (ms, rest) => (⟨true, ms⟩, rest)
  | t => (readMembers t).map fun (ms, rest) => (⟨false, ms⟩, rest)

theorem readMembers_length {t rest : Text} {ms : List BracketMember} (h : readMembers t = some (ms, rest)) :
    rest.length < t.length := by
  fun_induction readMembers t generalizing ms with
  | case1 => cases h
  | case2 => cases h
  | case3 _ _ ih =>
    obtain ⟨⟨ms', r⟩, hr, he⟩ := Option.map_eq_some_iff.1 h
    cases he
    have := ih hr
    simp only [List.length_cons]; omega
  | case4 => cases h; simp
  | case5 =>
    rename_i ih
    obtain ⟨⟨ms', r⟩, hr, he⟩ := Option.map_eq_some_iff.1 h
    cases he
    have := ih hr
    simp only [List.length_cons]; omega

theorem read_length {t rest : Text} {b : Bracket} (h : read t = some (b, rest)) : rest.length < t.length := by
  unfold read at h
  split at h
  all_goals
    obtain ⟨⟨ms, r⟩, hr, he⟩ := Option.map_eq_some_iff.1 h
    cases he
    have := readMembers_length hr
    try simp only [List.length_cons]
    omega

/-- The members sorted by where a pattern reads them literally: an escaped `]` in front, an
escaped `-` at the end, and at the end also an escaped `!` that would have come first. -/
structure Parts where
  close : Bool
  bang : Bool
  dash : Bool
  body : Text
  deriving DecidableEq, Repr

/-- Adds a member behind the others. -/
def Parts.add (p : Parts) : BracketMember → Parts
  | .live c => { p with body := p.body ++ [c] }
  | .escaped c =>
    if c = ']' then { p with close := true }
    else if c = '-' then { p with dash := true }
    else if c = '!' && p.body.isEmpty then { p with bang := true }
    else { p with body := p.body ++ [c] }

/-- All members of a bracket, sorted. -/
def parts (b : Bracket) : Parts := b.members.foldl Parts.add ⟨false, false, false, []⟩

/-- The bracket as a pattern. A lone `!` cannot be the first member of a class, so it is
written as the plain character, or behind the `-` that is left beside it. -/
def write (b : Bracket) : Text :=
  let p := b.parts
  let leadingBang := p.bang && !b.negated && !p.close && p.body.isEmpty
  if leadingBang && !p.dash then ['!']
  else
    ['['] ++ (if b.negated then ['!'] else []) ++ (if p.close then [']'] else []) ++ p.body ++
      (if leadingBang then ['-', '!']
       else (if p.bang then ['!'] else []) ++ (if p.dash then ['-'] else [])) ++ [']']

end Bracket

/-- A unit of a bare word that is read as a pattern. -/
inductive WordPiece where
  | plain (c : Char)
  | escaped (c : Char)
  /-- A run of live stars. -/
  | stars
  | bracket (b : Bracket)
  deriving DecidableEq, Repr

namespace WordPiece

/-- A piece as a pattern. -/
def write : WordPiece → Text
  | .plain c => [c]
  | .escaped c => if c = '*' || c = '?' || c = '[' || c = ']' then ['[', c, ']'] else [c]
  | .stars => ['*']
  | .bracket b => b.write

/-- What is wrong with a bracket that is never closed. -/
def unterminatedClass (pos : Nat) : PatternError := ⟨pos, "unterminated character class"⟩

/-- What is wrong with a bracket without members. -/
def emptyClass (pos : Nat) : PatternError := ⟨pos, "empty character class"⟩

/-- Reads the pieces of a word. Errors count the bytes that the pieces before them take as a
pattern, `pos` at the start. -/
def readFrom (pos : Nat) (t : Text) : Except PatternError (List WordPiece) :=
  match t with
  | [] => .ok []
  | ['\\'] => .ok [.plain '\\']
  | '\\' :: c :: t => (.escaped c :: ·) <$> readFrom (pos + Text.utf8Size (write (.escaped c))) t
  | '*' :: t =>
    have : (t.dropWhile (· == '*')).length ≤ t.length := (List.dropWhile_sublist _).length_le
    (.stars :: ·) <$> readFrom (pos + 1) (t.dropWhile (· == '*'))
  | '[' :: t =>
    match h : Bracket.read t with
    | none => .error (unterminatedClass pos)
    | some (b, rest) =>
      have := Bracket.read_length h
      if b.members.isEmpty then .error (emptyClass pos)
      else (.bracket b :: ·) <$> readFrom (pos + Text.utf8Size b.write) rest
  | c :: t => (.plain c :: ·) <$> readFrom (pos + c.utf8Size) t
termination_by t.length

/-- Reads the pieces of a word. -/
def read (word : Text) : Except PatternError (List WordPiece) := readFrom 0 word

/-- The pattern that pieces stand for. -/
def writeAll (ps : List WordPiece) : Text := ps.flatMap write

end WordPiece

/-- The pattern that a bare word stands for. -/
def wordPattern (word : Text) : Except PatternError Text := WordPiece.writeAll <$> WordPiece.read word

end WrapShell
