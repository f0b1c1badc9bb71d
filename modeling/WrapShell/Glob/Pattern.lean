import WrapShell.Text.Basic
/-!
# Path patterns

A pattern is a text in which `?` stands for any character, `*` for any run of characters and
`[...]` for one character of a class. A class is negated by a leading `!`, its first member
may be `]`, and `a-b` in it is a range. `Pattern.read` takes a text apart and
`Pattern.describes` says which names it describes.
-/

namespace WrapShell

/-- Why a text is no pattern, and where. -/
structure PatternError where
  pos : Nat
  reason : Text
  deriving DecidableEq, Repr

/-- The wording of a pattern error. -/
def PatternError.message (e : PatternError) : Text :=
  "Pattern syntax error near position " ++ Text.ofNat e.pos ++ ": " ++ e.reason

namespace Pattern

/-- A member of a class. -/
inductive Member where
  | one (c : Char)
  | range (lo hi : Char)
  deriving DecidableEq, Repr

/-- Whether a member stands for `c`. A range whose ends are reversed stands for nothing. -/
def Member.has (m : Member) (c : Char) : Bool :=
  match m with
  | .one x => c == x
  | .range lo hi => lo.toNat ≤ c.toNat && c.toNat ≤ hi.toNat

/-- A unit of a pattern. -/
inductive Token where
  | char (c : Char)
  | anyChar
  | anyRun
  /-- `**`, which must be a whole path component. -/
  | anyDepth
  | within (members : List Member)
  | except (members : List Member)
  deriving DecidableEq, Repr

/-- The members between the brackets of a class. -/
def readMembers : Text → List Member
  | lo :: '-' :: hi :: t => .range lo hi :: readMembers t
  | c :: t => .one c :: readMembers t
  | [] => []

/-- A text up to its first `]`, and what follows that. -/
def splitClass : Text → Option (Text × Text)
  | [] => none
  | c :: t => if c = ']' then some ([], t) else (splitClass t).map fun (m, rest) => (c :: m, rest)

/-- The class after a `[`, with the rest of the text. The first member may be any character. -/
def readClass : Text → Option (Token × Text)
  | '!' :: first :: t => (splitClass t).map fun (m, rest) => (.except (readMembers (first :: m)), rest)
  | ['!'] => none
  | first :: t => (splitClass t).map fun (m, rest) => (.within (readMembers (first :: m)), rest)
  | [] => none

theorem splitClass_length {t m rest : Text} (h : splitClass t = some (m, rest)) : rest.length < t.length := by
  induction t generalizing m with
  | nil => cases h
  | cons c t ih =>
    rw [splitClass] at h
    split at h
    · cases h; simp
    · obtain ⟨⟨m', r⟩, hr, he⟩ := Option.map_eq_some_iff.1 h
      cases he
      have := ih hr
      simp only [List.length_cons]; omega

theorem readClass_length {t rest : Text} {k : Token} (h : readClass t = some (k, rest)) :
    rest.length < t.length := by
  unfold readClass at h
  split at h
  · obtain ⟨⟨m, r⟩, hr, he⟩ := Option.map_eq_some_iff.1 h
    cases he
    have := splitClass_length hr
    simp only [List.length_cons]; omega
  · cases h
  · obtain ⟨⟨m, r⟩, hr, he⟩ := Option.map_eq_some_iff.1 h
    cases he
    have := splitClass_length hr
    simp only [List.length_cons]; omega
  · cases h

/-- What is wrong with a `[` that no class follows. -/
def invalidRange (pos : Nat) : PatternError := ⟨pos, "invalid range pattern"⟩

/-- What is wrong with three stars in a row. -/
def tooManyStars (pos : Nat) : PatternError :=
  ⟨pos, "wildcards are either regular `*` or recursive `**`"⟩

/-- What is wrong with two stars that are not a whole component. -/
def strayDepth (pos : Nat) : PatternError :=
  ⟨pos, "recursive wildcards must form a single path component"⟩

/-- Reads a pattern from position `pos` on; `start` says that a path component starts here. -/
def readFrom (start : Bool) (pos : Nat) (t : Text) : Except PatternError (List Token) :=
  match t with
  | [] => .ok []
  | '?' :: t => (.anyChar :: ·) <$> readFrom false (pos + 1) t
  | '*' :: '*' :: '*' :: _ => .error (tooManyStars (pos + 2))
  | ['*', '*'] => if start then .ok [.anyDepth] else .error (strayDepth (pos - 1))
  | '*' :: '*' :: c :: t =>
    if !start then .error (strayDepth (pos - 1))
    else if c ≠ '/' then .error (strayDepth (pos + 2))
    else (.anyDepth :: ·) <$> readFrom true (pos + 3) t
  | '*' :: t => (.anyRun :: ·) <$> readFrom false (pos + 1) t
  | '[' :: t =>
    match h : readClass t with
    | none => .error (invalidRange pos)
    | some (k, rest) =>
      have := readClass_length h
      (k :: ·) <$> readFrom false (pos + 1 + (t.length - rest.length)) rest
  | c :: t => (.char c :: ·) <$> readFrom (c == '/') (pos + 1) t
termination_by t.length

/-- Reads a pattern. Errors count the characters before them. -/
def read (t : Text) : Except PatternError (List Token) := readFrom true 0 t

/-- Whether some end part of `t` satisfies `p`. -/
def anyEnd (p : Text → Bool) : Text → Bool
  | [] => p []
  | c :: t => p (c :: t) || anyEnd p t

/-- Whether a pattern describes a name. -/
def describes : List Token → Text → Bool
  | [], t => t.isEmpty
  | .anyRun :: ks, t | .anyDepth :: ks, t => anyEnd (describes ks) t
  | _ :: _, [] => false
  | .char x :: ks, c :: t => c == x && describes ks t
  | .anyChar :: ks, _ :: t => describes ks t
  | .within ms :: ks, c :: t => ms.any (·.has c) && describes ks t
  | .except ms :: ks, c :: t => !ms.any (·.has c) && describes ks t

/-- The one text that a pattern without special characters describes. -/
def literal? : List Token → Option Text
  | [] => some []
  | .char c :: ks => (literal? ks).map (c :: ·)
  | _ :: _ => none

/-- A text with each special character in a class of its own, so that as a pattern it describes
only itself. -/
def escape (t : Text) : Text :=
  t.flatMap fun c => if c = '?' || c = '*' || c = '[' || c = ']' then ['[', c, ']'] else [c]

end Pattern

end WrapShell
