import WrapShell.Files.Path
/-!
# The directory tree

A tree says what lies at each location: a directory, a file or a symbolic link. A path is
looked up from a working directory, one piece after the other; a link is replaced by its
target, at most `maxLinks` times. `FileError` lists the ways in which that or an operation
fails, each with the wording and the number the system gives it.
-/

namespace WrapShell

/-- A place in the tree: the names on the way to it, the innermost first. The root is `[]`. -/
abbrev Location := List Text

/-- The absolute path of a location. -/
def Location.path (l : Location) : Path :=
  match l with
  | [] => ['/']
  | l => l.reverse.flatMap ('/' :: ·)

/-- What lies at a location. -/
inductive Entry where
  | dir
  | file (content : Text) (executable : Bool)
  /-- A symbolic link to a path, which need not exist. -/
  | link (target : Path)
  deriving DecidableEq, Repr

/-- Why an operation on files failed. -/
inductive FileError where
  | notFound
  | exists
  | notDirectory
  | isDirectory
  | permissionDenied
  | nameTooLong
  | tooManyLinks
  | unknownFormat
  /-- A path cannot hold the character NUL. -/
  | nulInPath
  /-- Neither can an argument of a program. -/
  | nulInData
  deriving DecidableEq, Repr

/-- What the system calls a failure. -/
def FileError.reason : FileError → Text
  | .notFound => "No such file or directory"
  | .unknownFormat => "Exec format error"
  | .permissionDenied => "Permission denied"
  | .exists => "File exists"
  | .notDirectory => "Not a directory"
  | .isDirectory => "Is a directory"
  | .nameTooLong => "File name too long"
  | .tooManyLinks => "Too many levels of symbolic links"
  | .nulInPath => "file name contained an unexpected NUL byte"
  | .nulInData => "nul byte found in provided data"

/-- The number that the system gives a failure; one that is seen before the system is asked has
none. -/
def FileError.number? : FileError → Option Nat
  | .notFound => some 2
  | .unknownFormat => some 8
  | .permissionDenied => some 13
  | .exists => some 17
  | .notDirectory => some 20
  | .isDirectory => some 21
  | .nameTooLong => some 36
  | .tooManyLinks => some 40
  | .nulInPath | .nulInData => none

/-- The wording of a failure. -/
def FileError.message (e : FileError) : Text :=
  match e.number? with
  | some n => e.reason ++ " (os error " ++ Text.ofNat n ++ ")"
  | none => e.reason

/-- A directory tree. An earlier entry for a location hides a later one. -/
structure Tree where
  entries : List (Location × Entry)
  deriving Repr

namespace Tree

/-- The tree that holds nothing but the root. -/
def empty : Tree := ⟨[]⟩

/-- What lies at a location. The root is always a directory. -/
def get? (t : Tree) : Location → Option Entry
  | [] => some .dir
  | l => t.entries.lookup l

/-- The tree with `e` at `l`. -/
def put (t : Tree) (l : Location) (e : Entry) : Tree := ⟨(l, e) :: t.entries⟩

@[simp] theorem get?_root (t : Tree) : t.get? [] = some .dir := rfl

theorem get?_put (t : Tree) (l l' : Location) (e : Entry) (h : l ≠ []) :
    (t.put l e).get? l' = if l' = l then some e else t.get? l' := by
  cases l' with
  | nil => simp [Ne.symm h]
  | cons n up =>
    simp only [get?, put, List.lookup_cons]
    by_cases e : n :: up = l
    · simp [e]
    · simp [e, beq_eq_false_iff_ne.2 e]

/-- The names in a directory, each once, in code point order. -/
def names (t : Tree) (l : Location) : List Text :=
  let inside := t.entries.filterMap fun e => match e.1 with
    | n :: up => if up = l then some n else none
    | [] => none
  inside.eraseDups.mergeSort

/-- What a path leads to. -/
inductive Found where
  | present (l : Location)
  /-- Nothing, but the directory it would lie in is there. A slash behind its name asks for a
  directory. -/
  | absent (l : Location) (slashed : Bool)
  deriving DecidableEq, Repr

/-- The greatest number of links followed on the way of one path. -/
def maxLinks : Nat := 40

/-- Follows the pieces of a path from `l`. Each piece, also an empty one, asks that a directory
lies where it starts. A link in the last piece is followed only if `follow` is set. -/
def walk (t : Tree) (follow : Bool) (links : Nat) (l : Location) (pieces : List Text) :
    Except FileError Found :=
  match pieces with
  | [] => .ok (.present l)
  | piece :: rest =>
    match t.get? l with
    | some .dir =>
      if Path.isVoid piece then walk t follow links l rest
      else if piece = ['.', '.'] then walk t follow links l.tail rest
      else if 255 < Text.utf8Size piece then .error .nameTooLong
      else
        match t.get? (piece :: l) with
        | none => if rest.all (· == []) then .ok (.absent (piece :: l) (!rest.isEmpty)) else .error .notFound
        | some (.link target) =>
          if rest = [] && !follow then .ok (.present (piece :: l))
          else
            match links with
            | 0 => .error .tooManyLinks
            | links + 1 =>
              walk t follow links (if Path.isAbsolute target then [] else l) (List.splitOn '/' target ++ rest)
        | some _ => walk t follow links (piece :: l) rest
    | _ => .error .notDirectory
termination_by (links, pieces.length)

/-- Whether the pieces of a path ask that they start in a directory: a step up does, and so do pieces at the
end that add nothing. -/
def asksDir (pieces : List Text) : Bool :=
  match pieces.dropWhile Path.isVoid with
  | [] => !pieces.isEmpty
  | piece :: _ => piece == ['.', '.']

/-- Follows the pieces of a path, links too, to the location that they lead to. Other than in `walk` each
place on the way is looked up by its own absolute path, with a slash behind it to ask for a directory. So it
is these paths that must not be too long, while the one that is followed can have any length. -/
def trace (t : Tree) (links : Nat) (l : Location) (pieces : List Text) : Except FileError Location :=
  match pieces with
  | [] => .ok l
  | piece :: rest =>
    if asksDir (piece :: rest) then
      if 4096 ≤ Text.utf8Size l.path + 1 then .error .nameTooLong
      else if t.get? l = some .dir then trace t links (if piece = ['.', '.'] then l.tail else l) rest
      else .error .notDirectory
    else if Path.isVoid piece then trace t links l rest
    else if 4096 ≤ Text.utf8Size (Location.path (piece :: l)) then .error .nameTooLong
    else if t.get? l = some .dir then
      if 255 < Text.utf8Size piece then .error .nameTooLong
      else
        match t.get? (piece :: l) with
        | none => .error .notFound
        | some (.link target) =>
          match links with
          | 0 => .error .tooManyLinks
          | links + 1 =>
            trace t links (if Path.isAbsolute target then [] else l) (List.splitOn '/' target ++ rest)
        | some _ => trace t links (piece :: l) rest
    else .error .notDirectory
termination_by (links, pieces.length)

end Tree

end WrapShell
