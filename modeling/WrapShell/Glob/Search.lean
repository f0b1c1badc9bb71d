import WrapShell.Files.Place
import WrapShell.Glob.Pattern
/-!
# Searching a tree for a pattern

A pattern is cut at its slashes, and its components are matched one directory at a time:
a component without special characters is only looked up, any other is compared with each
name in the directory. What is found comes in code point order of the names, depth first.
-/

namespace WrapShell

namespace Pattern

/-- The components of a pattern, cut at its slashes; a slash at the end starts none. -/
def components (pattern : Text) : List Text :=
  let pieces := List.splitOn '/' (if Path.isAbsolute pattern then pattern.tail else pattern)
  if pieces.getLast? = some [] then pieces.dropLast else pieces

/-- Reads a pattern for paths: first as a whole, then each component by itself. -/
def readPath (pattern : Text) : Except PatternError (List (List Token)) :=
  match read pattern with
  | .error e => .error e
  | .ok _ => (components pattern).mapM read

end Pattern

namespace Place

/-- The path of the name `n` in the directory `dir`; names in `.` stand alone. -/
def below (dir : Path) (n : Text) : Path :=
  if Path.components dir = [.current] then n else Path.join dir n

/-- The two special names of a directory, if the component asks for a leading dot. -/
def specialNames : List Pattern.Token → List Text
  | .char '.' :: _ => [['.', '.'], ['.']]
  | _ => []

/-- Whether the name `n` in the directory `dir` is one too. The directory itself says so; only a link has to
be looked up by its path. -/
def listsDir (here : Place) (dir : Path) (n : Text) : Bool :=
  match here.directory dir with
  | .error _ => false
  | .ok l =>
    match here.tree.get? (n :: l) with
    | some (.link _) => here.isDir (below dir n)
    | e => e == some .dir

/-- The paths below `dir` that the components describe; only directories if `dirsOnly`. With each path comes
whether it is taken for a directory. -/
def search (here : Place) (dirsOnly : Bool) : List (List Pattern.Token) → Path → Bool → List Path
  | [], dir, isDir => if dirsOnly && !isDir then [] else [dir]
  | k :: ks, dir, isDir =>
    match Pattern.literal? k with
    | some n =>
      let next := below dir n
      let found := if n = ['.'] || n = ['.', '.'] then isDir else here.isListed next
      if found then search here dirsOnly ks next (here.isDir next) else []
    | none =>
      if here.isDir dir then
        ((specialNames k).filter (Pattern.describes k)).flatMap (fun n =>
            search here dirsOnly ks (Path.join dir n) (here.isDir (Path.join dir n))) ++
          ((here.list dir).filter (Pattern.describes k)).flatMap fun n =>
            search here dirsOnly ks (below dir n) (here.listsDir dir n)
      else []

/-- The paths that a pattern describes. -/
def glob (here : Place) (pattern : Text) : Except PatternError (List Path) :=
  match Pattern.readPath pattern with
  | .error e => .error e
  | .ok ks =>
    let start := if Path.isAbsolute pattern then ['/'] else ['.']
    .ok (here.search (pattern.getLast? == some '/') ks start (here.isDir start))

end Place

end WrapShell
