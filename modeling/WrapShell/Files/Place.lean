import WrapShell.Files.Tree
/-!
# A place in a tree

A `Place` is a tree seen from a working directory: what a process works on. All operations on
files take paths as written and read them from there; those that change something give the
place after the change.
-/

namespace WrapShell

/-- A tree and a working directory in it. -/
structure Place where
  tree : Tree
  cwd : Location
  deriving Repr

namespace Place

/-- What a path leads to. -/
def find (here : Place) (follow : Bool) (p : Path) : Except FileError Tree.Found :=
  if p.contains '\x00' then .error .nulInPath
  else if p = [] then .error .notFound
  else if 4096 ≤ Text.utf8Size p then .error .nameTooLong
  else here.tree.walk follow Tree.maxLinks (if Path.isAbsolute p then [] else here.cwd) (List.splitOn '/' p)

/-- The location of what a path leads to, links followed. -/
def resolve (here : Place) (p : Path) : Except FileError Location :=
  match here.find true p with
  | .ok (.present l) => .ok l
  | .ok (.absent _ _) => .error .notFound
  | .error e => .error e

/-- The location of what a path leads to, links followed, found one step after the other. -/
def canonical (here : Place) (p : Path) : Except FileError Location :=
  if p.contains '\x00' then .error .nulInPath
  else if p = [] then .error .notFound
  else here.tree.trace Tree.maxLinks (if Path.isAbsolute p then [] else here.cwd) (List.splitOn '/' p)

/-- What a path leads to, links followed. -/
def entry? (here : Place) (p : Path) : Option Entry :=
  match here.resolve p with
  | .ok l => here.tree.get? l
  | .error _ => none

def isFile (here : Place) (p : Path) : Bool :=
  match here.entry? p with
  | some (.file _ _) => true
  | _ => false

def isDir (here : Place) (p : Path) : Bool := here.entry? p == some .dir

/-- Whether a path leads to anything, links followed. -/
def isPresent (here : Place) (p : Path) : Bool := (here.entry? p).isSome

/-- Whether a path leads to anything or to a link that leads nowhere. -/
def isListed (here : Place) (p : Path) : Bool :=
  here.isPresent p ||
    match here.find false p with
    | .ok (.present _) => true
    | _ => false

/-- The location of a directory. -/
def directory (here : Place) (p : Path) : Except FileError Location :=
  match here.resolve p with
  | .ok l => if here.tree.get? l = some .dir then .ok l else .error .notDirectory
  | .error e => .error e

/-- The names in the directory that a path leads to. -/
def list (here : Place) (p : Path) : List Text :=
  match here.directory p with
  | .ok l => here.tree.names l
  | .error _ => []

/-- The content of a file. -/
def read (here : Place) (p : Path) : Except FileError Text :=
  match here.resolve p with
  | .error e => .error e
  | .ok l =>
    match here.tree.get? l with
    | some (.file content _) => .ok content
    | some .dir => .error .isDirectory
    | _ => .error .notFound

/-- Puts something at a location. -/
def put (here : Place) (l : Location) (e : Entry) : Place := { here with tree := here.tree.put l e }

/-- Writes a file; one that is there keeps its mode. -/
def write (here : Place) (p : Path) (content : Text) : Except FileError Place :=
  match here.find true p with
  | .error e => .error e
  | .ok (.absent l slashed) => if slashed then .error .isDirectory else .ok (here.put l (.file content false))
  | .ok (.present l) =>
    match here.tree.get? l with
    | some (.file _ executable) => .ok (here.put l (.file content executable))
    | _ => .error .isDirectory

/-- Makes one directory, in a directory that is there. -/
def makeDir (here : Place) (p : Path) : Except FileError Place :=
  match here.find false p with
  | .error e => .error e
  | .ok (.present _) => .error .exists
  | .ok (.absent l _) => .ok (here.put l .dir)

/-- Makes the first of some directories, and before it those after it in the list if it
lies in one that is missing: what is there in the end, and what went wrong. -/
def makeDirsFrom (here : Place) : List Path → Place × Option FileError
  | [] => (here, none)
  | p :: up =>
    match here.makeDir p with
    | .ok made => (made, none)
    | .error .notFound =>
      match here.makeDirsFrom up with
      | (above, some e) => (above, some e)
      | (above, none) =>
        match above.makeDir p with
        | .ok made => (made, none)
        | .error e => (above, if above.isDir p then none else some e)
    | .error e => (here, if here.isDir p then none else some e)

/-- Makes a directory and all that lie above it, where they are missing. -/
def makeDirs (here : Place) (p : Path) : Place × Option FileError := here.makeDirsFrom (Path.upwards p)

/-- Puts `e` where a path leads, in a directory that is there. -/
def place (here : Place) (p : Path) (e : Entry) : Except FileError Place :=
  match here.find false p with
  | .error e => .error e
  | .ok (.present l) | .ok (.absent l _) => .ok (here.put l e)

end Place

end WrapShell
