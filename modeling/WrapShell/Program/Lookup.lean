import WrapShell.Files.Place
/-!
# Finding a program

A plain name is looked for in the directories of the search path, in order; a path of more than
one step, or an absolute one, names its file itself. Only a file is ever found.
-/

namespace WrapShell.Place

/-- The first of some paths that leads to a file. -/
def firstFile (here : Place) (ps : List Path) : Option Path := ps.find? here.isFile

/-- The file that a program name stands for, seen from `dir`. -/
def findProgram (here : Place) (searchPath : Text) (dir : Path) (name : Path) : Option Path :=
  if Path.isAbsolute name then here.firstFile [name]
  else
    match Path.components name with
    | [] => none
    | [step] => here.firstFile ((Path.split searchPath).map fun d => Path.join d step.text)
    | _ => here.firstFile [Path.join dir name]

/-- What is found is a file. -/
theorem isFile_of_findProgram {here : Place} {searchPath : Text} {dir name p : Path}
    (h : here.findProgram searchPath dir name = some p) : here.isFile p := by
  unfold findProgram firstFile at h
  split at h
  · exact List.find?_some h
  · split at h
    · cases h
    · exact List.find?_some h
    · exact List.find?_some h

end WrapShell.Place
