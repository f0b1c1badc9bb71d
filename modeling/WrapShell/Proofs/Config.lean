import WrapShell.Proofs.Program.Lookup
import WrapShell.Start
/-!
# Where the suggestions for a program are kept

The file has the name of the program's file, so it is one name in the directory for such files whenever there is
a program (`completionFileFor_liesIn`). For `a/..` or the empty text it would be another, but these are no
programs.
-/

namespace WrapShell

open WrapShell.Path (IsName)

variable {here : Place} {searchPath : Text} {dir program p : Path} {vars : Variables} {line n : Text} {argv ts us : List Text}

theorem Path.IsName.append_yaml (hn : IsName n) : IsName (n ++ ".yaml") where
  nonempty := by simp
  here h := by simpa using congrArg List.length h
  parent h := by simpa using congrArg List.length h
  slash h := (List.mem_append.1 h).elim hn.slash (by decide)

namespace Config

theorem liesIn_of_splitOn (config : Config) (h : List.splitOn '/' program = ts ++ n :: us) (hn : IsName n)
    (hus : ∀ t ∈ us, Path.isVoid t) :
    Path.EndsIn program n ∧ Path.LiesIn (config.completionFileFor program) config.completionDir (n ++ ".yaml") := by
  rw [completionFileFor, Path.fileName_of_splitOn h hn hus]
  exact ⟨Path.endsIn_of_splitOn h hn hus, Path.liesIn_join hn.append_yaml config.completionDir⟩

/-- The suggestions for a program that is found lie in the directory for such files, under the name that the
program's path ends in. -/
theorem completionFileFor_liesIn (hcwd : here.IsRooted) (h : here.findProgram searchPath dir program = some p)
    (config : Config) :
    ∃ n, Path.EndsIn program n ∧ Path.LiesIn (config.completionFileFor program) config.completionDir (n ++ ".yaml") := by
  obtain ⟨ts, n, us, hcut, hn, hus⟩ := Place.exists_name_of_findProgram hcwd h
  exact ⟨n, config.liesIn_of_splitOn hcut hn hus⟩

/-- A program with a slash and a dot behind its name, and a directory that is written as a relative path. -/
theorem completionFileFor_liesIn_dotted :
    let here : Place := ⟨⟨[(["b"], .dir), (["git", "b"], .file [] true)]⟩, ["b"]⟩
    let config : Config := ⟨"h", "../c/", "log", .off⟩
    here.IsRooted ∧ here.findProgram "/b" "/" "git/." = some "/b/git".toList ∧
      config.completionFileFor "git/." = "../c/git.yaml".toList ∧ Path.EndsIn "git/.".toList "git" ∧
      Path.LiesIn "../c/git.yaml".toList "../c/" "git.yaml" := by
  intro here config
  have hcwd : here.IsRooted := fun _ => by decide
  have hfile : here.isFile "/b/git" := by
    simp +decide [here, Place.isFile, Place.entry?, Place.resolve, Place.find, List.splitOn_cons_eq_if_modifyHead, Tree.walk, Tree.get?, List.lookup_cons]
  have hfound : here.findProgram "/b" "/" "git/." = some "/b/git".toList := by
    have hstep : Path.IsStep "git/.".toList "git" := ⟨by decide, [['.']], Path.hasPieces_iff.2 rfl, by simp⟩
    rw [Place.findProgram_of_isStep hstep]
    exact List.find?_cons_of_pos hfile
  have hname : config.completionFileFor "git/." = "../c/git.yaml".toList := by decide +kernel
  obtain ⟨n, hends, hlies⟩ := completionFileFor_liesIn hcwd hfound config
  rw [hname] at hlies
  obtain rfl : "git".toList = n := by
    have hjoined : "../c/".toList ++ ("git".toList ++ ".yaml".toList) = "../c/".toList ++ (n ++ ".yaml".toList) := by
      have hjoined := hlies.joined
      rw [Path.join, hlies.name.isAbsolute] at hjoined
      exact hjoined
    exact List.append_cancel_right (List.append_cancel_left hjoined)
  exact ⟨hcwd, hfound, hname, hends, hlies⟩

end Config

namespace Start

/-- So the program that is started reads its suggestions from that directory. -/
theorem completionFile_liesIn (hcwd : here.IsRooted) (h : baseCommand here vars line = .ok argv) (config : Config) :
    ∃ n, Path.EndsIn (argv.headD []) n ∧
      Path.LiesIn (config.completionFileFor (argv.headD [])) config.completionDir (n ++ ".yaml") := by
  rw [baseCommand] at h
  split at h
  · cases h
  · split at h
    · cases h
    · cases h
    · split at h
      · cases h
      · next hfound =>
        cases h
        obtain ⟨ts, n, us, hcut, hn, hus⟩ := Place.exists_name_of_findProgram hcwd hfound
        exact ⟨n, config.liesIn_of_splitOn hcut hn hus⟩

end Start

end WrapShell
