import WrapShell.Line.Expand
import WrapShell.Proofs.Files.Steps
import WrapShell.Proofs.Glob.Search
import WrapShell.Proofs.Glob.Word
/-!
# The front of a word

Plain characters that a word starts with stay in front of all that the word expands to, whatever is behind
them: of the word itself, and of each path that it describes (`expandWord_front`).
-/

namespace WrapShell

/-- The characters that a word, a pattern or a path may take for more than themselves. -/
def Text.activeChars : List Char := ['\\', '*', '+', '?', '[', '/', '.']

/-- Something that a word may start with, without such a character. -/
structure Text.IsPlainFront (s : Text) : Prop where
  nonempty : s ≠ []
  plain : ∀ c ∈ s, c ∉ Text.activeChars

variable {s v t : Text} {c : Char}

/-- What is said of each character of a front, taken apart. -/
theorem Text.IsPlainFront.exists_cons (hs : s.IsPlainFront) : ∃ c u, s = c :: u ∧ c ≠ '/' ∧ c ≠ '.' := by
  obtain ⟨c, u, rfl⟩ := List.exists_cons_of_ne_nil hs.nonempty
  have hc := hs.plain c List.mem_cons_self
  exact ⟨c, u, rfl, by rintro rfl; exact hc (by decide), by rintro rfl; exact hc (by decide)⟩

theorem Text.IsPlainFront.slash_not_mem (hs : s.IsPlainFront) : '/' ∉ s := fun h => hs.plain _ h (by decide)

theorem Text.IsPlainFront.isAbsolute (hs : s.IsPlainFront) (v : Text) : Path.isAbsolute (s ++ v) = false := by
  obtain ⟨c, u, rfl, hc, -⟩ := hs.exists_cons
  simpa [Path.isAbsolute] using hc

/-! ## Words -/

theorem stripEscapes_front (hs : ∀ c ∈ s, c ∉ Text.activeChars) :
    stripEscapes (s ++ v) = (stripEscapes v).map (s ++ ·) := by
  induction s with
  | nil => simp
  | cons c s ih =>
    obtain ⟨hc, hs⟩ := List.forall_mem_cons.1 hs
    simp only [Text.activeChars, List.mem_cons, List.not_mem_nil, or_false, not_or] at hc
    have hstrip : stripEscapes (c :: (s ++ v)) = (stripEscapes (s ++ v)).map (c :: ·) := by
      simp [stripEscapes, metacharacters, hc]
    rw [List.cons_append, hstrip, ih hs, Option.map_map]
    rfl

namespace WordPiece

theorem Spells.front {ps : List WordPiece} (hs : ∀ c ∈ s, c ∉ Text.activeChars) (h : Spells (s ++ v) ps) :
    ∃ qs, ps = s.map WordPiece.plain ++ qs := by
  induction s generalizing ps with
  | nil => exact ⟨ps, rfl⟩
  | cons c s ih =>
    obtain ⟨hc, hs⟩ := List.forall_mem_cons.1 hs
    rw [List.cons_append] at h
    generalize hw : s ++ v = w at h
    cases h with
    | dangling | escaped | stars | bracket => exact absurd (by decide) hc
    | plain _ more =>
      rw [← hw] at more
      obtain ⟨qs, rfl⟩ := ih hs more
      exact ⟨qs, rfl⟩

theorem writeAll_front (s : Text) (qs : List WordPiece) : writeAll (s.map WordPiece.plain ++ qs) = s ++ writeAll qs := by
  induction s with
  | nil => rfl
  | cons c s ih => exact congrArg (c :: ·) ih

end WordPiece

theorem wordPattern_front {pattern : Text} (hs : s.IsPlainFront) (h : wordPattern (s ++ v) = .ok pattern) :
    ∃ u, pattern = s ++ u := by
  unfold wordPattern at h
  cases hread : WordPiece.read (s ++ v) with
  | error => rw [hread] at h; cases h
  | ok ps =>
    rw [hread] at h
    obtain ⟨qs, rfl⟩ := (WordPiece.readFrom_eq_ok_iff.1 hread).front hs.plain
    refine ⟨WordPiece.writeAll qs, ?_⟩
    rw [← WordPiece.writeAll_front]
    exact (Except.ok.inj h).symm

/-! ## Patterns -/

namespace Pattern

variable {start : Bool} {pos : Nat} {ks : List Token}

theorem readFrom_front (hs : ∀ c ∈ s, c ∉ Text.activeChars) (h : readFrom start pos (s ++ v) = .ok ks) :
    ∃ ks', ks = s.map .char ++ ks' := by
  induction s generalizing start pos ks with
  | nil => exact ⟨ks, rfl⟩
  | cons c s ih =>
    obtain ⟨hc, hs⟩ := List.forall_mem_cons.1 hs
    have hchar : c ∉ ['?', '*', '['] := by
      intro h
      apply hc
      simp only [List.mem_cons, List.not_mem_nil, or_false] at h
      rcases h with rfl | rfl | rfl <;> decide
    rw [List.cons_append, readFrom_char hchar] at h
    obtain ⟨ks', h', rfl⟩ := WordPiece.map_cons_eq_ok.1 h
    obtain ⟨ks'', rfl⟩ := ih hs h'
    exact ⟨ks'', rfl⟩

theorem describes_front {n : Text} (h : describes (s.map .char ++ ks) n) : s <+: n := by
  induction s generalizing n with
  | nil => exact List.nil_prefix
  | cons c s ih =>
    obtain ⟨m, rfl, hm⟩ := describes_char_cons.1 h
    exact (List.prefix_cons_inj c).2 (ih hm)

theorem literal_front {n : Text} (h : literal? (s.map .char ++ ks) = some n) : s <+: n :=
  describes_front ((describes_literal h).2 rfl)

/-- A component of a path that is looked up for what it says is a relative one. -/
def IsRelative (ks : List Token) : Prop := ∀ n, literal? ks = some n → Path.isAbsolute n = false

theorem isRelative_of_read (h : readFrom start pos t = .ok ks) (ht : '/' ∉ t) : IsRelative ks := by
  intro n hn
  rw [eq_of_read_literal h hn]
  simpa [Path.isAbsolute] using fun e => ht (List.mem_of_mem_head? e)

end Pattern

/-- The first component of a pattern has the front of the pattern, and no component has a slash. -/
theorem Pattern.components_front (hs : s.IsPlainFront) (v : Text) :
    ∃ x rest, Pattern.components (s ++ v) = (s ++ x) :: rest ∧ ∀ t ∈ rest, '/' ∉ t := by
  obtain ⟨x, rest, -, hcut⟩ := splitOn_front hs.slash_not_mem v
  have hrest : ∀ t ∈ rest, '/' ∉ t := fun t ht => not_mem_of_mem_splitOn (hcut ▸ List.mem_cons_of_mem _ ht)
  have hne : s ++ x ≠ [] := by simp [hs.nonempty]
  rw [Pattern.components, hs.isAbsolute]
  simp only [Bool.false_eq_true, if_false, hcut]
  split
  · next hlast =>
    -- a slash at the end is behind the first component
    cases rest with
    | nil => exact absurd (Option.some.inj hlast) hne
    | cons y rest => exact ⟨x, (y :: rest).dropLast, rfl, fun t ht => hrest t (List.dropLast_subset _ ht)⟩
  · exact ⟨x, rest, rfl, hrest⟩

theorem Pattern.mapM_read_cons {ts : List Text} {kss : List (List Pattern.Token)} :
    (t :: ts).mapM Pattern.read = .ok kss ↔
      ∃ ks rest, Pattern.read t = .ok ks ∧ ts.mapM Pattern.read = .ok rest ∧ kss = ks :: rest := by
  rw [List.mapM_cons]
  cases Pattern.read t with
  | error => simp [bind, Except.bind]
  | ok ks => cases ts.mapM Pattern.read <;> simp [bind, Except.bind, pure, Except.pure, eq_comm]

theorem Pattern.exists_read_of_mem {ts : List Text} {kss : List (List Pattern.Token)} {ks : List Pattern.Token}
    (h : ts.mapM Pattern.read = .ok kss) (hk : ks ∈ kss) : ∃ t ∈ ts, Pattern.read t = .ok ks := by
  induction ts generalizing kss with
  | nil => cases h; cases hk
  | cons t ts ih =>
    obtain ⟨first, rest, hfirst, hrest, rfl⟩ := Pattern.mapM_read_cons.1 h
    rcases List.mem_cons.1 hk with rfl | hk
    · exact ⟨t, List.mem_cons_self, hfirst⟩
    · obtain ⟨t', ht', hread⟩ := ih hrest hk
      exact ⟨t', List.mem_cons_of_mem _ ht', hread⟩

theorem Pattern.readPath_front {kss : List (List Pattern.Token)} (hs : s.IsPlainFront) (h : Pattern.readPath (s ++ v) = .ok kss) :
    ∃ ks rest, kss = (s.map .char ++ ks) :: rest ∧ ∀ ks ∈ rest, IsRelative ks := by
  unfold Pattern.readPath at h
  split at h
  · cases h
  · obtain ⟨x, ts, hcomponents, hts⟩ := Pattern.components_front hs v
    rw [hcomponents] at h
    obtain ⟨first, rest, hfirst, hrest, rfl⟩ := Pattern.mapM_read_cons.1 h
    obtain ⟨ks, rfl⟩ := Pattern.readFrom_front hs.plain hfirst
    refine ⟨ks, rest, rfl, fun ks' hks' => ?_⟩
    obtain ⟨t, ht, hread⟩ := Pattern.exists_read_of_mem hrest hks'
    exact Pattern.isRelative_of_read hread (hts t ht)

/-! ## Paths -/

namespace Place

variable {here : Place} {dir p n : Path} {dirsOnly isDir : Bool} {kss : List (List Pattern.Token)} {ks : List Pattern.Token}

theorem below_front (hs : s.IsPlainFront) (hdir : s <+: dir) (hn : Path.isAbsolute n = false) : s <+: below dir n := by
  have hcurrent : Path.components dir ≠ [.current] := by
    obtain ⟨v, rfl⟩ := hdir
    obtain ⟨x, rest, -, hcut⟩ := splitOn_front hs.slash_not_mem v
    obtain ⟨c, u, rfl, -, hc⟩ := hs.exists_cons
    have hfirst : c :: u ++ x ≠ ['.'] := fun e => hc (List.cons.inj e).1
    rw [Path.components, hcut]
    simp only [List.cons_append, reduceCtorEq, if_false] at hfirst ⊢
    rw [if_neg hfirst, Path.ofPiece]
    split <;> simp
  rw [below, if_neg hcurrent]
  exact hdir.trans (Path.prefix_join hn)

/-- Where a path that a search finds has come from: a name that is looked up, one of the special names, or
one in the directory. -/
theorem step_of_mem_search (hp : p ∈ here.search dirsOnly (ks :: kss) dir isDir) :
    ∃ next isDir', p ∈ here.search dirsOnly kss next isDir' ∧
      ((∃ n, Pattern.literal? ks = some n ∧ (n = ['.'] ∨ n = ['.', '.'] ∨ here.isListed (below dir n)) ∧ next = below dir n) ∨
        (∃ n ∈ specialNames ks, next = Path.join dir n) ∨
        ∃ n ∈ here.list dir, Pattern.describes ks n ∧ next = below dir n) := by
  rw [search] at hp
  split at hp
  · next n hlit =>
    dsimp only at hp
    obtain ⟨hfound, hp⟩ := List.mem_ite_nil_right.1 hp
    refine ⟨_, _, hp, .inl ⟨n, hlit, ?_, rfl⟩⟩
    split at hfound
    · next hspecial =>
      rw [Bool.or_eq_true, decide_eq_true_eq, decide_eq_true_eq] at hspecial
      exact hspecial.imp_right .inl
    · exact .inr (.inr hfound)
  · split at hp
    · rcases List.mem_append.1 hp with hp | hp
      · obtain ⟨n, hn, hp⟩ := List.mem_flatMap.1 hp
        exact ⟨_, _, hp, .inr (.inl ⟨n, List.mem_of_mem_filter hn, rfl⟩)⟩
      · obtain ⟨n, hn, hp⟩ := List.mem_flatMap.1 hp
        obtain ⟨hlist, hdescribes⟩ := List.mem_filter.1 hn
        exact ⟨_, _, hp, .inr (.inr ⟨n, hlist, hdescribes, rfl⟩)⟩
    · cases hp

theorem isAbsolute_of_mem_specialNames (hn : n ∈ specialNames ks) : Path.isAbsolute n = false := by
  rcases (mem_specialNames.1 hn).1 with rfl | rfl <;> rfl

/-- A search below a path that has the front finds paths that have it. By induction on the components: each
goes to a name that is relative. -/
theorem search_front (ht : here.tree.IsLegal) (hs : s.IsPlainFront) (hkss : ∀ ks ∈ kss, Pattern.IsRelative ks)
    (hdir : s <+: dir) (hp : p ∈ here.search dirsOnly kss dir isDir) : s <+: p := by
  induction kss generalizing dir isDir with
  | nil =>
    rw [search] at hp
    split at hp
    · cases hp
    · rw [List.mem_singleton.1 hp]
      exact hdir
  | cons ks kss ih =>
    obtain ⟨hks, hkss⟩ := List.forall_mem_cons.1 hkss
    obtain ⟨next, isDir', hp, hstep⟩ := step_of_mem_search hp
    refine ih hkss ?_ hp
    rcases hstep with ⟨n, hlit, -, rfl⟩ | ⟨n, hspecial, rfl⟩ | ⟨n, hlist, -, rfl⟩
    · exact below_front hs hdir (hks n hlit)
    · exact hdir.trans (Path.prefix_join (isAbsolute_of_mem_specialNames hspecial))
    · exact below_front hs hdir (name_of_mem_list ht hlist).isAbsolute

/-- In the working directory a first component with the front finds names that have it. -/
theorem search_dot_front (ht : here.tree.IsLegal) (hs : s.IsPlainFront) (hkss : ∀ ks ∈ kss, Pattern.IsRelative ks)
    (hp : p ∈ here.search dirsOnly ((s.map .char ++ ks) :: kss) ['.'] isDir) : s <+: p := by
  have hbelow (n : Text) : below ['.'] n = n := if_pos (by decide)
  have hnone : specialNames (s.map .char ++ ks) = [] := by
    obtain ⟨c, u, rfl, -, hc⟩ := hs.exists_cons
    simp [specialNames, hc]
  obtain ⟨next, isDir', hp, hstep⟩ := step_of_mem_search hp
  refine search_front ht hs hkss ?_ hp
  rcases hstep with ⟨n, hlit, -, hnext⟩ | ⟨n, hspecial, -⟩ | ⟨n, -, hdescribes, hnext⟩
  · rw [hnext, hbelow]
    exact Pattern.literal_front hlit
  · rw [hnone] at hspecial
    cases hspecial
  · rw [hnext, hbelow]
    exact Pattern.describes_front hdescribes

/-- What a pattern that is read well finds. -/
theorem glob_eq_ok_iff {pattern : Text} {ps : List Path} :
    here.glob pattern = .ok ps ↔ ∃ kss, Pattern.readPath pattern = .ok kss ∧
      let start := if Path.isAbsolute pattern then ['/'] else ['.']
      ps = here.search (pattern.getLast? == some '/') kss start (here.isDir start) := by
  rw [glob]
  cases Pattern.readPath pattern with
  | error e =>
    refine iff_of_false (by simp) ?_
    rintro ⟨_, h, -⟩
    cases h
  | ok kss =>
    constructor
    · rintro ⟨⟩
      exact ⟨kss, rfl, rfl⟩
    · rintro ⟨_, ⟨⟩, rfl⟩
      rfl

theorem glob_front {ps : List Path} (ht : here.tree.IsLegal) (hs : s.IsPlainFront) (h : here.glob (s ++ v) = .ok ps)
    (hp : p ∈ ps) : s <+: p := by
  obtain ⟨kss, hread, rfl⟩ := glob_eq_ok_iff.1 h
  obtain ⟨ks, rest, rfl, hrest⟩ := Pattern.readPath_front hs hread
  rw [hs.isAbsolute, if_neg (by simp)] at hp
  exact search_dot_front ht hs hrest hp

end Place

/-- A word is matched by what its pattern finds, and finding nothing is an error. -/
theorem matchWord_eq_ok_iff {here : Place} {word : Text} {ps : List Path} :
    matchWord here word = .ok ps ↔ ps ≠ [] ∧ ∃ pattern, wordPattern word = .ok pattern ∧ here.glob pattern = .ok ps := by
  rw [matchWord]
  cases wordPattern word with
  | error => simp
  | ok pattern =>
    rcases hglob : here.glob pattern with e | _ | ⟨p, paths⟩
    · simp [hglob]
    · simp +contextual [hglob, eq_comm]
    · simp +contextual [hglob, eq_comm]

theorem matchWord_front {here : Place} {ps : List Path} (ht : here.tree.IsLegal) (hs : s.IsPlainFront)
    (h : matchWord here (s ++ v) = .ok ps) : ps ≠ [] ∧ ∀ p ∈ ps, s <+: p := by
  obtain ⟨hne, pattern, hpattern, hglob⟩ := matchWord_eq_ok_iff.1 h
  obtain ⟨u, rfl⟩ := wordPattern_front hs hpattern
  exact ⟨hne, fun p hp => Place.glob_front ht hs hglob hp⟩

/-- What a word with a plain front expands to: strings with that front, but for the quote before a path
with a space. -/
theorem expandWord_front {here : Place} {ss : List Text} (ht : here.tree.IsLegal) (hs : s.IsPlainFront)
    (h : expandWord here (s ++ v) = .ok ss) :
    ss ≠ [] ∧ ∀ x ∈ ss, s <+: x ∨
      ∃ ps p, matchWord here (s ++ v) = .ok ps ∧ p ∈ ps ∧ s <+: p ∧ ' ' ∈ p ∧ x = quoteSpaced p := by
  unfold expandWord at h
  rw [stripEscapes_front hs.plain] at h
  cases hstrip : stripEscapes v with
  | some u =>
    rw [hstrip] at h
    cases h
    exact ⟨by simp, fun x hx => .inl (by rw [List.mem_singleton.1 hx]; exact List.prefix_append _ _)⟩
  | none =>
    rw [hstrip] at h
    cases hmatch : matchWord here (s ++ v) with
    | error => simp only [hmatch, Option.map_none] at h; cases h
    | ok ps =>
      simp only [hmatch, Option.map_none] at h
      cases h
      obtain ⟨hne, hfront⟩ := matchWord_front ht hs hmatch
      refine ⟨by simpa using hne, fun x hx => ?_⟩
      obtain ⟨p, hp, rfl⟩ := List.mem_map.1 hx
      by_cases hspace : ' ' ∈ p
      · exact .inr ⟨ps, p, rfl, hp, hfront p hp, hspace, rfl⟩
      · have hplain : quoteSpaced p = p := if_neg (by simpa using hspace)
        rw [hplain]
        exact .inl (hfront p hp)

end WrapShell
