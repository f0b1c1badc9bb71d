import WrapShell.Proofs.Line.Argument
import WrapShell.Proofs.Session.Dispatch
/-!
# How many arguments a line has

Every node of a line gives at least one string, and every node but a bare word with a live metacharacter gives
exactly one, whatever the files are. So nothing that follows a node is ever moved to its place, and only a blank
line has no argument (`expand_count`).
-/

namespace WrapShell

/-- A blank line is told alike by the blanks at its ends and by the blanks between its arguments. -/
theorem Text.trim_eq_nil_iff {t : Text} : t.trim = [] ↔ t.allBlank := by
  rw [trim, List.reverse_eq_nil_iff, List.dropWhile_eq_nil_iff, allBlank, List.all_eq_true]
  simp only [List.mem_reverse]
  constructor
  · intro h c hc
    rw [← List.takeWhile_append_dropWhile (p := isBlank) (l := t), List.mem_append] at hc
    rcases hc with hc | hc
    · exact List.all_eq_true.1 List.all_takeWhile c hc
    · exact h c hc
  · exact fun h c hc => h c (List.dropWhile_subset _ hc)

/-! ## One node -/

namespace Node

variable {here : Place} {look : Text → Text} {n : Node} {ns : List Node} {ss : List Text}

/-- What a node stands for is never nothing, and it is several strings for a pattern only. -/
theorem length_of_expand (h : n.expand here look = .ok ss) : 1 ≤ ss.length ∧ (n.isPattern = false → ss.length = 1) := by
  cases n with
  | quoted | single | var => cases h; exact ⟨Nat.le_refl 1, fun _ => rfl⟩
  | double children =>
    rw [expand] at h
    cases hsplice : splice here look children with
    | error e => rw [hsplice] at h; cases h
    | ok t => rw [hsplice] at h; cases h; exact ⟨Nat.le_refl 1, fun _ => rfl⟩
  | word v =>
    rw [expand, expandWord] at h
    cases hstrip : stripEscapes v with
    | some s => rw [hstrip] at h; cases h; exact ⟨Nat.le_refl 1, fun _ => rfl⟩
    | none =>
      rw [hstrip] at h
      cases hmatch : matchWord here v with
      | error e => simp only [hmatch] at h; cases h
      | ok paths =>
        simp only [hmatch] at h
        cases h
        refine ⟨?_, fun hp => ?_⟩
        · -- no match at all is an error
          rw [List.length_map]
          exact List.length_pos_iff.2 (matchWord_eq_ok_iff.1 hmatch).1
        · obtain ⟨s, hs⟩ := isPattern_word.1 hp
          rw [hstrip] at hs
          cases hs

/-! ## All nodes -/

/-- Each node has its share of the strings, in the order of the nodes. -/
theorem exists_shares (h : expandAll here look ns = .ok ss) :
    ∃ shares, ss = shares.flatten ∧ List.Forall₂ (fun n share => n.expand here look = .ok share) ns shares := by
  induction ns generalizing ss with
  | nil => cases h; exact ⟨[], rfl, .nil⟩
  | cons n ns ih =>
    rw [expandAll] at h
    split at h
    · cases h
    · next share hshare =>
      split at h
      · cases h
      · next rest hrest =>
        cases h
        obtain ⟨shares, rfl, hshares⟩ := ih hrest
        exact ⟨share :: shares, rfl, .cons hshare hshares⟩

theorem exists_expandAll (h : ∀ n ∈ ns, n.IsCanonical ∧ n.isPattern = false) (look : Text → Text) :
    ∃ ss, ss.length = ns.length ∧ ∀ here, expandAll here look ns = .ok ss := by
  induction ns with
  | nil => exact ⟨[], rfl, fun _ => rfl⟩
  | cons n ns ih =>
    obtain ⟨⟨hcan, hp⟩, hns⟩ := List.forall_mem_cons.1 h
    obtain ⟨s, hs⟩ := hcan.exists_expand hp look
    obtain ⟨ss, hlen, hss⟩ := ih hns
    refine ⟨s :: ss, by rw [List.length_cons, List.length_cons, hlen], fun here => ?_⟩
    rw [expandAll, hs, hss]
    rfl

/-- Without a string there is no node. -/
theorem eq_nil_of_expandAll (h : expandAll here look ns = .ok []) : ns = [] := by
  cases ns with
  | nil => rfl
  | cons n ns =>
    obtain ⟨shares, hnil, hshares⟩ := exists_shares h
    cases hshares with
    | @cons _ share _ shares hshare =>
      obtain ⟨hshort, -⟩ := List.append_eq_nil_iff.1 (List.flatten_cons ▸ hnil.symm)
      have hlen := (length_of_expand hshare).1
      rw [hshort] at hlen
      cases hlen

end Node

namespace Command

variable {here : Place} {look : Text → Text} {line : Text} {c : Command}

/-- A line without arguments is blank, and a blank line is read as one. -/
theorem read_eq_nil_iff : read line = .ok ⟨[]⟩ ↔ line.trim = [] := by
  rw [read_eq_ok_iff, Text.trim_eq_nil_iff]
  constructor
  · intro h
    cases h with
    | nil blanks => exact blanks
  · exact .nil

theorem expand_eq_nil_iff (h : read line = .ok c) : c.expand here look = .ok [] ↔ c = ⟨[]⟩ := by
  constructor
  · intro hexpand
    rw [expand, expandArgs_eq_expandAll] at hexpand
    have hnodes := Node.eq_nil_of_expandAll hexpand
    obtain ⟨_ | ⟨a, args⟩⟩ := c
    · rfl
    · -- an argument has a node
      rw [List.flatMap_cons] at hnodes
      exact absurd (List.append_eq_nil_iff.1 hnodes).1 ((isCanonical_of_read h).nonempty a List.mem_cons_self)
  · rintro rfl
    rfl

/-- Of a line that is read and expanded every node has a share of one string or more, and of one string if it is no
pattern. Without patterns a line expands always, to one string for each node, and to the same strings whatever the
files are. A line that expands to nothing is blank, and a blank line does; a session leaves it alone, and any other
line that it comes to run has a first argument. -/
theorem expand_count (line : Text) (look : Text → Text) :
    (∀ c, read line = .ok c →
      (∀ here ss, c.expand here look = .ok ss → ∃ shares, ss = shares.flatten ∧
        List.Forall₂ (fun n share => Node.expand here look n = .ok share ∧ 1 ≤ share.length ∧
          (n.isPattern = false → share.length = 1)) (c.args.flatMap Arg.nodes) shares) ∧
      ((∀ n ∈ c.args.flatMap Arg.nodes, n.isPattern = false) →
        ∃ ss, ss.length = (c.args.flatMap Arg.nodes).length ∧ ∀ here, c.expand here look = .ok ss)) ∧
    (∀ here, (∃ c, read line = .ok c ∧ c.expand here look = .ok []) ↔ line.trim = []) ∧
    ∀ (run : Runner) (s : Session),
      (line.trim = [] → s.execute run line = (s, {}, s.previous)) ∧
      (line.trim ≠ [] → ∀ arguments, s.Typed line arguments → ∃ first rest, arguments = first :: rest ∧
        Session.runLine run s.argv (s.env.enter line) line =
          if isBuiltinLine line then Session.runBuiltin (s.env.enter line) (first :: rest)
          else Session.runExternal run s.argv (s.env.enter line) (first :: rest)) := by
  have hempty (here : Place) (look : Text → Text) : (∃ c, read line = .ok c ∧ c.expand here look = .ok []) ↔ line.trim = [] := by
    rw [← read_eq_nil_iff]
    constructor
    · rintro ⟨c, hread, hexpand⟩
      rwa [(expand_eq_nil_iff hread).1 hexpand] at hread
    · exact fun hread => ⟨_, hread, rfl⟩
  refine ⟨fun c hread => ⟨fun here ss hexpand => ?_, fun hplain => ?_⟩, fun here => hempty here look,
    fun run s => ⟨fun hblank => ?_, ?_⟩⟩
  · rw [expand, expandArgs_eq_expandAll] at hexpand
    obtain ⟨shares, hss, hshares⟩ := Node.exists_shares hexpand
    exact ⟨shares, hss, hshares.imp fun n share hshare => ⟨hshare, Node.length_of_expand hshare⟩⟩
  · have hcan := isCanonical_of_read hread
    have hnodes : ∀ n ∈ c.args.flatMap Arg.nodes, n.IsCanonical ∧ n.isPattern = false := by
      intro n hn
      obtain ⟨a, ha, hna⟩ := List.mem_flatMap.1 hn
      exact ⟨hcan.nodes a ha n hna, hplain n hn⟩
    obtain ⟨ss, hlen, hss⟩ := Node.exists_expandAll hnodes look
    exact ⟨ss, hlen, fun here => by rw [expand, expandArgs_eq_expandAll, hss]⟩
  · exact Session.execute_blank (Text.trim_eq_nil_iff.1 hblank)
  · rintro hblank (_ | ⟨first, rest⟩) htyped
    · exact absurd ((hempty s.env.here s.env.lookup).1 htyped) hblank
    · exact ⟨first, rest, rfl, htyped.runLine_eq run⟩

/-- Four nodes in two arguments, with a wildcard that is escaped and one that is a value. -/
theorem expand_count_glued :
    let line : Text := "\\* $x'b c'\"d$x\""
    let look : Text → Text := fun _ => ['*', ' ', 'b']
    let c : Command := ⟨[⟨[.word ['\\', '*']]⟩, ⟨[.var ['x'], .single "b c".toList, .double [.quoted ['d'], .var ['x']]]⟩]⟩
    read line = .ok c ∧ (∀ n ∈ c.args.flatMap Arg.nodes, n.isPattern = false) ∧
      (∃ ss, ss.length = 4 ∧ ∀ here, c.expand here look = .ok ss) ∧ line.trim ≠ [] ∧
      ∀ here ss, c.expand here look = .ok ss → ∃ shares, ss = shares.flatten ∧
        List.Forall₂ (fun n share => Node.expand here look n = .ok share ∧ 1 ≤ share.length ∧
          (n.isPattern = false → share.length = 1)) (c.args.flatMap Arg.nodes) shares := by
  intro line look c
  have hread : read line = .ok c := by decide +kernel
  have hplain : ∀ n ∈ c.args.flatMap Arg.nodes, n.isPattern = false := by decide
  obtain ⟨hline, hempty, -⟩ := expand_count line look
  obtain ⟨hshares, hcount⟩ := hline c hread
  refine ⟨hread, hplain, hcount hplain, fun hblank => ?_, hshares⟩
  obtain ⟨c', hread', hexpand⟩ := (hempty ⟨.empty, []⟩).2 hblank
  rw [hread] at hread'
  cases hread'
  exact absurd ((expand_eq_nil_iff hread).1 hexpand) (by decide)

end Command

end WrapShell
