import WrapShell.Line.Expand
import WrapShell.Proofs.Line.Canonical
/-!
# Values are taken as they are

What a line expands to depends on the variables only where they are named, and there their values
stand as they are: two expansions of one line under different values fail alike, or differ in those
strings alone (`expand_values`). So no value is cut at its blanks, matched against files, or read for
quotes, escapes and variables in it.
-/

namespace WrapShell

namespace Node

def isVar : Node → Bool
  | .var _ => true
  | _ => false

/-- Whether a variable is named in a node. -/
def hasVar : Node → Bool
  | .var _ => true
  | .double children => children.any isVar
  | _ => false

/-- The literal runs and the values of a double quote, one after the other. -/
def spliced (lookup : Text → Text) (children : List Node) : Text :=
  children.flatMap fun
    | .quoted value => value
    | .var name => lookup name
    | _ => []

theorem splice_children {here : Place} {lookup : Text → Text} {children : List Node} (h : ∀ n ∈ children, n.IsChild) :
    splice here lookup children = .ok (spliced lookup children) := by
  induction children with
  | nil => rfl
  | cons n ns ih =>
    obtain ⟨hn, hns⟩ := List.forall_mem_cons.1 h
    cases n with
    | quoted value | var name => rw [splice, expand, ih hns]; rfl
    | word | single | double => exact hn.elim

theorem spliced_of_no_var {children : List Node} (h : children.any isVar = false) (look look' : Text → Text) :
    spliced look children = spliced look' children := by
  refine List.flatMap_congr fun n hn => ?_
  have hvar : n.isVar = false := by simpa using List.any_eq_false.1 h n hn
  cases n with
  | var => cases hvar
  | word | quoted | single | double => rfl

/-- The strings of all nodes are those of the first nodes and then those of the others. -/
theorem expandAll_append {here : Place} {lookup : Text → Text} (ns ms : List Node) :
    expandAll here lookup (ns ++ ms) =
      (expandAll here lookup ns).bind fun ss => (expandAll here lookup ms).map (ss ++ ·) := by
  induction ns with
  | nil =>
    rw [List.nil_append, expandAll]
    cases expandAll here lookup ms <;> rfl
  | cons n ns ih =>
    rw [List.cons_append, expandAll, expandAll, ih]
    cases expand here lookup n with
    | error => rfl
    | ok ss =>
      cases expandAll here lookup ns with
      | error => rfl
      | ok ss' =>
        cases expandAll here lookup ms with
        | error => rfl
        | ok ss'' => simp [Except.bind, Except.map]

theorem expandAll_append_cons {here : Place} {lookup : Text → Text} {ns ms : List Node} {n : Node} {ss : List Text} :
    expandAll here lookup (ns ++ n :: ms) = .ok ss ↔ ∃ front mid back, expandAll here lookup ns = .ok front ∧
      n.expand here lookup = .ok mid ∧ expandAll here lookup ms = .ok back ∧ ss = front ++ mid ++ back := by
  rw [expandAll_append, expandAll]
  cases expandAll here lookup ns with
  | error => simp [Except.bind]
  | ok front =>
    cases expand here lookup n with
    | error => simp [Except.bind, Except.map]
    | ok mid => cases expandAll here lookup ms <;> simp [Except.bind, Except.map, eq_comm]

end Node

/-- Nothing but the order of the nodes counts, not how they make up arguments. -/
theorem expandArgs_eq_expandAll {here : Place} {lookup : Text → Text} (args : List Arg) :
    expandArgs here lookup args = Node.expandAll here lookup (args.flatMap Arg.nodes) := by
  induction args with
  | nil => rfl
  | cons a args ih =>
    rw [List.flatMap_cons, Node.expandAll_append, expandArgs, ih, Arg.expand]
    cases Node.expandAll here lookup a.nodes with
    | error => rfl
    | ok ss => cases Node.expandAll here lookup (args.flatMap Arg.nodes) <;> rfl

/-- The strings that a node gives under two lookups. -/
structure Share where
  node : Node
  first : List Text
  second : List Text

/-- Under both lookups a node gives its own expansion, equally many strings, and the same ones but for
the values of the variables named in it. -/
structure Share.IsVerbatim (here : Place) (look look' : Text → Text) (s : Share) : Prop where
  first : s.node.expand here look = .ok s.first
  second : s.node.expand here look' = .ok s.second
  length : s.first.length = s.second.length
  plain : s.node.hasVar = false → s.first = s.second
  var : ∀ name, s.node = .var name → s.first = [look name] ∧ s.second = [look' name]
  double : ∀ children, s.node = .double children →
    s.first = [Node.spliced look children] ∧ s.second = [Node.spliced look' children]

namespace Node

variable {here : Place} {look look' : Text → Text}

theorem IsCanonical.share {n : Node} (h : n.IsCanonical) (here : Place) (look look' : Text → Text) :
    (∃ e, n.expand here look = .error e ∧ n.expand here look' = .error e) ∨
      ∃ ss ss', Share.IsVerbatim here look look' ⟨n, ss, ss'⟩ := by
  cases n with
  | word v =>
    cases hv : expandWord here v with
    | error e => exact .inl ⟨e, hv, hv⟩
    | ok ss => exact .inr ⟨ss, ss, hv, hv, rfl, fun _ => rfl, by rintro _ ⟨⟩, by rintro _ ⟨⟩⟩
  | quoted => exact h.elim
  | single v => exact .inr ⟨[v], [v], rfl, rfl, rfl, fun _ => rfl, by rintro _ ⟨⟩, by rintro _ ⟨⟩⟩
  | double children =>
    have hsplice (lookup : Text → Text) : (double children).expand here lookup = .ok [spliced lookup children] := by
      rw [expand, splice_children h.1]
      rfl
    refine .inr ⟨_, _, hsplice look, hsplice look', rfl, fun hv => ?_, by rintro _ ⟨⟩, ?_⟩
    · exact congrArg ([·]) (spliced_of_no_var hv look look')
    · rintro _ ⟨⟩
      exact ⟨rfl, rfl⟩
  | var name =>
    refine .inr ⟨[look name], [look' name], rfl, rfl, rfl, by rintro ⟨⟩, ?_, by rintro _ ⟨⟩⟩
    rintro _ ⟨⟩
    exact ⟨rfl, rfl⟩

theorem expandAll_shares {ns : List Node} (h : ∀ n ∈ ns, n.IsCanonical) :
    (∃ e, expandAll here look ns = .error e ∧ expandAll here look' ns = .error e) ∨
      ∃ shares : List Share, shares.map Share.node = ns ∧ (∀ s ∈ shares, s.IsVerbatim here look look') ∧
        expandAll here look ns = .ok (shares.flatMap Share.first) ∧
        expandAll here look' ns = .ok (shares.flatMap Share.second) := by
  induction ns with
  | nil => exact .inr ⟨[], rfl, by simp, rfl, rfl⟩
  | cons n ns ih =>
    obtain ⟨hn, hns⟩ := List.forall_mem_cons.1 h
    -- the first node that fails decides, and it is the same under both lookups
    rcases hn.share here look look' with ⟨e, h₁, h₂⟩ | ⟨ss, ss', hs⟩
    · exact .inl ⟨e, by rw [expandAll, h₁], by rw [expandAll, h₂]⟩
    have h₁ : n.expand here look = .ok ss := hs.first
    have h₂ : n.expand here look' = .ok ss' := hs.second
    rcases ih hns with ⟨e, e₁, e₂⟩ | ⟨shares, hnode, hall, e₁, e₂⟩
    · exact .inl ⟨e, by rw [expandAll, h₁, e₁], by rw [expandAll, h₂, e₂]⟩
    · refine .inr ⟨⟨n, ss, ss'⟩ :: shares, by rw [List.map_cons, hnode], List.forall_mem_cons.2 ⟨hs, hall⟩, ?_, ?_⟩
      · rw [expandAll, h₁, e₁, List.flatMap_cons]
      · rw [expandAll, h₂, e₂, List.flatMap_cons]

end Node

namespace Command

/-- Two expansions of a line that was read fail with the same error, or give equally many strings, node
by node: the same ones where no variable is named, the value itself for a variable, and one string for
a double quote, with the values between its literal runs. -/
theorem expand_values {line : Text} {c : Command} (h : read line = .ok c) (here : Place) (look look' : Text → Text) :
    (∃ e, c.expand here look = .error e ∧ c.expand here look' = .error e) ∨
      ∃ shares : List Share, shares.map Share.node = c.args.flatMap Arg.nodes ∧
        c.expand here look = .ok (shares.flatMap Share.first) ∧
        c.expand here look' = .ok (shares.flatMap Share.second) ∧
        (shares.flatMap Share.first).length = (shares.flatMap Share.second).length ∧
        ∀ s ∈ shares, s.IsVerbatim here look look' := by
  have hcan : c.IsCanonical := isCanonical_of_read h
  have hnodes : ∀ n ∈ c.args.flatMap Arg.nodes, n.IsCanonical := by
    intro n hn
    obtain ⟨a, ha, hn⟩ := List.mem_flatMap.1 hn
    exact hcan.nodes a ha n hn
  rw [expand, expand, expandArgs_eq_expandAll, expandArgs_eq_expandAll]
  rcases Node.expandAll_shares hnodes with hfail | ⟨shares, hnode, hall, h₁, h₂⟩
  · exact .inl hfail
  · refine .inr ⟨shares, hnode, h₁, h₂, ?_, hall⟩
    rw [List.length_flatMap, List.length_flatMap]
    exact congrArg List.sum (List.map_congr_left fun s hs => (hall s hs).length)

/-- Values that would be a pattern, two words, a quote left open and a variable if they were read. -/
theorem expand_values_hostile :
    ∃ c, read "\"a$x\"$x \\*".toList = .ok c ∧ ∃ shares : List Share, shares.map Share.node = c.args.flatMap Arg.nodes ∧
      c.expand ⟨.empty, []⟩ (fun _ => "* 'b".toList) = .ok (shares.flatMap Share.first) ∧
      c.expand ⟨.empty, []⟩ (fun _ => "$x".toList) = .ok (shares.flatMap Share.second) ∧
      (shares.flatMap Share.first).length = (shares.flatMap Share.second).length ∧
      ∀ s ∈ shares, s.IsVerbatim ⟨.empty, []⟩ (fun _ => "* 'b".toList) (fun _ => "$x".toList) := by
  have h : read "\"a$x\"$x \\*".toList =
      .ok ⟨[⟨[.double [.quoted ['a'], .var ['x']], .var ['x']]⟩, ⟨[.word ['\\', '*']]⟩]⟩ := by decide +kernel
  obtain ⟨e, he, -⟩ | hshares := expand_values h ⟨.empty, []⟩ (fun _ => "* 'b".toList) (fun _ => "$x".toList)
  · rw [show expand _ _ _ = .ok ["a* 'b".toList, "* 'b".toList, ['*']] by decide +kernel] at he
    cases he
  · exact ⟨_, h, hshares⟩

end Command

end WrapShell
