import WrapShell.Proofs.Line.Argument
import WrapShell.Proofs.Session.Directory
import WrapShell.Proofs.Session.Dispatch
/-!
# Variables are set and read back

Of all lines only a call of `env set` changes the variables: it gives one a value or takes it away
(`execute_vars`). Any name but the empty one and any value can be spelled in such a line, and behind it the
name stands for that value (`execute_set_variable`).
-/

namespace WrapShell

/-! ## One change -/

namespace Variables

/-- The variables in which one is given a value, or with none is taken away. -/
def assign (vars : Variables) (name : Text) : Option Text → Variables
  | some value => vars.set name value
  | none => vars.erase name

@[simp] theorem get?_assign (vars : Variables) (name : Text) (value? : Option Text) (n : Text) :
    (vars.assign name value?).get? n = if n = name then value? else vars.get? n := by
  cases value? with
  | some value => exact vars.get?_set name value n
  | none => exact vars.get?_erase name n

end Variables

/-- Another environment differs in one variable, which has the value, or with none is not set. The history
apart, that is all. -/
structure Environment.Assigned (before after : Environment) (name : Text) (value? : Option Text) : Prop where
  value : after.vars.get? name = value?
  others : ∀ n, n ≠ name → after.vars.get? n = before.vars.get? n
  here : after.here = before.here
  currentDir : after.currentDir = before.currentDir
  shouldExit : after.shouldExit = before.shouldExit
  exitCode : after.exitCode = before.exitCode

/-! ## The call -/

namespace Grammar

variable {g : Grammar} {o : Operand}

/-- From the first operand on, all is one if operands are greedy, whatever it looks like. -/
theorem readFrom_greedy (ho : g.operand = some o) (hgreedy : o.greedy) (given : Given) (arguments : List Text) :
    g.readFrom true false given arguments = .ok { given with operands := given.operands ++ arguments } := by
  induction arguments generalizing given with
  | nil => simp [readFrom]
  | cons a arguments ih => simp [readFrom, ho, hgreedy, ih]

end Grammar

namespace Builtin

theorem read_set (rest : List Text) : env.grammar.read ("set".toList :: rest) = .ok ⟨[], "set".toList :: rest⟩ := by
  have hgreedy := Grammar.readFrom_greedy (g := env.grammar) rfl rfl ⟨[], ["set".toList]⟩ rest
  rw [Grammar.read, Grammar.readFrom]
  exact hgreedy

variable {before after : Environment} {operands : List Text} {output : Output} {status : Int}

/-- The variables change only as they are told to. -/
theorem exists_of_useVariables (h : useVariables before operands = (after, output, .ok status)) :
    after.vars = before.vars ∨ ∃ name, ∃ value? : Option Text, operands = "set".toList :: name :: value?.toList := by
  unfold useVariables at h
  split at h
  · cases h
    exact .inl rfl
  · next action rest =>
    split at h
    · split at h
      · cases h
        exact .inl rfl
      · cases h
    · split at h
      · next hset =>
        subst hset
        split at h
        · cases h
          exact .inl rfl
        · next name => exact .inr ⟨name, none, rfl⟩
        · next name value => exact .inr ⟨name, some value, rfl⟩
        · cases h
      · cases h

theorem useVariables_set (env : Environment) (name : Text) (value? : Option Text) :
    useVariables env ("set".toList :: name :: value?.toList) = done { env with vars := env.vars.assign name value? } := by
  cases value? <;> rfl

end Builtin

/-! ## One line -/

namespace Session

variable {run : Runner} {s after : Session} {line name : Text} {value? : Option Text} {output : Output} {status : Int}

/-- The line gives a variable a value, or with none takes it away. -/
def Assigns (s : Session) (line name : Text) (value? : Option Text) : Prop :=
  ∃ arguments given, s.Calls line .env arguments ∧ Builtin.env.grammar.read arguments = .ok given ∧
    given.operands = "set".toList :: name :: value?.toList

theorem Assigns.execute_eq (h : s.Assigns line name value?) (run : Runner) :
    s.execute run line =
      ({ s with env := { s.env.enter line with vars := s.env.vars.assign name value? }, previous := 0 }, {}, 0) := by
  obtain ⟨arguments, given, hcalls, hgiven, hoperands⟩ := h
  have hrun : Builtin.env.run (s.env.enter line) given =
      ({ s.env.enter line with vars := s.env.vars.assign name value? }, {}, .ok 0) := by
    rw [Builtin.run, hoperands, Builtin.useVariables_set]
    rfl
  exact hcalls.execute_eq run hgiven hrun

theorem Assigns.assigned (h : s.Assigns line name value?) (run : Runner) :
    ∃ env, s.execute run line = ({ s with env := env, previous := 0 }, {}, 0) ∧ s.env.Assigned env name value? :=
  ⟨_, h.execute_eq run, by simp, fun n hn => by simp [hn], rfl, rfl, rfl, rfl⟩

/-- What a line does to the variables: it assigns one, or leaves all as they were. -/
theorem execute_vars (h : s.execute run line = (after, output, status)) :
    (∃ name value?, s.Assigns line name value? ∧ after.env.vars = s.env.vars.assign name value?) ∨
      (∀ name value?, ¬s.Assigns line name value?) ∧ after.env.vars = s.env.vars := by
  by_cases hassigns : ∃ name value?, s.Assigns line name value?
  · obtain ⟨name, value?, hassigns⟩ := hassigns
    rw [hassigns.execute_eq run] at h
    exact .inl ⟨name, value?, hassigns, by rw [← (Prod.mk.inj h).1]⟩
  · have hnone (name : Text) (value? : Option Text) : ¬s.Assigns line name value? := fun h => hassigns ⟨name, value?, h⟩
    refine .inr ⟨hnone, ?_⟩
    rcases execute_keeps_or_changes h with hkeeps | ⟨b, arguments, given, hcalls, hgiven, hrun, hchanges⟩
    · exact hkeeps.vars
    · cases b with
      | cd => obtain ⟨l, hl⟩ := hchanges; rw [hl]; rfl
      | exit => obtain hexit | ⟨n, hexit⟩ := hchanges <;> rw [hexit] <;> rfl
      | help | history => rw [show after.env = _ from hchanges]; rfl
      | env =>
        rcases Builtin.exists_of_useVariables hrun with hvars | ⟨name, value?, hoperands⟩
        · exact hvars
        · exact absurd ⟨arguments, given, hcalls, hgiven, hoperands⟩ (hnone name value?)

/-! ## Any name and any value -/

/-- A line that names a variable, and if there is one a value, as arguments. -/
theorem assigns_asArgument (s : Session) (name : Text) (value? : Option Text) :
    s.Assigns (List.intercalate [' '] ("!!env".toList :: "set".toList :: (name :: value?.toList).map Text.asArgument)) name value? := by
  obtain ⟨ns, hns, hrender⟩ := Node.exists_standing (name :: value?.toList)
  have hset : (Node.word "set".toList).StandsFor "set".toList := ⟨by decide, by decide, fun _ _ => rfl⟩
  have hcalls := s.calls_standing .env (.cons hset hns)
  rw [List.map_cons, hrender] at hcalls
  exact ⟨_, _, hcalls, Builtin.read_set _, rfl⟩

/-- A line of one node. -/
theorem typed_node {n : Node} {strings : List Text} (h : n.IsCanonical)
    (hexpand : n.expand s.env.here s.env.lookup = .ok strings) : s.Typed n.render strings := by
  have hread := (Command.isCanonical_ofNodes (List.forall_mem_singleton.2 h) (by simp)).read_render
  rw [Command.render_ofNodes, List.map_singleton, List.intercalate_singleton] at hread
  refine ⟨_, hread, ?_⟩
  rw [Command.expand, expandArgs_eq_expandAll, Command.flatMap_ofNodes, Node.expandAll, hexpand]
  simp [Node.expandAll]

/-- A text in front of a variable in a double quote. -/
theorem typed_double {text : Text} (htext : ∀ c ∈ text, c ≠ '"' ∧ c ≠ '$' ∧ c ≠ '\\') (hname : isName name) :
    s.Typed ('"' :: text ++ '$' :: name ++ ['"']) [text ++ s.env.lookup name] := by
  by_cases hnil : text = []
  · subst hnil
    have hcan : (Node.double [.var name]).IsCanonical := ⟨List.forall_mem_singleton.2 hname, .singleton _⟩
    have htyped := s.typed_node hcan rfl
    simpa [Node.render, Node.renderAll] using htyped
  · obtain ⟨hchild, hrender⟩ := Node.isChild_quoted hnil htext
    have hcan : (Node.double [.quoted text, .var name]).IsCanonical :=
      ⟨by simpa using ⟨hchild, hname⟩, by simp [Node.MayPrecede]⟩
    have htyped := s.typed_node hcan rfl
    simpa [Node.renderAll, hrender, Node.render.eq_4, Node.render.eq_5] using htyped

/-- Any name but the empty one is given any value by a line that spells both with a backslash before each
character, and taken away by one that spells the name alone; nothing is printed and nothing else changes. While
a name that can be written behind a `$` has its value, that is what it stands for, alone and in a quote. -/
theorem execute_set_variable (run : Runner) (s : Session) (hname : name ≠ []) (value : Text) :
    let escaped := name.escapeAt fun _ => true
    (∃ env, s.execute run ("!!env set ".toList ++ escaped ++ ' ' :: value.asArgument) = ({ s with env := env, previous := 0 }, {}, 0) ∧
      s.env.Assigned env name (some value)) ∧
    (∀ s : Session, ∃ env, s.execute run ("!!env set ".toList ++ escaped) = ({ s with env := env, previous := 0 }, {}, 0) ∧
      s.env.Assigned env name none) ∧
    ((∀ c ∈ name, isNameChar c) → ∀ s : Session, s.env.vars.get? name = some value →
      s.Typed ('$' :: name) [value] ∧
      ∀ text : Text, (∀ c ∈ text, c ≠ '"' ∧ c ≠ '$' ∧ c ≠ '\\') →
        s.Typed ('"' :: text ++ '$' :: name ++ ['"']) [text ++ value]) := by
  intro escaped
  have hescaped : name.asArgument = escaped := if_neg hname
  refine ⟨?_, fun s => ?_, fun hchars s hvalue => ?_⟩
  · have hassigns := (s.assigns_asArgument name (some value)).assigned run
    simpa [List.intercalate, hescaped] using hassigns
  · have hassigns := (s.assigns_asArgument name none).assigned run
    simpa [List.intercalate, hescaped] using hassigns
  · have hlookup : s.env.lookup name = value := by rw [Environment.lookup, Variables.value, hvalue]; rfl
    have hvar := s.typed_node (n := .var name) ⟨hname, hchars⟩ rfl
    rw [← hlookup]
    exact ⟨hvar, fun text htext => s.typed_double htext ⟨hname, hchars⟩⟩

/-- A value that looks like an option and has blanks, a quote, a wildcard, a `$` and a line break in it. -/
theorem execute_set_variable_hostile :
    let run : Runner := fun here _ => .ok ⟨{}, .exited 0, here.tree⟩
    let s : Session := { argv := ["git"], env := Environment.start ⟨.empty, []⟩ "git" }
    let name : Text := ['ä']
    let value : Text := "--help *'$x\n"
    name ≠ [] ∧ (∀ c ∈ name, isNameChar c) ∧ (∀ c ∈ ("a b" : Text), c ≠ '"' ∧ c ≠ '$' ∧ c ≠ '\\') ∧
      ∃ env, s.execute run "!!env set \\ä \\-\\-\\h\\e\\l\\p\\ \\*\\'\\$\\x\\\n" = ({ s with env := env, previous := 0 }, {}, 0) ∧
        s.env.Assigned env name (some value) ∧
        let s' : Session := { s with env := env, previous := 0 }
        s'.Typed "$ä" [value] ∧ s'.Typed "\"a b$ä\"" ["a b" ++ value] ∧
        ∃ env', s'.execute run "!!env set \\ä" = ({ s' with env := env', previous := 0 }, {}, 0) ∧ env.Assigned env' name none := by
  intro run s name value
  have hname : name ≠ [] := List.cons_ne_nil _ _
  have hchars : ∀ c ∈ name, isNameChar c := List.forall_mem_singleton.2 (by decide +kernel)
  have htext : ∀ c ∈ ("a b" : Text), c ≠ '"' ∧ c ≠ '$' ∧ c ≠ '\\' := by simp
  obtain ⟨⟨env, hset, hassigned⟩, herase, hread⟩ := execute_set_variable run s hname value
  obtain ⟨hvar, hquote⟩ := hread hchars { s with env := env, previous := 0 } hassigned.value
  exact ⟨hname, hchars, htext, env, hset, hassigned, hvar, hquote _ htext, herase _⟩

end Session

end WrapShell
