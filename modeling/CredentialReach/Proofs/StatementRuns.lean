import CredentialReach.Proofs.StatementSteps

/-! Runs of statements. Processing texts performs the accepted ones in order,
each making room for itself, and reports the others. In a run the last statement
that speaks about a privilege on a node decides whether it is held there. -/

namespace CredentialReach.Mysql

def accepted (texts : List String) : List Statement :=
  texts.filterMap fun text => (Statement.parse text).toOption

def rejected (texts : List String) : List Rejection :=
  texts.filterMap fun text =>
    match Statement.parse text with
    | .ok _ => none
    | .error fault => some ⟨text, fault⟩

theorem accepted_append (first second : List String) :
    accepted (first ++ second) = accepted first ++ accepted second := by
  simp [accepted]

theorem rejected_append (first second : List String) :
    rejected (first ++ second) = rejected first ++ rejected second := by
  simp [rejected]

theorem exists_text_of_accepted {texts : List String} {statement : Statement}
    (member : statement ∈ accepted texts) :
    ∃ text ∈ texts, Statement.parse text = .ok statement := by
  obtain ⟨text, listed, same⟩ := List.mem_filterMap.mp member
  cases read : Statement.parse text with
  | error fault =>
    rw [read] at same
    cases same
  | ok found =>
    rw [read] at same
    cases same
    exact ⟨text, listed, read⟩

section

variable {text : String}

theorem accepted_cons_ok {statement : Statement} (read : Statement.parse text = .ok statement)
    (rest : List String) : accepted (text :: rest) = statement :: accepted rest := by
  simp [accepted, read, Except.toOption]

theorem rejected_cons_ok {statement : Statement} (read : Statement.parse text = .ok statement)
    (rest : List String) : rejected (text :: rest) = rejected rest := by
  simp [rejected, read]

theorem accepted_cons_error {fault : StatementFault} (read : Statement.parse text = .error fault)
    (rest : List String) : accepted (text :: rest) = accepted rest := by
  simp [accepted, read, Except.toOption]

theorem rejected_cons_error {fault : StatementFault} (read : Statement.parse text = .error fault)
    (rest : List String) : rejected (text :: rest) = ⟨text, fault⟩ :: rejected rest := by
  simp [rejected, read]

end

namespace PrivilegeTree

def run (tree : PrivilegeTree) (statements : List Statement) : PrivilegeTree :=
  statements.foldl perform tree

def declareAll (tree : PrivilegeTree) (statements : List Statement) : PrivilegeTree :=
  statements.foldl declare tree

theorem run_cons (tree : PrivilegeTree) (statement : Statement) (rest : List Statement) :
    tree.run (statement :: rest) = (tree.perform statement).run rest := rfl

private theorem run_append (tree : PrivilegeTree) (first second : List Statement) :
    tree.run (first ++ second) = (tree.run first).run second := by
  simp [run]

private theorem traits?_declareAll (tree : PrivilegeTree) (statements : List Statement) (node : Node) :
    (tree.declareAll statements).traits? node =
      (tree.traits? node).or (node.addedIf (statements.any (·.makesRoom node))) := by
  unfold declareAll
  induction statements generalizing tree with
  | nil => simp
  | cons statement rest ih =>
    rw [List.foldl_cons, ih, traits?_declare, Node.or_addedIf, List.any_cons]

private theorem contains_eq (tree : PrivilegeTree) (name : String) :
    tree.databases.contains name = (tree.traits? (.within name .itself)).isSome := by
  cases found : tree.databases.get? name <;>
    simp [NameMap.contains, traits?, get?, Database.get?, found]

private theorem contains_declareAll (tree : PrivilegeTree) {statements : List Statement}
    {statement : Statement} (member : statement ∈ statements) {name : String}
    (aimed : statement.target.database? = some name) :
    (tree.declareAll statements).databases.contains name = true := by
  have room : (statements.any fun other => other.makesRoom (.within name .itself)) = true :=
    List.any_eq_true.mpr ⟨statement, member, by simp [Statement.makesRoom, aimed]⟩
  rw [contains_eq, traits?_declareAll, room]
  cases tree.traits? (.within name .itself) <;> rfl

/-- Room for later statements can be made before or after one is performed. -/
theorem perform_declareAll (tree : PrivilegeTree) (statement : Statement)
    (others : List Statement) :
    (tree.declareAll others).perform statement = (tree.perform statement).declareAll others := by
  unfold declareAll
  induction others generalizing tree with
  | nil => rfl
  | cons other rest ih => rw [List.foldl_cons, List.foldl_cons, ih, perform_declare]

/-- Once there is room for every statement, the first one applies. -/
theorem apply_declareAll (tree : PrivilegeTree) (statement : Statement)
    (rest : List Statement) :
    (tree.declareAll (statement :: rest)).apply statement =
      .ok ((tree.perform statement).declareAll rest) := by
  rw [apply_eq_perform _ _ fun _ aimed => contains_declareAll tree List.mem_cons_self aimed]
  have first : tree.declareAll (statement :: rest) = (tree.declare statement).declareAll rest := rfl
  rw [first, perform_declareAll, perform_declare_self]

private theorem declared_eq (tree : PrivilegeTree) (texts : List String) :
    (texts.map fun text => (text, Statement.parse text)).foldl (fun tree entry =>
      match entry.2 with
      | .ok statement => tree.declare statement
      | .error _ => tree) tree = tree.declareAll (accepted texts) := by
  unfold declareAll
  induction texts generalizing tree with
  | nil => rfl
  | cons text rest ih =>
    cases read : Statement.parse text <;> simp [accepted, read, ih, Except.toOption]

private theorem processed_eq (tree : PrivilegeTree) (texts : List String)
    (rejections : List Rejection) :
    (texts.map fun text => (text, Statement.parse text)).foldl Outcome.process
        { tree := tree.declareAll (accepted texts), rejections } =
      { tree := tree.run (accepted texts), rejections := rejections ++ rejected texts } := by
  -- All room is there before the first text. Performing a statement leaves the
  -- room for the rest in front, so that the induction goes on.
  induction texts generalizing tree rejections with
  | nil => simp [accepted, rejected, declareAll, run]
  | cons text rest ih =>
    cases read : Statement.parse text with
    | error fault =>
      rw [accepted_cons_error read, rejected_cons_error read, List.append_cons, ← ih]
      simp [Outcome.process, read, Except.bind]
    | ok statement =>
      rw [accepted_cons_ok read, rejected_cons_ok read, run_cons, ← ih]
      simp [Outcome.process, read, Except.bind, apply_declareAll]

/-- Processing texts is a run of the accepted ones, whatever room is made when. -/
theorem process_eq (tree : PrivilegeTree) (texts : List String) :
    tree.process texts = { tree := tree.run (accepted texts), rejections := rejected texts } := by
  have processed := processed_eq tree texts []
  rw [← declared_eq, List.nil_append] at processed
  exact processed

theorem traits?_run (tree : PrivilegeTree) (statements : List Statement) (node : Node) :
    (tree.run statements).traits? node =
      (tree.traits? node).or (node.addedIf (statements.any (·.names node))) := by
  unfold run
  induction statements generalizing tree with
  | nil => simp
  | cons statement rest ih =>
    rw [List.foldl_cons, ih, traits?_perform, Node.or_addedIf, List.any_cons]

@[simp] theorem isOpen_run (tree : PrivilegeTree) (statements : List Statement) :
    (tree.run statements).isOpen = tree.isOpen := by
  unfold run
  induction statements generalizing tree with
  | nil => rfl
  | cons statement rest ih => rw [List.foldl_cons, ih, isOpen_perform]

end PrivilegeTree

section

variable (isOpen : Node → Bool) (node : Node) (name : String)

/-- Whether a statement gives or takes a privilege on a node, if it speaks of it. -/
def Statement.verdict (statement : Statement) : Option Bool :=
  if statement.covers isOpen node ∧ name ∈ statement.delta node then
    some (statement.action = .grant)
  else none

/-- What the last of some statements that speaks of a privilege says. -/
def lastVerdict : List Statement → Option Bool
  | [] => none
  | statement :: rest => (lastVerdict rest).or (statement.verdict isOpen node name)

end

namespace PrivilegeTree

private theorem mem_held_perform (tree : PrivilegeTree) (statement : Statement) (node : Node)
    (name : String) :
    name ∈ (tree.perform statement).held node ↔
      (statement.verdict tree.isOpen node name).elim (name ∈ tree.held node) (· = true) := by
  rw [held_perform]
  unfold Statement.verdict
  by_cases covered : statement.covers tree.isOpen node = true
  · by_cases said : name ∈ statement.delta node <;> simp [covered, said, Action.mem_change]
  · simp [covered]

/-- A privilege is held after a run as the last statement that speaks of it says,
and as before the run if none does. -/
theorem mem_held_run (tree : PrivilegeTree) (statements : List Statement) (node : Node)
    (name : String) :
    name ∈ (tree.run statements).held node ↔
      (lastVerdict tree.isOpen node name statements).elim (name ∈ tree.held node)
        (· = true) := by
  induction statements generalizing tree with
  | nil => rfl
  | cons statement rest ih =>
    -- The first statement opens nothing, so the rest speaks of the same nodes.
    rw [run_cons, ih, isOpen_perform, lastVerdict]
    cases lastVerdict tree.isOpen node name rest with
    | some verdict => rfl
    | none => exact mem_held_perform tree statement node name

/-- A second run of the same statements finds every node that they name, and
every privilege as their last word leaves it. -/
theorem run_run (tree : PrivilegeTree) (statements : List Statement) :
    (tree.run statements).run statements = tree.run statements := by
  apply ext_nodes
  · intro node
    simp only [traits?_run, Node.or_addedIf, Bool.or_self]
  · intro node
    apply NameSet.ext_mem
    intro name
    rw [mem_held_run, isOpen_run, mem_held_run]
    cases lastVerdict tree.isOpen node name statements <;> rfl

/-- Processing the same texts again changes nothing and reports the same faults. -/
theorem process_repeated (tree : PrivilegeTree) (texts : List String) :
    (tree.process texts).tree.process texts = tree.process texts := by
  rw [process_eq, process_eq, run_run]

/-- Texts can be processed in one batch or in two: no statement sees the room
that its batch makes for another. -/
theorem process_append (tree : PrivilegeTree) (first second : List String) :
    let earlier := tree.process first
    let later := earlier.tree.process second
    tree.process (first ++ second) =
      { tree := later.tree, rejections := earlier.rejections ++ later.rejections } := by
  intro earlier later
  have before : earlier = ⟨tree.run (accepted first), rejected first⟩ := process_eq tree first
  have after : later = ⟨earlier.tree.run (accepted second), rejected second⟩ :=
    process_eq earlier.tree second
  rw [process_eq, accepted_append, rejected_append, run_append, after, before]

end PrivilegeTree

end CredentialReach.Mysql
