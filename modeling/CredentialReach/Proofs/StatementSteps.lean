import CredentialReach.Proofs.StatementReach

/-! One statement as a step of the tree. Making room for a database and applying
a statement both add placeholders, and placeholders are closed: no step opens or
closes a node, so what later statements cover is settled at the start. -/

namespace CredentialReach.Mysql

def Node.addedIf (node : Node) (added : Bool) : Option Traits :=
  if added then some node.placeholder else none

@[simp] theorem Node.addedIf_false (node : Node) : node.addedIf false = none := rfl

/-- It does not matter which of several statements adds a node, nor when. -/
@[simp] theorem Node.or_addedIf (node : Node) (traits : Option Traits) (first second : Bool) :
    (traits.or (node.addedIf first)).or (node.addedIf second) =
      traits.or (node.addedIf (first || second)) := by
  cases first <;> cases second <;> cases traits <;> rfl

/-- No placeholder is open. -/
theorem Node.open_addedIf (node : Node) (traits : Option Traits) (added : Bool) :
    (!node.isColumn && (traits.or (node.addedIf added)).any Traits.isOpen) =
      (!node.isColumn && traits.any Traits.isOpen) := by
  cases traits with
  | some traits => rfl
  | none =>
    cases added with
    | false => rfl
    | true => match node with
      | .server => rfl
      | .within _ .itself => simp [addedIf, placeholder, Part.placeholder, Traits.isOpen]
      | .within _ (.table _) | .within _ (.column ..) | .within _ (.routine ..) => rfl

def Statement.makesRoom (statement : Statement) : Node → Bool
  | .within database .itself => statement.target.database? = some database
  | _ => false

private theorem Statement.names_or_makesRoom (statement : Statement) (node : Node) :
    (statement.makesRoom node || statement.names node) = statement.names node := by
  cases node with
  | server => rfl
  | within database part => cases part <;> simp [makesRoom, names]

namespace Database

private theorem isOpen_placeholderNamed (name : String) (part : Part) :
    (placeholderNamed name).isOpen part = false := by
  cases part with
  | itself => simp [isOpen_itself, placeholderNamed]
  | column => rfl
  | table => rfl
  | routine kind => cases kind <;> rfl

private theorem get?_placeholderNamed (name : String) (part : Part) :
    (placeholderNamed name).get? part =
      if part = .itself then some ⟨part.placeholder name, ∅⟩ else none := by
  cases part with
  | itself => rfl
  | column => rfl
  | table => rfl
  | routine kind => cases kind <;> rfl

end Database

namespace PrivilegeTree

variable (tree : PrivilegeTree) (statement : Statement)

private theorem isOpen_within (database : String) (part : Part) :
    tree.isOpen (.within database part) =
      (tree.databases.get? database).any (·.isOpen part) := by
  cases found : tree.databases.get? database <;>
    simp [isOpen, Database.isOpen, traits?, get?, Node.isColumn, found, Option.any_map]

private theorem get?_declare (node : Node) :
    (tree.declare statement).get? node =
      (tree.get? node).or
        (if statement.makesRoom node then some ⟨node.placeholder, ∅⟩ else none) := by
  cases node with
  | server =>
    simp only [declare, get?, Option.some_or]
    split
    · rfl
    · split <;> rfl
  | within database part =>
    cases aimed : statement.target.database? with
    | none =>
      have none : statement.makesRoom (.within database part) = false := by
        cases part <;> simp [Statement.makesRoom, aimed]
      simp [declare, aimed, none]
    | some name =>
      by_cases same : name = database
      · subst same
        have room : statement.makesRoom (.within name part) = decide (part = .itself) := by
          cases part <;> simp [Statement.makesRoom, aimed]
        cases present : tree.databases.get? name with
        | none =>
          simp [declare, aimed, NameMap.contains, present, get?, room,
            Database.get?_placeholderNamed, Node.placeholder]
        | some found =>
          cases part <;>
            simp [declare, aimed, NameMap.contains, present, get?, room, Database.get?]
      · have other : statement.makesRoom (.within database part) = false := by
          cases part <;> simp [Statement.makesRoom, aimed, same]
        simp only [declare, aimed, get?, other]
        split
        · simp
        · simp [Ne.symm same]

/-- A statement that makes room for its own database. -/
def perform : PrivilegeTree :=
  match statement.target.database? with
  | none =>
    { server := statement.onServer tree.server
      databases := tree.databases.map fun _ => statement.onTarget }
  | some name =>
    { tree with
      databases := tree.databases.update name fun found =>
        statement.onTarget (found.getD (.placeholderNamed name)) }

def found (node : Node) : Option Entry :=
  (tree.get? node).or
    (if statement.names node then some ⟨node.placeholder, ∅⟩ else none)

private def PerformsAt (node : Node) : Prop :=
  (tree.perform statement).get? node =
    (tree.found statement node).map
      (statement.onEntry (statement.covers tree.isOpen node) (statement.delta node))

private theorem performsAt_server : tree.PerformsAt statement .server := by
  cases aimed : statement.target <;>
    simp [PerformsAt, perform, found, get?, aimed, Target.database?, Statement.covers, Statement.delta,
      Statement.onEntry, Statement.onServer, Action.change_append]

/-- In a database that the target does not name, nothing happens. -/
private theorem performsAt_elsewhere {name database : String} (part : Part)
    (aimed : statement.target.database? = some name) (different : name ≠ database) :
    tree.PerformsAt statement (.within database part) := by
  have unnamed : statement.names (.within database part) = false := by
    simp [Statement.names, aimed, different]
  have uncovered : statement.covers tree.isOpen (.within database part) = false := by
    simp [Statement.covers, Target.meets, aimed, different]
  simp [PerformsAt, perform, aimed, get?, found, unnamed, uncovered, Ne.symm different]

/-- In a database of the target, what holds of the database holds of the tree. -/
private theorem performsAt_within {database : String} (part : Part) (before : Database)
    (after : (tree.perform statement).databases.get? database = some (statement.onTarget before))
    (meets : statement.target.meets database = true)
    (open_same : ∀ part, before.isOpen part = tree.isOpen (.within database part))
    (found_same : statement.found before database part =
      tree.found statement (.within database part)) :
    tree.PerformsAt statement (.within database part) := by
  have covered : statement.covers tree.isOpen (.within database part) =
      statement.coversPart before.isOpen part := by
    simp only [Statement.covers, meets, Bool.true_and, funext open_same]
  rw [PerformsAt, covered, ← found_same, Statement.delta, ← Statement.get?_onTarget]
  simp only [get?, after, Option.bind_some]

/-- A statement changes the entries that it finds, where it covers them. -/
theorem get?_perform (node : Node) :
    (tree.perform statement).get? node =
      (tree.found statement node).map
        (statement.onEntry (statement.covers tree.isOpen node) (statement.delta node)) := by
  cases node with
  | server => exact performsAt_server tree statement
  | within database part =>
    cases aimed : statement.target.database? with
    | none =>
      have unnamed : statement.names (.within database part) = false := by
        simp [Statement.names, aimed]
      cases present : tree.databases.get? database with
      | none => simp [perform, aimed, get?, found, unnamed, present]
      | some before =>
        apply performsAt_within tree statement part before
        · simp [perform, aimed, present]
        · simp [Target.meets, aimed]
        · intro other
          rw [isOpen_within, present, Option.any_some]
        · have silent : statement.namesPart part = false := by
            cases target : statement.target <;> simp_all [Target.database?]
            cases part <;> simp [Statement.namesPart, target, Target.part?]
          simp [Statement.found, found, get?, present, unnamed, silent]
    | some name =>
      by_cases same : name = database
      · subst same
        apply performsAt_within tree statement part
          ((tree.databases.get? name).getD (.placeholderNamed name))
        · simp [perform, aimed]
        · simp [Target.meets, aimed]
        · intro other
          rw [isOpen_within]
          cases tree.databases.get? name <;> simp [Database.isOpen_placeholderNamed]
        · cases present : tree.databases.get? name with
          | none =>
            cases part <;>
              simp [Statement.found, found, get?, present, Database.get?_placeholderNamed,
                Statement.names, aimed, Node.placeholder]
          | some before =>
            cases part <;>
              simp [Statement.found, found, get?, present, Statement.names, aimed,
                Node.placeholder, Database.get?]
      · exact performsAt_elsewhere tree statement part aimed same

private theorem isSome_of_isOpen {node : Node} (reached : tree.isOpen node = true) :
    (tree.get? node).isSome = true := by
  simp only [isOpen, traits?, Bool.and_eq_true, Option.any_map] at reached
  cases present : tree.get? node with
  | none => simp [present] at reached
  | some _ => rfl

/-- A statement finds what it covers: the node is open, or the statement names it. -/
theorem isSome_or_names_of_covers {node : Node}
    (covered : statement.covers tree.isOpen node = true) :
    (tree.get? node).isSome = true ∨ statement.names node = true := by
  cases node with
  | server => exact .inl rfl
  | within database part =>
    simp only [Statement.covers, Bool.and_eq_true] at covered
    obtain ⟨meets, covered⟩ := covered
    cases aimed : statement.target with
    | everything =>
      simp only [Statement.coversPart, aimed, Bool.and_eq_true] at covered
      exact .inl (isSome_of_isOpen tree covered.2)
    | database name =>
      cases part with
      | itself =>
        exact .inr (by simpa [Statement.names, Target.meets, Target.database?, aimed] using meets)
      | table | column | routine =>
        simp only [Statement.coversPart, aimed] at covered
        exact .inl (isSome_of_isOpen tree covered)
    | table holder name =>
      refine .inr ?_
      cases part <;>
        simp_all [Statement.coversPart, Statement.names, Statement.namesPart, Target.meets,
          Target.database?, Target.part?]
    | routine kind holder name =>
      refine .inr ?_
      cases part <;>
        simp_all [Statement.coversPart, Statement.names, Statement.namesPart, Target.meets,
          Target.database?, Target.part?]

theorem traits?_perform (node : Node) :
    (tree.perform statement).traits? node =
      (tree.traits? node).or (node.addedIf (statement.names node)) := by
  have kept (covered : Bool) (said : List String) (entry : Entry) :
      (statement.onEntry covered said entry).traits = entry.traits := by
    cases covered <;> rfl
  simp only [traits?, get?_perform, Option.map_map, Function.comp_def, kept, found]
  cases tree.get? node <;> cases statement.names node <;> rfl

theorem held_perform (node : Node) :
    (tree.perform statement).held node =
      if statement.covers tree.isOpen node then
        statement.action.change (tree.held node) (statement.delta node)
      else tree.held node := by
  simp only [held, get?_perform, found]
  cases present : tree.get? node with
  | some entry => cases statement.covers tree.isOpen node <;> rfl
  | none =>
    cases covered : statement.covers tree.isOpen node with
    | false => cases statement.names node <;> rfl
    | true =>
      have reached := isSome_or_names_of_covers tree statement covered
      have named : statement.names node = true := by simpa [present] using reached
      simp [named, Statement.onEntry]

@[simp] theorem isOpen_perform : (tree.perform statement).isOpen = tree.isOpen := by
  funext node
  simp only [isOpen, traits?_perform, Node.open_addedIf]

theorem traits?_declare (node : Node) :
    (tree.declare statement).traits? node =
      (tree.traits? node).or (node.addedIf (statement.makesRoom node)) := by
  simp only [traits?, get?_declare]
  cases tree.get? node <;> cases statement.makesRoom node <;> rfl

private theorem held_declare (node : Node) : (tree.declare statement).held node = tree.held node := by
  simp only [held, get?_declare]
  cases tree.get? node <;> cases statement.makesRoom node <;> rfl

@[simp] theorem isOpen_declare : (tree.declare statement).isOpen = tree.isOpen := by
  funext node
  simp only [isOpen, traits?_declare, Node.open_addedIf]

/-- Making room first is what `perform` does anyway. -/
theorem perform_declare_self :
    (tree.declare statement).perform statement = tree.perform statement := by
  apply ext_nodes
  · intro node
    simp only [traits?_perform, traits?_declare, Node.or_addedIf, Statement.names_or_makesRoom]
  · intro node
    simp only [held_perform, held_declare, isOpen_declare]

/-- No statement sees the room that another one makes. -/
theorem perform_declare (other : Statement) :
    (tree.declare other).perform statement = (tree.perform statement).declare other := by
  apply ext_nodes
  · intro node
    simp only [traits?_perform, traits?_declare, Node.or_addedIf, Bool.or_comm]
  · intro node
    simp only [held_perform, held_declare, isOpen_declare]

theorem apply_eq_perform
    (room : ∀ name, statement.target.database? = some name → tree.databases.contains name = true) :
    tree.apply statement = .ok (tree.perform statement) := by
  unfold apply perform
  cases aimed : statement.target.database? with
  | none => rfl
  | some name =>
    obtain ⟨database, present⟩ := Option.isSome_iff_exists.mp (room name aimed)
    have updated : tree.databases.insert name (statement.onTarget database) =
        tree.databases.update name fun found =>
          statement.onTarget (found.getD (.placeholderNamed name)) := by
      apply NameMap.ext_get?
      intro other
      simp [present]
    simp only [present, updated]

end PrivilegeTree

end CredentialReach.Mysql
