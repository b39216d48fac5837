import Mathlib.Data.List.Nodup
import CredentialReach.Mysql.Snapshot
import CredentialReach.Proofs.StatementRuns

/-! What a statement says of a node, read off its items, and the effect of
processing one text: the nodes that the statement covers collect or lose exactly
what it says of them. -/

namespace CredentialReach.Mysql

def IsStatic (name : String) : Prop := ∃ privilege ∈ staticPrivileges, privilege.name = name

def Allowed (level : Level) (name : String) : Prop :=
  ∃ privilege ∈ staticPrivileges, privilege.name = name ∧ level ∈ privilege.levels

def IsAll (name : String) : Prop := name = "ALL" ∨ name = "ALL PRIVILEGES"

instance (name : String) : Decidable (IsStatic name) :=
  inferInstanceAs (Decidable (∃ privilege ∈ staticPrivileges, privilege.name = name))

instance (level : Level) (name : String) : Decidable (Allowed level name) :=
  inferInstanceAs (Decidable
    (∃ privilege ∈ staticPrivileges, privilege.name = name ∧ level ∈ privilege.levels))

instance (name : String) : Decidable (IsAll name) :=
  inferInstanceAs (Decidable (name = "ALL" ∨ name = "ALL PRIVILEGES"))

def Target.node : Target → Node
  | .everything => .server
  | .database name => .within name .itself
  | .table holder name => .within holder (.table name)
  | .routine kind holder name => .within holder (.routine kind name)

def Statement.NamesWhole (statement : Statement) (name : String) : Prop :=
  ∃ item ∈ statement.items, item.columns = [] ∧ item.privilege = name

/-- What a statement says of a node that it covers. -/
inductive Statement.Concerns (statement : Statement) (node : Node) (name : String) : Prop
  | static (whole : node.isColumn = false) (named : statement.NamesWhole name)
      (allowed : Allowed node.level name) (granted : name ≠ usage)
  | all (whole : node.isColumn = false) (collective : String)
      (named : statement.NamesWhole collective) (everything : IsAll collective)
      (member : name ∈ allAt node.level)
  | option (aimed : node = statement.target.node) (given : statement.withGrantOption = true)
      (same : name = grantOption)
  /-- Unknown names stay where the statement points; dynamic ones belong to the server. -/
  | verbatim (aimed : node = statement.target.node) (above : node.level ≠ .routine)
      (named : statement.NamesWhole name) (unknown : ¬ IsStatic name) (plain : ¬ IsAll name)
      (dynamic : name ∈ dynamicPrivileges → node.level = .server)
  | column (database table column : String) (inside : node = .within database (.column table column))
      (item : Item) (member : item ∈ statement.items) (listed : column ∈ item.columns)
      (same : item.privilege = name) (allowed : Allowed .column name)

theorem names_nodup : (staticPrivileges.map (·.name)).Nodup := by
  simp [staticPrivileges, grantOption, usage]

theorem staticPrivilege?_eq_some {name : String} {privilege : Privilege}
    (found : staticPrivilege? name = some privilege) :
    privilege ∈ staticPrivileges ∧ privilege.name = name := by
  refine ⟨List.mem_of_find?_eq_some found, ?_⟩
  simpa using List.find?_some found

private theorem staticPrivilege?_of_mem {privilege : Privilege} (member : privilege ∈ staticPrivileges) :
    staticPrivilege? privilege.name = some privilege := by
  cases found : staticPrivilege? privilege.name with
  | none =>
    have different := List.find?_eq_none.mp found privilege member
    exact absurd BEq.rfl different
  | some other =>
    obtain ⟨present, same⟩ := staticPrivilege?_eq_some found
    have equal := List.inj_on_of_nodup_map names_nodup present member same
    rw [equal]

private theorem isNone_staticPrivilege? {name : String} :
    (staticPrivilege? name).isNone = true ↔ ¬ IsStatic name := by
  constructor
  · rintro absent ⟨privilege, member, rfl⟩
    rw [staticPrivilege?_of_mem member] at absent
    cases absent
  · intro unknown
    cases found : staticPrivilege? name with
    | none => rfl
    | some privilege => exact absurd ⟨privilege, staticPrivilege?_eq_some found⟩ unknown

/-- The lookup finds the one entry that decides what a level allows. -/
theorem any_staticPrivilege? {level : Level} {name : String} :
    (staticPrivilege? name).any (·.allows level) = true ↔ Allowed level name := by
  constructor
  · intro allows
    obtain ⟨privilege, found, allows⟩ := (Option.any_eq_true _ _).mp allows
    obtain ⟨member, same⟩ := staticPrivilege?_eq_some found
    exact ⟨privilege, member, same, by simpa [Privilege.allows] using allows⟩
  · rintro ⟨privilege, member, rfl, allows⟩
    rw [staticPrivilege?_of_mem member]
    simpa [Privilege.allows] using allows

theorem isAll_iff {name : String} : isAll name = true ↔ IsAll name := by
  simp [isAll, IsAll]

theorem mem_allAt {level : Level} {name : String} :
    name ∈ allAt level ↔ Allowed level name ∧ name ≠ usage ∧ name ≠ grantOption := by
  simp only [allAt, Allowed, List.mem_filter, List.mem_map, Privilege.allows, decide_eq_true_eq,
    Bool.and_eq_true, bne_iff_ne]
  constructor
  · rintro ⟨⟨privilege, ⟨member, allows⟩, same⟩, proper⟩
    exact ⟨⟨privilege, member, same, allows⟩, proper⟩
  · rintro ⟨⟨privilege, member, same, allows⟩, proper⟩
    exact ⟨⟨privilege, ⟨member, allows⟩, same⟩, proper⟩

private theorem not_isAll_of_isStatic {name : String} (known : IsStatic name) : ¬ IsAll name := by
  obtain ⟨privilege, member, rfl⟩ := known
  revert privilege
  simp [staticPrivileges, IsAll, grantOption, usage]

theorem Allowed.isStatic {level : Level} {name : String} (allowed : Allowed level name) :
    IsStatic name := by
  obtain ⟨privilege, member, same, _⟩ := allowed
  exact ⟨privilege, member, same⟩

namespace Statement

variable (statement : Statement) {level : Level} {name : String}

theorem mem_objectPrivileges : name ∈ statement.objectPrivileges ↔ statement.NamesWhole name := by
  simp only [objectPrivileges, NamesWhole, List.mem_map, List.mem_filter, List.isEmpty_iff]
  constructor
  · rintro ⟨item, ⟨member, whole⟩, same⟩
    exact ⟨item, member, whole, same⟩
  · rintro ⟨item, member, whole, same⟩
    exact ⟨item, ⟨member, whole⟩, same⟩

theorem mem_expand {given : String} :
    name ∈ expand level given ↔
      IsAll given ∧ name ∈ allAt level ∨ given = name ∧ Allowed level name ∧ name ≠ usage := by
  by_cases collective : isAll given = true
  · have all := isAll_iff.mp collective
    rw [expand, if_pos collective]
    constructor
    · exact fun member => .inl ⟨all, member⟩
    · rintro (⟨_, member⟩ | ⟨rfl, allowed, _⟩)
      · exact member
      · exact absurd all (not_isAll_of_isStatic allowed.isStatic)
  · have single : ¬ IsAll given := mt isAll_iff.mpr collective
    have known : (staticPrivilege? given).any (·.allows level) = true ↔ Allowed level given :=
      any_staticPrivilege?
    rw [expand, if_neg collective]
    cases found : staticPrivilege? given with
    | none =>
      rw [found] at known
      simp only [List.not_mem_nil, single, false_and, false_or, false_iff]
      rintro ⟨rfl, allowed, _⟩
      exact absurd (known.mpr allowed) (by simp)
    | some privilege =>
      rw [found, Option.any_some] at known
      simp only [single, false_and, false_or]
      constructor
      · intro member
        split at member
        next kept =>
          obtain rfl := List.mem_singleton.mp member
          obtain ⟨proper, allows⟩ := Bool.and_eq_true_iff.mp kept
          exact ⟨rfl, known.mp allows, bne_iff_ne.mp proper⟩
        next => cases member
      · rintro ⟨rfl, allowed, proper⟩
        simp [proper, known.mpr allowed]

theorem mem_privilegesAt {isTarget : Bool} (whole : level ≠ .column) :
    name ∈ statement.privilegesAt level isTarget ↔
      (∃ given, statement.NamesWhole given ∧ name ∈ expand level given) ∨
        isTarget = true ∧ statement.withGrantOption = true ∧ name = grantOption := by
  have proper : (level != .column) = true := bne_iff_ne.mpr whole
  simp only [privilegesAt, List.mem_append, List.mem_flatMap, mem_objectPrivileges, proper,
    Bool.and_true]
  cases statement.withGrantOption <;> cases isTarget <;> simp

theorem mem_otherPrivileges :
    name ∈ statement.otherPrivileges level ↔
      statement.NamesWhole name ∧ ¬ IsStatic name ∧ ¬ IsAll name ∧
        (name ∈ dynamicPrivileges → level = .server) := by
  have local_name : (level == .server || !isDynamic name) = true ↔
      (name ∈ dynamicPrivileges → level = .server) := by
    by_cases dynamic : name ∈ dynamicPrivileges <;> simp [isDynamic, dynamic]
  simp only [otherPrivileges, List.mem_filter, mem_objectPrivileges, Bool.and_eq_true,
    isNone_staticPrivilege?, Bool.not_eq_true', ← isAll_iff, Bool.not_eq_true, local_name]
  exact ⟨fun ⟨named, ⟨plain, unknown⟩, dynamic⟩ => ⟨named, unknown, plain, dynamic⟩,
    fun ⟨named, unknown, plain, dynamic⟩ => ⟨named, ⟨plain, unknown⟩, dynamic⟩⟩

private theorem mem_saidOfColumn {column : String} :
    name ∈ statement.saidOfColumn column ↔
      ∃ item ∈ statement.items, column ∈ item.columns ∧ item.privilege = name ∧
        Allowed .column name := by
  simp only [saidOfColumn, columnPrivileges, List.mem_map, List.mem_filter, List.mem_flatMap,
    decide_eq_true_eq, hasColumns, any_staticPrivilege?]
  constructor
  · rintro ⟨named, ⟨⟨item, ⟨member, allowed⟩, other, listed, rfl⟩, rfl⟩, rfl⟩
    exact ⟨item, member, listed, rfl, allowed⟩
  · rintro ⟨item, member, listed, rfl, allowed⟩
    exact ⟨(column, item.privilege), ⟨⟨item, ⟨member, allowed⟩, column, listed, rfl⟩, rfl⟩, rfl⟩

/-- What is said of a node that is no column: the names that the items give for
its level, and more where the statement points. -/
theorem concerns_iff_of_whole {node : Node} (whole : node.isColumn = false) :
    statement.Concerns node name ↔
      (∃ given, statement.NamesWhole given ∧ name ∈ expand node.level given) ∨
        node = statement.target.node ∧
          (statement.withGrantOption = true ∧ name = grantOption ∨
            node.level ≠ .routine ∧ name ∈ statement.otherPrivileges node.level) := by
  constructor
  · rintro (⟨_, named, allowed, proper⟩ | ⟨_, collective, named, everything, member⟩ |
      ⟨aimed, given, same⟩ | ⟨aimed, above, named, unknown, plain, dynamic⟩ |
      ⟨database, table, column, inside, _⟩)
    · exact .inl ⟨name, named, mem_expand.mpr (.inr ⟨rfl, allowed, proper⟩)⟩
    · exact .inl ⟨collective, named, mem_expand.mpr (.inl ⟨everything, member⟩)⟩
    · exact .inr ⟨aimed, .inl ⟨given, same⟩⟩
    · exact .inr ⟨aimed, .inr ⟨above,
        (mem_otherPrivileges statement).mpr ⟨named, unknown, plain, dynamic⟩⟩⟩
    · rw [inside] at whole
      cases whole
  · rintro (⟨given, named, member⟩ | ⟨aimed, ⟨given, same⟩ | ⟨above, member⟩⟩)
    · rcases mem_expand.mp member with ⟨everything, member⟩ | ⟨rfl, allowed, proper⟩
      · exact .all whole given named everything member
      · exact .static whole named allowed proper
    · exact .option aimed given same
    · obtain ⟨named, unknown, plain, dynamic⟩ := (mem_otherPrivileges statement).mp member
      exact .verbatim aimed above named unknown plain dynamic

private theorem concerns_column_iff {database table column : String} :
    statement.Concerns (.within database (.column table column)) name ↔
      name ∈ statement.saidOfColumn column := by
  have no_target : Node.within database (.column table column) ≠ statement.target.node := by
    cases statement.target <;> simp [Target.node]
  rw [mem_saidOfColumn]
  constructor
  · rintro (⟨whole, _⟩ | ⟨whole, _⟩ | ⟨aimed, _⟩ | ⟨aimed, _⟩ |
      ⟨_, _, _, inside, item, member, listed, same, allowed⟩)
    · cases whole
    · cases whole
    · exact absurd aimed no_target
    · exact absurd aimed no_target
    · cases inside
      exact ⟨item, member, listed, same, allowed⟩
  · rintro ⟨item, member, listed, same, allowed⟩
    exact .column database table column rfl item member listed same allowed

private theorem node_target_iff {database : String} {part : Part}
    (meets : statement.target.meets database = true) :
    Node.within database part = statement.target.node ↔ statement.target.part? = some part := by
  cases aimed : statement.target <;>
    simp_all [Target.meets, Target.database?, Target.node, Target.part?, eq_comm]

theorem mem_delta_iff {isOpen : Node → Bool} {node : Node}
    (covered : statement.covers isOpen node = true) :
    name ∈ statement.delta node ↔ statement.Concerns node name := by
  cases node with
  | server =>
    have aimed : statement.target = .everything := by simpa [covers] using covered
    rw [concerns_iff_of_whole statement rfl]
    simp [delta, Node.level, mem_privilegesAt, aimed, Target.node, or_assoc]
  | within database part =>
    simp only [covers, Bool.and_eq_true] at covered
    have aimed : Node.within database part = statement.target.node ↔
        statement.target.part? = some part := node_target_iff statement covered.1
    cases part with
    | column table column => rw [concerns_column_iff, delta, deltaPart]
    | itself =>
      rw [concerns_iff_of_whole statement rfl, aimed]
      by_cases pointed : statement.target.part? = some .itself <;>
        simp [delta, deltaPart, Node.level, Part.level, mem_privilegesAt, pointed, or_assoc]
    | table table =>
      rw [concerns_iff_of_whole statement rfl, aimed]
      by_cases pointed : statement.target.part? = some (.table table) <;>
        simp [delta, deltaPart, Node.level, Part.level, mem_privilegesAt, pointed, or_assoc]
    | routine =>
      rw [concerns_iff_of_whole statement rfl, aimed]
      simp [delta, deltaPart, Node.level, Part.level, mem_privilegesAt]

end Statement

namespace PrivilegeTree

theorem process_singleton_eq (tree : PrivilegeTree) {text : String} {statement : Statement}
    (read : Statement.parse text = .ok statement) :
    tree.process [text] = { tree := tree.perform statement } := by
  rw [process_eq, accepted_cons_ok read, rejected_cons_ok read]
  rfl

/-- The whole effect of one accepted text. The first part says which nodes there
are afterwards: those that there were, unchanged, and placeholders for the nodes
that the statement names in vain. The second says what is held on them: the
nodes that the statement covers gain or lose what it says of them, and all other
nodes hold what they held. -/
theorem process_statement_effect (tree : PrivilegeTree) {text : String} {statement : Statement}
    (read : Statement.parse text = .ok statement) :
    (tree.process [text]).rejections = [] ∧
    (∀ node, (tree.process [text]).tree.traits? node =
      (tree.traits? node).or (if statement.names node then some node.placeholder else none)) ∧
    ∀ node name, name ∈ (tree.process [text]).tree.held node ↔
      if statement.covers tree.isOpen node then
        match statement.action with
        | .grant => name ∈ tree.held node ∨ statement.Concerns node name
        | .revoke => name ∈ tree.held node ∧ ¬ statement.Concerns node name
      else name ∈ tree.held node := by
  rw [process_singleton_eq tree read]
  refine ⟨rfl, fun node => traits?_perform tree statement node, ?_⟩
  intro node name
  rw [held_perform]
  by_cases covered : statement.covers tree.isOpen node = true
  · have said : name ∈ statement.delta node ↔ statement.Concerns node name :=
      Statement.mem_delta_iff statement covered
    rw [if_pos covered, if_pos covered, Action.mem_change, ← said]
    cases statement.action <;> by_cases member : name ∈ statement.delta node <;> simp [member]
  · rw [if_neg covered, if_neg covered]

theorem process_statement_effect_everywhere :
    let tree := ofSnapshot { databases := [⟨"shop", [⟨"orders", none⟩], []⟩, ⟨"mysql", [], []⟩] }
    let text := "GRANT SELECT ON *.* TO `app`@`%`"
    Statement.parse text = .ok ⟨.grant, [⟨"SELECT", []⟩], .everything, false⟩ ∧
      "SELECT" ∈ (tree.process [text]).tree.held (.within "shop" (.table "orders")) ∧
      "SELECT" ∉ (tree.process [text]).tree.held (.within "mysql" .itself) := by
  intro tree text
  have read : Statement.parse text = .ok ⟨.grant, [⟨"SELECT", []⟩], .everything, false⟩ := by decide
  obtain ⟨_, _, effect⟩ := process_statement_effect tree read
  refine ⟨read, (effect _ _).mpr ?_, fun held => ?_⟩
  · rw [if_pos (by decide)]
    exact .inr (.static rfl ⟨_, List.mem_singleton.mpr rfl, rfl, rfl⟩ (by decide) (by decide))
  · have kept := (effect _ _).mp held
    rw [if_neg (by decide)] at kept
    exact absurd kept (by decide)

end PrivilegeTree

end CredentialReach.Mysql
