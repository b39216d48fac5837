import CredentialReach.Proofs.SchemaNodes
import CredentialReach.Proofs.StatementEffect

/-! Which privileges a node can hold. Each level has its own, and no run of
statements brings any other to it. -/

namespace CredentialReach.Mysql

/-- The names that nodes of a level can hold: static privileges of the level, and
above columns and routines also names that are not in the table. -/
def Admissible (level : Level) (name : String) : Prop :=
  Allowed level name ∧ name ≠ usage ∨
    level ∈ [.server, .database, .table] ∧ ¬ IsStatic name ∧ ¬ IsAll name ∧
      (name ∈ dynamicPrivileges → level = .server)

instance (level : Level) (name : String) : Decidable (Admissible level name) :=
  inferInstanceAs (Decidable (_ ∨ _))

def PrivilegeTree.Graded (tree : PrivilegeTree) : Prop :=
  ∀ node name, name ∈ tree.held node → Admissible node.level name

private theorem level_target (target : Target) : target.node.level ≠ .column := by
  cases target <;> simp [Target.node, Node.level, Part.level]

private theorem allowed_grantOption {level : Level} (whole : level ≠ .column) :
    Allowed level grantOption := by
  cases level with
  | column => exact absurd rfl whole
  | server | database | table | routine => decide

private theorem not_allowed_usage {level : Level} (below : level ≠ .server) : ¬ Allowed level usage := by
  cases level with
  | server => exact absurd rfl below
  | database | table | column | routine => decide

theorem Statement.Concerns.admissible {statement : Statement} {node : Node} {name : String}
    (concerns : statement.Concerns node name) : Admissible node.level name := by
  cases concerns with
  | static _ _ allowed proper => exact .inl ⟨allowed, proper⟩
  | all _ _ _ _ member =>
    obtain ⟨allowed, proper, _⟩ := mem_allAt.mp member
    exact .inl ⟨allowed, proper⟩
  | option aimed _ same =>
    rw [aimed, same]
    exact .inl ⟨allowed_grantOption (level_target _), by decide⟩
  | verbatim aimed above _ unknown plain dynamic =>
    have whole : node.level ≠ .column := aimed ▸ level_target _
    refine .inr ⟨?_, unknown, plain, dynamic⟩
    cases level : node.level <;> simp_all
  | column database table column inside item _ _ _ allowed =>
    rw [inside]
    refine .inl ⟨allowed, ?_⟩
    rintro rfl
    exact not_allowed_usage (by decide) allowed

namespace PrivilegeTree

private theorem concerns_of_mem_perform {tree : PrivilegeTree} {statement : Statement} {node : Node}
    {name : String} (member : name ∈ (tree.perform statement).held node) :
    name ∈ tree.held node ∨ statement.Concerns node name := by
  rw [held_perform] at member
  split at member
  next covered =>
    rw [Action.mem_change] at member
    split at member
    next said => exact .inr ((statement.mem_delta_iff covered).mp said)
    next => exact .inl member
  next => exact .inl member

private theorem concerns_of_mem_run {tree : PrivilegeTree} {statements : List Statement} {node : Node}
    {name : String} (member : name ∈ (tree.run statements).held node) :
    name ∈ tree.held node ∨ ∃ statement ∈ statements, statement.Concerns node name := by
  induction statements generalizing tree with
  | nil => exact .inl member
  | cons statement rest ih =>
    rcases ih member with before | ⟨other, listed, concerns⟩
    · rcases concerns_of_mem_perform before with first | concerns
      · exact .inl first
      · exact .inr ⟨statement, List.mem_cons_self, concerns⟩
    · exact .inr ⟨other, List.mem_cons_of_mem _ listed, concerns⟩

def processAll (tree : PrivilegeTree) (batches : List (List String)) : PrivilegeTree :=
  batches.foldl (fun tree texts => (tree.process texts).tree) tree

/-- A privilege that was not there before comes from a text. -/
theorem concerns_of_mem_processAll {tree : PrivilegeTree} {batches : List (List String)}
    {node : Node} {name : String} (member : name ∈ (tree.processAll batches).held node) :
    name ∈ tree.held node ∨
      ∃ text statement, Statement.parse text = .ok statement ∧ statement.Concerns node name := by
  induction batches generalizing tree with
  | nil => exact .inl member
  | cons texts rest ih =>
    rcases ih member with before | later
    · dsimp only at before
      rw [process_eq] at before
      rcases concerns_of_mem_run before with first | ⟨statement, accepted, concerns⟩
      · exact .inl first
      · obtain ⟨text, _, read⟩ := exists_text_of_accepted accepted
        exact .inr ⟨text, statement, read, concerns⟩
    · exact .inr later

theorem Graded.processAll {tree : PrivilegeTree} (graded : tree.Graded)
    (batches : List (List String)) : (tree.processAll batches).Graded := by
  intro node name member
  rcases concerns_of_mem_processAll member with before | ⟨_, _, _, concerns⟩
  · exact graded node name before
  · exact concerns.admissible

end PrivilegeTree

def Database.Bare (database : Database) : Prop :=
  ∀ part entry, database.get? part = some entry → entry.privileges = ∅

private theorem Database.bare_ofSchema (schema : SchemaDatabase) : (ofSchema schema).Bare := by
  intro part entry found
  cases fromSchema_ofSchema schema part entry found <;> rfl

namespace PrivilegeTree

theorem held_ofSnapshot (snapshot : Snapshot) (node : Node) :
    (ofSnapshot snapshot).held node = ∅ := by
  cases node with
  | server => rfl
  | within database part =>
    simp only [held, get?]
    cases present : (ofSnapshot snapshot).databases.get? database with
    | none => rfl
    | some found =>
      obtain ⟨schema, _, same⟩ := List.mem_map.mp (NameMap.mem_of_get?_ofList present)
      cases same
      rw [Option.bind_some]
      cases entry : (Database.ofSchema schema).get? part with
      | none => rfl
      | some value => exact Database.bare_ofSchema schema part value entry

private theorem graded_ofSnapshot (snapshot : Snapshot) : (ofSnapshot snapshot).Graded := by
  intro node name member
  rw [held_ofSnapshot] at member
  exact absurd member (NameSet.not_mem_empty name)

end PrivilegeTree

theorem Admissible.column {name : String} (admissible : Admissible .column name) :
    name ∈ ["INSERT", "REFERENCES", "SELECT", "UPDATE"] := by
  have listed : ∀ privilege ∈ staticPrivileges, Level.column ∈ privilege.levels →
      privilege.name ∈ ["INSERT", "REFERENCES", "SELECT", "UPDATE"] := by decide
  rcases admissible with ⟨⟨privilege, member, rfl, allows⟩, _⟩ | ⟨above, _⟩
  · exact listed privilege member allows
  · exact absurd above (by decide)

private theorem Admissible.not_reserved {level : Level} {name : String}
    (admissible : Admissible level name) :
    name ∉ ["USAGE", "PROXY", "ALL", "ALL PRIVILEGES"] := by
  have refused : ∀ reserved ∈ ["USAGE", "PROXY", "ALL", "ALL PRIVILEGES"],
      ¬ Admissible level reserved := by cases level <;> decide
  exact fun member => refused name member admissible

namespace PrivilegeTree

/-- Whatever is processed on the tree of a schema, every set holds admissible
names only: columns four of them, and no set a name that stands for none or many. -/
theorem sets_obey_levels (snapshot : Snapshot) (batches : List (List String)) (node : Node)
    (name : String) (member : name ∈ ((ofSnapshot snapshot).processAll batches).held node) :
    Admissible node.level name ∧
      (node.level = .column → name ∈ ["INSERT", "REFERENCES", "SELECT", "UPDATE"]) ∧
      name ∉ ["USAGE", "PROXY", "ALL", "ALL PRIVILEGES"] := by
  have admissible := (graded_ofSnapshot snapshot).processAll batches node name member
  exact ⟨admissible, fun column => (column ▸ admissible).column, admissible.not_reserved⟩

theorem sets_obey_levels_on_column :
    let snapshot : Snapshot := { databases := [⟨"shop", [⟨"orders", none⟩], []⟩] }
    let texts := [["GRANT USAGE ON *.* TO `app`@`%`"],
      ["GRANT SELECT (`id`) ON `shop`.`orders` TO `app`@`%`"]]
    let node := Node.within "shop" (.column "orders" "id")
    "SELECT" ∈ ((ofSnapshot snapshot).processAll texts).held node ∧
      Admissible node.level "SELECT" := by
  intro snapshot texts node
  have member : "SELECT" ∈ ((ofSnapshot snapshot).processAll texts).held node := by decide
  exact ⟨member, (sets_obey_levels snapshot texts node "SELECT" member).1⟩

end PrivilegeTree

end CredentialReach.Mysql
