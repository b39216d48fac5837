import CredentialReach.Proofs.SchemaNodes
import CredentialReach.Proofs.StatementRuns

/-! What processing may do to the objects of a tree, their privileges apart. It
keeps every object as it is, and it adds an object only as a placeholder, under
its own name, where an accepted statement mentions one that is missing. -/

namespace CredentialReach.Mysql

def Part.name (database : String) : Part → String
  | itself => database
  | table name | column _ name | routine _ name => name

def Part.kind? : Part → Option RoutineKind
  | routine kind _ => some kind
  | _ => none

/-- The objects that a statement speaks of: the database of its target, the table
or routine there, and the columns that it lists on a table. -/
inductive Statement.Mentions (statement : Statement) : Node → Prop
  | database {name : String} (aimed : statement.target.database? = some name) :
      Mentions statement (.within name .itself)
  | table {database name : String} (aimed : statement.target = .table database name) :
      Mentions statement (.within database (.table name))
  | routine {kind : RoutineKind} {database name : String}
      (aimed : statement.target = .routine kind database name) :
      Mentions statement (.within database (.routine kind name))
  | column {database table name : String} (aimed : statement.target = .table database table)
      (item : Item) (member : item ∈ statement.items) (listed : name ∈ item.columns) :
      Mentions statement (.within database (.column table name))

private theorem Target.eq_table {target : Target} {database name : String}
    (aimed : target.database? = some database) (part : target.part? = some (.table name)) :
    target = .table database name := by
  cases target <;> simp_all [database?, part?]

private theorem Target.eq_routine {target : Target} {kind : RoutineKind} {database name : String}
    (aimed : target.database? = some database) (part : target.part? = some (.routine kind name)) :
    target = .routine kind database name := by
  cases target <;> simp_all [database?, part?]

private theorem Statement.mentions_of_names {statement : Statement} {node : Node}
    (named : statement.names node = true) : statement.Mentions node := by
  cases node with
  | server => cases named
  | within database part =>
    simp only [names, Bool.and_eq_true, decide_eq_true_eq] at named
    obtain ⟨aimed, named⟩ := named
    cases part with
    | itself => exact .database aimed
    | table name =>
      have part : statement.target.part? = some (.table name) := by simpa [namesPart] using named
      exact .table (Target.eq_table aimed part)
    | routine kind name =>
      have part : statement.target.part? = some (.routine kind name) := by
        simpa [namesPart] using named
      exact .routine (Target.eq_routine aimed part)
    | column table name =>
      have both : statement.target.part? = some (.table table) ∧ statement.lists name = true := by
        simpa [namesPart] using named
      obtain ⟨item, member, listed⟩ := List.any_eq_true.mp both.2
      rw [Bool.and_eq_true, List.contains_iff_mem] at listed
      exact .column (Target.eq_table aimed both.1) item member listed.2

namespace PrivilegeTree

/-- Every object stands under its own name, and a routine under its own kind. -/
def Keyed (tree : PrivilegeTree) : Prop :=
  ∀ database part traits, tree.traits? (.within database part) = some traits →
    traits.name = part.name database ∧ traits.kind = part.kind?

theorem keyed_ofSnapshot (snapshot : Snapshot) : (ofSnapshot snapshot).Keyed := by
  intro database part traits found
  obtain ⟨entry, present, rfl⟩ := Option.map_eq_some_iff.mp found
  cases schemaEntry_of_get? present <;> exact ⟨rfl, rfl⟩

theorem traits?_run_of_some {tree : PrivilegeTree} {node : Node} {traits : Traits}
    (present : tree.traits? node = some traits) (statements : List Statement) :
    (tree.run statements).traits? node = some traits := by
  rw [traits?_run, present, Option.some_or]

private theorem traits?_run_of_none {tree : PrivilegeTree} {node : Node} {traits : Traits}
    {statements : List Statement} (absent : tree.traits? node = none)
    (present : (tree.run statements).traits? node = some traits) :
    traits = node.placeholder ∧ ∃ statement ∈ statements, statement.Mentions node := by
  rw [traits?_run, absent, Option.none_or] at present
  unfold Node.addedIf at present
  split at present
  next named =>
    cases present
    obtain ⟨statement, member, named⟩ := List.any_eq_true.mp named
    exact ⟨rfl, statement, member, Statement.mentions_of_names named⟩
  next => cases present

theorem Keyed.run {tree : PrivilegeTree} (keyed : tree.Keyed) (statements : List Statement) :
    (tree.run statements).Keyed := by
  intro database part traits present
  cases before : tree.traits? (.within database part) with
  | some found =>
    rw [traits?_run_of_some before] at present
    cases present
    exact keyed database part _ before
  | none =>
    obtain ⟨rfl, _⟩ := traits?_run_of_none before present
    cases part <;> exact ⟨rfl, rfl⟩

/-- What was there stays, with all its traits and under its own name. What is new
is a placeholder, or a column of a table, and an accepted statement mentions it. -/
theorem process_adds_placeholders (tree : PrivilegeTree) (keyed : tree.Keyed)
    (texts : List String) :
    (∀ node traits, tree.traits? node = some traits →
      (tree.process texts).tree.traits? node = some traits) ∧
    (tree.process texts).tree.Keyed ∧
    ∀ node traits, tree.traits? node = none →
      (tree.process texts).tree.traits? node = some traits →
        (node.isColumn = false → traits.placeholder = true) ∧
        ∃ text ∈ texts, ∃ statement, Statement.parse text = .ok statement ∧
          statement.Mentions node := by
  rw [process_eq]
  refine ⟨fun node traits present => traits?_run_of_some present _, keyed.run _, ?_⟩
  intro node traits absent present
  obtain ⟨rfl, statement, member, mentioned⟩ := traits?_run_of_none absent present
  obtain ⟨text, listed, read⟩ := exists_text_of_accepted member
  refine ⟨?_, text, listed, statement, read, mentioned⟩
  intro whole
  cases mentioned with
  | column => cases whole
  | database | table | routine => rfl

theorem process_adds_placeholders_for_column :
    let tree := ofSnapshot { databases := [⟨"shop", [⟨"orders", some 16384⟩], []⟩] }
    let text := "GRANT SELECT (`id`) ON `shop`.`archive` TO `app`@`%`"
    let orders := Node.within "shop" (.table "orders")
    let archive := Node.within "shop" (.table "archive")
    tree.traits? orders = some { name := "orders", bytes := some 16384 } ∧
      (tree.process [text]).tree.traits? orders = tree.traits? orders ∧
      tree.traits? archive = none ∧
      (tree.process [text]).tree.traits? archive =
        some { name := "archive", placeholder := true } ∧
      ∃ statement, Statement.parse text = .ok statement ∧
        statement.Mentions (.within "shop" (.column "archive" "id")) := by
  intro tree text orders archive
  obtain ⟨kept, _, added⟩ := process_adds_placeholders tree (keyed_ofSnapshot _) [text]
  have known : tree.traits? orders = some { name := "orders", bytes := some 16384 } := by decide
  refine ⟨known, (kept orders _ known).trans known.symm, by decide, by decide, ?_⟩
  obtain ⟨_, other, member, statement, read, mentioned⟩ :=
    added (.within "shop" (.column "archive" "id")) { name := "id" } (by decide) (by decide)
  exact ⟨statement, List.mem_singleton.mp member ▸ read, mentioned⟩

end PrivilegeTree

end CredentialReach.Mysql
