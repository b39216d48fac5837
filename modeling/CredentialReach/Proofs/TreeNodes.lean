import CredentialReach.Mysql.Tree

/-! The nodes of a privilege tree, each with its traits and the privileges held
on it. A tree is determined by these two views: `PrivilegeTree.ext_nodes`. -/

namespace CredentialReach.Mysql

inductive Part where
  | itself
  | table (name : String)
  | column (table name : String)
  | routine (kind : RoutineKind) (name : String)
deriving DecidableEq, Repr

inductive Node where
  | server
  | within (database : String) (part : Part)
deriving DecidableEq, Repr

def Part.level : Part → Level
  | itself => .database
  | table _ => .table
  | column .. => .column
  | routine .. => .routine

def Node.level : Node → Level
  | server => .server
  | within _ part => part.level

def Part.isColumn : Part → Bool
  | column .. => true
  | _ => false

def Node.isColumn : Node → Bool
  | server => false
  | within _ part => part.isColumn

/-- What a tree records of a node, apart from its privileges and contents. -/
structure Traits where
  name : String := ""
  kind : Option RoutineKind := none
  bytes : Option Nat := none
  builtin : Bool := false
  placeholder : Bool := false
deriving DecidableEq, Repr

def Traits.isOpen (traits : Traits) : Bool := !traits.builtin && !traits.placeholder

structure Entry where
  traits : Traits
  privileges : NameSet := ∅

def Column.entry (column : Column) : Entry :=
  { traits := { name := column.name }, privileges := column.privileges }

def Table.entry (table : Table) : Entry where
  traits := { name := table.name, bytes := table.bytes, placeholder := table.placeholder }
  privileges := table.privileges

def Routine.entry (routine : Routine) : Entry where
  traits := {
    name := routine.name
    kind := some routine.kind
    placeholder := routine.placeholder }
  privileges := routine.privileges

namespace Database

def entry (database : Database) : Entry where
  traits := {
    name := database.name
    builtin := database.builtin
    placeholder := database.placeholder }
  privileges := database.privileges

def get? (database : Database) : Part → Option Entry
  | .itself => some database.entry
  | .table name => (database.tables.get? name).map Table.entry
  | .column table name =>
    (database.tables.get? table).bind fun found => (found.columns.get? name).map Column.entry
  | .routine kind name => ((database.routines kind).get? name).map Routine.entry

/-- A target above an open part can reach it. Columns are never open. -/
def isOpen (database : Database) (part : Part) : Bool :=
  !part.isColumn && (database.get? part).any (·.traits.isOpen)

@[simp] theorem isOpen_column (database : Database) (table name : String) :
    database.isOpen (.column table name) = false := rfl

theorem isOpen_itself (database : Database) :
    database.isOpen .itself = (!database.builtin && !database.placeholder) := rfl

end Database

namespace PrivilegeTree

def get? (tree : PrivilegeTree) : Node → Option Entry
  | .server => some { traits := {}, privileges := tree.server }
  | .within database part => (tree.databases.get? database).bind (·.get? part)

def traits? (tree : PrivilegeTree) (node : Node) : Option Traits := (tree.get? node).map (·.traits)

/-- The privileges on a node; there are none on a node that is not in the tree. -/
def held (tree : PrivilegeTree) (node : Node) : NameSet :=
  (tree.get? node).elim ∅ (·.privileges)

def isOpen (tree : PrivilegeTree) (node : Node) : Bool :=
  !node.isColumn && (tree.traits? node).any Traits.isOpen

private theorem get?_eq (tree : PrivilegeTree) (node : Node) :
    tree.get? node = (tree.traits? node).map fun traits => ⟨traits, tree.held node⟩ := by
  unfold traits? held
  cases tree.get? node <;> rfl

end PrivilegeTree

private theorem option_ext {α : Type} {found other : Option α} {entry : α → Entry}
    (same : found.map entry = other.map entry)
    (equal : ∀ a b, found = some a → other = some b → entry a = entry b → a = b) :
    found = other := by
  cases found with
  | none => cases other with
    | none => rfl
    | some value => cases same
  | some value => cases other with
    | none => cases same
    | some second => rw [equal value second rfl rfl (Option.some.inj same)]

private theorem Column.entry_injective {a b : Column} (same : a.entry = b.entry) : a = b := by
  cases a
  cases b
  simp_all [Column.entry]

private theorem Routine.entry_injective {a b : Routine} (same : a.entry = b.entry) : a = b := by
  cases a
  cases b
  simp_all [Routine.entry]

private theorem Table.ext_columns {a b : Table} (same : a.entry = b.entry)
    (columns : a.columns = b.columns) : a = b := by
  cases a
  cases b
  simp_all [Table.entry]

private theorem Database.ext_parts {a b : Database} (same : ∀ part, a.get? part = b.get? part) :
    a = b := by
  have tables : a.tables = b.tables := by
    refine NameMap.ext_get? fun name => option_ext (same (.table name)) ?_
    intro first second left right equal
    refine Table.ext_columns equal (NameMap.ext_get? fun column => ?_)
    have views := same (.column name column)
    simp only [Database.get?, left, right, Option.bind_some] at views
    exact option_ext views fun _ _ _ _ => Column.entry_injective
  have routines (kind : RoutineKind) : a.routines kind = b.routines kind :=
    NameMap.ext_get? fun name =>
      option_ext (same (.routine kind name)) fun _ _ _ _ => Routine.entry_injective
  have procedures : a.procedures = b.procedures := routines .procedure
  have functions : a.functions = b.functions := routines .function
  have itself : a.entry = b.entry := Option.some.inj (same .itself)
  cases a
  cases b
  simp_all [Database.entry]

namespace PrivilegeTree

private theorem ext_entries {a b : PrivilegeTree} (same : ∀ node, a.get? node = b.get? node) :
    a = b := by
  have databases : a.databases = b.databases := by
    refine NameMap.ext_get? fun name => ?_
    have itself : (a.databases.get? name).map Database.entry =
        (b.databases.get? name).map Database.entry := by
      simpa only [get?, Database.get?, Option.map_eq_bind, Function.comp_def]
        using same (.within name .itself)
    refine option_ext itself fun first second left right _ => Database.ext_parts fun part => ?_
    simpa only [get?, left, right, Option.bind_some] using same (.within name part)
  have server : a.server = b.server :=
    congrArg Entry.privileges (Option.some.inj (same .server))
  cases a
  cases b
  simp_all

/-- Two trees with the same nodes, each with the same traits and privileges,
are the same tree. -/
theorem ext_nodes {a b : PrivilegeTree} (traits : ∀ node, a.traits? node = b.traits? node)
    (held : ∀ node, a.held node = b.held node) : a = b :=
  ext_entries fun node => by rw [get?_eq, get?_eq, traits, held]

end PrivilegeTree

end CredentialReach.Mysql
