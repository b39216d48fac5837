import CredentialReach.Analysis.Aggregate
import CredentialReach.Mysql.Tree

/-! A privilege tree as a result: one resource for each object, bound to the
privileges held on it. -/

namespace CredentialReach.Mysql

structure Inventory where
  graph : ResourceGraph := {}
  grants : Grants := ⟨∅, []⟩
  /-- The privileges seen at each level. -/
  observed : Level → NameSet := fun _ => ∅

namespace Inventory

def note (observed : Level → NameSet) (level : Level) (held : NameSet) : Level → NameSet :=
  fun other => if other = level then (observed level).insertAll held.toList else observed other

/-- Adds an object below `parent` and answers its id. An object whose full name
is taken shares the resource of the first, and its privileges stand. -/
def add (inventory : Inventory) (level : Level) (parent : Option Nat) (draft : Draft)
    (held : NameSet) : Nat × Inventory :=
  let inserted := inventory.graph.insert parent draft
  (inserted.id,
    { graph := inserted.graph
      grants := inventory.grants.withResource inserted.id held
      observed := note inventory.observed level held })

def addColumn (parent : Nat) (path : String) (inventory : Inventory) (column : Column) :
    Inventory :=
  (inventory.add .column (some parent)
    ⟨column.name, s!"{path}/column/{column.name}", Level.column.name, ∅⟩ column).2

def addTable (parent : Nat) (path : String) (inventory : Inventory) (table : Table) :
    Inventory :=
  let path := s!"{path}/table/{table.name}"
  let bytes := match table.bytes with
    | some bytes => [("bytes", Json.ofNat bytes)]
    | none => []
  let metadata := NameMap.ofList (bytes ++ [("nonexistent", .bool table.placeholder)])
  let (id, inventory) := inventory.add .table (some parent)
    ⟨table.name, path, Level.table.name, metadata⟩ table.privileges
  table.columns.values.foldl (addColumn id path) inventory

def addRoutine (parent : Nat) (path : String) (inventory : Inventory) (routine : Routine) :
    Inventory :=
  let metadata := NameMap.ofList
    [("kind", .string routine.kind.name), ("nonexistent", .bool routine.placeholder)]
  (inventory.add .routine (some parent)
    ⟨routine.name, s!"{path}/{routine.kind.name}/{routine.name}", Level.routine.name, metadata⟩
    routine.privileges).2

def addDatabase (parent : Nat) (path : String) (inventory : Inventory) (database : Database) :
    Inventory :=
  let path := s!"{path}/database/{database.name}"
  let metadata := NameMap.ofList
    [("default", .bool database.builtin), ("nonexistent", .bool database.placeholder)]
  let (id, inventory) := inventory.add .database (some parent)
    ⟨database.name, path, Level.database.name, metadata⟩ database.privileges
  let inventory := database.tables.values.foldl (addTable id path) inventory
  let inventory := database.procedures.values.foldl (addRoutine id path) inventory
  database.functions.values.foldl (addRoutine id path) inventory

/-- Every object of a tree, on the server at `address`. -/
def ofTree (tree : PrivilegeTree) (address user : String) : Inventory :=
  let path := s!"server/{address}"
  let metadata := NameMap.ofList [("user", .string user)]
  let (id, inventory) :=
    ({} : Inventory).add .server none ⟨address, path, Level.server.name, metadata⟩ tree.server
  tree.databases.values.foldl (addDatabase id path) inventory

/-- Known privileges first, then others that were seen at the same level. -/
def table (inventory : Inventory) : PermissionTable :=
  Level.all.foldl (fun table level =>
    let known := vocabulary level
    let others := (inventory.observed level).toList.filter fun name => !known.contains name
    table.withType level.name (known ++ others)) {}

end Inventory

def PrivilegeTree.toResult (tree : PrivilegeTree) (address user : String)
    (metadata : NameMap Json) : AnalysisResult :=
  let inventory := Inventory.ofTree tree address user
  .aggregate .mysql inventory.graph inventory.table inventory.grants metadata

end CredentialReach.Mysql
