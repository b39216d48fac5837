import CredentialReach.Mysql.Report
import CredentialReach.Proofs.TreeObjects

/-! What an inventory of a tree records. Each object is added behind all others,
below its container and with the privileges held on it, so that the records of
the whole tree are those of its nodes, in order. -/

namespace CredentialReach.Mysql

/-- An object as an inventory records it; its position is its id. -/
structure Recorded where
  level : Level
  resource : Resource
  held : NameSet

def Distinct (records : List Recorded) : Prop := (records.map (·.resource.fullName)).Nodup

theorem Distinct.of_append {first second : List Recorded} (distinct : Distinct (first ++ second)) :
    Distinct first := by
  unfold Distinct at distinct
  rw [List.map_append] at distinct
  exact distinct.of_append_left

theorem Distinct.fresh {records : List Recorded} {record : Recorded}
    (distinct : Distinct (records ++ [record])) :
    ∀ other ∈ records, other.resource.fullName ≠ record.resource.fullName := by
  unfold Distinct at distinct
  rw [List.map_append, List.nodup_append] at distinct
  intro other member same
  exact distinct.2.2 _ (List.mem_map_of_mem member) _ (List.mem_map_of_mem List.mem_cons_self) same

namespace Inventory

structure Lists (inventory : Inventory) (records : List Recorded) : Prop where
  resources : inventory.graph.resources = records.map (·.resource)
  held : ∀ id record, records[id]? = some record → inventory.grants.heldOn id = record.held
  observed : ∀ level name, name ∈ inventory.observed level ↔
    ∃ record ∈ records, record.level = level ∧ name ∈ record.held

private theorem lists_empty : ({} : Inventory).Lists [] where
  resources := rfl
  held := by simp
  observed := by simp

variable {inventory : Inventory} {records : List Recorded}

theorem Lists.size (lists : inventory.Lists records) : inventory.graph.size = records.length := by
  rw [← ResourceGraph.length_resources, lists.resources, List.length_map]

private theorem mem_note {observed : Level → NameSet} {level other : Level} {held : NameSet}
    {name : String} : name ∈ note observed level held other ↔
      name ∈ observed other ∨ other = level ∧ name ∈ held := by
  unfold note
  split
  next same =>
    subst same
    rw [NameSet.mem_insertAll, eq_self_iff_true, true_and]
    exact or_comm
  next different => simp [different]

/-- An object with a new full name is recorded behind all others. -/
theorem Lists.add (lists : inventory.Lists records) (level : Level) (parent : Option Nat)
    (draft : Draft) (held : NameSet) (resource : Resource)
    (placed : resource = .place draft (parent.bind fun id => (records[id]?).map (·.resource)))
    (distinct : Distinct (records ++ [⟨level, resource, held⟩])) :
    (inventory.add level parent draft held).1 = records.length ∧
      (inventory.add level parent draft held).2.Lists (records ++ [⟨level, resource, held⟩]) := by
  have named : resource.fullName = draft.fullName := by
    rw [placed]
    cases parent.bind fun id => (records[id]?).map (·.resource) <;> rfl
  have fresh : ∀ other ∈ inventory.graph.resources, other.fullName ≠ draft.fullName := by
    intro other member
    rw [lists.resources] at member
    obtain ⟨record, listed, rfl⟩ := List.mem_map.mp member
    exact named ▸ distinct.fresh record listed
  obtain ⟨last, resources⟩ := ResourceGraph.insert_of_fresh fresh parent
  rw [lists.size] at last
  refine ⟨last, ?_, ?_, ?_⟩
  · simp [Inventory.add, resources, lists.resources, placed]
  · -- The newest entry is found first, and its id is the one behind all others.
    intro id record found
    simp only [Inventory.add, Grants.withResource, Grants.heldOn, last, List.lookup_cons]
    by_cases same : id = records.length
    · subst same
      rw [List.getElem?_concat_length] at found
      cases found
      rw [beq_self_eq_true]
      rfl
    · have inside := (List.getElem?_eq_some_iff.mp found).1
      rw [List.length_append, List.length_singleton] at inside
      have earlier : id < records.length := by omega
      rw [List.getElem?_append_left earlier] at found
      rw [beq_false_of_ne same]
      exact lists.held id record found
  · intro other name
    simp only [Inventory.add, mem_note, lists.observed, List.mem_append, List.mem_singleton,
      or_and_right, exists_or, exists_eq_left, eq_comm]

theorem getElem?_append_of_eq_some {α : Type} {items : List α} {position : Nat} {item : α}
    (found : items[position]? = some item) (more : List α) :
    (items ++ more)[position]? = some item := by
  rw [List.getElem?_append_left (List.getElem?_eq_some_iff.mp found).1, found]

/-- Objects that are added one after the other below one owner. -/
theorem Lists.foldl {α : Type} {step : Inventory → α → Inventory} {added : α → List Recorded}
    {items : List α} {parent : Nat} {owner : Recorded}
    (each : ∀ item ∈ items, ∀ {inventory : Inventory} {records : List Recorded},
      inventory.Lists records → records[parent]? = some owner →
        Distinct (records ++ added item) → (step inventory item).Lists (records ++ added item))
    (lists : inventory.Lists records) (found : records[parent]? = some owner)
    (distinct : Distinct (records ++ items.flatMap added)) :
    (items.foldl step inventory).Lists (records ++ items.flatMap added) := by
  induction items generalizing inventory records with
  | nil => simpa using lists
  | cons item rest ih =>
    rw [List.flatMap_cons, ← List.append_assoc] at distinct ⊢
    obtain ⟨each, later⟩ := List.forall_mem_cons.mp each
    exact ih later (each lists found distinct.of_append) (getElem?_append_of_eq_some found _)
      distinct

end Inventory

namespace PrivilegeTree

def record (tree : PrivilegeTree) (address user : String) (node : Node) : Recorded :=
  ⟨node.level, tree.resource address user node, tree.held node⟩

def recordsIn (tree : PrivilegeTree) (address user database : String) (parts : List Part) :
    List Recorded :=
  parts.map fun part => tree.record address user (.within database part)

variable {tree : PrivilegeTree} {address user : String} {node : Node} {entry : Entry}

private theorem draft_of_get? (found : tree.get? node = some entry) :
    tree.draft address user node =
      ⟨node.name address, node.fullName address, node.level.name,
        NameMap.ofList (node.facts user entry.traits)⟩ := by
  simp [draft, traits?, found]

private theorem held_of_get? (found : tree.get? node = some entry) : tree.held node = entry.privileges := by
  simp [held, found]

theorem Keyed.name_eq (keyed : tree.Keyed) {database : String} {part : Part}
    (found : tree.get? (.within database part) = some entry) :
    entry.traits.name = part.name database :=
  (keyed database part entry.traits (by simp [traits?, found])).1

theorem Keyed.kind_eq (keyed : tree.Keyed) {database : String} {part : Part}
    (found : tree.get? (.within database part) = some entry) : entry.traits.kind = part.kind? :=
  (keyed database part entry.traits (by simp [traits?, found])).2

end PrivilegeTree

namespace Inventory

variable {inventory : Inventory} {records : List Recorded}
variable {tree : PrivilegeTree} {address user : String}

theorem Lists.addNode (lists : inventory.Lists records) {node owner : Node} {entry : Entry}
    (present : tree.get? node = some entry) (below : node.owners = owner :: owner.owners)
    {parent : Nat} (found : records[parent]? = some (tree.record address user owner))
    (distinct : Distinct (records ++ [tree.record address user node])) :
    (inventory.add node.level (some parent)
        ⟨node.name address, node.fullName address, node.level.name,
          NameMap.ofList (node.facts user entry.traits)⟩ entry.privileges).1 = records.length ∧
      (inventory.add node.level (some parent)
        ⟨node.name address, node.fullName address, node.level.name,
          NameMap.ofList (node.facts user entry.traits)⟩ entry.privileges).2.Lists
        (records ++ [tree.record address user node]) := by
  rw [← PrivilegeTree.draft_of_get? present, ← PrivilegeTree.held_of_get? present]
  apply lists.add
  · simp [found, PrivilegeTree.record, PrivilegeTree.resource, Resource.place, below]
  · exact distinct

theorem Lists.addColumn (keyed : tree.Keyed) {database table name : String} {column : Column}
    (present : tree.get? (.within database (.column table name)) = some column.entry)
    (lists : inventory.Lists records) {parent : Nat}
    (found : records[parent]? = some (tree.record address user (.within database (.table table))))
    (distinct : Distinct
      (records ++ [tree.record address user (.within database (.column table name))])) :
    (inventory.addColumn parent ((Node.within database (.table table)).fullName address)
        column).Lists
      (records ++ [tree.record address user (.within database (.column table name))]) := by
  have named : column.name = name := keyed.name_eq present
  subst named
  exact (lists.addNode present rfl found distinct).2

theorem Lists.addRoutine (keyed : tree.Keyed) {database name : String} {kind : RoutineKind}
    {routine : Routine}
    (present : tree.get? (.within database (.routine kind name)) = some routine.entry)
    (lists : inventory.Lists records) {parent : Nat}
    (found : records[parent]? = some (tree.record address user (.within database .itself)))
    (distinct : Distinct
      (records ++ [tree.record address user (.within database (.routine kind name))])) :
    (inventory.addRoutine parent ((Node.within database .itself).fullName address) routine).Lists
      (records ++ [tree.record address user (.within database (.routine kind name))]) := by
  have named : routine.name = name := keyed.name_eq present
  have same : routine.kind = kind := Option.some.inj (keyed.kind_eq present)
  subst named same
  exact (lists.addNode present rfl found distinct).2

theorem addTable_eq (parent : Nat) (database user : String) (table : Table) :
    inventory.addTable parent ((Node.within database .itself).fullName address) table =
      let node := Node.within database (.table table.name)
      let added := inventory.add node.level (some parent)
        ⟨node.name address, node.fullName address, node.level.name,
          NameMap.ofList (node.facts user table.entry.traits)⟩ table.entry.privileges
      table.columns.toList.foldl
        (fun inventory entry => inventory.addColumn added.1 (node.fullName address) entry.2)
        added.2 := by
  simp only [Inventory.addTable, NameMap.values, List.foldl_map]
  obtain ⟨name, bytes, _, _, _⟩ := table
  cases bytes <;> rfl

theorem Lists.addTable (keyed : tree.Keyed) {database name : String} {table : Table}
    (present : tree.get? (.within database (.table name)) = some table.entry)
    (columns : ∀ column found, table.columns.get? column = some found →
      tree.get? (.within database (.column name column)) = some found.entry)
    (lists : inventory.Lists records) {parent : Nat}
    (found : records[parent]? = some (tree.record address user (.within database .itself)))
    (distinct : Distinct (records ++
      tree.recordsIn address user database (table.parts name))) :
    (inventory.addTable parent ((Node.within database .itself).fullName address) table).Lists
      (records ++ tree.recordsIn address user database (table.parts name)) := by
  have named : table.name = name := keyed.name_eq present
  subst named
  let own := tree.record address user (.within database (.table table.name))
  have spread : tree.recordsIn address user database (table.parts table.name) =
      [own] ++ table.columns.toList.flatMap fun entry =>
        [tree.record address user (.within database (.column table.name entry.1))] := by
    simp [own, PrivilegeTree.recordsIn, Table.parts, NameMap.names, NameMap.toList,
      ← List.map_eq_flatMap, Function.comp_def]
  rw [spread, ← List.append_assoc] at distinct ⊢
  rw [addTable_eq parent database user]
  obtain ⟨last, added⟩ := lists.addNode present rfl found distinct.of_append
  have behind : (records ++ [own])[records.length]? = some own := List.getElem?_concat_length
  dsimp only
  rw [last]
  refine added.foldl ?_ behind distinct
  intro entry member inventory records lists found distinct
  exact lists.addColumn keyed (columns entry.1 entry.2 (NameMap.mem_toList.mp member)) found
    distinct

private theorem Lists.addTables (keyed : tree.Keyed) {database : String} {tables : NameMap Table}
    (present : ∀ name table, tables.get? name = some table →
      tree.get? (.within database (.table name)) = some table.entry ∧
      ∀ column found, table.columns.get? column = some found →
        tree.get? (.within database (.column name column)) = some found.entry)
    (lists : inventory.Lists records) {parent : Nat}
    (found : records[parent]? = some (tree.record address user (.within database .itself)))
    (distinct : Distinct (records ++ tree.recordsIn address user database
      (tables.toList.flatMap fun entry => entry.2.parts entry.1))) :
    (tables.values.foldl
      (Inventory.addTable parent ((Node.within database .itself).fullName address))
      inventory).Lists
      (records ++ tree.recordsIn address user database
        (tables.toList.flatMap fun entry => entry.2.parts entry.1)) := by
  rw [PrivilegeTree.recordsIn, List.map_flatMap] at distinct ⊢
  rw [NameMap.values, List.foldl_map]
  refine lists.foldl ?_ found distinct
  intro entry member inventory records lists found distinct
  obtain ⟨itself, columns⟩ := present entry.1 entry.2 (NameMap.mem_toList.mp member)
  exact lists.addTable keyed itself columns found distinct

private theorem Lists.addRoutines (keyed : tree.Keyed) {database : String} {kind : RoutineKind}
    {routines : NameMap Routine}
    (present : ∀ name found, routines.get? name = some found →
      tree.get? (.within database (.routine kind name)) = some found.entry)
    (lists : inventory.Lists records) {parent : Nat}
    (found : records[parent]? = some (tree.record address user (.within database .itself)))
    (distinct : Distinct (records ++
      tree.recordsIn address user database (routines.names.map (.routine kind)))) :
    (routines.values.foldl
      (Inventory.addRoutine parent ((Node.within database .itself).fullName address))
      inventory).Lists
      (records ++ tree.recordsIn address user database (routines.names.map (.routine kind))) := by
  have spread : tree.recordsIn address user database (routines.names.map (.routine kind)) =
      routines.toList.flatMap fun entry =>
        [tree.record address user (.within database (.routine kind entry.1))] := by
    simp [PrivilegeTree.recordsIn, NameMap.names, NameMap.toList, ← List.map_eq_flatMap,
      Function.comp_def]
  rw [spread] at distinct ⊢
  rw [NameMap.values, List.foldl_map]
  refine lists.foldl ?_ found distinct
  intro entry member inventory records lists found distinct
  exact lists.addRoutine keyed (present entry.1 entry.2 (NameMap.mem_toList.mp member)) found
    distinct

theorem addDatabase_eq (parent : Nat) (user : String) (database : Database) :
    inventory.addDatabase parent (Node.server.fullName address) database =
      let node := Node.within database.name .itself
      let added := inventory.add node.level (some parent)
        ⟨node.name address, node.fullName address, node.level.name,
          NameMap.ofList (node.facts user database.entry.traits)⟩ database.entry.privileges
      let path := node.fullName address
      let withTables := database.tables.values.foldl (addTable added.1 path) added.2
      let withProcedures :=
        (database.routines .procedure).values.foldl (addRoutine added.1 path) withTables
      (database.routines .function).values.foldl (addRoutine added.1 path) withProcedures := rfl

theorem Lists.addDatabase (keyed : tree.Keyed) {name : String} {database : Database}
    (present : ∀ part, tree.get? (.within name part) = database.get? part)
    (lists : inventory.Lists records) {parent : Nat}
    (found : records[parent]? = some (tree.record address user .server))
    (distinct : Distinct (records ++ tree.recordsIn address user name database.parts)) :
    (inventory.addDatabase parent (Node.server.fullName address) database).Lists
      (records ++ tree.recordsIn address user name database.parts) := by
  have itself : tree.get? (.within name .itself) = some database.entry := present .itself
  have named : database.name = name := keyed.name_eq itself
  subst named
  let own := tree.record address user (.within database.name .itself)
  have spread : tree.recordsIn address user database.name database.parts =
      [own] ++ tree.recordsIn address user database.name
          (database.tables.toList.flatMap fun entry => entry.2.parts entry.1) ++
        tree.recordsIn address user database.name
          ((database.routines .procedure).names.map (.routine .procedure)) ++
        tree.recordsIn address user database.name
          ((database.routines .function).names.map (.routine .function)) := by
    simp [own, PrivilegeTree.recordsIn, Database.parts]
  have routine (kind : RoutineKind) (name : String) (routine : Routine)
      (found : (database.routines kind).get? name = some routine) :
      tree.get? (.within database.name (.routine kind name)) = some routine.entry := by
    rw [present, Database.get?, found, Option.map_some]
  have behind : (records ++ [own])[records.length]? = some own := List.getElem?_concat_length
  rw [spread] at distinct ⊢
  simp only [← List.append_assoc] at distinct ⊢
  rw [addDatabase_eq parent user]
  obtain ⟨last, added⟩ :=
    lists.addNode itself rfl found distinct.of_append.of_append.of_append
  dsimp only
  rw [last]
  have tables := added.addTables keyed ?_ behind distinct.of_append.of_append
  · have procedures := tables.addRoutines keyed (routine .procedure)
      (getElem?_append_of_eq_some behind _) distinct.of_append
    exact procedures.addRoutines keyed (routine .function)
      (getElem?_append_of_eq_some (getElem?_append_of_eq_some behind _) _) distinct
  · intro name table found
    refine ⟨by rw [present, Database.get?, found, Option.map_some], ?_⟩
    intro column inside seen
    rw [present, Database.get?, found, Option.bind_some, seen, Option.map_some]

theorem ofTree_eq (tree : PrivilegeTree) (address user : String) :
    ofTree tree address user =
      let added := ({} : Inventory).add .server none (tree.draft address user .server) tree.server
      tree.databases.values.foldl (addDatabase added.1 (Node.server.fullName address))
        added.2 := rfl

/-- The inventory of a tree records its nodes, in order. -/
theorem lists_ofTree (keyed : tree.Keyed)
    (distinct : Distinct (tree.nodes.map (tree.record address user))) :
    (ofTree tree address user).Lists (tree.nodes.map (tree.record address user)) := by
  let own := tree.record address user .server
  have spread : tree.nodes.map (tree.record address user) =
      [] ++ [own] ++ tree.databases.toList.flatMap fun entry =>
        tree.recordsIn address user entry.1 entry.2.parts := by
    simp [own, PrivilegeTree.nodes, PrivilegeTree.recordsIn, List.map_flatMap, Function.comp_def]
  rw [spread] at distinct ⊢
  obtain ⟨last, added⟩ := lists_empty.add .server none (tree.draft address user .server)
    tree.server (tree.resource address user .server) rfl distinct.of_append
  -- The server has the first id, and every database is added below it.
  have behind : ([] ++ [own])[0]? = some own := rfl
  rw [ofTree_eq, NameMap.values, List.foldl_map, last]
  refine added.foldl ?_ behind distinct
  intro entry member inventory records lists found distinct
  refine lists.addDatabase keyed ?_ found distinct
  intro part
  rw [PrivilegeTree.get?, NameMap.mem_toList.mp member, Option.bind_some]

end Inventory

end CredentialReach.Mysql
