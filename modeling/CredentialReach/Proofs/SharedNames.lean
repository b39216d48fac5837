import Mathlib.Data.List.Dedup
import CredentialReach.Proofs.FullNames
import CredentialReach.Proofs.TreeReport

/-! Objects that share a full name. The graph keeps one resource for each full name,
whatever the tree, so that a report counts names and not objects. It has a resource for
every object exactly when no two objects share a name. -/

namespace CredentialReach

namespace ResourceGraph

/-- The full names of the graph are these ones, each taken once. -/
structure Shows (graph : ResourceGraph) (names : List String) : Prop where
  listed : ∀ name, name ∈ graph.fullNames ↔ name ∈ names
  once : graph.fullNames.Nodup

private theorem shows_empty : ({} : ResourceGraph).Shows [] := ⟨fun _ => Iff.rfl, List.nodup_nil⟩

theorem Shows.insert {graph : ResourceGraph} {names : List String} (shows : graph.Shows names)
    (parent? : Option Nat) (draft : Draft) :
    (graph.insert parent? draft).graph.Shows (names ++ [draft.fullName]) := by
  unfold ResourceGraph.insert
  cases known : graph.idOf? draft.fullName with
  | some id =>
    have taken : draft.fullName ∈ names := by
      rw [← shows.listed, mem_fullNames_iff, known]
      rfl
    refine ⟨fun name => ?_, shows.once⟩
    rw [List.mem_append, List.mem_singleton, shows.listed]
    constructor
    · exact .inl
    · rintro (listed | rfl)
      · exact listed
      · exact taken
  | none =>
    have grown : fullNames ⟨graph.nodes ++ [⟨draft, parent?⟩]⟩ = graph.fullNames ++ [draft.fullName] :=
      List.map_append ..
    refine ⟨?_, ?_⟩
    · intro name
      rw [grown, List.mem_append, List.mem_append, shows.listed]
    · rw [grown]
      exact nodup_fullNames_of_new shows.once known

theorem Shows.size {graph : ResourceGraph} {names : List String} (shows : graph.Shows names) :
    graph.size = names.dedup.length := by
  have same : graph.fullNames.Perm names.dedup := by
    refine (List.perm_ext_iff_of_nodup shows.once names.nodup_dedup).mpr fun name => ?_
    rw [shows.listed, List.mem_dedup]
  rw [← same.length_eq, fullNames, List.length_map, ResourceGraph.size]

end ResourceGraph

namespace AnalysisResult

/-- Where nothing is held, nothing is bound. -/
theorem bindings_aggregate_eq_nil {graph : ResourceGraph} {table : PermissionTable}
    {grants : Grants} (kind : AnalyzerKind) (metadata : NameMap Json)
    (silent : (holdings graph table grants).flatMap Holding.bindings = []) :
    (aggregate kind graph table grants metadata).bindings = [] := by
  have sorted := List.mergeSort_perm (holdings graph table grants) byFullName
  exact (silent ▸ sorted.flatMap_right Holding.bindings).eq_nil

end AnalysisResult

namespace Mysql

namespace Inventory

variable {inventory : Inventory} {names : List String} {tree : PrivilegeTree}
variable {address database : String}

theorem shows_add (shows : inventory.graph.Shows names) (level : Level) (parent : Option Nat)
    (draft : Draft) (held : NameSet) :
    (inventory.add level parent draft held).2.graph.Shows (names ++ [draft.fullName]) :=
  shows.insert parent draft

/-- Additions one after the other. -/
theorem shows_foldl {α : Type} {step : Inventory → α → Inventory} {added : α → List String}
    {items : List α}
    (each : ∀ item ∈ items, ∀ {inventory : Inventory} {names : List String},
      inventory.graph.Shows names → (step inventory item).graph.Shows (names ++ added item))
    (shows : inventory.graph.Shows names) :
    (items.foldl step inventory).graph.Shows (names ++ items.flatMap added) := by
  induction items generalizing inventory names with
  | nil => simpa using shows
  | cons item rest ih =>
    obtain ⟨first, later⟩ := List.forall_mem_cons.mp each
    rw [List.flatMap_cons, ← List.append_assoc]
    exact ih later (first shows)

def namesIn (address database : String) (parts : List Part) : List String :=
  parts.map fun part => (Node.within database part).fullName address

private theorem shows_addTable (keyed : tree.Keyed) {name : String} {table : Table}
    (present : tree.get? (.within database (.table name)) = some table.entry)
    (columns : ∀ column found, table.columns.get? column = some found →
      tree.get? (.within database (.column name column)) = some found.entry)
    (shows : inventory.graph.Shows names) (parent : Nat) :
    (inventory.addTable parent ((Node.within database .itself).fullName address) table).graph.Shows
      (names ++ namesIn address database (table.parts name)) := by
  have named : table.name = name := keyed.name_eq present
  subst named
  have spread : namesIn address database (table.parts table.name) =
      [(Node.within database (.table table.name)).fullName address] ++
        table.columns.toList.flatMap fun entry =>
          [(Node.within database (.column table.name entry.1)).fullName address] := by
    simp [namesIn, Table.parts, NameMap.names, NameMap.toList, ← List.map_eq_flatMap,
      Function.comp_def]
  rw [spread, ← List.append_assoc, addTable_eq parent database ""]
  refine shows_foldl ?_ (shows_add shows _ _ _ _)
  intro entry member inventory names shows
  have column : entry.2.name = entry.1 :=
    keyed.name_eq (columns entry.1 entry.2 (NameMap.mem_toList.mp member))
  rw [← column]
  exact shows_add shows _ _ _ _

private theorem shows_addRoutines (keyed : tree.Keyed) {kind : RoutineKind} {routines : NameMap Routine}
    (present : ∀ name found, routines.get? name = some found →
      tree.get? (.within database (.routine kind name)) = some found.entry)
    (shows : inventory.graph.Shows names) (parent : Nat) :
    (routines.values.foldl
      (Inventory.addRoutine parent ((Node.within database .itself).fullName address))
      inventory).graph.Shows (names ++ namesIn address database (routines.names.map (.routine kind))) := by
  have spread : namesIn address database (routines.names.map (.routine kind)) =
      routines.toList.flatMap fun entry =>
        [(Node.within database (.routine kind entry.1)).fullName address] := by
    simp [namesIn, NameMap.names, NameMap.toList, ← List.map_eq_flatMap, Function.comp_def]
  rw [spread, NameMap.values, List.foldl_map]
  refine shows_foldl ?_ shows
  intro entry member inventory names shows
  have found := present entry.1 entry.2 (NameMap.mem_toList.mp member)
  have named : entry.2.name = entry.1 := keyed.name_eq found
  have sort : entry.2.kind = kind := Option.some.inj (keyed.kind_eq found)
  rw [← named, ← sort]
  exact shows_add shows _ _ _ _

private theorem shows_addDatabase (keyed : tree.Keyed) {name : String} {database : Database}
    (present : ∀ part, tree.get? (.within name part) = database.get? part)
    (shows : inventory.graph.Shows names) (parent : Nat) :
    (inventory.addDatabase parent (Node.server.fullName address) database).graph.Shows
      (names ++ namesIn address name database.parts) := by
  have named : database.name = name := keyed.name_eq (present .itself)
  subst named
  have spread : namesIn address database.name database.parts =
      [(Node.within database.name .itself).fullName address] ++
        (database.tables.toList.flatMap fun entry =>
          namesIn address database.name (entry.2.parts entry.1)) ++
        namesIn address database.name
          ((database.routines .procedure).names.map (.routine .procedure)) ++
        namesIn address database.name
          ((database.routines .function).names.map (.routine .function)) := by
    simp [namesIn, Database.parts, List.map_flatMap]
  have routine (kind : RoutineKind) (name : String) (routine : Routine)
      (found : (database.routines kind).get? name = some routine) :
      tree.get? (.within database.name (.routine kind name)) = some routine.entry := by
    rw [present, Database.get?, found, Option.map_some]
  rw [spread, addDatabase_eq parent ""]
  simp only [← List.append_assoc]
  refine shows_addRoutines keyed (routine .function)
    (shows_addRoutines keyed (routine .procedure) ?_ _) _
  rw [NameMap.values, List.foldl_map]
  refine shows_foldl ?_ (shows_add shows _ _ _ _)
  intro entry member inventory names shows
  have found := NameMap.mem_toList.mp member
  refine shows_addTable keyed ?_ ?_ shows _
  · rw [present, Database.get?, found, Option.map_some]
  · intro column inside seen
    rw [present, Database.get?, found, Option.bind_some, seen, Option.map_some]

/-- The inventory of a tree has a resource for each full name of an object. -/
theorem shows_ofTree (keyed : tree.Keyed) (address user : String) :
    (ofTree tree address user).graph.Shows (tree.nodes.map (·.fullName address)) := by
  have spread : tree.nodes.map (·.fullName address) =
      [] ++ [Node.server.fullName address] ++ tree.databases.toList.flatMap fun entry =>
        namesIn address entry.1 entry.2.parts := by
    simp [PrivilegeTree.nodes, namesIn, List.map_flatMap, Function.comp_def]
  rw [spread, ofTree_eq, NameMap.values, List.foldl_map]
  refine shows_foldl ?_ (shows_add ResourceGraph.shows_empty _ _ _ _)
  intro entry member inventory names shows
  refine shows_addDatabase keyed ?_ shows _
  intro part
  rw [PrivilegeTree.get?, NameMap.mem_toList.mp member, Option.bind_some]

end Inventory

theorem Table.length_parts (table : Table) (name : String) :
    (table.parts name).length = 1 + table.columns.values.length := by
  simp [parts, NameMap.names, NameMap.values, Nat.add_comm]

namespace Database

def columns (database : Database) : List Column :=
  database.tables.values.flatMap (·.columns.values)

def allRoutines (database : Database) : List Routine :=
  (database.routines .procedure).values ++ (database.routines .function).values

theorem length_parts (database : Database) :
    database.parts.length = 1 + database.tables.values.length + database.columns.length +
      database.allRoutines.length := by
  have tables (entries : List (String × Table)) :
      (entries.flatMap fun entry => entry.2.parts entry.1).length =
        entries.length + ((entries.map (·.2)).flatMap (·.columns.values)).length := by
    induction entries with
    | nil => rfl
    | cons entry rest ih =>
      simp only [List.flatMap_cons, List.map_cons, List.length_append, List.length_cons, ih,
        Table.length_parts]
      omega
  simp [parts, tables, columns, allRoutines, NameMap.names, NameMap.values, NameMap.toList]
  omega

end Database

namespace PrivilegeTree

def tables (tree : PrivilegeTree) : List Table := tree.databases.values.flatMap (·.tables.values)

def columns (tree : PrivilegeTree) : List Column := tree.databases.values.flatMap (·.columns)

def routines (tree : PrivilegeTree) : List Routine :=
  tree.databases.values.flatMap (·.allRoutines)

private theorem length_nodes (tree : PrivilegeTree) :
    tree.nodes.length = 1 + tree.databases.values.length + tree.tables.length +
      tree.columns.length + tree.routines.length := by
  have databases (entries : List (String × Database)) :
      (entries.flatMap fun entry => entry.2.parts.map (Node.within entry.1)).length =
        entries.length + ((entries.map (·.2)).flatMap (·.tables.values)).length +
          ((entries.map (·.2)).flatMap (·.columns)).length +
          ((entries.map (·.2)).flatMap (·.allRoutines)).length := by
    induction entries with
    | nil => rfl
    | cons entry rest ih =>
      simp [Database.length_parts, ih]
      omega
  simp [nodes, databases, tables, columns, routines, NameMap.values, NameMap.toList]
  omega

variable {tree : PrivilegeTree} {address : String}

private theorem namedApart_iff_length_dedup :
    tree.NamedApart address ↔
      (tree.nodes.map (·.fullName address)).dedup.length = tree.nodes.length := by
  constructor
  · intro apart
    rw [apart.nodup.dedup, List.length_map]
  · intro counted
    have whole := (List.dedup_sublist (tree.nodes.map (·.fullName address))).eq_of_length
      (counted.trans (List.length_map ..).symm)
    have once : (tree.nodes.map (·.fullName address)).Nodup := List.dedup_eq_self.mp whole
    exact fun a member b other same => List.inj_on_of_nodup_map once member other same

/-- A report has as many resources as the objects have full names. -/
theorem resourceCount_toResult (keyed : tree.Keyed) (user : String) (metadata : NameMap Json) :
    (tree.toResult address user metadata).resourceCount =
      (tree.nodes.map (·.fullName address)).dedup.length := by
  have shows := Inventory.shows_ofTree keyed address user
  exact (AnalysisResult.resourceCount_aggregate shows.once _ _).trans shows.size

/-- Every object has a resource of its own exactly when no two have one full name, and
then each is reported with its own privileges. That is so, whatever the other names
hold, if no database and no table has a slash in its name. -/
theorem toResult_separates_objects (snapshot : Snapshot) (batches : List (List String))
    (address user : String) (metadata : NameMap Json) :
    let tree := (ofSnapshot snapshot).processAll batches
    let result := tree.toResult address user metadata
    (result.resourceCount = 1 + tree.databases.values.length + tree.tables.length +
        tree.columns.length + tree.routines.length ↔ tree.NamedApart address) ∧
      (tree.NamedApart address → ∀ node ∈ tree.nodes,
        result.permissionsOf (node.fullName address) =
          arranged node.level (tree.held node)) ∧
      (tree.Plain → tree.NamedApart address) := by
  intro tree result
  have keyed : tree.Keyed := (keyed_ofSnapshot snapshot).processAll batches
  refine ⟨?_, ?_, fun plain => plain.namedApart address⟩
  · rw [resourceCount_toResult keyed, ← length_nodes, namedApart_iff_length_dedup]
  · intro apart node member
    have tells : result.Tells (tree.nodes.map (tree.holding address user)) :=
      tells_toResult keyed apart (hasFullAccess_processAll snapshot batches) metadata
    have bound := tells.bound _ (List.mem_map_of_mem (f := tree.holding address user) member)
    have told := congrArg (List.map (·.permission.value)) bound
    refine told.trans ?_
    simp [Holding.bindings, holding, Function.comp_def]

/-- A table and a database share a full name, and the privilege on the table is lost to
the database, on which nothing is held. -/
theorem toResult_loses_privilege_to_namesake :
    let snapshot : Snapshot :=
      { databases := [⟨"a", [⟨"b", none⟩], []⟩, ⟨"a/table/b", [], []⟩] }
    let tree := (ofSnapshot snapshot).processAll [["GRANT SELECT ON `a`.`b` TO `app`@`%`"]]
    let result := tree.toResult "h:3306" "app" ∅
    let table := Node.within "a" (.table "b")
    table ∈ tree.nodes ∧ Node.within "a/table/b" .itself ∈ tree.nodes ∧
      table.fullName "h:3306" = (Node.within "a/table/b" .itself).fullName "h:3306" ∧
      tree.nodes.length = 4 ∧ result.resourceCount = 3 ∧
      "SELECT" ∈ tree.held table ∧ result.bindings = [] := by
  intro snapshot tree result table
  have keyed : tree.Keyed := (keyed_ofSnapshot snapshot).processAll _
  have counted : result.resourceCount = 3 :=
    (resourceCount_toResult keyed "app" ∅).trans (by decide +kernel)
  have unbound : result.bindings = [] :=
    AnalysisResult.bindings_aggregate_eq_nil _ _ (by decide +kernel)
  exact ⟨by decide +kernel, by decide +kernel, by decide +kernel, by decide +kernel, counted,
    by decide +kernel, unbound⟩

end PrivilegeTree

end Mysql

end CredentialReach
