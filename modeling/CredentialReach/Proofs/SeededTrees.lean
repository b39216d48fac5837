import Mathlib.Data.List.Induction
import CredentialReach.Proofs.Placeholders
import CredentialReach.Proofs.PrivilegeLevels

/-! What a schema leaves in a tree. An entry of a database brings all its tables and routines with it.
Of several entries for one database the last one stands, and what only the others list is lost. What
is there is no placeholder, stays so whatever statements follow, and holds nothing before them. -/

namespace CredentialReach

/-- A map made of a list has the last entry of each name. -/
theorem NameMap.get?_ofList {α : Type} (entries : List (String × α)) (name : String) :
    (ofList entries).get? name = (entries.filter (·.1 = name)).getLast?.map (·.2) := by
  induction entries using List.reverseRecOn with
  | nil => rfl
  | append_singleton entries entry ih =>
    rw [get?_ofList_append, List.filter_append]
    by_cases same : entry.1 = name
    · rw [if_pos same.symm, List.filter_cons_of_pos (by simpa using same), List.filter_nil,
        List.getLast?_concat, Option.map_some]
    · rw [if_neg (Ne.symm same), List.filter_cons_of_neg (by simpa using same), List.filter_nil,
        List.append_nil, ih]

namespace Mysql

/-- The objects that an entry of a schema speaks of. -/
inductive SchemaDatabase.Lists (schema : SchemaDatabase) : Part → Prop
  | itself : Lists schema .itself
  | table (table : SchemaTable) (listed : table ∈ schema.tables) : Lists schema (.table table.name)
  | routine (routine : SchemaRoutine) (listed : routine ∈ schema.routines) :
      Lists schema (.routine routine.kind routine.name)

namespace Snapshot

variable {snapshot : Snapshot} {schema : SchemaDatabase} {name : String}

def Lists (snapshot : Snapshot) : Node → Prop
  | .server => False
  | .within database part => ∃ schema ∈ snapshot.databases, schema.name = database ∧ schema.Lists part

def last? (snapshot : Snapshot) (name : String) : Option SchemaDatabase :=
  (snapshot.databases.filter (·.name = name)).getLast?

def ListsLast (snapshot : Snapshot) : Node → Prop
  | .server => False
  | .within database part => ∃ schema, snapshot.last? database = some schema ∧ schema.Lists part

theorem mem_of_last? (last : snapshot.last? name = some schema) :
    schema ∈ snapshot.databases ∧ schema.name = name := by
  simpa using List.mem_filter.mp (List.mem_of_getLast? last)

private theorem exists_last? (listed : schema ∈ snapshot.databases) :
    ∃ last, snapshot.last? schema.name = some last := by
  have some : snapshot.databases.filter (·.name = schema.name) ≠ [] :=
    List.ne_nil_of_mem (List.mem_filter.mpr ⟨listed, by simp⟩)
  exact ⟨_, List.getLast?_eq_some_getLast some⟩

theorem ListsLast.lists {node : Node} (lists : snapshot.ListsLast node) : snapshot.Lists node := by
  cases node with
  | server => exact lists
  | within database part =>
    obtain ⟨schema, last, lists⟩ := lists
    exact ⟨schema, (mem_of_last? last).1, (mem_of_last? last).2, lists⟩

end Snapshot

namespace Database

private theorem isSome_tables_addTables (tables : List SchemaTable) (database : Database) (name : String) :
    ((tables.foldl (fun database table => database.addTable table.name table.bytes) database).tables.get?
      name).isSome ↔ (∃ table ∈ tables, table.name = name) ∨ (database.tables.get? name).isSome := by
  induction tables generalizing database with
  | nil => simp
  | cons table rest ih =>
    rw [List.foldl_cons, ih, addTable, NameMap.get?_insert]
    by_cases same : name = table.name
    · simp [same]
    · simp [same, Ne.symm same]

private theorem routines_addTables (tables : List SchemaTable) (database : Database) :
    (tables.foldl (fun database table => database.addTable table.name table.bytes) database).routines =
      database.routines := by
  induction tables generalizing database with
  | nil => rfl
  | cons table rest ih =>
    rw [List.foldl_cons, ih]
    funext kind
    cases kind <;> rfl

private theorem isSome_routines_addRoutines (routines : List SchemaRoutine) (database : Database)
    (kind : RoutineKind) (name : String) :
    (((routines.foldl (fun database routine => database.addRoutine routine.name routine.kind)
      database).routines kind).get? name).isSome ↔
        (∃ routine ∈ routines, routine.kind = kind ∧ routine.name = name) ∨
          ((database.routines kind).get? name).isSome := by
  induction routines generalizing database with
  | nil => simp
  | cons routine rest ih =>
    rw [List.foldl_cons, ih, addRoutine, routines_withRoutines]
    by_cases sameKind : kind = routine.kind
    · subst sameKind
      rw [if_pos rfl, NameMap.get?_insert]
      by_cases same : name = routine.name
      · simp [same]
      · simp [same, Ne.symm same]
    · simp [sameKind, Ne.symm sameKind]

private theorem tables_addRoutines (routines : List SchemaRoutine) (database : Database) :
    (routines.foldl (fun database routine => database.addRoutine routine.name routine.kind)
      database).tables = database.tables := by
  induction routines generalizing database with
  | nil => rfl
  | cons routine rest ih => rw [List.foldl_cons, ih, addRoutine, tables_withRoutines]

/-- An entry of a schema becomes a database with exactly the objects that it lists. -/
theorem isSome_get?_ofSchema {schema : SchemaDatabase} {part : Part} :
    ((ofSchema schema).get? part).isSome ↔ schema.Lists part := by
  cases part with
  | itself => exact iff_of_true rfl .itself
  | table name =>
    rw [get?, Option.isSome_map, ofSchema, tables_addRoutines, isSome_tables_addTables]
    constructor
    · rintro (⟨table, listed, rfl⟩ | nothing)
      · exact .table table listed
      · cases nothing
    · rintro ⟨⟩
      exact .inl ⟨_, ‹_›, rfl⟩
  | column table name =>
    constructor
    · intro present
      obtain ⟨entry, found⟩ := Option.isSome_iff_exists.mp present
      cases fromSchema_ofSchema schema _ entry found
    · intro lists
      cases lists
  | routine kind name =>
    rw [get?, Option.isSome_map, ofSchema, isSome_routines_addRoutines, routines_addTables]
    constructor
    · rintro (⟨routine, listed, rfl, rfl⟩ | nothing)
      · exact .routine routine listed
      · cases kind <;> cases nothing
    · rintro ⟨⟩
      exact .inl ⟨_, ‹_›, rfl, rfl⟩

end Database

namespace PrivilegeTree

variable {snapshot : Snapshot} {node : Node} {traits : Traits}

private theorem get?_databases_ofSnapshot (snapshot : Snapshot) (name : String) :
    (ofSnapshot snapshot).databases.get? name = (snapshot.last? name).map Database.ofSchema := by
  rw [ofSnapshot, NameMap.get?_ofList, List.filter_map, List.getLast?_map, Option.map_map]
  rfl

theorem isSome_traits?_ofSnapshot :
    ((ofSnapshot snapshot).traits? node).isSome ↔ node = .server ∨ snapshot.ListsLast node := by
  cases node with
  | server => exact iff_of_true rfl (.inl rfl)
  | within name part =>
    rw [traits?, Option.isSome_map, get?, get?_databases_ofSnapshot]
    simp only [reduceCtorEq, false_or, Snapshot.ListsLast, ← Database.isSome_get?_ofSchema]
    cases snapshot.last? name <;> simp

private theorem bare_ofSnapshot (present : (ofSnapshot snapshot).traits? node = some traits) :
    traits.placeholder = false := by
  cases node with
  | server =>
    cases present
    rfl
  | within database part =>
    obtain ⟨entry, found, rfl⟩ := Option.map_eq_some_iff.mp present
    cases schemaEntry_of_get? found <;> rfl

/-- No entry is followed by one for the same database that leaves out what it lists. -/
theorem ofSnapshot_complete_iff :
    (∀ node, snapshot.Lists node → ((ofSnapshot snapshot).traits? node).isSome) ↔
      ∀ schema ∈ snapshot.databases, ∀ last, snapshot.last? schema.name = some last →
        ∀ part, schema.Lists part → last.Lists part := by
  simp only [isSome_traits?_ofSnapshot]
  constructor
  · intro complete schema listed last stands part lists
    have here : snapshot.Lists (.within schema.name part) := ⟨schema, listed, rfl, lists⟩
    obtain ⟨other, found, listsLast⟩ := (complete _ here).resolve_left nofun
    rw [stands] at found
    cases found
    exact listsLast
  · intro kept node lists
    cases node with
    | server => cases lists
    | within database part =>
      obtain ⟨schema, listed, rfl, lists⟩ := lists
      obtain ⟨last, stands⟩ := Snapshot.exists_last? listed
      exact .inr ⟨last, stands, kept schema listed last stands part lists⟩

/-- A tree made from a snapshot has every database that is listed, with all that the last entry for it
lists and nothing else. So every listed object is there exactly if no entry is followed by one for the
same database that leaves out what it lists. What is there stands under its own name and kind and is
no placeholder, nor does it become one when statements are processed; and nothing is held. -/
theorem ofSnapshot_seeds (snapshot : Snapshot) :
    let tree := ofSnapshot snapshot
    (∀ schema ∈ snapshot.databases, (tree.traits? (.within schema.name .itself)).isSome) ∧
      (∀ node, (tree.traits? node).isSome ↔ node = .server ∨ snapshot.ListsLast node) ∧
      (∀ node, (tree.traits? node).isSome → node = .server ∨ snapshot.Lists node) ∧
      ((∀ node, snapshot.Lists node → (tree.traits? node).isSome) ↔
        ∀ schema ∈ snapshot.databases, ∀ last, snapshot.last? schema.name = some last →
          ∀ part, schema.Lists part → last.Lists part) ∧
      tree.Keyed ∧ (∀ node, tree.held node = ∅) ∧
      ∀ node traits, tree.traits? node = some traits → traits.placeholder = false ∧
        ∀ texts, (tree.process texts).tree.traits? node = some traits := by
  intro tree
  refine ⟨fun schema listed => ?_, fun node => isSome_traits?_ofSnapshot, fun node present => ?_,
    ofSnapshot_complete_iff, keyed_ofSnapshot snapshot, held_ofSnapshot snapshot,
    fun node traits present => ⟨bare_ofSnapshot present, fun texts => ?_⟩⟩
  · obtain ⟨last, stands⟩ := Snapshot.exists_last? listed
    exact isSome_traits?_ofSnapshot.mpr (.inr ⟨last, stands, .itself⟩)
  · exact (isSome_traits?_ofSnapshot.mp present).imp_right Snapshot.ListsLast.lists
  · rw [process_eq]
    exact traits?_run_of_some present _

/-- A table of the first of two entries is not in the tree, and a grant on it finds it missing. -/
theorem ofSnapshot_loses_table :
    let snapshot : Snapshot :=
      { databases := [⟨"shop", [⟨"orders", none⟩], []⟩, ⟨"shop", [⟨"customers", none⟩], []⟩] }
    let orders := Node.within "shop" (.table "orders")
    let tree := ofSnapshot snapshot
    let text := "GRANT SELECT ON `shop`.`orders` TO `app`@`%`"
    snapshot.Lists orders ∧ tree.traits? orders = none ∧
      (tree.process [text]).tree.traits? orders = some { name := "orders", placeholder := true } := by
  intro snapshot orders tree text
  have first : snapshot.Lists orders :=
    ⟨_, List.mem_cons_self, rfl, .table ⟨"orders", none⟩ List.mem_cons_self⟩
  exact ⟨first, by decide, by decide⟩

end PrivilegeTree

end Mysql

end CredentialReach
