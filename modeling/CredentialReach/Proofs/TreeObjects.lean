import Mathlib.Data.List.Nodup
import CredentialReach.Proofs.Placeholders
import CredentialReach.Resource.Graph

/-! The objects of a tree as resources. The nodes are listed in order of
discovery, each once; a node is a resource below its owners, and tells of the
traits that the tree records of it. -/

namespace CredentialReach.Mysql

def Table.parts (table : Table) (name : String) : List Part :=
  .table name :: table.columns.names.map (.column name)

namespace Database

/-- The parts of a database: itself first, and a table before its columns. -/
def parts (database : Database) : List Part :=
  .itself :: (database.tables.toList.flatMap fun entry => entry.2.parts entry.1) ++
    [RoutineKind.procedure, .function].flatMap fun kind =>
      (database.routines kind).names.map (.routine kind)

private theorem mem_parts {database : Database} {part : Part} :
    part ∈ database.parts ↔ (database.get? part).isSome = true := by
  cases part with
  | itself => simp [parts, get?]
  | table name =>
    simp [parts, Table.parts, get?, ← NameMap.mem_names, NameMap.names, NameMap.toList]
  | column table name =>
    simp [parts, Table.parts, get?, ← NameMap.mem_names, Option.isSome_bind, Option.any_eq_true]
  | routine kind name =>
    cases kind <;> simp [parts, Table.parts, get?, NameMap.mem_names]

private theorem nodup_parts (database : Database) : database.parts.Nodup := by
  have tables : (database.tables.toList.flatMap fun entry => entry.2.parts entry.1).Nodup := by
    refine List.nodup_flatMap.mpr ⟨?_, database.tables.names_apart.imp ?_⟩
    · intro entry _
      refine List.nodup_cons.mpr ⟨by simp, entry.2.columns.nodup_names.map ?_⟩
      exact fun _ _ same => (Part.column.inj same).2
    · intro a b apart part first second
      simp only [Table.parts, List.mem_cons, List.mem_map] at first second
      grind
  have routines : ([RoutineKind.procedure, .function].flatMap fun kind =>
      (database.routines kind).names.map (Part.routine kind)).Nodup := by
    refine List.nodup_flatMap.mpr ⟨?_, ?_⟩
    · intro kind _
      exact (database.routines kind).nodup_names.map fun _ _ same => (Part.routine.inj same).2
    · simp [Function.onFun, List.Disjoint]
  unfold parts
  rw [List.cons_append, List.nodup_cons, List.nodup_append]
  refine ⟨by simp [Table.parts], tables, routines, ?_⟩
  intro part first other second same
  simp only [Table.parts, List.mem_flatMap, List.mem_cons, List.mem_map] at first second
  grind

end Database

namespace PrivilegeTree

def nodes (tree : PrivilegeTree) : List Node :=
  .server :: tree.databases.toList.flatMap fun entry => entry.2.parts.map (.within entry.1)

theorem mem_nodes {tree : PrivilegeTree} {node : Node} :
    node ∈ tree.nodes ↔ (tree.get? node).isSome = true := by
  cases node with
  | server => simp [nodes, get?]
  | within database part =>
    simp [nodes, get?, Database.mem_parts, Option.isSome_bind, Option.any_eq_true]

theorem nodup_nodes (tree : PrivilegeTree) : tree.nodes.Nodup := by
  refine List.nodup_cons.mpr ⟨by simp, ?_⟩
  refine List.nodup_flatMap.mpr ⟨?_, tree.databases.names_apart.imp ?_⟩
  · intro entry _
    exact entry.2.nodup_parts.map fun _ _ same => (Node.within.inj same).2
  · intro a b apart node first second
    simp only [List.mem_map] at first second
    grind

end PrivilegeTree

namespace Node

def owners : Node → List Node
  | .server => []
  | .within _ .itself => [.server]
  | .within database (.column table _) =>
    [.within database (.table table), .within database .itself, .server]
  | .within database (.table _) | .within database (.routine ..) =>
    [.within database .itself, .server]

def name (address : String) : Node → String
  | .server => address
  | .within database part => part.name database

def fullName (address : String) : Node → String
  | .server => s!"server/{address}"
  | .within database .itself => s!"server/{address}/database/{database}"
  | .within database (.table name) => s!"server/{address}/database/{database}/table/{name}"
  | .within database (.column table name) =>
    s!"server/{address}/database/{database}/table/{table}/column/{name}"
  | .within database (.routine kind name) =>
    s!"server/{address}/database/{database}/{kind.name}/{name}"

def facts (user : String) (traits : Traits) : Node → List (String × Json)
  | .server => [("user", .string user)]
  | .within _ .itself =>
    [("default", .bool traits.builtin), ("nonexistent", .bool traits.placeholder)]
  | .within _ (.table _) =>
    (traits.bytes.map fun bytes => ("bytes", Json.ofNat bytes)).toList ++
      [("nonexistent", .bool traits.placeholder)]
  | .within _ (.column ..) => []
  | .within _ (.routine kind _) =>
    [("kind", .string kind.name), ("nonexistent", .bool traits.placeholder)]

end Node

namespace PrivilegeTree

theorem owner_mem_nodes {tree : PrivilegeTree} {node owner : Node} (member : node ∈ tree.nodes)
    (above : owner ∈ node.owners) : owner ∈ tree.nodes := by
  rw [mem_nodes] at member ⊢
  cases node with
  | server => cases above
  | within database part =>
    obtain ⟨entry, found⟩ := Option.isSome_iff_exists.mp member
    obtain ⟨inside, present, found⟩ := Option.bind_eq_some_iff.mp found
    have itself : (tree.get? (.within database .itself)).isSome = true := by
      rw [get?, present]
      rfl
    cases part with
    | itself =>
      obtain rfl := List.mem_singleton.mp above
      rfl
    | table | routine =>
      rcases List.mem_pair.mp above with rfl | rfl
      · exact itself
      · rfl
    | column table name =>
      -- The column was found in its table.
      obtain ⟨holder, known, _⟩ := Option.bind_eq_some_iff.mp found
      rcases List.mem_cons.mp above with rfl | further
      · rw [get?, present, Option.bind_some, Database.get?, known]
        rfl
      · rcases List.mem_pair.mp further with rfl | rfl
        · exact itself
        · rfl

def draft (tree : PrivilegeTree) (address user : String) (node : Node) : Draft where
  name := node.name address
  fullName := node.fullName address
  type := node.level.name
  metadata := NameMap.ofList (node.facts user ((tree.traits? node).getD {}))

def resource (tree : PrivilegeTree) (address user : String) (node : Node) : Resource where
  toDraft := tree.draft address user node
  owners := node.owners.map (tree.draft address user)

def NamedApart (tree : PrivilegeTree) (address : String) : Prop :=
  ∀ a ∈ tree.nodes, ∀ b ∈ tree.nodes, a.fullName address = b.fullName address → a = b

instance (tree : PrivilegeTree) (address : String) : Decidable (tree.NamedApart address) :=
  inferInstanceAs (Decidable
    (∀ a ∈ tree.nodes, ∀ b ∈ tree.nodes, a.fullName address = b.fullName address → a = b))

end PrivilegeTree

end CredentialReach.Mysql
