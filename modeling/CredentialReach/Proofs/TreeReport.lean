import CredentialReach.Proofs.InventoryRecords
import CredentialReach.Proofs.PrivilegeNames
import CredentialReach.Proofs.ReportedHoldings

/-! The report on a tree. An object is bound to the privileges that are held on
it and to no others: names of its level pass through the table of permissions,
and nothing that other objects hold is added on the way. -/

namespace CredentialReach.Mysql

def others (level : Level) (held : NameSet) : List String :=
  held.toList.filter fun name => !(vocabulary level).contains name

/-- The held names, first those that the level knows in its own order. -/
def arranged (level : Level) (held : NameSet) : List String :=
  (vocabulary level).filter held.contains ++ others level held

variable {level : Level} {held : NameSet}

theorem mem_others {name : String} :
    name ∈ others level held ↔ name ∈ held ∧ name ∉ vocabulary level := by
  simp [others]

private theorem ascending_others (level : Level) (held : NameSet) :
    (others level held).Pairwise (· < ·) := held.ascending.filter _

theorem mem_arranged {name : String} : name ∈ arranged level held ↔ name ∈ held := by
  by_cases known : name ∈ vocabulary level <;> simp [arranged, mem_others, known]

private theorem arranged_eq_nil : arranged level held = [] ↔ held = ∅ := by
  rw [List.eq_nil_iff_forall_not_mem]
  simp only [mem_arranged]
  constructor
  · intro none
    exact NameSet.ext_mem fun name => by simp [none]
  · rintro rfl name
    exact NameSet.not_mem_empty name

private theorem nodup_vocabulary (level : Level) : (vocabulary level).Nodup := by
  have dynamic : dynamicPrivileges.Nodup := by decide
  have unknown : ∀ name ∈ dynamicPrivileges, ¬ IsStatic name := by decide
  have static : ((staticPrivileges.filter fun privilege =>
      privilege.allows level && privilege.name != usage).map (·.name)).Nodup :=
    names_nodup.sublist (List.filter_sublist.map _)
  unfold vocabulary
  split
  next =>
    refine List.nodup_append.mpr ⟨static, dynamic, ?_⟩
    rintro name first other second rfl
    obtain ⟨privilege, listed, rfl⟩ := List.mem_map.mp first
    exact unknown _ second ⟨privilege, List.mem_of_mem_filter listed, rfl⟩
  next => simpa using static

private theorem nodup_arranged (level : Level) (held : NameSet) : (arranged level held).Nodup := by
  refine List.nodup_append.mpr ⟨(nodup_vocabulary level).filter _, ?_, ?_⟩
  · refine (ascending_others level held).imp ?_
    rintro name other below rfl
    exact String.lt_irrefl name below
  · rintro name first other second rfl
    exact (mem_others.mp second).2 (List.mem_of_mem_filter first)

namespace Inventory

variable {inventory : Inventory}

private theorem applicable_table (inventory : Inventory) (level : Level) :
    inventory.table.applicable level.name =
      vocabulary level ++ others level (inventory.observed level) := by
  cases level <;> simp [table, others, Level.all, Level.name, PermissionTable.applicable,
    PermissionTable.withType]

private theorem implying_table (inventory : Inventory) (name : String) :
    inventory.table.implying name = [] := rfl

private theorem filter_others {observed : NameSet} (seen : ∀ name ∈ held, name ∈ observed) :
    (others level observed).filter held.contains = others level held := by
  -- The names of other objects drop out; what is left is the set itself, since
  -- a set is known by its members.
  have same : (⟨observed.names.filter held.contains, observed.ascending.filter _⟩ : NameSet) =
      held := by
    refine NameSet.ext_mem fun name => ?_
    show name ∈ observed.names.filter held.contains ↔ name ∈ held
    rw [List.mem_filter, NameSet.contains_eq_true]
    exact ⟨fun both => both.2, fun member => ⟨seen name member, member⟩⟩
  rw [others, List.filter_comm]
  exact congrArg (others level) same

/-- A set whose names were seen at a level is told as it is. -/
theorem resolve_table (seen : ∀ name ∈ held, name ∈ inventory.observed level)
    (limited : PermissionSet.hasFullAccess held = false) :
    inventory.table.resolve level.name held = (arranged level held).map (⟨·, []⟩) := by
  have granted : inventory.table.grants held = held.contains := by
    funext name
    simp [PermissionTable.grants, limited, implying_table]
  rw [PermissionTable.resolve, granted, applicable_table, List.filter_append, filter_others seen]
  refine List.map_congr_left fun name member => ?_
  rw [if_pos (NameSet.contains_eq_true.mpr (mem_arranged.mp member))]

private theorem holdings_of_lists {records : List Recorded} (lists : inventory.Lists records)
    (table : PermissionTable) :
    AnalysisResult.holdings inventory.graph table inventory.grants =
      records.map fun record =>
        ⟨record.resource, table.resolve record.resource.type record.held⟩ := by
  apply List.ext_getElem
  · simp [AnalysisResult.holdings, ResourceGraph.ids, lists.resources, lists.size]
  · intro position first second
    rw [List.length_map] at second
    have held := lists.held position _ (List.getElem?_eq_getElem second)
    simp [AnalysisResult.holdings, ResourceGraph.ids, lists.resources, held]

end Inventory

namespace PrivilegeTree

def holding (tree : PrivilegeTree) (address user : String) (node : Node) : Holding :=
  ⟨tree.resource address user node, (arranged node.level (tree.held node)).map (⟨·, []⟩)⟩

variable {tree : PrivilegeTree} {address user : String}

theorem NamedApart.nodup (apart : tree.NamedApart address) :
    (tree.nodes.map (·.fullName address)).Nodup :=
  tree.nodup_nodes.map_on apart

theorem NamedApart.apart (apart : tree.NamedApart address) :
    AnalysisResult.Apart (tree.nodes.map (tree.holding address user)) := by
  unfold AnalysisResult.Apart
  rw [List.map_map]
  exact apart.nodup

private theorem holdings_ofTree (keyed : tree.Keyed) (apart : tree.NamedApart address)
    (limited : ∀ node, PermissionSet.hasFullAccess (tree.held node) = false) :
    let inventory := Inventory.ofTree tree address user
    AnalysisResult.holdings inventory.graph inventory.table inventory.grants =
      tree.nodes.map (tree.holding address user) := by
  intro inventory
  have distinct : Distinct (tree.nodes.map (tree.record address user)) := by
    unfold Distinct
    rw [List.map_map]
    exact apart.nodup
  have lists := Inventory.lists_ofTree keyed distinct
  rw [Inventory.holdings_of_lists lists, List.map_map]
  refine List.map_congr_left fun node member => ?_
  -- What a node holds was noted at its level, so the table can tell of it.
  have seen : ∀ name ∈ tree.held node, name ∈ inventory.observed node.level := by
    intro name held
    exact (lists.observed _ _).mpr ⟨_, List.mem_map_of_mem member, rfl, held⟩
  exact congrArg (Holding.mk _) (Inventory.resolve_table seen (limited node))

theorem tells_toResult (keyed : tree.Keyed) (apart : tree.NamedApart address)
    (limited : ∀ node, PermissionSet.hasFullAccess (tree.held node) = false)
    (metadata : NameMap Json) :
    (tree.toResult address user metadata).Tells (tree.nodes.map (tree.holding address user)) := by
  let inventory := Inventory.ofTree tree address user
  have same : AnalysisResult.holdings inventory.graph inventory.table inventory.grants =
      tree.nodes.map (tree.holding address user) := holdings_ofTree keyed apart limited
  rw [← same]
  apply AnalysisResult.tells_aggregate
  rw [same]
  exact apart.apart

theorem Keyed.processAll (keyed : tree.Keyed) (batches : List (List String)) :
    (tree.processAll batches).Keyed := by
  induction batches generalizing tree with
  | nil => exact keyed
  | cons texts rest ih =>
    apply ih
    dsimp only
    rw [process_eq]
    exact keyed.run _

/-- However the tree of a schema was processed, as long as its objects have full
names of their own, each is reported once, below its owners, with its traits and
with the privileges held on it: the known ones in the order of its level, then the
others in ascending order. An object is unbounded if nothing is held on it. -/
theorem toResult_reports_objects (snapshot : Snapshot) (batches : List (List String))
    (address user : String) (metadata : NameMap Json)
    (apart : ((ofSnapshot snapshot).processAll batches).NamedApart address) :
    let tree := (ofSnapshot snapshot).processAll batches
    let result := tree.toResult address user metadata
    result.metadata = metadata ∧
    tree.nodes.Nodup ∧ (∀ node, node ∈ tree.nodes ↔ (tree.get? node).isSome = true) ∧
    (result.boundResources ++ result.unbounded).Perm
      (tree.nodes.map (tree.resource address user)) ∧
    ∀ node ∈ tree.nodes,
      (∀ owner ∈ node.owners, owner ∈ tree.nodes) ∧
      result.bindingsOf (node.fullName address) =
        (arranged node.level (tree.held node)).map
          (fun name => ⟨tree.resource address user node, ⟨name, []⟩⟩) ∧
      (arranged node.level (tree.held node)).Nodup ∧
      (∀ name, name ∈ arranged node.level (tree.held node) ↔ name ∈ tree.held node) ∧
      (others node.level (tree.held node)).Pairwise (· < ·) ∧
      (tree.resource address user node ∈ result.unbounded ↔ tree.held node = ∅) := by
  intro tree result
  have keyed : tree.Keyed := (keyed_ofSnapshot snapshot).processAll batches
  have tells : result.Tells (tree.nodes.map (tree.holding address user)) :=
    tells_toResult keyed apart (hasFullAccess_processAll snapshot batches) metadata
  refine ⟨rfl, tree.nodup_nodes, fun _ => mem_nodes, ?_, ?_⟩
  · have reported := tells.reported
    rwa [List.map_map] at reported
  · intro node member
    have listed := List.mem_map_of_mem (f := tree.holding address user) member
    refine ⟨fun owner above => owner_mem_nodes member above, ?_, nodup_arranged _ _,
      fun _ => mem_arranged, ascending_others _ _, ?_⟩
    · refine (tells.bound _ listed).trans ?_
      rw [Holding.bindings, holding, List.map_map]
      rfl
    · refine (tells.unbounded _ listed).trans ?_
      rw [holding, List.map_eq_nil_iff, arranged_eq_nil]

theorem toResult_reports_objects_of_shop :
    let snapshot : Snapshot := { databases := [⟨"shop", [⟨"orders", some 16384⟩], []⟩] }
    let tree := (ofSnapshot snapshot).processAll
      [["GRANT SELECT, FLY ON `shop`.`orders` TO `app`@`%`"],
        ["GRANT UPDATE (`id`) ON `shop`.`orders` TO `app`@`%`"]]
    let result := tree.toResult "db:3306" "app" ∅
    let orders := Node.within "shop" (.table "orders")
    tree.NamedApart "db:3306" ∧
      result.bindingsOf "server/db:3306/database/shop/table/orders" =
        ["SELECT", "FLY"].map (fun name => ⟨tree.resource "db:3306" "app" orders, ⟨name, []⟩⟩) ∧
      tree.resource "db:3306" "app" .server ∈ result.unbounded := by
  intro snapshot tree result orders
  have apart : tree.NamedApart "db:3306" := by decide +kernel
  obtain ⟨_, _, listed, _, each⟩ := toResult_reports_objects snapshot _ "db:3306" "app" ∅ apart
  obtain ⟨_, bound, _⟩ := each orders ((listed _).mpr (by decide))
  obtain ⟨_, _, _, _, _, unbounded⟩ := each .server ((listed _).mpr rfl)
  refine ⟨apart, ?_, unbounded.mpr rfl⟩
  have told : arranged .table (tree.held orders) = ["SELECT", "FLY"] := by decide
  rw [← told]
  exact bound

end PrivilegeTree

end CredentialReach.Mysql
