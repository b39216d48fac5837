import Mathlib.Data.List.Nodup
import CredentialReach.Analysis.Aggregate
import CredentialReach.Proofs.Traversals

/-! What a result tells of the holdings that it was made of. As long as no two
resources have one full name, every holding is told of once: a resource with
permissions is bound to exactly these, and any other is unbounded. -/

namespace CredentialReach

namespace Holding

def bindings (holding : Holding) : List Binding :=
  holding.permissions.map (⟨holding.resource, ·⟩)

private theorem filter_bindings (holding : Holding) (fullName : String) :
    holding.bindings.filter (·.resource.fullName == fullName) =
      if holding.resource.fullName = fullName then holding.bindings else [] := by
  unfold bindings
  split <;> simp_all [List.filter_map, Function.comp_def]

end Holding

namespace AnalysisResult

/-- Every resource with what is held on it, in order of discovery. -/
def holdings (graph : ResourceGraph) (table : PermissionTable) (grants : Grants) : List Holding :=
  (graph.ids.zip graph.resources).map fun (id, resource) =>
    ⟨resource, table.resolve resource.type (grants.heldOn id)⟩

def tell (kind : AnalyzerKind) (metadata : NameMap Json) (holdings : List Holding) :
    AnalysisResult where
  kind := kind
  metadata := metadata
  bindings := holdings.flatMap Holding.bindings
  unbounded := (holdings.filter (·.permissions.isEmpty)).map (·.resource)

theorem aggregate_eq (kind : AnalyzerKind) (graph : ResourceGraph) (table : PermissionTable)
    (grants : Grants) (metadata : NameMap Json) :
    aggregate kind graph table grants metadata =
      tell kind metadata ((holdings graph table grants).mergeSort byFullName) := rfl

def Apart (holdings : List Holding) : Prop := (holdings.map (·.resource.fullName)).Nodup

theorem Apart.cons {holding : Holding} {rest : List Holding} (apart : Apart (holding :: rest)) :
    (∀ other ∈ rest, other.resource.fullName ≠ holding.resource.fullName) ∧ Apart rest := by
  obtain ⟨absent, later⟩ := List.nodup_cons.mp apart
  refine ⟨fun other member same => absent ?_, later⟩
  exact List.mem_map.mpr ⟨other, member, same⟩

theorem Apart.perm {first second : List Holding} (apart : Apart first) (perm : first.Perm second) :
    Apart second := (perm.map _).nodup_iff.mp apart

variable {kind : AnalyzerKind} {metadata : NameMap Json} {told : List Holding}

private theorem bindingsOf_tell (fullName : String) :
    (tell kind metadata told).bindingsOf fullName =
      told.flatMap fun holding =>
        if holding.resource.fullName = fullName then holding.bindings else [] := by
  simp only [bindingsOf, tell, List.filter_flatMap, Holding.filter_bindings]

private theorem bindingsOf_told (apart : Apart told) {holding : Holding} (member : holding ∈ told) :
    (tell kind metadata told).bindingsOf holding.resource.fullName = holding.bindings := by
  rw [bindingsOf_tell]
  exact flatMap_of_apart apart member Holding.bindings

private theorem unbounded_tell :
    (tell kind metadata told).unbounded =
      told.flatMap fun holding => if holding.permissions = [] then [holding.resource] else [] := by
  unfold tell
  induction told with
  | nil => rfl
  | cons holding rest ih =>
    by_cases empty : holding.permissions = [] <;> simpa [empty] using ih

theorem unboundedOf_told (apart : Apart told) {holding : Holding} (member : holding ∈ told) :
    (tell kind metadata told).unbounded.filter (·.fullName == holding.resource.fullName) =
      if holding.permissions = [] then [holding.resource] else [] := by
  rw [unbounded_tell, List.filter_flatMap,
    ← flatMap_of_apart apart member fun other =>
      if other.permissions = [] then [other.resource] else []]
  congr 1
  funext other
  by_cases empty : other.permissions = [] <;> simp [empty, List.filter_cons]

private theorem mem_unbounded_of_told (apart : Apart told) {holding : Holding} (member : holding ∈ told) :
    holding.resource ∈ (tell kind metadata told).unbounded ↔ holding.permissions = [] := by
  simp only [tell, List.mem_map, List.mem_filter, List.isEmpty_iff]
  constructor
  · rintro ⟨other, ⟨listed, empty⟩, same⟩
    have equal := List.inj_on_of_nodup_map apart listed member (congrArg (·.fullName) same)
    exact equal ▸ empty
  · exact fun empty => ⟨holding, ⟨member, empty⟩, rfl⟩

private theorem firstOfEach_of_seen {seen : List String} {resource : Resource}
    (known : resource.fullName ∈ seen) (permissions : List Permission) (rest : List Resource) :
    firstOfEach seen (permissions.map (fun _ => resource) ++ rest) = firstOfEach seen rest := by
  induction permissions with
  | nil => rfl
  | cons _ _ ih => rw [List.map_cons, List.cons_append, firstOfEach, if_pos known, ih]

private theorem firstOfEach_bindings {seen : List String} {holding : Holding}
    (fresh : holding.resource.fullName ∉ seen) (rest : List Resource) :
    firstOfEach seen (holding.bindings.map (·.resource) ++ rest) =
      if holding.permissions = [] then firstOfEach seen rest
      else holding.resource :: firstOfEach (holding.resource.fullName :: seen) rest := by
  obtain ⟨resource, permissions⟩ := holding
  cases permissions with
  | nil => rfl
  | cons first others =>
    -- The first binding is taken, and its name hides the others.
    simp only [Holding.bindings, List.map_map, Function.comp_def, List.map_cons, List.cons_append,
      firstOfEach, if_neg fresh, reduceCtorEq, if_false]
    rw [firstOfEach_of_seen List.mem_cons_self]

private theorem firstOfEach_told {seen : List String} (apart : Apart told)
    (fresh : ∀ holding ∈ told, holding.resource.fullName ∉ seen) :
    firstOfEach seen ((told.flatMap Holding.bindings).map (·.resource)) =
      (told.filter (!·.permissions.isEmpty)).map (·.resource) := by
  induction told generalizing seen with
  | nil => rfl
  | cons holding rest ih =>
    obtain ⟨others, later⟩ := apart.cons
    obtain ⟨new, fresh⟩ := List.forall_mem_cons.mp fresh
    rw [List.flatMap_cons, List.map_append, firstOfEach_bindings new, List.filter_cons]
    by_cases empty : holding.permissions = []
    · simp [empty, ih later fresh]
    · have beyond : ∀ other ∈ rest,
          other.resource.fullName ∉ holding.resource.fullName :: seen := by
        intro other member
        simp [others other member, fresh other member]
      simp [empty, ih later beyond]

theorem perm_of_told (apart : Apart told) :
    ((tell kind metadata told).boundResources ++ (tell kind metadata told).unbounded).Perm
      (told.map (·.resource)) := by
  have bound : (tell kind metadata told).boundResources =
      (told.filter (!·.permissions.isEmpty)).map (·.resource) :=
    firstOfEach_told apart fun _ _ => List.not_mem_nil
  rw [bound, tell, ← List.map_append]
  exact (List.perm_append_comm.trans (List.filter_append_perm _ told)).map _

/-- The result reports every holding once and as it is. -/
structure Tells (result : AnalysisResult) (told : List Holding) : Prop where
  reported : (result.boundResources ++ result.unbounded).Perm (told.map (·.resource))
  bound : ∀ holding ∈ told, result.bindingsOf holding.resource.fullName = holding.bindings
  unbounded : ∀ holding ∈ told, holding.resource ∈ result.unbounded ↔ holding.permissions = []

private theorem tells_tell (apart : Apart told) : (tell kind metadata told).Tells told where
  reported := perm_of_told apart
  bound := fun _ member => bindingsOf_told apart member
  unbounded := fun _ member => mem_unbounded_of_told apart member

theorem Tells.perm {result : AnalysisResult} {other : List Holding} (tells : result.Tells told)
    (same : told.Perm other) : result.Tells other where
  reported := tells.reported.trans (same.map _)
  bound := fun holding member => tells.bound holding (same.mem_iff.mpr member)
  unbounded := fun holding member => tells.unbounded holding (same.mem_iff.mpr member)

theorem tells_aggregate (kind : AnalyzerKind) {graph : ResourceGraph} {table : PermissionTable}
    {grants : Grants} (metadata : NameMap Json) (apart : Apart (holdings graph table grants)) :
    (aggregate kind graph table grants metadata).Tells (holdings graph table grants) := by
  have sorted := List.mergeSort_perm (holdings graph table grants) byFullName
  rw [aggregate_eq]
  exact (tells_tell (apart.perm sorted.symm)).perm sorted

section Graph

variable {graph : ResourceGraph} {table : PermissionTable} {grants : Grants}

theorem resources_holdings : (holdings graph table grants).map (·.resource) = graph.resources := by
  unfold holdings
  rw [List.map_map]
  exact List.map_snd_zip (by simp [ResourceGraph.ids, ResourceGraph.length_resources])

theorem mem_holdings_iff {holding : Holding} :
    holding ∈ holdings graph table grants ↔ ∃ id resource, graph.resource? id = some resource ∧
      holding = ⟨resource, table.resolve resource.type (grants.heldOn id)⟩ := by
  unfold holdings
  rw [List.mem_map]
  constructor
  · rintro ⟨⟨id, resource⟩, listed, rfl⟩
    exact ⟨id, resource, ResourceGraph.mem_zip_resources.mp listed, rfl⟩
  · rintro ⟨id, resource, there, rfl⟩
    exact ⟨(id, resource), ResourceGraph.mem_zip_resources.mpr there, rfl⟩

theorem apart_holdings (once : graph.fullNames.Nodup) : Apart (holdings graph table grants) := by
  have names : (holdings graph table grants).map (·.resource.fullName) = graph.fullNames := by
    rw [← graph.names_resources, ← resources_holdings, List.map_map]
    rfl
  unfold Apart
  rwa [names]

/-- Every resource of the graph is counted. -/
theorem resourceCount_aggregate (once : graph.fullNames.Nodup) (kind : AnalyzerKind)
    (metadata : NameMap Json) :
    (aggregate kind graph table grants metadata).resourceCount = graph.size := by
  have apart : Apart (holdings graph table grants) := apart_holdings once
  have counted := (tells_aggregate kind metadata apart).reported.length_eq
  rwa [resources_holdings, ResourceGraph.length_resources, List.length_append] at counted

end Graph

end AnalysisResult

end CredentialReach
