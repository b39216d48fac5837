import CredentialReach.Proofs.ByteOrder
import CredentialReach.Proofs.GraphHistory
import CredentialReach.Proofs.ReportedHoldings

/-! Where a result has the resources of a graph. Each resource is either bound, by what is granted
on it and by nothing else, or unbounded. It is shown as the graph has it, with all that it is
contained in, and the resources stand in the order of the bytes of their full names. -/

namespace CredentialReach

namespace AnalysisResult

variable {kind : AnalyzerKind} {graph : ResourceGraph} {table : PermissionTable} {grants : Grants}
variable {metadata : NameMap Json}

/-- The result has one place for each resource of the graph, and none for anything else. -/
structure Places (result : AnalysisResult) (graph : ResourceGraph) (table : PermissionTable)
    (grants : Grants) : Prop where
  placed : ∀ id ∈ graph.ids, ∃ resource, graph.resource? id = some resource ∧
    let permissions := table.resolve resource.type (grants.heldOn id)
    result.bindingsOf resource.fullName = permissions.map (⟨resource, ·⟩) ∧
      result.unbounded.filter (·.fullName == resource.fullName) =
        if permissions = [] then [resource] else []
  /-- Each one is shown with its draft and with those of all that it is contained in. -/
  shown : ∀ id resource, graph.resource? id = some resource →
    graph.get? id = some resource.toDraft ∧
      resource.owners.map some = (graph.ancestors id).map graph.get?
  reported : (result.boundResources ++ result.unbounded).Perm graph.resources
  bound : ∀ binding ∈ result.bindings, binding.resource ∈ graph.resources

structure InByteOrder (result : AnalysisResult) : Prop where
  bindings : result.bindings.Pairwise fun a b =>
    Text.bytes a.resource.fullName ≤ Text.bytes b.resource.fullName
  unbounded : result.unbounded.Pairwise fun a b => Text.bytes a.fullName < Text.bytes b.fullName

private theorem places_aggregate (orderly : graph.Orderly) :
    (aggregate kind graph table grants metadata).Places graph table grants := by
  have apart : Apart (holdings graph table grants) := apart_holdings orderly.apart
  have tells := tells_aggregate kind metadata apart
  have sorted := List.mergeSort_perm (holdings graph table grants) byFullName
  constructor
  case placed =>
    intro id listed
    obtain ⟨resource, there⟩ := ResourceGraph.exists_resource_of_lt (List.mem_range.mp listed)
    have member : ⟨resource, table.resolve resource.type (grants.heldOn id)⟩ ∈
        holdings graph table grants := mem_holdings_iff.mpr ⟨id, resource, there, rfl⟩
    refine ⟨resource, there, tells.bound _ member, ?_⟩
    exact unboundedOf_told (apart.perm sorted.symm) (sorted.mem_iff.mpr member)
  case shown => exact fun _ _ there => orderly.owners there
  case reported => exact resources_holdings ▸ tells.reported
  case bound =>
    intro binding listed
    rw [aggregate_eq, tell, List.mem_flatMap] at listed
    obtain ⟨holding, told, listed⟩ := listed
    obtain ⟨permission, -, rfl⟩ := List.mem_map.mp listed
    rw [← resources_holdings]
    exact List.mem_map_of_mem (sorted.mem_iff.mp told)

theorem pairwise_sorted (held : List Holding) :
    (held.mergeSort byFullName).Pairwise fun a b => a.resource.fullName ≤ b.resource.fullName := by
  have sorted : (held.mergeSort byFullName).Pairwise fun a b => byFullName a b = true := by
    apply List.pairwise_mergeSort
    · simp only [byFullName, decide_eq_true_eq]
      exact fun _ _ _ => String.le_trans
    · simp only [byFullName, Bool.or_eq_true, decide_eq_true_eq]
      exact fun _ _ => String.le_total ..
  simpa only [byFullName, decide_eq_true_eq] using sorted

private theorem inByteOrder_aggregate (once : graph.fullNames.Nodup) :
    (aggregate kind graph table grants metadata).InByteOrder := by
  have sorted := List.mergeSort_perm (holdings graph table grants) byFullName
  have apart := (apart_holdings once).perm sorted.symm
  have ascending := pairwise_sorted (holdings graph table grants)
  rw [aggregate_eq]
  generalize (holdings graph table grants).mergeSort byFullName = told at apart ascending
  constructor
  case bindings =>
    refine List.pairwise_flatMap.mpr ⟨?_, ?_⟩
    · intro holding _
      refine List.pairwise_map.mpr (List.pairwise_of_forall ?_)
      exact fun _ _ => List.le_refl _
    · refine ascending.imp ?_
      intro first second le one listed other also
      obtain ⟨_, -, rfl⟩ := List.mem_map.mp listed
      obtain ⟨_, -, rfl⟩ := List.mem_map.mp also
      exact Text.bytes_le_iff.mpr le
  case unbounded =>
    have strict := ascending.and (List.pairwise_map.mp apart)
    refine List.pairwise_map.mpr ((strict.filter _).imp ?_)
    rintro first second ⟨le, different⟩
    exact Text.bytes_lt (lt_of_le_of_ne le different)

/-- Whatever calls made the graph and whatever is granted, each resource has its one place. -/
theorem aggregate_places_calls (calls : List Call) (kind : AnalyzerKind) (table : PermissionTable)
    (grants : Grants) (metadata : NameMap Json) :
    let graph := (History.of calls).graph
    let result := aggregate kind graph table grants metadata
    result.kind = kind ∧ result.metadata = metadata ∧
      result.Places graph table grants ∧ result.InByteOrder ∧ result.resourceCount = graph.size := by
  have orderly := (History.kept_of calls).orderly
  exact ⟨rfl, rfl, places_aggregate orderly, inByteOrder_aggregate orderly.apart,
    resourceCount_aggregate orderly.apart kind metadata⟩

end AnalysisResult

end CredentialReach
