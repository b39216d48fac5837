import CredentialReach.Proofs.ReportedHoldings

/-! What held permissions come to. A permission that is held beside others takes nothing away:
what was granted stays so, directly or because something broader is held. If the same
permissions are held on all resources, a result binds every resource to what its type can carry of
them, and a resource is unbounded if that is nothing. -/

namespace CredentialReach

variable {table : PermissionTable} {held wider : PermissionSet} {type value : String}

theorem PermissionSet.meets_of_wider {required : Option String} (below : ∀ name ∈ held, name ∈ wider)
    (met : held.meets required = true) : wider.meets required = true := by
  cases required with
  | none => rfl
  | some permission =>
    simp only [meets, hasFullAccess, Bool.or_eq_true, NameSet.contains_eq_true] at met ⊢
    exact met.imp (below _) (below _)

namespace PermissionTable

theorem grants_iff :
    table.grants held value = true ↔
      value ∈ held ∨ fullAccess ∈ held ∨ ∃ broader ∈ table.implying value, broader ∈ held := by
  simp [grants, PermissionSet.hasFullAccess, or_assoc]

private theorem grants_of_wider (below : ∀ name ∈ held, name ∈ wider)
    (granted : table.grants held value = true) : table.grants wider value = true := by
  rw [grants_iff] at granted ⊢
  rcases granted with direct | all | ⟨broader, implies, member⟩
  · exact .inl (below _ direct)
  · exact .inr (.inl (below _ all))
  · exact .inr (.inr ⟨broader, implies, below _ member⟩)

/-- The permissions resolved for a type are those of its permissions that are granted. -/
theorem values_resolve (table : PermissionTable) (type : String) (held : PermissionSet) :
    (table.resolve type held).map (·.value) =
      (table.applicable type).filter (table.grants held) := by
  have own (name : String) :
      (if held.contains name then (⟨name, []⟩ : Permission) else table.permission name).value = name := by
    split <;> rfl
  simp only [resolve, List.map_map, Function.comp_def, own, List.map_id']

private theorem exists_mem_resolve :
    (∃ permission ∈ table.resolve type held, permission.value = value) ↔
      value ∈ table.applicable type ∧ table.grants held value = true := by
  rw [← List.mem_filter, ← values_resolve, List.mem_map]

end PermissionTable

namespace AnalysisResult

variable {kind : AnalyzerKind} {graph : ResourceGraph} {metadata : NameMap Json}

/-- What is held everywhere is resolved for each resource by its type alone. -/
theorem holdings_everywhere (graph : ResourceGraph) (table : PermissionTable) (held : PermissionSet) :
    holdings graph table ⟨held, []⟩ =
      graph.resources.map fun resource => ⟨resource, table.resolve resource.type held⟩ := by
  have same : graph.resources.length ≤ graph.ids.length := by
    simp [ResourceGraph.ids, graph.length_resources]
  have second := congrArg
    (List.map fun resource => (⟨resource, table.resolve resource.type held⟩ : Holding))
    (List.map_snd_zip same)
  rwa [List.map_map] at second

theorem mem_bindings_aggregate {binding : Binding} :
    binding ∈ (aggregate kind graph table ⟨held, []⟩ metadata).bindings ↔
      binding.resource ∈ graph.resources ∧
        binding.permission ∈ table.resolve binding.resource.type held := by
  simp only [aggregate_eq, tell, holdings_everywhere, Holding.bindings, List.mem_flatMap,
    List.mem_mergeSort, List.mem_map]
  constructor
  · rintro ⟨_, ⟨resource, found, rfl⟩, permission, resolved, rfl⟩
    exact ⟨found, resolved⟩
  · rintro ⟨found, resolved⟩
    exact ⟨_, ⟨binding.resource, found, rfl⟩, binding.permission, resolved, rfl⟩

theorem mem_unbounded_aggregate {resource : Resource} :
    resource ∈ (aggregate kind graph table ⟨held, []⟩ metadata).unbounded ↔
      resource ∈ graph.resources ∧ table.resolve resource.type held = [] := by
  simp only [aggregate_eq, tell, holdings_everywhere, List.mem_map, List.mem_filter,
    List.mem_mergeSort, List.isEmpty_iff]
  constructor
  · rintro ⟨_, ⟨⟨found, listed, rfl⟩, none⟩, rfl⟩
    exact ⟨listed, none⟩
  · rintro ⟨listed, none⟩
    exact ⟨_, ⟨⟨resource, listed, rfl⟩, none⟩, rfl⟩

/-- With more resources and more permissions held, what was bound stays so. -/
theorem exists_binding_of_wider {more : ResourceGraph} {metadataToo : NameMap Json}
    (resources : graph.resources ⊆ more.resources) (below : ∀ name ∈ held, name ∈ wider)
    {binding : Binding}
    (member : binding ∈ (aggregate kind graph table ⟨held, []⟩ metadata).bindings) :
    ∃ same ∈ (aggregate kind more table ⟨wider, []⟩ metadataToo).bindings,
      same.resource = binding.resource ∧ same.permission.value = binding.permission.value := by
  obtain ⟨found, resolved⟩ := mem_bindings_aggregate.mp member
  obtain ⟨applies, granted⟩ := PermissionTable.exists_mem_resolve.mp ⟨_, resolved, rfl⟩
  have grantedToo := PermissionTable.grants_of_wider below granted
  obtain ⟨permission, resolvedToo, value⟩ :=
    PermissionTable.exists_mem_resolve.mpr ⟨applies, grantedToo⟩
  refine ⟨⟨binding.resource, permission⟩, ?_, rfl, value⟩
  exact mem_bindings_aggregate.mpr ⟨resources found, resolvedToo⟩

/-- No name is that of a bound resource and of an unbounded one. -/
theorem fullName_ne_of_bound (apart : (graph.resources.map (·.fullName)).Nodup) {binding : Binding}
    (member : binding ∈ (aggregate kind graph table ⟨held, []⟩ metadata).bindings) {resource : Resource}
    (unbounded : resource ∈ (aggregate kind graph table ⟨held, []⟩ metadata).unbounded) :
    resource.fullName ≠ binding.resource.fullName := by
  obtain ⟨found, resolved⟩ := mem_bindings_aggregate.mp member
  obtain ⟨foundToo, none⟩ := mem_unbounded_aggregate.mp unbounded
  intro same
  obtain rfl := List.inj_on_of_nodup_map apart foundToo found same
  rw [none] at resolved
  cases resolved

/-- A resource that is alone has all bindings, or it is the one without any. -/
theorem aggregate_alone (kind : AnalyzerKind) (table : PermissionTable) (held : PermissionSet)
    (metadata : NameMap Json) {resource : Resource} (alone : graph.resources = [resource]) :
    let result := aggregate kind graph table ⟨held, []⟩ metadata
    let permissions := table.resolve resource.type held
    result.bindings = permissions.map (⟨resource, ·⟩) ∧
      (result.unbounded = [] ↔ permissions ≠ []) ∧
      result.boundResources ++ result.unbounded = [resource] := by
  intro result permissions
  have holdings : holdings graph table ⟨held, []⟩ = [⟨resource, permissions⟩] := by
    rw [holdings_everywhere, alone]
    rfl
  have told : result = tell kind metadata [⟨resource, permissions⟩] := by
    simp only [result, aggregate_eq, holdings, List.mergeSort_singleton]
  rw [told]
  refine ⟨List.append_nil _, ?_, List.perm_singleton.mp (perm_of_told (List.nodup_singleton _))⟩
  by_cases none : permissions = [] <;> simp [tell, none]

end AnalysisResult

end CredentialReach
