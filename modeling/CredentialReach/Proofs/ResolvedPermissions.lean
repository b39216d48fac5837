import CredentialReach.Proofs.Implications
import CredentialReach.Report.Text

/-! What a credential is shown to hold. A permission that is not held itself is shown with all that
lie above it, held or not. The nearest of them, which the report names, is granted nevertheless:
where something above a permission is held, it is that one or lies above that one too. -/

namespace CredentialReach

def Permission.parent? (permission : Permission) : Option Permission :=
  match permission.impliedBy with
  | [] => none
  | broader :: above => some ⟨broader, above⟩

def Report.viaText (colors : Bool) (parent? : Option Permission) : String :=
  match parent? with
  | none => ""
  | some parent => " " ++ Paint.dimmed.apply colors s!"(via {parent.value})"

namespace PermissionTable

variable {table : PermissionTable} {held : PermissionSet} {permission : Permission}
  {type value broader : String}

/-- A permission as it is shown where something is held. -/
structure Shows (table : PermissionTable) (held : PermissionSet) (permission : Permission) :
    Prop where
  granted : table.grants held permission.value = true
  direct : permission.value ∈ held → permission.parent? = none
  /-- Else it is shown with all that lie above it. -/
  inherited : permission.value ∉ held → permission = table.permission permission.value
  parent : ∀ parent, permission.parent? = some parent → table.grants held parent.value = true
  line : ∀ colors, (Report.Line.permission permission).text colors =
    (Report.Line.permission ⟨permission.value, []⟩).text colors ++
      Report.viaText colors permission.parent?

private theorem implied_of_head_implying {above : List String}
    (found : table.implying value = broader :: above) : table.impliedBy.get? value = some broader := by
  have first : (table.implying value)[0]? = some broader := by rw [found, List.getElem?_cons_zero]
  have reached := ((above_implying table value).nearest 0 broader first).1
  simpa only [broader?, Option.bind_fun_some] using reached

/-- What grants a permission that is not held itself grants the one that it follows from. -/
theorem grants_of_implied (implied : table.impliedBy.get? value = some broader)
    (unheld : value ∉ held) (granted : table.grants held value = true) :
    table.grants held broader = true := by
  rw [grants_iff_reached] at granted ⊢
  rcases granted with all | ⟨steps, source, reached, member⟩
  · exact .inl all
  · -- The way up from the permission leads over the next one.
    cases steps with
    | zero =>
      cases reached
      exact absurd member unheld
    | succ steps =>
      rw [broader?, implied, Option.bind_some] at reached
      exact .inr ⟨steps, source, reached, member⟩

private theorem exists_of_mem_resolve (member : permission ∈ table.resolve type held) :
    ∃ value, table.grants held value = true ∧
      permission = if held.contains value then ⟨value, []⟩ else table.permission value := by
  obtain ⟨value, granted, rfl⟩ := List.mem_map.mp member
  exact ⟨value, (List.mem_filter.mp granted).2, rfl⟩

private theorem text_permission (colors : Bool) (permission : Permission) :
    (Report.Line.permission permission).text colors =
      (Report.Line.permission ⟨permission.value, []⟩).text colors ++
        Report.viaText colors permission.parent? := by
  obtain ⟨value, _ | ⟨broader, above⟩⟩ := permission
  · exact String.append_empty.symm
  · simp only [Report.Line.text, Report.viaText, Permission.parent?, String.append_assoc]

private theorem shows_of_mem_resolve (member : permission ∈ table.resolve type held) :
    table.Shows held permission := by
  obtain ⟨value, granted, rfl⟩ := exists_of_mem_resolve member
  by_cases direct : held.contains value = true
  · have holds : value ∈ held := NameSet.contains_eq_true.mp direct
    rw [if_pos direct]
    refine ⟨granted, fun _ => rfl, fun unheld => absurd holds unheld, ?_, fun colors => text_permission colors _⟩
    intro parent shown
    cases shown
  · have unheld : value ∉ held := fun holds => direct (NameSet.contains_eq_true.mpr holds)
    rw [if_neg direct]
    refine ⟨granted, fun holds => absurd holds unheld, fun _ => rfl, ?_, fun colors => text_permission colors _⟩
    intro parent shown
    cases above : table.implying value with
    | nil => simp [Permission.parent?, permission, above] at shown
    | cons broader rest =>
      have next : parent = ⟨broader, rest⟩ := by
        simpa [Permission.parent?, permission, above] using shown.symm
      rw [next]
      exact grants_of_implied (implied_of_head_implying above) unheld granted

private theorem exists_binding_of_line {result : AnalysisResult}
    (line : .permission permission ∈ Report.resultLines result) :
    ∃ binding ∈ result.bindings, binding.permission = permission := by
  have credential : .permission permission ∉ Report.credentialLines result := by
    unfold Report.credentialLines
    split <;> simp [Report.details]
  have unbounded : .permission permission ∉ Report.unboundedLines result := by
    unfold Report.unboundedLines
    split <;> simp
  have access : .permission permission ∈ Report.accessLines result := by
    simpa [Report.resultLines, Report.summaryLines, credential, unbounded] using line
  rcases Report.accessLine_cases access with same | same | ⟨_, same⟩ | ⟨_, _, same⟩ | ⟨binding, bound, same⟩
  all_goals cases same
  exact ⟨binding, bound, rfl⟩

private theorem exists_resolved_of_line {kind : AnalyzerKind} {graph : ResourceGraph} {grants : Grants}
    {metadata : NameMap Json}
    (line : .permission permission ∈
      Report.resultLines (AnalysisResult.aggregate kind graph table grants metadata)) :
    ∃ id resource, graph.resource? id = some resource ∧
      permission ∈ table.resolve resource.type (grants.heldOn id) := by
  obtain ⟨binding, bound, rfl⟩ := exists_binding_of_line line
  rw [AnalysisResult.aggregate_eq, AnalysisResult.tell, List.mem_flatMap] at bound
  obtain ⟨holding, told, listed⟩ := bound
  obtain ⟨permission, resolved, rfl⟩ := List.mem_map.mp listed
  obtain ⟨id, resource, there, rfl⟩ := AnalysisResult.mem_holdings_iff.mp (List.mem_mergeSort.mp told)
  exact ⟨id, resource, there, resolved⟩

/-- On every table, cyclic ones too, the permissions of a type that are granted are listed in its
order. One that is held is shown alone; any other one is shown with those that it follows from, and
the first of them is granted as well. So what a report names as the reason for a permission is itself
granted on the resource. -/
theorem resolve_shows_granted (table : PermissionTable) (type : String) (held : PermissionSet) :
    (table.resolve type held).map (·.value) = (table.applicable type).filter (table.grants held) ∧
      (∀ permission ∈ table.resolve type held, table.Shows held permission) ∧
      ∀ kind graph grants metadata permission,
        .permission permission ∈
          Report.resultLines (AnalysisResult.aggregate kind graph table grants metadata) →
        ∃ id resource, graph.resource? id = some resource ∧
          permission ∈ table.resolve resource.type (grants.heldOn id) ∧
          table.Shows (grants.heldOn id) permission := by
  refine ⟨values_resolve table type held, fun permission => shows_of_mem_resolve, ?_⟩
  intro kind graph grants metadata permission line
  obtain ⟨id, resource, there, resolved⟩ := exists_resolved_of_line line
  exact ⟨id, resource, there, resolved, shows_of_mem_resolve resolved⟩

/-- Reading follows from writing, and writing and owning from one another. -/
def cyclicTable : PermissionTable :=
  ((((PermissionTable.withType {} "file" ["read", "write", "own"]).withImplication "read" "write")
    |>.withImplication "write" "own").withImplication "own" "write")

theorem resolve_shows_granted_on_cycle :
    let held : PermissionSet := .ofList ["own"]
    let reading : Permission := ⟨"read", ["write", "own"]⟩
    cyclicTable.resolve "file" held = [reading, ⟨"write", ["own"]⟩, ⟨"own", []⟩] ∧
      "write" ∉ held ∧ cyclicTable.Shows held reading ∧ cyclicTable.grants held "write" = true := by
  intro held reading
  have resolved : cyclicTable.resolve "file" held = [reading, ⟨"write", ["own"]⟩, ⟨"own", []⟩] := by
    decide +kernel
  have shows : cyclicTable.Shows held reading :=
    (resolve_shows_granted cyclicTable "file" held).2.1 reading (by rw [resolved]; exact List.mem_cons_self)
  exact ⟨resolved, by decide +kernel, shows, shows.parent ⟨"write", ["own"]⟩ rfl⟩

end PermissionTable

end CredentialReach
