import CredentialReach.Analysis.Result
import CredentialReach.Resource.Graph

/-! From found resources and held permissions to a result. -/

namespace CredentialReach

structure Grants where
  /-- Held wherever nothing else is said. -/
  credential : PermissionSet
  /-- Held on the resources with these ids instead; of two entries for one
  resource the earlier one stands. -/
  overrides : List (Nat × PermissionSet) := []

namespace Grants

def withResource (grants : Grants) (id : Nat) (held : PermissionSet) : Grants :=
  { grants with overrides := (id, held) :: grants.overrides }

def heldOn (grants : Grants) (id : Nat) : PermissionSet :=
  (grants.overrides.lookup id).getD grants.credential

end Grants

structure Holding where
  resource : Resource
  permissions : List Permission

namespace AnalysisResult

def byFullName (a b : Holding) : Bool := a.resource.fullName ≤ b.resource.fullName

/-- Every resource is reported once, in the order of the full names: with a
binding for each permission held on it, or as unbounded if there is none. -/
def aggregate (kind : AnalyzerKind) (graph : ResourceGraph) (table : PermissionTable)
    (grants : Grants) (metadata : NameMap Json := ∅) : AnalysisResult :=
  let holdings := ((graph.ids.zip graph.resources).map fun (id, resource) =>
    (⟨resource, table.resolve resource.type (grants.heldOn id)⟩ : Holding)).mergeSort byFullName
  { kind, metadata
    bindings := holdings.flatMap fun holding => holding.permissions.map (⟨holding.resource, ·⟩)
    unbounded := (holdings.filter (·.permissions.isEmpty)).map (·.resource) }

end AnalysisResult

end CredentialReach
