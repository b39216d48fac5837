import CredentialReach.Json.Basic

/-! What a credential can reach. -/

namespace CredentialReach

/-- What a response tells of a resource. -/
structure Draft where
  name : String
  /-- Names the resource among all others. -/
  fullName : String
  type : String
  metadata : NameMap Json := ∅

instance : Inhabited Draft := ⟨⟨"", "", "", ∅⟩⟩

structure Resource extends Draft where
  /-- The containing resources, nearest first. -/
  owners : List Draft := []

namespace Resource

instance : Inhabited Resource := ⟨⟨default, []⟩⟩

def parent? (resource : Resource) : Option Resource :=
  match resource.owners with
  | [] => none
  | owner :: owners => some ⟨owner, owners⟩

/-- A resource contained in `parent`, or in none. -/
def place (draft : Draft) : Option Resource → Resource
  | none => ⟨draft, []⟩
  | some parent => ⟨draft, parent.toDraft :: parent.owners⟩

theorem toDraft_place (draft : Draft) (owner : Option Resource) :
    (place draft owner).toDraft = draft := by
  cases owner <;> rfl

def depth (resource : Resource) : Nat := resource.owners.length

end Resource

def Draft.metadataText? (draft : Draft) (key : String) : Option String :=
  (draft.metadata.get? key).bind Json.string?

end CredentialReach
