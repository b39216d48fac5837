import CredentialReach.Json.Record
import CredentialReach.Resource.Basic

/-! Resources as JSON documents: a containing resource stands in the member
`parent` of the contained one. -/

namespace CredentialReach.Resource

def fields : List String := ["name", "fully_qualified_name", "type", "metadata", "parent"]

/-- The members of a draft; metadata is left out when there is none. -/
def draftMembers (draft : Draft) : List (String × Json) :=
  [("name", .string draft.name), ("fully_qualified_name", .string draft.fullName),
   ("type", .string draft.type)] ++
    if draft.metadata.isEmpty then [] else [("metadata", .ofMap draft.metadata)]

def encodeChain (draft : Draft) : (owners : List Draft) → Json
  | [] => .object (draftMembers draft)
  | owner :: owners =>
    .object (draftMembers draft ++ [("parent", encodeChain owner owners)])

def toJson (resource : Resource) : Json := encodeChain resource.toDraft resource.owners

def decodeDraft (document : Json) : Except JsonFault Draft := do
  let members ← Json.asRecord fields document
  return {
    name := ← Json.required members "name" Json.asText
    fullName := ← Json.required members "fully_qualified_name" Json.asText
    type := ← Json.required members "type" Json.asText
    metadata := ← Json.optional members "metadata" ∅ Json.asMap }

def ofJson (document : Json) : Except JsonFault Resource := do
  match ← (document.chain fields "parent").mapM decodeDraft with
  | [] => throw (.expected "a resource")
  | draft :: owners => return ⟨draft, owners⟩

end CredentialReach.Resource
