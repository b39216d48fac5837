import CredentialReach.Collection.Basic
import CredentialReach.Collection.Template
import CredentialReach.Json.Pointer
import CredentialReach.Json.Printer

/-! Collections that are listed as JSON arrays, described by where things stand. -/

namespace CredentialReach

/-- Path and name template may refer to the resources that contain the items:
`parent.name`, `parent.fqn` and `parent.` with a metadata key, where `parent.`
can be repeated to reach further up. -/
structure Listing where
  label : String
  type : String
  path : String
  /-- Where the array stands in a response. -/
  itemsAt : String := ""
  idAt : String := "/id"
  /-- The id serves as a name where there is none. -/
  nameAt : Option String := none
  /-- Instead of the containing resource's full name, type and id. Here `id` and
  `name` refer to the item. -/
  fullName : Option String := none
  /-- Keys and where their values stand in an item. -/
  metadata : List (String × String) := []
  required : Option String := none

namespace Listing

/-- Texts, numbers and truth values have a text. -/
def scalarText? : Json → Option String
  | .string value => some value
  | .number value => some (String.ofList (Json.numberText value))
  | .bool value => some (if value then "true" else "false")
  | _ => none

def scalarAt? (pointer : String) (item : Json) : Option String :=
  (item.pointer? pointer).bind scalarText?

def fieldOf (resource : Draft) (key : List Char) : Option String :=
  match String.ofList key with
  | "name" => some resource.name
  | "fqn" => some resource.fullName
  | key => (resource.metadata.get? key).bind scalarText?

def upward : List Char := "parent.".toList

/-- What a key says of the containing resources, nearest first. -/
def ownerValue? : (owners : List Draft) → (key : List Char) → Option String
  | [], _ => none
  | owner :: owners, key =>
    match Text.after? upward key with
    | none => none
    | some rest => if upward.isPrefixOf rest then ownerValue? owners rest else fieldOf owner rest

/-- A resource and those that contain it. -/
def lineage : Option Resource → List Draft
  | none => []
  | some resource => resource.toDraft :: resource.owners

def fill (template : String) (value? : List Char → Option String) :
    Except CollectionFault String :=
  (Template.render template value?).mapError fun key => .noValue (String.ofList key) template

def request (listing : Listing) (parent : Option Resource) : Except CollectionFault Request :=
  Request.get <$> fill listing.path (ownerValue? (lineage parent))

/-- What a name template can refer to. -/
def itemValue? (id name : String) (parent : Option Resource) (key : List Char) : Option String :=
  match String.ofList key with
  | "id" => some id
  | "name" => some name
  | _ => ownerValue? (lineage parent) key

def fullNameOf (listing : Listing) (id name : String) (parent : Option Resource) :
    Except CollectionFault String :=
  match listing.fullName, parent with
  | some template, _ => fill template (itemValue? id name parent)
  | none, some parent => .ok s!"{parent.fullName}/{listing.type}/{id}"
  | none, none => .ok s!"{listing.type}/{id}"

def metadataOf (listing : Listing) (item : Json) : NameMap Json :=
  NameMap.ofList <| listing.metadata.filterMap fun (key, pointer) =>
    (item.pointer? pointer).map fun value => (key, value)

def draft (listing : Listing) (parent : Option Resource) (item : Json) :
    Except CollectionFault Draft := do
  let some id := scalarAt? listing.idAt item | throw (.noId listing.label listing.idAt)
  let name := (listing.nameAt.bind (scalarAt? · item)).getD id
  let fullName ← listing.fullNameOf id name parent
  return { name, fullName, type := listing.type, metadata := listing.metadataOf item }

/-- One draft for each item, or none at all. -/
def extract (listing : Listing) (body : String) (parent : Option Resource) :
    Except CollectionFault (List Draft) := do
  let document ← (Json.parse body).mapError .malformed
  let some items := (document.pointer? listing.itemsAt).bind Json.array?
    | throw (.noArray listing.itemsAt)
  items.mapM (listing.draft parent)

def source (listing : Listing) : Source where
  label := listing.label
  required := listing.required
  request := listing.request
  extract := listing.extract

def above (listing : Listing) (children : List Collection) : Collection :=
  .of listing.source children

end Listing

end CredentialReach
