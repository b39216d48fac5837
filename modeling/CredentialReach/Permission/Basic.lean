import CredentialReach.Json.Record
import CredentialReach.Names.Set

/-! Permissions, sets of held permissions, and the table that says which
permissions a type of resource can carry and which ones imply others. -/

namespace CredentialReach

structure Permission where
  value : String
  /-- The broader permissions it follows from, nearest first. -/
  impliedBy : List String := []
deriving DecidableEq, Repr

namespace Permission

instance : Inhabited Permission := ⟨⟨"", []⟩⟩

def fields : List String := ["value", "parent"]

def encodeChain (value : String) : (impliedBy : List String) → Json
  | [] => .object [("value", .string value)]
  | broader :: rest => .object [("value", .string value), ("parent", encodeChain broader rest)]

def toJson (permission : Permission) : Json := encodeChain permission.value permission.impliedBy

def ofJson (document : Json) : Except JsonFault Permission := do
  let value (document : Json) : Except JsonFault String := do
    Json.required (← Json.asRecord fields document) "value" Json.asText
  match ← (document.chain fields "parent").mapM value with
  | [] => throw (.expected "a permission")
  | value :: impliedBy => return ⟨value, impliedBy⟩

end Permission

def fullAccess : String := "full_access"

abbrev PermissionSet := NameSet

namespace PermissionSet

def full : PermissionSet := NameSet.ofList [fullAccess]

def hasFullAccess (held : PermissionSet) : Bool := held.contains fullAccess

/-- Whether `required` is met; nothing required always is. -/
def meets (held : PermissionSet) (required : Option String) : Bool :=
  match required with
  | none => true
  | some permission => held.contains permission || held.hasFullAccess

end PermissionSet

structure PermissionTable where
  byType : NameMap (List String) := ∅
  impliedBy : NameMap String := ∅

namespace PermissionTable

def withType (table : PermissionTable) (type : String) (permissions : List String) :
    PermissionTable :=
  { table with byType := table.byType.insert type permissions }

def withImplication (table : PermissionTable) (permission broader : String) : PermissionTable :=
  { table with impliedBy := table.impliedBy.insert permission broader }

/-- Of two declarations for one permission the later one stands. -/
@[simp] theorem get?_impliedBy_withImplication (table : PermissionTable) (permission broader other : String) :
    (table.withImplication permission broader).impliedBy.get? other =
      if other = permission then some broader else table.impliedBy.get? other :=
  NameMap.get?_insert ..

@[simp] theorem impliedBy_withType (table : PermissionTable) (type : String) (permissions : List String) :
    (table.withType type permissions).impliedBy = table.impliedBy := rfl

/-- The permissions that a resource of a type can carry. -/
def applicable (table : PermissionTable) (type : String) : List String :=
  (table.byType.get? type).getD []

/-- The permissions that imply the last one, up to the first that was `seen`. -/
def follow (table : PermissionTable) : (steps : Nat) → (seen : List String) → String → List String
  | 0, _, _ => []
  | steps + 1, seen, permission =>
    match table.impliedBy.get? permission with
    | none => []
    | some broader =>
      if broader ∈ seen then []
      else broader :: table.follow steps (broader :: seen) broader

/-- The permissions that imply `permission`, nearest first and each once. -/
def implying (table : PermissionTable) (permission : String) : List String :=
  table.follow table.impliedBy.entries.length [permission] permission

def permission (table : PermissionTable) (value : String) : Permission :=
  ⟨value, table.implying value⟩

/-- Whether `permission` is held itself, or one that implies it, or all are. -/
def grants (table : PermissionTable) (held : PermissionSet) (permission : String) : Bool :=
  held.contains permission || held.hasFullAccess || (table.implying permission).any held.contains

/-- What `held` grants on a resource of a type. A permission that is itself
held follows from no other. -/
def resolve (table : PermissionTable) (type : String) (held : PermissionSet) : List Permission :=
  ((table.applicable type).filter (table.grants held)).map fun value =>
    if held.contains value then ⟨value, []⟩ else table.permission value

end PermissionTable

end CredentialReach
