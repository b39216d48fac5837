import CredentialReach.Json.Basic
import CredentialReach.Json.Fault

/-! Taking values of known types out of a document. A record with fixed fields
is an object with members of these names, or an array of the fields in their
order, where fields with a default may be missing at the end. -/

namespace CredentialReach.Json

abbrev Decoder (α : Type) := Json → Except JsonFault α

def asText : Decoder String
  | string value => .ok value
  | _ => .error (.expected "a text")

/-- A natural number below 2 ^ 64. -/
def asCount : Decoder Nat
  | number (.integer (.ofNat n)) => .ok n
  | _ => .error (.expected "a count")

def asList (decode : Decoder α) : Decoder (List α)
  | array items => items.mapM decode
  | _ => .error (.expected "an array")

def asMap : Decoder (NameMap Json)
  | object members => .ok (NameMap.ofList members)
  | _ => .error (.expected "an object")

def asOptional (decode : Decoder α) : Decoder (Option α)
  | null => .ok none
  | document => some <$> decode document

/-- One of some names, alone or as the only member of an object, with no value. -/
def asName (read : String → Option α) : Decoder α
  | string name | object [(name, null)] =>
    match read name with
    | some value => .ok value
    | none => .error (.expected "a known name")
  | _ => .error (.expected "a name")

def asRecord (fields : List String) : Decoder (List (String × Json))
  | object members => .ok members
  | array items =>
    if items.length ≤ fields.length then .ok (fields.zip items)
    else .error (.expected "fewer items")
  | _ => .error (.expected "a record")

def required (members : List (String × Json)) (name : String) (decode : Decoder α) :
    Except JsonFault α :=
  match NameMap.lookup name members with
  | some value => decode value
  | none => .error (.missing name)

def optional (members : List (String × Json)) (name : String) (absent : α) (decode : Decoder α) :
    Except JsonFault α :=
  match NameMap.lookup name members with
  | some value => decode value
  | none => .ok absent

private theorem sizeOf_of_lookup {name : String} {members : List (String × Json)} {value : Json}
    (found : NameMap.lookup name members = some value) : sizeOf value < sizeOf members := by
  induction members with
  | nil => simp [NameMap.lookup] at found
  | cons head rest ih =>
    obtain ⟨other, first⟩ := head
    simp only [NameMap.lookup] at found
    split at found
    · cases found
      simp only [List.cons.sizeOf_spec, Prod.mk.sizeOf_spec]
      omega
    · have := ih found
      simp only [List.cons.sizeOf_spec]
      omega

private theorem sizeOf_of_lookup_zip {name : String} {fields : List String} {items : List Json}
    {value : Json} (found : NameMap.lookup name (fields.zip items) = some value) :
    sizeOf value < sizeOf items := by
  induction fields generalizing items with
  | nil => simp [NameMap.lookup] at found
  | cons field fields ih =>
    cases items with
    | nil => simp [NameMap.lookup] at found
    | cons item items =>
      simp only [List.zip_cons_cons, NameMap.lookup] at found
      split at found
      · cases found
        simp only [List.cons.sizeOf_spec]
        omega
      · have := ih found
        simp only [List.cons.sizeOf_spec]
        omega

def part? (fields : List String) (name : String) (document : Json) : Option Json :=
  (asRecord fields document).toOption.bind (NameMap.lookup name)

theorem sizeOf_part? {fields : List String} {name : String} {document value : Json}
    (found : document.part? fields name = some value) : sizeOf value < sizeOf document := by
  unfold part? asRecord at found
  split at found
  · have := sizeOf_of_lookup found
    simp only [object.sizeOf_spec]
    omega
  · split at found
    · have := sizeOf_of_lookup_zip found
      simp only [array.sizeOf_spec]
      omega
    · simp [Except.toOption] at found
  · simp [Except.toOption] at found

/-- A record, the one in its member `name`, the one in that record's, and so on
until the member is absent or null. -/
def chain (fields : List String) (name : String) (document : Json) : List Json :=
  match _found : document.part? fields name with
  | none | some .null => [document]
  | some next => document :: chain fields name next
termination_by sizeOf document
decreasing_by exact sizeOf_part? _found

end CredentialReach.Json
