import CredentialReach.Decimal.Binary
import CredentialReach.Names.Map

/-! JSON documents. -/

namespace CredentialReach

inductive JsonNumber where
  | integer (value : Int)
  | float (value : Decimal.Binary)
deriving DecidableEq, Repr

/-- The members of an object stand in ascending order of their names, each name
once; `Json.ofMembers` puts them so. -/
inductive Json where
  | null
  | bool (value : Bool)
  | number (value : JsonNumber)
  | string (value : String)
  | array (items : List Json)
  | object (members : List (String × Json))

namespace Json

instance : Inhabited Json := ⟨null⟩

/-- Of two members with one name the later one stands. -/
def ofMembers (members : List (String × Json)) : Json := object (NameMap.ofList members).entries

def ofMap (members : NameMap Json) : Json := object members.entries

def ofNat (n : Nat) : Json := number (.integer n)

def ofTexts (texts : List String) : Json := array (texts.map string)

def ofOption (encode : α → Json) : Option α → Json
  | some value => encode value
  | none => null

def string? : Json → Option String
  | string value => some value
  | _ => none

def array? : Json → Option (List Json)
  | array items => some items
  | _ => none

def member? (name : String) : Json → Option Json
  | object members => NameMap.lookup name members
  | _ => none

end Json

end CredentialReach
