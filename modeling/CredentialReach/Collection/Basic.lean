import CredentialReach.Http.Exchange
import CredentialReach.Permission.Basic
import CredentialReach.Resource.Basic

/-! Collections: what one request lists, and what can be listed below each
resource that was found. -/

namespace CredentialReach

inductive CollectionFault where
  | malformed (fault : JsonFault)
  | noArray (pointer : String)
  | noId (label pointer : String)
  | noValue (key template : String)
  | other (message : String)
deriving DecidableEq, Repr

def CollectionFault.message : CollectionFault → String
  | malformed fault => fault.message
  | noArray pointer => s!"expected an array at '{pointer}'"
  | noId label pointer => s!"{label} item has no id at '{pointer}'"
  | noValue key template => s!"no value for placeholder '\x7b{key}\x7d' in '{template}'"
  | other message => message

/-- How the resources of a collection are found, below a resource or at the top. -/
structure Source where
  label : String
  /-- Without this permission the collection is passed by. -/
  required : Option String := none
  request : Option Resource → Except CollectionFault Request
  extract : String → Option Resource → Except CollectionFault (List Draft)

/-- A source, and the collections below each resource that it yields. -/
inductive Collection where
  | of (source : Source) (children : List Collection)

namespace Collection

def source : Collection → Source
  | of source _ => source

def children : Collection → List Collection
  | of _ children => children

mutual

def height : Collection → Nat
  | of _ children => 1 + depth children

def depth : List Collection → Nat
  | [] => 0
  | collection :: rest => max collection.height (depth rest)

end

end Collection

end CredentialReach
