import CredentialReach.Analysis.Fault
import CredentialReach.Names.Map
import CredentialReach.Text.Printable

/-! Credentials: named secrets, as found by a scanner. -/

namespace CredentialReach

structure Credential where
  fields : NameMap String := ∅

namespace Credential

def tokenField : String := "token"

def connectionField : String := "connection_string"

def ofFields (fields : List (String × String)) : Credential := ⟨NameMap.ofList fields⟩

def token (value : String) : Credential := ofFields [(tokenField, value)]

def get? (credential : Credential) (name : String) : Option String := credential.fields.get? name

/-- The value of a field, without surrounding white space; a blank one counts
as missing. -/
def require (credential : Credential) (name : String) : Except AnalysisFault String :=
  match (credential.get? name).map Text.trimmed with
  | some value => if value.isEmpty then .error (.missingCredential name) else .ok value
  | none => .error (.missingCredential name)

/-- Names the fields and hides their values. -/
def described (credential : Credential) : String :=
  let names := Text.joinWith ", ".toList (credential.fields.names.map Text.quotedForLog)
  String.ofList ("Credential \x7b fields: [".toList ++ names ++ "] \x7d".toList)

end Credential

end CredentialReach
