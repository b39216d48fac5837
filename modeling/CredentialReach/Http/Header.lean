import CredentialReach.Http.Exchange

/-! The headers that every request carries. -/

namespace CredentialReach

inductive Authentication where
  | bearer (token : String)
  | header (name value : String)
  | anonymous
deriving DecidableEq

namespace Header

def marks : List Char := "!#$%&'*+-.^_\x60|~".toList

/-- Letters and digits of ASCII, and some marks. -/
def isName (name : String) : Bool :=
  !name.isEmpty && name.toList.all fun c => c.isAlphanum || marks.contains c

/-- No control characters but tabs. -/
def isValue (value : String) : Bool :=
  value.toList.all fun c => c == '\t' || (0x20 ≤ c.toNat && c.toNat ≠ 0x7F)

/-- Checks the headers in the order in which they are set. -/
def check (userAgent : String) (authentication : Authentication) :
    Except TransportFault Unit := do
  unless isValue userAgent do throw (.header "user-agent")
  match authentication with
  | .bearer token => unless isValue s!"Bearer {token}" do throw (.header "authorization")
  | .header name value => unless isName name && isValue value do throw (.header name)
  | .anonymous => return

end Header

end CredentialReach
