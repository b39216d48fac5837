import CredentialReach.Json.Reader

/-! Requests to a vendor, and what comes back. -/

namespace CredentialReach

inductive Method where
  | get
  | post
deriving DecidableEq, Repr

def Method.name : Method → String
  | get => "GET"
  | post => "POST"

structure Request where
  method : Method
  path : String
  body : Option Json := none

namespace Request

def get (path : String) : Request := { method := .get, path }

def post (path : String) (body : Json) : Request := { method := .post, path, body := some body }

end Request

structure Response where
  status : Nat
  body : String
deriving DecidableEq, Repr

namespace Response

def isSuccess (response : Response) : Bool := 200 ≤ response.status && response.status < 300

def json (response : Response) : Except JsonFault Json := Json.parse response.body

end Response

inductive TransportFault where
  | failed (url reason : String)
  | timedOut (url : String)
  | header (name : String)
  | client (reason : String)
deriving DecidableEq, Repr

def TransportFault.message : TransportFault → String
  | failed url reason => s!"request to {url} failed: {reason}"
  | timedOut url => s!"request to {url} timed out"
  | header name => s!"invalid header value for '{name}'"
  | client reason => s!"failed to build HTTP client: {reason}"

/-- What a request comes to, and after how many milliseconds. -/
structure Reply where
  delay : Nat
  outcome : Except TransportFault Response

abbrev Transport := Request → Reply

end CredentialReach
