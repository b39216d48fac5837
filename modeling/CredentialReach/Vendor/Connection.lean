import CredentialReach.Analysis.Result
import CredentialReach.Http.Header
import CredentialReach.Http.Session
import CredentialReach.Settings.Basic
import CredentialReach.Url.Reader
import CredentialReach.Walk.Fault

/-! How an analysis reaches its vendor. -/

namespace CredentialReach

/-- A result, and the failures that left it incomplete. -/
structure Analysis where
  result : AnalysisResult
  partialError : Option WalkError := none

def Analysis.isComplete (analysis : Analysis) : Bool := analysis.partialError.isNone

/-- Where a request goes: absolute addresses are kept, paths follow the base. -/
def Request.url (base : String) (request : Request) : String :=
  let path := request.path.toList
  if "http://".toList.isPrefixOf path || "https://".toList.isPrefixOf path then request.path
  else String.ofList (Text.dropLast '/' base.toList ++ '/' :: path.dropWhile (· == '/'))

def Transport.unreachable (base : String) : Transport := fun request =>
  ⟨0, .error (.failed (request.url base) "network unreachable")⟩

/-- A reply that takes longer than `limit` is not waited for. -/
def Transport.limited (transport : Transport) (base : String) (limit : Nat) : Transport := fun request =>
  let reply := transport request
  if limit < reply.delay then ⟨limit, .error (.timedOut (request.url base))⟩ else reply

theorem Transport.delay_limited_le (transport : Transport) (base : String) (limit : Nat) (request : Request) :
    (transport.limited base limit request).delay ≤ limit := by
  unfold Transport.limited
  dsimp only
  split
  next => exact Nat.le_refl limit
  next inTime => exact Nat.not_lt.mp inTime

/-- The given transport, or else one for a base address, which is checked
together with the headers before anything is sent. -/
def Transport.connect (given : Option Transport) (base : String)
    (authentication : Authentication) (settings : Settings) : Except AnalysisFault Transport := do
  match given with
  | some transport => return transport
  | none =>
    let _ ← (Url.parse base).mapError (.baseUrl base)
    (Header.check settings.userAgent authentication).mapError .transport
    return (Transport.unreachable base).limited base settings.requestTimeout

@[simp] theorem Transport.connect_given (transport : Transport) (base : String)
    (authentication : Authentication) (settings : Settings) :
    connect (some transport) base authentication settings = .ok transport := rfl

end CredentialReach
