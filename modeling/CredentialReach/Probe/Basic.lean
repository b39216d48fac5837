import CredentialReach.Http.Session
import CredentialReach.Permission.Basic
import CredentialReach.Probe.Scopes

/-! Finding out which scopes a token has by trying calls. Each candidate comes
with a call and with the responses to expect with and without the scope. A
response that reveals the token's scopes settles all candidates at once. -/

namespace CredentialReach

namespace Probe

inductive Status where
  | granted
  | denied
  | unverified
deriving DecidableEq, Repr

def Status.name : Status → String
  | granted => "granted"
  | denied => "denied"
  | unverified => "unverified"

/-- A status code, and a message that the body has to contain. -/
structure Expected where
  status : Nat
  message : Option String := none
deriving DecidableEq, Repr

def Expected.accepts (expected : Expected) (response : Response) : Bool :=
  response.status == expected.status &&
    expected.message.all fun message =>
      Text.contains (plain message.toList) (plain response.body.toList)

inductive Verdict where
  | settled (status : Status)
  | revealed (scopes : List String)
deriving DecidableEq, Repr

/-- What is known after some probes. -/
structure Report where
  statuses : List (String × Status) := []
  identity : Option Json := none
  revealed : Option (List String) := none
  requestsIssued : Nat := 0

namespace Report

def status? (report : Report) (permission : String) : Option Status :=
  report.statuses.lookup permission

def withStatus (report : Report) (status : Status) : List String :=
  (report.statuses.filter (·.2 = status)).map (·.1)

/-- Granted candidates and all that was revealed. -/
def granted (report : Report) : PermissionSet :=
  (NameSet.ofList (report.withStatus .granted)).insertAll (report.revealed.getD [])

end Report

end Probe

/-- A candidate permission and the call that tests it. -/
structure Probe where
  permission : String
  request : Request
  granted : Probe.Expected := ⟨200, none⟩
  denied : Probe.Expected := ⟨403, none⟩
  /-- The body of a granted response is the identity of the caller. -/
  revealsIdentity : Bool := false

namespace Probe

def classify (probe : Probe) (response : Response) : Verdict :=
  if response.status == 200 || probe.granted.accepts response then .settled .granted
  else if response.status == probe.denied.status then
    match revealedScopes? response.body with
    | some scopes => .revealed scopes
    | none =>
      if probe.denied.message.isSome && probe.denied.accepts response then .settled .denied
      else .settled .unverified
  else .settled .unverified

/-- The identity in a response, if that is what it is. -/
def identity? (probe : Probe) (status : Status) (response : Response) :
    Except AnalysisFault (Option Json) :=
  if status = .granted && probe.revealsIdentity then
    match response.json with
    | .ok identity => .ok (some identity)
    | .error fault => .error (.decode probe.request.path fault)
  else .ok none

/-- Every candidate is granted or denied by a list of scopes. -/
def settleAll (probes : List Probe) (scopes : List String) : List (String × Status) :=
  probes.map fun probe =>
    (probe.permission, if probe.permission ∈ scopes then .granted else .denied)

/-- Goes on with `rest` after the probes that `report` is about. -/
def runFrom (send : Nat → Transport) (probes : List Probe) (report : Report) :
    (rest : List Probe) → Session Report
  | [] => pure report
  | probe :: rest => do
    let response ← Session.send (send report.requestsIssued) probe.request
    let issued := report.requestsIssued + 1
    match probe.classify response with
    | .revealed scopes =>
      return { report with
        statuses := settleAll probes scopes, revealed := some scopes, requestsIssued := issued }
    | .settled status =>
      let identity ← Session.lift (probe.identity? status response)
      runFrom send probes
        { report with
          statuses := report.statuses ++ [(probe.permission, status)]
          identity := identity.or report.identity
          requestsIssued := issued } rest

/-- Tries the probes in order, until one response settles all; `send` answers
the request at each position. -/
def run (send : Nat → Transport) (probes : List Probe) : Session Report :=
  runFrom send probes {} probes

end Probe

end CredentialReach
