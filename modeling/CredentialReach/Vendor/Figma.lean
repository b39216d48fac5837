import CredentialReach.Analysis.Aggregate
import CredentialReach.Probe.Basic
import CredentialReach.Vendor.Connection
import CredentialReach.Vendor.Credential

/-! Figma tokens: their scopes are found by probing. -/

namespace CredentialReach.Figma

def defaultBaseUrl : String := "https://api.figma.com"

def tokenHeader : String := "X-Figma-Token"

/-- The scopes a token can have. -/
def scopes : List String :=
  ["files:read", "file_variables:read", "file_variables:write", "file_comments:write",
   "file_dev_resources:read", "file_dev_resources:write", "library_analytics:read",
   "webhooks:write"]

def identityPath : String := "/v1/me"

/-- A path of a file that does not exist. -/
def filePath (rest : String) : String := "/v1/files/0" ++ rest

def denied : Probe.Expected := ⟨403, some "Invalid scope"⟩

def probe (scope : String) (request : Request) (grantedStatus : Nat) : Probe :=
  { permission := scope, request, granted := ⟨grantedStatus, none⟩, denied }

/-- The probes in the order in which they are tried. The first one also tells
whose token it is; the others ask for what cannot exist. -/
def probes : List Probe :=
  [{ probe "files:read" (.get identityPath) 200 with revealsIdentity := true },
   probe "file_variables:read" (.get (filePath "/variables/local")) 404,
   probe "file_variables:write" (.post (filePath "/variables") (.object [])) 400,
   probe "file_comments:write"
     (.post (filePath "/comments") (.object [("message", .string "")])) 400,
   probe "file_dev_resources:read" (.get (filePath "/dev_resources")) 404,
   probe "file_dev_resources:write"
     (.post "/v1/dev_resources" (.object [("dev_resources", .array [])])) 400,
   probe "library_analytics:read"
     (.get "/v1/analytics/libraries/0/component/actions?group_by=component") 404,
   probe "webhooks:write" (.post "/v2/webhooks" (.object [])) 400]

def userType : String := "user"

def tokenType : String := "token"

def permissionTable : PermissionTable :=
  (PermissionTable.withType {} userType scopes).withType tokenType scopes

structure Identity where
  id : String
  handle : String
  email : Option String := none
deriving DecidableEq, Repr

def Identity.ofJson (document : Json) : Except JsonFault Identity := do
  let members ← Json.asRecord ["id", "handle", "email"] document
  return {
    id := ← Json.required members "id" Json.asText
    handle := ← Json.required members "handle" Json.asText
    email := ← Json.optional members "email" none (Json.asOptional Json.asText) }

def Identity.emailMember (identity : Identity) : List (String × Json) :=
  match identity.email with
  | some email => [("email", .string email)]
  | none => []

/-- The one resource that a token reaches: its owner, or the token itself. -/
def owner : Option Identity → Draft
  | some identity =>
    { name := identity.handle, fullName := s!"user/{identity.id}", type := userType
      metadata := NameMap.ofList (("id", .string identity.id) :: identity.emailMember) }
  | none => { name := "personal access token", fullName := "token", type := tokenType }

def metadataOf (report : Probe.Report) (identity : Option Identity) : NameMap Json :=
  let unverified := report.withStatus .unverified
  let whose := match identity with
    | some identity => ("handle", Json.string identity.handle) :: identity.emailMember
    | none => []
  let unsettled :=
    if unverified.isEmpty then [] else [("unverified_scopes", Json.ofTexts unverified)]
  let revealed := match report.revealed with
    | some scopes => [("revealed_scopes", Json.ofTexts scopes)]
    | none => []
  NameMap.ofList (whose ++ unsettled ++ revealed ++
    [("requests_issued", Json.ofNat report.requestsIssued)])

def resultOf (report : Probe.Report) : Except AnalysisFault AnalysisResult := do
  let identity ← report.identity.mapM fun document =>
    (Identity.ofJson document).mapError (.decode identityPath)
  let graph := (({} : ResourceGraph).addRoot (owner identity)).graph
  return .aggregate .figma graph permissionTable ⟨report.granted, []⟩
    (metadataOf report identity)

def analyze (settings : Settings) (given : Option Transport) (credential : Credential) :
    Session Analysis := do
  let token ← Session.lift (credential.require Credential.tokenField)
  let base := settings.endpoints.figma.getD defaultBaseUrl
  let transport ← Session.lift <|
    Transport.connect given base (.header tokenHeader token) settings
  let report ← Probe.run (fun _ => transport) probes
  let result ← Session.lift (resultOf report)
  return { result }

end CredentialReach.Figma
