import CredentialReach.Analysis.Aggregate
import CredentialReach.Collection.Listing
import CredentialReach.Vendor.Connection
import CredentialReach.Vendor.Credential
import CredentialReach.Walk.Schedule

/-! LaunchDarkly tokens: the role of a token says what it may do, and a walk
finds what there is. -/

namespace CredentialReach.LaunchDarkly

def defaultBaseUrl : String := "https://app.launchdarkly.com"

/-- A type of resource, with the permissions to read and to write it. -/
structure ResourceType where
  name : String
  read : String
  write : String
deriving DecidableEq, Repr

def resourceTypes : List ResourceType :=
  [⟨"member", "member:read", "member:write"⟩,
   ⟨"application", "application:read", "application:write"⟩,
   ⟨"code_reference_repository", "code_reference:read", "code_reference:write"⟩,
   ⟨"project", "project:read", "project:write"⟩,
   ⟨"environment", "environment:read", "environment:write"⟩,
   ⟨"experiment", "experiment:read", "experiment:write"⟩,
   ⟨"holdout", "holdout:read", "holdout:write"⟩]

/-- Who may write may read. -/
def permissionTable : PermissionTable :=
  resourceTypes.foldl (fun (table : PermissionTable) type =>
    (table.withType type.name [type.read, type.write]).withImplication type.read type.write) {}

/-- What a role may do; an unknown role may read. -/
def rolePermissions (role : String) : PermissionSet :=
  match role with
  | "admin" | "owner" => PermissionSet.full
  | "writer" => NameSet.ofList (resourceTypes.flatMap fun type => [type.read, type.write])
  | "no_access" => ∅
  | _ => NameSet.ofList (resourceTypes.map (·.read))

def defaultRole : String := "reader"

/-! What there is to walk. -/

def ofEnvironment (label type required : String) : Listing :=
  let path :=
    "/api/v2/projects/\x7bparent.parent.key\x7d/environments/\x7bparent.key\x7d/" ++ label
  { label, type, path, itemsAt := "/items", idAt := "/key", nameAt := some "/name"
    metadata := [("key", "/key")], required := some required }

def experiments : Listing := ofEnvironment "experiments" "experiment" "experiment:read"

def holdouts : Listing := ofEnvironment "holdouts" "holdout" "holdout:read"

def environments : Listing where
  label := "environments"
  type := "environment"
  path := "/api/v2/projects/\x7bparent.key\x7d/environments"
  itemsAt := "/items"
  idAt := "/key"
  nameAt := some "/name"
  metadata := [("key", "/key"), ("id", "/_id"), ("critical", "/critical")]
  required := some "environment:read"

def projects : Listing where
  label := "projects"
  type := "project"
  path := "/api/v2/projects"
  itemsAt := "/items"
  idAt := "/key"
  nameAt := some "/name"
  metadata := [("key", "/key"), ("id", "/_id")]
  required := some "project:read"

def members : Listing where
  label := "members"
  type := "member"
  path := "/api/v2/members"
  itemsAt := "/items"
  idAt := "/_id"
  nameAt := some "/email"
  metadata := [("role", "/role")]
  required := some "member:read"

def applications : Listing where
  label := "applications"
  type := "application"
  path := "/api/v2/applications"
  itemsAt := "/items"
  idAt := "/key"
  nameAt := some "/name"
  metadata := [("kind", "/kind")]
  required := some "application:read"

def repositories : Listing where
  label := "code reference repositories"
  type := "code_reference_repository"
  path := "/api/v2/code-refs/repositories"
  itemsAt := "/items"
  idAt := "/name"
  metadata := [("type", "/type"), ("default_branch", "/defaultBranch")]
  required := some "code_reference:read"

def collections : List Collection :=
  [members.above [], applications.above [], repositories.above [],
   projects.above [environments.above [experiments.above [], holdouts.above []]]]

/-! What the vendor says of the token itself. -/

structure CallerIdentity where
  accountId : Option String := none
  tokenId : Option String := none
  tokenName : Option String := none
  memberId : Option String := none
  serviceToken : Bool := false
deriving DecidableEq, Repr

namespace CallerIdentity

open Json.Reader in
def fields : List Json.Reader.Field :=
  [⟨"accountId", false, optional text⟩, ⟨"tokenId", false, optional text⟩,
   ⟨"tokenName", false, optional text⟩, ⟨"memberId", false, optional text⟩,
   ⟨"serviceToken", false, flag⟩]

def parse (body : String) : Except JsonFault CallerIdentity := do
  let document ← (Json.Reader.record fields).run body
  let text (name : String) : Option String := (document.member? name).bind Json.string?
  return {
    accountId := text "accountId", tokenId := text "tokenId", tokenName := text "tokenName"
    memberId := text "memberId"
    serviceToken := match document.member? "serviceToken" with
      | some (.bool value) => value
      | _ => false }

end CallerIdentity

structure Token where
  role : Option String := none
  customRoleIds : List String := []
deriving DecidableEq, Repr

namespace Token

open Json.Reader in
def fields : List Json.Reader.Field :=
  [⟨"role", false, optional text⟩, ⟨"customRoleIds", false, list text⟩]

def parse (body : String) : Except JsonFault Token := do
  let document ← (Json.Reader.record fields).run body
  let ids := ((document.member? "customRoleIds").bind Json.array?).getD []
  return ⟨(document.member? "role").bind Json.string?, ids.filterMap Json.string?⟩

end Token

def accept (path : String) (response : Response) : Except AnalysisFault Unit :=
  if response.status = 401 then .error (.invalidCredential (.rejectedToken "LaunchDarkly"))
  else if !response.isSuccess then .error (.unexpectedStatus path response.status)
  else .ok ()

def fetch (transport : Transport) (path : String) (parse : String → Except JsonFault α) :
    Session α := do
  let response ← Session.send transport (.get path)
  Session.lift (accept path response)
  Session.lift ((parse response.body).mapError (.decode path))

def identityPath : String := "/api/v2/caller-identity"

def tokenPath (id : String) : String := s!"/api/v2/tokens/{id}"

def fetchToken (transport : Transport) (identity : CallerIdentity) : Session (Option Token) :=
  match identity.tokenId with
  | some id => some <$> fetch transport (tokenPath id) Token.parse
  | none => pure none

def roleOf (token : Option Token) : String := (token.bind (·.role)).getD defaultRole

def metadataOf (identity : CallerIdentity) (token : Option Token) : NameMap Json :=
  let known (name : String) (value : Option String) : List (String × Json) :=
    match value with
    | some value => [(name, .string value)]
    | none => []
  let custom := (token.map (·.customRoleIds)).getD []
  NameMap.ofList ([("role", .string (roleOf token)), ("service_token", .bool identity.serviceToken)]
    ++ known "account_id" identity.accountId ++ known "token_id" identity.tokenId
    ++ known "token_name" identity.tokenName ++ known "member_id" identity.memberId
    ++ if custom.isEmpty then [] else [("custom_role_ids", .ofTexts custom)])

/-- The result of a walk with the permissions of the token. -/
def report (permissions : PermissionSet) (metadata : NameMap Json) (outcome : Walk.Outcome) :
    Session Analysis :=
  let result := .aggregate .launchDarkly outcome.graph permissionTable ⟨permissions, []⟩ metadata
  ⟨.ok ⟨result, outcome.error⟩, outcome.sent, outcome.elapsed⟩

def analyze (settings : Settings) (given : Option Transport) (credential : Credential) :
    Session Analysis := do
  let token ← Session.lift (credential.require Credential.tokenField)
  let base := settings.endpoints.launchDarkly.getD defaultBaseUrl
  let transport ← Session.lift <|
    Transport.connect given base (.header "Authorization" token) settings
  let identity ← fetch transport identityPath CallerIdentity.parse
  let token ← fetchToken transport identity
  let permissions := rolePermissions (roleOf token)
  let plan := Walk.Plan.within transport permissions settings.timeout settings.rateLimitBackoff
  report permissions (metadataOf identity token) (plan.walk collections)

end CredentialReach.LaunchDarkly
