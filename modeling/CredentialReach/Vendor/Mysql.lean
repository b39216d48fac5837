import CredentialReach.Mysql.Grants
import CredentialReach.Mysql.Report
import CredentialReach.Mysql.Snapshot
import CredentialReach.Vendor.Connection
import CredentialReach.Vendor.Credential

/-! MySQL connection strings: what an account may do follows from the grants
that its server lists. -/

namespace CredentialReach.Mysql

/-- Where schema and grants are read from. -/
abbrev SnapshotSource := ConnectionString → Except AnalysisFault Snapshot

def Snapshot.ofFile (files : Files) (path : String) : Except AnalysisFault Snapshot := do
  let text ← (files.text path).mapError fun fault => .source path (.unreadable fault)
  (Snapshot.parse text).mapError fun fault => .source path (.malformed fault)

def metadataOf (connection : ConnectionString) (rejections : List Rejection) : NameMap Json :=
  let database := match connection.database with
    | some name => [("database", Json.string name)]
    | none => []
  NameMap.ofList ([("user", .string connection.user), ("host", .string connection.address)]
    ++ database ++ [("grant_errors", .ofTexts (rejections.map (·.message)))])

def Snapshot.outcome (snapshot : Snapshot) : Outcome :=
  (PrivilegeTree.ofSnapshot snapshot).process snapshot.grants

def analyze (source : SnapshotSource) (credential : Credential) :
    Except AnalysisFault Analysis := do
  let text ← credential.require Credential.connectionField
  let connection ← (ConnectionString.parse text).mapError fun fault =>
    .invalidCredential (.connection fault)
  let snapshot ← source connection
  let outcome := snapshot.outcome
  let metadata := metadataOf connection outcome.rejections
  return { result := outcome.tree.toResult connection.address connection.user metadata }

end CredentialReach.Mysql
