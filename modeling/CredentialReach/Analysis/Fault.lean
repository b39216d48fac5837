import CredentialReach.Http.Exchange
import CredentialReach.Mysql.ConnectionString
import CredentialReach.Text.File

/-! Why an analysis came to no result. -/

namespace CredentialReach

inductive CredentialFault where
  | connection (fault : Mysql.ConnectionFault)
  | rejectedToken (vendor : String)
deriving DecidableEq, Repr

def CredentialFault.message : CredentialFault → String
  | connection fault => fault.message
  | rejectedToken vendor => s!"{vendor} rejected the token"

inductive DocumentFault where
  | unreadable (fault : FileFault)
  | malformed (fault : JsonFault)
deriving DecidableEq, Repr

inductive AnalysisFault where
  | missingCredential (field : String)
  | invalidCredential (fault : CredentialFault)
  | transport (fault : TransportFault)
  | decode (endpoint : String) (fault : JsonFault)
  | unexpectedStatus (endpoint : String) (status : Nat)
  | source (path : String) (fault : DocumentFault)
  | baseUrl (url : String) (fault : Url.UrlFault)
deriving DecidableEq, Repr

def AnalysisFault.message : AnalysisFault → String
  | missingCredential field => s!"missing required credential field '{field}'"
  | invalidCredential fault => s!"invalid credential: {fault.message}"
  | transport fault => fault.message
  | decode endpoint fault => s!"failed to decode response from {endpoint}: {fault.message}"
  | unexpectedStatus endpoint status =>
    s!"unexpected status {Nat.repr status} from {endpoint}"
  | source path (.unreadable fault) =>
    s!"grant source error: failed to read {path}: {fault.message}"
  | source path (.malformed fault) =>
    s!"grant source error: failed to parse {path}: {fault.message}"
  | baseUrl url fault => s!"configuration error: invalid base URL '{url}': {fault.message}"

end CredentialReach
