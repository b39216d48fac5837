import CredentialReach.Settings.Basic
import CredentialReach.Text.File
import CredentialReach.Toml.Reader

/-! Settings as TOML documents. What a document leaves out keeps its standard
value; what it says beyond that is ignored. -/

namespace CredentialReach

namespace Toml

def entry? (key : String) : Toml → Option Toml
  | table _ entries => NameMap.lookup key entries
  | _ => none

def asCount : Toml → Except TomlFault Nat
  | integer (.ofNat value) => .ok value
  | _ => .error (unexpected "a number that is not negative")

def asText : Toml → Except TomlFault String
  | string value => .ok value
  | _ => .error (unexpected "a text")

/-- The entry of a key, or else a standard value. -/
def entryOr (standard : α) (read : Toml → Except TomlFault α) (key : String) (document : Toml) :
    Except TomlFault α :=
  match document.entry? key with
  | some entry => read entry
  | none => .ok standard

end Toml

/-- A table names the endpoints, an array lists both of them; a date says
nothing of any. -/
def Endpoints.ofToml : Toml → Except TomlFault Endpoints
  | .array _ (figma :: launchDarkly :: _) =>
    return ⟨some (← figma.asText), some (← launchDarkly.asText)⟩
  | .table origin entries =>
    let address (key : String) : Except TomlFault (Option String) :=
      (Toml.table origin entries).entryOr none (fun entry => some <$> entry.asText) key
    return ⟨← address "figma", ← address "launchdarkly"⟩
  | .datetime _ => .ok {}
  | _ => .error (Toml.unexpected "endpoints")

inductive SettingsFault where
  | unreadable (path : String) (fault : FileFault)
  | malformed (path : String) (fault : TomlFault)
deriving DecidableEq, Repr

def SettingsFault.message : SettingsFault → String
  | unreadable path fault => s!"Failed to read config file '{path}': {fault.message}"
  | malformed path fault => s!"Failed to parse config file '{path}': {fault.message}"

namespace Settings

def ofToml (document : Toml) : Except TomlFault Settings := do
  let standard : Settings := {}
  return {
    timeoutSeconds := ← document.entryOr standard.timeoutSeconds Toml.asCount "timeout_secs"
    requestTimeoutSeconds :=
      ← document.entryOr standard.requestTimeoutSeconds Toml.asCount "request_timeout_secs"
    rateLimitBackoff :=
      ← document.entryOr standard.rateLimitBackoff Toml.asCount "rate_limit_backoff_ms"
    userAgent := ← document.entryOr standard.userAgent Toml.asText "user_agent"
    endpoints := ← document.entryOr standard.endpoints Endpoints.ofToml "endpoints" }

def parse (text : String) : Except TomlFault Settings := do ofToml (← Toml.parse text)

def ofFile (files : Files) (path : String) : Except SettingsFault Settings := do
  let text ← (files.text path).mapError (.unreadable path)
  (parse text).mapError (.malformed path)

end Settings

end CredentialReach
