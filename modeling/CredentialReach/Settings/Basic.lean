/-! What an analysis goes by. -/

namespace CredentialReach

structure Endpoints where
  figma : Option String := none
  launchDarkly : Option String := none
deriving DecidableEq, Repr

def version : String := "0.4.0"

structure Settings where
  /-- The deadline of a walk, in seconds. -/
  timeoutSeconds : Nat := 30
  requestTimeoutSeconds : Nat := 15
  /-- How long to wait, in milliseconds, after being told to slow down. -/
  rateLimitBackoff : Nat := 1000
  userAgent : String := s!"keyreach/{version}"
  endpoints : Endpoints := {}
deriving DecidableEq, Repr

namespace Settings

def timeout (settings : Settings) : Nat := settings.timeoutSeconds * 1000

def requestTimeout (settings : Settings) : Nat := settings.requestTimeoutSeconds * 1000

end Settings

end CredentialReach
