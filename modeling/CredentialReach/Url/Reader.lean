import CredentialReach.Url.Host
import CredentialReach.Url.Path

/-! Reading absolute addresses, as browsers do. -/

namespace CredentialReach

open Text Url

/-- The parts of an address; those of the user and the path are percent-encoded. -/
structure Url where
  scheme : List Char
  user : List Char := []
  password : Option (List Char) := none
  host : Option Host := none
  port : Option Nat := none
  path : List Char := []

namespace Url

/-- How the part after the scheme is read. -/
inductive SchemeStyle where
  /-- A host after any number of slashes, none of which has to be there. -/
  | web (port : Nat)
  | file
  /-- A host only after two slashes. -/
  | general
deriving DecidableEq, Repr

namespace SchemeStyle

def ofScheme (scheme : List Char) : SchemeStyle :=
  match String.ofList scheme with
  | "http" | "ws" => web 80
  | "https" | "wss" => web 443
  | "ftp" => web 21
  | "file" => file
  | _ => general

/-- Whether a backslash counts as a slash. -/
def backslashes (style : SchemeStyle) : Bool := style != general

def isSlash (style : SchemeStyle) (c : Char) : Bool :=
  c == '/' || (style.backslashes && c == '\\')

/-- Whether the part with user, host and port ends at `c`. -/
def endsAuthority (style : SchemeStyle) (c : Char) : Bool :=
  style.isSlash c || c == '?' || c == '#'

end SchemeStyle

/-- Without surrounding control characters and spaces, tabs and line ends. -/
def clean (text : List Char) : List Char :=
  let outer (c : Char) : Bool := c.toNat ≤ 0x20
  let trimmed := ((text.dropWhile outer).reverse.dropWhile outer).reverse
  trimmed.filter fun c => c != '\t' && c != '\n' && c != '\r'

def isSchemeChar (c : Char) : Bool := c.isAlphanum || c == '+' || c == '-' || c == '.'

/-- The scheme in lower case, and what follows its colon. -/
def readScheme? (text : List Char) : Option (List Char × List Char) :=
  let scheme := text.takeWhile isSchemeChar
  match text.dropWhile isSchemeChar with
  | ':' :: rest => if scheme.head?.any Char.isAlpha then some (lower scheme, rest) else none
  | _ => none

def escapedInUser (c : Char) : Bool :=
  isControl c || " \"#<>?\x60\x7b\x7d/:;=@[\\]^|".toList.contains c

structure Login where
  user : List Char := []
  password : Option (List Char) := none

/-- User and password; a colon with nothing behind it starts no password. -/
def readLogin (text : List Char) : Login :=
  match cutAt? [':'] text with
  | none => { user := percentEncode escapedInUser text }
  | some (user, password) =>
    { user := percentEncode escapedInUser user
      password :=
        if password.isEmpty then none else some (percentEncode escapedInUser password) }

/-- Cuts at the last `mark`. -/
def cutAtLast? (mark : Char) (text : List Char) : Option (List Char × List Char) :=
  (cutAt? [mark] text.reverse).map fun cut => (cut.2.reverse, cut.1.reverse)

/-- The login before the last at sign ahead of the host, and the rest. -/
def takeLogin (style : SchemeStyle) (text : List Char) :
    Except UrlFault (Login × List Char) :=
  let authority := text.takeWhile fun c => !style.endsAuthority c
  match cutAtLast? '@' authority with
  | none => .ok ({}, text)
  | some (login, _) =>
    let rest := text.drop (login.length + 1)
    if login.isEmpty && rest.head?.any style.endsAuthority then .error .emptyHost
    else .ok (readLogin login, rest)

/-- The text of a host, up to a colon outside brackets or the end of the authority. -/
def takeHost (style : SchemeStyle) : (inBrackets : Bool) → List Char → List Char × List Char
  | _, [] => ([], [])
  | inBrackets, c :: rest =>
    if style.endsAuthority c || (c == ':' && !inBrackets) then ([], c :: rest)
    else
      let (host, rest) := takeHost style (c == '[' || (inBrackets && c != ']')) rest
      (c :: host, rest)

def greatestPort : Nat := 65535

/-- A port after its colon; no digits mean none. -/
def takePort (text : List Char) : Except UrlFault (Option Nat × List Char) :=
  let digits := text.takeWhile Char.isDigit
  let rest := text.dropWhile Char.isDigit
  let port := (number? 10 digits).getD 0
  if port > greatestPort then .error .port
  else if rest.head?.all fun c => c == '/' || c == '\\' || c == '?' || c == '#' then
    .ok (if digits.isEmpty then none else some port, rest)
  else .error .port

/-- The path in front of a query or fragment. -/
def readPath (style : SchemeStyle) (text : List Char) : List Char :=
  let path := text.takeWhile fun c => c != '?' && c != '#'
  match path with
  | [] => if style.backslashes then ['/'] else []
  | c :: rest => pathOf (splitWhere style.isSlash (if style.isSlash c then rest else path))

/-- User, host, port and path. -/
def readAuthority (scheme : List Char) (style : SchemeStyle) (text : List Char) :
    Except UrlFault Url := do
  let (login, rest) ← takeLogin style text
  let (hostText, rest) := takeHost style false rest
  let host ← if style.backslashes
    then if hostText.isEmpty then throw .emptyHost else readDomain hostText
    else readHost hostText
  if hostText.isEmpty && rest.head? = some ':' then throw .emptyHost
  let (port, rest) ← match rest with
    | ':' :: rest => takePort rest
    | _ => pure (none, rest)
  if hostText.isEmpty && (!login.user.isEmpty || login.password.isSome) then throw .emptyHost
  return {
    scheme, user := login.user, password := login.password
    host := if hostText.isEmpty then none else some host
    port := if port.any fun port => style = .web port then none else port
    path := readPath style rest }

/-- The host of a file is optional, and so is the letter of a drive instead. -/
def readFile (scheme text : List Char) : Except UrlFault Url :=
  match text with
  | a :: b :: rest =>
    if SchemeStyle.file.isSlash a && SchemeStyle.file.isSlash b then
      let host := rest.takeWhile fun c => !SchemeStyle.file.endsAuthority c
      if host.isEmpty || (host.length == 2 && isDrive host) then
        .ok { scheme, path := readPath .file rest }
      else do
        let found ← readDomain host
        return {
          scheme, path := readPath .file (rest.drop host.length)
          host := if found = .name "localhost".toList then none else some found }
    else .ok { scheme, path := readPath .file text }
  | _ => .ok { scheme, path := readPath .file text }

/-- An address without a host. Unless it starts with a slash its path is taken
as it is. -/
def readHostless (scheme text : List Char) : Url :=
  if text.head? = some '/' then { scheme, path := readPath .general text }
  else { scheme, path := percentEncode isControl (text.takeWhile fun c => c != '?' && c != '#') }

def parse (text : String) : Except UrlFault Url :=
  match readScheme? (clean text.toList) with
  | none => .error .relative
  | some (scheme, rest) =>
    match SchemeStyle.ofScheme scheme with
    | .web port =>
      let style := SchemeStyle.web port
      readAuthority scheme style (rest.dropWhile style.isSlash)
    | .file => readFile scheme rest
    | .general =>
      match after? "//".toList rest with
      | some rest => readAuthority scheme .general rest
      | none => .ok (readHostless scheme rest)

end Url

end CredentialReach
