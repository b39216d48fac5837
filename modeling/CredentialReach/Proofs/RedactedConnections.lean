import CredentialReach.Proofs.WrittenAddresses

/-! Connection strings as they are shown. Whatever text was read, what is shown of the connection is
read again as the same connection, but for the password, and is shown as the same text. -/

namespace CredentialReach.Mysql.ConnectionString

open Text Url

variable {text : String} {connection : ConnectionString} {url : Url} {host : Host} {path : List Char}

def ofUrl (url : Url) (host : Host) : ConnectionString where
  user := String.ofList url.user
  password := url.password.map String.ofList
  host := String.ofList host.text
  port := url.port.getD defaultPort
  database :=
    if (trimSlashes url.path).isEmpty then none else some (String.ofList (trimSlashes url.path))

private theorem parse_of_url (parsed : Url.parse (trimmed text) = .ok url) (named : url.scheme = "mysql".toList)
    (hosted : url.host = some host) (some : url.user ≠ []) : parse text = .ok (ofUrl url host) := by
  have known : url.user.isEmpty = false := by simpa using some
  simp only [parse, parsed, Except.mapError, bind, Except.bind, named, hosted, known, ne_eq,
    not_true_eq_false, if_false, Bool.false_eq_true]
  rfl

private theorem exists_url (read : parse text = .ok connection) : ∃ url host,
    Url.parse (trimmed text) = .ok url ∧ url.scheme = "mysql".toList ∧ url.host = some host ∧
      url.user ≠ [] ∧ ofUrl url host = connection := by
  cases parsed : Url.parse (trimmed text) with
  | error fault =>
    rw [parse, parsed] at read
    cases read
  | ok url =>
    by_cases named : url.scheme = "mysql".toList
    · cases hosted : url.host with
      | none =>
        simp only [parse, parsed, Except.mapError, bind, Except.bind, named, hosted, ne_eq,
          not_true_eq_false, if_false] at read
        cases read
      | some host =>
        by_cases some : url.user = []
        · simp only [parse, parsed, Except.mapError, bind, Except.bind, named, hosted, some, ne_eq,
            not_true_eq_false, if_false, List.isEmpty_nil, if_true] at read
          cases read
        · rw [parse_of_url parsed named hosted some] at read
          exact ⟨url, host, rfl, named, hosted, some, Except.ok.inj read⟩
    · simp only [parse, parsed, Except.mapError, bind, Except.bind, ne_eq, named, not_false_eq_true,
        if_true] at read
      cases read

def databasePath (path : List Char) : List Char :=
  if (trimSlashes path).isEmpty then [] else '/' :: trimSlashes path

private theorem trimSlashes_trimSlashes (path : List Char) : trimSlashes (trimSlashes path) = trimSlashes path := by
  have bare : (trimSlashes path).dropWhile (· == '/') = trimSlashes path := by
    cases first : trimSlashes path with
    | nil => rfl
    | cons c rest =>
      have start : (path.dropWhile (· == '/')).head? = some c := by
        obtain ⟨dropped, whole⟩ : trimSlashes path <+: path.dropWhile (· == '/') :=
          List.rdropWhile_prefix _ _
        rw [← whole, first]
        rfl
      have other := List.head?_dropWhile_not (· == '/') path
      rw [start] at other
      exact List.dropWhile_cons_of_neg (by simpa using other)
  rw [trimSlashes, bare, trimSlashes, dropLast_eq, dropLast_eq, List.rdropWhile_idempotent]

private theorem trimSlashes_databasePath (path : List Char) : trimSlashes (databasePath path) = trimSlashes path := by
  unfold databasePath
  split
  next none => exact (List.isEmpty_iff.mp none).symm
  next => exact trimSlashes_trimSlashes path

private theorem isRooted_databasePath (path : List Char) : IsRooted (databasePath path) := by
  unfold databasePath
  split
  next => exact fun c none => nomatch none
  next => exact fun c first => (Option.some.inj first).symm

private theorem isWalked_databasePath (walked : IsWalked path) : IsWalked (databasePath path) := by
  unfold databasePath
  split
  next => exact isWalked_nil
  next => exact isWalked_slash.mpr walked.dropWhile.rdropWhile

def hidden : List Char := "***".toList

theorem toList_redacted (connection : ConnectionString) : connection.redacted.toList =
    opening ++ (connection.user.toList ++ (if connection.password.isSome then ':' :: hidden else []) ++
      '@' :: (connection.host.toList ++ ':' :: (Nat.toDigits 10 connection.port ++
        (match connection.database with
          | some name => '/' :: name.toList
          | none => [])))) := by
  have first : "mysql://".toList = opening := rfl
  have secret : ":***".toList = ':' :: hidden := rfl
  have sign : "@".toList = ['@'] := rfl
  have colon : ":".toList = [':'] := rfl
  have slash : "/".toList = ['/'] := rfl
  have empty : "".toList = [] := rfl
  obtain ⟨user, password, host, port, database⟩ := connection
  cases password <;> cases database <;>
    simp only [redacted, address, toString, String.toList_append, first, secret, sign, colon, slash,
      empty, Nat.toList_repr, Option.isSome_some, Option.isSome_none, Bool.false_eq_true, if_true, if_false,
      List.append_assoc, List.cons_append, List.nil_append]

private theorem redacted_ofUrl (url : Url) (host : Host) : (ofUrl url host).redacted = String.ofList
    (opening ++ authorityText ⟨url.user, url.password.map fun _ => hidden⟩ host
      (url.port.getD defaultPort) (databasePath url.path)) := by
  have login : Login.written ⟨url.user, url.password.map fun _ => hidden⟩ =
      url.user ++ if (url.password.map String.ofList).isSome then ':' :: hidden else [] := by
    cases url.password <;> rfl
  have path : databasePath url.path = match (ofUrl url host).database with
      | some name => '/' :: name.toList
      | none => [] := by
    unfold databasePath ofUrl
    split <;> simp
  refine String.toList_inj.mp ?_
  rw [toList_redacted, String.toList_ofList, authorityText, login, path]
  simp [ofUrl]

def shown (url : Url) (host : Host) : Url where
  scheme := "mysql".toList
  user := url.user
  password := url.password.map fun _ => hidden
  host := some host
  port := some (url.port.getD defaultPort)
  path := databasePath url.path

private theorem parse_redacted_ofUrl (normal : url.IsNormal) (hosted : url.host = some host)
    (some : url.user ≠ []) : Url.parse (trimmed (ofUrl url host).redacted) = .ok (shown url host) := by
  let login : Login := ⟨url.user, url.password.map fun _ => hidden⟩
  have kept : login.IsNormal := by
    refine ⟨some, normal.user, fun password known => ?_⟩
    obtain ⟨_, -, rfl⟩ := Option.map_eq_some_iff.mp known
    exact ⟨by decide, forall_mem_of_all (by decide)⟩
  have general := normal.host host hosted
  have small : url.port.getD defaultPort ≤ greatestPort := by
    cases known : url.port with
    | none => decide
    | some port => exact normal.port port known
  have walked := isWalked_databasePath normal.path
  have visible : ∀ c ∈ opening ++ authorityText login host (url.port.getD defaultPort) (databasePath url.path),
      isVisible c = true := by
    have first : ∀ c ∈ opening, isVisible c = true := forall_mem_of_all (by decide)
    exact List.forall_mem_append.mpr ⟨first, isVisible_authorityText kept general walked⟩
  rw [redacted_ofUrl, trimmed, String.toList_ofList, trim_of_isVisible visible,
    parse_of_clean (by rw [String.toList_ofList, clean_of_isVisible visible])]
  exact readAuthority_authorityText kept general small (isRooted_databasePath url.path) walked

/-- What is shown of a connection is read as the same connection with three stars for its password, if
it has one. -/
theorem parse_redacted (read : parse text = .ok connection) :
    parse connection.redacted = .ok { connection with password := connection.password.map fun _ => "***" } ∧
      { connection with password := connection.password.map fun _ => "***" }.redacted = connection.redacted := by
  obtain ⟨url, host, parsed, named, hosted, some, rfl⟩ := exists_url read
  have general : SchemeStyle.ofScheme url.scheme = .general := by rw [named]; rfl
  have normal := isNormal_of_parse parsed general (by rw [hosted]; rfl)
  have again := parse_of_url (parse_redacted_ofUrl normal hosted some) rfl rfl some
  have same : ofUrl (shown url host) host =
      { ofUrl url host with password := (ofUrl url host).password.map fun _ => "***" } := by
    have password : (url.password.map fun _ => hidden).map String.ofList =
        (url.password.map String.ofList).map fun _ => "***" := by
      cases url.password <;> rfl
    simp only [ofUrl, shown, trimSlashes_databasePath, password, Option.getD_some]
  refine ⟨same ▸ again, String.toList_inj.mp ?_⟩
  rw [toList_redacted, toList_redacted]
  simp only [Option.isSome_map]

/-- A text with an encoded user, a password with an at sign, an address with zeros in a row, dotted steps
and a query is shown without any of them. -/
theorem parse_redacted_of_ragged :
    let text : String := " MySQL://é:x@y@[1:0:0:2:0:0:0:0]:0/C:/../a//b/%2e%2E/./?q "
    let connection : ConnectionString := ⟨"%C3%A9", some "x%40y", "[1:0:0:2::]", 0, some "C:/a"⟩
    let masked : ConnectionString := { connection with password := some "***" }
    parse text = .ok connection ∧ connection.redacted = "mysql://%C3%A9:***@[1:0:0:2::]:0/C:/a" ∧
      parse connection.redacted = .ok masked ∧ masked.redacted = connection.redacted := by
  intro text connection masked
  have read : parse text = .ok connection := by decide +kernel
  have written : connection.redacted = "mysql://%C3%A9:***@[1:0:0:2::]:0/C:/a" := by decide +kernel
  obtain ⟨again, same⟩ := parse_redacted read
  exact ⟨read, written, again, same⟩

end CredentialReach.Mysql.ConnectionString
