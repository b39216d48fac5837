import CredentialReach.Proofs.AddressHosts
import CredentialReach.Proofs.AddressPaths
import CredentialReach.Proofs.Traversals

/-! Addresses as they are written. Where a host comes after two slashes only, what is read as an address
has nothing left to encode and no step left to walk. So the text that is written for it is read as the
same address. -/

namespace CredentialReach.Url

open Text

variable {scheme text rest : List Char} {style : SchemeStyle} {login : Login} {url : Url}

/-- How a host is read depends on the scheme. -/
def hostOf (style : SchemeStyle) (text : List Char) : Except UrlFault Host :=
  if style.backslashes then
    if text.isEmpty then .error .emptyHost else readDomain text
  else readHost text

def portOf (text : List Char) : Except UrlFault (Option Nat × List Char) :=
  match text with
  | ':' :: rest => takePort rest
  | _ => .ok (none, text)

private theorem hostOf_bind {α : Type} (style : SchemeStyle) (text : List Char)
    (next : Host → Except UrlFault α) : hostOf style text >>= next =
      if style.backslashes then
        if text.isEmpty then throw .emptyHost >>= next else readDomain text >>= next
      else readHost text >>= next := by
  unfold hostOf
  split
  next => split <;> rfl
  next => rfl

private theorem portOf_bind {α : Type} (text : List Char)
    (next : Option Nat × List Char → Except UrlFault α) : portOf text >>= next =
      match text with
      | ':' :: rest => takePort rest >>= next
      | _ => pure (none, text) >>= next := by
  unfold portOf
  split <;> rfl

/-- What an address that is read is put together from. -/
theorem exists_of_readAuthority (read : readAuthority scheme style text = .ok url) :
    ∃ login rest hostText behind host port after,
      takeLogin style text = .ok (login, rest) ∧ hostOf style hostText = .ok host ∧
        portOf behind = .ok (port, after) ∧
        url = {
          scheme, user := login.user, password := login.password
          host := if hostText.isEmpty then none else some host
          port := if port.any fun port => style = .web port then none else port
          path := readPath style after } := by
  unfold readAuthority at read
  -- The reader goes on behind a host in two places, and behind a port in two as well. With the cases in
  -- one function each, there is one step after the other.
  obtain ⟨⟨login, rest⟩, taken, read⟩ := bind_eq_ok_iff.mp read
  dsimp only at read
  generalize takeHost style false rest = parts at read
  obtain ⟨hostText, behind⟩ := parts
  dsimp only at read
  obtain ⟨host, found, read⟩ := bind_eq_ok_iff.mp ((hostOf_bind style hostText _).trans read)
  split at read
  next => cases read
  next =>
    obtain ⟨⟨port, after⟩, ported, read⟩ := bind_eq_ok_iff.mp ((portOf_bind behind _).trans read)
    dsimp only at read
    split at read
    next => cases read
    next =>
      obtain rfl := Except.ok.inj read
      exact ⟨login, rest, hostText, behind, host, port, after, taken, found, ported, rfl⟩

private theorem scheme_of_readFile (read : readFile scheme text = .ok url) : url.scheme = scheme := by
  unfold readFile at read
  split at read
  next =>
    split at read
    next =>
      dsimp only at read
      split at read
      next =>
        obtain rfl := Except.ok.inj read
        rfl
      next =>
        obtain ⟨found, -, read⟩ := bind_eq_ok_iff.mp read
        obtain rfl := Except.ok.inj read
        rfl
    next =>
      obtain rfl := Except.ok.inj read
      rfl
  next =>
    obtain rfl := Except.ok.inj read
    rfl

/-- An address of which no part changes when it is read. -/
structure IsNormal (url : Url) : Prop where
  user : ∀ c ∈ url.user, escapedInUser c = false
  host : ∀ host, url.host = some host → host.IsGeneral
  port : ∀ port, url.port = some port → port ≤ greatestPort
  path : IsWalked url.path

private theorem user_of_takeLogin (taken : takeLogin style text = .ok (login, rest)) :
    ∀ c ∈ login.user, escapedInUser c = false := by
  have encoded (text : List Char) : ∀ c ∈ percentEncode escapedInUser text, escapedInUser c = false :=
    fun c => unescaped_of_mem (by decide)
  unfold takeLogin at taken
  dsimp only at taken
  split at taken
  next =>
    cases taken
    exact fun c none => absurd none List.not_mem_nil
  next =>
    split at taken
    next => cases taken
    next =>
      cases taken
      unfold readLogin
      split
      · exact encoded _
      · exact encoded _

private theorem port_le_of_portOf {port : Nat} (read : portOf text = .ok (some port, rest)) :
    port ≤ greatestPort := by
  unfold portOf at read
  split at read
  next =>
    unfold takePort at read
    dsimp only at read
    split at read
    next => cases read
    next small =>
      split at read
      next =>
        obtain ⟨found, -⟩ := Prod.mk.inj (Except.ok.inj read)
        split at found
        next => cases found
        next =>
          obtain rfl := Option.some.inj found
          exact Nat.le_of_not_lt small
      next => cases read
  next => cases read

private theorem isNormal_of_readAuthority (read : readAuthority scheme .general text = .ok url) :
    url.IsNormal := by
  obtain ⟨login, rest, hostText, behind, host, port, after, taken, found, ported, rfl⟩ :=
    exists_of_readAuthority read
  refine ⟨user_of_takeLogin taken, fun other hosted => ?_, fun number numbered => ?_, isWalked_readPath after⟩
  · dsimp only at hosted
    split at hosted
    next => cases hosted
    next some =>
      obtain rfl := Option.some.inj hosted
      exact isGeneral_of_readHost (by simpa using some) found
  · dsimp only at numbered
    split at numbered
    next => cases numbered
    next => exact port_le_of_portOf (numbered ▸ ported)

theorem isNormal_of_parse {text : String} (read : Url.parse text = .ok url)
    (general : SchemeStyle.ofScheme url.scheme = .general) (hosted : url.host.isSome) : url.IsNormal := by
  unfold Url.parse at read
  split at read
  next => cases read
  next scheme rest _ =>
    split at read
    next port web =>
      obtain ⟨_, _, _, _, _, _, _, -, -, -, rfl⟩ := exists_of_readAuthority read
      cases web.symm.trans general
    next file =>
      rw [scheme_of_readFile read, file] at general
      cases general
    next =>
      split at read
      next => exact isNormal_of_readAuthority read
      next =>
        obtain rfl := Except.ok.inj read
        unfold readHostless at hosted
        split at hosted <;> cases hosted

def Login.written (login : Login) : List Char :=
  login.user ++ match login.password with
    | some password => ':' :: password
    | none => []

structure Login.IsNormal (login : Login) : Prop where
  nonempty : login.user ≠ []
  user : ∀ c ∈ login.user, escapedInUser c = false
  password : ∀ password, login.password = some password →
    password ≠ [] ∧ ∀ c ∈ password, escapedInUser c = false

private theorem Login.IsNormal.of_mem_written (normal : login.IsNormal) {c : Char} (member : c ∈ login.written) :
    c = ':' ∨ escapedInUser c = false := by
  rcases List.mem_append.mp member with inside | later
  · exact .inr (normal.user c inside)
  · split at later
    next password known =>
      rcases List.mem_cons.mp later with colon | inside
      · exact .inl colon
      · exact .inr ((normal.password password known).2 c inside)
    next => cases later

private theorem Login.IsNormal.readLogin_written (normal : login.IsNormal) : readLogin login.written = login := by
  have single : ':' ∉ login.user := fun member => absurd (normal.user ':' member) (by decide)
  obtain ⟨user, password⟩ := login
  have kept : percentEncode escapedInUser user = user := percentEncode_of_unescaped normal.user
  cases password with
  | none =>
    have uncut : cutAt? [':'] user = none := cutAt?_eq_none (clear_of_not_mem single []) (by decide)
    rw [Login.written, List.append_nil, readLogin, uncut]
    exact congrArg (Login.mk · none) kept
  | some password =>
    obtain ⟨some, unescaped⟩ := normal.password password rfl
    rw [Login.written, readLogin_password single some, kept, percentEncode_of_unescaped unescaped]

def authorityText (login : Login) (host : Host) (port : Nat) (path : List Char) : List Char :=
  login.written ++ '@' :: (host.text ++ ':' :: (Nat.toDigits 10 port ++ path))

variable {host : Host} {port : Nat} {path : List Char}

/-- A path begins with a slash, if there is one. -/
def IsRooted (path : List Char) : Prop := ∀ c ∈ path.head?, c = '/'

theorem IsRooted.takeWhile_eq_nil (rooted : IsRooted path) {p : Char → Bool} (stops : p '/' = false) :
    path.takeWhile p = [] := by
  cases path with
  | nil => rfl
  | cons c rest =>
    obtain rfl := rooted c rfl
    exact List.takeWhile_cons_of_neg (by simp [stops])

private theorem IsRooted.dropWhile_eq_self (rooted : IsRooted path) {p : Char → Bool} (stops : p '/' = false) :
    path.dropWhile p = path := by
  have whole := List.takeWhile_append_dropWhile (p := p) (l := path)
  rwa [rooted.takeWhile_eq_nil stops, List.nil_append] at whole

private theorem takePort_toDigits (small : port ≤ greatestPort) (rooted : IsRooted path) :
    takePort (Nat.toDigits 10 port ++ path) = .ok (some port, path) := by
  have digits : ∀ c ∈ Nat.toDigits 10 port, c.isDigit = true :=
    fun c => Nat.isDigit_of_mem_toDigits (by decide) (by decide)
  have taken : (Nat.toDigits 10 port ++ path).takeWhile Char.isDigit = Nat.toDigits 10 port := by
    rw [List.takeWhile_append_of_pos digits, rooted.takeWhile_eq_nil (by decide), List.append_nil]
  have left : (Nat.toDigits 10 port ++ path).dropWhile Char.isDigit = path := by
    rw [List.dropWhile_append_of_pos digits, rooted.dropWhile_eq_self (by decide)]
  have ends : path.head?.all (fun c => c == '/' || c == '\\' || c == '?' || c == '#') = true := by
    cases path with
    | nil => rfl
    | cons c rest =>
      obtain rfl := rooted c rfl
      rfl
  have within : ¬ port > greatestPort := Nat.not_lt.mpr small
  have written : (Nat.toDigits 10 port).isEmpty = false := by simp
  simp [takePort, taken, left, number?_toDigits, ends, within, written]

theorem Login.IsNormal.inside (normal : login.IsNormal) : Inside login.written := by
  refine inside_of_free fun c member => ?_
  rcases normal.of_mem_written member with rfl | unescaped
  · decide
  · exact ⟨ne_of_unescaped unescaped (by decide), ne_of_unescaped unescaped (by decide),
      ne_of_unescaped unescaped (by decide)⟩

private theorem takeLogin_authorityText (normal : login.IsNormal) (general : host.IsGeneral)
    (rooted : IsRooted path) :
    takeLogin .general (authorityText login host port path) =
      .ok (login, host.text ++ ':' :: (Nat.toDigits 10 port ++ path)) := by
  let behind := host.text ++ ':' :: Nat.toDigits 10 port
  have plain : ∀ c ∈ behind, SchemeStyle.general.endsAuthority c = false ∧ c ≠ '@' := by
    intro c member
    rcases List.mem_append.mp member with inside | later
    · exact (general.of_mem_text inside).2
    · have marks : ∀ c ∈ ':' :: digitChars,
          SchemeStyle.general.endsAuthority c = false ∧ c ≠ '@' := forall_mem_of_all (by decide)
      refine marks c (List.mem_cons.mpr ((List.mem_cons.mp later).imp_right fun digit => ?_))
      exact mem_toDigits (by decide) (by decide) port c digit
  have inside : Inside (login.written ++ '@' :: behind) := by
    intro c member
    rcases List.mem_append.mp member with first | later
    · exact normal.inside c first
    · rcases List.mem_cons.mp later with rfl | last
      · rfl
      · exact (plain c last).1
  have last : '@' ∉ behind := fun member => (plain '@' member).2 rfl
  have whole : authorityText login host port path = (login.written ++ '@' :: behind) ++ path := by
    simp [authorityText, behind]
  have authority : (authorityText login host port path).takeWhile
      (fun c => !SchemeStyle.general.endsAuthority c) = login.written ++ '@' :: behind := by
    rw [whole, takeWhile_inside inside, rooted.takeWhile_eq_nil (by decide), List.append_nil]
  have some : login.written ≠ [] := List.append_ne_nil_of_left_ne_nil normal.nonempty _
  have after : (authorityText login host port path).drop (login.written.length + 1) =
      host.text ++ ':' :: (Nat.toDigits 10 port ++ path) := by
    rw [authorityText, ← List.drop_drop, List.drop_left]
    rfl
  rw [takeLogin_of_cut (authority ▸ cutAtLast?_append last login.written) some, normal.readLogin_written,
    after]

private theorem readPath_of_isRooted (rooted : IsRooted path) (walked : IsWalked path) :
    readPath .general path = path := by
  cases path with
  | nil => rfl
  | cons c rest =>
    obtain rfl := rooted c rfl
    exact readPath_of_isWalked (isWalked_slash.mp walked)

/-- The text of an address is read as that address. -/
theorem readAuthority_authorityText (normal : login.IsNormal) (general : host.IsGeneral)
    (small : port ≤ greatestPort) (rooted : IsRooted path) (walked : IsWalked path) :
    readAuthority scheme .general (authorityText login host port path) = .ok {
      scheme, user := login.user, password := login.password
      host := some host, port := some port, path } := by
  have plain : SchemeStyle.general.backslashes = false := rfl
  have hosted : host.text.isEmpty = false := by simpa using general.text_ne_nil
  simp only [readAuthority, takeLogin_authorityText normal general rooted, general.takeHost_text,
    general.readHost_text, takePort_toDigits small rooted, readPath_of_isRooted rooted walked, plain,
    hosted, bind, Except.bind, pure, Except.pure, Bool.false_and, Bool.false_eq_true, if_false]
  rfl

/-- The text of an address is left as it is before it is read. -/
theorem isVisible_authorityText (normal : login.IsNormal) (general : host.IsGeneral)
    (walked : IsWalked path) : ∀ c ∈ authorityText login host port path, isVisible c = true := by
  have inUser (c : Char) (unescaped : escapedInUser c = false) : isVisible c = true :=
    isVisible_of_unescaped (fun c control => by simp [escapedInUser, control]) (by decide) unescaped
  have inPath (c : Char) (unescaped : escapedInPath c = false) : isVisible c = true :=
    isVisible_of_unescaped (fun c control => by simp [escapedInPath, control]) (by decide) unescaped
  have digits : ∀ c ∈ digitChars, isVisible c = true := forall_mem_of_all (by decide)
  intro c member
  simp only [authorityText, List.mem_append, List.mem_cons] at member
  rcases member with inside | rfl | inside | rfl | inside | inside
  · rcases normal.of_mem_written inside with rfl | unescaped
    · decide
    · exact inUser c unescaped
  · decide
  · exact (general.of_mem_text inside).1
  · decide
  · exact digits c (mem_toDigits (by decide) (by decide) port c inside)
  · exact inPath c (walked.unescaped c inside)

theorem clean_of_isVisible (visible : ∀ c ∈ text, isVisible c = true) : clean text = text := by
  have outer (c : Char) (member : c ∈ text) : decide (c.toNat ≤ 0x20) = false :=
    decide_eq_false (Nat.not_le.mpr (toNat_of_isVisible (visible c member)).1)
  have start : text.dropWhile (fun c => decide (c.toNat ≤ 0x20)) = text := by
    cases text with
    | nil => rfl
    | cons c rest => exact List.dropWhile_cons_of_neg (by simpa using outer c List.mem_cons_self)
  have finish : text.rdropWhile (fun c => decide (c.toNat ≤ 0x20)) = text :=
    rdropWhile_of_getLast fun c last => outer c (List.mem_of_mem_getLast? last)
  have kept : text.filter onLine = text := by
    refine List.filter_eq_self.mpr fun c member => ?_
    have other (mark : Char) (unseen : isVisible mark = false) : c ≠ mark := by
      rintro rfl
      rw [visible c member] at unseen
      cases unseen
    simp [onLine, other '\t' (by decide), other '\n' (by decide), other '\r' (by decide)]
  have unfolded : clean text = ((text.dropWhile fun c => decide (c.toNat ≤ 0x20)).rdropWhile
      fun c => decide (c.toNat ≤ 0x20)).filter onLine := rfl
  rw [unfolded, start, finish, kept]

end CredentialReach.Url
