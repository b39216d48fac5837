import CredentialReach.Proofs.TextMarks
import CredentialReach.Vendor.Analyzer

/-! Passwords of connection strings. Whatever a password is, the text around it is read as it would be
with any other one: the user ends at the first colon, and the host begins behind the last at sign,
which is never one of the password. What is told of a connection has no other part of it. -/

namespace CredentialReach

open Text

namespace Url

variable {user password rest : List Char}

/-- No character of the text ends the part of an address with user, host and port. -/
def Inside (text : List Char) : Prop := ∀ c ∈ text, SchemeStyle.general.endsAuthority c = false

theorem inside_of_free {text : List Char} (free : ∀ c ∈ text, c ≠ '/' ∧ c ≠ '?' ∧ c ≠ '#') :
    Inside text := fun c member => by
  simp [SchemeStyle.endsAuthority, SchemeStyle.isSlash, SchemeStyle.backslashes, free c member]

theorem takeWhile_inside {text : List Char} (inside : Inside text) (rest : List Char) :
    (text ++ rest).takeWhile (fun c => !SchemeStyle.general.endsAuthority c) =
      text ++ rest.takeWhile fun c => !SchemeStyle.general.endsAuthority c := by
  refine List.takeWhile_append_of_pos fun c member => ?_
  rw [inside c member]
  rfl

theorem cutAtLast?_append {mark : Char} {after : List Char} (last : mark ∉ after) (before : List Char) :
    cutAtLast? mark (before ++ mark :: after) = some (before, after) := by
  have reversed : (before ++ mark :: after).reverse = after.reverse ++ ([mark] ++ before.reverse) := by simp
  have clear : Clear [mark] after.reverse ([mark] ++ before.reverse) :=
    clear_of_not_mem (by simpa using last) _
  rw [cutAtLast?, reversed, cutAt?_clear clear]
  simp

private theorem exists_last_of_mem {mark : Char} {text : List Char} (member : mark ∈ text) :
    ∃ before after, text = before ++ mark :: after ∧ mark ∉ after := by
  obtain ⟨behind, ahead, same, absent⟩ := List.eq_append_cons_of_mem (List.mem_reverse.mpr member)
  refine ⟨ahead.reverse, behind.reverse, ?_, by simpa using absent⟩
  rw [← List.reverse_reverse text, same]
  simp

theorem readLogin_password (single : ':' ∉ user) (some : password ≠ []) :
    readLogin (user ++ ':' :: password) =
      ⟨percentEncode escapedInUser user, .some (percentEncode escapedInUser password)⟩ := by
  have clear : Clear [':'] user ([':'] ++ password) := clear_of_not_mem single _
  have cut : cutAt? [':'] (user ++ ':' :: password) = .some (user, password) := cutAt?_clear clear
  rw [readLogin, cut]
  simp [some]

theorem takeLogin_of_cut {style : SchemeStyle} {text login behind : List Char}
    (cut : cutAtLast? '@' (text.takeWhile fun c => !style.endsAuthority c) = some (login, behind))
    (some : login ≠ []) :
    takeLogin style text = .ok (readLogin login, text.drop (login.length + 1)) := by
  rw [takeLogin, cut]
  simp [some]

/-- The last at sign of an authority is the one behind the password or a later one. In that case
what stands between the two belongs to the password as well. -/
theorem exists_takeLogin (rest : List Char) : ∃ more host, ∀ user password,
    ':' ∉ user → Inside user → password ≠ [] → Inside password →
      takeLogin .general (user ++ ':' :: (password ++ '@' :: rest)) =
        .ok (⟨percentEncode escapedInUser user,
          some (percentEncode escapedInUser (password ++ more))⟩, host) := by
  let part := rest.takeWhile fun c => !SchemeStyle.general.endsAuthority c
  let behind := rest.dropWhile fun c => !SchemeStyle.general.endsAuthority c
  have parts : part ++ behind = rest := List.takeWhile_append_dropWhile ..
  obtain ⟨more, host, cut, last⟩ := exists_last_of_mem (List.mem_cons_self : '@' ∈ '@' :: part)
  refine ⟨more, host ++ behind, fun user password single insideUser some insidePassword => ?_⟩
  let login := user ++ ':' :: (password ++ more)
  have authority : (user ++ ':' :: (password ++ '@' :: rest)).takeWhile
      (fun c => !SchemeStyle.general.endsAuthority c) = login ++ '@' :: host := by
    have start : Inside (user ++ ':' :: (password ++ ['@'])) := by
      intro c member
      simp only [List.mem_append, List.mem_cons, List.not_mem_nil, or_false] at member
      rcases member with first | rfl | second | rfl
      · exact insideUser c first
      · decide
      · exact insidePassword c second
      · decide
    have whole := takeWhile_inside start rest
    simpa [login, part, ← cut] using whole
  have text : user ++ ':' :: (password ++ '@' :: rest) = login ++ '@' :: (host ++ behind) := by
    have later : '@' :: rest = more ++ '@' :: (host ++ behind) := by
      rw [← parts, ← List.cons_append, cut, List.append_assoc]
      rfl
    rw [later]
    simp [login]
  have after : (login ++ '@' :: (host ++ behind)).drop (login.length + 1) = host ++ behind := by
    rw [← List.drop_drop, List.drop_left]
    rfl
  have taken := takeLogin_of_cut (authority ▸ cutAtLast?_append last login) (by simp [login])
  rw [taken, text, after, readLogin_password single (List.append_ne_nil_of_left_ne_nil some more)]

def withPassword (secret : List Char) (url : Url) : Url := { url with password := some secret }

/-- Where there is a password, what it is does not matter to the rest of an address. -/
theorem readAuthority_withPassword {scheme text other secret otherSecret : List Char}
    (one : takeLogin .general text = .ok (⟨user, some secret⟩, rest))
    (two : takeLogin .general other = .ok (⟨user, some otherSecret⟩, rest)) :
    readAuthority scheme .general other =
      (readAuthority scheme .general text).map (withPassword otherSecret) := by
  have plain : SchemeStyle.general.backslashes = false := rfl
  simp only [readAuthority, one, two, bind, Except.bind, plain, Bool.false_eq_true, if_false]
  generalize takeHost .general false rest = cut
  obtain ⟨hostText, behind⟩ := cut
  cases readHost hostText with
  | error fault => rfl
  | ok host =>
    simp only [Option.isSome_some, Bool.or_true, Bool.and_true]
    cases hostText.isEmpty && decide (behind.head? = some ':') with
    | true => rfl
    | false =>
      simp only [Bool.false_eq_true, if_false, pure, Except.pure]
      split
      next digits => cases takePort digits <;> cases hostText.isEmpty <;> rfl
      next => cases hostText.isEmpty <;> rfl

/-- The text of an address stays on its line: line ends and tabs are dropped before it is read. -/
def onLine (c : Char) : Bool := c != '\t' && c != '\n' && c != '\r'

structure IsPassword (text : List Char) : Prop where
  some : text ≠ []
  inside : Inside text
  onLine : ∀ c ∈ text, onLine c = true

/-- Any password stands for all of them. -/
theorem isPassword_letter : IsPassword ['x'] where
  some := by decide
  inside c member := by rw [List.mem_singleton.mp member]; rfl
  onLine := List.all_eq_true.mp rfl

end Url

namespace Mysql.ConnectionString

open Url

variable {user password rest : List Char}

def opening : List Char := "mysql://".toList

def spelled (user password rest : List Char) : List Char :=
  opening ++ (user ++ ':' :: (password ++ '@' :: rest))

theorem spelled_eq :
    spelled user password rest = (opening ++ (user ++ ':' :: password)) ++ '@' :: rest := by
  simp [spelled]

/-- Only the end of the text can be trimmed. -/
theorem trim_spelled : trim (spelled user password rest) = spelled user password (trimEnd rest) := by
  have bare : trimStart (spelled user password rest) = spelled user password rest :=
    trimStart_of_head fun c first => by cases first; rfl
  rw [trim, bare, spelled_eq, spelled_eq, trimEnd_eq, rdropWhile_append_cons (by decide)]
  rfl

private theorem exists_clean (user rest : List Char) :
    ∃ behind, ∀ password, (∀ c ∈ password, onLine c = true) →
      clean (spelled user password rest) = spelled (user.filter onLine) password behind := by
  let outer (c : Char) : Bool := c.toNat ≤ 0x20
  refine ⟨(rest.rdropWhile outer).filter onLine, fun password line => ?_⟩
  have start : (spelled user password rest).dropWhile outer = spelled user password rest :=
    List.dropWhile_cons_of_neg (by decide)
  have ends : (spelled user password rest).rdropWhile outer =
      spelled user password (rest.rdropWhile outer) := by
    rw [spelled_eq, spelled_eq, rdropWhile_append_cons (by decide)]
  have kept (behind : List Char) : (spelled user password behind).filter onLine =
      spelled (user.filter onLine) password (behind.filter onLine) := by
    have first : opening.filter onLine = opening := by decide
    have colon : onLine ':' = true := by decide
    have sign : onLine '@' = true := by decide
    simp [spelled, first, colon, sign, List.filter_eq_self.mpr line]
  have unfolded : clean (spelled user password rest) =
      (((spelled user password rest).dropWhile outer).rdropWhile outer).filter onLine := rfl
  rw [unfolded, start, ends, kept]

theorem parse_of_clean {text : String} {behind : List Char} (same : clean text.toList = opening ++ behind) :
    Url.parse text = readAuthority "mysql".toList .general behind := by
  rw [Url.parse, same]
  rfl

/-- What an address with a password is read as, but for the password, follows from the text around it. -/
theorem exists_parse_url (single : ':' ∉ user) (inside : Inside user) (rest : List Char) :
    ∃ answer : Except UrlFault Url, ∀ password, IsPassword password → ∃ secret,
      Url.parse (String.ofList (spelled user password rest)) = answer.map (Url.withPassword secret) := by
  obtain ⟨behind, cleaned⟩ := exists_clean user rest
  obtain ⟨more, host, taken⟩ := exists_takeLogin behind
  let login := user.filter onLine
  have single : ':' ∉ login := fun member => single (List.mem_filter.mp member).1
  have inside : Inside login := fun c member => inside c (List.mem_filter.mp member).1
  have one := isPassword_letter
  refine ⟨readAuthority "mysql".toList .general (login ++ ':' :: (['x'] ++ '@' :: behind)),
    fun password secret => ⟨percentEncode escapedInUser (password ++ more), ?_⟩⟩
  rw [parse_of_clean (by rw [String.toList_ofList, cleaned password secret.onLine, spelled])]
  exact readAuthority_withPassword (taken login ['x'] single inside one.some one.inside)
    (taken login password single inside secret.some secret.inside)

def withPassword (secret : String) (connection : ConnectionString) : ConnectionString :=
  { connection with password := some secret }

/-- Beyond the password itself, nothing of a connection is taken from it. -/
theorem parse_withPassword {text other : String} {secret : List Char}
    (same : Url.parse (trimmed other) = (Url.parse (trimmed text)).map (Url.withPassword secret)) :
    parse other = (parse text).map (withPassword (String.ofList secret)) := by
  unfold parse
  rw [same]
  rcases Url.parse (trimmed text) with fault | ⟨scheme, user, password, host, port, path⟩
  · rfl
  · by_cases named : scheme = "mysql".toList
    · subst named
      cases host <;> cases user <;> rfl
    · simp only [Except.map, Except.mapError, bind, Except.bind, Url.withPassword, ne_eq, named,
        not_false_eq_true, if_true]
      rfl

theorem trimmed_spelled : trimmed (String.ofList (spelled user password rest)) =
    String.ofList (spelled user password (trimEnd rest)) := by
  rw [trimmed, String.toList_ofList, trim_spelled]

/-- The same of what a connection string is read as. -/
theorem exists_parse (single : ':' ∉ user) (inside : Inside user) (rest : List Char) :
    ∃ answer : Except ConnectionFault ConnectionString, ∀ password, IsPassword password → ∃ secret,
      parse (String.ofList (spelled user password rest)) = answer.map (withPassword secret) := by
  obtain ⟨answer, read⟩ := exists_parse_url single inside (trimEnd rest)
  have one : IsPassword ['x'] := isPassword_letter
  refine ⟨parse (String.ofList (spelled user ['x'] rest)), fun password secret => ?_⟩
  obtain ⟨kept, first⟩ := read ['x'] one
  obtain ⟨hidden, second⟩ := read password secret
  refine ⟨String.ofList hidden, parse_withPassword ?_⟩
  rw [trimmed_spelled, trimmed_spelled, first, second]
  cases answer <;> rfl

def ofParts (user password rest : String) : String := s!"mysql://{user}:{password}@{rest}"

private theorem ofParts_eq (user password rest : String) :
    ofParts user password rest = String.ofList (spelled user.toList password.toList rest.toList) := by
  refine String.toList_inj.mp ?_
  have first : "mysql://".toList = opening := rfl
  have colon : ":".toList = [':'] := rfl
  have sign : "@".toList = ['@'] := rfl
  simp only [ofParts, spelled, toString, String.toList_append, first, colon, sign, String.toList_ofList,
    List.append_assoc, List.cons_append, List.nil_append]

end Mysql.ConnectionString

namespace Mysql

open ConnectionString

def connecting (fields : NameMap String) (text : String) : Credential :=
  ⟨fields.insert Credential.connectionField text⟩

private theorem require_spelled (fields : NameMap String) (user password rest : List Char) :
    (connecting fields (String.ofList (spelled user password rest))).require Credential.connectionField =
      .ok (String.ofList (spelled user password (trimEnd rest))) := by
  have some : (String.ofList (spelled user password (trimEnd rest))).isEmpty = false := by
    rw [String.isEmpty_eq_false_iff, ne_eq, String.ofList_eq_empty_iff]
    exact List.cons_ne_nil _ _
  simp [connecting, Credential.require, Credential.get?, trimmed_spelled, some]

/-- Nothing about the password of a connection gets into an analysis. -/
theorem analyze_withPassword {credential other : Credential} {text otherText secret otherSecret : String}
    {answer : Except ConnectionFault ConnectionString}
    (one : credential.require Credential.connectionField = .ok text)
    (two : other.require Credential.connectionField = .ok otherText)
    (read : parse text = answer.map (withPassword secret))
    (otherRead : parse otherText = answer.map (withPassword otherSecret))
    (snapshot : Except AnalysisFault Snapshot) :
    analyze (fun _ => snapshot) credential = analyze (fun _ => snapshot) other := by
  unfold analyze
  rw [one, two]
  simp only [bind, Except.bind, read, otherRead]
  cases answer with
  | error fault => rfl
  | ok connection => cases snapshot <;> rfl

end Mysql

namespace Analyzer

open Mysql ConnectionString

/-- What a password must not have in it to be written into a connection string as it is. -/
def reserved : List Char := ['/', '?', '#', '\t', '\n', '\r']

private theorem isPassword_of_unreserved {password : String} (some : password ≠ "")
    (unreserved : ∀ c ∈ password.toList, c ∉ reserved) : Url.IsPassword password.toList where
  some := by simpa using some
  inside := Url.inside_of_free fun c member => by
    have free := unreserved c member
    simp only [reserved, List.mem_cons, not_or] at free
    exact ⟨free.1, free.2.1, free.2.2.1⟩
  onLine c member := by
    have free := unreserved c member
    simp only [reserved, List.mem_cons, not_or] at free
    simp [Url.onLine, free]

/-- Two connection strings that differ in the password are refused alike, or differ in the password as
they are read. What is shown of them is the same, and so is what an analysis finds. -/
theorem mysql_ignores_password (user one other rest : String)
    (plain : ∀ c ∈ user.toList, c ∉ ['/', '?', '#', ':', '@'])
    (some : one ≠ "") (unreserved : ∀ c ∈ one.toList, c ∉ reserved)
    (otherSome : other ≠ "") (otherUnreserved : ∀ c ∈ other.toList, c ∉ reserved) :
    ((∃ fault, parse (ofParts user one rest) = .error fault ∧
        parse (ofParts user other rest) = .error fault) ∨
      ∃ first second, parse (ofParts user one rest) = .ok first ∧
        parse (ofParts user other rest) = .ok second ∧
        { first with password := none } = { second with password := none } ∧
        first.password.isSome ∧ second.password.isSome ∧
        first.redacted = second.redacted ∧ first.described = second.described) ∧
    ∀ (snapshot : Except AnalysisFault Snapshot) (fields : NameMap String) (time : String),
      (mysql fun _ => snapshot).analyze time (connecting fields (ofParts user one rest)) =
        (mysql fun _ => snapshot).analyze time (connecting fields (ofParts user other rest)) := by
  have single : ':' ∉ user.toList := fun member => plain ':' member (by decide)
  have inside : Url.Inside user.toList := Url.inside_of_free fun c member => by
    have free := plain c member
    simp only [List.mem_cons, not_or] at free
    exact ⟨free.1, free.2.1, free.2.2.1⟩
  have password := isPassword_of_unreserved some unreserved
  have otherPassword := isPassword_of_unreserved otherSome otherUnreserved
  rw [ofParts_eq, ofParts_eq]
  constructor
  · obtain ⟨answer, read⟩ := exists_parse single inside rest.toList
    obtain ⟨secret, first⟩ := read _ password
    obtain ⟨otherSecret, second⟩ := read _ otherPassword
    rw [first, second]
    cases answer with
    | error fault => exact .inl ⟨fault, rfl, rfl⟩
    | ok connection =>
      exact .inr ⟨connection.withPassword secret, connection.withPassword otherSecret, rfl, rfl, rfl,
        rfl, rfl, rfl, rfl⟩
  · intro snapshot fields time
    obtain ⟨answer, read⟩ := exists_parse single inside (trimEnd rest.toList)
    obtain ⟨secret, first⟩ := read _ password
    obtain ⟨otherSecret, second⟩ := read _ otherPassword
    have same := analyze_withPassword (require_spelled fields user.toList one.toList rest.toList)
      (require_spelled fields user.toList other.toList rest.toList) first second snapshot
    simp only [Analyzer.analyze, analyzeUndated, same]

theorem mysql_ignores_at_sign :
    (mysql fun _ => .ok { databases := [], grants := ["GRANT USAGE ON *.* TO `app`@`%`"] }).analyze "now"
        (connecting ∅ "mysql://app:a@b:c@db:3306/shop") =
      (mysql fun _ => .ok { databases := [], grants := ["GRANT USAGE ON *.* TO `app`@`%`"] }).analyze "now"
        (connecting ∅ "mysql://app:secret@db:3306/shop") :=
  (mysql_ignores_password "app" "a@b:c" "secret" "db:3306/shop" (by simp) (by decide) (by simp [reserved])
    (by decide) (by simp [reserved])).2 _ _ _

end Analyzer

end CredentialReach
