import CredentialReach.Proofs.HiddenPasswords
import CredentialReach.Proofs.TextPieces

/-! Hosts as they are written. A number is read back from its digits, and the groups of a version 6
address from their text, wherever zeros are left out of it. So every host that was read is read again
from what is written for it. -/

namespace CredentialReach.Url

open Text

variable {base n : Nat} {digits text : List Char} {c : Char}

def digitChars : List Char := "0123456789abcdef".toList

private theorem digitChar_mem : ∀ digit < 16, digit.digitChar ∈ digitChars := by decide

private theorem hexDigit?_digitChar : ∀ digit < 16, hexDigit? digit.digitChar = some digit := by decide

/-- What holds of single digits, and of a number with one more digit if it holds of the number, holds
of all numbers. -/
theorem toDigits_induction {motive : List Char → Nat → Prop} (large : 1 < base)
    (single : ∀ digit < base, motive [digit.digitChar] digit)
    (more : ∀ digits n, ∀ digit < base, motive digits n →
      motive (digits ++ [digit.digitChar]) (n * base + digit)) (n : Nat) :
    motive (Nat.toDigits base n) n := by
  induction n using Nat.strongRecOn with
  | ind n ih =>
    rw [Nat.toDigits_eq_if large]
    split
    next small => exact single n small
    next =>
      have below : n / base < n := Nat.div_lt_self (by omega) large
      have last : n % base < base := Nat.mod_lt n (by omega)
      have longer := more _ _ _ last (ih (n / base) below)
      rwa [Nat.div_add_mod'] at longer

theorem mem_toDigits (large : 1 < base) (hex : base ≤ 16) (n : Nat) :
    ∀ c ∈ Nat.toDigits base n, c ∈ digitChars := by
  refine toDigits_induction (motive := fun digits _ => ∀ c ∈ digits, c ∈ digitChars) large ?_ ?_ n
  · intro digit small c member
    obtain rfl := List.mem_singleton.mp member
    exact digitChar_mem digit (by omega)
  · intro digits _ digit small before c member
    rcases List.mem_append.mp member with inside | last
    · exact before c inside
    · obtain rfl := List.mem_singleton.mp last
      exact digitChar_mem digit (by omega)

def addDigit (base n : Nat) (c : Char) : Option Nat :=
  match hexDigit? c with
  | some digit => if digit < base then some (n * base + digit) else none
  | none => none

private theorem number?_eq (some : digits ≠ []) : number? base digits = digits.foldlM (addDigit base) 0 := by
  obtain ⟨c, rest, rfl⟩ := List.exists_cons_of_ne_nil some
  rfl

private theorem addDigit_digitChar {digit : Nat} (hex : base ≤ 16) (small : digit < base) (n : Nat) :
    addDigit base n digit.digitChar = some (n * base + digit) := by
  rw [addDigit, hexDigit?_digitChar digit (by omega)]
  exact if_pos small

theorem number?_toDigits (large : 1 < base) (hex : base ≤ 16) (n : Nat) :
    number? base (Nat.toDigits base n) = some n := by
  rw [number?_eq Nat.toDigits_ne_nil]
  refine toDigits_induction (motive := fun digits n => digits.foldlM (addDigit base) 0 = some n)
    large ?_ ?_ n
  · intro digit small
    rw [List.foldlM_cons, addDigit_digitChar hex small]
    simp
  · intro digits n digit small read
    rw [List.foldlM_append, read]
    simp [addDigit_digitChar hex small]

private theorem addDigit_lt {start next : Nat} (added : addDigit base start c = some next) :
    next < (start + 1) * base := by
  unfold addDigit at added
  split at added
  next digit _ =>
    split at added
    next small =>
      obtain rfl := Option.some.inj added
      rw [Nat.succ_mul]
      omega
    next => cases added
  next => cases added

private theorem foldlM_addDigit_lt {start : Nat} (read : digits.foldlM (addDigit base) start = some n) :
    n < (start + 1) * Nat.pow base digits.length := by
  induction digits generalizing start with
  | nil =>
    obtain rfl := Option.some.inj read
    exact Nat.lt_of_lt_of_eq (Nat.lt_succ_self start) (Nat.mul_one _).symm
  | cons c rest ih =>
    rw [List.foldlM_cons] at read
    obtain ⟨next, added, later⟩ := Option.bind_eq_some_iff.mp read
    calc n < (next + 1) * Nat.pow base rest.length := ih later
      _ ≤ ((start + 1) * base) * Nat.pow base rest.length := Nat.mul_le_mul_right _ (addDigit_lt added)
      _ = (start + 1) * Nat.pow base (c :: rest).length := by
        rw [Nat.mul_assoc, Nat.mul_comm base]
        rfl

/-- A number is less than its count of digits allows. -/
theorem number?_lt (read : number? base digits = some n) : n < Nat.pow base digits.length := by
  have some : digits ≠ [] := by
    rintro rfl
    cases read
  rw [number?_eq some] at read
  have small := foldlM_addDigit_lt read
  rwa [Nat.zero_add, Nat.one_mul] at small

def AreGroups (groups : List Nat) : Prop := ∀ group ∈ groups, group < 65536

variable {group : Nat} {groups others : List Nat} {dotted : Bool}

theorem areGroups_nil : AreGroups [] := List.forall_mem_nil _

theorem areGroups_cons : AreGroups (group :: groups) ↔ group < 65536 ∧ AreGroups groups :=
  List.forall_mem_cons

theorem areGroups_append : AreGroups (groups ++ others) ↔ AreGroups groups ∧ AreGroups others :=
  List.forall_mem_append

private theorem areGroups_zeros (length : Nat) : AreGroups (List.replicate length 0) := by
  intro group member
  rw [List.eq_of_mem_replicate member]
  decide

private theorem group?_toDigits (small : group < 65536) :
    group? (Nat.toDigits 16 group) = some group := by
  have short : (Nat.toDigits 16 group).length ≤ 4 :=
    (Nat.length_toDigits_le_iff (by decide) (by decide)).mpr small
  rw [group?, if_pos short]
  exact number?_toDigits (by decide) (by decide) group

private theorem groups?_toDigits (small : AreGroups groups) :
    groups? dotted (groups.map (Nat.toDigits 16)) = some groups := by
  induction groups with
  | nil => rfl
  | cons group others ih =>
    obtain ⟨smallFirst, smallOthers⟩ := areGroups_cons.mp small
    have first := group?_toDigits smallFirst
    have later := ih smallOthers
    cases others with
    | nil => simp [groups?, first]
    | cons second others =>
      rw [List.map_cons] at later ⊢
      rw [List.map_cons, groups?, first, later]
      · rfl
      · exact List.cons_ne_nil _ _

theorem free_toDigits (group : Nat) : ':' ∉ Nat.toDigits 16 group := fun member =>
  absurd (mem_toDigits (by decide) (by decide) group ':' member) (by decide)

private theorem head?_joinGroups (some : groups ≠ []) : ∃ c ∈ (joinGroups groups).head?, c ≠ ':' := by
  obtain ⟨group, others, rfl⟩ := List.exists_cons_of_ne_nil some
  have digits : Nat.toDigits 16 group ≠ [] := Nat.toDigits_ne_nil
  refine ⟨(Nat.toDigits 16 group).head digits, ?_, fun same => ?_⟩
  · rw [joinGroups, List.map_cons, head?_joinWith digits]
    exact List.head?_eq_some_head digits
  · exact free_toDigits group (same ▸ List.head_mem digits)

theorem groupsOf?_joinGroups (small : AreGroups groups) :
    groupsOf? dotted (joinGroups groups) = some groups := by
  by_cases some : groups = []
  · subst some
    rfl
  · have free : ∀ piece ∈ groups.map (Nat.toDigits 16), ':' ∉ piece := by
      intro piece member
      obtain ⟨group, -, rfl⟩ := List.mem_map.mp member
      exact free_toDigits group
    have split : splitAt ':' (joinGroups groups) = groups.map (Nat.toDigits 16) :=
      splitAt_joinWith (by simpa using some) free
    obtain ⟨c, first, -⟩ := head?_joinGroups some
    have written : joinGroups groups ≠ [] := fun nothing => by
      rw [nothing] at first
      cases first
    rw [groupsOf?, if_neg (by simpa using written), split, groups?_toDigits small]

/-- No two colons stand next to each other in groups that are written out. -/
theorem clear_joinGroups (groups : List Nat) (rest : List Char) :
    Clear "::".toList (joinGroups groups) rest := by
  induction groups with
  | nil => trivial
  | cons group others ih =>
    have digits (rest : List Char) : Clear "::".toList (Nat.toDigits 16 group) rest :=
      clear_of_not_mem (free_toDigits group) rest
    by_cases more : others = []
    · subst more
      exact digits rest
    · have colon : Clear "::".toList [':'] (joinGroups others ++ rest) := by
        -- Behind a colon comes the first digit of the next group.
        obtain ⟨c, first, other⟩ := head?_joinGroups more
        obtain ⟨tail, same⟩ := List.head?_eq_some_iff.mp first
        refine ⟨fun starts => other ?_, trivial⟩
        rw [same] at starts
        have second := (List.cons_prefix_cons.mp starts).2
        exact (List.cons_prefix_cons.mp second).1.symm
      have some : others.map (Nat.toDigits 16) ≠ [] := by simpa using more
      rw [joinGroups, List.map_cons, joinWith_cons some, List.append_assoc]
      exact (digits _).append (colon.append ih)

private theorem takeWhile_zeros (groups : List Nat) :
    groups.takeWhile (· == 0) = List.replicate (groups.takeWhile (· == 0)).length 0 := by
  refine List.eq_replicate_of_mem fun group member => ?_
  simpa using List.mem_takeWhile_imp member

private theorem longestZeros_eq (groups : List Nat) :
    (longestZeros groups).1 ++
      (List.replicate (longestZeros groups).2.1 0 ++ (longestZeros groups).2.2) = groups := by
  induction groups with
  | nil => rfl
  | cons group rest ih =>
    rw [longestZeros]
    dsimp only
    split
    next =>
      rw [← takeWhile_zeros, List.nil_append]
      exact List.prefix_iff_eq_append.mp (List.takeWhile_prefix _)
    next => rw [List.cons_append, ih]

/-- All groups of an address are written, or two colons stand for zeros in a row. -/
theorem ipv6Text_cases (groups : List Nat) : ipv6Text groups = joinGroups groups ∨
    ∃ before length after, 2 ≤ length ∧ groups = before ++ (List.replicate length 0 ++ after) ∧
      ipv6Text groups = joinGroups before ++ ("::".toList ++ joinGroups after) := by
  have whole := longestZeros_eq groups
  have text : ipv6Text groups =
      if (longestZeros groups).2.1 ≤ 1 then joinGroups groups
      else joinGroups (longestZeros groups).1 ++ ("::".toList ++ joinGroups (longestZeros groups).2.2) := rfl
  split at text
  next => exact .inl text
  next several => exact .inr ⟨_, _, _, by omega, whole.symm, text⟩

private theorem ipv6?_ipv6Text (eight : groups.length = 8) (small : AreGroups groups) :
    ipv6? (ipv6Text groups) = some groups := by
  rcases ipv6Text_cases groups with text | ⟨before, length, after, several, rfl, text⟩
  · rw [text, ipv6?, cutAt?_eq_none (clear_joinGroups groups []) (by decide), groupsOf?_joinGroups small]
    simp [eight]
  · obtain ⟨first, between⟩ := areGroups_append.mp small
    have last := (areGroups_append.mp between).2
    simp only [List.length_append, List.length_replicate] at eight
    -- Two zeros at least are left out, so that at most six groups are written.
    have few : before.length + after.length ≤ 7 := by omega
    have left : 8 - (before.length + after.length) = length := by omega
    rw [text, ipv6?, cutAt?_clear (clear_joinGroups before _)]
    simp [groupsOf?_joinGroups first, groupsOf?_joinGroups last, few, left]

private theorem group?_lt (read : group? digits = some group) : group < 65536 := by
  unfold group? at read
  split at read
  next short =>
    calc group < Nat.pow 16 digits.length := number?_lt read
      _ ≤ Nat.pow 16 4 := Nat.pow_le_pow_right (by decide) short
      _ = 65536 := by decide
  next => cases read

private theorem octet?_le {octet : Nat} (read : octet? digits = some octet) : octet ≤ 255 := by
  unfold octet? at read
  split at read
  next => cases read
  next =>
    have small := (Option.filter_eq_some_iff.mp read).2
    simpa using small

private theorem octets_le {pieces : List (List Char)} {octets : List Nat}
    (read : pieces.mapM octet? = some octets) : ∀ octet ∈ octets, octet ≤ 255 := by
  induction pieces generalizing octets with
  | nil =>
    obtain rfl := Option.some.inj read
    exact fun _ member => absurd member List.not_mem_nil
  | cons piece pieces ih =>
    rw [List.mapM_cons] at read
    obtain ⟨octet, first, read⟩ := Option.bind_eq_some_iff.mp read
    obtain ⟨others, later, read⟩ := Option.bind_eq_some_iff.mp read
    obtain rfl := Option.some.inj read
    exact List.forall_mem_cons.mpr ⟨octet?_le first, ih later⟩

private theorem dottedGroups?_small (read : dottedGroups? text = some groups) : AreGroups groups := by
  unfold dottedGroups? at read
  split at read
  next a b c d octets =>
    obtain rfl := Option.some.inj read
    have small := octets_le octets
    simp only [List.forall_mem_cons] at small
    have first : 256 * a + b < 65536 := by omega
    have second : 256 * c + d < 65536 := by omega
    exact areGroups_cons.mpr ⟨first, areGroups_cons.mpr ⟨second, areGroups_nil⟩⟩
  next => cases read

private theorem groups?_small {pieces : List (List Char)} (read : groups? dotted pieces = some groups) :
    AreGroups groups := by
  fun_induction groups? dotted pieces generalizing groups with
  | case1 =>
    obtain rfl := Option.some.inj read
    exact areGroups_nil
  | case2 last group found =>
    obtain rfl := Option.some.inj read
    exact areGroups_cons.mpr ⟨group?_lt found, areGroups_nil⟩
  | case3 => exact dottedGroups?_small read
  | case4 => cases read
  | case5 first rest more ih =>
    obtain ⟨group, found, read⟩ := Option.bind_eq_some_iff.mp read
    obtain ⟨others, later, read⟩ := Option.bind_eq_some_iff.mp read
    obtain rfl := Option.some.inj read
    exact areGroups_cons.mpr ⟨group?_lt found, ih later⟩

theorem groupsOf?_small (read : groupsOf? dotted text = some groups) : AreGroups groups := by
  unfold groupsOf? at read
  split at read
  next =>
    obtain rfl := Option.some.inj read
    exact areGroups_nil
  next => exact groups?_small read

private theorem ipv6?_eq_some (read : ipv6? text = some groups) : groups.length = 8 ∧ AreGroups groups := by
  unfold ipv6? at read
  split at read
  next =>
    obtain ⟨found, eight⟩ := Option.filter_eq_some_iff.mp read
    exact ⟨by simpa using eight, groupsOf?_small found⟩
  next =>
    obtain ⟨before, first, read⟩ := Option.bind_eq_some_iff.mp read
    obtain ⟨after, last, read⟩ := Option.bind_eq_some_iff.mp read
    dsimp only at read
    split at read
    next few =>
      obtain rfl := Option.some.inj read
      constructor
      · simp only [List.length_append, List.length_replicate]
        omega
      · apply areGroups_append.mpr
        exact ⟨areGroups_append.mpr ⟨groupsOf?_small first, areGroups_zeros _⟩, groupsOf?_small last⟩
    next => cases read

/-- The hosts that are read where a name is taken as it is. -/
inductive Host.IsGeneral : Host → Prop
  | name {text : List Char} (some : text ≠ [])
      (free : ∀ c ∈ text, c ∉ forbiddenInHost ∧ isControl c = false) : IsGeneral (.name text)
  | ipv6 {groups : List Nat} (eight : groups.length = 8) (small : AreGroups groups) :
      IsGeneral (.ipv6 groups)

variable {host : Host}

private theorem isGeneral_of_bracketed? (read : bracketed? text = some (.ok host)) : host.IsGeneral := by
  obtain ⟨rest, -, answer⟩ := Option.map_eq_some_iff.mp read
  split at answer
  next groups found =>
    obtain rfl := Except.ok.inj answer
    obtain ⟨inner, -, address⟩ := Option.bind_eq_some_iff.mp found
    obtain ⟨eight, small⟩ := ipv6?_eq_some address
    exact .ipv6 eight small
  next => cases answer

theorem isGeneral_of_readHost (some : text ≠ []) (read : readHost text = .ok host) : host.IsGeneral := by
  unfold readHost at read
  split at read
  next found bracketed =>
    subst read
    exact isGeneral_of_bracketed? bracketed
  next =>
    split at read
    next => cases read
    next free =>
      obtain rfl := Except.ok.inj read
      refine .name (percentEncode_ne_nil some) fun c member => ⟨?_, unescaped_of_mem (by decide) member⟩
      have marks : ∀ c ∈ encodingChars, c ∉ forbiddenInHost := forall_mem_of_all (by decide)
      rcases mem_percentEncode member with mark | ⟨inside, -⟩
      · exact marks c mark
      · intro forbidden
        exact free (List.any_eq_true.mpr ⟨c, inside, by simpa using forbidden⟩)

private theorem bracketed?_brackets (text : List Char) : bracketed? ('[' :: text ++ [']']) =
    some (match ipv6? text with
      | some groups => .ok (.ipv6 groups)
      | none => .error .ipv6) := by
  have inner : after? ['['] ('[' :: text ++ [']']) = some (text ++ [']']) := after?_eq_some_iff.mpr rfl
  have outer : before? [']'] (text ++ [']']) = some text := before?_eq_some_iff.mpr rfl
  rw [bracketed?, inner, Option.map_some, outer]
  rfl

private theorem bracketed?_eq_none (free : '[' ∉ text) : bracketed? text = none := by
  have outside : after? ['['] text = none := by
    refine Option.eq_none_iff_forall_ne_some.mpr fun rest starts => free ?_
    rw [after?_eq_some_iff.mp starts]
    exact List.mem_cons_self
  rw [bracketed?, outside, Option.map_none]

/-- A host is read again from its text. -/
theorem Host.IsGeneral.readHost_text (general : host.IsGeneral) : readHost host.text = .ok host := by
  cases general with
  | @name text some free =>
    have allowed : text.any (forbiddenInHost.contains ·) = false := by
      refine List.any_eq_false.mpr fun c member => ?_
      simpa using (free c member).1
    have single : '[' ∉ text := fun member => (free '[' member).1 (by decide)
    rw [Host.text, readHost, bracketed?_eq_none single]
    simp only [allowed, Bool.false_eq_true, if_false]
    rw [percentEncode_of_unescaped fun c member => (free c member).2]
  | ipv6 eight small =>
    rw [readHost, Host.text, bracketed?_brackets, ipv6?_ipv6Text eight small]

theorem mem_joinGroups (member : c ∈ joinGroups groups) : c ∈ ':' :: digitChars := by
  rcases mem_joinWith member with colon | ⟨piece, listed, inside⟩
  · obtain rfl := List.mem_singleton.mp colon
    exact List.mem_cons_self
  · obtain ⟨group, -, rfl⟩ := List.mem_map.mp listed
    exact List.mem_cons_of_mem _ (mem_toDigits (by decide) (by decide) group c inside)

theorem mem_ipv6Text (member : c ∈ ipv6Text groups) : c ∈ ':' :: digitChars := by
  rcases ipv6Text_cases groups with text | ⟨before, length, after, -, -, text⟩
  · exact mem_joinGroups (text ▸ member)
  · rw [text] at member
    rcases List.mem_append.mp member with first | later
    · exact mem_joinGroups first
    · rcases List.mem_append.mp later with colons | last
      · have marks : ∀ c ∈ "::".toList, c ∈ ':' :: digitChars := forall_mem_of_all (by decide)
        exact marks c colons
      · exact mem_joinGroups last

private theorem takeHost_free (inside : Inside text) (free : ∀ c ∈ text, c ≠ ':' ∧ c ≠ '[')
    (rest : List Char) :
    takeHost .general false (text ++ ':' :: rest) = (text, ':' :: rest) := by
  induction text with
  | nil => rfl
  | cons c tail ih =>
    obtain ⟨single, unopened⟩ := free c List.mem_cons_self
    have stays : (c == '[' || (false && c != ']')) = false := by simp [unopened]
    have later := ih (fun d member => inside d (List.mem_cons_of_mem c member))
      fun d member => free d (List.mem_cons_of_mem c member)
    rw [List.cons_append, takeHost, if_neg (by simp [inside c List.mem_cons_self, single]), stays, later]

/-- In brackets a colon belongs to the host. -/
theorem takeHost_brackets (inside : Inside text) (free : ']' ∉ text) (rest : List Char) :
    takeHost .general true (text ++ ']' :: ':' :: rest) = (text ++ [']'], ':' :: rest) := by
  induction text with
  | nil => rfl
  | cons c tail ih =>
    have unclosed : c ≠ ']' := (List.ne_of_not_mem_cons free).symm
    have stays : (c == '[' || (true && c != ']')) = true := by simp [unclosed]
    have later := ih (fun d member => inside d (List.mem_cons_of_mem c member))
      (List.not_mem_of_not_mem_cons free)
    rw [List.cons_append, takeHost, if_neg (by simp [inside c List.mem_cons_self]), stays, later]
    rfl

/-- What characters a host in an address is written with. -/
theorem Host.IsGeneral.of_mem_text (general : host.IsGeneral) (member : c ∈ host.text) :
    isVisible c = true ∧ SchemeStyle.general.endsAuthority c = false ∧ c ≠ '@' := by
  cases general with
  | name some free =>
    obtain ⟨allowed, printed⟩ := free c member
    simp only [forbiddenInHost, List.mem_cons, not_or] at allowed
    simp [isVisible, printed, SchemeStyle.endsAuthority, SchemeStyle.isSlash, SchemeStyle.backslashes,
      allowed]
  | ipv6 eight small =>
    have marks : ∀ c ∈ '[' :: ']' :: ':' :: digitChars,
        isVisible c = true ∧ SchemeStyle.general.endsAuthority c = false ∧ c ≠ '@' :=
      forall_mem_of_all (by decide)
    refine marks c ?_
    rcases List.mem_append.mp member with first | last
    · rcases List.mem_cons.mp first with rfl | inside
      · exact List.mem_cons_self
      · exact List.mem_cons_of_mem _ (List.mem_cons_of_mem _ (mem_ipv6Text inside))
    · exact List.mem_cons_of_mem _ (List.mem_singleton.mp last ▸ List.mem_cons_self)

theorem Host.IsGeneral.takeHost_text (general : host.IsGeneral) (rest : List Char) :
    takeHost .general false (host.text ++ ':' :: rest) = (host.text, ':' :: rest) := by
  have inside : Inside host.text := fun c member => (general.of_mem_text member).2.1
  cases general with
  | name some free =>
    refine takeHost_free inside (fun c member => ⟨?_, ?_⟩) rest
    · exact (ne_of_mem_of_not_mem (by decide) (free c member).1).symm
    · exact (ne_of_mem_of_not_mem (by decide) (free c member).1).symm
  | @ipv6 groups eight small =>
    have within : Inside (ipv6Text groups) := fun c member => inside c (by simp [Host.text, member])
    have unclosed : ']' ∉ ipv6Text groups := fun member => absurd (mem_ipv6Text member) (by decide)
    have text : Host.text (.ipv6 groups) ++ ':' :: rest = '[' :: (ipv6Text groups ++ ']' :: ':' :: rest) := by
      simp [Host.text]
    have opens : ('[' == '[' || (false && '[' != ']')) = true := rfl
    rw [text, takeHost, if_neg (by decide), opens, takeHost_brackets within unclosed]
    rfl

theorem Host.IsGeneral.text_ne_nil (general : host.IsGeneral) : host.text ≠ [] := by
  cases general with
  | name some free => exact some
  | ipv6 eight small => exact List.cons_ne_nil _ _

end CredentialReach.Url
