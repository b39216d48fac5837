import CredentialReach.Decimal.Shortest
import CredentialReach.Url.Domain

/-! Hosts of addresses: names, and numbers of both internet protocols. -/

namespace CredentialReach.Url

open Text

inductive UrlFault where
  | relative
  | emptyHost
  | port
  | ipv4
  | ipv6
  | hostCharacter
  | domainName
deriving DecidableEq, Repr

def UrlFault.message : UrlFault → String
  | relative => "relative URL without a base"
  | emptyHost => "empty host"
  | port => "invalid port number"
  | ipv4 => "invalid IPv4 address"
  | ipv6 => "invalid IPv6 address"
  | hostCharacter => "invalid domain character"
  | domainName => "invalid international domain name"

inductive Host where
  | name (text : List Char)
  | ipv4 (address : Nat)
  /-- Eight groups of 16 bits. -/
  | ipv6 (groups : List Nat)
deriving DecidableEq, Repr

/-- The value of a text of digits in a base, if there is at least one. -/
def number? (base : Nat) (digits : List Char) : Option Nat :=
  if digits.isEmpty then none
  else digits.foldlM (fun n c =>
    match hexDigit? c with
    | some digit => if digit < base then some (n * base + digit) else none
    | none => none) 0

/-! Version 6: groups between colons, of which two colons in a row may leave
out one or more zeros, and the last two may be written as a version 4 address. -/

def group? (digits : List Char) : Option Nat :=
  if digits.length ≤ 4 then number? 16 digits else none

/-- A number up to 255 without leading zeros. -/
def octet? (digits : List Char) : Option Nat :=
  match digits with
  | '0' :: _ :: _ => none
  | _ => (number? 10 digits).filter (· ≤ 255)

/-- The two groups of a dotted address. -/
def dottedGroups? (text : List Char) : Option (List Nat) :=
  match (splitAt '.' text).mapM octet? with
  | some [a, b, c, d] => some [256 * a + b, 256 * c + d]
  | _ => none

/-- The groups of a text; the last may be dotted if `dotted`. -/
def groups? (dotted : Bool) : List (List Char) → Option (List Nat)
  | [] => some []
  | [last] =>
    match group? last with
    | some group => some [group]
    | none => if dotted then dottedGroups? last else none
  | first :: rest => do return (← group? first) :: (← groups? dotted rest)

def groupsOf? (dotted : Bool) (text : List Char) : Option (List Nat) :=
  if text.isEmpty then some [] else groups? dotted (splitAt ':' text)

def ipv6? (text : List Char) : Option (List Nat) :=
  match cutAt? "::".toList text with
  | none => (groupsOf? true text).filter (·.length = 8)
  | some (before, after) => do
    let before ← groupsOf? false before
    let after ← groupsOf? true after
    let written := before.length + after.length
    if written ≤ 7 then return before ++ List.replicate (8 - written) 0 ++ after else none

/-- The longest stretch of zeros, the first of several: what comes before it,
its length and what comes after. -/
def longestZeros : List Nat → List Nat × Nat × List Nat
  | [] => ([], 0, [])
  | group :: rest =>
    let here := ((group :: rest).takeWhile (· == 0)).length
    let (before, length, after) := longestZeros rest
    if length ≤ here then ([], here, (group :: rest).drop here)
    else (group :: before, length, after)

def joinGroups (groups : List Nat) : List Char := joinWith [':'] (groups.map (Nat.toDigits 16))

/-- A lone zero is written out. -/
def ipv6Text (groups : List Nat) : List Char :=
  let (before, length, after) := longestZeros groups
  if length ≤ 1 then joinGroups groups
  else joinGroups before ++ ':' :: ':' :: joinGroups after

/-! Version 4: up to four numbers between dots, each decimal, octal after a zero
or hexadecimal after `0x`; the last one fills the remaining bytes. -/

def ipv4Part? (part : List Char) : Option Nat :=
  match part with
  | '0' :: 'x' :: rest | '0' :: 'X' :: rest => if rest.isEmpty then some 0 else number? 16 rest
  | '0' :: c :: rest => number? 8 (c :: rest)
  | _ => number? 10 part

/-- The parts between dots, without an empty last one. -/
def dottedParts (text : List Char) : List (List Char) :=
  match (splitAt '.' text).reverse with
  | [] :: part :: parts => (part :: parts).reverse
  | parts => parts.reverse

def endsInNumber (text : List Char) : Bool :=
  match (dottedParts text).getLast? with
  | some last => (!last.isEmpty && last.all Char.isDigit) || (ipv4Part? last).isSome
  | none => false

def ipv4? (text : List Char) : Option Nat := do
  let parts := dottedParts text
  if parts.length > 4 then none
  let numbers ← parts.mapM ipv4Part?
  let leading := numbers.dropLast
  let last ← numbers.getLast?
  if leading.any (· > 255) || last ≥ Nat.pow 256 (5 - numbers.length) then none
  return leading.foldl (fun n byte => n * 256 + byte) 0 * Nat.pow 256 (5 - numbers.length) + last

/-! Hosts as they are read and written. -/

/-- What stands in brackets is a version 6 address. -/
def bracketed? (text : List Char) : Option (Except UrlFault Host) :=
  (after? ['['] text).map fun rest =>
    match (before? [']'] rest).bind ipv6? with
    | some groups => .ok (.ipv6 groups)
    | none => .error .ipv6

def forbiddenInHost : List Char :=
  ['\x00', '\t', '\n', '\r', ' ', '#', '/', ':', '<', '>', '?', '@', '[', '\\', ']', '^', '|']

/-- A host that is taken as it is. -/
def readHost (text : List Char) : Except UrlFault Host :=
  match bracketed? text with
  | some host => host
  | none =>
    if text.any (forbiddenInHost.contains ·) then .error .hostCharacter
    else .ok (.name (percentEncode isControl text))

def readDomain (text : List Char) : Except UrlFault Host :=
  match bracketed? text with
  | some host => host
  | none =>
    match (String.fromUTF8? ⟨(percentDecode text).toArray⟩).bind (readName ·.toList) with
    | none => .error .domainName
    | some domain =>
      if domain.isEmpty then .error .emptyHost
      else if endsInNumber domain then
        match ipv4? domain with
        | some address => .ok (.ipv4 address)
        | none => .error .ipv4
      else .ok (.name domain)

def ipv4Text (address : Nat) : List Char :=
  joinWith ['.'] ([24, 16, 8, 0].map fun shift => Decimal.numeral (address >>> shift % 256))

def Host.text : Host → List Char
  | name text => text
  | ipv4 address => ipv4Text address
  | ipv6 groups => '[' :: ipv6Text groups ++ [']']

end CredentialReach.Url
