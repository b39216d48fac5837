import CredentialReach.Text.Search

/-! Punycode (RFC 3492): a text as its ASCII characters, a dash and digits that
say which other characters come in between, and where. A number is written in
base 36, its least digit first; a digit below a threshold is its last. -/

namespace CredentialReach.Url.Punycode

open Text

/-- The value of a digit: small letters come before decimal digits. -/
def digit? (c : Char) : Option Nat :=
  if 'a' ≤ c ∧ c ≤ 'z' then some (c.toNat - 'a'.toNat)
  else if c.isDigit then some (c.toNat - '0'.toNat + 26)
  else none

/-- No intermediate result is larger. -/
def greatest : Nat := Nat.pow 2 32 - 1

def threshold (place bias : Nat) : Nat :=
  if place ≤ bias then 1 else if bias + 26 ≤ place then 26 else place - bias

/-- How far thresholds move for a number of a certain size. -/
def scale (place delta : Nat) : Nat :=
  if 455 < delta then scale (place + 36) (delta / 35) else place + 36 * delta / (delta + 38)
termination_by delta
decreasing_by exact Nat.div_lt_self (by omega) (by omega)

/-- The bias after a number; `count` characters are there by then. -/
def adapt (number count : Nat) (isFirst : Bool) : Nat :=
  let damped := if isFirst then number / 700 else number / 2
  scale 0 (damped + damped / count)

/-- What is known after some digits. -/
structure State where
  text : List Char
  /-- The character inserted last. -/
  codePoint : Nat := 128
  /-- Where the next one may come first. -/
  position : Nat := 0
  bias : Nat := 72
  /-- The number read so far, and what its next digit counts. -/
  number : Nat := 0
  weight : Nat := 1
  place : Nat := 36

namespace State

/-- Inserts the character that the number leads to: it counts positions, and
starts over with the next character after the last one. -/
def insert (state : State) : Option State :=
  let count := state.text.length + 1
  let total := state.position + state.number
  let next := state.codePoint + total / count
  let position := total % count
  if next.isValidChar then
    some {
      text := state.text.take position ++ Char.ofNat next :: state.text.drop position
      codePoint := next
      position := position + 1
      bias := adapt state.number count (state.position == 0) }
  else none

def read (state : State) (c : Char) : Option State := do
  let digit ← digit? c
  let number := state.number + digit * state.weight
  let threshold := threshold state.place state.bias
  let weight := state.weight * (36 - threshold)
  if greatest < state.position + number then none
  else if digit < threshold then insert { state with number }
  else if greatest < weight then none
  else return { state with number, weight, place := state.place + 36 }

end State

/-- The ASCII characters and the digits after the last dash. -/
def cut (text : List Char) : List Char × List Char :=
  let digits := (text.reverse.takeWhile (· != '-')).reverse
  match text.take (text.length - digits.length) with
  | [] | ['-'] => ([], text)
  | basic => (basic.dropLast, digits)

/-- The text that is written so; all numbers have to be complete. -/
def decode? (text : List Char) : Option (List Char) := do
  let (basic, digits) := cut text
  let state ← digits.foldlM State.read { text := basic }
  if state.place = 36 then return state.text else none

end CredentialReach.Url.Punycode
