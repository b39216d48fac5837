/-! Points in time as text: date, time of day and the offset of universal time. -/

namespace CredentialReach.Text

structure Day where
  year : Nat
  month : Nat
  day : Nat
deriving DecidableEq, Repr

/-- The date that lies a number of days after 1970-01-01. Years are counted from
March on, so that a leap day is the last day of its year; 400 years are one
cycle of 146097 days. -/
def Day.ofCount (count : Nat) : Day :=
  let sinceMarch := count + 719468
  let cycle := sinceMarch / 146097
  let inCycle := sinceMarch % 146097
  let year := (inCycle - inCycle / 1460 + inCycle / 36524 - inCycle / 146096) / 365
  let inYear := inCycle - (365 * year + year / 4 - year / 100)
  let month := (5 * inYear + 2) / 153
  let day := inYear - (153 * month + 2) / 5 + 1
  if month < 10 then ⟨cycle * 400 + year, month + 3, day⟩
  else ⟨cycle * 400 + year + 1, month - 9, day⟩

/-- The decimal digits of a number, with zeros in front up to `width`. -/
def padded (width n : Nat) : String :=
  let digits := Nat.repr n
  String.ofList (List.replicate (width - digits.length) '0') ++ digits

/-- Three, six or nine digits of a fraction, or none, as many as it needs. -/
def fraction (nanoseconds : Nat) : String :=
  if nanoseconds = 0 then ""
  else if nanoseconds % 1000000 = 0 then "." ++ padded 3 (nanoseconds / 1000000)
  else if nanoseconds % 1000 = 0 then "." ++ padded 6 (nanoseconds / 1000)
  else "." ++ padded 9 nanoseconds

/-- The time that lies some nanoseconds after the start of 1970. -/
def timeStamp (nanoseconds : Nat) : String :=
  let seconds := nanoseconds / 1000000000
  let date := Day.ofCount (seconds / 86400)
  let clock := seconds % 86400
  let days := "-".intercalate [padded 4 date.year, padded 2 date.month, padded 2 date.day]
  let hours := ":".intercalate
    [padded 2 (clock / 3600), padded 2 (clock / 60 % 60), padded 2 (clock % 60)]
  days ++ "T" ++ hours ++ fraction (nanoseconds % 1000000000) ++ "+00:00"

end CredentialReach.Text
