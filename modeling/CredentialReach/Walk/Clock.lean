import CredentialReach.Walk.Branch

/-! The clock of a walk. It ends some day, and an instant past its last one cannot be told. A
wait is cut at thirty years before it is added to an instant, so as much room is enough. -/

namespace CredentialReach.Walk

/-- A clock whose instants are counted from some first one. -/
structure Clock where
  perSecond : Nat
  /-- The last instant that it can tell. -/
  last : Nat

namespace Clock

/-- Thirty years. -/
def longest (clock : Clock) : Nat := 86400 * 365 * 30 * clock.perSecond

/-- None if the clock does not go so far. -/
def after? (clock : Clock) (now wait : Nat) : Option Nat :=
  if now + wait ≤ clock.last then some (now + wait) else none

def deadlineAfter? (clock : Clock) (now wait : Nat) : Option Nat :=
  clock.after? now (min wait clock.longest)

/-- Until when a branch sleeps that was told at `now` to slow down. -/
def wake? (clock : Clock) (now backoff deadline : Nat) : Option Nat :=
  (clock.deadlineAfter? now backoff).map (min · deadline)

end Clock

/-- What a walk goes by that begins at `now`. None if its deadline cannot be told. -/
def Plan.onClock? (clock : Clock) (now : Nat) (replies : Replies) (permissions : PermissionSet)
    (timeout backoff : Nat) : Option Plan :=
  (clock.deadlineAfter? now timeout).map fun deadline =>
    { replies, permissions, deadline := deadline - now, backoff := min backoff clock.longest }

end CredentialReach.Walk
