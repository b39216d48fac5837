import CredentialReach.Walk.Fault

/-! Branches of a walk: one visit to a collection, and those that each of its
resources opens. The reply to a branch does not depend on what becomes of the
others, so the branches below a resource are known before it is decided whether
they are taken. -/

namespace CredentialReach.Walk

/-- What the requests of a walk come to. One request may be answered differently in
another branch, or at another time. -/
abbrev Replies := Source → Option Resource → (start : Nat) → Transport

/-- What a walk goes by. Times are milliseconds from its start. -/
structure Plan where
  replies : Replies
  permissions : PermissionSet
  deadline : Nat
  /-- How long to wait after being told to slow down. -/
  backoff : Nat

/-- No wait is longer than thirty years. -/
def longestWait : Nat := 86400 * 365 * 30 * 1000

def Plan.answeredBy (replies : Replies) (permissions : PermissionSet) (timeout backoff : Nat) :
    Plan :=
  { replies, permissions, deadline := min timeout longestWait,
    backoff := min backoff longestWait }

/-- All branches use one transport. -/
def Plan.within (transport : Transport) (permissions : PermissionSet) (timeout backoff : Nat) :
    Plan :=
  .answeredBy (fun _ _ _ => transport) permissions timeout backoff

/-- One collection, asked for once. -/
structure Visit where
  collection : String
  parent : Option String
  /-- None if there was no request to send. -/
  request : Option Request
  /-- When it was over. -/
  settled : Nat
  failure : Option BranchFailure := none

def Visit.error? (visit : Visit) : Option BranchError :=
  visit.failure.map fun failure => ⟨visit.collection, visit.parent, failure⟩

inductive Reaction where
  | extract
  /-- The collection counts as empty. -/
  | inaccessible
  /-- It counts as empty too, after a wait. -/
  | slowDown
  | unexpected
deriving DecidableEq, Repr

def Reaction.ofResponse (response : Response) : Reaction :=
  if response.isSuccess then extract
  else if response.status ∈ [401, 403, 404] then inaccessible
  else if response.status = 429 then slowDown
  else unexpected

namespace Plan

/-- A response that came at `time`: when it was dealt with, and what it gave. -/
def react (plan : Plan) (source : Source) (parent : Option Resource) (time : Nat)
    (response : Response) : Nat × Except BranchFailure (List Draft) :=
  match Reaction.ofResponse response with
  | .extract => (time, (source.extract response.body parent).mapError .decode)
  | .inaccessible => (time, .ok [])
  | .slowDown => (min (time + plan.backoff) plan.deadline, .ok [])
  | .unexpected => (time, .error (.unexpectedStatus response.status))

/-- A request sent at `start`. A reply that comes later than the deadline is not
waited for. -/
def ask (plan : Plan) (source : Source) (parent : Option Resource) (start : Nat)
    (request : Request) : Nat × Except BranchFailure (List Draft) :=
  let reply := plan.replies source parent start request
  let arrival := start + reply.delay
  if plan.deadline < arrival then (plan.deadline, .error .timedOut)
  else
    match reply.outcome with
    | .ok response => plan.react source parent arrival response
    | .error fault => (arrival, .error (.transport fault))

def visit (plan : Plan) (source : Source) (parent : Option Resource) (start : Nat) :
    Visit × List Draft :=
  let close (request : Option Request) : Nat × Except BranchFailure (List Draft) →
      Visit × List Draft
    | (settled, .ok drafts) =>
      (⟨source.label, parent.map (·.fullName), request, settled, none⟩, drafts)
    | (settled, .error failure) =>
      (⟨source.label, parent.map (·.fullName), request, settled, some failure⟩, [])
  match source.request parent with
  | .ok request => close (some request) (plan.ask source parent start request)
  | .error fault => close none (start, .error (.decode fault))

end Plan

mutual

inductive Branch where
  | of (visit : Visit) (found : List Finding)

/-- A resource that a visit found, and the branches that it opens. -/
inductive Finding where
  | of (draft : Draft) (below : List Branch)

end

def Branch.visit : Branch → Visit
  | of visit _ => visit

def Branch.found : Branch → List Finding
  | of _ found => found

mutual

/-- How many branches there are, this one and all below it. -/
def Branch.size : Branch → Nat
  | .of _ found => 1 + Finding.sizes found

def Finding.sizes : List Finding → Nat
  | [] => 0
  | .of _ below :: rest => Branch.sizes below + Finding.sizes rest

def Branch.sizes : List Branch → Nat
  | [] => 0
  | branch :: rest => branch.size + Branch.sizes rest

end

mutual

def Plan.branch (plan : Plan) (start : Nat) (parent : Option Resource) : Collection → Branch
  | .of source children =>
    let (visit, drafts) := plan.visit source parent start
    .of visit <| drafts.map fun draft =>
      .of draft (plan.branches visit.settled (some (Resource.place draft parent)) children)

/-- The branches below one resource, all begun at `start`. Those that need a
permission that is not held are left out. -/
def Plan.branches (plan : Plan) (start : Nat) (parent : Option Resource) :
    List Collection → List Branch
  | [] => []
  | collection :: rest =>
    if plan.permissions.meets collection.source.required then
      plan.branch start parent collection :: plan.branches start parent rest
    else plan.branches start parent rest

end

end CredentialReach.Walk
