import Mathlib.Algebra.Order.Group.Multiset
import CredentialReach.Walk.Branch

/-! What the branches of a walk bring about, in no order: that a collection was asked for,
and that a resource was found. When something happened is not part of it. Two plans whose
requests get the same replies, at whatever time, bring about the same as long as nothing
comes too late. -/

namespace CredentialReach.Walk

inductive Event where
  | asked (collection : String) (parent : Option String) (request : Option Request)
      (failure : Option BranchFailure)
  | found (resource : Resource)

def Visit.event (visit : Visit) : Event :=
  .asked visit.collection visit.parent visit.request visit.failure

def Event.InTime : Event → Prop
  | asked _ _ _ failure => failure ≠ some .timedOut
  | found _ => True

mutual

def Branch.events (owner : Option Resource) : Branch → Multiset Event
  | .of visit found => visit.event ::ₘ Finding.events owner found

def Finding.events (owner : Option Resource) : List Finding → Multiset Event
  | [] => 0
  | .of draft below :: rest =>
    .found (.place draft owner) ::ₘ
      (Branch.eventsOfAll (some (.place draft owner)) below + Finding.events owner rest)

def Branch.eventsOfAll (owner : Option Resource) : List Branch → Multiset Event
  | [] => 0
  | branch :: rest => branch.events owner + Branch.eventsOfAll owner rest

end

theorem Branch.eventsOfAll_eq_sum (owner : Option Resource) (branches : List Branch) :
    Branch.eventsOfAll owner branches = (branches.map (Branch.events owner)).sum := by
  induction branches with
  | nil => rw [Branch.eventsOfAll, List.map_nil, List.sum_nil]
  | cons branch rest ih => rw [Branch.eventsOfAll, ih, List.map_cons, List.sum_cons]

/-- The same permissions, and the same replies but for their delays. -/
structure Plan.Alike (first second : Plan) : Prop where
  permissions : first.permissions = second.permissions
  replies : ∀ source parent start later request,
    (first.replies source parent start request).outcome = (second.replies source parent later request).outcome

namespace Plan

variable {first second : Plan} {source : Source} {parent : Option Resource} {start later : Nat}

/-- What a visit leaves behind if it does not count when it was over. -/
theorem visit_of_request (plan : Plan) (start : Nat) {request : Request}
    (asks : source.request parent = .ok request) :
    ((plan.visit source parent start).1.event, (plan.visit source parent start).2) =
      match (plan.ask source parent start request).2 with
      | .ok drafts => (.asked source.label (parent.map (·.fullName)) (some request) none, drafts)
      | .error failure =>
        (.asked source.label (parent.map (·.fullName)) (some request) (some failure), []) := by
  unfold visit
  simp only [asks]
  rcases plan.ask source parent start request with ⟨settled, _ | _⟩ <;> rfl

private theorem react_eq (first second : Plan) (source : Source) (parent : Option Resource) (start later : Nat)
    (response : Response) :
    (first.react source parent start response).2 = (second.react source parent later response).2 := by
  unfold react
  split <;> rfl

private theorem ask_in_time {plan : Plan} {request : Request}
    (inTime : (plan.ask source parent start request).2 ≠ .error .timedOut) :
    (plan.ask source parent start request).2 =
      match (plan.replies source parent start request).outcome with
      | .ok response => (plan.react source parent start response).2
      | .error fault => .error (.transport fault) := by
  unfold ask at inTime ⊢
  dsimp only at inTime ⊢
  split at inTime
  next => exact absurd rfl inTime
  next before =>
    rw [if_neg before]
    cases (plan.replies source parent start request).outcome with
    | ok response => exact react_eq ..
    | error fault => rfl

theorem Alike.ask (alike : first.Alike second) {request : Request}
    (inTime : (first.ask source parent start request).2 ≠ .error .timedOut)
    (inTimeToo : (second.ask source parent later request).2 ≠ .error .timedOut) :
    (first.ask source parent start request).2 = (second.ask source parent later request).2 := by
  rw [ask_in_time inTime, ask_in_time inTimeToo, alike.replies source parent start later request]
  cases (second.replies source parent later request).outcome with
  | ok response => exact react_eq ..
  | error fault => rfl

theorem visit_of_fault (plan : Plan) (start : Nat) {fault : CollectionFault}
    (asks : source.request parent = .error fault) :
    plan.visit source parent start =
      (⟨source.label, parent.map (·.fullName), none, start, some (.decode fault)⟩, []) := by
  unfold visit
  rw [asks]

private theorem ask_of_visit_in_time {plan : Plan} {request : Request} (asks : source.request parent = .ok request)
    (inTime : (plan.visit source parent start).1.event.InTime) :
    (plan.ask source parent start request).2 ≠ .error .timedOut := by
  intro late
  have whole := plan.visit_of_request start asks
  rw [late] at whole
  have given : (plan.visit source parent start).1.event =
    .asked source.label (parent.map (·.fullName)) (some request) (some .timedOut) := congrArg Prod.fst whole
  rw [given] at inTime
  exact inTime rfl

theorem Alike.visit (alike : first.Alike second)
    (inTime : (first.visit source parent start).1.event.InTime)
    (inTimeToo : (second.visit source parent later).1.event.InTime) :
    ((first.visit source parent start).1.event, (first.visit source parent start).2) =
      ((second.visit source parent later).1.event, (second.visit source parent later).2) := by
  cases asks : source.request parent with
  | error fault =>
    rw [visit_of_fault first start asks, visit_of_fault second later asks]
    rfl
  | ok request =>
    rw [visit_of_request first start asks, visit_of_request second later asks,
      alike.ask (ask_of_visit_in_time asks inTime) (ask_of_visit_in_time asks inTimeToo)]

/-- The findings of a visit, with the branches that open below them. -/
def findings (plan : Plan) (children : List Collection) (parent : Option Resource) (settled : Nat)
    (drafts : List Draft) : List Finding :=
  drafts.map fun draft => .of draft (plan.branches settled (some (.place draft parent)) children)

theorem events_branch (plan : Plan) (start : Nat) (parent : Option Resource) (source : Source)
    (children : List Collection) :
    (plan.branch start parent (.of source children)).events parent =
      (plan.visit source parent start).1.event ::ₘ
        Finding.events parent (plan.findings children parent (plan.visit source parent start).1.settled
          (plan.visit source parent start).2) := by
  rw [branch, Branch.events, findings]

private theorem events_findings {children : List Collection}
    (below : ∀ owner, (∀ event ∈ Branch.eventsOfAll owner (first.branches start owner children), event.InTime) →
      (∀ event ∈ Branch.eventsOfAll owner (second.branches later owner children), event.InTime) →
      Branch.eventsOfAll owner (first.branches start owner children) =
        Branch.eventsOfAll owner (second.branches later owner children)) (drafts : List Draft)
    (inTime : ∀ event ∈ Finding.events parent (first.findings children parent start drafts), event.InTime)
    (inTimeToo : ∀ event ∈ Finding.events parent (second.findings children parent later drafts), event.InTime) :
    Finding.events parent (first.findings children parent start drafts) =
      Finding.events parent (second.findings children parent later drafts) := by
  induction drafts with
  | nil => rfl
  | cons draft rest ih =>
    simp only [findings, List.map_cons, Finding.events, Multiset.forall_mem_cons, Multiset.mem_add, or_imp,
      forall_and] at inTime inTimeToo ⊢
    rw [below _ inTime.2.1 inTimeToo.2.1]
    exact congrArg _ (congrArg _ (ih inTime.2.2 inTimeToo.2.2))

mutual

/-- What comes in time under both plans is the same, down to the last branch. -/
theorem Alike.events_branch (alike : first.Alike second) (start later : Nat) (parent : Option Resource)
    (collection : Collection)
    (inTime : ∀ event ∈ (first.branch start parent collection).events parent, event.InTime)
    (inTimeToo : ∀ event ∈ (second.branch later parent collection).events parent, event.InTime) :
    (first.branch start parent collection).events parent =
      (second.branch later parent collection).events parent := by
  obtain ⟨source, children⟩ := collection
  rw [Plan.events_branch, Multiset.forall_mem_cons] at inTime inTimeToo
  obtain ⟨event, drafts⟩ := Prod.mk.inj (alike.visit inTime.1 inTimeToo.1)
  rw [drafts] at inTime
  rw [Plan.events_branch, Plan.events_branch, event, drafts]
  exact congrArg _
    (events_findings (fun owner => alike.events_branches _ _ owner children) _ inTime.2 inTimeToo.2)

theorem Alike.events_branches (alike : first.Alike second) (start later : Nat) (parent : Option Resource)
    (collections : List Collection)
    (inTime : ∀ event ∈ Branch.eventsOfAll parent (first.branches start parent collections), event.InTime)
    (inTimeToo : ∀ event ∈ Branch.eventsOfAll parent (second.branches later parent collections), event.InTime) :
    Branch.eventsOfAll parent (first.branches start parent collections) =
      Branch.eventsOfAll parent (second.branches later parent collections) := by
  cases collections with
  | nil => rw [branches, branches]
  | cons collection rest =>
    -- Both plans have the same permissions and pass over the same collections.
    rw [branches] at inTime inTimeToo ⊢
    rw [branches, alike.permissions]
    rw [alike.permissions] at inTime
    split
    next held =>
      simp only [held, if_true, Branch.eventsOfAll, Multiset.mem_add, or_imp, forall_and] at inTime inTimeToo ⊢
      rw [alike.events_branch start later parent collection inTime.1 inTimeToo.1,
        alike.events_branches start later parent rest inTime.2 inTimeToo.2]
    next unheld =>
      rw [if_neg unheld] at inTime inTimeToo
      exact alike.events_branches start later parent rest inTime inTimeToo

end

end Plan

end CredentialReach.Walk
