import CredentialReach.Proofs.CourseOrders
import CredentialReach.Proofs.CourseRecords
import CredentialReach.Proofs.Traversals
import CredentialReach.Proofs.VisitAnswers

/-! A walk opens every resource once. Branches that race for a name agree on one owner: the
resource is in the graph once, one delivery is called new, and below it every permitted child
collection of the branch that created it is tried once. Nothing else is tried, whichever
branch takes the next step. -/

namespace CredentialReach.Walk

variable {manner : Manner} {plan : Plan} {course : Course} {collections : List Collection}

structure Course.Expanded (manner : Manner) (collections : List Collection) (course : Course) :
    Prop where
  /-- What branches found was handed over, each draft once. -/
  delivered : (course.deliveries.map fun delivery => (delivery.errand, delivery.draft)).Perm
    (course.finds manner)
  /-- A name that was found stands for one resource, and was called new once. -/
  once : ∀ find ∈ course.finds manner,
    course.names.count find.2.fullName = 1 ∧
      (course.created.map (·.draft.fullName)).count find.2.fullName = 1
  /-- Every resource was brought by a branch whose permitted child collections were tried
  below it, each once. -/
  opened : ∀ id resource, course.graph.resource? id = some resource →
    ∃ creator ∈ course.created, creator.id = id ∧ creator.resource = resource ∧
      (course.triedBelow id).Perm (manner.permitted creator.errand.children)
  /-- Nothing is tried but what begins at the top or below a new resource. -/
  tried : course.tried.Perm
    (manner.errands none 0 collections ++ course.created.flatMap manner.opened)

private theorem filter_errands (parent : Option (Nat × Resource)) (start : Nat) (children : List Collection)
    (id : Nat) :
    (manner.errands parent start children).filter (·.owner == some id) =
      if parent.map Prod.fst = some id then manner.errands parent start children else [] := by
  have owner : ∀ errand ∈ manner.errands parent start children, errand.owner = parent.map Prod.fst :=
    fun errand member => congrArg (Option.map Prod.fst) (parent_of_mem_errands member)
  split
  next same =>
    exact List.filter_eq_self.mpr fun errand member => by rw [owner errand member, same, beq_self_eq_true]
  next other =>
    refine List.filter_eq_nil_iff.mpr fun errand member => ?_
    rw [owner errand member, beq_iff_eq]
    exact other

/-- Only one delivery opens branches below an id. -/
theorem Course.Recorded.triedBelow (recorded : course.Recorded)
    (tried : course.tried.Perm
      (manner.errands none 0 collections ++ course.created.flatMap manner.opened))
    {creator : Delivery} (member : creator ∈ course.created) :
    (course.triedBelow creator.id).Perm (manner.permitted creator.errand.children) := by
  have apart : (course.created.map (·.id)).Nodup := recorded.ids ▸ List.nodup_range
  have filtered : (course.created.flatMap manner.opened).filter (·.owner == some creator.id) =
      manner.opened creator := by
    rw [List.filter_flatMap, ← flatMap_of_apart apart member manner.opened]
    refine List.flatMap_congr fun other _ => ?_
    rw [Manner.opened, Manner.below, filter_errands]
    simp only [Option.map_some, Option.some.injEq]
  have top : (manner.errands none 0 collections).filter (·.owner == some creator.id) = [] := by
    rw [filter_errands]
    exact if_neg (by simp)
  have below := (tried.filter (·.owner == some creator.id)).map (·.collection)
  rw [List.filter_append, top, List.nil_append, filtered, Manner.opened, Manner.below, Manner.errands,
    List.map_map] at below
  exact below.trans (.of_eq (List.map_id _))

theorem Course.Recorded.names (recorded : course.Recorded) :
    course.created.map (·.draft.fullName) = course.names := by
  rw [Course.names, ← recorded.resources, List.map_map]
  exact List.map_congr_left fun delivery _ => delivery.fullName_resource.symm

theorem Manner.Ends.recorded (ends : manner.Ends collections course) : course.Recorded :=
  ends.reached.recorded

theorem Manner.Ends.accounts (ends : manner.Ends collections course) :
    course.Accounts manner collections :=
  ends.reached.accounts

theorem Manner.Ends.expanded (ends : manner.Ends collections course) :
    course.Expanded manner collections := by
  have recorded := ends.recorded
  have accounts := ends.accounts
  have delivered : (course.deliveries.map fun delivery => (delivery.errand, delivery.draft)).Perm
      (course.finds manner) := by
    have whole := accounts.drafts
    rw [ends.done, Multiset.zero_bind, add_zero] at whole
    exact Multiset.coe_eq_coe.mp whole.symm
  have tried : course.tried.Perm
      (manner.errands none 0 collections ++ course.created.flatMap manner.opened) := by
    have whole := accounts.errands
    rw [ends.done, Multiset.zero_bind, add_zero] at whole
    exact Multiset.coe_eq_coe.mp whole
  have names := recorded.names
  refine ⟨delivered, fun find member => ?_, fun id resource there => ?_, tried⟩
  · obtain ⟨delivery, listed, rfl⟩ := List.mem_map.mp (delivered.mem_iff.mpr member)
    obtain ⟨resource, there, same⟩ := recorded.stored delivery listed
    have known : delivery.draft.fullName ∈ course.names :=
      List.mem_map.mpr ⟨resource, List.mem_of_getElem? there, same⟩
    rw [names]
    exact ⟨List.count_eq_one_of_mem recorded.apart known, List.count_eq_one_of_mem recorded.apart known⟩
  · obtain ⟨creator, member, same, brought⟩ := recorded.exists_creator there
    exact ⟨creator, member, same, brought, same ▸ recorded.triedBelow tried member⟩

private theorem sent_outcome (plan : Plan) (course : Course) :
    (course.outcome plan.manner).sent = course.tried.filterMap (·.request.toOption) := by
  simp only [Course.outcome, Outcome.ofState, List.filterMap_map]
  exact List.filterMap_congr fun errand _ => request_visit plan errand

theorem exists_errand_of_sent {request : Request} (sent : request ∈ (course.outcome plan.manner).sent) :
    ∃ errand ∈ course.tried, errand.request = .ok request := by
  rw [sent_outcome] at sent
  obtain ⟨errand, tried, asks⟩ := List.mem_filterMap.mp sent
  refine ⟨errand, tried, ?_⟩
  cases whole : errand.request with
  | error fault =>
    rw [whole] at asks
    cases asks
  | ok other =>
    rw [whole] at asks
    exact congrArg Except.ok (Option.some.inj asks)

theorem branchErrors_outcome (manner : Manner) (course : Course) :
    (course.outcome manner).branchErrors =
      course.tried.filterMap fun errand => (manner.visit errand).error? := by
  rw [Course.outcome, branchErrors_ofState, List.filterMap_map]
  rfl

/-- Whatever names are found twice, and whichever branch is first to add one: a name is one
resource, created once, and its branches are tried once, by one request or one error that
there is none to send. Walks that settle whole branches are among those meant. -/
theorem Plan.expands_once (ends : plan.manner.Ends collections course) :
    course.Expanded plan.manner collections ∧
      (course.outcome plan.manner).sent.Perm (course.tried.filterMap (·.request.toOption)) ∧
      (course.outcome plan.manner).branchErrors.Perm
        (course.tried.filterMap fun errand => (plan.manner.visit errand).error?) ∧
      (∀ errand ∈ course.tried, ∀ fault, errand.request = .error fault →
        (plan.manner.visit errand).error? = some (errand.error (.decode fault))) ∧
      ∀ order, ∃ other, plan.manner.Ends collections other ∧
        other.outcome plan.manner = plan.walkInOrder order collections := by
  refine ⟨ends.expanded, .of_eq (sent_outcome plan course), .of_eq (branchErrors_outcome _ course), ?_,
    fun order => plan.exists_course order collections⟩
  intro errand _ fault asks
  rw [error?_visit, failure_visit_iff.mpr (.unaddressed asks)]
  rfl

/-- A collection that lists one resource, which goes by the body of the response. -/
def naming (label path : String) (children : List Collection) : Collection :=
  .of { label, request := fun _ => .ok (.get path),
        extract := fun body _ => .ok [⟨body, body, label, ∅⟩] } children

/-- Two collections whose resources share a name. Only the second has one below it. -/
def rivals : List Collection :=
  [naming "teams" "/teams" [], naming "projects" "/projects" [naming "environments" "/environments" []]]

def answering : Plan where
  replies _ _ _ request := ⟨0, .ok ⟨200, if request.path = "/environments" then "prod" else "web"⟩⟩
  permissions := ∅
  deadline := 100
  backoff := 0

theorem expands_once_of_rivals :
    ∃ course, answering.manner.Ends rivals course ∧
      course.names = ["web", "prod"] ∧
      course.Expanded answering.manner rivals := by
  obtain ⟨course, ends, outcome⟩ := answering.exists_course (fun _ => 1) rivals
  have graph : course.graph = (answering.walkInOrder (fun _ => 1) rivals).graph :=
    congrArg Outcome.graph outcome
  refine ⟨course, ends, ?_, (Plan.expands_once ends).1⟩
  rw [Course.names, graph]
  decide +kernel

end CredentialReach.Walk
