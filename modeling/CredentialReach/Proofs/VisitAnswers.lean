import CredentialReach.Walk.Course

/-! What asking for a collection comes to: the five ways in which a branch fails, and the
answers that it takes. A failed branch brings nothing. -/

namespace CredentialReach.Walk

/-- The visit of a branch, called after its collection and the resource that it belongs to. -/
def Errand.over (errand : Errand) (request : Option Request) (settled : Nat)
    (failure : Option BranchFailure) : Visit :=
  ⟨errand.collection.source.label, errand.resource.map (·.fullName), request, settled, failure⟩

namespace Plan

def answer (plan : Plan) (errand : Errand) (request : Request) :
    Nat × Except BranchFailure (List Draft) :=
  plan.ask errand.collection.source errand.resource errand.start request

def reply (plan : Plan) (errand : Errand) : Transport :=
  plan.replies errand.collection.source errand.resource errand.start

def arrival (plan : Plan) (errand : Errand) (request : Request) : Nat :=
  errand.start + (plan.reply errand request).delay

inductive Fails (plan : Plan) (errand : Errand) : BranchFailure → Prop
  | unaddressed {fault : CollectionFault} (asks : errand.request = .error fault) :
      Fails plan errand (.decode fault)
  | late {request : Request} (asks : errand.request = .ok request)
      (late : plan.deadline < plan.arrival errand request) : Fails plan errand .timedOut
  | unreached {request : Request} {fault : TransportFault} (asks : errand.request = .ok request)
      (inTime : plan.arrival errand request ≤ plan.deadline)
      (outcome : (plan.reply errand request).outcome = .error fault) :
      Fails plan errand (.transport fault)
  | unexpected {request : Request} {response : Response} (asks : errand.request = .ok request)
      (inTime : plan.arrival errand request ≤ plan.deadline)
      (outcome : (plan.reply errand request).outcome = .ok response)
      (unsuccessful : ¬(200 ≤ response.status ∧ response.status < 300))
      (other : response.status ∉ [401, 403, 404, 429]) :
      Fails plan errand (.unexpectedStatus response.status)
  | unreadable {request : Request} {response : Response} {fault : CollectionFault}
      (asks : errand.request = .ok request)
      (inTime : plan.arrival errand request ≤ plan.deadline)
      (outcome : (plan.reply errand request).outcome = .ok response)
      (successful : 200 ≤ response.status ∧ response.status < 300)
      (extracts : errand.collection.source.extract response.body errand.resource = .error fault) :
      Fails plan errand (.decode fault)

inductive Answers (plan : Plan) (errand : Errand) : Visit → List Draft → Prop
  | failed {failure : BranchFailure} {settled : Nat} (fails : plan.Fails errand failure)
      (inTime : errand.start ≤ plan.deadline → settled ≤ plan.deadline) :
      Answers plan errand (errand.over errand.request.toOption settled (some failure)) []
  | extracted {request : Request} {response : Response} {drafts : List Draft}
      (asks : errand.request = .ok request)
      (inTime : plan.arrival errand request ≤ plan.deadline)
      (outcome : (plan.reply errand request).outcome = .ok response)
      (successful : 200 ≤ response.status ∧ response.status < 300)
      (extracts : errand.collection.source.extract response.body errand.resource = .ok drafts) :
      Answers plan errand (errand.over (some request) (plan.arrival errand request) none) drafts
  | denied {request : Request} {response : Response} (asks : errand.request = .ok request)
      (inTime : plan.arrival errand request ≤ plan.deadline)
      (outcome : (plan.reply errand request).outcome = .ok response)
      (denied : response.status ∈ [401, 403, 404]) :
      Answers plan errand (errand.over (some request) (plan.arrival errand request) none) []
  | limited {request : Request} {response : Response} (asks : errand.request = .ok request)
      (inTime : plan.arrival errand request ≤ plan.deadline)
      (outcome : (plan.reply errand request).outcome = .ok response)
      (limited : response.status = 429) :
      Answers plan errand
        (errand.over (some request) (min (plan.arrival errand request + plan.backoff) plan.deadline) none) []

end Plan

variable {plan : Plan} {errand : Errand} {request : Request} {response : Response} {settled : Nat}

private theorem answer_eq (plan : Plan) (errand : Errand) (request : Request) :
    plan.answer errand request =
      if plan.deadline < plan.arrival errand request then (plan.deadline, .error .timedOut)
      else
        match (plan.reply errand request).outcome with
        | .ok response =>
          plan.react errand.collection.source errand.resource (plan.arrival errand request) response
        | .error fault => (plan.arrival errand request, .error (.transport fault)) := rfl

private theorem answer_of_late (late : plan.deadline < plan.arrival errand request) :
    plan.answer errand request = (plan.deadline, .error .timedOut) :=
  if_pos late

private theorem answer_of_fault {fault : TransportFault} (inTime : plan.arrival errand request ≤ plan.deadline)
    (outcome : (plan.reply errand request).outcome = .error fault) :
    plan.answer errand request = (plan.arrival errand request, .error (.transport fault)) := by
  rw [answer_eq, outcome]
  exact if_neg (Nat.not_lt.mpr inTime)

section Responses

variable (inTime : plan.arrival errand request ≤ plan.deadline)
  (outcome : (plan.reply errand request).outcome = .ok response)
include inTime outcome

theorem answer_of_response :
    plan.answer errand request =
      plan.react errand.collection.source errand.resource (plan.arrival errand request) response := by
  rw [answer_eq, outcome]
  exact if_neg (Nat.not_lt.mpr inTime)

omit inTime outcome in
theorem isSuccess_iff : response.isSuccess = true ↔ 200 ≤ response.status ∧ response.status < 300 := by
  simp [Response.isSuccess]

private theorem answer_of_success (successful : 200 ≤ response.status ∧ response.status < 300) :
    plan.answer errand request = (plan.arrival errand request,
      (errand.collection.source.extract response.body errand.resource).mapError .decode) := by
  rw [answer_of_response inTime outcome, Plan.react, Reaction.ofResponse, if_pos (isSuccess_iff.mpr successful)]

private theorem answer_of_denied (denied : response.status ∈ [401, 403, 404]) :
    plan.answer errand request = (plan.arrival errand request, .ok []) := by
  have unsuccessful : ¬response.isSuccess = true := by
    simp only [List.mem_cons, List.not_mem_nil, or_false] at denied
    rw [isSuccess_iff]
    omega
  rw [answer_of_response inTime outcome, Plan.react, Reaction.ofResponse, if_neg unsuccessful, if_pos denied]

theorem answer_of_limited (limited : response.status = 429) :
    plan.answer errand request =
      (min (plan.arrival errand request + plan.backoff) plan.deadline, .ok []) := by
  have unsuccessful : ¬response.isSuccess = true := by
    rw [isSuccess_iff]
    omega
  have accessible : response.status ∉ [401, 403, 404] := by simp [limited]
  rw [answer_of_response inTime outcome, Plan.react, Reaction.ofResponse, if_neg unsuccessful,
    if_neg accessible, if_pos limited]

private theorem answer_of_unexpected (unsuccessful : ¬(200 ≤ response.status ∧ response.status < 300))
    (other : response.status ∉ [401, 403, 404, 429]) :
    plan.answer errand request =
      (plan.arrival errand request, .error (.unexpectedStatus response.status)) := by
  have accessible : response.status ∉ [401, 403, 404] :=
    fun member => other (List.mem_append_left [429] member)
  have unlimited : response.status ≠ 429 := fun same => other (by simp [same])
  rw [answer_of_response inTime outcome, Plan.react, Reaction.ofResponse,
    if_neg (mt isSuccess_iff.mp unsuccessful), if_neg accessible, if_neg unlimited]

end Responses

theorem visit_of_drafts {drafts : List Draft} (asks : errand.request = .ok request)
    (answer : plan.answer errand request = (settled, .ok drafts)) :
    plan.manner.visit errand = errand.over (some request) settled none ∧
      plan.manner.drafts errand = drafts := by
  have addressed : errand.collection.source.request errand.resource = .ok request := asks
  have answered : plan.ask errand.collection.source errand.resource errand.start request =
    (settled, .ok drafts) := answer
  have whole : plan.visit errand.collection.source errand.resource errand.start =
      (errand.over (some request) settled none, drafts) := by
    unfold Plan.visit
    simp only [addressed, answered]
    rfl
  exact ⟨congrArg Prod.fst whole, congrArg Prod.snd whole⟩

theorem visit_of_failure {failure : BranchFailure} (asks : errand.request = .ok request)
    (answer : plan.answer errand request = (settled, .error failure)) :
    plan.manner.visit errand = errand.over (some request) settled (some failure) ∧
      plan.manner.drafts errand = [] := by
  have addressed : errand.collection.source.request errand.resource = .ok request := asks
  have answered : plan.ask errand.collection.source errand.resource errand.start request =
    (settled, .error failure) := answer
  have whole : plan.visit errand.collection.source errand.resource errand.start =
      (errand.over (some request) settled (some failure), []) := by
    unfold Plan.visit
    simp only [addressed, answered]
    rfl
  exact ⟨congrArg Prod.fst whole, congrArg Prod.snd whole⟩

private theorem visit_unaddressed {fault : CollectionFault} (asks : errand.request = .error fault) :
    plan.manner.visit errand = errand.over none errand.start (some (.decode fault)) ∧
      plan.manner.drafts errand = [] := by
  have addressed : errand.collection.source.request errand.resource = .error fault := asks
  have whole : plan.visit errand.collection.source errand.resource errand.start =
      (errand.over none errand.start (some (.decode fault)), []) := by
    unfold Plan.visit
    simp only [addressed]
    rfl
  exact ⟨congrArg Prod.fst whole, congrArg Prod.snd whole⟩

theorem Plan.Fails.visit {failure : BranchFailure} (fails : plan.Fails errand failure) :
    ∃ settled, (errand.start ≤ plan.deadline → settled ≤ plan.deadline) ∧
      plan.manner.visit errand = errand.over errand.request.toOption settled (some failure) ∧
      plan.manner.drafts errand = [] := by
  cases fails with
  | unaddressed asks => exact ⟨_, id, asks ▸ visit_unaddressed asks⟩
  | late asks late => exact ⟨_, fun _ => le_rfl, asks ▸ visit_of_failure asks (answer_of_late late)⟩
  | unreached asks inTime outcome =>
    exact ⟨_, fun _ => inTime, asks ▸ visit_of_failure asks (answer_of_fault inTime outcome)⟩
  | unexpected asks inTime outcome unsuccessful other =>
    have answer := answer_of_unexpected inTime outcome unsuccessful other
    exact ⟨_, fun _ => inTime, asks ▸ visit_of_failure asks answer⟩
  | unreadable asks inTime outcome successful extracts =>
    have answer := answer_of_success inTime outcome successful
    rw [extracts] at answer
    exact ⟨_, fun _ => inTime, asks ▸ visit_of_failure asks answer⟩

theorem Plan.Fails.answers {failure : BranchFailure} (fails : plan.Fails errand failure) :
    plan.Answers errand (plan.manner.visit errand) (plan.manner.drafts errand) := by
  obtain ⟨settled, inTime, visit, drafts⟩ := fails.visit
  rw [visit, drafts]
  exact .failed fails inTime

/-- A branch comes to one of these answers. -/
theorem Plan.answers (plan : Plan) (errand : Errand) :
    plan.Answers errand (plan.manner.visit errand) (plan.manner.drafts errand) := by
  cases asks : errand.request with
  | error fault => exact Fails.answers (.unaddressed asks)
  | ok request =>
    rcases Nat.lt_or_ge plan.deadline (plan.arrival errand request) with late | inTime
    · exact Fails.answers (.late asks late)
    cases outcome : (plan.reply errand request).outcome with
    | error fault => exact Fails.answers (.unreached asks inTime outcome)
    | ok response =>
      by_cases successful : 200 ≤ response.status ∧ response.status < 300
      · cases extracts : errand.collection.source.extract response.body errand.resource with
        | error fault => exact Fails.answers (.unreadable asks inTime outcome successful extracts)
        | ok drafts =>
          have answer := answer_of_success inTime outcome successful
          rw [extracts] at answer
          obtain ⟨visit, found⟩ := visit_of_drafts asks answer
          rw [visit, found]
          exact .extracted asks inTime outcome successful extracts
      by_cases denied : response.status ∈ [401, 403, 404]
      · obtain ⟨visit, found⟩ := visit_of_drafts asks (answer_of_denied inTime outcome denied)
        rw [visit, found]
        exact .denied asks inTime outcome denied
      by_cases limited : response.status = 429
      · obtain ⟨visit, found⟩ := visit_of_drafts asks (answer_of_limited inTime outcome limited)
        rw [visit, found]
        exact .limited asks inTime outcome limited
      have other : response.status ∉ [401, 403, 404, 429] := by
        simp only [List.mem_cons, List.not_mem_nil, or_false] at denied ⊢
        omega
      exact Fails.answers (.unexpected asks inTime outcome successful other)

theorem Plan.Answers.fails {visit : Visit} {drafts : List Draft} {failure : BranchFailure}
    (answers : plan.Answers errand visit drafts) (failed : visit.failure = some failure) :
    plan.Fails errand failure := by
  cases answers with
  | failed fails => exact Option.some.inj failed ▸ fails
  | extracted | denied | limited => cases failed

/-- A branch is down as failed for these reasons and no others. -/
theorem failure_visit_iff {failure : BranchFailure} :
    (plan.manner.visit errand).failure = some failure ↔ plan.Fails errand failure := by
  constructor
  · exact (plan.answers errand).fails
  · intro fails
    obtain ⟨settled, _, visit, _⟩ := fails.visit
    rw [visit]
    rfl

theorem Plan.Answers.whole {visit : Visit} {drafts : List Draft} (answers : plan.Answers errand visit drafts) :
    visit = errand.over errand.request.toOption visit.settled visit.failure := by
  cases answers with
  | failed => rfl
  | extracted asks | denied asks | limited asks => rw [asks]; rfl

/-- A branch sends its request, or has none to send. -/
theorem request_visit (plan : Plan) (errand : Errand) :
    (plan.manner.visit errand).request = errand.request.toOption :=
  congrArg Visit.request (plan.answers errand).whole

theorem error?_visit (plan : Plan) (errand : Errand) :
    (plan.manner.visit errand).error? = (plan.manner.visit errand).failure.map errand.error :=
  congrArg Visit.error? (plan.answers errand).whole

end CredentialReach.Walk
