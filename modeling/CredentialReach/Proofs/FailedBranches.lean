import CredentialReach.Proofs.Expansion

/-! Branches that fail. Each is told of once, by its collection and the resource that it belongs
to, and else it is as though its collection had not been there: the walk takes the same course
and comes to the same resources. -/

namespace CredentialReach.Walk

variable {plan : Plan} {course next : Course} {collections : List Collection} {errand : Errand}

/-- A plan by which a branch that fails is treated as though it had been told that there is
nothing. -/
def Plan.leniently (plan : Plan) : Manner where
  permissions := plan.permissions
  ask source parent start :=
    let (visit, drafts) := plan.visit source parent start
    if visit.failure.isNone then (visit, drafts)
    else
      match plan.react source parent visit.settled ⟨404, ""⟩ with
      | (settled, .ok drafts) => ({ visit with settled, failure := none }, drafts)
      | (settled, .error failure) => ({ visit with settled, failure := some failure }, [])

structure Manner.Agrees (first second : Manner) : Prop where
  permissions : first.permissions = second.permissions
  settled : ∀ errand, (first.visit errand).settled = (second.visit errand).settled
  drafts : ∀ errand, first.drafts errand = second.drafts errand

namespace Manner.Agrees

variable {first second : Manner}

theorem symm (agrees : first.Agrees second) : second.Agrees first where
  permissions := agrees.permissions.symm
  settled errand := (agrees.settled errand).symm
  drafts errand := (agrees.drafts errand).symm

theorem errands (agrees : first.Agrees second) : first.errands = second.errands := by
  funext parent start collections
  unfold Manner.errands Manner.permitted
  rw [agrees.permissions]

theorem belowId (agrees : first.Agrees second) : first.belowId = second.belowId := by
  funext graph errand id
  unfold Manner.belowId Manner.below
  rw [agrees.errands, agrees.settled]

theorem start (agrees : first.Agrees second) (collections : List Collection) :
    first.start collections = second.start collections := by
  unfold Manner.start
  rw [agrees.errands]

theorem step (agrees : first.Agrees second) (step : first.Step course next) :
    second.Step course next := by
  cases step with
  | ask chosen => exact agrees.drafts _ ▸ .ask chosen
  | deliver chosen adds => exact .deliver chosen adds
  | lose chosen unowned => exact .lose chosen unowned
  | spread chosen => exact agrees.belowId ▸ .spread chosen

theorem ends (agrees : first.Agrees second) (ends : first.Ends collections course) :
    second.Ends collections course where
  reached := agrees.start collections ▸ ends.reached.lift id fun _ _ => agrees.step
  done := ends.done

end Manner.Agrees

theorem leniently_whole (plan : Plan) (errand : Errand) :
    plan.leniently.visit errand = { plan.manner.visit errand with failure := none } ∧
      plan.leniently.drafts errand = plan.manner.drafts errand := by
  cases failed : (plan.manner.visit errand).failure with
  | none =>
    have same : plan.leniently.ask errand.collection.source errand.resource errand.start =
        plan.visit errand.collection.source errand.resource errand.start :=
      if_pos (congrArg Option.isNone failed)
    have whole : plan.manner.visit errand = { plan.manner.visit errand with failure := none } :=
      failed ▸ rfl
    exact ⟨(congrArg Prod.fst same).trans whole, congrArg Prod.snd same⟩
  | some failure =>
    obtain ⟨_, _, _, nothing⟩ := (failure_visit_iff.mp failed).visit
    have told : (plan.manner.visit errand).failure.isNone = false := congrArg Option.isNone failed
    have other : plan.leniently.ask errand.collection.source errand.resource errand.start =
        ({ plan.manner.visit errand with failure := none }, []) :=
      if_neg (ne_true_of_eq_false told)
    exact ⟨congrArg Prod.fst other, (congrArg Prod.snd other).trans nothing.symm⟩

private theorem leniently_agrees (plan : Plan) : plan.leniently.Agrees plan.manner where
  permissions := rfl
  settled errand := by rw [(leniently_whole plan errand).1]
  drafts errand := (leniently_whole plan errand).2

/-- A branch is told of where it failed, and as what. -/
theorem error?_visit_iff {error : BranchError} :
    (plan.manner.visit errand).error? = some error ↔
      ∃ failure, plan.Fails errand failure ∧ errand.error failure = error := by
  rw [error?_visit, Option.map_eq_some_iff]
  exact exists_congr fun failure => and_congr_left' failure_visit_iff

theorem error_outcome_iff (manner : Manner) (course : Course) :
    (course.outcome manner).error = none ↔ ∀ errand ∈ course.tried, (manner.visit errand).error? = none := by
  have whole : (course.outcome manner).error =
      WalkError.join? (course.tried.filterMap fun errand => (manner.visit errand).error?) := by
    simp only [Course.outcome, Outcome.ofState, List.filterMap_map]
    rfl
  rw [whole, WalkError.join?, ← List.filterMap_eq_nil_iff]
  split
  next empty => exact ⟨fun _ => List.isEmpty_iff.mp empty, fun _ => rfl⟩
  next full => exact ⟨fun same => (Option.some_ne_none _ same).elim, fun none => absurd (List.isEmpty_iff.mpr none) full⟩

private theorem error?_visit_none_iff :
    (plan.manner.visit errand).error? = none ↔ ∀ failure, ¬plan.Fails errand failure := by
  rw [Option.eq_none_iff_forall_ne_some]
  constructor
  · exact fun silent failure fails => silent _ (error?_visit_iff.mpr ⟨failure, fails, rfl⟩)
  · intro unfailing error told
    obtain ⟨failure, fails, _⟩ := error?_visit_iff.mp told
    exact unfailing failure fails

structure Course.FailsPartly (plan : Plan) (collections : List Collection) (course : Course) :
    Prop where
  /-- A branch is told of where it failed, as what it failed, and else not. -/
  told : ∀ errand error, (plan.manner.visit errand).error? = some error ↔
    ∃ failure, plan.Fails errand failure ∧ errand.error failure = error
  /-- So is every branch that was tried, once. -/
  errors : (course.outcome plan.manner).branchErrors.Perm
    (course.tried.filterMap fun errand => (plan.manner.visit errand).error?)
  silent : (course.outcome plan.manner).error = none ↔
    ∀ errand ∈ course.tried, ∀ failure, ¬plan.Fails errand failure
  /-- Nothing in the graph is from a branch that failed. -/
  delivered : ∀ delivery ∈ course.deliveries, ∀ failure, ¬plan.Fails delivery.errand failure
  /-- The walk that is told that there is nothing, where this one fails, can take this course. -/
  lenient : plan.leniently.Ends collections course
  forgiven : (course.outcome plan.leniently).error = none
  resources : (course.outcome plan.leniently).graph = (course.outcome plan.manner).graph

/-- Whatever branches fail, and whichever takes the next step: the walk tells of every branch
that failed and of no other, and comes to the resources to which it comes if these branches find
nothing. Walks that settle whole branches are among those meant. -/
theorem Plan.fails_partly (ends : plan.manner.Ends collections course) :
    course.FailsPartly plan collections ∧
      ∀ order, ∃ other, plan.manner.Ends collections other ∧
        other.outcome plan.manner = plan.walkInOrder order collections := by
  refine ⟨⟨fun _ _ => error?_visit_iff, .of_eq (branchErrors_outcome _ course), ?_, ?_,
    (leniently_agrees plan).symm.ends ends, ?_, rfl⟩, fun order => plan.exists_course order collections⟩
  · rw [error_outcome_iff]
    exact forall₂_congr fun errand _ => error?_visit_none_iff
  · intro delivery member failure fails
    obtain ⟨_, _, _, nothing⟩ := fails.visit
    have found := ends.expanded.delivered.mem_iff.mp (List.mem_map_of_mem member)
    obtain ⟨errand, _, listed⟩ := List.mem_flatMap.mp found
    obtain ⟨draft, drafted, same⟩ := List.mem_map.mp listed
    obtain ⟨rfl, rfl⟩ := Prod.mk.inj same
    rw [nothing] at drafted
    cases drafted
  · refine (error_outcome_iff _ course).mpr fun errand _ => ?_
    rw [(leniently_whole plan errand).1]
    rfl

/-- Teams cannot be listed, projects can. -/
def faltering : Plan :=
  { answering with
    replies := fun source parent start request =>
      if request.path = "/teams" then ⟨0, .ok ⟨500, ""⟩⟩ else answering.replies source parent start request }

theorem fails_partly_faltering :
    ∃ course, faltering.manner.Ends rivals course ∧
      (course.outcome faltering.manner).branchErrors = [⟨"teams", none, .unexpectedStatus 500⟩] ∧
      course.names = ["web", "prod"] ∧
      course.FailsPartly faltering rivals := by
  obtain ⟨course, ends, outcome⟩ := faltering.exists_course (fun _ => 0) rivals
  have graph : course.graph = (faltering.walkInOrder (fun _ => 0) rivals).graph :=
    congrArg Outcome.graph outcome
  refine ⟨course, ends, ?_, ?_, (Plan.fails_partly ends).1⟩
  · rw [outcome]
    decide +kernel
  · rw [Course.names, graph]
    decide +kernel

end CredentialReach.Walk
