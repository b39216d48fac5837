import CredentialReach.Proofs.CourseOrders
import CredentialReach.Proofs.VisitAnswers
import CredentialReach.Proofs.WalkEnd
import CredentialReach.Walk.Clock

/-! No walk outlives its deadline. A branch that begins in time is over in time, whatever it
meets, and the branches below it begin when it is over. The instants that are reckoned with on
the way are at most two of the longest waits away from the first one, so the clock can tell them. -/

namespace CredentialReach.Walk

variable {plan : Plan} {course : Course} {collections : List Collection} {errand : Errand}
  {clock : Clock} {now timeout backoff : Nat} {replies : Replies} {permissions : PermissionSet}

private theorem Plan.Answers.settled_le {visit : Visit} {drafts : List Draft}
    (answers : plan.Answers errand visit drafts) (begun : errand.start ≤ plan.deadline) :
    visit.settled ≤ plan.deadline := by
  cases answers with
  | failed fails inTime => exact inTime begun
  | extracted asks inTime | denied asks inTime => exact inTime
  | limited => exact Nat.min_le_right ..

private theorem start_of_mem_errands {manner : Manner} {parent : Option (Nat × Resource)} {start : Nat}
    (member : errand ∈ manner.errands parent start collections) : errand.start = start := by
  obtain ⟨collection, _, rfl⟩ := List.mem_map.mp member
  rfl

/-- Every branch begins in time: at once, or when another one was over. -/
theorem Manner.Steps.start_le (steps : plan.manner.Steps (plan.manner.start collections) course) :
    ∀ errand ∈ course.tried, errand.start ≤ plan.deadline := by
  refine steps.only (fun errand top => ?_)
    fun errand id resource begun below member => ?_
  · exact (start_of_mem_errands top).trans_le (Nat.zero_le _)
  · exact (start_of_mem_errands member).trans_le ((plan.answers errand).settled_le begun)

private theorem Manner.Steps.elapsed_le (steps : plan.manner.Steps (plan.manner.start collections) course) :
    (course.outcome plan.manner).elapsed ≤ plan.deadline := by
  refine List.foldlRecOn (motive := (· ≤ plan.deadline)) _ max (Nat.zero_le _) fun _ before _ member =>
    max_le before ?_
  obtain ⟨visit, listed, rfl⟩ := List.mem_map.mp member
  obtain ⟨errand, tried, rfl⟩ := List.mem_map.mp listed
  exact (plan.answers errand).settled_le (steps.start_le errand tried)

private theorem deadlineAfter?_of_room {wait : Nat} (room : now + clock.longest ≤ clock.last) :
    clock.deadlineAfter? now wait = some (now + min wait clock.longest) := by
  have cut := Nat.min_le_right wait clock.longest
  exact if_pos (by omega)

private theorem onClock?_of_room (room : now + clock.longest ≤ clock.last) :
    Plan.onClock? clock now replies permissions timeout backoff =
      some ⟨replies, permissions, min timeout clock.longest, min backoff clock.longest⟩ := by
  unfold Plan.onClock?
  rw [deadlineAfter?_of_room room, Option.map_some, Nat.add_sub_cancel_left]

/-- The reply to a branch was in time, and told it to slow down. -/
structure Plan.Limited (plan : Plan) (errand : Errand) (request : Request) : Prop where
  asks : errand.request = .ok request
  inTime : plan.arrival errand request ≤ plan.deadline
  told : ∃ response, (plan.reply errand request).outcome = .ok response ∧ response.status = 429

theorem Plan.Limited.settled {request : Request} (limited : plan.Limited errand request) :
    (plan.manner.visit errand).settled =
      min (plan.arrival errand request + plan.backoff) plan.deadline := by
  obtain ⟨response, outcome, status⟩ := limited.told
  rw [(visit_of_drafts limited.asks (answer_of_limited limited.inTime outcome status)).1]
  rfl

structure Plan.EndsWithin (plan : Plan) (collections : List Collection) (time : Nat) : Prop where
  /-- It cannot go on forever. -/
  finite : WellFounded fun next course => plan.manner.Step course next
  /-- It can go on until it is over. -/
  unblocked : ∀ course, course.duties ≠ 0 → ∃ next, plan.manner.Step course next
  inTime : ∀ course, plan.manner.Steps (plan.manner.start collections) course →
    (course.outcome plan.manner).elapsed ≤ time
  ordered : ∀ order, (plan.walkInOrder order collections).elapsed ≤ time

theorem Plan.endsWithin (plan : Plan) (collections : List Collection) :
    plan.EndsWithin collections plan.deadline where
  finite := plan.manner.wellFounded_step
  unblocked _ unfinished := plan.manner.exists_step unfinished
  inTime _ steps := steps.elapsed_le
  ordered order := by
    obtain ⟨course, ends, outcome⟩ := plan.exists_course order collections
    exact outcome ▸ ends.reached.elapsed_le

/-- With room on the clock for two of the longest waits, all deadlines of a walk can be told,
that of the walk itself and those of its branches that are told to slow down. And the walk is over
by the time that it was given, or after thirty years. -/
theorem Clock.walk_ends_within (clock : Clock) (room : now + 2 * clock.longest ≤ clock.last)
    (replies : Replies) (permissions : PermissionSet) (timeout backoff : Nat)
    (collections : List Collection) :
    ∃ plan, Plan.onClock? clock now replies permissions timeout backoff = some plan ∧
      plan.EndsWithin collections (min timeout clock.longest) ∧
      (∀ errand request, plan.Limited errand request →
        clock.wake? (now + plan.arrival errand request) backoff (now + plan.deadline) =
          some (now + (plan.manner.visit errand).settled)) ∧
      (clock.perSecond = 1000 → plan = .answeredBy replies permissions timeout backoff) := by
  refine ⟨_, onClock?_of_room (by omega), Plan.endsWithin _ collections, ?_, ?_⟩
  · intro errand request limited
    have arrival := limited.inTime
    have cut := Nat.min_le_right timeout clock.longest
    simp only at arrival
    rw [limited.settled, Clock.wake?, deadlineAfter?_of_room (by omega), Option.map_some, Nat.add_assoc,
      Nat.add_min_add_left]
  · intro milliseconds
    simp only [Plan.answeredBy, longestWait, Clock.longest, milliseconds]

/-- A clock of nanoseconds whose seconds are signed 64-bit numbers. -/
def Clock.nanoseconds : Clock := ⟨10 ^ 9, 2 ^ 63 * 10 ^ 9 - 1⟩

/-- The longest wait that can be asked for, in nanoseconds. -/
def longestDuration : Nat := 2 ^ 64 * 10 ^ 9 - 1

def slowingDown : Replies := fun _ _ _ _ => ⟨0, .ok ⟨429, ""⟩⟩

def listing : List Collection :=
  [.of { label := "teams", request := fun _ => .ok (.get "/teams"), extract := fun _ _ => .ok [] } []]

/-- A walk that is told once to slow down, and is given as much time as can be asked for, sleeps
for thirty years. -/
theorem walk_ends_within_slowingDown :
    1 + 2 * Clock.nanoseconds.longest ≤ Clock.nanoseconds.last ∧
      ∃ plan, Plan.onClock? .nanoseconds 1 slowingDown ∅ longestDuration longestDuration = some plan ∧
        plan.EndsWithin listing Clock.nanoseconds.longest ∧
        (plan.walkInOrder (fun _ => 0) listing).elapsed = Clock.nanoseconds.longest := by
  have room : 1 + 2 * Clock.nanoseconds.longest ≤ Clock.nanoseconds.last := by decide
  obtain ⟨plan, begins, ends, _⟩ :=
    Clock.walk_ends_within .nanoseconds room slowingDown ∅ longestDuration longestDuration listing
  refine ⟨room, plan, begins, ends, ?_⟩
  rw [onClock?_of_room (by decide)] at begins
  obtain rfl := Option.some.inj begins
  decide +kernel

end CredentialReach.Walk
