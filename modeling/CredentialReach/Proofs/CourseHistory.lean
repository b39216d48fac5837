import CredentialReach.Proofs.CourseRecords
import CredentialReach.Proofs.GraphHistory

/-! The graph of a walk. It is made by the drafts that branches handed over, in that order, and by
nothing else, so that whatever holds of graphs that calls have made holds of it at any moment. -/

namespace CredentialReach.Walk

variable {manner : Manner} {course next final : Course} {collections : List Collection}

def Delivery.call (delivery : Delivery) : Call := ⟨delivery.errand.owner, delivery.draft⟩

def Delivery.answer (delivery : Delivery) : Answer := ⟨delivery.id, delivery.created⟩

namespace Course

def calls (course : Course) : List Call := course.deliveries.map Delivery.call

def history (course : Course) : History where
  graph := course.graph
  calls := course.deliveries.map fun delivery => (delivery.call, some delivery.answer)

/-- The graph of the course is what its calls have made, and they were answered so. -/
def Made (course : Course) : Prop := History.of course.calls = course.history

theorem Made.step (made : course.Made) (step : manner.Step course next) : next.Made := by
  cases step with
  | ask chosen | lose chosen unowned | spread chosen => exact made
  | @deliver errand draft left inserted others added chosen adds =>
    let last : Delivery := ⟨errand, draft, added.id, added.created⟩
    have inserts : course.history.insertion? last.call = some added := adds
    have before : History.of (course.deliveries.map Delivery.call) = course.history := made
    unfold Made calls
    rw [List.map_append, List.map_singleton, History.of_append, before]
    unfold History.next History.answer?
    rw [inserts, history, history, List.map_append]
    rfl

end Course

theorem Manner.Steps.made (steps : manner.Steps (manner.start collections) course) : course.Made := by
  induction steps with
  | refl => exact rfl
  | tail _ last ih => exact ih.step last

theorem Manner.Steps.kept (steps : manner.Steps (manner.start collections) course) :
    course.history.Kept := by
  have kept := History.kept_of course.calls
  rwa [steps.made] at kept

/-- Calls are only added. -/
theorem Manner.Steps.calls_prefix (steps : manner.Steps course final) : course.calls <+: final.calls := by
  induction steps with
  | refl => exact List.prefix_rfl
  | tail _ last ih =>
    apply ih.trans
    cases last with
    | ask | lose | spread => exact List.prefix_rfl
    | deliver =>
      unfold Course.calls
      rw [List.map_append]
      exact List.prefix_append ..

private theorem created_history (course : Course) :
    course.history.created = course.created.map fun delivery => (delivery.id, delivery.call) := by
  unfold Course.history Course.created History.created
  generalize course.deliveries = deliveries
  induction deliveries with
  | nil => rfl
  | cons delivery rest ih =>
    obtain ⟨errand, draft, id, _ | _⟩ := delivery
    · exact ih
    · exact congrArg (List.cons (id, (⟨errand.owner, draft⟩ : Call))) ih

/-- A resource lies where the branch belongs that created it. -/
theorem Manner.Steps.parentOf?_created (steps : manner.Steps (manner.start collections) course)
    {creator : Delivery} (member : creator ∈ course.created) :
    course.graph.parentOf? creator.id = creator.errand.owner := by
  have listed : (creator.id, creator.call) ∈ course.history.created := by
    rw [created_history]
    exact List.mem_map_of_mem member
  exact ((steps.kept.sound.placed _ _).mp listed).2

end CredentialReach.Walk
