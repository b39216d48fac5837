import CredentialReach.Proofs.WalkOrder
import CredentialReach.Walk.Course

/-! What the steps of a walk come to. As long as every branch hangs on a resource of the
graph, no draft is lost and no new resource is passed over: a draft is known by its name, or
it is placed behind all others. The branches then go on hanging on resources of the graph. -/

namespace CredentialReach.Walk

variable {manner : Manner} {course next final : Course} {collections : List Collection}

/-- The resource that the branch belongs to is the one that the graph has under its id. -/
def Errand.Placed (graph : ResourceGraph) (errand : Errand) : Prop :=
  ∀ id resource, errand.parent = some (id, resource) → graph.resource? id = some resource

def Duty.errand : Duty → Errand
  | ask errand => errand
  | deliver errand _ _ => errand

def Duty.inserted : Duty → List Nat
  | ask _ => []
  | deliver _ _ inserted => inserted

structure Course.Rooted (course : Course) : Prop where
  placed : ∀ duty ∈ course.duties, duty.errand.Placed course.graph
  inserted : ∀ duty ∈ course.duties, ∀ id ∈ duty.inserted,
    ∃ resource, course.graph.resource? id = some resource
  tried : ∀ errand ∈ course.tried, errand.Placed course.graph

section Grown

variable {graph grown : ResourceGraph} {added : Resource} {errand : Errand}

theorem Errand.Placed.grow (placed : errand.Placed graph)
    (resources : grown.resources = graph.resources ++ [added]) : errand.Placed grown :=
  fun id resource parent => ResourceGraph.resource?_grown resources (placed id resource parent)

/-- A draft of such a branch is handed over for certain. -/
theorem Errand.Placed.add? (placed : errand.Placed graph) (draft : Draft) :
    graph.add? errand.owner draft = some (graph.insert errand.owner draft) := by
  unfold ResourceGraph.add? Errand.owner
  cases parent : errand.parent with
  | none => rfl
  | some pair =>
    have inside := ResourceGraph.lt_size_of_resource? (placed pair.1 pair.2 parent)
    exact if_pos inside

theorem Errand.Placed.owner_resource (placed : errand.Placed graph) :
    errand.owner.bind graph.resource? = errand.resource := by
  unfold Errand.owner Errand.resource
  cases parent : errand.parent with
  | none => rfl
  | some pair => exact placed pair.1 pair.2 parent

end Grown

theorem belowId_of_resource? {graph : ResourceGraph} {id : Nat} {resource : Resource}
    (there : graph.resource? id = some resource) (errand : Errand) :
    manner.belowId graph errand id = manner.below errand id resource := by
  unfold Manner.belowId
  rw [there]

section Deliver

variable {errand : Errand} {left : List Draft} {inserted : List Nat} {others : Multiset Duty}

theorem Course.Rooted.placed_deliver (rooted : course.Rooted)
    (chosen : course.duties = .deliver errand left inserted ::ₘ others) : errand.Placed course.graph :=
  rooted.placed (.deliver errand left inserted) (chosen ▸ Multiset.mem_cons_self _ _)

/-- No draft is lost. -/
theorem Course.Rooted.adds {draft : Draft} (rooted : course.Rooted)
    (chosen : course.duties = .deliver errand (draft :: left) inserted ::ₘ others) :
    course.graph.add? errand.owner draft = some (course.graph.insert errand.owner draft) :=
  (rooted.placed_deliver chosen).add? draft

end Deliver

/-- What a step of a rooted course can be. -/
inductive Advance (manner : Manner) (course : Course) : Course → Prop
  | ask {errand : Errand} {others : Multiset Duty}
      (chosen : course.duties = .ask errand ::ₘ others) :
      Advance manner course
        { course with
          duties := .deliver errand (manner.drafts errand) [] ::ₘ others
          tried := course.tried ++ [errand] }
  | know {errand : Errand} {draft : Draft} {left : List Draft} {inserted : List Nat}
      {others : Multiset Duty} {id : Nat} {resource : Resource}
      (chosen : course.duties = .deliver errand (draft :: left) inserted ::ₘ others)
      (there : course.graph.resource? id = some resource)
      (same : resource.fullName = draft.fullName) :
      Advance manner course
        { course with
          duties := .deliver errand left inserted ::ₘ others
          deliveries := course.deliveries ++ [⟨errand, draft, id, false⟩] }
  | create {errand : Errand} {draft : Draft} {left : List Draft} {inserted : List Nat}
      {others : Multiset Duty} {grown : ResourceGraph}
      (chosen : course.duties = .deliver errand (draft :: left) inserted ::ₘ others)
      (adds : course.graph.add? errand.owner draft = some ⟨grown, course.graph.size, true⟩)
      (fresh : ∀ resource ∈ course.graph.resources, resource.fullName ≠ draft.fullName)
      (resources : grown.resources = course.graph.resources ++ [.place draft errand.resource]) :
      Advance manner course
        { course with
          graph := grown
          duties := .deliver errand left (inserted ++ [course.graph.size]) ::ₘ others
          deliveries := course.deliveries ++ [⟨errand, draft, course.graph.size, true⟩] }
  | spread {errand : Errand} {inserted : List Nat} {others : Multiset Duty}
      (chosen : course.duties = .deliver errand [] inserted ::ₘ others) :
      Advance manner course
        { course with
          duties := ↑((inserted.flatMap (manner.belowId course.graph errand)).map Duty.ask) +
            others }

theorem Course.Rooted.advance (rooted : course.Rooted) (step : manner.Step course next) :
    Advance manner course next := by
  cases step with
  | ask chosen => exact .ask chosen
  | @deliver errand draft left inserted others added chosen adds =>
    have inserts := rooted.adds chosen
    rcases course.graph.insert_cases errand.owner draft with
      ⟨id, resource, whole, there, same⟩ | ⟨fresh, grown, whole, resources⟩
    · rw [inserts, whole] at adds
      obtain rfl := Option.some.inj adds
      simpa using Advance.know chosen there same
    · rw [inserts, whole] at adds
      obtain rfl := Option.some.inj adds
      rw [(rooted.placed_deliver chosen).owner_resource] at resources
      exact .create chosen (by rw [inserts, whole]) fresh resources
  | lose chosen unowned => cases (rooted.adds chosen).symm.trans unowned
  | spread chosen => exact .spread chosen

theorem parent_of_mem_errands {parent : Option (Nat × Resource)} {start : Nat} {errand : Errand}
    (member : errand ∈ manner.errands parent start collections) : errand.parent = parent := by
  obtain ⟨collection, _, rfl⟩ := List.mem_map.mp member
  rfl

theorem listed_of_mem_errands {parent : Option (Nat × Resource)} {start : Nat} {errand : Errand}
    (member : errand ∈ manner.errands parent start collections) :
    errand.collection ∈ collections ∧
      manner.permissions.meets errand.collection.source.required = true := by
  obtain ⟨collection, permitted, rfl⟩ := List.mem_map.mp member
  exact List.mem_filter.mp permitted

private theorem placed_of_mem_belowId {graph : ResourceGraph} {errand below : Errand} {id : Nat}
    (member : below ∈ manner.belowId graph errand id) : below.Placed graph := by
  unfold Manner.belowId at member
  cases there : graph.resource? id with
  | none =>
    rw [there] at member
    cases member
  | some resource =>
    rw [there] at member
    intro other owner parent
    rw [parent_of_mem_errands member] at parent
    cases parent
    exact there

theorem Course.Rooted.step (rooted : course.Rooted) (step : manner.Step course next) :
    next.Rooted := by
  cases rooted.advance step with
  | ask chosen =>
    have duties := rooted.placed
    have inserted := rooted.inserted
    rw [chosen, Multiset.forall_mem_cons] at duties inserted
    refine ⟨Multiset.forall_mem_cons.mpr duties,
      Multiset.forall_mem_cons.mpr ⟨fun _ none => (List.not_mem_nil none).elim, inserted.2⟩, ?_⟩
    intro errand member
    rcases List.mem_append.mp member with earlier | last
    · exact rooted.tried errand earlier
    · exact List.mem_singleton.mp last ▸ duties.1
  | know chosen there same =>
    have duties := rooted.placed
    have inserted := rooted.inserted
    rw [chosen, Multiset.forall_mem_cons] at duties inserted
    exact ⟨Multiset.forall_mem_cons.mpr duties, Multiset.forall_mem_cons.mpr inserted, rooted.tried⟩
  | create chosen adds fresh resources =>
    have duties := rooted.placed
    have inserted := rooted.inserted
    rw [chosen, Multiset.forall_mem_cons] at duties inserted
    -- What the graph had under an id it still has.
    have kept : ∀ id, (∃ resource, course.graph.resource? id = some resource) →
        ∃ resource, ResourceGraph.resource? _ id = some resource :=
      fun id ⟨resource, there⟩ => ⟨resource, ResourceGraph.resource?_grown resources there⟩
    refine ⟨Multiset.forall_mem_cons.mpr ⟨duties.1.grow resources, fun duty member =>
        (duties.2 duty member).grow resources⟩,
      Multiset.forall_mem_cons.mpr ⟨fun id member => ?_, fun duty member id holds =>
        kept id (inserted.2 duty member id holds)⟩,
      fun errand member => (rooted.tried errand member).grow resources⟩
    rcases List.mem_append.mp member with earlier | last
    · exact kept id (inserted.1 id earlier)
    · exact ⟨_, List.mem_singleton.mp last ▸ ResourceGraph.resource?_added resources⟩
  | spread chosen =>
    have duties := rooted.placed
    have inserted := rooted.inserted
    rw [chosen, Multiset.forall_mem_cons] at duties inserted
    refine ⟨fun duty member => ?_, fun duty member => ?_, rooted.tried⟩
    · rcases Multiset.mem_add.mp member with new | other
      · obtain ⟨errand, listed, rfl⟩ := List.mem_map.mp (Multiset.mem_coe.mp new)
        obtain ⟨id, _, below⟩ := List.mem_flatMap.mp listed
        exact placed_of_mem_belowId below
      · exact duties.2 duty other
    · rcases Multiset.mem_add.mp member with new | other
      · obtain ⟨errand, listed, rfl⟩ := List.mem_map.mp (Multiset.mem_coe.mp new)
        exact fun _ none => (List.not_mem_nil none).elim
      · exact inserted.2 duty other

theorem rooted_start (manner : Manner) (collections : List Collection) :
    (manner.start collections).Rooted := by
  refine ⟨fun duty member => ?_, fun duty member => ?_, fun _ none => (List.not_mem_nil none).elim⟩
  · obtain ⟨errand, listed, rfl⟩ := List.mem_map.mp (Multiset.mem_coe.mp member)
    intro id resource parent
    rw [Duty.errand, parent_of_mem_errands listed] at parent
    cases parent
  · obtain ⟨errand, listed, rfl⟩ := List.mem_map.mp (Multiset.mem_coe.mp member)
    exact fun _ none => (List.not_mem_nil none).elim

theorem Course.Rooted.steps (rooted : course.Rooted) (steps : manner.Steps course final) :
    final.Rooted := by
  induction steps with
  | refl => exact rooted
  | tail _ step ih => exact ih.step step

theorem Manner.Steps.rooted (steps : manner.Steps (manner.start collections) final) : final.Rooted :=
  (rooted_start manner collections).steps steps

/-- What holds of a start, and is kept by every step of a rooted course, holds throughout. -/
theorem Manner.Steps.keeps {invariant : Course → Prop}
    (step : ∀ course next, course.Rooted → Advance manner course next → invariant course → invariant next)
    (first : invariant (manner.start collections))
    (steps : manner.Steps (manner.start collections) final) : invariant final := by
  induction steps with
  | refl => exact first
  | tail before last ih =>
    have rooted := Manner.Steps.rooted before
    exact step _ _ rooted (rooted.advance last) ih

/-! What holds of the errands at the top, and below every errand of which it holds, holds of all
that are tried. -/

structure Course.Only (good : Errand → Prop) (course : Course) : Prop where
  duties : ∀ duty ∈ course.duties, good duty.errand
  tried : ∀ errand ∈ course.tried, good errand

private theorem below_of_mem_belowId {graph : ResourceGraph} {errand below : Errand} {id : Nat}
    (member : below ∈ manner.belowId graph errand id) :
    ∃ resource, below ∈ manner.below errand id resource := by
  unfold Manner.belowId at member
  split at member
  · exact ⟨_, member⟩
  · cases member

theorem Course.Only.advance {good : Errand → Prop}
    (opens : ∀ errand id resource, good errand → ∀ below ∈ manner.below errand id resource, good below)
    (advance : Advance manner course next) (only : course.Only good) : next.Only good := by
  have duties := only.duties
  cases advance with
  | ask chosen =>
    rw [chosen, Multiset.forall_mem_cons] at duties
    refine ⟨Multiset.forall_mem_cons.mpr duties, fun errand member => ?_⟩
    rcases List.mem_append.mp member with earlier | last
    · exact only.tried errand earlier
    · exact List.mem_singleton.mp last ▸ duties.1
  | know chosen | create chosen =>
    rw [chosen, Multiset.forall_mem_cons] at duties
    exact ⟨Multiset.forall_mem_cons.mpr duties, only.tried⟩
  | spread chosen =>
    rw [chosen, Multiset.forall_mem_cons] at duties
    refine ⟨fun duty member => ?_, only.tried⟩
    rcases Multiset.mem_add.mp member with new | other
    · obtain ⟨below, listed, rfl⟩ := List.mem_map.mp (Multiset.mem_coe.mp new)
      obtain ⟨id, _, opened⟩ := List.mem_flatMap.mp listed
      obtain ⟨resource, member⟩ := below_of_mem_belowId opened
      exact opens _ id resource duties.1 below member
    · exact duties.2 duty other

theorem Manner.Steps.only {good : Errand → Prop}
    (top : ∀ errand ∈ manner.errands none 0 collections, good errand)
    (opens : ∀ errand id resource, good errand → ∀ below ∈ manner.below errand id resource, good below)
    (steps : manner.Steps (manner.start collections) final) : ∀ errand ∈ final.tried, good errand := by
  have first : (manner.start collections).Only good := by
    refine ⟨fun duty member => ?_, fun _ none => (List.not_mem_nil none).elim⟩
    obtain ⟨errand, listed, rfl⟩ := List.mem_map.mp (Multiset.mem_coe.mp member)
    exact top errand listed
  have whole : final.Only good :=
    steps.keeps (fun _ _ _ step only => only.advance opens step) first
  exact whole.tried

end CredentialReach.Walk
