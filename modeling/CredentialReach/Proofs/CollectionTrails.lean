import CredentialReach.Proofs.CourseHistory
import CredentialReach.Proofs.Expansion
import CredentialReach.Proofs.GraphGrowth
import CredentialReach.Proofs.WalkEnd

/-! Where resources stand in the tree of collections. A branch asks for a collection right below the
one that brought its own resource, so that going up from a resource leads up the tree as well, one
collection for each ancestor. However names are repeated, no resource lies deeper than the tree. -/

namespace CredentialReach

/-- The way up from a collection of a tree, itself included. -/
inductive Collection.Trail (tops : List Collection) : List Collection → Prop
  | top {collection : Collection} (listed : collection ∈ tops) : Trail tops [collection]
  | down {child owner : Collection} {above : List Collection} (trail : Trail tops (owner :: above))
      (listed : child ∈ owner.children) : Trail tops (child :: owner :: above)

namespace Collection

variable {tops above : List Collection} {collection : Collection}

/-- What lies above a collection and what lies below it find room in the tree. -/
theorem Trail.length_add_height_le (trail : Trail tops (collection :: above)) :
    above.length + collection.height ≤ depth tops := by
  generalize whole : collection :: above = path at trail
  induction trail generalizing collection above with
  | top listed =>
    cases whole
    rw [List.length_nil, Nat.zero_add]
    exact height_le_depth listed
  | down _ listed ih =>
    cases whole
    have lower := height_lt_of_mem listed
    have room := ih rfl
    rw [List.length_cons]
    omega

private theorem Trail.length_lt_depth (trail : Trail tops (collection :: above)) : above.length < depth tops := by
  have room := trail.length_add_height_le
  rw [height_eq] at room
  omega

end Collection

namespace Walk

variable {manner : Manner} {course : Course} {collections : List Collection}

/-- One branch brought the resource, and it asked for this collection. -/
def Course.BroughtBy (course : Course) (id : Nat) (collection : Collection) : Prop :=
  (course.created.filter fun creator => creator.id = id).map (·.errand.collection) = [collection]

private theorem Course.Recorded.broughtBy (recorded : course.Recorded) {creator : Delivery}
    (member : creator ∈ course.created) : course.BroughtBy creator.id creator.errand.collection := by
  have apart : (course.created.map (·.id)).Nodup := recorded.ids ▸ List.nodup_range
  unfold BroughtBy
  rw [filter_of_apart apart member, List.map_singleton]

/-- The resource was brought by this collection, its owner by the one above that, and so on to the
top of both. -/
structure Course.Stands (collections : List Collection) (course : Course) (id : Nat)
    (collection : Collection) (above : List Collection) : Prop where
  trail : Collection.Trail collections (collection :: above)
  brought : course.BroughtBy id collection
  ancestors : List.Forall₂ course.BroughtBy (course.graph.ancestors id) above

theorem Manner.Steps.stands (steps : manner.Steps (manner.start collections) course) {creator : Delivery}
    (member : creator ∈ course.created) :
    ∃ above, course.Stands collections creator.id creator.errand.collection above := by
  have recorded := steps.recorded
  have orderly : course.graph.Orderly := steps.kept.orderly
  -- What opened the branch brought a resource with a smaller id.
  induction place : creator.id using Nat.strong_induction_on generalizing creator with
  | h id ih =>
    subst place
    have brought := recorded.broughtBy member
    have owned := steps.parentOf?_created member
    rcases steps.accounts.opener_of_created recorded member with top | ⟨opener, created, opened, older⟩
    · have listed := (listed_of_mem_errands top).1
      have unowned : creator.errand.owner = none := congrArg (Option.map Prod.fst) (parent_of_mem_errands top)
      refine ⟨[], .top listed, brought, ?_⟩
      rw [orderly.ancestors_eq, owned, unowned]
      exact .nil
    · obtain ⟨above, stands⟩ := ih opener.id older created rfl
      have listed := (listed_of_mem_errands opened).1
      have owner : creator.errand.owner = some opener.id :=
        congrArg (Option.map Prod.fst) (parent_of_mem_errands opened)
      refine ⟨opener.errand.collection :: above, .down stands.trail listed, brought, ?_⟩
      rw [orderly.ancestors_eq, owned, owner]
      exact .cons stands.brought stands.ancestors

namespace Course.Stands

variable {id : Nat} {collection : Collection} {above : List Collection}

private theorem depth_eq (stands : course.Stands collections id collection above) :
    course.graph.depth id = above.length :=
  stands.ancestors.length_eq

theorem owned (stands : course.Stands collections id collection above) (orderly : course.graph.Orderly)
    {parent : Nat} (contained : course.graph.parentOf? id = some parent) :
    ∃ owner higher, above = owner :: higher ∧ collection ∈ owner.children ∧
      course.Stands collections parent owner higher := by
  obtain ⟨trail, _, ancestors⟩ := stands
  rw [orderly.ancestors_eq, contained] at ancestors
  cases ancestors with
  | cons brought ancestors =>
    cases trail with
    | down trail listed => exact ⟨_, _, rfl, listed, trail, brought, ancestors⟩

end Course.Stands

/-- At any moment of a walk, whatever was named in the replies, a resource was brought by a
collection of some level, it has as many ancestors as there are levels above, and its owner was
brought by the collection that this one is a child of. So resources lie less deep than the tree,
and the walk comes to an end. -/
theorem Plan.resources_stand_in_levels (plan : Plan) (collections : List Collection) :
    (∀ course, plan.manner.Steps (plan.manner.start collections) course →
        (∀ id ∈ course.graph.ids, ∃ collection above,
          course.Stands collections id collection above ∧
          course.graph.depth id = above.length ∧
          ∀ parent, course.graph.parentOf? id = some parent → ∃ owner higher,
            above = owner :: higher ∧ collection ∈ owner.children ∧
            course.Stands collections parent owner higher) ∧
        (∀ id resource, course.graph.resource? id = some resource →
          resource.depth < Collection.depth collections) ∧
        ∃ final, plan.manner.Steps course final ∧ plan.manner.Ends collections final) ∧
      (WellFounded fun next course => plan.manner.Step course next) ∧
      ∀ order, ∃ course, plan.manner.Ends collections course ∧
        course.outcome plan.manner = plan.walkInOrder order collections := by
  refine ⟨?_, plan.manner.wellFounded_step, fun order => plan.exists_course order collections⟩
  intro course steps
  have orderly : course.graph.Orderly := steps.kept.orderly
  have levels : ∀ id resource, course.graph.resource? id = some resource →
      ∃ collection above, course.Stands collections id collection above := by
    intro id resource there
    obtain ⟨creator, created, rfl, _⟩ := steps.recorded.exists_creator there
    exact ⟨creator.errand.collection, steps.stands created⟩
  refine ⟨?_, ?_, ?_⟩
  · intro id listed
    obtain ⟨resource, there⟩ := ResourceGraph.exists_resource_of_lt (List.mem_range.mp listed)
    obtain ⟨collection, above, stands⟩ := levels id resource there
    exact ⟨collection, above, stands, stands.depth_eq, fun _ contained => stands.owned orderly contained⟩
  · intro id resource there
    obtain ⟨collection, above, stands⟩ := levels id resource there
    rw [orderly.faithful.depths id resource there, stands.depth_eq]
    exact stands.trail.length_lt_depth
  · obtain ⟨final, further, done⟩ := plan.manner.exists_end course
    exact ⟨final, further, steps.trans further, done⟩

def fixed (label : String) (names : List String) (children : List Collection) : Collection :=
  .of { label, request := fun _ => .ok (.get label),
        extract := fun _ _ => .ok (names.map fun name => ⟨name, name, label, ∅⟩) } children

/-- Teams are found again among their own projects, and both among the environments. -/
def repeating : List Collection :=
  [fixed "teams" ["web"]
    [fixed "projects" ["web", "api"] [fixed "environments" ["api", "web", "prod"] []]]]

theorem resources_stand_in_levels_of_repeating :
    Collection.depth repeating = 3 ∧ ∃ course, answering.manner.Ends repeating course ∧
      course.names = ["web", "api", "prod"] ∧
      course.graph.ids.map course.graph.ancestors = [[], [0], [1, 0]] ∧
      ∀ id ∈ course.graph.ids, ∃ collection above, course.Stands repeating id collection above := by
  obtain ⟨levels, -, orders⟩ := answering.resources_stand_in_levels repeating
  obtain ⟨course, ends, outcome⟩ := orders State.earliest
  have graph : course.graph = (answering.walkInOrder State.earliest repeating).graph :=
    congrArg Outcome.graph outcome
  have walked : course.names = ["web", "api", "prod"] ∧
      course.graph.ids.map course.graph.ancestors = [[], [0], [1, 0]] := by
    rw [Course.names, graph]
    decide +kernel
  refine ⟨rfl, course, ends, walked.1, walked.2, ?_⟩
  intro id listed
  obtain ⟨collection, above, stands, _⟩ := (levels course ends.reached).1 id listed
  exact ⟨collection, above, stands⟩

end Walk

end CredentialReach
