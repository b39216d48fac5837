import CredentialReach.Proofs.CollectionTrails

/-! Collections that may not be asked for. They are passed by wherever they stand, so that a walk goes
as though they were not in the tree, nor anything below them. What they are, and what would be found
there, makes no difference. -/

namespace CredentialReach

namespace Collection

variable {held : PermissionSet} {collections : List Collection}

mutual

/-- What is left of a collection where all that is forbidden is cut off below it. -/
def pruned (held : PermissionSet) : Collection → Collection
  | of source children => of source (prunedAll held children)

def prunedAll (held : PermissionSet) : List Collection → List Collection
  | [] => []
  | collection :: rest =>
    if held.meets collection.source.required then collection.pruned held :: prunedAll held rest
    else prunedAll held rest

end

private theorem source_pruned (held : PermissionSet) (collection : Collection) :
    (collection.pruned held).source = collection.source := by
  obtain ⟨source, children⟩ := collection
  rw [pruned]
  rfl

private theorem children_pruned (held : PermissionSet) (collection : Collection) :
    (collection.pruned held).children = prunedAll held collection.children := by
  obtain ⟨source, children⟩ := collection
  rw [pruned]
  rfl

private theorem prunedAll_eq (held : PermissionSet) (collections : List Collection) :
    prunedAll held collections =
      (collections.filter fun collection => held.meets collection.source.required).map (pruned held) := by
  induction collections with
  | nil => rw [prunedAll, List.filter_nil, List.map_nil]
  | cons first rest ih =>
    rw [prunedAll, ih, List.filter_cons]
    split
    next => exact (List.map_cons ..).symm
    next => rfl

theorem mem_prunedAll {left : Collection} :
    left ∈ prunedAll held collections ↔ ∃ collection ∈ collections,
      held.meets collection.source.required ∧ collection.pruned held = left := by
  rw [prunedAll_eq, List.mem_map]
  simp only [List.mem_filter, and_assoc]

/-- A collection is left if it is allowed itself, and so is each one on the way up from it. -/
theorem trail_prunedAll_iff {path : List Collection} :
    Trail (prunedAll held collections) path ↔ ∃ whole, Trail collections whole ∧
      (∀ collection ∈ whole, held.meets collection.source.required) ∧ whole.map (pruned held) = path := by
  constructor
  · intro trail
    induction trail with
    | top listed =>
      obtain ⟨collection, inside, allowed, rfl⟩ := mem_prunedAll.mp listed
      exact ⟨[collection], .top inside, by simpa using allowed, rfl⟩
    | down _ listed ih =>
      obtain ⟨whole, trail, allowed, same⟩ := ih
      cases whole with
      | nil => cases same
      | cons owner above =>
        cases same
        rw [children_pruned] at listed
        obtain ⟨child, inside, allowedToo, rfl⟩ := mem_prunedAll.mp listed
        exact ⟨child :: owner :: above, .down trail inside,
          List.forall_mem_cons.mpr ⟨allowedToo, allowed⟩, rfl⟩
  · rintro ⟨whole, trail, allowed, rfl⟩
    induction trail with
    | top listed => exact .top (mem_prunedAll.mpr ⟨_, listed, allowed _ List.mem_cons_self, rfl⟩)
    | down _ listed ih =>
      obtain ⟨here, higher⟩ := List.forall_mem_cons.mp allowed
      refine .down (ih higher) ?_
      rw [children_pruned]
      exact mem_prunedAll.mpr ⟨_, listed, here, rfl⟩

end Collection

namespace Walk

variable {plan : Plan} {manner : Manner} {course : Course} {collections one other : List Collection}

mutual

private theorem Plan.branch_pruned (plan : Plan) (start : Nat) (parent : Option Resource) (collection : Collection) :
    plan.branch start parent (collection.pruned plan.permissions) = plan.branch start parent collection := by
  obtain ⟨source, children⟩ := collection
  have below : ∀ later owner, plan.branches later owner (Collection.prunedAll plan.permissions children) =
      plan.branches later owner children :=
    fun later owner => plan.branches_prunedAll later owner children
  rw [Collection.pruned, Plan.branch, Plan.branch]
  simp only [below]

theorem Plan.branches_prunedAll (plan : Plan) (start : Nat) (parent : Option Resource)
    (collections : List Collection) :
    plan.branches start parent (Collection.prunedAll plan.permissions collections) =
      plan.branches start parent collections := by
  cases collections with
  | nil => rw [Collection.prunedAll]
  | cons collection rest =>
    have others := plan.branches_prunedAll start parent rest
    rw [Collection.prunedAll]
    by_cases allowed : plan.permissions.meets collection.source.required
    · rw [if_pos allowed, Plan.branches, Plan.branches, Collection.source_pruned, if_pos allowed,
        if_pos allowed, plan.branch_pruned, others]
    · rw [if_neg allowed, others, Plan.branches, if_neg allowed]

end

private theorem Plan.start_prunedAll (plan : Plan) (collections : List Collection) :
    plan.start (Collection.prunedAll plan.permissions collections) = plan.start collections := by
  unfold Plan.start
  rw [plan.branches_prunedAll]

/-- Walks of one tree are to be had of the other as well. -/
structure Plan.WalksLike (plan : Plan) (one other : List Collection) : Prop where
  ordered : ∀ order, plan.walkInOrder order one = plan.walkInOrder order other
  /-- Whenever one is looked at, there are the same requests, resources and errors so far. -/
  reached : ∀ course, plan.manner.Steps (plan.manner.start one) course →
    ∃ twin, plan.manner.Steps (plan.manner.start other) twin ∧
      twin.outcome plan.manner = course.outcome plan.manner
  ended : ∀ course, plan.manner.Ends one course →
    ∃ twin, plan.manner.Ends other twin ∧ twin.outcome plan.manner = course.outcome plan.manner

private theorem exists_twin (same : plan.start one = plan.start other)
    (steps : plan.manner.Steps (plan.manner.start one) course) :
    ∃ twin, plan.manner.Steps (plan.manner.start other) twin ∧ twin.progress plan = course.progress plan := by
  have projected := (rooted_start plan.manner one).projects steps
  rw [progress_start, same] at projected
  exact (rooted_start plan.manner other).lifts projected (progress_start plan other)

theorem Plan.walksLike_of_start (same : plan.start one = plan.start other) : plan.WalksLike one other where
  ordered := by
    intro order
    unfold Plan.walkInOrder
    rw [same]
  reached := by
    intro course steps
    obtain ⟨twin, stepsToo, alike⟩ := exists_twin same steps
    exact ⟨twin, stepsToo, congrArg Progress.outcome alike⟩
  ended := by
    intro course ends
    obtain ⟨twin, stepsToo, alike⟩ := exists_twin same ends.reached
    have tasks : twin.duties.map (Duty.task plan twin.graph) = course.duties.map (Duty.task plan course.graph) :=
      congrArg Progress.tasks alike
    rw [ends.done, Multiset.map_zero] at tasks
    exact ⟨twin, ⟨stepsToo, Multiset.map_eq_zero.mp tasks⟩, congrArg Progress.outcome alike⟩

/-- What a branch asks for is allowed, and so is all that stands above it. -/
theorem Manner.Steps.allowed (steps : manner.Steps (manner.start collections) course) :
    ∀ errand ∈ course.tried, ∃ above, Collection.Trail collections (errand.collection :: above) ∧
      ∀ collection ∈ errand.collection :: above, manner.permissions.meets collection.source.required := by
  refine steps.only ?_ ?_
  · intro errand top
    obtain ⟨listed, allowed⟩ := listed_of_mem_errands top
    exact ⟨[], .top listed, List.forall_mem_singleton.mpr allowed⟩
  · intro errand id resource ⟨above, trail, allowed⟩ below opened
    obtain ⟨listed, allowedToo⟩ := listed_of_mem_errands opened
    exact ⟨errand.collection :: above, .down trail listed, List.forall_mem_cons.mpr ⟨allowedToo, allowed⟩⟩

/-- A tree is walked as it is walked without what is forbidden in it: with the same requests,
resources and errors, in every order. What is asked for is allowed with all that stands above it, and
trees that differ in what is forbidden only are walked alike. -/
theorem Plan.walk_ignores_forbidden (plan : Plan) (collections : List Collection) :
    let pruned := Collection.prunedAll plan.permissions collections
    (∀ path, Collection.Trail pruned path ↔ ∃ whole, Collection.Trail collections whole ∧
        (∀ collection ∈ whole, plan.permissions.meets collection.source.required) ∧
        whole.map (Collection.pruned plan.permissions) = path) ∧
      plan.WalksLike collections pruned ∧ plan.WalksLike pruned collections ∧
      (∀ course, plan.manner.Steps (plan.manner.start collections) course →
        (∀ errand ∈ course.tried, ∃ above, Collection.Trail collections (errand.collection :: above) ∧
          ∀ collection ∈ errand.collection :: above,
            plan.permissions.meets collection.source.required) ∧
        ∀ request ∈ (course.outcome plan.manner).sent,
          ∃ errand ∈ course.tried, errand.request = .ok request) ∧
      ∀ others, Collection.prunedAll plan.permissions others = pruned →
        plan.WalksLike collections others := by
  intro pruned
  have same : plan.start pruned = plan.start collections := plan.start_prunedAll collections
  refine ⟨fun path => Collection.trail_prunedAll_iff, walksLike_of_start same.symm, walksLike_of_start same,
    fun course steps => ⟨steps.allowed, fun request => exists_errand_of_sent⟩, ?_⟩
  intro others left
  apply walksLike_of_start
  rw [← same, ← plan.start_prunedAll others, left]

/-- Secrets may not be listed, nor can what is below them be reached. -/
def withSecrets : List Collection :=
  let environments := naming "environments" "/environments" []
  let secrets := naming "secrets" "/secrets" [naming "versions" "/versions" []]
  [naming "projects" "/projects"
    [.of { secrets.source with required := some "secrets:read" } secrets.children, environments]]

theorem walk_ignores_forbidden_secrets :
    let pruned := Collection.prunedAll answering.permissions withSecrets
    Collection.depth withSecrets = 3 ∧ Collection.depth pruned = 2 ∧
      ∃ course twin, answering.manner.Ends withSecrets course ∧ answering.manner.Ends pruned twin ∧
        twin.outcome answering.manner = course.outcome answering.manner ∧
        course.names = ["web", "prod"] ∧
        (course.outcome answering.manner).sent.map (·.path) = ["/projects", "/environments"] := by
  intro pruned
  obtain ⟨-, alike, -⟩ := answering.walk_ignores_forbidden withSecrets
  obtain ⟨course, ends, outcome⟩ := answering.exists_course State.earliest withSecrets
  obtain ⟨twin, endsToo, same⟩ := alike.ended course ends
  have walked : let whole := answering.walkInOrder State.earliest withSecrets
      whole.graph.resources.map (·.fullName) = ["web", "prod"] ∧
        whole.sent.map (·.path) = ["/projects", "/environments"] := by
    decide +kernel
  rw [← outcome] at walked
  exact ⟨rfl, rfl, course, twin, ends, endsToo, same, walked.1, walked.2⟩

end Walk

end CredentialReach
