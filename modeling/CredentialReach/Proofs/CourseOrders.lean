import CredentialReach.Proofs.CourseSteps

/-! Courses and orders. Leaving out where branches come from turns a course into a succession
of the steps in which branches are known before they are taken, and every such succession
comes from a course. So each order in which a walk settles its branches is the course of one. -/

namespace CredentialReach.Walk

variable {plan : Plan} {course next : Course} {collections : List Collection}
  {errand : Errand} {graph grown : ResourceGraph} {others : Multiset Duty}

def Errand.opening (plan : Plan) (errand : Errand) : Open :=
  ⟨errand.owner, plan.branch errand.start errand.resource errand.collection⟩

def Errand.findings (plan : Plan) (errand : Errand) (left : List Draft) : List Finding :=
  plan.findings errand.children errand.resource (plan.manner.visit errand).settled left

def Duty.task (plan : Plan) (graph : ResourceGraph) : Duty → Task
  | ask errand => .waiting (errand.opening plan)
  | deliver errand left inserted =>
    .storing errand.owner (errand.findings plan left)
      ((inserted.flatMap (plan.manner.belowId graph errand)).map (Errand.opening plan))

def Course.progress (plan : Plan) (course : Course) : Progress where
  graph := course.graph
  tasks := course.duties.map (Duty.task plan course.graph)
  visits := course.tried.map plan.manner.visit
  extracted := course.tried.flatMap plan.manner.drafts

private theorem Errand.opening_eq (plan : Plan) (errand : Errand) :
    errand.opening plan =
      ⟨errand.owner, .of (plan.manner.visit errand) (errand.findings plan (plan.manner.drafts errand))⟩ := by
  obtain ⟨parent, ⟨source, children⟩, start⟩ := errand
  rw [opening, Plan.branch]
  rfl

private theorem map_draft_findings (plan : Plan) (errand : Errand) (left : List Draft) :
    (errand.findings plan left).map Finding.draft = left := by
  rw [Errand.findings, Plan.findings, List.map_map]
  exact List.map_id left

private theorem map_opening_errands (plan : Plan) (parent : Option (Nat × Resource)) (start : Nat)
    (collections : List Collection) :
    (plan.manner.errands parent start collections).map (Errand.opening plan) =
      (plan.branches start (parent.map Prod.snd) collections).map (⟨parent.map Prod.fst, ·⟩) := by
  induction collections with
  | nil => rw [Plan.branches]; rfl
  | cons collection rest ih =>
    rw [Plan.branches, Manner.errands, Manner.permitted, List.filter_cons]
    split
    next held =>
      rw [if_pos (show plan.permissions.meets collection.source.required = true from held),
        List.map_cons, List.map_cons, List.map_cons]
      exact congrArg _ ih
    next unheld =>
      rw [if_neg (show ¬plan.permissions.meets collection.source.required = true from unheld)]
      exact ih

/-- A finding that brings a new resource opens what the errands below it are. -/
theorem map_opening_below (plan : Plan) (errand : Errand) (id : Nat) (draft : Draft) :
    (plan.manner.below errand id (.place draft errand.resource)).map (Errand.opening plan) =
      (plan.branches (plan.manner.visit errand).settled (some (.place draft errand.resource))
        errand.children).map (⟨some id, ·⟩) :=
  map_opening_errands plan (some (id, .place draft errand.resource)) _ _

private theorem Duty.task_of_grown (plan : Plan) {added : Resource} {duty : Duty}
    (resources : grown.resources = graph.resources ++ [added])
    (inserted : ∀ id ∈ duty.inserted, ∃ resource, graph.resource? id = some resource) :
    duty.task plan grown = duty.task plan graph := by
  cases duty with
  | ask errand => rfl
  | deliver errand left ids =>
    refine congrArg _ (congrArg _ (List.flatMap_congr fun id member => ?_))
    obtain ⟨resource, there⟩ := inserted id member
    rw [belowId_of_resource? there, belowId_of_resource? (ResourceGraph.resource?_grown resources there)]

private theorem Course.progress_ask (plan : Plan) (chosen : course.duties = .ask errand ::ₘ others) :
    (course.progress plan).tasks = .waiting ⟨errand.owner, .of (plan.manner.visit errand)
        (errand.findings plan (plan.manner.drafts errand))⟩ ::ₘ others.map (Duty.task plan course.graph) ∧
      Course.progress plan
        { course with
          duties := .deliver errand (plan.manner.drafts errand) [] ::ₘ others
          tried := course.tried ++ [errand] } =
        { course.progress plan with
          tasks := .storing errand.owner (errand.findings plan (plan.manner.drafts errand)) [] ::ₘ
            others.map (Duty.task plan course.graph)
          visits := (course.progress plan).visits ++ [plan.manner.visit errand]
          extracted := (course.progress plan).extracted ++
            (errand.findings plan (plan.manner.drafts errand)).map Finding.draft } := by
  refine ⟨?_, ?_⟩
  · simp only [progress, chosen, Multiset.map_cons, Duty.task, Errand.opening_eq]
  · simp only [progress, Multiset.map_cons, Duty.task, List.map_append, List.map_cons, List.map_nil,
      List.flatMap_append, List.flatMap_singleton, List.flatMap_nil, map_draft_findings]

section Deliver

variable {draft : Draft} {left : List Draft} {inserted : List Nat}

private theorem Course.tasks_deliver
    (chosen : course.duties = .deliver errand (draft :: left) inserted ::ₘ others) :
    (course.progress plan).tasks = .storing errand.owner
        (.of draft (plan.branches (plan.manner.visit errand).settled
          (some (.place draft errand.resource)) errand.children) :: errand.findings plan left)
        ((inserted.flatMap (plan.manner.belowId course.graph errand)).map (Errand.opening plan)) ::ₘ
      others.map (Duty.task plan course.graph) := by
  simp only [progress, chosen, Multiset.map_cons, Duty.task, Errand.findings, Plan.findings, List.map_cons]

/-- Whether the draft is new or known, the branch goes on as a branch that is known beforehand. -/
theorem Course.progress_deliver (rooted : course.Rooted)
    (chosen : course.duties = .deliver errand (draft :: left) inserted ::ₘ others) {added : Insertion}
    (inserts : course.graph.insert errand.owner draft = added) (deliveries : List Delivery) :
    Course.progress plan
        { course with
          graph := added.graph
          duties := .deliver errand left (inserted ++ if added.created then [added.id] else []) ::ₘ others
          deliveries } =
      { course.progress plan with
        graph := added.graph
        tasks := .storing errand.owner (errand.findings plan left)
            ((inserted.flatMap (plan.manner.belowId course.graph errand)).map (Errand.opening plan) ++
              opens added (plan.branches (plan.manner.visit errand).settled
                (some (.place draft errand.resource)) errand.children)) ::ₘ
          others.map (Duty.task plan course.graph) } := by
  have known := rooted.inserted
  rw [chosen, Multiset.forall_mem_cons] at known
  rcases course.graph.insert_cases errand.owner draft with
    ⟨id, resource, same, _, _⟩ | ⟨_, grown, new, resources⟩
  · obtain rfl := same.symm.trans inserts
    simp [progress, opens, Duty.task]
  · obtain rfl := new.symm.trans inserts
    rw [(rooted.placed_deliver chosen).owner_resource] at resources
    have kept : others.map (Duty.task plan grown) = others.map (Duty.task plan course.graph) :=
      Multiset.map_congr rfl fun duty member => Duty.task_of_grown plan resources (known.2 duty member)
    have here := Duty.task_of_grown plan resources known.1
    simp only [Duty.task, Task.storing.injEq] at here
    have below : plan.manner.belowId grown errand course.graph.size =
        plan.manner.below errand course.graph.size (.place draft errand.resource) :=
      belowId_of_resource? (ResourceGraph.resource?_added resources) errand
    simp only [progress, opens, if_true, Multiset.map_cons, Duty.task, kept, List.flatMap_append,
      List.map_append, List.flatMap_singleton, below, map_opening_below, here.2.2]

end Deliver

private theorem Course.progress_spread (plan : Plan) {inserted : List Nat}
    (chosen : course.duties = .deliver errand [] inserted ::ₘ others) :
    (course.progress plan).tasks = .storing errand.owner []
        ((inserted.flatMap (plan.manner.belowId course.graph errand)).map (Errand.opening plan)) ::ₘ
        others.map (Duty.task plan course.graph) ∧
      Course.progress plan
        { course with
          duties := ↑((inserted.flatMap (plan.manner.belowId course.graph errand)).map Duty.ask) + others } =
        { course.progress plan with
          tasks := ↑(((inserted.flatMap (plan.manner.belowId course.graph errand)).map
              (Errand.opening plan)).map Task.waiting) + others.map (Duty.task plan course.graph) } := by
  refine ⟨?_, ?_⟩
  · simp only [progress, chosen, Multiset.map_cons, Duty.task, Errand.findings, Plan.findings, List.map_nil]
  · simp only [progress, Multiset.map_add, Multiset.map_coe, List.map_map]
    rfl

theorem exists_of_map_eq_cons {α β : Type} {value : α → β} {items : Multiset α} {first : β}
    {rest : Multiset β} (split : items.map value = first ::ₘ rest) :
    ∃ item others, items = item ::ₘ others ∧ value item = first ∧ others.map value = rest := by
  classical
  obtain ⟨item, member, same, remains⟩ := (Multiset.map_eq_cons value items rest first).mpr split
  exact ⟨item, items.erase item, (Multiset.cons_erase member).symm, same, remains⟩

/-- A step of a course is one in which branches are known beforehand. -/
theorem Course.Rooted.project (rooted : course.Rooted) (step : plan.manner.Step course next) :
    Step (course.progress plan) (next.progress plan) := by
  cases step with
  | ask chosen =>
    obtain ⟨waits, asked⟩ := progress_ask plan chosen
    rw [asked]
    exact .settle waits
  | @deliver errand draft left inserted others added chosen adds =>
    have inserts := Option.some.inj ((rooted.adds chosen).symm.trans adds)
    rw [progress_deliver rooted chosen inserts, ← inserts]
    exact .store (tasks_deliver chosen)
  | lose chosen unowned => cases (rooted.adds chosen).symm.trans unowned
  | spread chosen =>
    obtain ⟨holds, spreads⟩ := progress_spread plan chosen
    rw [spreads]
    exact .spread holds

/-- A step in which branches are known beforehand is one of a course. -/
theorem Course.Rooted.lift {after : Progress} (rooted : course.Rooted)
    (step : Step (course.progress plan) after) :
    ∃ next, plan.manner.Step course next ∧ next.progress plan = after := by
  cases step with
  | settle chosen =>
    obtain ⟨duty, others, duties, task, rfl⟩ := exists_of_map_eq_cons chosen
    cases duty with
    | deliver => cases task
    | ask errand =>
      rw [Duty.task, Errand.opening_eq] at task
      cases task
      exact ⟨_, .ask duties, (progress_ask plan duties).2⟩
  | @store owner draft below left opened rest chosen =>
    obtain ⟨duty, others, duties, task, rfl⟩ := exists_of_map_eq_cons chosen
    cases duty with
    | ask => cases task
    | deliver errand drafts inserted =>
      cases drafts with
      | nil => cases task
      | cons draft left =>
        cases task
        exact ⟨_, .deliver duties (rooted.adds duties), progress_deliver rooted duties rfl _⟩
  | spread chosen =>
    obtain ⟨duty, others, duties, task, rfl⟩ := exists_of_map_eq_cons chosen
    cases duty with
    | ask => cases task
    | deliver errand drafts inserted =>
      cases drafts with
      | cons => cases task
      | nil =>
        cases task
        exact ⟨_, .spread duties, (progress_spread plan duties).2⟩

theorem progress_start (plan : Plan) (collections : List Collection) :
    (plan.manner.start collections).progress plan = .ofState (plan.start collections) [] := by
  have openings := congrArg (List.map Task.waiting) (map_opening_errands plan none 0 collections)
  rw [List.map_map] at openings
  simp only [Course.progress, Manner.start, Progress.ofState, Plan.start, Multiset.map_coe,
    Progress.mk.injEq, true_and]
  refine ⟨congrArg _ ?_, rfl, rfl⟩
  rw [List.map_map]
  exact openings

theorem Course.Rooted.lifts {before after : Progress} (steps : Walk.Steps before after)
    (rooted : course.Rooted) (same : course.progress plan = before) :
    ∃ final, plan.manner.Steps course final ∧ final.progress plan = after := by
  induction steps with
  | refl => exact ⟨course, .refl, same⟩
  | tail _ step ih =>
    obtain ⟨middle, reached, rfl⟩ := ih
    obtain ⟨final, last, shown⟩ := (rooted.steps reached).lift step
    exact ⟨final, reached.tail last, shown⟩

theorem Course.Rooted.projects {final : Course} (rooted : course.Rooted)
    (steps : plan.manner.Steps course final) : Walk.Steps (course.progress plan) (final.progress plan) := by
  induction steps with
  | refl => exact .refl
  | tail before last ih => exact ih.tail ((rooted.steps before).project last)

/-- The ends of the courses are the ends of the walk. -/
theorem Plan.ends_iff {final : Progress} :
    plan.Ends collections final ↔
      ∃ course, plan.manner.Ends collections course ∧ course.progress plan = final := by
  constructor
  · intro ends
    obtain ⟨course, reached, rfl⟩ :=
      (rooted_start plan.manner collections).lifts ends.reached (progress_start plan collections)
    exact ⟨course, ⟨reached, Multiset.map_eq_zero.mp ends.done⟩, rfl⟩
  · rintro ⟨course, ends, rfl⟩
    have steps := (rooted_start plan.manner collections).projects ends.reached
    rw [progress_start] at steps
    exact ⟨steps, Multiset.map_eq_zero.mpr ends.done⟩

/-- Every order in which whole branches are settled is the course of a walk. -/
theorem Plan.exists_course (plan : Plan) (order : State → Nat) (collections : List Collection) :
    ∃ course, plan.manner.Ends collections course ∧
      course.outcome plan.manner = plan.walkInOrder order collections := by
  obtain ⟨final, ends, same⟩ := plan.exists_ends order collections
  obtain ⟨course, whole, rfl⟩ := Plan.ends_iff.mp ends
  exact ⟨course, whole, same⟩

end CredentialReach.Walk
