import CredentialReach.Proofs.CourseSteps

/-! What a walk has on record. Every draft that a branch found is handed to the graph once and
is there under its name, every resource was brought by one of these deliveries, and what is
asked for is what these deliveries open, each errand once. -/

namespace CredentialReach.Walk

variable {manner : Manner} {course next final : Course} {collections : List Collection}

/-- The deliveries that are called new are the resources of the graph, in their order. -/
structure Course.Recorded (course : Course) : Prop where
  resources : course.created.map Delivery.resource = course.graph.resources
  ids : course.created.map (·.id) = course.graph.ids
  stored : ∀ delivery ∈ course.deliveries, ∃ resource,
    course.graph.resource? delivery.id = some resource ∧
      resource.fullName = delivery.draft.fullName
  apart : course.names.Nodup
  /-- A resource is there before what is found below it. -/
  after : ∀ delivery ∈ course.created, ∀ id resource,
    delivery.errand.parent = some (id, resource) → id < delivery.id

theorem Delivery.fullName_resource (delivery : Delivery) :
    delivery.resource.fullName = delivery.draft.fullName := by
  unfold Delivery.resource
  cases delivery.errand.resource <;> rfl

private theorem filter_created_old {deliveries : List Delivery} {last : Delivery} (old : last.created = false) :
    (deliveries ++ [last]).filter (·.created) = deliveries.filter (·.created) := by
  rw [List.filter_append, List.filter_cons_of_neg (by simp [old]), List.filter_nil, List.append_nil]

private theorem filter_created_new {deliveries : List Delivery} {last : Delivery} (new : last.created = true) :
    (deliveries ++ [last]).filter (·.created) = deliveries.filter (·.created) ++ [last] := by
  rw [List.filter_append, List.filter_cons_of_pos new, List.filter_nil]

theorem Course.Recorded.advance (rooted : course.Rooted) (recorded : course.Recorded)
    (advance : Advance manner course next) : next.Recorded := by
  cases advance with
  | ask | spread => exact ⟨recorded.resources, recorded.ids, recorded.stored, recorded.apart, recorded.after⟩
  | @know errand draft left inserted others id resource chosen there same =>
    let last : Delivery := ⟨errand, draft, id, false⟩
    have created : (course.deliveries ++ [last]).filter (·.created) = course.created :=
      filter_created_old rfl
    refine ⟨?_, ?_, ?_, recorded.apart, ?_⟩
    · rw [Course.created, created]
      exact recorded.resources
    · rw [Course.created, created]
      exact recorded.ids
    · intro delivery member
      rcases List.mem_append.mp member with earlier | last
      · exact recorded.stored delivery earlier
      · obtain rfl := List.mem_singleton.mp last
        exact ⟨resource, there, same⟩
    · intro delivery member
      rw [Course.created, created] at member
      exact recorded.after delivery member
  | @create errand draft left inserted others grown chosen adds fresh resources =>
    let last : Delivery := ⟨errand, draft, course.graph.size, true⟩
    have created : (course.deliveries ++ [last]).filter (·.created) = course.created ++ [last] :=
      filter_created_new rfl
    refine ⟨?_, ?_, ?_, ?_, ?_⟩
    · rw [Course.created, created, List.map_append, recorded.resources, resources]
      rfl
    · rw [Course.created, created, List.map_append, recorded.ids, ResourceGraph.ids, ResourceGraph.ids,
        size_of_append resources, List.range_succ]
      rfl
    · intro delivery member
      rcases List.mem_append.mp member with earlier | new
      · obtain ⟨resource, there, same⟩ := recorded.stored delivery earlier
        exact ⟨resource, ResourceGraph.resource?_grown resources there, same⟩
      · obtain rfl := List.mem_singleton.mp new
        exact ⟨_, ResourceGraph.resource?_added resources, last.fullName_resource⟩
    · rw [Course.names, resources, List.map_append]
      refine List.nodup_append.mpr ⟨recorded.apart, List.nodup_singleton _, ?_⟩
      rintro name listed other new rfl
      obtain ⟨resource, member, same⟩ := List.mem_map.mp listed
      exact fresh resource member
        (same.trans ((List.mem_singleton.mp new).trans last.fullName_resource))
    · intro delivery member id resource parent
      rw [Course.created, created] at member
      rcases List.mem_append.mp member with earlier | new
      · exact recorded.after delivery earlier id resource parent
      · obtain rfl := List.mem_singleton.mp new
        exact ResourceGraph.lt_size_of_resource? (rooted.placed_deliver chosen id resource parent)

theorem Course.Recorded.exists_creator (recorded : course.Recorded) {id : Nat} {resource : Resource}
    (there : course.graph.resource? id = some resource) :
    ∃ creator ∈ course.created, creator.id = id ∧ creator.resource = resource := by
  have inside := ResourceGraph.lt_size_of_resource? there
  have position : (course.created.map (·.id))[id]? = some id := by
    rw [recorded.ids]
    exact List.getElem?_range inside
  rw [List.getElem?_map, Option.map_eq_some_iff] at position
  obtain ⟨creator, found, same⟩ := position
  have brought : (course.created.map Delivery.resource)[id]? = some resource :=
    recorded.resources ▸ there
  rw [List.getElem?_map, found] at brought
  exact ⟨creator, List.mem_of_getElem? found, same, Option.some.inj brought⟩

/-- The errands that a branch under way has to do or to open. -/
def Duty.errands (manner : Manner) (graph : ResourceGraph) : Duty → Multiset Errand
  | ask errand => {errand}
  | deliver errand _ inserted => ↑(inserted.flatMap (manner.belowId graph errand))

def Duty.left : Duty → Multiset (Errand × Draft)
  | ask _ => 0
  | deliver errand left _ => ↑(left.map (errand, ·))

structure Course.Accounts (manner : Manner) (collections : List Collection) (course : Course) :
    Prop where
  errands : (↑course.tried : Multiset Errand) +
      course.duties.bind (Duty.errands manner course.graph) =
    ↑(manner.errands none 0 collections ++ course.created.flatMap manner.opened)
  drafts : (↑(course.finds manner) : Multiset (Errand × Draft)) =
    ↑(course.deliveries.map fun delivery => (delivery.errand, delivery.draft)) +
      course.duties.bind Duty.left

private theorem bind_map_ask {α : Type} (errands : List Errand) (value : Duty → Multiset α) :
    (↑(errands.map Duty.ask) : Multiset Duty).bind value =
      (↑errands : Multiset Errand).bind fun errand => value (.ask errand) := by
  rw [← Multiset.map_coe, Multiset.bind_map]

private theorem bind_errands_ask (manner : Manner) (graph : ResourceGraph) (errands : List Errand) :
    (↑(errands.map Duty.ask) : Multiset Duty).bind (Duty.errands manner graph) = ↑errands := by
  rw [bind_map_ask]
  exact (Multiset.bind_singleton _ id).trans (Multiset.map_id _)

private theorem bind_left_ask (errands : List Errand) :
    (↑(errands.map Duty.ask) : Multiset Duty).bind Duty.left = 0 := by
  rw [bind_map_ask]
  simp only [Duty.left, Multiset.bind_zero]

/-- What is opened below resources that are there does not hang on what comes after. -/
theorem Duty.errands_of_grown (manner : Manner) {graph grown : ResourceGraph} {added : Resource} {duty : Duty}
    (resources : grown.resources = graph.resources ++ [added])
    (inserted : ∀ id ∈ duty.inserted, ∃ resource, graph.resource? id = some resource) :
    duty.errands manner grown = duty.errands manner graph := by
  cases duty with
  | ask errand => rfl
  | deliver errand left ids =>
    refine congrArg _ (List.flatMap_congr fun id member => ?_)
    obtain ⟨resource, there⟩ := inserted id member
    rw [belowId_of_resource? there, belowId_of_resource? (ResourceGraph.resource?_grown resources there)]

namespace Course.Accounts

variable {errand : Errand} {draft : Draft} {left : List Draft} {inserted : List Nat}
  {others : Multiset Duty}

theorem ask (accounts : course.Accounts manner collections)
    (chosen : course.duties = .ask errand ::ₘ others) :
    Course.Accounts manner collections
      { course with
        duties := .deliver errand (manner.drafts errand) [] ::ₘ others
        tried := course.tried ++ [errand] } where
  errands := by
    have before := accounts.errands
    rw [chosen, Multiset.cons_bind] at before
    rw [Multiset.cons_bind, ← Multiset.coe_add, Multiset.coe_singleton, add_assoc]
    simp only [Duty.errands, List.flatMap_nil, Multiset.coe_nil, zero_add] at before ⊢
    exact before
  drafts := by
    have before := accounts.drafts
    rw [chosen, Multiset.cons_bind, Duty.left, zero_add] at before
    rw [Multiset.cons_bind, Course.finds, List.flatMap_append, ← Multiset.coe_add, ← Course.finds, before,
      List.flatMap_singleton, Duty.left, add_assoc, add_comm (others.bind Duty.left)]

theorem know {id : Nat} (accounts : course.Accounts manner collections)
    (chosen : course.duties = .deliver errand (draft :: left) inserted ::ₘ others) :
    Course.Accounts manner collections
      { course with
        duties := .deliver errand left inserted ::ₘ others
        deliveries := course.deliveries ++ [⟨errand, draft, id, false⟩] } where
  errands := by
    have before := accounts.errands
    let last : Delivery := ⟨errand, draft, id, false⟩
    have created : (course.deliveries ++ [last]).filter (·.created) = course.created :=
      filter_created_old rfl
    rw [chosen, Multiset.cons_bind] at before
    rw [Multiset.cons_bind, Course.created, created]
    exact before
  drafts := by
    have before := accounts.drafts
    rw [chosen, Multiset.cons_bind, Duty.left, List.map_cons, ← Multiset.cons_coe,
      ← Multiset.singleton_add, add_assoc] at before
    rw [Multiset.cons_bind, List.map_append, ← Multiset.coe_add, add_assoc]
    exact before

theorem create {grown : ResourceGraph} (accounts : course.Accounts manner collections)
    (rooted : course.Rooted)
    (chosen : course.duties = .deliver errand (draft :: left) inserted ::ₘ others)
    (resources : grown.resources = course.graph.resources ++ [.place draft errand.resource]) :
    Course.Accounts manner collections
      { course with
        graph := grown
        duties := .deliver errand left (inserted ++ [course.graph.size]) ::ₘ others
        deliveries := course.deliveries ++ [⟨errand, draft, course.graph.size, true⟩] } where
  errands := by
    let last : Delivery := ⟨errand, draft, course.graph.size, true⟩
    have created : (course.deliveries ++ [last]).filter (·.created) = course.created ++ [last] :=
      filter_created_new rfl
    have known := rooted.inserted
    rw [chosen, Multiset.forall_mem_cons] at known
    have kept := fun duty member => Duty.errands_of_grown manner resources (known.2 duty member)
    have here := Duty.errands_of_grown manner resources known.1
    -- The new resource opens what its delivery opens.
    have opens : manner.belowId grown errand course.graph.size = manner.opened last :=
      belowId_of_resource? (ResourceGraph.resource?_added resources) errand
    have before := accounts.errands
    rw [chosen, Multiset.cons_bind, ← here] at before
    rw [Multiset.cons_bind, Multiset.bind_congr kept, Course.created, created, List.flatMap_append,
      ← List.append_assoc, ← Multiset.coe_add, ← before, List.flatMap_singleton, ← opens, Duty.errands,
      List.flatMap_append, ← Multiset.coe_add, List.flatMap_singleton, Duty.errands]
    abel
  drafts := by
    have before := accounts.drafts
    rw [chosen, Multiset.cons_bind, Duty.left, List.map_cons, ← Multiset.cons_coe,
      ← Multiset.singleton_add, add_assoc] at before
    rw [Multiset.cons_bind, List.map_append, ← Multiset.coe_add, add_assoc]
    exact before

theorem spread (accounts : course.Accounts manner collections)
    (chosen : course.duties = .deliver errand [] inserted ::ₘ others) :
    Course.Accounts manner collections
      { course with
        duties := ↑((inserted.flatMap (manner.belowId course.graph errand)).map Duty.ask) +
          others } where
  errands := by
    have before := accounts.errands
    rw [chosen, Multiset.cons_bind] at before
    rw [Multiset.add_bind, bind_errands_ask]
    exact before
  drafts := by
    have before := accounts.drafts
    rw [chosen, Multiset.cons_bind] at before
    rw [Multiset.add_bind, bind_left_ask]
    exact before

theorem advance (rooted : course.Rooted) (accounts : course.Accounts manner collections)
    (advance : Advance manner course next) : next.Accounts manner collections := by
  cases advance with
  | ask chosen => exact accounts.ask chosen
  | know chosen => exact accounts.know chosen
  | create chosen adds fresh resources => exact accounts.create rooted chosen resources
  | spread chosen => exact accounts.spread chosen

end Course.Accounts

theorem accounts_start (manner : Manner) (collections : List Collection) :
    (manner.start collections).Accounts manner collections where
  errands := by
    rw [Manner.start, bind_errands_ask]
    simp [Course.created]
  drafts := by
    rw [Manner.start, bind_left_ask]
    rfl

private theorem recorded_start (manner : Manner) (collections : List Collection) :
    (manner.start collections).Recorded :=
  ⟨rfl, rfl, fun _ none => (List.not_mem_nil none).elim, List.nodup_nil,
    fun _ none => (List.not_mem_nil none).elim⟩

namespace Manner.Steps

theorem recorded (steps : manner.Steps (manner.start collections) course) : course.Recorded :=
  steps.keeps (fun _ _ rooted step recorded => recorded.advance rooted step)
    (recorded_start manner collections)

theorem accounts (steps : manner.Steps (manner.start collections) course) :
    course.Accounts manner collections :=
  steps.keeps (fun _ _ rooted step accounts => accounts.advance rooted step)
    (accounts_start manner collections)

end Manner.Steps

theorem mem_finds_iff {find : Errand × Draft} :
    find ∈ course.finds manner ↔ find.1 ∈ course.tried ∧ find.2 ∈ manner.drafts find.1 := by
  unfold Course.finds
  rw [List.mem_flatMap]
  constructor
  · rintro ⟨errand, tried, listed⟩
    obtain ⟨draft, drafted, rfl⟩ := List.mem_map.mp listed
    exact ⟨tried, drafted⟩
  · exact fun ⟨tried, drafted⟩ => ⟨find.1, tried, List.mem_map_of_mem drafted⟩

namespace Course.Accounts

/-- What hands over a draft has asked for it. -/
theorem find_of_delivery (accounts : course.Accounts manner collections) {delivery : Delivery}
    (member : delivery ∈ course.deliveries) : (delivery.errand, delivery.draft) ∈ course.finds manner := by
  have handed : (delivery.errand, delivery.draft) ∈ (↑(course.finds manner) : Multiset (Errand × Draft)) := by
    rw [accounts.drafts]
    exact Multiset.mem_add.mpr (.inl (Multiset.mem_coe.mpr (List.mem_map.mpr ⟨delivery, member, rfl⟩)))
  exact Multiset.mem_coe.mp handed

theorem tried_of_delivery (accounts : course.Accounts manner collections) {delivery : Delivery}
    (member : delivery ∈ course.deliveries) : delivery.errand ∈ course.tried := by
  obtain ⟨tried, _⟩ := mem_finds_iff.mp (accounts.find_of_delivery member)
  exact tried

theorem opened_of_tried (accounts : course.Accounts manner collections) {errand : Errand}
    (tried : errand ∈ course.tried) :
    errand ∈ manner.errands none 0 collections ∨ ∃ opener ∈ course.created, errand ∈ manner.opened opener := by
  have counted : errand ∈ (↑course.tried : Multiset Errand) +
      course.duties.bind (Duty.errands manner course.graph) :=
    Multiset.mem_add.mpr (.inl (Multiset.mem_coe.mpr tried))
  rw [accounts.errands] at counted
  exact (List.mem_append.mp (Multiset.mem_coe.mp counted)).imp_right List.mem_flatMap.mp

/-- A branch was there from the start, or was opened below a resource that is older than what
it brought. -/
theorem opener_of_created (accounts : course.Accounts manner collections) (recorded : course.Recorded)
    {creator : Delivery} (member : creator ∈ course.created) :
    creator.errand ∈ manner.errands none 0 collections ∨
      ∃ opener ∈ course.created, creator.errand ∈ manner.opened opener ∧ opener.id < creator.id := by
  have tried := accounts.tried_of_delivery (List.mem_of_mem_filter member)
  rcases accounts.opened_of_tried tried with top | ⟨opener, created, below⟩
  · exact .inl top
  · have parent : creator.errand.parent = some (opener.id, opener.resource) := by
      obtain ⟨collection, _, same⟩ := List.mem_map.mp below
      rw [← same]
    exact .inr ⟨opener, created, below, recorded.after creator member _ _ parent⟩

end Course.Accounts

end CredentialReach.Walk
