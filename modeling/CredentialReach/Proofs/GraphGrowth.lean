import CredentialReach.Proofs.CourseHistory

/-! Graphs that grow. A new resource comes behind all others and is told of by its own id alone, so
that an id goes on standing for what it stood for, with all that lies above it. Only what lies below
can become more. -/

namespace CredentialReach

namespace ResourceGraph

variable {graph grown later : ResourceGraph} {node : Node}

/-- What the graph tells of its resources is told by the later one as well. -/
structure StaysIn (graph later : ResourceGraph) : Prop where
  ids : graph.ids <+: later.ids
  drafts : ∀ id ∈ graph.ids, later.get? id = graph.get? id
  parents : ∀ id ∈ graph.ids, later.parentOf? id = graph.parentOf? id
  ancestors : ∀ id ∈ graph.ids, later.ancestors id = graph.ancestors id
  depths : ∀ id ∈ graph.ids, later.depth id = graph.depth id
  resources : ∀ id ∈ graph.ids, later.resource? id = graph.resource? id
  names : ∀ name id, graph.idOf? name = some id → later.idOf? name = some id
  children : ∀ id, graph.childrenOf id <+: later.childrenOf id

theorem StaysIn.refl (graph : ResourceGraph) : graph.StaysIn graph where
  ids := List.prefix_rfl
  drafts := fun _ _ => rfl
  parents := fun _ _ => rfl
  ancestors := fun _ _ => rfl
  depths := fun _ _ => rfl
  resources := fun _ _ => rfl
  names := fun _ _ known => known
  children := fun _ => List.prefix_rfl

theorem StaysIn.trans (first : graph.StaysIn grown) (second : grown.StaysIn later) :
    graph.StaysIn later := by
  have kept : ∀ id ∈ graph.ids, id ∈ grown.ids := fun id listed => first.ids.mem listed
  constructor
  case ids => exact first.ids.trans second.ids
  case drafts => exact fun id listed => (second.drafts id (kept id listed)).trans (first.drafts id listed)
  case parents => exact fun id listed => (second.parents id (kept id listed)).trans (first.parents id listed)
  case ancestors => exact fun id listed => (second.ancestors id (kept id listed)).trans (first.ancestors id listed)
  case depths => exact fun id listed => (second.depths id (kept id listed)).trans (first.depths id listed)
  case resources => exact fun id listed => (second.resources id (kept id listed)).trans (first.resources id listed)
  case names => exact fun name id known => second.names name id (first.names name id known)
  case children => exact fun id => (first.children id).trans (second.children id)

section Grown

variable (nodes : grown.nodes = graph.nodes ++ [node])
include nodes

private theorem ancestors_grown {id : Nat} (inside : id < graph.size) :
    grown.ancestors id = graph.ancestors id := by
  have length : graph.chains.length = graph.size := length_foldl_behind ..
  have behind : ∃ above, grown.chains = graph.chains ++ [above] := by
    unfold chains
    rw [nodes, List.foldl_concat]
    exact ⟨_, rfl⟩
  obtain ⟨above, behind⟩ := behind
  unfold ancestors
  rw [behind, List.getD_eq_getElem?_getD, List.getElem?_append_left (length.symm ▸ inside), List.getD_eq_getElem?_getD]

private theorem resources_grown : ∃ added, grown.resources = graph.resources ++ [added] := by
  unfold resources
  rw [nodes, List.foldl_concat]
  exact ⟨_, rfl⟩

private theorem staysIn_grown (new : graph.idOf? node.draft.fullName = none) : graph.StaysIn grown := by
  have other : ∀ id ∈ graph.ids, id < graph.size := fun id => List.mem_range.mp
  constructor
  case ids =>
    unfold ids
    rw [size_grown nodes, List.range_succ]
    exact List.prefix_append ..
  case drafts =>
    intro id listed
    rw [get?_grown nodes, if_neg (Nat.ne_of_lt (other id listed))]
  case parents =>
    intro id listed
    rw [parentOf?_grown nodes, if_neg (Nat.ne_of_lt (other id listed))]
  case ancestors => exact fun id listed => ancestors_grown nodes (other id listed)
  case depths => exact fun id listed => congrArg List.length (ancestors_grown nodes (other id listed))
  case resources =>
    intro id listed
    obtain ⟨added, behind⟩ := resources_grown nodes
    unfold resource?
    rw [behind, List.getElem?_append_left (graph.length_resources.symm ▸ other id listed)]
  case names =>
    intro name id known
    have different : name ≠ node.draft.fullName := by
      intro same
      rw [same, new] at known
      cases known
    rw [idOf?_grown nodes new, if_neg different, known]
  case children =>
    intro id
    rw [childrenOf_grown nodes]
    split
    · exact List.prefix_append ..
    · exact List.prefix_rfl

end Grown

structure Faithful (graph : ResourceGraph) : Prop where
  drafts : ∀ id, (graph.resource? id).map (·.toDraft) = graph.get? id
  /-- The owner goes with a resource as it is shown itself. -/
  parents : ∀ id resource, graph.resource? id = some resource →
    resource.parent? = (graph.parentOf? id).bind graph.resource?
  owners : ∀ id resource, graph.resource? id = some resource →
    resource.owners.map some = (graph.ancestors id).map graph.get?
  depths : ∀ id resource, graph.resource? id = some resource → resource.depth = graph.depth id
  ofType : ∀ type id resource, (id, resource) ∈ graph.ofType type ↔
    graph.resource? id = some resource ∧ resource.type = type
  ascending : ∀ type, ((graph.ofType type).map (·.1)).Pairwise (· < ·)

private theorem mem_ofType {type : String} {id : Nat} {resource : Resource} :
    (id, resource) ∈ graph.ofType type ↔ graph.resource? id = some resource ∧ resource.type = type := by
  unfold ofType
  rw [List.mem_filter, mem_zip_resources, beq_iff_eq]

private theorem ascending_ofType (graph : ResourceGraph) (type : String) :
    ((graph.ofType type).map (·.1)).Pairwise (· < ·) := by
  have ids : (graph.ids.zip graph.resources).map (·.1) = graph.ids := by
    apply List.map_fst_zip
    rw [graph.length_resources, ids, List.length_range]
  have ascending : graph.ids.Pairwise (· < ·) := List.pairwise_lt_range
  rw [← ids] at ascending
  exact ascending.sublist (List.filter_sublist.map _)

theorem Orderly.faithful (orderly : graph.Orderly) : graph.Faithful := by
  constructor
  case drafts =>
    intro id
    rw [orderly.resource?_eq]
    cases graph.get? id with
    | none => rfl
    | some draft => exact congrArg some (Resource.toDraft_place draft _)
  case parents =>
    intro id resource there
    rw [orderly.resource?_eq] at there
    obtain ⟨draft, found, rfl⟩ := Option.map_eq_some_iff.mp there
    cases (graph.parentOf? id).bind graph.resource? <;> rfl
  case owners => exact fun id resource there => (orderly.owners there).2
  case depths =>
    intro id resource there
    have lengths := congrArg List.length (orderly.owners there).2
    rw [List.length_map, List.length_map] at lengths
    exact lengths
  case ofType => exact fun _ _ _ => mem_ofType
  case ascending => exact graph.ascending_ofType

end ResourceGraph

namespace History

variable {history later : History} {call : Call} {answer? : Option Answer}

theorem Grows.staysIn (grows : history.Grows call answer? later) : history.graph.StaysIn later.graph := by
  cases grows with
  | refused | known => exact .refl _
  | created owned new => exact ResourceGraph.staysIn_grown rfl new

theorem staysIn_append (calls more : List Call) :
    (History.of calls).graph.StaysIn (History.of (calls ++ more)).graph := by
  induction more using List.reverseRecOn with
  | nil =>
    rw [List.append_nil]
    exact .refl _
  | append_singleton more call ih =>
    rw [← List.append_assoc, of_append]
    exact ih.trans (grows _ call).staysIn

/-- The first draft with a full name among those of calls that were not refused. -/
def firstNamed? (calls : List (Call × Option Answer)) (name : String) : Option Draft :=
  (calls.find? fun made => made.2.isSome && made.1.draft.fullName == name).map (·.1.draft)

def FirstStands (history : History) : Prop :=
  ∀ name, (history.graph.idOf? name).bind history.graph.get? = firstNamed? history.calls name

theorem firstNamed?_append (calls : List (Call × Option Answer)) (call : Call)
    (answer? : Option Answer) (name : String) :
    firstNamed? (calls ++ [(call, answer?)]) name =
      (firstNamed? calls name).or
        (if answer?.isSome && call.draft.fullName == name then some call.draft else none) := by
  unfold firstNamed?
  rw [List.find?_append, Option.map_or, List.find?_singleton]
  split <;> rfl

theorem FirstStands.next (stands : history.FirstStands) (orderly : history.graph.Orderly)
    (grows : history.Grows call answer? later) : later.FirstStands := by
  intro name
  have before := stands name
  have stays := grows.staysIn
  cases grows with
  | refused owner absent =>
    rw [firstNamed?_append, Option.isSome_none, Bool.false_and, if_neg Bool.false_ne_true, Option.or_none]
    exact before
  | @known id owned known =>
    rw [firstNamed?_append, Option.isSome_some, Bool.true_and]
    by_cases same : call.draft.fullName = name
    · -- The name leads to a draft already, which was the first one under it.
      obtain ⟨draft, found, -⟩ := orderly.idOf?_eq_some.mp known
      rw [← same, known, Option.bind_some, found] at before
      rw [← same, known, Option.bind_some, found, ← before, Option.some_or]
    · rw [if_neg (mt beq_iff_eq.mp same), Option.or_none]
      exact before
  | created owned new =>
    rw [firstNamed?_append, Option.isSome_some, Bool.true_and, ResourceGraph.idOf?_grown rfl new]
    by_cases same : name = call.draft.fullName
    · rw [if_pos same, Option.bind_some, ResourceGraph.get?_grown rfl, if_pos rfl]
      rw [same, new, Option.bind_none] at before
      rw [same, ← before, Option.none_or, if_pos (beq_self_eq_true _)]
    · rw [if_neg same, if_neg (mt beq_iff_eq.mp (Ne.symm same)), Option.or_none, ← before]
      cases known : history.graph.idOf? name with
      | none => rfl
      | some id =>
        obtain ⟨draft, found, -⟩ := orderly.idOf?_eq_some.mp known
        have inside : id ∈ history.graph.ids :=
          List.mem_range.mpr (ResourceGraph.isSome_get?.mp (Option.isSome_of_eq_some found))
        exact stays.drafts id inside

private theorem firstStands_of (calls : List Call) : (History.of calls).FirstStands := by
  induction calls using List.reverseRecOn with
  | nil => exact fun _ => rfl
  | append_singleton calls call ih =>
    rw [of_append]
    exact ih.next (kept_of calls).orderly (grows _ call)

end History

/-! Callers that share a graph, and the branches of a walk, hold copies of what they have seen. -/

theorem Sharing.InTurn.staysIn {sharing : Sharing} (inTurn : sharing.InTurn) {caller : Nat}
    {graph : ResourceGraph} (seen : .seen graph ∈ sharing.notices caller) :
    graph.StaysIn sharing.history.graph := by
  obtain ⟨earlier, ⟨more, whole⟩, made⟩ := inTurn.seen caller graph seen
  rw [made, inTurn.history, ← whole]
  exact History.staysIn_append earlier more

namespace Walk

variable {manner : Manner} {course final : Course} {collections : List Collection}

theorem Manner.Steps.staysIn (before : manner.Steps (manner.start collections) course)
    (after : manner.Steps course final) : course.graph.StaysIn final.graph := by
  obtain ⟨more, whole⟩ := after.calls_prefix
  have stays := History.staysIn_append course.calls more
  rwa [whole, before.made, Manner.Steps.made (before.trans after)] at stays

theorem Errand.Placed.staysIn {graph later : ResourceGraph} {errand : Errand}
    (placed : errand.Placed graph) (stays : graph.StaysIn later) : errand.Placed later := by
  intro id resource parent
  have there := placed id resource parent
  have inside : id ∈ graph.ids := List.mem_range.mpr (ResourceGraph.lt_size_of_resource? there)
  exact (stays.resources id inside).trans there

end Walk

/-- Whatever calls are still to come, each id keeps its draft, which is the first that was added
under its name, its parent and all above it, and its name goes on leading to it; only children are
added, behind the others. A resource is shown with the drafts of its ancestors, and by its type. So
a copy that a caller has seen, or that a branch of a walk goes by, is the one in every later graph. -/
theorem calls_keep_resources (calls more : List Call) :
    let before := History.of calls
    let after := History.of (calls ++ more)
    before.graph.StaysIn after.graph ∧ before.graph.Faithful ∧ before.FirstStands ∧
      (∀ callers sharing, Sharing.Reached callers sharing → ∀ caller graph,
        .seen graph ∈ sharing.notices caller → graph.StaysIn sharing.history.graph) ∧
      ∀ (manner : Walk.Manner) collections course final,
        manner.Steps (manner.start collections) course → manner.Steps course final →
          course.graph.StaysIn final.graph ∧
          (∀ duty ∈ course.duties, duty.errand.Placed final.graph) ∧
          ∀ errand ∈ course.tried, errand.Placed final.graph := by
  intro before after
  refine ⟨History.staysIn_append calls more, (History.kept_of calls).orderly.faithful,
    History.firstStands_of calls, ?_, ?_⟩
  · intro callers sharing reached caller graph seen
    exact reached.inTurn.staysIn seen
  · intro manner collections course final reached further
    have rooted := reached.rooted
    have stays := reached.staysIn further
    refine ⟨stays, ?_, ?_⟩
    · intro duty member
      exact (rooted.placed duty member).staysIn stays
    · intro errand member
      exact (rooted.tried errand member).staysIn stays

/-- An environment of one project is added again, below another one and by another name. -/
def readding : List Call × List Call :=
  let draft (name fullName type : String) : Draft := ⟨name, fullName, type, ∅⟩
  ([⟨none, draft "web" "project/web" "project"⟩, ⟨none, draft "api" "project/api" "project"⟩,
      ⟨some 0, draft "prod" "environment/prod" "environment"⟩],
    [⟨some 1, draft "production" "environment/prod" "environment"⟩,
      ⟨some 0, draft "test" "environment/test" "environment"⟩])

theorem calls_keep_resources_readding :
    let before := (History.of readding.1).graph
    let after := (History.of (readding.1 ++ readding.2)).graph
    after.size = 4 ∧ after.resource? 2 = before.resource? 2 ∧
      (after.resource? 2).map (·.name) = some "prod" ∧ after.ancestors 2 = [0] ∧
      before.childrenOf 0 = [2] ∧ after.childrenOf 0 = [2, 3] := by
  intro before after
  have stays := (calls_keep_resources readding.1 readding.2).1
  exact ⟨rfl, stays.resources 2 (by decide), by decide +kernel, rfl, rfl, rfl⟩

end CredentialReach
