import Mathlib.Data.Multiset.Bind
import Mathlib.Tactic.Abel
import CredentialReach.Proofs.WalkEvents
import CredentialReach.Walk.Interleaving

/-! The order of a walk. Whatever step is taken next, what has happened together with what
the branches under way will bring about is the same, as long as every name is new. A walk
that came to its end has therefore brought about what its first branches amount to. -/

namespace CredentialReach.Walk

variable {graph : ResourceGraph} {progress next final : Progress}

def ownerIn (graph : ResourceGraph) (owner : Option Nat) : Option Resource :=
  owner.bind (graph.resources[·]?)

def Open.events (graph : ResourceGraph) (opening : Open) : Multiset Event :=
  opening.branch.events (ownerIn graph opening.owner)

/-- What a branch under way has yet to bring about. -/
def Task.events (graph : ResourceGraph) : Task → Multiset Event
  | waiting opening => opening.events graph
  | storing owner left opened =>
    Finding.events (ownerIn graph owner) left + (opened.map (Open.events graph)).sum

/-- The names that it has yet to add, of what was found already. -/
def Task.names : Task → Multiset String
  | waiting _ => 0
  | storing _ left _ => ↑(left.map (·.draft.fullName))

def Task.owners : Task → List Nat
  | waiting opening => opening.owner.toList
  | storing owner _ opened => owner.toList ++ opened.flatMap fun opening => opening.owner.toList

namespace Progress

def events (progress : Progress) : Multiset Event :=
  ↑(progress.visits.map Visit.event) + (↑(progress.graph.resources.map Event.found) +
    progress.tasks.bind (Task.events progress.graph))

/-- A walk under way, and all that it amounts to. -/
structure Accounts (whole : Multiset Event) (progress : Progress) : Prop where
  events : progress.events = whole
  names : (↑(progress.extracted.map (·.fullName)) : Multiset String) =
    ↑(progress.graph.resources.map (·.fullName)) +
      progress.tasks.bind Task.names
  owned : ∀ task ∈ progress.tasks, ∀ id ∈ task.owners, id < progress.graph.size

end Progress

theorem bind_map_waiting {α : Type} (opened : List Open) (value : Task → Multiset α) :
    (↑(opened.map Task.waiting) : Multiset Task).bind value =
      (opened.map fun opening => value (.waiting opening)).sum := by
  induction opened with
  | nil => rfl
  | cons opening rest ih =>
    rw [List.map_cons, ← Multiset.cons_coe, Multiset.cons_bind, ih, List.map_cons, List.sum_cons]

theorem ownerIn_of_append {grown : ResourceGraph} {added : Resource}
    (resources : grown.resources = graph.resources ++ [added]) {owner : Option Nat}
    (owned : ∀ id ∈ owner, id < graph.size) : ownerIn grown owner = ownerIn graph owner := by
  cases owner with
  | none => rfl
  | some id =>
    have inside : id < graph.resources.length := graph.length_resources.symm ▸ owned id rfl
    rw [ownerIn, ownerIn, resources, Option.bind_some, Option.bind_some, List.getElem?_append_left inside]

private theorem Task.events_of_append {grown : ResourceGraph} {added : Resource}
    (resources : grown.resources = graph.resources ++ [added]) {task : Task}
    (owned : ∀ id ∈ task.owners, id < graph.size) : task.events grown = task.events graph := by
  cases task with
  | waiting opening =>
    rw [Task.events, Task.events, Open.events, Open.events, ownerIn_of_append resources]
    simpa [Task.owners] using owned
  | storing owner left opened =>
    have own : ∀ id ∈ owner, id < graph.size := fun id member => owned id (by simp_all [Task.owners])
    have opens : opened.map (Open.events grown) = opened.map (Open.events graph) := by
      refine List.map_congr_left fun opening member => ?_
      rw [Open.events, Open.events, ownerIn_of_append resources]
      intro id holds
      exact owned id (List.mem_append_right _ (List.mem_flatMap.mpr ⟨opening, member, by simpa using holds⟩))
    rw [Task.events, Task.events, ownerIn_of_append resources own, opens]

theorem size_of_append {grown : ResourceGraph} {added : Resource}
    (resources : grown.resources = graph.resources ++ [added]) : grown.size = graph.size + 1 := by
  rw [← grown.length_resources, resources, List.length_append, graph.length_resources]
  rfl

private theorem ownerIn_added {grown : ResourceGraph} {added : Resource}
    (resources : grown.resources = graph.resources ++ [added]) :
    ownerIn grown (some graph.size) = some added := by
  rw [ownerIn, Option.bind_some, resources, ← graph.length_resources, List.getElem?_concat_length]

private theorem sum_events_below {grown : ResourceGraph} {added : Resource}
    (resources : grown.resources = graph.resources ++ [added]) (below : List Branch) :
    ((below.map (⟨some graph.size, ·⟩)).map (Open.events grown)).sum =
      Branch.eventsOfAll (some added) below := by
  rw [Branch.eventsOfAll_eq_sum, List.map_map, ← ownerIn_added resources]
  rfl

private theorem Task.events_storing_append (graph : ResourceGraph) (owner : Option Nat) (left : List Finding)
    (opened more : List Open) :
    Task.events graph (.storing owner left (opened ++ more)) =
      Task.events graph (.storing owner left opened) + (more.map (Open.events graph)).sum := by
  rw [Task.events, Task.events, List.map_append, List.sum_append, add_assoc]

namespace Progress

variable {whole : Multiset Event}

/-! What is brought about only changes its place when a visit is over or its branches open. -/

section Settle

variable {owner : Option Nat} {visit : Visit} {found : List Finding} {others : Multiset Task}

theorem events_settle (chosen : progress.tasks = .waiting ⟨owner, .of visit found⟩ ::ₘ others) :
    Progress.events { progress with
      tasks := .storing owner found [] ::ₘ others
      visits := progress.visits ++ [visit]
      extracted := progress.extracted ++ found.map Finding.draft } = progress.events := by
  simp only [Progress.events, chosen, Multiset.cons_bind, Task.events, Open.events, Branch.events,
    List.map_append, List.map_cons, List.map_nil, List.sum_nil, ← Multiset.coe_add,
    Multiset.coe_singleton]
  rw [← Multiset.singleton_add]
  abel

theorem owned_settle
    (owned : ∀ task ∈ progress.tasks, ∀ id ∈ task.owners, id < progress.graph.size)
    (chosen : progress.tasks = .waiting ⟨owner, .of visit found⟩ ::ₘ others) :
    ∀ task ∈ Task.storing owner found [] ::ₘ others, ∀ id ∈ task.owners, id < progress.graph.size := by
  rw [chosen, Multiset.forall_mem_cons] at owned
  refine Multiset.forall_mem_cons.mpr ⟨?_, owned.2⟩
  simpa [Task.owners] using owned.1

theorem Accounts.settle (accounts : Accounts whole progress)
    (chosen : progress.tasks = .waiting ⟨owner, .of visit found⟩ ::ₘ others) :
    Accounts whole
      { progress with
        tasks := .storing owner found [] ::ₘ others
        visits := progress.visits ++ [visit]
        extracted := progress.extracted ++ found.map Finding.draft } where
  events := (events_settle chosen).trans accounts.events
  names := by
    have before := accounts.names
    rw [chosen, Multiset.cons_bind, Task.names, zero_add] at before
    rw [Multiset.cons_bind, Task.names, List.map_append, List.map_map, ← Multiset.coe_add, before]
    exact (add_assoc ..).trans (congrArg _ (add_comm ..))
  owned := by apply owned_settle accounts.owned chosen

end Settle

section Spread

variable {owner : Option Nat} {opened : List Open} {others : Multiset Task}

theorem events_spread (chosen : progress.tasks = .storing owner [] opened ::ₘ others) :
    Progress.events { progress with tasks := ↑(opened.map Task.waiting) + others } = progress.events := by
  simp only [Progress.events, chosen, Multiset.cons_bind, Task.events, Finding.events, zero_add,
    Multiset.add_bind, bind_map_waiting]

theorem owned_spread
    (owned : ∀ task ∈ progress.tasks, ∀ id ∈ task.owners, id < progress.graph.size)
    (chosen : progress.tasks = .storing owner [] opened ::ₘ others) :
    ∀ task ∈ ↑(opened.map Task.waiting) + others, ∀ id ∈ task.owners, id < progress.graph.size := by
  rw [chosen, Multiset.forall_mem_cons] at owned
  intro task member
  rcases Multiset.mem_add.mp member with inside | other
  · obtain ⟨opening, listed, rfl⟩ := List.mem_map.mp (Multiset.mem_coe.mp inside)
    intro id holds
    exact owned.1 id (List.mem_append_right _ (List.mem_flatMap.mpr ⟨opening, listed, holds⟩))
  · exact owned.2 task other

theorem Accounts.spread (accounts : Accounts whole progress)
    (chosen : progress.tasks = .storing owner [] opened ::ₘ others) :
    Accounts whole { progress with tasks := ↑(opened.map Task.waiting) + others } where
  events := (events_spread chosen).trans accounts.events
  names := by
    have before := accounts.names
    have none : (↑(opened.map Task.waiting) : Multiset Task).bind Task.names = 0 := by
      rw [bind_map_waiting]
      simp [Task.names]
    rw [chosen, Multiset.cons_bind] at before
    rw [Multiset.add_bind, none, before]
    rfl
  owned := by apply owned_spread accounts.owned chosen

end Spread

/-- As long as names are apart, what is about to be added is new. -/
theorem Accounts.fresh {owner : Option Nat} {draft : Draft} {below : List Branch} {left : List Finding}
    {opened : List Open} {others : Multiset Task} (accounts : Accounts whole progress)
    (chosen : progress.tasks = .storing owner (.of draft below :: left) opened ::ₘ others)
    (apart : progress.NamesApart) :
    ∀ resource ∈ progress.graph.resources, resource.fullName ≠ draft.fullName := by
  have names : (↑(progress.extracted.map (·.fullName)) : Multiset String).Nodup := Multiset.coe_nodup.mpr apart
  rw [accounts.names, chosen, Multiset.cons_bind, Multiset.nodup_add] at names
  intro resource member same
  have known : draft.fullName ∈ (↑(progress.graph.resources.map (·.fullName)) : Multiset String) :=
    Multiset.mem_coe.mpr (List.mem_map.mpr ⟨resource, member, same⟩)
  have waits : draft.fullName ∈
      (Task.storing owner (.of draft below :: left) opened).names + others.bind Task.names :=
    Multiset.mem_add.mpr (.inl (Multiset.mem_coe.mpr List.mem_cons_self))
  exact Multiset.disjoint_left.mp names.2.2 known waits

section Store

variable {owner : Option Nat} {draft : Draft} {below : List Branch} {left : List Finding}
  {opened : List Open} {others : Multiset Task}

theorem events_store
    (owned : ∀ task ∈ progress.tasks, ∀ id ∈ task.owners, id < progress.graph.size)
    (chosen : progress.tasks = .storing owner (.of draft below :: left) opened ::ₘ others)
    {grown : ResourceGraph}
    (resources : grown.resources = progress.graph.resources ++ [.place draft (ownerIn progress.graph owner)]) :
    Progress.events { progress with
      graph := grown
      tasks := .storing owner left (opened ++ below.map (⟨some progress.graph.size, ·⟩)) ::ₘ others } =
      progress.events := by
  rw [chosen, Multiset.forall_mem_cons] at owned
  -- What other branches owe hangs on the graph through their owners only, and these stay.
  have kept := fun task member => Task.events_of_append resources (owned.2 task member)
  have here : Task.events grown (.storing owner left opened) =
    Task.events progress.graph (.storing owner left opened) := Task.events_of_append resources owned.1
  simp only [Progress.events]
  rw [chosen, Multiset.cons_bind, Multiset.cons_bind, Multiset.bind_congr kept,
    Task.events_storing_append, here, sum_events_below resources, resources, List.map_append,
    ← Multiset.coe_add, List.map_singleton, Multiset.coe_singleton, Task.events, Task.events,
    Finding.events, ← Multiset.singleton_add]
  abel

private theorem Accounts.names_store (accounts : Accounts whole progress)
    (chosen : progress.tasks = .storing owner (.of draft below :: left) opened ::ₘ others)
    {grown : ResourceGraph} {parent : Option Resource}
    (resources : grown.resources = progress.graph.resources ++ [.place draft parent]) (more : List Open) :
    (↑(progress.extracted.map (·.fullName)) : Multiset String) =
      ↑(grown.resources.map (·.fullName)) +
        (Task.storing owner left more ::ₘ others).bind Task.names := by
  have before := accounts.names
  have placed : (Resource.place draft parent).fullName = draft.fullName := by cases parent <;> rfl
  rw [chosen, Multiset.cons_bind] at before
  simp only [Multiset.cons_bind, resources, List.map_append, List.map_singleton, placed, ← Multiset.coe_add]
  rw [before, add_assoc, Task.names, Task.names, List.map_cons, ← Multiset.cons_coe,
    ← Multiset.singleton_add, add_assoc, Multiset.coe_singleton]
  rfl

theorem owned_store
    (owned : ∀ task ∈ progress.tasks, ∀ id ∈ task.owners, id < progress.graph.size)
    (chosen : progress.tasks = .storing owner (.of draft below :: left) opened ::ₘ others)
    {grown : ResourceGraph} {added : Resource}
    (resources : grown.resources = progress.graph.resources ++ [added]) :
    ∀ task ∈ Task.storing owner left (opened ++ below.map (⟨some progress.graph.size, ·⟩)) ::ₘ others,
      ∀ id ∈ task.owners, id < grown.size := by
  rw [chosen, Multiset.forall_mem_cons] at owned
  rw [size_of_append resources]
  refine Multiset.forall_mem_cons.mpr ⟨fun id holds => ?_, fun task member id holds => ?_⟩
  · rw [Task.owners, List.flatMap_append, ← List.append_assoc, List.mem_append] at holds
    rcases holds with earlier | new
    · exact Nat.lt_succ_of_lt (owned.1 id earlier)
    · obtain ⟨opening, listed, same⟩ := List.mem_flatMap.mp new
      obtain ⟨branch, _, rfl⟩ := List.mem_map.mp listed
      have last : progress.graph.size = id := Option.some.inj (Option.mem_toList.mp same)
      exact last ▸ Nat.lt_succ_self _
  · exact Nat.lt_succ_of_lt (owned.2 task member id holds)

theorem Accounts.store (accounts : Accounts whole progress)
    (chosen : progress.tasks = .storing owner (.of draft below :: left) opened ::ₘ others)
    (apart : progress.NamesApart) :
    Accounts whole
      { progress with
        graph := (progress.graph.insert owner draft).graph
        tasks := .storing owner left
          (opened ++ opens (progress.graph.insert owner draft) below) ::ₘ others } := by
  have fresh := accounts.fresh chosen apart
  obtain ⟨last, resources⟩ := ResourceGraph.insert_of_fresh fresh owner
  have opened_below : opens (progress.graph.insert owner draft) below =
      below.map (⟨some progress.graph.size, ·⟩) := by
    rw [opens, if_pos (ResourceGraph.created_of_fresh fresh owner), last]
  rw [opened_below]
  exact ⟨(events_store accounts.owned chosen resources).trans accounts.events,
    accounts.names_store chosen resources _, owned_store accounts.owned chosen resources⟩

end Store

theorem Accounts.step (accounts : Accounts whole progress) (step : Step progress next)
    (apart : next.NamesApart) : Accounts whole next := by
  cases step with
  | settle chosen => exact accounts.settle chosen
  | store chosen => exact accounts.store chosen apart
  | spread chosen => exact accounts.spread chosen

/-- What was extracted stays so. -/
theorem namesApart_of_step (step : Step progress next) (apart : next.NamesApart) : progress.NamesApart := by
  cases step with
  | settle chosen =>
    refine List.Nodup.sublist (List.Sublist.map _ ?_) apart
    exact List.sublist_append_left ..
  | store | spread => exact apart

theorem Accounts.steps (accounts : Accounts whole progress) (steps : Steps progress final)
    (apart : final.NamesApart) : Accounts whole final := by
  induction steps with
  | refl => exact accounts
  | tail _ step ih => exact (ih (namesApart_of_step step apart)).step step apart

theorem accounts_start (plan : Plan) (collections : List Collection) :
    Accounts (Branch.eventsOfAll none (plan.branches 0 none collections))
      (.ofState (plan.start collections) []) where
  events := by
    have first : ((plan.start collections).pending.map (Open.events {})).sum =
        Branch.eventsOfAll none (plan.branches 0 none collections) := by
      rw [Branch.eventsOfAll_eq_sum, Plan.start, List.map_map]
      rfl
    have waiting := bind_map_waiting (plan.start collections).pending (Task.events {})
    exact (zero_add _).trans ((zero_add _).trans (waiting.trans first))
  names := by
    have waiting := bind_map_waiting (plan.start collections).pending Task.names
    have none : ((plan.start collections).pending.map fun opening => (Task.waiting opening).names).sum = 0 := by
      simp [Task.names]
    exact ((zero_add _).trans (waiting.trans none)).symm
  owned := by
    intro task member id holds
    obtain ⟨opening, listed, rfl⟩ := List.mem_map.mp (Multiset.mem_coe.mp member)
    obtain ⟨branch, _, rfl⟩ := List.mem_map.mp listed
    cases holds

/-- A walk at its end has brought about what its first branches amount to. -/
theorem events_of_ends {plan : Plan} {collections : List Collection} (ends : plan.Ends collections final)
    (apart : final.NamesApart) :
    (↑(final.visits.map Visit.event ++ final.graph.resources.map Event.found) : Multiset Event) =
      Branch.eventsOfAll none (plan.branches 0 none collections) := by
  have accounts := (accounts_start plan collections).steps ends.reached apart
  rw [← accounts.events, Progress.events, ends.done, Multiset.zero_bind, add_zero, Multiset.coe_add]

end Progress

def Outcome.branchErrors (outcome : Outcome) : List BranchError := (outcome.error.map (·.branches)).getD []

theorem branchErrors_ofState (state : State) :
    (Outcome.ofState state).branchErrors = state.visits.filterMap Visit.error? := by
  unfold Outcome.branchErrors Outcome.ofState WalkError.join?
  cases state.visits.filterMap Visit.error? <;> rfl

/-- The same resources, requests and failures, in any order. -/
structure Outcome.Same (first second : Outcome) : Prop where
  resources : first.graph.resources.Perm second.graph.resources
  sent : first.sent.Perm second.sent
  errors : first.branchErrors.Perm second.branchErrors

def Event.resource? : Event → Option Resource
  | found resource => some resource
  | asked .. => none

def Event.request? : Event → Option Request
  | asked _ _ request _ => request
  | found _ => none

def Event.error? : Event → Option BranchError
  | asked collection parent _ failure => failure.map (⟨collection, parent, ·⟩)
  | found _ => none

/-- An outcome is told by the events. -/
theorem Outcome.same_of_perm {first second : Progress}
    (perm : (first.visits.map Visit.event ++ first.graph.resources.map Event.found).Perm
      (second.visits.map Visit.event ++ second.graph.resources.map Event.found)) :
    first.outcome.Same second.outcome := by
  have resources (progress : Progress) : (progress.visits.map Visit.event ++
      progress.graph.resources.map Event.found).filterMap Event.resource? =
        progress.outcome.graph.resources := by
    simp [List.filterMap_append, List.filterMap_map, Function.comp_def, Event.resource?, Visit.event,
      Progress.outcome, Outcome.ofState]
  have sent (progress : Progress) : (progress.visits.map Visit.event ++
      progress.graph.resources.map Event.found).filterMap Event.request? = progress.outcome.sent := by
    simp [List.filterMap_append, List.filterMap_map, Function.comp_def, Event.request?, Visit.event,
      Progress.outcome, Outcome.ofState]
  have errors (progress : Progress) : (progress.visits.map Visit.event ++
      progress.graph.resources.map Event.found).filterMap Event.error? = progress.outcome.branchErrors := by
    rw [Progress.outcome, branchErrors_ofState]
    simp [List.filterMap_append, List.filterMap_map, Function.comp_def, Event.error?, Visit.event]
    rfl
  have kept {α : Type} (tell : Event → Option α) := perm.filterMap tell
  refine ⟨?_, ?_, ?_⟩
  · simpa only [resources] using kept Event.resource?
  · simpa only [sent] using kept Event.request?
  · simpa only [errors] using kept Event.error?

theorem Progress.InTime.events {progress : Progress} (inTime : progress.InTime) {event : Event}
    (member : event ∈ progress.visits.map Visit.event ++ progress.graph.resources.map Event.found) :
    event.InTime := by
  rcases List.mem_append.mp member with asked | found
  · obtain ⟨visit, listed, rfl⟩ := List.mem_map.mp asked
    exact inTime visit listed
  · obtain ⟨resource, _, rfl⟩ := List.mem_map.mp found
    trivial

/-- When replies come, and which branch takes the next step, tells on nothing but the order
of what a walk gives. Walks that settle whole branches are among those meant. -/
theorem Plan.Alike.walk_unordered {first second : Plan} (alike : first.Alike second)
    {collections : List Collection}
    {one other : Progress} (ends : first.Ends collections one) (endsToo : second.Ends collections other)
    (inTime : one.InTime) (inTimeToo : other.InTime) (apart : one.NamesApart) (apartToo : other.NamesApart) :
    one.outcome.Same other.outcome ∧
      ∀ order, ∃ final, first.Ends collections final ∧ final.outcome = first.walkInOrder order collections := by
  have events := Progress.events_of_ends ends apart
  have eventsToo := Progress.events_of_ends endsToo apartToo
  have same := alike.events_branches 0 0 none collections
    (fun event member => inTime.events (Multiset.mem_coe.mp (events ▸ member)))
    (fun event member => inTimeToo.events (Multiset.mem_coe.mp (eventsToo ▸ member)))
  exact ⟨Outcome.same_of_perm (Multiset.coe_eq_coe.mp (events.trans (same.trans eventsToo.symm))),
    fun order => first.exists_ends order collections⟩

def single (label path : String) : Collection :=
  .of { label, request := fun _ => .ok (.get path),
        extract := fun body _ => .ok [⟨body, s!"{label}/{body}", label, ∅⟩] } []

def delayed (members projects : Nat) : Plan where
  replies _ _ _ request := ⟨if request.path = "/members" then members else projects, .ok ⟨200, "web"⟩⟩
  permissions := ∅
  deadline := 100
  backoff := 0

theorem steps_of_leaf (graph : ResourceGraph) (draft : Draft) (others : Multiset Task) (visits : List Visit)
    (extracted : List Draft) :
    Steps ⟨graph, .storing none [.of draft []] [] ::ₘ others, visits, extracted⟩
      ⟨(graph.insert none draft).graph, others, visits, extracted⟩ := by
  have nothing : opens (graph.insert none draft) [] = [] := by unfold opens; split <;> rfl
  have stored : Step ⟨graph, .storing none [.of draft []] [] ::ₘ others, visits, extracted⟩
      ⟨(graph.insert none draft).graph, .storing none [] ([] ++ opens (graph.insert none draft) []) ::ₘ others,
        visits, extracted⟩ := .store rfl
  have spread : Step ⟨(graph.insert none draft).graph, .storing none [] [] ::ₘ others, visits, extracted⟩
      ⟨(graph.insert none draft).graph, ↑([].map Task.waiting) + others, visits, extracted⟩ := .spread rfl
  rw [nothing] at stored
  rw [List.map_nil, Multiset.coe_nil, zero_add] at spread
  exact .head stored (.single spread)

/-- Two branches of one resource each: both responses come before either resource is
added, and what came later is added first. -/
theorem steps_pair (one other : Visit) (draft draftToo : Draft) :
    Steps ⟨{}, {.waiting ⟨none, .of one [.of draft []]⟩, .waiting ⟨none, .of other [.of draftToo []]⟩}, [], []⟩
      ⟨((ResourceGraph.insert {} none draftToo).graph.insert none draft).graph, 0, [one, other],
        [draft, draftToo]⟩ := by
  let waits (visit : Visit) (draft : Draft) : Task := .waiting ⟨none, .of visit [.of draft []]⟩
  let holds (draft : Draft) : Task := .storing none [.of draft []] []
  have settleOne : Step ⟨{}, {waits one draft, waits other draftToo}, [], []⟩
      ⟨{}, {holds draft, waits other draftToo}, [one], [draft]⟩ := .settle rfl
  have settleOther : Step ⟨{}, {holds draft, waits other draftToo}, [one], [draft]⟩
      ⟨{}, {holds draftToo, holds draft}, [one, other], [draft, draftToo]⟩ := .settle (Multiset.pair_comm _ _)
  exact .head settleOne (.head settleOther
    ((steps_of_leaf {} draftToo {holds draft} _ _).trans (steps_of_leaf _ draft 0 _ _)))

theorem walk_unordered_of_pair :
    let collections := [single "members" "/members", single "projects" "/projects"]
    ∃ one other : Progress, (delayed 5 9).Ends collections one ∧ (delayed 9 5).Ends collections other ∧
      one.graph.resources.map (·.fullName) = ["projects/web", "members/web"] ∧
      other.graph.resources.map (·.fullName) = ["members/web", "projects/web"] ∧
      one.outcome.Same other.outcome := by
  intro collections
  let member : Draft := ⟨"web", "members/web", "members", ∅⟩
  let project : Draft := ⟨"web", "projects/web", "projects", ∅⟩
  let members (settled : Nat) : Visit := ⟨"members", none, some (.get "/members"), settled, none⟩
  let projects (settled : Nat) : Visit := ⟨"projects", none, some (.get "/projects"), settled, none⟩
  have alike : (delayed 5 9).Alike (delayed 9 5) := ⟨rfl, fun _ _ _ _ _ => rfl⟩
  have reached := steps_pair (members 5) (projects 9) member project
  have reachedToo := steps_pair (projects 5) (members 9) project member
  rw [Multiset.pair_comm] at reachedToo
  have ends : (delayed 5 9).Ends collections _ := ⟨reached, rfl⟩
  have endsToo : (delayed 9 5).Ends collections _ := ⟨reachedToo, rfl⟩
  have inTime : ∀ visit ∈ [members 5, projects 9], visit.failure ≠ some .timedOut := by
    simp [members, projects]
  have inTimeToo : ∀ visit ∈ [projects 5, members 9], visit.failure ≠ some .timedOut := by
    simp [members, projects]
  have apart : ([member, project].map (·.fullName)).Nodup := by decide
  have apartToo : ([project, member].map (·.fullName)).Nodup := by decide
  exact ⟨_, _, ends, endsToo, rfl, rfl, (alike.walk_unordered ends endsToo inTime inTimeToo apart apartToo).1⟩

end CredentialReach.Walk
