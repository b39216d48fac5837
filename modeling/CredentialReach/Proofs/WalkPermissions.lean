import CredentialReach.Proofs.HeldPermissions
import CredentialReach.Proofs.WalkOrder

/-! Walks with fewer permissions. What is held decides which collections are asked for, and
nothing else: with more permissions there is more to find and nothing that is lost. A walk never
finds more than its first branches amount to; it finds all of that if names are apart. -/

namespace CredentialReach.Walk

/-- What is held under the first plan is held under the second one, and the replies are the same
but for their delays. -/
structure Plan.Below (fewer more : Plan) : Prop where
  permissions : ∀ name ∈ fewer.permissions, name ∈ more.permissions
  replies : ∀ source parent start later request,
    (fewer.replies source parent start request).outcome = (more.replies source parent later request).outcome

def foundIn (events : Multiset Event) : Multiset Resource := events.filterMap Event.resource?

@[simp] theorem foundIn_add (first second : Multiset Event) :
    foundIn (first + second) = foundIn first + foundIn second := by
  simp [foundIn, Multiset.filterMap_add]

@[simp] theorem foundIn_visit (visit : Visit) (events : Multiset Event) :
    foundIn (visit.event ::ₘ events) = foundIn events :=
  Multiset.filterMap_cons_none _ _ rfl

@[simp] theorem foundIn_found (resource : Resource) (events : Multiset Event) :
    foundIn (.found resource ::ₘ events) = resource ::ₘ foundIn events :=
  Multiset.filterMap_cons_some _ _ _ rfl

private theorem foundIn_le {first second : Multiset Event} (le : first ≤ second) :
    foundIn first ≤ foundIn second :=
  Multiset.filterMap_le_filterMap _ le

namespace Plan

variable {plan fewer more : Plan} {source : Source} {parent : Option Resource} {start later : Nat}

private theorem drafts_of_late (late : ¬(plan.visit source parent start).1.event.InTime) :
    (plan.visit source parent start).2 = [] := by
  cases asks : source.request parent with
  | error fault => rw [plan.visit_of_fault start asks]
  | ok request =>
    have whole := plan.visit_of_request start asks
    revert whole
    cases (plan.ask source parent start request).2 with
    | error failure => exact congrArg Prod.snd
    | ok drafts =>
      intro whole
      rw [show (plan.visit source parent start).1.event = _ from congrArg Prod.fst whole] at late
      exact absurd (by simp [Event.InTime]) late

/-- A visit finds the same with fewer permissions, or it is too late. -/
theorem Below.drafts (below : fewer.Below more)
    (inTime : (more.visit source parent later).1.event.InTime) :
    (fewer.visit source parent start).2 = (more.visit source parent later).2 ∨
      (fewer.visit source parent start).2 = [] := by
  have alike : Alike { fewer with permissions := more.permissions } more := ⟨rfl, below.replies⟩
  by_cases inTimeToo : (fewer.visit source parent start).1.event.InTime
  · exact .inl (Prod.mk.inj (alike.visit inTimeToo inTime)).2
  · exact .inr (drafts_of_late inTimeToo)

private theorem found_findings {children : List Collection}
    (below : ∀ owner,
      (∀ event ∈ Branch.eventsOfAll owner (more.branches later owner children), event.InTime) →
      foundIn (Branch.eventsOfAll owner (fewer.branches start owner children)) ≤
        foundIn (Branch.eventsOfAll owner (more.branches later owner children)))
    (drafts : List Draft)
    (inTime : ∀ event ∈ Finding.events parent (more.findings children parent later drafts), event.InTime) :
    foundIn (Finding.events parent (fewer.findings children parent start drafts)) ≤
      foundIn (Finding.events parent (more.findings children parent later drafts)) := by
  induction drafts with
  | nil => exact le_rfl
  | cons draft rest others =>
    simp only [findings, List.map_cons, Finding.events, Multiset.forall_mem_cons, Multiset.mem_add,
      or_imp, forall_and, foundIn_found, foundIn_add] at inTime ⊢
    refine Multiset.cons_le_cons _ (add_le_add ?_ ?_)
    · exact below _ inTime.2.1
    · exact others inTime.2.2

mutual

/-- Branches find no less if more is held, down to the last one. -/
theorem Below.found_branch (below : fewer.Below more) (start later : Nat) (parent : Option Resource)
    (collection : Collection)
    (inTime : ∀ event ∈ (more.branch later parent collection).events parent, event.InTime) :
    foundIn ((fewer.branch start parent collection).events parent) ≤
      foundIn ((more.branch later parent collection).events parent) := by
  obtain ⟨source, children⟩ := collection
  rw [events_branch, Multiset.forall_mem_cons] at inTime
  rw [events_branch, events_branch, foundIn_visit, foundIn_visit]
  rcases below.drafts inTime.1 with same | late
  · rw [same]
    exact found_findings (fun owner => below.found_branches _ _ owner children) _ inTime.2
  · rw [late]
    exact Multiset.zero_le _

theorem Below.found_branches (below : fewer.Below more) (start later : Nat) (parent : Option Resource)
    (collections : List Collection)
    (inTime : ∀ event ∈ Branch.eventsOfAll parent (more.branches later parent collections), event.InTime) :
    foundIn (Branch.eventsOfAll parent (fewer.branches start parent collections)) ≤
      foundIn (Branch.eventsOfAll parent (more.branches later parent collections)) := by
  cases collections with
  | nil => rw [branches, branches]
  | cons collection rest =>
    rw [branches] at inTime ⊢
    rw [branches]
    by_cases heldToo : more.permissions.meets collection.source.required
    · rw [if_pos heldToo, Branch.eventsOfAll] at inTime
      simp only [Multiset.mem_add, or_imp, forall_and] at inTime
      rw [if_pos heldToo, Branch.eventsOfAll, foundIn_add]
      have others := below.found_branches start later parent rest inTime.2
      split
      next held =>
        rw [Branch.eventsOfAll, foundIn_add]
        exact add_le_add (below.found_branch start later parent collection inTime.1) others
      next unheld => exact others.trans (Multiset.le_add_left ..)
    · -- What more permissions do not allow is not allowed with fewer either.
      have unheld := mt (PermissionSet.meets_of_wider below.permissions) heldToo
      rw [if_neg heldToo] at inTime
      rw [if_neg heldToo, if_neg unheld]
      exact below.found_branches start later parent rest inTime

end

end Plan

namespace Progress

variable {progress next final : Progress} {whole : Multiset Event}

/-- A walk under way. A resource with a known name is not added, and what is below it not asked. -/
structure Within (whole : Multiset Event) (progress : Progress) : Prop where
  events : progress.events ≤ whole
  owned : ∀ task ∈ progress.tasks, ∀ id ∈ task.owners, id < progress.graph.size

theorem Within.store {owner : Option Nat} {draft : Draft} {below : List Branch} {left : List Finding}
    {opened : List Open} {others : Multiset Task} (within : Within whole progress)
    (chosen : progress.tasks = .storing owner (.of draft below :: left) opened ::ₘ others) :
    Within whole
      { progress with
        graph := (progress.graph.insert owner draft).graph
        tasks := .storing owner left
          (opened ++ opens (progress.graph.insert owner draft) below) ::ₘ others } := by
  rcases progress.graph.insert_cases owner draft with
    ⟨id, _, known, _⟩ | ⟨_, grown, created, resources⟩
  · -- The name is known: what was found here is dropped, with everything below it.
    have unopened : opens ⟨progress.graph, id, false⟩ below = [] := rfl
    have events := within.events
    have owned := within.owned
    rw [known, unopened, List.append_nil]
    rw [chosen, Multiset.forall_mem_cons] at owned
    constructor
    · refine le_trans ?_ events
      simp only [Progress.events, chosen, Multiset.cons_bind, Task.events, Finding.events]
      gcongr
      exact (Multiset.le_add_left ..).trans (Multiset.le_cons_self ..)
    · refine Multiset.forall_mem_cons.mpr ⟨?_, owned.2⟩
      exact owned.1
  · have opened_below : opens ⟨grown, progress.graph.size, true⟩ below =
      below.map (⟨some progress.graph.size, ·⟩) := rfl
    rw [created, opened_below]
    exact ⟨(events_store within.owned chosen resources).trans_le within.events,
      owned_store within.owned chosen resources⟩

theorem Within.step (within : Within whole progress) (step : Step progress next) :
    Within whole next := by
  cases step with
  | settle chosen =>
    exact ⟨(events_settle chosen).trans_le within.events, by apply owned_settle within.owned chosen⟩
  | store chosen => exact within.store chosen
  | spread chosen =>
    exact ⟨(events_spread chosen).trans_le within.events, by apply owned_spread within.owned chosen⟩

theorem Within.steps (within : Within whole progress) (steps : Steps progress final) :
    Within whole final := by
  induction steps with
  | refl => exact within
  | tail _ step earlier => exact earlier.step step

private theorem foundIn_of_done (done : progress.tasks = 0) :
    foundIn progress.events = ↑progress.graph.resources := by
  rw [Progress.events, done, Multiset.zero_bind, add_zero, foundIn_add, foundIn, foundIn,
    Multiset.filterMap_coe, Multiset.filterMap_coe, List.filterMap_map, List.filterMap_map]
  simp [Function.comp_def, Visit.event, Event.resource?]

private theorem found_le_of_ends {plan : Plan} {collections : List Collection}
    (ends : plan.Ends collections final) :
    (↑final.graph.resources : Multiset Resource) ≤
      foundIn (Branch.eventsOfAll none (plan.branches 0 none collections)) := by
  have start := accounts_start plan collections
  have within := Within.steps ⟨start.events.le, start.owned⟩ ends.reached
  rw [← foundIn_of_done ends.done]
  exact foundIn_le within.events

private theorem found_of_ends {plan : Plan} {collections : List Collection}
    (ends : plan.Ends collections final) (apart : final.NamesApart) :
    (↑final.graph.resources : Multiset Resource) =
      foundIn (Branch.eventsOfAll none (plan.branches 0 none collections)) := by
  rw [← foundIn_of_done ends.done, ((accounts_start plan collections).steps ends.reached apart).events]

private theorem names_of_ends {plan : Plan} {collections : List Collection}
    (ends : plan.Ends collections final) (apart : final.NamesApart) :
    (final.graph.resources.map (·.fullName)).Nodup := by
  have names := ((accounts_start plan collections).steps ends.reached apart).names
  rw [ends.done, Multiset.zero_bind, add_zero, Multiset.coe_eq_coe] at names
  exact names.nodup_iff.mp apart

end Progress

variable {fewer more : Plan} {collections : List Collection} {one other : Progress}

theorem Plan.Below.resources (below : fewer.Below more) (ends : fewer.Ends collections one)
    (endsToo : more.Ends collections other) (inTime : other.InTime) (apart : other.NamesApart) :
    one.graph.resources ⊆ other.graph.resources := by
  have whole := Progress.events_of_ends endsToo apart
  have found := below.found_branches 0 0 none collections
    fun event member => inTime.events (Multiset.mem_coe.mp (whole ▸ member))
  have le := (Progress.found_le_of_ends ends).trans
    (found.trans_eq (Progress.found_of_ends endsToo apart).symm)
  exact fun resource member => Multiset.mem_of_le le member

/-- With more permissions a walk finds all that it finds with fewer, with the same name, type,
metadata and containing resources, and a result for all of it binds each resource to the
permissions that it was bound to, and maybe to others. -/
theorem Plan.Below.walk_monotone (below : fewer.Below more) (ends : fewer.Ends collections one)
    (endsToo : more.Ends collections other) (inTime : other.InTime) (apart : other.NamesApart)
    (kind : AnalyzerKind) (table : PermissionTable) (metadata metadataToo : NameMap Json) :
    let few := AnalysisResult.aggregate kind one.graph table ⟨fewer.permissions, []⟩ metadata
    let many := AnalysisResult.aggregate kind other.graph table ⟨more.permissions, []⟩ metadataToo
    one.graph.resources ⊆ other.graph.resources ∧
      (∀ binding ∈ few.bindings, ∃ same ∈ many.bindings,
        same.resource = binding.resource ∧ same.permission.value = binding.permission.value) ∧
      (∀ binding ∈ few.bindings, ∀ resource ∈ many.unbounded,
        resource.fullName ≠ binding.resource.fullName) ∧
      ∀ order,
        (∃ final, fewer.Ends collections final ∧ final.outcome = fewer.walkInOrder order collections) ∧
        ∃ final, more.Ends collections final ∧ final.outcome = more.walkInOrder order collections := by
  intro few many
  have resources := below.resources ends endsToo inTime apart
  have bound : ∀ binding ∈ few.bindings, ∃ same ∈ many.bindings,
      same.resource = binding.resource ∧ same.permission.value = binding.permission.value := by
    intro binding member
    exact AnalysisResult.exists_binding_of_wider resources below.permissions member
  refine ⟨resources, bound, ?_, fun order =>
    ⟨fewer.exists_ends order collections, more.exists_ends order collections⟩⟩
  intro binding member resource unbounded
  obtain ⟨same, inMany, itself, _⟩ := bound binding member
  rw [← itself]
  exact AnalysisResult.fullName_ne_of_bound (Progress.names_of_ends endsToo apart) inMany unbounded

def restricted (label path : String) : Collection :=
  .of { (single label path).source with required := some "admin" } []

def holding (names : List String) : Plan := { delayed 5 9 with permissions := .ofList names }

def teamTable : PermissionTable :=
  (PermissionTable.withType {} "members" ["read", "write"]).withImplication "write" "admin"

/-- What each resource is bound to, if `names` are held on all of them. -/
def boundTo (names : List String) (progress : Progress) : List (String × String) :=
  let result := AnalysisResult.aggregate .launchDarkly progress.graph teamTable ⟨.ofList names, []⟩
  result.bindings.map fun binding => (binding.resource.fullName, binding.permission.value)

theorem walk_monotone_of_admin :
    let collections := [single "members" "/members", restricted "projects" "/projects"]
    ∃ one other : Progress, (holding ["read"]).Ends collections one ∧
      (holding ["admin", "read"]).Ends collections other ∧
      one.graph.resources ⊆ other.graph.resources ∧
      other.graph.resources.map (·.fullName) = ["projects/web", "members/web"] ∧
      boundTo ["read"] one = [("members/web", "read")] ∧
      boundTo ["read"] one ⊆ boundTo ["admin", "read"] other := by
  intro collections
  let member : Draft := ⟨"web", "members/web", "members", ∅⟩
  let project : Draft := ⟨"web", "projects/web", "projects", ∅⟩
  let members : Visit := ⟨"members", none, some (.get "/members"), 5, none⟩
  let projects : Visit := ⟨"projects", none, some (.get "/projects"), 9, none⟩
  have below : (holding ["read"]).Below (holding ["admin", "read"]) := by
    refine ⟨?_, fun _ _ _ _ _ => rfl⟩
    intro name held
    simp [holding] at held ⊢
    exact .inr held
  have reached : Steps ⟨{}, {.waiting ⟨none, .of members [.of member []]⟩}, [], []⟩ _ :=
    .head (.settle rfl) (steps_of_leaf {} member 0 _ _)
  have reachedToo := steps_pair members projects member project
  have ends : (holding ["read"]).Ends collections _ := ⟨reached, rfl⟩
  have endsToo : (holding ["admin", "read"]).Ends collections _ := ⟨reachedToo, rfl⟩
  have inTime : ∀ visit ∈ [members, projects], visit.failure ≠ some .timedOut := by
    simp [members, projects]
  have apart : ([member, project].map (·.fullName)).Nodup := by decide
  obtain ⟨found, bound, -⟩ := below.walk_monotone ends endsToo inTime apart .launchDarkly teamTable ∅ ∅
  refine ⟨_, _, ends, endsToo, found, rfl, by decide +kernel, ?_⟩
  intro pair listed
  obtain ⟨binding, inFew, rfl⟩ := List.mem_map.mp listed
  obtain ⟨same, inMany, resource, value⟩ := bound binding inFew
  exact List.mem_map.mpr ⟨same, inMany, by rw [resource, value]⟩

end CredentialReach.Walk
