import CredentialReach.Proofs.Expansion
import CredentialReach.Proofs.WalkDeadline

/-! Resources that are found twice. Below a name, the walk asks for what the branch can open that
was first to add it, and for nothing that another one could open that found it too. So a walk does
not depend on which is first as long as they can open the same, and otherwise it does. -/

namespace CredentialReach.Walk

variable {manner : Manner} {plan : Plan} {course one other : Course} {collections : List Collection}

/-- The names that a collection lists below the resource that `find` brings. -/
def Manner.namesBelow (manner : Manner) (find : Errand × Draft) (collection : Collection) :
    List String :=
  (manner.ask collection.source (some (.place find.2 find.1.resource))
    (manner.visit find.1).settled).2.map (·.fullName)

/-- Two branches that found a name have the same collections to open below it, and these list
the same names for both. -/
structure Manner.Concur (manner : Manner) (first second : Errand × Draft) : Prop where
  children : (manner.permitted first.1.children).Perm (manner.permitted second.1.children)
  names : ∀ collection ∈ manner.permitted first.1.children, ∀ name,
    name ∈ manner.namesBelow first collection ↔ name ∈ manner.namesBelow second collection

/-- Whichever of these brings a name, it opens the same below. -/
def Manner.Concordant (manner : Manner) (finds : List (Errand × Draft)) : Prop :=
  ∀ first ∈ finds, ∀ second ∈ finds, first.2.fullName = second.2.fullName → manner.Concur first second

namespace Manner.Ends

theorem find_of_created (ends : manner.Ends collections course) {creator : Delivery}
    (member : creator ∈ course.created) :
    (creator.errand, creator.draft) ∈ course.finds manner :=
  ends.accounts.find_of_delivery (List.mem_of_mem_filter member)

theorem name_of_find (ends : manner.Ends collections course) {find : Errand × Draft}
    (member : find ∈ course.finds manner) : find.2.fullName ∈ course.names := by
  have once := (ends.expanded.once find member).1
  exact List.count_pos_iff.mp (by omega)

theorem creator_of_name (ends : manner.Ends collections course) {name : String}
    (known : name ∈ course.names) : ∃ creator ∈ course.created, creator.draft.fullName = name := by
  rw [← ends.recorded.names] at known
  exact List.mem_map.mp known

theorem creator_unique (ends : manner.Ends collections course) {first second : Delivery}
    (here : first ∈ course.created) (there : second ∈ course.created)
    (same : first.draft.fullName = second.draft.fullName) : first = second := by
  have apart := ends.recorded.apart
  rw [← ends.recorded.names] at apart
  exact List.inj_on_of_nodup_map apart here there same

/-- Below a name, the walk tried what the branch can open that created it. -/
theorem triedUnder_creator (ends : manner.Ends collections course) {creator : Delivery}
    (member : creator ∈ course.created) :
    (course.triedUnder creator.draft.fullName).Perm (manner.permitted creator.errand.children) := by
  unfold Course.triedUnder
  cases known : course.graph.idOf? creator.draft.fullName with
  | none =>
    have fresh := ResourceGraph.fresh_of_idOf?_eq_none known
    have listed : creator.draft.fullName ∈ course.names :=
      ends.recorded.names ▸ List.mem_map_of_mem member
    obtain ⟨resource, there, same⟩ := List.mem_map.mp listed
    exact absurd same (fresh resource there)
  | some id =>
    obtain ⟨resource, there, same⟩ := ResourceGraph.exists_resource_of_idOf? known
    obtain ⟨owner, created, _, rfl, tried⟩ := ends.expanded.opened id resource there
    have only := ends.creator_unique created member (owner.fullName_resource.symm.trans same)
    exact only ▸ tried

theorem creator_of_find (ends : manner.Ends collections course) {find : Errand × Draft}
    (member : find ∈ course.finds manner) :
    ∃ creator ∈ course.created, creator.draft.fullName = find.2.fullName ∧
      (course.triedUnder find.2.fullName).Perm (manner.permitted creator.errand.children) := by
  obtain ⟨creator, created, same⟩ := ends.creator_of_name (ends.name_of_find member)
  exact ⟨creator, created, same, same ▸ ends.triedUnder_creator created⟩

private theorem tried_of_opened (ends : manner.Ends collections course) {creator : Delivery}
    (member : creator ∈ course.created) {errand : Errand} (below : errand ∈ manner.opened creator) :
    errand ∈ course.tried :=
  ends.expanded.tried.mem_iff.mpr (List.mem_append_right _ (List.mem_flatMap.mpr ⟨creator, member, below⟩))

private theorem tried_of_top (ends : manner.Ends collections course) {errand : Errand}
    (top : errand ∈ manner.errands none 0 collections) : errand ∈ course.tried :=
  ends.expanded.tried.mem_iff.mpr (List.mem_append_left _ top)

private theorem creators_concur (ends : manner.Ends collections one) (others : manner.Ends collections other)
    (concordant : manner.Concordant (one.finds manner ++ other.finds manner)) {creator rival : Delivery}
    (created : creator ∈ one.created) (rivals : rival ∈ other.created)
    (same : creator.draft.fullName = rival.draft.fullName) :
    manner.Concur (creator.errand, creator.draft) (rival.errand, rival.draft) :=
  concordant _ (List.mem_append_left _ (ends.find_of_created created))
    _ (List.mem_append_right _ (others.find_of_created rivals)) same

/-- What one walk creates the other one knows. By induction on the ids, as what is found below a
resource comes after it. -/
theorem name_of_created (ends : manner.Ends collections one) (others : manner.Ends collections other)
    (concordant : manner.Concordant (one.finds manner ++ other.finds manner)) {creator : Delivery}
    (member : creator ∈ one.created) : creator.draft.fullName ∈ other.names := by
  induction id : creator.id using Nat.strong_induction_on generalizing creator with
  | h id ih =>
    have drafted := (mem_finds_iff.mp (ends.find_of_created member)).2
    rcases ends.accounts.opener_of_created ends.recorded member with top | ⟨opener, created, below, earlier⟩
    · exact others.name_of_find (mem_finds_iff.mpr ⟨others.tried_of_top top, drafted⟩)
    · obtain ⟨rival, rivals, same⟩ := others.creator_of_name (ih opener.id (id ▸ earlier) created rfl)
      have concur := ends.creators_concur others concordant created rivals same.symm
      obtain ⟨collection, permitted, errand⟩ := List.mem_map.mp below
      -- The other walk opened the same collection, and there it lists the same name.
      let below : Errand := ⟨some (rival.id, rival.resource), collection, (manner.visit rival.errand).settled⟩
      have opened : below ∈ manner.opened rival :=
        List.mem_map_of_mem (concur.children.mem_iff.mp permitted)
      rw [← errand] at drafted
      obtain ⟨draft, found, name⟩ := List.mem_map.mp
        ((concur.names collection permitted _).mp (List.mem_map_of_mem drafted))
      have find : (below, draft) ∈ other.finds manner :=
        mem_finds_iff.mpr ⟨others.tried_of_opened rivals opened, found⟩
      exact name ▸ others.name_of_find find

end Manner.Ends

theorem Manner.Concordant.swap {first second : List (Errand × Draft)}
    (concordant : manner.Concordant (first ++ second)) : manner.Concordant (second ++ first) := by
  have back : ∀ find, find ∈ second ++ first → find ∈ first ++ second :=
    fun find member => (List.mem_append.mp member).elim (List.mem_append_right _) (List.mem_append_left _)
  exact fun first here second there => concordant first (back first here) second (back second there)

/-- Below every name that is found, a walk tries what the branch can open that created it. If all
branches that find a name can open the same below it, this is what any of them can open, and two
walks, whichever branches are first, know the same names and try the same below each. -/
theorem Plan.shares_subtrees (ends : plan.manner.Ends collections one)
    (others : plan.manner.Ends collections other) :
    (∀ find ∈ one.finds plan.manner, ∃ creator ∈ one.created,
        creator.draft.fullName = find.2.fullName ∧
          (one.triedUnder find.2.fullName).Perm (plan.manner.permitted creator.errand.children)) ∧
      (plan.manner.Concordant (one.finds plan.manner ++ other.finds plan.manner) →
        (∀ find ∈ one.finds plan.manner,
          (one.triedUnder find.2.fullName).Perm (plan.manner.permitted find.1.children)) ∧
        (∀ name, name ∈ one.names ↔ name ∈ other.names) ∧
        ∀ name ∈ one.names, (one.triedUnder name).Perm (other.triedUnder name)) := by
  refine ⟨fun find member => ends.creator_of_find member, fun concordant => ⟨fun find member => ?_,
    fun name => ⟨fun known => ?_, fun known => ?_⟩, fun name known => ?_⟩⟩
  · obtain ⟨creator, created, same, tried⟩ := ends.creator_of_find member
    have concur := concordant (creator.errand, creator.draft)
      (List.mem_append_left _ (ends.find_of_created created)) find (List.mem_append_left _ member) same
    exact tried.trans concur.children
  · obtain ⟨creator, created, rfl⟩ := ends.creator_of_name known
    exact ends.name_of_created others concordant created
  · obtain ⟨creator, created, rfl⟩ := others.creator_of_name known
    exact others.name_of_created ends concordant.swap created
  · obtain ⟨creator, created, rfl⟩ := ends.creator_of_name known
    obtain ⟨rival, rivals, same⟩ :=
      others.creator_of_name (ends.name_of_created others concordant created)
    have concur := ends.creators_concur others concordant created rivals same.symm
    have there := others.triedUnder_creator rivals
    rw [same] at there
    exact ((ends.triedUnder_creator created).trans concur.children).trans there.symm

theorem visit_naming (parent : Option (Nat × Resource)) (label path : String) (children : List Collection) :
    (answering.manner.visit ⟨parent, naming label path children, 0⟩).settled = 0 ∧
      (answering.manner.drafts ⟨parent, naming label path children, 0⟩).map (·.fullName) =
        [if path = "/environments" then "prod" else "web"] := ⟨rfl, rfl⟩

def environments : Collection := naming "environments" "/environments" []

/-- Two collections whose resources share a name, and that have the same below it. -/
def twins : List Collection :=
  [naming "teams" "/teams" [environments], naming "projects" "/projects" [environments]]

private theorem naming_of_mem_twins {collection : Collection} (member : collection ∈ twins) :
    ∃ label path, path ≠ "/environments" ∧ collection = naming label path [environments] := by
  rcases List.mem_pair.mp member with rfl | rfl
  · exact ⟨"teams", "/teams", by decide, rfl⟩
  · exact ⟨"projects", "/projects", by decide, rfl⟩

def Errand.Twin (errand : Errand) : Prop :=
  errand.start = 0 ∧ (errand.collection ∈ twins ∨ errand.collection = environments)

private theorem twin_of_tried (ends : answering.manner.Ends twins course) :
    ∀ errand ∈ course.tried, errand.Twin := by
  refine ends.reached.only (fun errand top => ?_) fun errand id resource twin below member => ?_
  · obtain ⟨collection, listed, rfl⟩ := List.mem_map.mp top
    exact ⟨rfl, .inl (List.mem_of_mem_filter listed)⟩
  · obtain ⟨child, listed, rfl⟩ := List.mem_map.mp member
    have listed := List.mem_of_mem_filter listed
    obtain ⟨parent, collection, start⟩ := errand
    obtain ⟨rfl, here | rfl⟩ := twin
    · obtain ⟨label, path, _, rfl⟩ := naming_of_mem_twins here
      exact ⟨(visit_naming ..).1, .inr (List.mem_singleton.mp listed)⟩
    · cases listed

inductive FoundAmongTwins (find : Errand × Draft) : Prop
  | twin (children : find.1.children = [environments])
      (settled : (answering.manner.visit find.1).settled = 0) (name : find.2.fullName = "web")
  | environment (children : find.1.children = []) (name : find.2.fullName = "prod")

private theorem found_of_twin {find : Errand × Draft} (twin : find.1.Twin)
    (drafted : find.2 ∈ answering.manner.drafts find.1) : FoundAmongTwins find := by
  obtain ⟨⟨parent, collection, start⟩, draft⟩ := find
  have named := List.mem_map_of_mem (f := (·.fullName)) drafted
  obtain ⟨rfl, here | rfl⟩ := twin
  · obtain ⟨label, path, other, rfl⟩ := naming_of_mem_twins here
    rw [(visit_naming ..).2, if_neg other] at named
    exact .twin rfl (visit_naming ..).1 (List.mem_singleton.mp named)
  · rw [environments, (visit_naming ..).2, if_pos rfl] at named
    exact .environment rfl (List.mem_singleton.mp named)

private theorem concordant_twins (ends : answering.manner.Ends twins one)
    (others : answering.manner.Ends twins other) :
    answering.manner.Concordant (one.finds answering.manner ++ other.finds answering.manner) := by
  have found : ∀ find ∈ one.finds answering.manner ++ other.finds answering.manner,
      FoundAmongTwins find := by
    intro find member
    rcases List.mem_append.mp member with here | there
    · obtain ⟨tried, drafted⟩ := mem_finds_iff.mp here
      exact found_of_twin (twin_of_tried ends _ tried) drafted
    · obtain ⟨tried, drafted⟩ := mem_finds_iff.mp there
      exact found_of_twin (twin_of_tried others _ tried) drafted
  have apart : "web" ≠ "prod" := by decide
  intro first here second there same
  cases found first here with
  | twin children settled name =>
    cases found second there with
    | twin children' settled' =>
      refine ⟨by rw [children, children'], fun collection member name => ?_⟩
      rw [children] at member
      obtain rfl := List.mem_singleton.mp (List.mem_of_mem_filter member)
      unfold Manner.namesBelow
      rw [settled, settled']
      rfl
    | environment children' name' => exact absurd (name.symm.trans (same.trans name')) apart
  | environment children name =>
    cases found second there with
    | twin children' settled' name' => exact absurd (name'.symm.trans (same.symm.trans name)) apart
    | environment children' =>
      refine ⟨by rw [children, children'], fun collection member => ?_⟩
      rw [children] at member
      cases member

theorem shares_subtrees_of_twins :
    ∃ one other, answering.manner.Ends twins one ∧ answering.manner.Ends twins other ∧
      answering.manner.Concordant (one.finds answering.manner ++ other.finds answering.manner) ∧
      one.names = ["web", "prod"] ∧ (∀ name, name ∈ one.names ↔ name ∈ other.names) ∧
      ∀ name ∈ one.names, (one.triedUnder name).Perm (other.triedUnder name) := by
  obtain ⟨one, ends, outcome⟩ := answering.exists_course (fun _ => 0) twins
  obtain ⟨other, others, _⟩ := answering.exists_course (fun _ => 1) twins
  have concordant := concordant_twins ends others
  obtain ⟨_, same, tried⟩ := (Plan.shares_subtrees ends others).2 concordant
  have graph : one.graph = (answering.walkInOrder (fun _ => 0) twins).graph :=
    congrArg Outcome.graph outcome
  refine ⟨one, other, ends, others, concordant, ?_, same, tried⟩
  rw [Course.names, graph]
  decide +kernel

/-- Where only one of two branches has anything to open below a name, it is lost if the other one
is first, though no branch fails. -/
theorem loses_subtree_of_rivals :
    ∃ one other, answering.manner.Ends rivals one ∧ answering.manner.Ends rivals other ∧
      (one.outcome answering.manner).error = none ∧ (other.outcome answering.manner).error = none ∧
      one.names = ["web"] ∧ other.names = ["web", "prod"] ∧
      (one.outcome answering.manner).sent.map (·.path) = ["/teams", "/projects"] := by
  obtain ⟨one, ends, outcome⟩ := answering.exists_course (fun _ => 0) rivals
  obtain ⟨other, others, outcome'⟩ := answering.exists_course (fun _ => 1) rivals
  have graph : one.graph = (answering.walkInOrder (fun _ => 0) rivals).graph :=
    congrArg Outcome.graph outcome
  have graph' : other.graph = (answering.walkInOrder (fun _ => 1) rivals).graph :=
    congrArg Outcome.graph outcome'
  refine ⟨one, other, ends, others, ?_, ?_, ?_, ?_, ?_⟩
  · rw [outcome]
    decide +kernel
  · rw [outcome']
    decide +kernel
  · rw [Course.names, graph]
    decide +kernel
  · rw [Course.names, graph']
    decide +kernel
  · rw [outcome]
    decide +kernel

end CredentialReach.Walk
