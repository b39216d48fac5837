import CredentialReach.Proofs.SharedSubtrees

/-! What a walk finds, and by which collections. A branch only asks where the permission that its
collection needs is held, so every resource was listed by a collection of the tree whose permission
is held, and it is as that collection lists it. -/

namespace CredentialReach

inductive Collection.Throughout (good : Source → Prop) : Collection → Prop
  | of {source : Source} {children : List Collection} (here : good source)
      (below : ∀ child ∈ children, Throughout good child) : Throughout good (.of source children)

namespace Collection.Throughout

variable {good : Source → Prop} {collection : Collection}

theorem source (throughout : collection.Throughout good) : good collection.source := by
  cases throughout with
  | of here => exact here

theorem children (throughout : collection.Throughout good) :
    ∀ child ∈ collection.children, child.Throughout good := by
  cases throughout with
  | of _ below => exact below

end Collection.Throughout

namespace Walk

variable {manner : Manner} {plan : Plan} {course : Course} {collections : List Collection}

/-- A branch that may ask, in a tree of collections of which something holds throughout. -/
structure Errand.Guarded (good : Source → Prop) (permissions : PermissionSet) (errand : Errand) :
    Prop where
  throughout : errand.collection.Throughout good
  met : permissions.meets errand.collection.source.required = true

private theorem guarded_of_mem_errands {good : Source → Prop} {parent : Option (Nat × Resource)} {start : Nat}
    (throughout : ∀ collection ∈ collections, collection.Throughout good) {errand : Errand}
    (member : errand ∈ manner.errands parent start collections) :
    errand.Guarded good manner.permissions := by
  obtain ⟨listed, met⟩ := listed_of_mem_errands member
  exact ⟨throughout errand.collection listed, met⟩

/-- The guard and what holds of the tree go down from each branch to those that it opens. -/
theorem Manner.Ends.guarded {good : Source → Prop} (ends : manner.Ends collections course)
    (throughout : ∀ collection ∈ collections, collection.Throughout good) :
    ∀ errand ∈ course.tried, errand.Guarded good manner.permissions := by
  refine ends.reached.only ?_ ?_
  · intro errand top
    exact guarded_of_mem_errands throughout top
  · intro errand id resource guarded below opened
    exact guarded_of_mem_errands guarded.throughout.children opened

/-- Every resource of the graph is one that a branch found. -/
theorem Manner.Ends.exists_find (ends : manner.Ends collections course) {resource : Resource}
    (found : resource ∈ course.graph.resources) :
    ∃ errand ∈ course.tried, ∃ draft ∈ manner.drafts errand, resource = .place draft errand.resource := by
  rw [← ends.recorded.resources] at found
  obtain ⟨creator, created, rfl⟩ := List.mem_map.mp found
  obtain ⟨tried, drafted⟩ := mem_finds_iff.mp (ends.find_of_created created)
  exact ⟨creator.errand, tried, creator.draft, drafted, rfl⟩

/-- What a branch found stands in the reply to it. -/
theorem Plan.Answers.exists_reply {errand : Errand} {visit : Visit} {drafts : List Draft}
    (answers : plan.Answers errand visit drafts) {draft : Draft} (found : draft ∈ drafts) :
    ∃ request response, errand.request = .ok request ∧ (plan.reply errand request).outcome = .ok response ∧
      (200 ≤ response.status ∧ response.status < 300) ∧
      errand.collection.source.extract response.body errand.resource = .ok drafts := by
  cases answers with
  | extracted asks _ outcome successful extracts => exact ⟨_, _, asks, outcome, successful, extracts⟩
  | failed | denied | limited => cases found

end Walk

end CredentialReach
