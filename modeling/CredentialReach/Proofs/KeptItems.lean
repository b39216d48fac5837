import CredentialReach.Proofs.FailedBranches
import CredentialReach.Proofs.GuardedWalks
import CredentialReach.Proofs.ListedItems
import CredentialReach.Proofs.TextMarks

/-! What a walk keeps of the items that it is told of. Without a template, the full name of an
item is put together from the full name of the resource above, a type and the text of an id, with
slashes between them. Where neither types nor ids have slashes it can be taken apart again, so
that items from different branches have different names, and each is kept as a resource. -/

namespace CredentialReach

namespace Listing

variable {listing other : Listing} {parent owner : Option Resource} {id otherId name : String}

def defaultName (listing : Listing) (parent : Option Resource) (id : String) : String :=
  match parent with
  | none => s!"{listing.type}/{id}"
  | some parent => s!"{parent.fullName}/{listing.type}/{id}"

private theorem fullNameOf_of_untemplated (untemplated : listing.fullName = none) :
    listing.fullNameOf id name parent = .ok (listing.defaultName parent id) := by
  unfold fullNameOf defaultName
  rw [untemplated]
  cases parent <;> rfl

def lead : Option Resource → List Char
  | none => []
  | some parent => parent.fullName.toList ++ ['/']

theorem toList_defaultName : (listing.defaultName parent id).toList =
    (lead parent ++ listing.type.toList) ++ '/' :: id.toList := by
  cases parent <;> simp [defaultName, lead] <;> rfl

/-- Below one resource, only the same ids of one type give the same name. -/
theorem defaultName_inj (types : listing.type = other.type) :
    listing.defaultName parent id = other.defaultName parent otherId ↔ id = otherId := by
  rw [← String.toList_inj, toList_defaultName, toList_defaultName, types, List.append_cancel_left_eq,
    List.cons.injEq, String.toList_inj, and_iff_right rfl]

/-- Below one resource, types without slashes can be read off. -/
theorem type_eq_of_defaultName_eq (plain : '/' ∉ listing.type.toList) (otherPlain : '/' ∉ other.type.toList)
    (same : listing.defaultName parent id = other.defaultName parent otherId) : listing.type = other.type := by
  rw [← String.toList_inj, toList_defaultName, toList_defaultName, List.append_assoc, List.append_assoc,
    List.append_cancel_left_eq] at same
  exact String.toList_inj.mp (Text.append_inj_of_separator plain otherPlain (by simp) (by simp) same).1

/-- A type and an id that can be told apart where a slash is between them. -/
def Unslashed (listing : Listing) (id : String) : Prop := '/' ∉ listing.type.toList ∧ '/' ∉ id.toList

private theorem eq_of_defaultName_eq (plain : listing.Unslashed id) (otherPlain : other.Unslashed otherId)
    (same : listing.defaultName parent id = other.defaultName owner otherId) :
    parent.map (·.fullName) = owner.map (·.fullName) ∧ listing.type = other.type ∧ id = otherId := by
  rw [← String.toList_inj, toList_defaultName, toList_defaultName] at same
  obtain ⟨fronts, ids⟩ := Text.append_inj_of_last_separator plain.2 otherPlain.2 same
  cases parent with
  | none =>
    cases owner with
    | none => exact ⟨rfl, String.toList_inj.mp fronts, String.toList_inj.mp ids⟩
    | some owner =>
      have inside : '/' ∈ lead none ++ listing.type.toList := by
        rw [fronts]
        simp [lead]
      exact absurd inside plain.1
  | some parent =>
    cases owner with
    | none =>
      have inside : '/' ∈ lead none ++ other.type.toList := by
        rw [← fronts]
        simp [lead]
      exact absurd inside otherPlain.1
    | some owner =>
      simp only [lead, List.append_assoc, List.singleton_append] at fronts
      obtain ⟨owners, types⟩ := Text.append_inj_of_last_separator plain.1 otherPlain.1 fronts
      exact ⟨congrArg some (String.toList_inj.mp owners), String.toList_inj.mp types, String.toList_inj.mp ids⟩

end Listing

/-- Trees of listings without templates for names, in which listings side by side are of different
types. -/
inductive Collection.DefaultNamed : List Collection → Prop
  | level {entries : List (Listing × List Collection)}
      (untemplated : ∀ entry ∈ entries, entry.1.fullName = none)
      (apart : (entries.map (·.1.type)).Nodup) (below : ∀ entry ∈ entries, DefaultNamed entry.2) :
      DefaultNamed (entries.map fun entry => entry.1.above entry.2)

def Collection.Yields (collection : Collection) (type : String) : Prop :=
  ∃ body parent drafts, collection.source.extract body parent = .ok drafts ∧ ∃ draft ∈ drafts, draft.type = type

namespace Collection.DefaultNamed

variable {level : List Collection} {one other : Collection}

private theorem exists_listing (named : DefaultNamed level) (member : one ∈ level) :
    ∃ listing : Listing, listing.fullName = none ∧ one = listing.above one.children ∧ DefaultNamed one.children := by
  obtain ⟨untemplated, _, below⟩ := named
  obtain ⟨entry, listed, rfl⟩ := List.mem_map.mp member
  exact ⟨entry.1, untemplated entry listed, rfl, below entry listed⟩

private theorem eq_of_yields (named : DefaultNamed level) (here : one ∈ level) (there : other ∈ level)
    {type : String}
    (yields : one.Yields type) (otherYields : other.Yields type) : one = other := by
  obtain ⟨_, apart, _⟩ := named
  obtain ⟨entry, listed, rfl⟩ := List.mem_map.mp here
  obtain ⟨otherEntry, otherListed, rfl⟩ := List.mem_map.mp there
  have typed {entry : Listing × List Collection} (yields : (entry.1.above entry.2).Yields type) :
      entry.1.type = type := by
    obtain ⟨_, _, _, extracts, draft, member, typed⟩ := yields
    exact (Listing.type_of_extract extracts draft member).symm.trans typed
  rw [List.inj_on_of_nodup_map apart listed otherListed ((typed yields).trans (typed otherYields).symm)]

end Collection.DefaultNamed

namespace Walk

variable {plan : Plan} {course : Course} {collections : List Collection} {errand other : Errand}
  {listing otherListing : Listing} {item otherItem : Json} {id otherId : String} {draft : Draft}

/-- A branch is told of an item: it asks a listing that has no template for names, and the item stands
in the array of the reply. -/
structure Plan.Lists (plan : Plan) (errand : Errand) (listing : Listing) (item : Json) (id : String) : Prop where
  asked : errand.collection = listing.above errand.children
  untemplated : listing.fullName = none
  replied : ∃ request response items, errand.request = .ok request ∧
    (plan.reply errand request).outcome = .ok response ∧ (200 ≤ response.status ∧ response.status < 300) ∧
    listing.Lists response.body items ∧ item ∈ items
  identified : Listing.HasText item listing.idAt id

/-- A reply that is read in full. -/
theorem Plan.Answers.extracts {visit : Visit} {drafts : List Draft} (answers : plan.Answers errand visit drafts)
    (unfailing : visit.failure = none) {request : Request} {response : Response}
    (asks : errand.request = .ok request) (outcome : (plan.reply errand request).outcome = .ok response)
    (successful : 200 ≤ response.status ∧ response.status < 300) :
    errand.collection.source.extract response.body errand.resource = .ok drafts := by
  cases answers with
  | failed => cases unfailing
  | extracted asked _ replied _ extracts =>
    obtain rfl := Except.ok.inj (asks.symm.trans asked)
    obtain rfl := Except.ok.inj (outcome.symm.trans replied)
    exact extracts
  | denied asked _ replied denied =>
    obtain rfl := Except.ok.inj (asks.symm.trans asked)
    obtain rfl := Except.ok.inj (outcome.symm.trans replied)
    simp only [List.mem_cons, List.not_mem_nil, or_false] at denied
    omega
  | limited asked _ replied limited =>
    obtain rfl := Except.ok.inj (asks.symm.trans asked)
    obtain rfl := Except.ok.inj (outcome.symm.trans replied)
    omega

/-- Every item is drafted, and is named by default. -/
theorem Plan.Lists.exists_draft (lists : plan.Lists errand listing item id)
    (unfailing : (plan.manner.visit errand).failure = none) :
    ∃ draft ∈ plan.manner.drafts errand, listing.Describes errand.resource item draft ∧
      draft.fullName = listing.defaultName errand.resource id := by
  obtain ⟨request, response, items, asks, outcome, successful, listed, member⟩ := lists.replied
  have extracts := (plan.answers errand).extracts unfailing asks outcome successful
  rw [lists.asked] at extracts
  obtain ⟨others, again, described⟩ := Listing.extract_eq_ok_iff.mp extracts
  obtain rfl := listed.unique again
  obtain ⟨draft, drafted, describes⟩ := exists_related described member
  obtain ⟨known, identified, _, whole⟩ := describes.identified
  obtain rfl := lists.identified.unique identified
  rw [Listing.fullNameOf_of_untemplated lists.untemplated] at whole
  exact ⟨draft, drafted, describes, (Except.ok.inj whole).symm⟩

private theorem Plan.exists_lists (drafted : draft ∈ plan.manner.drafts errand)
    (asked : errand.collection = listing.above errand.children) (untemplated : listing.fullName = none) :
    ∃ item id, plan.Lists errand listing item id ∧ draft.fullName = listing.defaultName errand.resource id := by
  obtain ⟨request, response, asks, outcome, successful, extracts⟩ := (plan.answers errand).exists_reply drafted
  rw [asked] at extracts
  obtain ⟨items, listed, described⟩ := Listing.extract_eq_ok_iff.mp extracts
  obtain ⟨item, member, describes⟩ := exists_related described.flip drafted
  obtain ⟨id, identified, _, whole⟩ := describes.identified
  rw [Listing.fullNameOf_of_untemplated untemplated] at whole
  exact ⟨item, id, ⟨asked, untemplated, ⟨request, response, items, asks, outcome, successful, listed, member⟩,
    identified⟩, (Except.ok.inj whole).symm⟩

theorem Plan.Lists.yields (lists : plan.Lists errand listing item id)
    (unfailing : (plan.manner.visit errand).failure = none) : errand.collection.Yields listing.type := by
  obtain ⟨draft, drafted, describes, _⟩ := lists.exists_draft unfailing
  obtain ⟨_, _, _, _, _, extracts⟩ := (plan.answers errand).exists_reply drafted
  exact ⟨_, _, _, extracts, draft, drafted, describes.type⟩

/-- What an item is called does not hang on which listing describes the collection. -/
theorem Plan.Lists.relist (lists : plan.Lists errand listing item id)
    (unfailing : (plan.manner.visit errand).failure = none)
    (asked : errand.collection = otherListing.above errand.children) (untemplated : otherListing.fullName = none) :
    listing.type = otherListing.type ∧ ∃ otherItem, plan.Lists errand otherListing otherItem id := by
  obtain ⟨draft, drafted, describes, name⟩ := lists.exists_draft unfailing
  obtain ⟨otherItem, otherId, otherLists, otherName⟩ := Plan.exists_lists drafted asked untemplated
  obtain ⟨_, _, _, _, _, extracts⟩ := (plan.answers errand).exists_reply drafted
  rw [asked] at extracts
  have types : listing.type = otherListing.type :=
    describes.type.symm.trans (Listing.type_of_extract extracts draft drafted)
  obtain rfl := (Listing.defaultName_inj types).mp (name.symm.trans otherName)
  exact ⟨types, otherItem, otherLists⟩

/-- The branch has a resource of its own under the name, and all that may be asked for below it was. -/
def Course.Keeps (manner : Manner) (course : Course) (errand : Errand) (name : String) : Prop :=
  ∃ creator ∈ course.created, creator.errand = errand ∧ creator.draft.fullName = name ∧
    creator.resource ∈ course.graph.resources ∧ (course.triedUnder name).Perm (manner.permitted errand.children)

/-- Two branches that were told of items with the same name. -/
structure Course.Alike (plan : Plan) (course : Course) (errand other : Errand) : Prop where
  tried : errand ∈ course.tried
  otherTried : other ∈ course.tried
  told : ∃ listing otherListing item otherItem id otherId, plan.Lists errand listing item id ∧
    plan.Lists other otherListing otherItem otherId ∧
    listing.defaultName errand.resource id = otherListing.defaultName other.resource otherId

def Course.TypesUnslashed (plan : Plan) (course : Course) : Prop :=
  ∀ errand ∈ course.tried, ∀ listing item id, plan.Lists errand listing item id → '/' ∉ listing.type.toList

def Course.Unslashed (plan : Plan) (course : Course) : Prop :=
  ∀ errand ∈ course.tried, ∀ listing item id, plan.Lists errand listing item id → listing.Unslashed id

private theorem Manner.Ends.listing_of_tried {manner : Manner} (ends : manner.Ends collections course)
    (named : Collection.DefaultNamed collections) :
    ∀ errand ∈ course.tried, ∃ listing : Listing, listing.fullName = none ∧
      errand.collection = listing.above errand.children ∧ Collection.DefaultNamed errand.children := by
  refine ends.reached.only ?_ ?_
  · exact fun errand top => named.exists_listing (listed_of_mem_errands top).1
  · rintro errand id resource ⟨_, _, _, below⟩ child opened
    exact below.exists_listing (listed_of_mem_errands opened).1

section Level

variable {parent : Option (Nat × Resource)} {start : Nat} {level : List Collection}

private theorem eq_of_mem_errands (named : Collection.DefaultNamed level)
    (here : errand ∈ plan.manner.errands parent start level) (there : other ∈ plan.manner.errands parent start level)
    (yields : errand.collection.Yields listing.type) (otherYields : other.collection.Yields listing.type) :
    errand = other := by
  have same := named.eq_of_yields (listed_of_mem_errands here).1 (listed_of_mem_errands there).1 yields otherYields
  obtain ⟨collection, _, rfl⟩ := List.mem_map.mp here
  obtain ⟨otherCollection, _, rfl⟩ := List.mem_map.mp there
  have equal : collection = otherCollection := same
  rw [equal]

theorem resource_of_mem_errands (member : errand ∈ plan.manner.errands parent start level) :
    errand.resource = parent.map Prod.snd := congrArg (Option.map Prod.snd) (parent_of_mem_errands member)

end Level

section Kept

variable (ends : plan.manner.Ends collections course) (named : Collection.DefaultNamed collections)
  (unfailing : ∀ errand ∈ course.tried, (plan.manner.visit errand).failure = none)
include ends named unfailing

/-- Names of resources are different, and so are the types of the collections right below one resource. -/
theorem errand_eq_of_owner_of_type (tried : errand ∈ course.tried) (otherTried : other ∈ course.tried)
    (lists : plan.Lists errand listing item id) (otherLists : plan.Lists other otherListing otherItem otherId)
    (owners : errand.resource.map (·.fullName) = other.resource.map (·.fullName))
    (types : listing.type = otherListing.type) : errand = other := by
  have yields := lists.yields (unfailing errand tried)
  have otherYields := otherLists.yields (unfailing other otherTried)
  rw [← types] at otherYields
  rcases ends.accounts.opened_of_tried tried with top | ⟨opener, created, opened⟩ <;>
    rcases ends.accounts.opened_of_tried otherTried with otherTop | ⟨otherOpener, otherCreated, otherOpened⟩
  · exact eq_of_mem_errands named top otherTop yields otherYields
  · rw [resource_of_mem_errands top, resource_of_mem_errands otherOpened] at owners
    cases owners
  · rw [resource_of_mem_errands opened, resource_of_mem_errands otherTop] at owners
    cases owners
  · rw [resource_of_mem_errands opened, resource_of_mem_errands otherOpened] at owners
    have above : opener.draft.fullName = otherOpener.draft.fullName :=
      opener.fullName_resource.symm.trans ((Option.some.inj owners).trans otherOpener.fullName_resource)
    obtain rfl := ends.creator_unique created otherCreated above
    have opening := ends.accounts.tried_of_delivery (List.mem_of_mem_filter created)
    obtain ⟨_, _, _, below⟩ := ends.listing_of_tried named opener.errand opening
    exact eq_of_mem_errands below opened otherOpened yields otherYields

private theorem eq_of_alike_of_unslashed (unslashed : course.Unslashed plan)
    (alike : course.Alike plan errand other) :
    errand = other := by
  obtain ⟨tried, otherTried, listing, otherListing, item, otherItem, id, otherId, lists, otherLists, same⟩ := alike
  obtain ⟨owners, types, _⟩ := Listing.eq_of_defaultName_eq (unslashed errand tried listing item id lists)
    (unslashed other otherTried otherListing otherItem otherId otherLists) same
  exact errand_eq_of_owner_of_type ends named unfailing tried otherTried lists otherLists owners types

private theorem eq_of_alike_of_parent (unslashed : course.TypesUnslashed plan)
    (alike : course.Alike plan errand other)
    (siblings : errand.parent = other.parent) : errand = other := by
  obtain ⟨tried, otherTried, listing, otherListing, item, otherItem, id, otherId, lists, otherLists, same⟩ := alike
  have resources : errand.resource = other.resource := congrArg (Option.map Prod.snd) siblings
  rw [resources] at same
  have types := Listing.type_eq_of_defaultName_eq (unslashed errand tried listing item id lists)
    (unslashed other otherTried otherListing otherItem otherId otherLists) same
  exact errand_eq_of_owner_of_type ends named unfailing tried otherTried lists otherLists
    (congrArg (Option.map (·.fullName)) resources) types

/-- What is found under a name of its own is kept, and what is kept has a name of its own. -/
theorem keeps_iff_apart : (∀ errand ∈ course.tried, ∀ listing item id,
      plan.Lists errand listing item id →
        course.Keeps plan.manner errand (listing.defaultName errand.resource id)) ↔
    ∀ errand other, course.Alike plan errand other → errand = other := by
  constructor
  · rintro keeps errand other
      ⟨tried, otherTried, listing, otherListing, item, otherItem, id, otherId, lists, otherLists, same⟩
    obtain ⟨creator, created, rfl, name, _⟩ := keeps errand tried listing item id lists
    obtain ⟨otherCreator, otherCreated, rfl, otherName, _⟩ :=
      keeps other otherTried otherListing otherItem otherId otherLists
    rw [ends.creator_unique created otherCreated (name.trans (same.trans otherName.symm))]
  · intro apart errand tried listing item id lists
    obtain ⟨draft, drafted, _, name⟩ := lists.exists_draft (unfailing errand tried)
    have found : (errand, draft) ∈ course.finds plan.manner := mem_finds_iff.mpr ⟨tried, drafted⟩
    obtain ⟨creator, created, same, below⟩ := ends.creator_of_find found
    obtain ⟨creating, delivered⟩ := mem_finds_iff.mp (ends.find_of_created created)
    obtain ⟨other, untemplated, asked, _⟩ := ends.listing_of_tried named creator.errand creating
    obtain ⟨otherItem, otherId, otherLists, otherName⟩ := Plan.exists_lists delivered asked untemplated
    obtain rfl := apart creator.errand errand ⟨creating, tried, other, listing, otherItem, item, otherId, id,
      otherLists, lists, otherName.symm.trans (same.trans name)⟩
    have stored : creator.resource ∈ course.graph.resources :=
      ends.recorded.resources ▸ List.mem_map_of_mem created
    exact ⟨creator, created, rfl, same.trans name, stored, name ▸ below⟩

end Kept

/-- Where no branch fails, every item that a branch is told of is drafted under its default name, and
one branch gives different ids different names. The items are kept, each as a resource of its branch,
if and only if different branches give different names. They do if types and ids have no slashes, and
for types without slashes they do below one resource. -/
theorem Plan.keeps_items_named_apart (ends : plan.manner.Ends collections course)
    (named : Collection.DefaultNamed collections) (unfailing : (course.outcome plan.manner).error = none) :
    (∀ errand ∈ course.tried, ∀ listing item id, plan.Lists errand listing item id →
      (∃ draft, (errand, draft) ∈ course.finds plan.manner ∧ listing.Describes errand.resource item draft ∧
        draft.fullName = listing.defaultName errand.resource id) ∧
      ∀ otherId, listing.defaultName errand.resource id = listing.defaultName errand.resource otherId ↔
        id = otherId) ∧
    ((∀ errand ∈ course.tried, ∀ listing item id, plan.Lists errand listing item id →
        course.Keeps plan.manner errand (listing.defaultName errand.resource id)) ↔
      ∀ errand other, course.Alike plan errand other → errand = other) ∧
    (course.Unslashed plan → ∀ errand other, course.Alike plan errand other → errand = other) ∧
    (course.TypesUnslashed plan → ∀ errand other, course.Alike plan errand other →
      errand.parent = other.parent → errand = other) := by
  have silent := (error_outcome_iff plan.manner course).mp unfailing
  have unfailing : ∀ errand ∈ course.tried, (plan.manner.visit errand).failure = none := fun errand tried =>
    Option.map_eq_none_iff.mp (silent errand tried)
  refine ⟨fun errand tried listing item id lists => ⟨?_, fun otherId => Listing.defaultName_inj rfl⟩,
    keeps_iff_apart ends named unfailing,
    fun unslashed _ _ => eq_of_alike_of_unslashed ends named unfailing unslashed,
    fun unslashed _ _ => eq_of_alike_of_parent ends named unfailing unslashed⟩
  obtain ⟨draft, drafted, describes, name⟩ := lists.exists_draft (unfailing errand tried)
  exact ⟨draft, mem_finds_iff.mpr ⟨tried, drafted⟩, describes, name⟩

def spaces : Listing :=
  { label := "projects", type := "project", path := "/projects", itemsAt := "/items", idAt := "/key" }

def stages : Listing :=
  { label := "environments", type := "environment", path := "/projects/\x7bparent.name\x7d/environments",
    itemsAt := "/items", idAt := "/key" }

def staged : List Collection := [spaces.above [stages.above []]]

private theorem defaultNamed_staged : Collection.DefaultNamed staged := by
  have stagesNamed : Collection.DefaultNamed [stages.above []] :=
    @Collection.DefaultNamed.level [(stages, [])] (by simp [stages]) (by simp)
      (by simpa using @Collection.DefaultNamed.level [] (by simp) (by simp) (by simp))
  exact @Collection.DefaultNamed.level [(spaces, [stages.above []])] (by simp [spaces]) (by simp)
    (by simpa using stagesNamed)

def keyed (ids : List String) : String :=
  "\x7b\"items\":[" ++ ",".intercalate (ids.map fun id => "\x7b\"key\":" ++ id ++ "\x7d") ++ "]\x7d"

def listingIds (ids : String → List String) : Plan where
  replies _ _ _ request := ⟨0, .ok ⟨200, keyed (ids request.path)⟩⟩
  permissions := ∅
  deadline := 100
  backoff := 0

def repetitive : Plan := listingIds fun _ => ["\"web\"", "1"]

private theorem ids_of_repetitive {items : List Json} (place : listing.itemsAt = "/items")
    (lists : listing.Lists (keyed ["\"web\"", "1"]) items) :
    items.map (Listing.scalarAt? "/key") = [some "web", some "1"] := by
  obtain ⟨document, read, placed⟩ := lists
  have known : ((Json.parse (keyed ["\"web\"", "1"])).toOption.bind fun document =>
      (document.pointer? "/items").bind Json.array?).map (·.map (Listing.scalarAt? "/key")) =
        some [some "web", some "1"] := by decide +kernel
  rw [place] at placed
  rw [read] at known
  simpa [Except.toOption, placed, Json.array?] using known

private theorem asked_of_staged (ends : plan.manner.Ends staged course) : ∀ errand ∈ course.tried,
    errand.collection = spaces.above [stages.above []] ∨ errand.collection = stages.above [] := by
  refine ends.reached.only ?_ ?_
  · intro errand top
    exact .inl (List.mem_singleton.mp (listed_of_mem_errands top).1)
  · rintro ⟨_, _, _⟩ id resource (rfl | rfl) below opened
    · exact .inr (List.mem_singleton.mp (listed_of_mem_errands opened).1)
    · cases (listed_of_mem_errands opened).1

private theorem unslashed_repetitive (ends : repetitive.manner.Ends staged course)
    (unfailing : ∀ errand ∈ course.tried, (repetitive.manner.visit errand).failure = none) :
    course.Unslashed repetitive := by
  intro errand tried listing item id lists
  have named : ∃ other : Listing, errand.collection = other.above errand.children ∧ other.fullName = none ∧
      '/' ∉ other.type.toList ∧ other.itemsAt = "/items" ∧ other.idAt = "/key" := by
    obtain ⟨_, collection, _⟩ := errand
    rcases asked_of_staged ends _ tried with same | same
    · obtain rfl : collection = _ := same
      exact ⟨spaces, rfl, rfl, by decide, rfl, rfl⟩
    · obtain rfl : collection = _ := same
      exact ⟨stages, rfl, rfl, by decide, rfl, rfl⟩
  obtain ⟨other, asked, untemplated, plain, place, key⟩ := named
  obtain ⟨types, otherItem, again⟩ := lists.relist (unfailing errand tried) asked untemplated
  obtain ⟨_, response, items, _, outcome, _, listed, member⟩ := again.replied
  cases outcome
  have identified := List.mem_map_of_mem (f := Listing.scalarAt? "/key") member
  rw [ids_of_repetitive place listed, ← key, Listing.scalarAt?_eq_some_iff.mpr again.identified] at identified
  refine ⟨types ▸ plain, ?_⟩
  rcases List.mem_pair.mp identified with same | same
  · cases same
    decide
  · cases same
    decide

theorem keeps_items_named_apart_of_keys : ∃ course, repetitive.manner.Ends staged course ∧
    course.names = ["project/web", "project/1", "project/web/environment/web", "project/web/environment/1",
      "project/1/environment/web", "project/1/environment/1"] ∧
    ∀ errand ∈ course.tried, ∀ listing item id, repetitive.Lists errand listing item id →
      course.Keeps repetitive.manner errand (listing.defaultName errand.resource id) := by
  obtain ⟨course, ends, outcome⟩ := repetitive.exists_course State.earliest staged
  have graph : course.graph = (repetitive.walkInOrder State.earliest staged).graph :=
    congrArg Outcome.graph outcome
  have silent : (course.outcome repetitive.manner).error = none := by
    rw [outcome]
    decide +kernel
  have unfailing := (error_outcome_iff repetitive.manner course).mp silent
  obtain ⟨_, keeps, apart, _⟩ := Plan.keeps_items_named_apart ends defaultNamed_staged silent
  refine ⟨course, ends, ?_, keeps.mpr (apart (unslashed_repetitive ends fun errand tried =>
    Option.map_eq_none_iff.mp (unfailing errand tried)))⟩
  rw [Course.names, graph]
  decide +kernel

def slashed : Plan := listingIds fun path =>
  if path = "/projects" then ["\"web\"", "\"web/environment/prod\""]
  else if path = "/projects/web/environments" then ["\"prod\""] else []

def numbered : Plan := listingIds fun _ => ["1", "\"1\""]

/-- An id with slashes in it takes the name of an item further down, and a number that of a text. -/
theorem loses_items_named_alike :
    Collection.DefaultNamed staged ∧
    (∃ course, slashed.manner.Ends staged course ∧ (course.outcome slashed.manner).error = none ∧
      (course.outcome slashed.manner).sent.map (·.path) = ["/projects", "/projects/web/environments",
        "/projects/web/environment/prod/environments"] ∧
      course.graph.resources.map (fun resource => (resource.type, resource.fullName)) =
        [("project", "project/web"), ("project", "project/web/environment/prod")]) ∧
    ∃ course, numbered.manner.Ends staged course ∧ (course.outcome numbered.manner).error = none ∧
      course.names = ["project/1", "project/1/environment/1"] := by
  refine ⟨defaultNamed_staged, ?_, ?_⟩
  · obtain ⟨course, ends, outcome⟩ := slashed.exists_course State.earliest staged
    have graph : course.graph = (slashed.walkInOrder State.earliest staged).graph := congrArg Outcome.graph outcome
    refine ⟨course, ends, ?_, ?_, ?_⟩
    · rw [outcome]
      decide +kernel
    · rw [outcome]
      decide +kernel
    · rw [graph]
      decide +kernel
  · obtain ⟨course, ends, outcome⟩ := numbered.exists_course State.earliest staged
    have graph : course.graph = (numbered.walkInOrder State.earliest staged).graph := congrArg Outcome.graph outcome
    refine ⟨course, ends, ?_, ?_⟩
    · rw [outcome]
      decide +kernel
    · rw [Course.names, graph]
      decide +kernel

end Walk

end CredentialReach
