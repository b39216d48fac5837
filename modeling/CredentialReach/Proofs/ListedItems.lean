import CredentialReach.Proofs.OwnerFields
import CredentialReach.Proofs.TemplateCuts

/-! What a listing makes of a reply. Either every item of the array is drafted, in its place,
or nothing is. An item needs an id, and the template of the full name values for its keys;
names and metadata may be missing. -/

namespace CredentialReach

namespace Listing

open Template

variable {listing : Listing} {parent : Option Resource} {item value : Json} {draft : Draft}
  {id name key text pointer body : String} {fault : CollectionFault}

inductive Scalar : Json → String → Prop
  | string (value : String) : Scalar (.string value) value
  | number (value : JsonNumber) : Scalar (.number value) (String.ofList (Json.numberText value))
  | yes : Scalar (.bool true) "true"
  | no : Scalar (.bool false) "false"

theorem scalarText?_eq_some_iff : scalarText? value = some text ↔ Scalar value text := by
  constructor
  · intro known
    cases value with
    | string value =>
      cases known
      exact .string _
    | number value =>
      cases known
      exact .number value
    | bool value =>
      cases value with
      | true =>
        cases known
        exact .yes
      | false =>
        cases known
        exact .no
    | null | array | object => cases known
  · intro scalar
    cases scalar <;> rfl

/-- A scalar with this text stands where the pointer says. -/
def HasText (item : Json) (pointer text : String) : Prop :=
  ∃ value, item.pointer? pointer = some value ∧ Scalar value text

theorem scalarAt?_eq_some_iff : scalarAt? pointer item = some text ↔ HasText item pointer text := by
  simp only [HasText, scalarAt?, Option.bind_eq_some_iff, scalarText?_eq_some_iff]

theorem scalarAt?_eq_none_iff : scalarAt? pointer item = none ↔ ∀ text, ¬ HasText item pointer text := by
  simp only [← scalarAt?_eq_some_iff, Option.eq_none_iff_forall_ne_some, ne_eq]

theorem HasText.unique {other : String} (has : HasText item pointer text) (again : HasText item pointer other) :
    text = other := by
  rw [← scalarAt?_eq_some_iff] at has again
  exact Option.some.inj (has.symm.trans again)

/-- An item goes by its id where there is no name for it. -/
inductive NamedBy (listing : Listing) (item : Json) (id : String) : String → Prop
  | name {pointer name : String} (given : listing.nameAt = some pointer)
      (known : HasText item pointer name) : NamedBy listing item id name
  | id (unnamed : ∀ pointer, listing.nameAt = some pointer → ∀ name, ¬ HasText item pointer name) :
      NamedBy listing item id id

theorem namedBy_iff :
    NamedBy listing item id name ↔ (listing.nameAt.bind (scalarAt? · item)).getD id = name := by
  constructor
  · rintro (⟨given, known⟩ | unnamed)
    · rw [given, Option.bind_some, scalarAt?_eq_some_iff.mpr known, Option.getD_some]
    · have nowhere : listing.nameAt.bind (scalarAt? · item) = none := by
        apply Option.bind_eq_none_iff.mpr
        intro pointer given
        exact scalarAt?_eq_none_iff.mpr (unnamed pointer given)
      rw [nowhere, Option.getD_none]
  · rintro rfl
    cases known : listing.nameAt.bind (scalarAt? · item) with
    | none =>
      apply NamedBy.id
      intro pointer given
      exact scalarAt?_eq_none_iff.mp (Option.bind_eq_none_iff.mp known pointer given)
    | some name =>
      obtain ⟨pointer, given, known⟩ := Option.bind_eq_some_iff.mp known
      exact .name given (scalarAt?_eq_some_iff.mp known)

/-- Of the fields with this key that the item has, the value of the last one. -/
def Carries (fields : List (String × String)) (item : Json) (key : String) (value : Json) : Prop :=
  ∃ before pointer after, fields = before ++ (key, pointer) :: after ∧
    item.pointer? pointer = some value ∧ ∀ later ∈ after, later.1 = key → item.pointer? later.2 = none

private theorem carries_append_iff (fields : List (String × String)) (field : String × String) :
    Carries (fields ++ [field]) item key value ↔
      field.1 = key ∧ item.pointer? field.2 = some value ∨
        (field.1 = key → item.pointer? field.2 = none) ∧ Carries fields item key value := by
  constructor
  · rintro ⟨before, pointer, after, whole, found, last⟩
    rcases List.eq_nil_or_concat after with rfl | ⟨earlier, final, rfl⟩
    · obtain ⟨rfl, same⟩ := List.append_inj' whole rfl
      cases same
      exact .inl ⟨rfl, found⟩
    · rw [List.concat_eq_append, ← List.cons_append, ← List.append_assoc] at whole
      obtain ⟨rfl, same⟩ := List.append_inj' whole rfl
      cases same
      exact .inr ⟨last _ (by simp), before, pointer, earlier, rfl, found, fun later member =>
        last later (by simp [member])⟩
  · rintro (⟨rfl, found⟩ | ⟨absent, before, pointer, after, rfl, found, last⟩)
    · exact ⟨fields, field.2, [], rfl, found, nofun⟩
    · refine ⟨before, pointer, after ++ [field], by simp, found, fun later member => ?_⟩
      rcases List.mem_append.mp member with earlier | final
      · exact last later earlier
      · exact List.mem_singleton.mp final ▸ absent

theorem get?_metadataOf_iff : (listing.metadataOf item).get? key = some value ↔
    Carries listing.metadata item key value := by
  unfold metadataOf
  induction listing.metadata using List.reverseRecOn with
  | nil => exact ⟨nofun, fun ⟨before, _, _, whole, _⟩ => by simp at whole⟩
  | append_singleton fields field ih =>
    rw [carries_append_iff, ← ih, List.filterMap_append]
    cases found : item.pointer? field.2 with
    | none => simp [found]
    | some other =>
      rw [List.filterMap_cons_some (b := (field.1, other)) (by simp [found]), List.filterMap_nil,
        NameMap.get?_ofList_append]
      by_cases same : key = field.1
      · simp [same, eq_comm]
      · simp [same, Ne.symm same]

theorem draft_of_unidentified (unidentified : ∀ id, ¬ HasText item listing.idAt id) :
    listing.draft parent item = .error (.noId listing.label listing.idAt) := by
  unfold Listing.draft
  rw [scalarAt?_eq_none_iff.mpr unidentified]
  rfl

theorem draft_of_identified (identified : HasText item listing.idAt id)
    (named : listing.NamedBy item id name) :
    listing.draft parent item =
      (⟨name, ·, listing.type, listing.metadataOf item⟩) <$> listing.fullNameOf id name parent := by
  unfold Listing.draft
  rw [scalarAt?_eq_some_iff.mpr identified]
  dsimp only
  rw [namedBy_iff.mp named]
  cases listing.fullNameOf id name parent <;> rfl

structure Describes (listing : Listing) (parent : Option Resource) (item : Json) (draft : Draft) : Prop where
  identified : ∃ id, HasText item listing.idAt id ∧ listing.NamedBy item id draft.name ∧
    listing.fullNameOf id draft.name parent = .ok draft.fullName
  type : draft.type = listing.type
  metadata : ∀ key value, draft.metadata.get? key = some value ↔ Carries listing.metadata item key value

theorem draft_eq_ok_iff : listing.draft parent item = .ok draft ↔ listing.Describes parent item draft := by
  constructor
  · intro drafted
    cases known : scalarAt? listing.idAt item with
    | none =>
      rw [draft_of_unidentified (scalarAt?_eq_none_iff.mp known)] at drafted
      cases drafted
    | some id =>
      have identified := scalarAt?_eq_some_iff.mp known
      have named : listing.NamedBy item id _ := namedBy_iff.mpr rfl
      rw [draft_of_identified identified named, map_eq_ok_iff] at drafted
      obtain ⟨fullName, whole, rfl⟩ := drafted
      exact ⟨⟨id, identified, named, whole⟩, rfl, fun _ _ => get?_metadataOf_iff⟩
  · rintro ⟨⟨id, identified, named, whole⟩, type, metadata⟩
    have carried : listing.metadataOf item = draft.metadata := NameMap.ext_get? fun key =>
      Option.ext fun value => get?_metadataOf_iff.trans (metadata key value).symm
    rw [draft_of_identified identified named, whole, carried, ← type]
    rfl

/-- The body is a document, and these are the items of the array in its place. -/
def Lists (listing : Listing) (body : String) (items : List Json) : Prop :=
  ∃ document, Json.parse body = .ok document ∧ document.pointer? listing.itemsAt = some (.array items)

theorem Lists.unique {items others : List Json} (lists : listing.Lists body items)
    (again : listing.Lists body others) : items = others := by
  obtain ⟨document, read, placed⟩ := lists
  obtain ⟨other, readAgain, placedAgain⟩ := again
  obtain rfl := Except.ok.inj (read.symm.trans readAgain)
  exact Json.array.inj (Option.some.inj (placed.symm.trans placedAgain))

private theorem extract_of_read {document : Json} (read : Json.parse body = .ok document) (parent : Option Resource) :
    listing.extract body parent = match (document.pointer? listing.itemsAt).bind Json.array? with
      | some items => items.mapM (listing.draft parent)
      | none => .error (.noArray listing.itemsAt) := by
  unfold extract
  rw [read]
  cases placed : (document.pointer? listing.itemsAt).bind Json.array? with
  | none =>
    simp only [Except.mapError, bind, Except.bind, placed]
    rfl
  | some items => simp only [Except.mapError, bind, Except.bind, placed]

theorem extract_of_lists {items : List Json} (lists : listing.Lists body items) (parent : Option Resource) :
    listing.extract body parent = items.mapM (listing.draft parent) := by
  obtain ⟨document, read, placed⟩ := lists
  rw [extract_of_read read, placed]
  rfl

inductive Misread (listing : Listing) (body : String) : CollectionFault → Prop
  | malformed {fault : JsonFault} (unread : Json.parse body = .error fault) :
      Misread listing body (.malformed fault)
  | noArray {document : Json} (read : Json.parse body = .ok document)
      (absent : ∀ items, document.pointer? listing.itemsAt ≠ some (.array items)) :
      Misread listing body (.noArray listing.itemsAt)

theorem Misread.extract (misread : listing.Misread body fault) (parent : Option Resource) :
    listing.extract body parent = .error fault := by
  cases misread with
  | malformed unread =>
    unfold Listing.extract
    rw [unread]
    rfl
  | @noArray document read absent =>
    have nothing : (document.pointer? listing.itemsAt).bind Json.array? = none := by
      refine Option.bind_eq_none_iff.mpr fun value found => ?_
      cases value with
      | array items => exact absurd found (absent items)
      | null | bool | number | string | object => rfl
    rw [extract_of_read read, nothing]

private theorem lists_or_misread (listing : Listing) (body : String) :
    (∃ items, listing.Lists body items) ∨ ∃ fault, listing.Misread body fault := by
  cases read : Json.parse body with
  | error fault => exact .inr ⟨_, .malformed read⟩
  | ok document =>
    by_cases placed : ∃ items, document.pointer? listing.itemsAt = some (.array items)
    · obtain ⟨items, placed⟩ := placed
      exact .inl ⟨items, document, read, placed⟩
    · exact .inr ⟨_, .noArray read (not_exists.mp placed)⟩

theorem extract_eq_ok_iff {drafts : List Draft} :
    listing.extract body parent = .ok drafts ↔
      ∃ items, listing.Lists body items ∧ List.Forall₂ (listing.Describes parent) items drafts := by
  have described (items : List Json) : items.mapM (listing.draft parent) = .ok drafts ↔
      List.Forall₂ (listing.Describes parent) items drafts := by
    simp only [mapM_eq_ok_iff, draft_eq_ok_iff]
  constructor
  · intro extracts
    rcases listing.lists_or_misread body with ⟨items, lists⟩ | ⟨fault, misread⟩
    · rw [extract_of_lists lists, described] at extracts
      exact ⟨items, lists, extracts⟩
    · rw [misread.extract] at extracts
      cases extracts
  · rintro ⟨items, lists, described'⟩
    rw [extract_of_lists lists, described]
    exact described'

/-- All that a listing yields is of its type. -/
theorem type_of_extract {drafts : List Draft} (extracts : listing.extract body parent = .ok drafts) :
    ∀ draft ∈ drafts, draft.type = listing.type := by
  obtain ⟨items, _, described⟩ := extract_eq_ok_iff.mp extracts
  intro draft member
  obtain ⟨item, _, describes⟩ := exists_related described.flip member
  exact describes.type

end Listing

end CredentialReach
