import CredentialReach.Proofs.ListedItems

/-! What keys tell of the ancestors of an item. The way up leads from each resource to the one that
contains it. Where it comes to a resource, the key has the value that this resource has for the field:
one of its names, or a scalar of its metadata. Where the way ends before, or there is no scalar, the
key has no value. -/

namespace CredentialReach

/-- What an item in `parent` comes to by going up past `above` resources. -/
inductive Resource.Ancestor : (parent : Option Resource) → (above : Nat) → (owner : Resource) → Prop
  | nearest (owner : Resource) : Ancestor (some owner) 0 owner
  | further {parent owner : Resource} {above : Nat} (ancestor : Ancestor parent.parent? above owner) :
      Ancestor (some parent) (above + 1) owner

namespace Listing

open Resource (Ancestor)

variable {resource draft : Draft} {parent : Option Resource} {above : Nat} {field text : String}

private theorem lineage_parent? (resource : Resource) : lineage resource.parent? = resource.owners := by
  unfold Resource.parent? lineage
  cases resource.owners <;> rfl

private theorem getElem?_lineage_of_ancestor {owner : Resource} (ancestor : Ancestor parent above owner) :
    (lineage parent)[above]? = some owner.toDraft := by
  induction ancestor with
  | nearest => rfl
  | further _ ih =>
    rw [lineage, List.getElem?_cons_succ, ← lineage_parent?]
    exact ih

private theorem exists_ancestor (stands : (lineage parent)[above]? = some draft) :
    ∃ owner, Ancestor parent above owner ∧ owner.toDraft = draft := by
  induction above generalizing parent with
  | zero =>
    cases parent with
    | none => cases stands
    | some resource =>
      cases stands
      exact ⟨resource, .nearest resource, rfl⟩
  | succ above ih =>
    cases parent with
    | none => cases stands
    | some resource =>
      -- What stands behind the first of a lineage is the lineage of its parent.
      rw [lineage, List.getElem?_cons_succ, ← lineage_parent?] at stands
      obtain ⟨owner, ancestor, same⟩ := ih stands
      exact ⟨owner, .further ancestor, same⟩

/-- The text that a resource gives for a field. Its names go before metadata under the same key. -/
inductive Gives (resource : Draft) : (field text : String) → Prop
  | name : Gives resource "name" resource.name
  | fullName : Gives resource "fqn" resource.fullName
  | metadata {field text : String} {value : Json} (other : field ∉ ["name", "fqn"])
      (held : (field, value) ∈ resource.metadata.toList) (scalar : Scalar value text) :
      Gives resource field text

inductive Silent (resource : Draft) (field : String) : Prop
  | absent (other : field ∉ ["name", "fqn"]) (absent : field ∉ resource.metadata.names)
  | structured {value : Json} (other : field ∉ ["name", "fqn"])
      (held : (field, value) ∈ resource.metadata.toList) (structured : ∀ text, ¬ Scalar value text)

theorem fieldOf_other (other : field ∉ ["name", "fqn"]) (resource : Draft) :
    fieldOf resource field.toList = (resource.metadata.get? field).bind scalarText? := by
  unfold fieldOf
  rw [String.ofList_toList]
  split
  next => simp at other
  next => simp at other
  next => rfl

theorem fieldOf_eq_some_iff : fieldOf resource field.toList = some text ↔ Gives resource field text := by
  constructor
  · intro known
    by_cases own : field ∈ ["name", "fqn"]
    · rcases List.mem_pair.mp own with rfl | rfl
      · cases known
        exact .name
      · cases known
        exact .fullName
    · rw [fieldOf_other own, Option.bind_eq_some_iff] at known
      obtain ⟨value, held, scalar⟩ := known
      exact .metadata own (NameMap.mem_toList.mpr held) (scalarText?_eq_some_iff.mp scalar)
  · rintro (_ | _ | ⟨other, held, scalar⟩)
    · rfl
    · rfl
    · rw [fieldOf_other other, NameMap.mem_toList.mp held]
      exact scalarText?_eq_some_iff.mpr scalar

theorem fieldOf_eq_none_iff : fieldOf resource field.toList = none ↔ Silent resource field := by
  constructor
  · intro unknown
    -- The names of a resource are always there.
    have other : field ∉ ["name", "fqn"] := by
      intro own
      rcases List.mem_pair.mp own with rfl | rfl <;> cases unknown
    rw [fieldOf_other other] at unknown
    cases held : resource.metadata.get? field with
    | none =>
      apply Silent.absent other
      intro named
      simp [NameMap.mem_names, held] at named
    | some value =>
      apply Silent.structured other (NameMap.mem_toList.mpr held)
      intro text scalar
      rw [held, Option.bind_some, scalarText?_eq_some_iff.mpr scalar] at unknown
      cases unknown
  · rintro (⟨other, absent⟩ | ⟨other, held, structured⟩)
    · rw [fieldOf_other other, Option.not_isSome_iff_eq_none.mp (mt NameMap.mem_names.mpr absent)]
      rfl
    · rw [fieldOf_other other, NameMap.mem_toList.mp held, Option.bind_some]
      apply Option.eq_none_iff_forall_ne_some.mpr
      intro text known
      exact structured text (scalarText?_eq_some_iff.mp known)

private theorem ownerValue?_climbing_eq_some_iff (reached : ¬ upward <+: field.toList) :
    ownerValue? (lineage parent) (climbing above field.toList) = some text ↔
      ∃ owner, Ancestor parent above owner ∧ Gives owner.toDraft field text := by
  rw [ownerValue?_climbing _ _ reached, Option.bind_eq_some_iff]
  constructor
  · rintro ⟨draft, stands, known⟩
    obtain ⟨owner, ancestor, rfl⟩ := exists_ancestor stands
    exact ⟨owner, ancestor, fieldOf_eq_some_iff.mp known⟩
  · rintro ⟨owner, ancestor, gives⟩
    exact ⟨owner.toDraft, getElem?_lineage_of_ancestor ancestor, fieldOf_eq_some_iff.mpr gives⟩

private theorem ownerValue?_climbing_eq_none_iff (reached : ¬ upward <+: field.toList) :
    ownerValue? (lineage parent) (climbing above field.toList) = none ↔
      (lineage parent).length ≤ above ∨ ∃ owner, Ancestor parent above owner ∧ Silent owner.toDraft field := by
  rw [ownerValue?_climbing _ _ reached]
  constructor
  · intro unknown
    cases stands : (lineage parent)[above]? with
    | none => exact .inl (List.getElem?_eq_none_iff.mp stands)
    | some draft =>
      obtain ⟨owner, ancestor, rfl⟩ := exists_ancestor stands
      rw [stands] at unknown
      exact .inr ⟨owner, ancestor, fieldOf_eq_none_iff.mp unknown⟩
  · rintro (short | ⟨owner, ancestor, silent⟩)
    · rw [List.getElem?_eq_none short]
      rfl
    · rw [getElem?_lineage_of_ancestor ancestor]
      exact fieldOf_eq_none_iff.mpr silent

/-- A key goes up by one resource for each `parent.` and has the value that the resource there gives
for the field. It has none where there are too few resources or where that one is silent. A key that
does not go up never has a value. -/
theorem ownerValue?_asks_ancestor (parent : Option Resource) (above : Nat) {field : String}
    (reached : ¬ upward <+: field.toList) :
    (∀ text, ownerValue? (lineage parent) (climbing above field.toList) = some text ↔
      ∃ owner, Ancestor parent above owner ∧ Gives owner.toDraft field text) ∧
    (ownerValue? (lineage parent) (climbing above field.toList) = none ↔
      (lineage parent).length ≤ above ∨ ∃ owner, Ancestor parent above owner ∧ Silent owner.toDraft field) ∧
    ∀ key, ¬ upward <+: key → ownerValue? (lineage parent) key = none := by
  refine ⟨?_, ownerValue?_climbing_eq_none_iff reached, ?_⟩
  · intro text
    exact ownerValue?_climbing_eq_some_iff reached
  · intro key unprefixed
    exact ownerValue?_of_unprefixed unprefixed

/-- A project in an organization with metadata under a dotted key. -/
def web : Resource where
  name := "Web"
  fullName := "org/acme/project/web"
  type := "project"
  owners := [⟨"acme", "org/acme", "org", NameMap.ofList [("cost.center", .ofNat 7)]⟩]

theorem ownerValue?_asks_ancestor_of_web :
    ¬ upward <+: "cost.center".toList ∧
      ownerValue? (lineage (some web)) "parent.parent.cost.center".toList = some "7" ∧
      ownerValue? (lineage (some web)) "parent.cost.center".toList = none ∧
      ownerValue? (lineage (some web)) "parent.parent.parent.cost.center".toList = none ∧
      ownerValue? (lineage (some web)) "cost.center".toList = none := by
  have reached : ¬ upward <+: "cost.center".toList := by decide
  have other : "cost.center" ∉ ["name", "fqn"] := by decide
  obtain ⟨_, unknown, unprefixed⟩ := ownerValue?_asks_ancestor (some web) 0 reached
  obtain ⟨further, _⟩ := ownerValue?_asks_ancestor (some web) 1 reached
  obtain ⟨_, beyond, _⟩ := ownerValue?_asks_ancestor (some web) 2 reached
  refine ⟨reached, (further "7").mpr ⟨_, .further (.nearest _), ?_⟩, unknown.mpr (.inr ⟨web, .nearest web, ?_⟩),
    beyond.mpr (.inl (by decide)), unprefixed _ reached⟩
  · exact .metadata other (NameMap.mem_toList.mpr rfl) (.number (.integer 7))
  · exact .absent other (by decide)

end Listing

end CredentialReach
