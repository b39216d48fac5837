import Mathlib.Data.List.Forall2

/-! Lists item by item. Reading a list stops at the first item that cannot be read, and an item is
picked out by its key if no other one has it. -/

namespace CredentialReach

/-- Of two lists that are related item by item, each item has a partner. -/
theorem exists_related {α β : Type} {related : α → β → Prop} {items : List α} {others : List β}
    (whole : List.Forall₂ related items others) {item : α} (member : item ∈ items) :
    ∃ other ∈ others, related item other := by
  induction whole with
  | nil => cases member
  | cons first _ ih =>
    rcases List.mem_cons.mp member with rfl | later
    · exact ⟨_, List.mem_cons_self, first⟩
    · obtain ⟨other, listed, same⟩ := ih later
      exact ⟨other, List.mem_cons_of_mem _ listed, same⟩

section Read

variable {α β ε : Type} {read : α → Except ε β}

theorem map_eq_ok_iff {change : α → β} {whole : Except ε α} {value : β} :
    change <$> whole = .ok value ↔ ∃ first, whole = .ok first ∧ change first = value := by
  cases whole <;> simp

theorem map_eq_error_iff {change : α → β} {whole : Except ε α} {fault : ε} :
    change <$> whole = .error fault ↔ whole = .error fault := by
  cases whole <;> simp

theorem bind_eq_ok_iff {step : Except ε α} {next : α → Except ε β} {value : β} :
    step >>= next = .ok value ↔ ∃ first, step = .ok first ∧ next first = .ok value := by
  cases step <;> simp [bind, Except.bind]

/-- A traversal that succeeds gives one value for each item, in their order. -/
theorem mapM_eq_ok_iff {items : List α} {values : List β} :
    items.mapM read = .ok values ↔
      List.Forall₂ (fun item value => read item = .ok value) items values := by
  induction items generalizing values with
  | nil =>
    rw [List.forall₂_nil_left_iff]
    exact ⟨fun done => (Except.ok.inj done).symm, fun none => none ▸ rfl⟩
  | cons item rest ih =>
    rw [List.mapM_cons, List.forall₂_cons_left_iff]
    cases first : read item with
    | error fault => exact ⟨nofun, fun ⟨_, _, read, _⟩ => nomatch read⟩
    | ok value =>
      cases later : rest.mapM read with
      | error fault =>
        refine ⟨nofun, fun ⟨_, _, _, others, _⟩ => ?_⟩
        rw [ih.mpr others] at later
        cases later
      | ok others =>
        constructor
        · intro done
          cases done
          exact ⟨value, others, rfl, ih.mp later, rfl⟩
        · rintro ⟨_, _, same, listed, rfl⟩
          cases same
          rw [ih.mpr listed] at later
          cases later
          rfl

/-- A traversal that fails does so at the first item that cannot be read. -/
theorem mapM_eq_error_iff {items : List α} {fault : ε} :
    items.mapM read = .error fault ↔
      ∃ before item after, items = before ++ item :: after ∧
        (∀ earlier ∈ before, ∃ value, read earlier = .ok value) ∧ read item = .error fault := by
  induction items with
  | nil =>
    refine ⟨nofun, ?_⟩
    rintro ⟨before, item, after, empty, _⟩
    simp at empty
  | cons item rest ih =>
    rw [List.mapM_cons]
    constructor
    · intro failed
      cases first : read item with
      | error other =>
        rw [first] at failed
        cases failed
        exact ⟨[], item, rest, rfl, nofun, first⟩
      | ok value =>
        cases later : rest.mapM read with
        | ok values =>
          rw [first, later] at failed
          cases failed
        | error other =>
          rw [first, later] at failed
          cases failed
          obtain ⟨before, found, after, rfl, readable, unread⟩ := ih.mp later
          exact ⟨item :: before, found, after, rfl,
            List.forall_mem_cons.mpr ⟨⟨value, first⟩, readable⟩, unread⟩
    · rintro ⟨before, found, after, whole, readable, unread⟩
      cases before with
      | nil =>
        cases whole
        rw [unread]
        rfl
      | cons head before =>
        cases whole
        obtain ⟨⟨value, first⟩, readable⟩ := List.forall_mem_cons.mp readable
        rw [first, ih.mpr ⟨before, found, after, rfl, readable, unread⟩]
        rfl

theorem exists_of_mapM_error {items : List α} {fault : ε}
    (failed : items.mapM read = .error fault) : ∃ item ∈ items, read item = .error fault := by
  obtain ⟨before, item, after, rfl, _, unread⟩ := mapM_eq_error_iff.mp failed
  exact ⟨item, by simp, unread⟩

/-- What a traversal gives comes from the items. -/
theorem exists_of_mapM_ok {items : List α} {values : List β} (done : items.mapM read = .ok values)
    {value : β} (member : value ∈ values) : ∃ item ∈ items, read item = .ok value :=
  exists_related (mapM_eq_ok_iff.mp done).flip member

/-- An item that fails makes the traversal fail, if not with its own fault. -/
theorem exists_mapM_error {items : List α} {item : α} {fault : ε} (member : item ∈ items)
    (failed : read item = .error fault) : ∃ fault, items.mapM read = .error fault := by
  cases done : items.mapM read with
  | error fault => exact ⟨fault, rfl⟩
  | ok values =>
    obtain ⟨value, _, same⟩ := exists_related (mapM_eq_ok_iff.mp done) member
    rw [failed] at same
    cases same

/-- What was written item by item is read item by item. -/
theorem mapM_map_ok {write : β → α} {values : List β}
    (reads : ∀ value ∈ values, read (write value) = .ok value) :
    (values.map write).mapM read = .ok values := by
  rw [mapM_eq_ok_iff, List.forall₂_map_left_iff, List.forall₂_same]
  exact reads

end Read

section Apart

variable {α β κ : Type} [DecidableEq κ] {key : α → κ} {items : List α} {item : α}

theorem filter_of_apart (apart : (items.map key).Nodup) (member : item ∈ items) :
    (items.filter fun other => key other = key item) = [item] := by
  induction items with
  | nil => cases member
  | cons head rest ih =>
    rw [List.map_cons, List.nodup_cons] at apart
    rcases List.mem_cons.mp member with rfl | later
    · have others : (rest.filter fun other => key other = key item) = [] := by
        refine List.filter_eq_nil_iff.mpr fun other listed same => apart.1 ?_
        exact of_decide_eq_true same ▸ List.mem_map_of_mem listed
      rw [List.filter_cons, if_pos (decide_eq_true rfl), others]
    · have first : key head ≠ key item := fun same => apart.1 (same ▸ List.mem_map_of_mem later)
      rw [List.filter_cons, if_neg (mt of_decide_eq_true first), ih apart.2 later]

private theorem flatMap_ite_nil (items : List α) (chosen : α → Prop) [DecidablePred chosen]
    (value : α → List β) :
    (items.flatMap fun item => if chosen item then value item else []) =
      (items.filter fun item => chosen item).flatMap value := by
  induction items with
  | nil => rfl
  | cons head rest ih =>
    rw [List.flatMap_cons, List.filter_cons, ih]
    by_cases first : chosen head
    · rw [if_pos first, if_pos (decide_eq_true first), List.flatMap_cons]
    · rw [if_neg first, if_neg (mt of_decide_eq_true first), List.nil_append]

theorem flatMap_of_apart (apart : (items.map key).Nodup) (member : item ∈ items) (value : α → List β) :
    (items.flatMap fun other => if key other = key item then value other else []) = value item := by
  rw [flatMap_ite_nil, filter_of_apart apart member, List.flatMap_singleton]

end Apart

end CredentialReach
