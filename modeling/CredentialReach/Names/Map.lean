/-! Finite maps from names to values, kept in the order of their names (by code
point, which is also the byte order of UTF-8). A map is determined by its
lookups: `NameMap.ext_get?`. -/

namespace CredentialReach

universe u v

/-- Entries in strictly ascending order of their names. -/
def Ascending {α : Type u} (entries : List (String × α)) : Prop :=
  entries.Pairwise fun a b => a.1 < b.1

structure NameMap (α : Type u) where
  entries : List (String × α)
  ascending : Ascending entries

namespace NameMap

variable {α : Type u} {β : Type v}

def lookup (name : String) : List (String × α) → Option α
  | [] => none
  | (other, value) :: rest => if name = other then some value else lookup name rest

/-- The entry of `name` becomes `change` of what was there. -/
def updateEntries (name : String) (change : Option α → α) :
    List (String × α) → List (String × α)
  | [] => [(name, change none)]
  | (other, value) :: rest =>
    if name < other then (name, change none) :: (other, value) :: rest
    else if name = other then (name, change (some value)) :: rest
    else (other, value) :: updateEntries name change rest

private theorem lt_of_not_lt {a b : String} (below : ¬a < b) (different : a ≠ b) : b < a := by
  by_cases above : b < a
  · exact above
  · exact absurd (String.le_antisymm (String.not_lt.mp above) (String.not_lt.mp below)) different

private theorem mem_updateEntries {name : String} {change : Option α → α}
    {entries : List (String × α)} {entry : String × α}
    (member : entry ∈ updateEntries name change entries) :
    entry.1 = name ∨ ∃ old ∈ entries, old.1 = entry.1 := by
  induction entries with
  | nil => simp_all [updateEntries]
  | cons head rest ih => grind [updateEntries]

private theorem ascending_updateEntries (name : String) (change : Option α → α)
    {entries : List (String × α)} (sorted : Ascending entries) :
    Ascending (updateEntries name change entries) := by
  induction entries with
  | nil => simp [updateEntries, Ascending]
  | cons head rest ih =>
    obtain ⟨other, value⟩ := head
    obtain ⟨least, tail⟩ := List.pairwise_cons.mp sorted
    simp only [updateEntries]
    split
    · rename_i below
      refine List.Pairwise.cons ?_ sorted
      intro entry member
      rcases List.mem_cons.mp member with rfl | later
      · exact below
      · exact String.lt_trans below (least entry later)
    · split
      · rename_i same
        subst same
        exact List.Pairwise.cons least tail
      · rename_i below different
        refine List.Pairwise.cons ?_ (ih tail)
        intro entry member
        rcases mem_updateEntries member with same | ⟨old, oldMember, same⟩
        · exact same ▸ lt_of_not_lt below different
        · exact same ▸ least old oldMember

private theorem lookup_eq_none {name : String} {entries : List (String × α)}
    (absent : ∀ entry ∈ entries, name ≠ entry.1) : lookup name entries = none := by
  induction entries with
  | nil => rfl
  | cons head rest ih => grind [lookup]

private theorem lookup_of_least {name : String} {entries : List (String × α)}
    (least : ∀ entry ∈ entries, name < entry.1) : lookup name entries = none :=
  lookup_eq_none fun entry member same =>
    String.lt_irrefl _ (same ▸ least entry member)

private theorem mem_of_lookup {name : String} {value : α} {entries : List (String × α)}
    (found : lookup name entries = some value) : (name, value) ∈ entries := by
  induction entries with
  | nil => simp [lookup] at found
  | cons head rest ih => grind [lookup]

private theorem lookup_of_mem {name : String} {value : α} {entries : List (String × α)}
    (sorted : Ascending entries) (member : (name, value) ∈ entries) :
    lookup name entries = some value := by
  induction entries with
  | nil => cases member
  | cons head rest ih =>
    obtain ⟨least, tail⟩ := List.pairwise_cons.mp sorted
    rcases List.mem_cons.mp member with rfl | later
    · simp [lookup]
    · have different : name ≠ head.1 := fun same =>
        String.lt_irrefl _ (same ▸ least (name, value) later)
      simp only [lookup, if_neg different, ih tail later]

private theorem lookup_updateEntries (name other : String) (change : Option α → α)
    {entries : List (String × α)} (sorted : Ascending entries) :
    lookup other (updateEntries name change entries) =
      if other = name then some (change (lookup name entries)) else lookup other entries := by
  induction entries with
  | nil => simp [updateEntries, lookup]
  | cons head rest ih =>
    obtain ⟨key, value⟩ := head
    obtain ⟨least, tail⟩ := List.pairwise_cons.mp sorted
    have absent (below : name < key) : lookup name ((key, value) :: rest) = none :=
      lookup_of_least fun entry member => by
        rcases List.mem_cons.mp member with rfl | later
        · exact below
        · exact String.lt_trans below (least entry later)
    have := ih tail
    grind [updateEntries, lookup]

def empty : NameMap α := ⟨[], List.Pairwise.nil⟩

instance : EmptyCollection (NameMap α) := ⟨empty⟩
instance : Inhabited (NameMap α) := ⟨empty⟩

def toList (m : NameMap α) : List (String × α) := m.entries

def names (m : NameMap α) : List String := m.entries.map (·.1)

def values (m : NameMap α) : List α := m.entries.map (·.2)

def isEmpty (m : NameMap α) : Bool := m.entries.isEmpty

def get? (m : NameMap α) (name : String) : Option α := lookup name m.entries

def contains (m : NameMap α) (name : String) : Bool := (m.get? name).isSome

def update (m : NameMap α) (name : String) (change : Option α → α) : NameMap α :=
  ⟨updateEntries name change m.entries, ascending_updateEntries name change m.ascending⟩

def insert (m : NameMap α) (name : String) (value : α) : NameMap α :=
  m.update name fun _ => value

def modify (m : NameMap α) (name : String) (change : α → α) : NameMap α :=
  match m.get? name with
  | some value => m.insert name (change value)
  | none => m

def map (m : NameMap α) (change : String → α → β) : NameMap β :=
  ⟨m.entries.map fun entry => (entry.1, change entry.1 entry.2), by
    have sorted := m.ascending
    unfold Ascending at sorted ⊢
    rw [List.pairwise_map]
    exact sorted⟩

/-- Of two entries with one name the later one stands. -/
def ofList (entries : List (String × α)) : NameMap α :=
  entries.foldl (fun (m : NameMap α) entry => m.insert entry.1 entry.2) ∅

@[simp] theorem mem_toList {m : NameMap α} {name : String} {value : α} :
    (name, value) ∈ m.toList ↔ m.get? name = some value :=
  ⟨lookup_of_mem m.ascending, mem_of_lookup⟩

theorem mem_names {m : NameMap α} {name : String} :
    name ∈ m.names ↔ (m.get? name).isSome = true := by
  simp only [Option.isSome_iff_exists, ← mem_toList, toList, names, List.mem_map]
  constructor
  · rintro ⟨⟨_, value⟩, member, rfl⟩
    exact ⟨value, member⟩
  · rintro ⟨value, member⟩
    exact ⟨(name, value), member, rfl⟩

theorem names_apart (m : NameMap α) : m.toList.Pairwise fun a b => a.1 ≠ b.1 := by
  refine m.ascending.imp ?_
  intro a b below same
  exact String.lt_irrefl b.1 (same ▸ below)

theorem nodup_names (m : NameMap α) : m.names.Nodup := List.pairwise_map.mpr m.names_apart

@[simp] theorem get?_update (m : NameMap α) (name other : String) (change : Option α → α) :
    (m.update name change).get? other =
      if other = name then some (change (m.get? name)) else m.get? other :=
  lookup_updateEntries name other change m.ascending

@[simp] theorem get?_insert (m : NameMap α) (name other : String) (value : α) :
    (m.insert name value).get? other = if other = name then some value else m.get? other := by
  simp [insert]

@[simp] theorem get?_empty (name : String) : (∅ : NameMap α).get? name = none := rfl

@[simp] theorem get?_modify (m : NameMap α) (name other : String) (change : α → α) :
    (m.modify name change).get? other =
      if other = name then (m.get? name).map change else m.get? other := by
  unfold modify
  by_cases same : other = name <;> cases found : m.get? name <;> simp_all

@[simp] theorem get?_map (m : NameMap α) (change : String → α → β) (name : String) :
    (m.map change).get? name = (m.get? name).map (change name) := by
  obtain ⟨entries, _⟩ := m
  simp only [get?, map]
  induction entries with
  | nil => rfl
  | cons head rest ih => grind [lookup, Ascending]

theorem get?_ofList_append (entries : List (String × α)) (entry : String × α) (name : String) :
    (ofList (entries ++ [entry])).get? name =
      if name = entry.1 then some entry.2 else (ofList entries).get? name := by
  rw [ofList, List.foldl_append]
  exact get?_insert ..

private theorem get?_foldl_insert {entries : List (String × α)} {m : NameMap α} {name : String}
    {value : α} (found : (entries.foldl (fun m entry => m.insert entry.1 entry.2) m).get? name =
      some value) : (name, value) ∈ entries ∨ m.get? name = some value := by
  induction entries generalizing m with
  | nil => exact .inr found
  | cons entry rest ih =>
    rcases ih found with later | first
    · exact .inl (List.mem_cons_of_mem _ later)
    · rw [get?_insert] at first
      split at first
      next same =>
        cases first
        exact .inl (same ▸ List.mem_cons_self)
      next => exact .inr first

/-- Every entry of a map comes from the list that the map was made of. -/
theorem mem_of_get?_ofList {entries : List (String × α)} {name : String} {value : α}
    (found : (ofList entries).get? name = some value) : (name, value) ∈ entries := by
  rcases get?_foldl_insert found with listed | absent
  · exact listed
  · cases absent

private theorem eq_of_lookup_eq {left right : List (String × α)} (leftSorted : Ascending left)
    (rightSorted : Ascending right) (same : ∀ name, lookup name left = lookup name right) :
    left = right := by
  induction left generalizing right with
  | nil =>
    cases right with
    | nil => rfl
    | cons head rest => simpa [lookup] using same head.1
  | cons head rest ih =>
    cases right with
    | nil => simpa [lookup] using same head.1
    | cons other others =>
      obtain ⟨leastLeft, tailLeft⟩ := List.pairwise_cons.mp leftSorted
      obtain ⟨leastRight, tailRight⟩ := List.pairwise_cons.mp rightSorted
      have names : head.1 = other.1 := by
        by_cases equal : head.1 = other.1
        · exact equal
        · have one := same head.1
          have two := same other.1
          simp only [lookup, if_true, if_neg equal, if_neg (Ne.symm equal)] at one two
          exact absurd (leastLeft _ (mem_of_lookup two))
            (String.lt_asymm (leastRight _ (mem_of_lookup one.symm)))
      have values : head.2 = other.2 := by simpa [lookup, names] using same head.1
      have tails : rest = others := by
        refine ih tailLeft tailRight fun name => ?_
        by_cases equal : name = head.1
        · rw [equal, lookup_of_least leastLeft, names, lookup_of_least leastRight]
        · have := same name
          grind [lookup]
      rw [tails, show head = other from Prod.ext names values]

/-- Two maps with the same lookups are the same map. -/
theorem ext_get? {a b : NameMap α} (same : ∀ name, a.get? name = b.get? name) : a = b := by
  obtain ⟨left, leftSorted⟩ := a
  obtain ⟨right, rightSorted⟩ := b
  obtain rfl := eq_of_lookup_eq leftSorted rightSorted same
  rfl

theorem lookup_append (name : String) (first second : List (String × α)) :
    lookup name (first ++ second) = (lookup name first).or (lookup name second) := by
  induction first with
  | nil => rfl
  | cons head rest ih =>
    rw [List.cons_append, lookup, lookup, ih]
    split <;> rfl

private theorem isSome_foldl_insert {entries : List (String × α)} {m : NameMap α} {name : String}
    (present : (m.get? name).isSome ∨ name ∈ entries.map (·.1)) :
    ((entries.foldl (fun m entry => m.insert entry.1 entry.2) m).get? name).isSome := by
  induction entries generalizing m with
  | nil => simpa using present
  | cons entry rest ih =>
    refine ih ?_
    rw [get?_insert]
    by_cases same : name = entry.1
    · simp [same]
    · simpa [same] using present

/-- The entries of a map make the same map again. -/
theorem ofList_entries (m : NameMap α) : ofList m.entries = m := by
  refine ext_get? fun name => ?_
  cases found : (ofList m.entries).get? name with
  | some value => exact (mem_toList.mp (mem_of_get?_ofList found)).symm
  | none =>
    cases held : m.get? name with
    | none => rfl
    | some value =>
      have listed : name ∈ m.entries.map (·.1) := mem_names.mpr (by simp [held])
      have made : ((ofList m.entries).get? name).isSome := isSome_foldl_insert (.inr listed)
      simp [found] at made

theorem eq_empty_of_isEmpty {m : NameMap α} (none : m.isEmpty = true) : m = ∅ := by
  refine ext_get? fun name => ?_
  rw [get?, List.isEmpty_iff.mp none]
  rfl

end NameMap

end CredentialReach
