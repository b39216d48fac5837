/-! Finite sets of names, kept in ascending order. A set is determined by its
members: `NameSet.ext_mem`. -/

namespace CredentialReach

structure NameSet where
  names : List String
  ascending : names.Pairwise (· < ·)

namespace NameSet

def insertName (name : String) : List String → List String
  | [] => [name]
  | other :: rest =>
    if name < other then name :: other :: rest
    else if name = other then other :: rest
    else other :: insertName name rest

private theorem mem_insertName {name other : String} {names : List String} :
    other ∈ insertName name names ↔ other = name ∨ other ∈ names := by
  induction names with
  | nil => simp [insertName]
  | cons head rest ih => grind [insertName]

private theorem ascending_insertName (name : String) {names : List String}
    (sorted : names.Pairwise (· < ·)) : (insertName name names).Pairwise (· < ·) := by
  induction names with
  | nil => simp [insertName]
  | cons head rest ih =>
    obtain ⟨least, tail⟩ := List.pairwise_cons.mp sorted
    simp only [insertName]
    split
    · rename_i below
      refine List.Pairwise.cons (fun other member => ?_) sorted
      rcases List.mem_cons.mp member with rfl | later
      · exact below
      · exact String.lt_trans below (least other later)
    · split
      · exact sorted
      · rename_i below different
        refine List.Pairwise.cons (fun other member => ?_) (ih tail)
        rcases mem_insertName.mp member with rfl | later
        · exact String.not_le.mp fun above =>
            different (String.le_antisymm above (String.not_lt.mp below))
        · exact least other later

def empty : NameSet := ⟨[], List.Pairwise.nil⟩

instance : EmptyCollection NameSet := ⟨empty⟩
instance : Inhabited NameSet := ⟨empty⟩
instance : Membership String NameSet := ⟨fun s name => name ∈ s.names⟩
instance (name : String) (s : NameSet) : Decidable (name ∈ s) :=
  inferInstanceAs (Decidable (name ∈ s.names))

def toList (s : NameSet) : List String := s.names

def contains (s : NameSet) (name : String) : Bool := decide (name ∈ s)

def isEmpty (s : NameSet) : Bool := s.names.isEmpty

def size (s : NameSet) : Nat := s.names.length

def insert (s : NameSet) (name : String) : NameSet :=
  ⟨insertName name s.names, ascending_insertName name s.ascending⟩

def erase (s : NameSet) (name : String) : NameSet :=
  ⟨s.names.filter (· != name), s.ascending.filter _⟩

def insertAll (s : NameSet) (names : List String) : NameSet := names.foldl insert s

def eraseAll (s : NameSet) (names : List String) : NameSet := names.foldl erase s

def ofList (names : List String) : NameSet := insertAll ∅ names

@[simp] theorem mem_toList {s : NameSet} {name : String} : name ∈ s.toList ↔ name ∈ s := .rfl

@[simp] theorem contains_eq_true {s : NameSet} {name : String} :
    s.contains name = true ↔ name ∈ s := decide_eq_true_iff

@[simp] theorem not_mem_empty (name : String) : name ∉ (∅ : NameSet) := by
  intro member
  cases member

@[simp] theorem mem_insert {s : NameSet} {name other : String} :
    other ∈ s.insert name ↔ other = name ∨ other ∈ s := mem_insertName

@[simp] theorem mem_erase {s : NameSet} {name other : String} :
    other ∈ s.erase name ↔ other ≠ name ∧ other ∈ s := by
  show other ∈ s.names.filter _ ↔ _ ∧ other ∈ s.names
  simp [and_comm]

@[simp] theorem mem_insertAll {s : NameSet} {names : List String} {other : String} :
    other ∈ s.insertAll names ↔ other ∈ names ∨ other ∈ s := by
  unfold insertAll
  induction names generalizing s with
  | nil => simp
  | cons head rest ih => simp only [List.foldl_cons, ih, mem_insert, List.mem_cons]; grind

@[simp] theorem mem_eraseAll {s : NameSet} {names : List String} {other : String} :
    other ∈ s.eraseAll names ↔ other ∉ names ∧ other ∈ s := by
  unfold eraseAll
  induction names generalizing s with
  | nil => simp
  | cons head rest ih => simp only [List.foldl_cons, ih, mem_erase, List.mem_cons]; grind

@[simp] theorem mem_ofList {names : List String} {name : String} :
    name ∈ ofList names ↔ name ∈ names := by simp [ofList]

private theorem eq_of_same_members {left right : List String} (leftSorted : left.Pairwise (· < ·))
    (rightSorted : right.Pairwise (· < ·)) (same : ∀ name, name ∈ left ↔ name ∈ right) :
    left = right := by
  induction left generalizing right with
  | nil =>
    cases right with
    | nil => rfl
    | cons head rest => simpa using same head
  | cons head rest ih =>
    cases right with
    | nil => simpa using same head
    | cons other others =>
      obtain ⟨leastLeft, tailLeft⟩ := List.pairwise_cons.mp leftSorted
      obtain ⟨leastRight, tailRight⟩ := List.pairwise_cons.mp rightSorted
      have heads : head = other := by
        rcases List.mem_cons.mp ((same head).mp (by simp)) with equal | later
        · exact equal
        · rcases List.mem_cons.mp ((same other).mpr (by simp)) with equal | earlier
          · exact equal.symm
          · exact absurd (leastLeft _ earlier) (String.lt_asymm (leastRight _ later))
      subst heads
      congr 1
      refine ih tailLeft tailRight fun name => ?_
      have absentLeft : head ∉ rest := fun member => String.lt_irrefl _ (leastLeft _ member)
      have absentRight : head ∉ others := fun member => String.lt_irrefl _ (leastRight _ member)
      have := same name
      grind

theorem ext_mem {a b : NameSet} (same : ∀ name, name ∈ a ↔ name ∈ b) : a = b := by
  obtain ⟨left, leftSorted⟩ := a
  obtain ⟨right, rightSorted⟩ := b
  obtain rfl := eq_of_same_members leftSorted rightSorted same
  rfl

end NameSet

end CredentialReach
