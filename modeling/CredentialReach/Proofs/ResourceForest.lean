import Mathlib.Data.List.Induction
import Mathlib.Data.List.Nodup
import CredentialReach.Resource.History

/-! Resources that contain others. Where full names are apart and a resource is there before those
that it contains, the resources are a forest: the way up goes to ever smaller ids, what is above and
what is below are the same relation, and a resource is read off with all that is above it. -/

namespace CredentialReach

namespace ResourceGraph

variable {graph grown : ResourceGraph} {node : Node}

/-- No two resources share a full name, and a resource is there before those that it contains. -/
structure Orderly (graph : ResourceGraph) : Prop where
  apart : graph.fullNames.Nodup
  older : ∀ id parent, graph.parentOf? id = some parent → parent < id

theorem isSome_get? {id : Nat} : (graph.get? id).isSome = true ↔ id < graph.size := by
  simp [get?, size]

theorem exists_resource_of_lt {id : Nat} (inside : id < graph.size) :
    ∃ resource, graph.resource? id = some resource :=
  ⟨_, List.getElem?_eq_getElem (graph.length_resources.symm ▸ inside)⟩

theorem lt_size_of_parentOf? {id parent : Nat} (contained : graph.parentOf? id = some parent) :
    id < graph.size := by
  obtain ⟨node, found, -⟩ := Option.bind_eq_some_iff.mp contained
  exact (List.getElem?_eq_some_iff.mp found).choose

theorem parentOf?_size (graph : ResourceGraph) : graph.parentOf? graph.size = none := by
  apply Option.eq_none_iff_forall_ne_some.mpr
  intro parent contained
  exact Nat.lt_irrefl _ (lt_size_of_parentOf? contained)

section Grown

variable (nodes : grown.nodes = graph.nodes ++ [node])
include nodes

theorem size_grown : grown.size = graph.size + 1 := by
  rw [size, nodes, List.length_append]
  rfl

theorem get?_grown (id : Nat) :
    grown.get? id = if id = graph.size then some node.draft else graph.get? id := by
  unfold get? size
  rw [nodes]
  grind

theorem parentOf?_grown (id : Nat) :
    grown.parentOf? id = if id = graph.size then node.parent? else graph.parentOf? id := by
  unfold parentOf? size
  rw [nodes]
  grind

theorem idOf?_grown (new : graph.idOf? node.draft.fullName = none) (name : String) :
    grown.idOf? name = if name = node.draft.fullName then some graph.size else graph.idOf? name := by
  unfold idOf? size
  rw [nodes, List.findIdx?_append]
  split
  next same =>
    subst same
    have absent : graph.nodes.findIdx? (·.draft.fullName == node.draft.fullName) = none := new
    simp [absent, List.findIdx?_cons]
  next other =>
    have others : (node.draft.fullName == name) = false := beq_false_of_ne (Ne.symm other)
    simp [others, List.findIdx?_cons]

theorem childrenOf_grown (id : Nat) :
    grown.childrenOf id =
      if node.parent? = some id then graph.childrenOf id ++ [graph.size] else graph.childrenOf id := by
  unfold childrenOf ids
  rw [size_grown nodes, List.range_succ, List.filter_append]
  have before : (List.range graph.size).filter (fun child => grown.parentOf? child == some id) =
      (List.range graph.size).filter fun child => graph.parentOf? child == some id := by
    refine List.filter_congr ?_
    intro child inside
    rw [parentOf?_grown nodes, if_neg (Nat.ne_of_lt (List.mem_range.mp inside))]
  have last : grown.parentOf? graph.size = node.parent? := by
    rw [parentOf?_grown nodes, if_pos rfl]
  rw [before, List.filter_cons, List.filter_nil, last]
  by_cases contained : node.parent? = some id
  · rw [if_pos contained, if_pos (beq_iff_eq.mpr contained)]
  · rw [if_neg contained, if_neg (mt beq_iff_eq.mp contained), List.append_nil]

end Grown

theorem orderly_empty : ({} : ResourceGraph).Orderly where
  apart := List.nodup_nil
  older := by
    intro id parent contained
    cases contained

theorem Orderly.grow (orderly : graph.Orderly) (nodes : grown.nodes = graph.nodes ++ [node])
    (new : graph.idOf? node.draft.fullName = none)
    (owned : ∀ parent ∈ node.parent?, parent < graph.size) : grown.Orderly where
  apart := by
    rw [fullNames, nodes, List.map_append]
    exact nodup_fullNames_of_new orderly.apart new
  older := by
    intro id parent contained
    rw [parentOf?_grown nodes] at contained
    split at contained
    next last => exact last ▸ owned parent contained
    next => exact orderly.older id parent contained

theorem Orderly.idOf?_eq_some (orderly : graph.Orderly) {name : String} {id : Nat} :
    graph.idOf? name = some id ↔ ∃ draft, graph.get? id = some draft ∧ draft.fullName = name := by
  unfold idOf? get?
  rw [List.findIdx?_eq_some_iff_getElem]
  constructor
  · rintro ⟨inside, same, -⟩
    refine ⟨_, ?_, beq_iff_eq.mp same⟩
    rw [List.getElem?_eq_getElem inside, Option.map_some]
  · rintro ⟨draft, found, rfl⟩
    obtain ⟨node, there, rfl⟩ := Option.map_eq_some_iff.mp found
    obtain ⟨inside, rfl⟩ := List.getElem?_eq_some_iff.mp there
    refine ⟨inside, beq_self_eq_true _, ?_⟩
    intro earlier below same
    -- The name would stand at two positions.
    have size : graph.fullNames.length = graph.nodes.length := List.length_map ..
    have different := List.pairwise_iff_getElem.mp orderly.apart earlier id (by omega) (by omega) below
    simp only [fullNames, List.getElem_map] at different
    exact different (beq_iff_eq.mp same)

/-! What is read off upwards. Owners and resources are listed from the first node on, and each
entry goes by those before it. -/

theorem length_foldl_behind {α β : Type} (f : List β → α → β) (items : List α) :
    (items.foldl (fun known item => known ++ [f known item]) []).length = items.length := by
  induction items using List.reverseRecOn with
  | nil => rfl
  | append_singleton items last ih => simp [ih]

private theorem getElem?_foldl_behind {α β : Type} (f : List β → α → β) (items : List α) (id : Nat) :
    (items.foldl (fun known item => known ++ [f known item]) [])[id]? =
      items[id]?.map
        (f ((items.foldl (fun known item => known ++ [f known item]) []).take id)) := by
  induction items using List.reverseRecOn with
  | nil => rfl
  | append_singleton items last ih =>
    have length := length_foldl_behind f items
    rw [List.foldl_concat]
    generalize items.foldl (fun known item => known ++ [f known item]) [] = known at ih length
    rcases Nat.lt_trichotomy id items.length with earlier | here | beyond
    · rw [List.getElem?_append_left (by omega), List.getElem?_append_left earlier,
        List.take_append_of_le_length (by omega), ih]
    · subst here
      rw [List.getElem?_concat_length, ← length, List.getElem?_concat_length, List.take_left, Option.map_some]
    · rw [List.getElem?_eq_none (by simp; omega), List.getElem?_eq_none (by simp; omega)]
      rfl

private theorem getElem?_chains (graph : ResourceGraph) (id : Nat) :
    graph.chains[id]? = graph.nodes[id]?.map fun node =>
      match node.parent? with
      | none => []
      | some parent => parent :: (graph.chains.take id).getD parent [] := by
  unfold chains
  exact getElem?_foldl_behind _ graph.nodes id

private theorem getElem?_resources (graph : ResourceGraph) (id : Nat) :
    graph.resources[id]? = graph.nodes[id]?.map fun node =>
      .place node.draft (node.parent?.bind ((graph.resources.take id)[·]?)) := by
  unfold resources
  exact getElem?_foldl_behind _ graph.nodes id

theorem Orderly.ancestors_eq (orderly : graph.Orderly) (id : Nat) :
    graph.ancestors id =
      match graph.parentOf? id with
      | none => []
      | some parent => parent :: graph.ancestors parent := by
  unfold ancestors parentOf?
  rw [List.getD_eq_getElem?_getD, getElem?_chains]
  cases found : graph.nodes[id]? with
  | none => rfl
  | some node =>
    cases contained : node.parent? with
    | none => simp [contained]
    | some parent =>
      have older : parent < id := orderly.older id parent (by simp [parentOf?, found, contained])
      simp [contained, List.getElem?_take_of_lt older]

theorem Orderly.resource?_eq (orderly : graph.Orderly) (id : Nat) :
    graph.resource? id =
      (graph.get? id).map fun draft => .place draft ((graph.parentOf? id).bind graph.resource?) := by
  unfold parentOf? get?
  rw [resource?, getElem?_resources]
  cases found : graph.nodes[id]? with
  | none => rfl
  | some node =>
    cases contained : node.parent? with
    | none => simp [contained]
    | some parent =>
      have older : parent < id := orderly.older id parent (by simp [parentOf?, found, contained])
      simp [contained, resource?, List.getElem?_take_of_lt older]

/-- Going up, ids only fall, so that going up comes to an end. -/
theorem Orderly.descending (orderly : graph.Orderly) (id : Nat) :
    (id :: graph.ancestors id).Pairwise (· > ·) := by
  induction id using Nat.strongRecOn with
  | ind id ih =>
    rw [orderly.ancestors_eq]
    cases contained : graph.parentOf? id with
    | none => exact List.pairwise_singleton _ _
    | some parent =>
      have older : parent < id := orderly.older id parent contained
      have above := ih parent older
      refine List.pairwise_cons.mpr ⟨?_, above⟩
      intro ancestor member
      rcases List.mem_cons.mp member with rfl | higher
      · exact older
      · have := List.rel_of_pairwise_cons above higher
        omega

/-- A resource is at the top, or its owner is there before it. -/
theorem Orderly.owner_cases (orderly : graph.Orderly) (id : Nat) :
    graph.parentOf? id = none ∨
      ∃ parent owner, graph.parentOf? id = some parent ∧ graph.get? parent = some owner ∧
        parent < id := by
  cases contained : graph.parentOf? id with
  | none => exact .inl rfl
  | some parent =>
    have older : parent < id := orderly.older id parent contained
    obtain ⟨owner, found⟩ := Option.isSome_iff_exists.mp
      (isSome_get?.mpr (Nat.lt_trans older (lt_size_of_parentOf? contained)))
    exact .inr ⟨parent, owner, rfl, found, older⟩

/-- A resource goes with the drafts of its ancestors. -/
theorem Orderly.owners (orderly : graph.Orderly) {id : Nat} {resource : Resource}
    (there : graph.resource? id = some resource) :
    graph.get? id = some resource.toDraft ∧
      resource.owners.map some = (graph.ancestors id).map graph.get? := by
  induction id using Nat.strongRecOn generalizing resource with
  | ind id ih =>
    rw [orderly.resource?_eq] at there
    obtain ⟨draft, found, rfl⟩ := Option.map_eq_some_iff.mp there
    rw [found, orderly.ancestors_eq]
    cases contained : graph.parentOf? id with
    | none => exact ⟨rfl, rfl⟩
    | some parent =>
      have older : parent < id := orderly.older id parent contained
      obtain ⟨owner, found⟩ := exists_resource_of_lt (Nat.lt_trans older (lt_size_of_parentOf? contained))
      obtain ⟨own, above⟩ := ih parent older found
      simp only [Option.bind_some, found, Resource.place, List.map_cons, own, above, and_self]

private theorem mem_childrenOf {parent child : Nat} :
    child ∈ graph.childrenOf parent ↔ graph.parentOf? child = some parent := by
  unfold childrenOf ids
  rw [List.mem_filter, List.mem_range, beq_iff_eq]
  exact ⟨And.right, fun contained => ⟨lt_size_of_parentOf? contained, contained⟩⟩

theorem ascending_childrenOf (parent : Nat) : (graph.childrenOf parent).Pairwise (· < ·) :=
  List.pairwise_lt_range.filter _

private theorem mem_roots {id : Nat} :
    id ∈ graph.roots ↔ id < graph.size ∧ graph.parentOf? id = none := by
  simp [roots, ids]

/-- Resources that contain others, numbered from zero on. -/
structure Forest (graph : ResourceGraph) : Prop where
  numbered : ∀ id, id ∈ graph.ids ↔ ∃ draft, graph.get? id = some draft
  /-- Full names are apart, and each one leads to what has it and to nothing else. -/
  apart : graph.fullNames.Nodup
  named : ∀ name id, graph.idOf? name = some id ↔
    ∃ draft, graph.get? id = some draft ∧ draft.fullName = name
  older : ∀ id parent, graph.parentOf? id = some parent → parent < id ∧ id < graph.size
  above : ∀ id, graph.ancestors id =
    match graph.parentOf? id with
    | none => []
    | some parent => parent :: graph.ancestors parent
  descending : ∀ id, (id :: graph.ancestors id).Pairwise (· > ·)
  below : ∀ parent child, child ∈ graph.childrenOf parent ↔ graph.parentOf? child = some parent
  ascending : ∀ parent, (graph.childrenOf parent).Pairwise (· < ·)
  roots : ∀ id, id ∈ graph.roots ↔ id < graph.size ∧ graph.parentOf? id = none

theorem Orderly.forest (orderly : graph.Orderly) : graph.Forest where
  numbered := by
    intro id
    rw [ids, List.mem_range, ← isSome_get?, Option.isSome_iff_exists]
  apart := orderly.apart
  named := fun _ _ => orderly.idOf?_eq_some
  older := fun id parent contained => ⟨orderly.older id parent contained, lt_size_of_parentOf? contained⟩
  above := orderly.ancestors_eq
  descending := orderly.descending
  below := fun _ _ => mem_childrenOf
  ascending := ascending_childrenOf
  roots := fun _ => mem_roots

def entries (graph : ResourceGraph) : List (Nat × Call) :=
  graph.nodes.mapIdx fun id node => (id, ⟨node.parent?, node.draft⟩)

theorem entries_grown (nodes : grown.nodes = graph.nodes ++ [node]) :
    grown.entries = graph.entries ++ [(graph.size, ⟨node.parent?, node.draft⟩)] := by
  unfold entries
  rw [nodes, List.mapIdx_concat]
  rfl

theorem ids_entries (graph : ResourceGraph) : graph.entries.map (·.1) = graph.ids := by
  apply List.ext_getElem
  · simp [entries, ids, size]
  · simp [entries, ids]

theorem names_entries (graph : ResourceGraph) :
    graph.entries.map (·.2.draft.fullName) = graph.fullNames := by
  apply List.ext_getElem
  · simp [entries, fullNames]
  · simp [entries, fullNames]

theorem mem_entries {id : Nat} {call : Call} :
    (id, call) ∈ graph.entries ↔
      graph.get? id = some call.draft ∧ graph.parentOf? id = call.owner := by
  unfold entries get? parentOf?
  rw [List.mem_mapIdx]
  constructor
  · rintro ⟨_, inside, ⟨⟩⟩
    simp [inside]
  · rintro ⟨drafted, owned⟩
    obtain ⟨node, found, drafted⟩ := Option.map_eq_some_iff.mp drafted
    rw [found, Option.bind_some] at owned
    obtain ⟨inside, rfl⟩ := List.getElem?_eq_some_iff.mp found
    exact ⟨id, inside, by rw [owned, drafted]⟩

end ResourceGraph

end CredentialReach
