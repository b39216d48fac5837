import CredentialReach.Resource.Basic

/-! The resources found so far. An id is a position in the order of discovery;
a resource is only ever added below one that is already there, and the first
of two with one full name stands. -/

namespace CredentialReach

structure Node where
  draft : Draft
  parent? : Option Nat

structure ResourceGraph where
  nodes : List Node := []

/-- Where a draft stands after it was added. -/
structure Insertion where
  graph : ResourceGraph
  id : Nat
  created : Bool

namespace ResourceGraph

def size (graph : ResourceGraph) : Nat := graph.nodes.length

def ids (graph : ResourceGraph) : List Nat := List.range graph.size

def fullNames (graph : ResourceGraph) : List String := graph.nodes.map (·.draft.fullName)

def get? (graph : ResourceGraph) (id : Nat) : Option Draft := (graph.nodes[id]?).map (·.draft)

def idOf? (graph : ResourceGraph) (fullName : String) : Option Nat :=
  graph.nodes.findIdx? (·.draft.fullName == fullName)

def parentOf? (graph : ResourceGraph) (id : Nat) : Option Nat := (graph.nodes[id]?).bind (·.parent?)

def childrenOf (graph : ResourceGraph) (id : Nat) : List Nat :=
  graph.ids.filter fun child => graph.parentOf? child == some id

def roots (graph : ResourceGraph) : List Nat :=
  graph.ids.filter fun id => (graph.parentOf? id).isNone

/-- Adds a draft unless its full name is known. -/
def insert (graph : ResourceGraph) (parent? : Option Nat) (draft : Draft) : Insertion :=
  match graph.idOf? draft.fullName with
  | some id => ⟨graph, id, false⟩
  | none => ⟨⟨graph.nodes ++ [⟨draft, parent?⟩]⟩, graph.size, true⟩

def addRoot (graph : ResourceGraph) (draft : Draft) : Insertion := graph.insert none draft

/-- None if there is no such parent. -/
def addChild? (graph : ResourceGraph) (parent : Nat) (draft : Draft) : Option Insertion :=
  if parent < graph.size then some (graph.insert (some parent) draft) else none

/-- Adds a draft below a resource, or at the top. None if there is no such resource. -/
def add? (graph : ResourceGraph) (owner : Option Nat) (draft : Draft) : Option Insertion :=
  match owner with
  | none => some (graph.addRoot draft)
  | some parent => graph.addChild? parent draft

/-- The ids above every node, nearest first. A parent stands before its
children, so its own are known by then. -/
def chains (graph : ResourceGraph) : List (List Nat) :=
  graph.nodes.foldl (fun known node =>
    known ++ [match node.parent? with
      | none => []
      | some parent => parent :: known.getD parent []]) []

def ancestors (graph : ResourceGraph) (id : Nat) : List Nat := graph.chains.getD id []

def depth (graph : ResourceGraph) (id : Nat) : Nat := (graph.ancestors id).length

def resources (graph : ResourceGraph) : List Resource :=
  graph.nodes.foldl (fun known node =>
    known ++ [Resource.place node.draft (node.parent?.bind (known[·]?))]) []

private theorem toDraft_foldl (nodes : List Node) (known : List Resource) :
    (nodes.foldl (fun known node =>
      known ++ [Resource.place node.draft (node.parent?.bind (known[·]?))]) known).map
        (·.toDraft) = known.map (·.toDraft) ++ nodes.map (·.draft) := by
  induction nodes generalizing known with
  | nil => simp
  | cons node rest ih =>
    simp only [List.foldl_cons, ih, List.map_append, List.map_cons, List.map_nil,
      Resource.toDraft_place, List.append_assoc, List.singleton_append]

theorem toDraft_resources (graph : ResourceGraph) :
    graph.resources.map (·.toDraft) = graph.nodes.map (·.draft) := toDraft_foldl graph.nodes []

theorem names_resources (graph : ResourceGraph) :
    graph.resources.map (·.fullName) = graph.fullNames := by
  have names := congrArg (List.map Draft.fullName) graph.toDraft_resources
  rw [List.map_map, List.map_map] at names
  exact names

theorem length_resources (graph : ResourceGraph) : graph.resources.length = graph.size := by
  simpa only [List.length_map, size] using congrArg List.length graph.toDraft_resources

theorem mem_fullNames_iff {graph : ResourceGraph} {name : String} :
    name ∈ graph.fullNames ↔ (graph.idOf? name).isSome = true := by
  simp [fullNames, idOf?]

theorem nodup_fullNames_of_new {graph : ResourceGraph} {draft : Draft}
    (once : graph.fullNames.Nodup) (new : graph.idOf? draft.fullName = none) :
    (graph.fullNames ++ [draft.fullName]).Nodup := by
  have absent : draft.fullName ∉ graph.fullNames := by simp [mem_fullNames_iff, new]
  refine List.nodup_append.mpr ⟨once, List.pairwise_singleton _ _, ?_⟩
  intro name listed other last same
  obtain rfl : other = draft.fullName := List.mem_singleton.mp last
  exact absent (same ▸ listed)

theorem idOf?_of_fresh {graph : ResourceGraph} {draft : Draft}
    (fresh : ∀ resource ∈ graph.resources, resource.fullName ≠ draft.fullName) :
    graph.idOf? draft.fullName = none := by
  refine List.findIdx?_eq_none_iff.mpr fun node member => ?_
  have listed : node.draft ∈ graph.resources.map (·.toDraft) := by
    rw [toDraft_resources]
    exact List.mem_map_of_mem member
  obtain ⟨resource, present, same⟩ := List.mem_map.mp listed
  simpa [← same] using fresh resource present

theorem created_of_fresh {graph : ResourceGraph} {draft : Draft}
    (fresh : ∀ resource ∈ graph.resources, resource.fullName ≠ draft.fullName) (parent? : Option Nat) :
    (graph.insert parent? draft).created = true := by
  unfold insert
  rw [idOf?_of_fresh fresh]

/-- A draft with a new full name is placed behind all others. -/
theorem insert_of_fresh {graph : ResourceGraph} {draft : Draft}
    (fresh : ∀ resource ∈ graph.resources, resource.fullName ≠ draft.fullName)
    (parent? : Option Nat) :
    (graph.insert parent? draft).id = graph.size ∧
      (graph.insert parent? draft).graph.resources =
        graph.resources ++ [.place draft (parent?.bind (graph.resources[·]?))] := by
  unfold insert
  rw [idOf?_of_fresh fresh]
  exact ⟨rfl, by simp [resources]⟩

def resource? (graph : ResourceGraph) (id : Nat) : Option Resource := graph.resources[id]?

theorem resource?_grown {graph grown : ResourceGraph} {added : Resource}
    (resources : grown.resources = graph.resources ++ [added]) {id : Nat} {resource : Resource}
    (there : graph.resource? id = some resource) : grown.resource? id = some resource := by
  obtain ⟨inside, _⟩ := List.getElem?_eq_some_iff.mp there
  rw [resource?, resources, List.getElem?_append_left inside]
  exact there

theorem resource?_added {graph grown : ResourceGraph} {added : Resource}
    (resources : grown.resources = graph.resources ++ [added]) :
    grown.resource? graph.size = some added := by
  rw [resource?, resources, ← graph.length_resources, List.getElem?_concat_length]

theorem lt_size_of_resource? {graph : ResourceGraph} {id : Nat} {resource : Resource}
    (there : graph.resource? id = some resource) : id < graph.size := by
  obtain ⟨inside, _⟩ := List.getElem?_eq_some_iff.mp there
  exact graph.length_resources ▸ inside

theorem exists_resource_of_idOf? {graph : ResourceGraph} {fullName : String} {id : Nat}
    (known : graph.idOf? fullName = some id) :
    ∃ resource, graph.resource? id = some resource ∧ resource.fullName = fullName := by
  obtain ⟨inside, same, _⟩ := List.findIdx?_eq_some_iff_getElem.mp known
  have listed : id < graph.resources.length := graph.length_resources.symm ▸ inside
  refine ⟨graph.resources[id], List.getElem?_eq_getElem listed, ?_⟩
  have draft : (graph.resources.map (·.toDraft))[id]? = (graph.nodes.map (·.draft))[id]? := by
    rw [graph.toDraft_resources]
  rw [List.getElem?_map, List.getElem?_map, List.getElem?_eq_getElem listed, List.getElem?_eq_getElem inside] at draft
  have shown : graph.resources[id].toDraft = graph.nodes[id].draft := Option.some.inj draft
  rw [shown]
  exact beq_iff_eq.mp same

theorem fresh_of_idOf?_eq_none {graph : ResourceGraph} {fullName : String}
    (unknown : graph.idOf? fullName = none) :
    ∀ resource ∈ graph.resources, resource.fullName ≠ fullName := by
  intro resource member same
  have listed : resource.toDraft ∈ graph.nodes.map (·.draft) := by
    rw [← toDraft_resources]
    exact List.mem_map_of_mem member
  obtain ⟨node, present, shown⟩ := List.mem_map.mp listed
  simpa [shown, same] using List.findIdx?_eq_none_iff.mp unknown node present

/-- A draft goes by a name that is known, and nothing is added, or it is placed behind all
others. -/
theorem insert_cases (graph : ResourceGraph) (parent? : Option Nat) (draft : Draft) :
    (∃ id resource, graph.insert parent? draft = ⟨graph, id, false⟩ ∧
        graph.resource? id = some resource ∧ resource.fullName = draft.fullName) ∨
      (∀ resource ∈ graph.resources, resource.fullName ≠ draft.fullName) ∧
        ∃ grown, graph.insert parent? draft = ⟨grown, graph.size, true⟩ ∧
          grown.resources = graph.resources ++ [.place draft (parent?.bind graph.resource?)] := by
  cases known : graph.idOf? draft.fullName with
  | some id =>
    obtain ⟨resource, there, same⟩ := exists_resource_of_idOf? known
    refine .inl ⟨id, resource, ?_, there, same⟩
    unfold insert
    rw [known]
  | none =>
    have fresh := fresh_of_idOf?_eq_none known
    refine .inr ⟨fresh, (graph.insert parent? draft).graph, ?_, (insert_of_fresh fresh parent?).2⟩
    unfold insert
    rw [known]

def ofType (graph : ResourceGraph) (type : String) : List (Nat × Resource) :=
  (graph.ids.zip graph.resources).filter (·.2.type == type)

/-- Resources stand at their ids. -/
theorem mem_zip_resources {graph : ResourceGraph} {id : Nat} {resource : Resource} :
    (id, resource) ∈ graph.ids.zip graph.resources ↔ graph.resource? id = some resource := by
  constructor
  · intro listed
    obtain ⟨index, found⟩ := List.mem_iff_getElem?.mp listed
    obtain ⟨numbered, there⟩ := List.getElem?_zip_eq_some.mp found
    obtain ⟨_, numbered⟩ := List.getElem?_eq_some_iff.mp numbered
    obtain rfl : index = id := by simpa only [ids, List.getElem_range] using numbered
    exact there
  · intro there
    have inside := lt_size_of_resource? there
    refine List.mem_iff_getElem?.mpr ⟨id, ?_⟩
    exact List.getElem?_zip_eq_some.mpr ⟨List.getElem?_range inside, there⟩

end ResourceGraph

end CredentialReach
