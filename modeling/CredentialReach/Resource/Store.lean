import CredentialReach.Resource.History

/-! Resources in an arena. A general directed graph holds the drafts, with an edge from each one to
those that it contains, and an index leads from full names to its nodes. Owners are read off the
edges. -/

namespace CredentialReach

/-- A directed graph whose nodes are drafts, numbered from zero on. -/
structure Arena where
  Graph : Type
  empty : Graph
  size : Graph → Nat
  draft? : Graph → Nat → Option Draft
  /-- Where the edges into a node come from. -/
  incoming : Graph → Nat → List Nat
  /-- Where the edges out of a node go to. -/
  outgoing : Graph → Nat → List Nat
  addNode : Graph → Draft → Graph × Nat
  addEdge : Graph → Nat → Nat → Graph

namespace Arena

/-- What an arena promises. A new node is the next one and has no edges, and an edge is between two
nodes and no others. Neighbors come in no set order. -/
structure Laws (arena : Arena) : Prop where
  size_empty : arena.size arena.empty = 0
  draft?_empty : ∀ id, arena.draft? arena.empty id = none
  incoming_empty : ∀ id, arena.incoming arena.empty id = []
  outgoing_empty : ∀ id, arena.outgoing arena.empty id = []
  addNode_next : ∀ graph draft, (arena.addNode graph draft).2 = arena.size graph
  size_addNode : ∀ graph draft, arena.size (arena.addNode graph draft).1 = arena.size graph + 1
  draft?_addNode : ∀ graph draft id, arena.draft? (arena.addNode graph draft).1 id =
    if id = arena.size graph then some draft else arena.draft? graph id
  incoming_addNode : ∀ graph draft id,
    (arena.incoming (arena.addNode graph draft).1 id).Perm (arena.incoming graph id)
  outgoing_addNode : ∀ graph draft id,
    (arena.outgoing (arena.addNode graph draft).1 id).Perm (arena.outgoing graph id)
  size_addEdge : ∀ graph source target, arena.size (arena.addEdge graph source target) = arena.size graph
  draft?_addEdge : ∀ graph source target id,
    arena.draft? (arena.addEdge graph source target) id = arena.draft? graph id
  incoming_addEdge : ∀ graph source target id, source < arena.size graph → target < arena.size graph →
    (arena.incoming (arena.addEdge graph source target) id).Perm
      (if id = target then source :: arena.incoming graph id else arena.incoming graph id)
  outgoing_addEdge : ∀ graph source target id, source < arena.size graph → target < arena.size graph →
    (arena.outgoing (arena.addEdge graph source target) id).Perm
      (if id = source then target :: arena.outgoing graph id else arena.outgoing graph id)

/-- Drafts, and edges with the latest one first. -/
def lists : Arena where
  Graph := List Draft × List (Nat × Nat)
  empty := ([], [])
  size graph := graph.1.length
  draft? graph id := graph.1[id]?
  incoming graph id := (graph.2.filter (·.2 == id)).map (·.1)
  outgoing graph id := (graph.2.filter (·.1 == id)).map (·.2)
  addNode graph draft := ((graph.1 ++ [draft], graph.2), graph.1.length)
  addEdge graph source target := (graph.1, (source, target) :: graph.2)

theorem laws_lists : lists.Laws := by
  constructor
  case draft?_addNode =>
    intro graph draft id
    show (graph.1 ++ [draft])[id]? = if id = graph.1.length then some draft else graph.1[id]?
    grind
  case incoming_addEdge =>
    intro graph source target id _ _
    by_cases into : id = target <;> simp [lists, into, Ne.symm]
  case outgoing_addEdge =>
    intro graph source target id _ _
    by_cases out : id = source <;> simp [lists, out, Ne.symm]
  all_goals simp [lists]

end Arena

structure Store (arena : Arena) where
  graph : arena.Graph := arena.empty
  index : NameMap Nat := ∅

namespace Store

variable {arena : Arena}

/-- Adds a draft unless its full name is in the index. -/
def insert (store : Store arena) (owner : Option Nat) (draft : Draft) : Store arena × Answer :=
  match store.index.get? draft.fullName with
  | some id => (store, ⟨id, false⟩)
  | none =>
    let (graph, id) := arena.addNode store.graph draft
    let graph := match owner with
      | none => graph
      | some parent => arena.addEdge graph parent id
    (⟨graph, store.index.insert draft.fullName id⟩, ⟨id, true⟩)

def get? (store : Store arena) (id : Nat) : Option Draft := arena.draft? store.graph id

def add (store : Store arena) (call : Call) : Store arena × Option Answer :=
  match call.owner with
  | none => (store.insert none call.draft).map id some
  | some parent =>
    match store.get? parent with
    | none => (store, none)
    | some _ => (store.insert (some parent) call.draft).map id some

def idOf? (store : Store arena) (fullName : String) : Option Nat := store.index.get? fullName

def parentOf? (store : Store arena) (id : Nat) : Option Nat := (arena.incoming store.graph id).head?

def childrenOf (store : Store arena) (id : Nat) : List Nat :=
  (arena.outgoing store.graph id).mergeSort (· ≤ ·)

/-- Going up from a resource, one parent after another, until there is none. -/
inductive Climb (store : Store arena) : Nat → List Nat → Prop
  | top {id : Nat} (none : store.parentOf? id = none) : Climb store id []
  | up {id parent : Nat} {above : List Nat} (owned : store.parentOf? id = some parent)
      (rest : Climb store parent above) : Climb store id (parent :: above)

def ids (store : Store arena) : List Nat := List.range (arena.size store.graph)

def roots (store : Store arena) : List Nat := store.ids.filter fun id => (store.parentOf? id).isNone

/-- A store that is made by these calls, and their answers. -/
def of (arena : Arena) (calls : List Call) : Store arena × List (Option Answer) :=
  calls.foldl (fun (store, answers) call =>
    let (next, answer?) := store.add call
    (next, answers ++ [answer?])) ({}, [])

end Store

end CredentialReach
