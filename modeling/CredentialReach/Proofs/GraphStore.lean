import CredentialReach.Resource.Store
import CredentialReach.Proofs.GraphHistory

/-! A store and a graph that the same calls have made. Whatever the arena, the store answers each
call as the graph does and can be asked for the same resources, parents, children and roots. No node
has two parents, and going up from it ends. -/

namespace CredentialReach

namespace Store

variable {arena : Arena} {store : Store arena} {graph : ResourceGraph}

/-- The nodes of the store are those of the graph, and its edges lead to them from their parents. -/
structure Mirrors (store : Store arena) (graph : ResourceGraph) : Prop where
  size : arena.size store.graph = graph.size
  drafts : ∀ id, store.get? id = graph.get? id
  index : ∀ name, store.idOf? name = graph.idOf? name
  incoming : ∀ id, arena.incoming store.graph id = (graph.parentOf? id).toList
  outgoing : ∀ id, (arena.outgoing store.graph id).Perm (graph.childrenOf id)

private theorem eq_toList_of_perm {found : List Nat} {parent? : Option Nat} (same : found.Perm parent?.toList) :
    found = parent?.toList := by
  cases parent? with
  | none => exact List.perm_nil.mp same
  | some parent => exact List.perm_singleton.mp same

private theorem Mirrors.add_of_owned (mirrors : store.Mirrors graph) {call : Call}
    (owned : ∀ parent ∈ call.owner, parent < graph.size) :
    store.add call = (store.insert call.owner call.draft).map id some := by
  unfold Store.add
  cases owner : call.owner with
  | none => rfl
  | some parent =>
    have there : (store.get? parent).isSome = true := by
      rw [mirrors.drafts, ResourceGraph.isSome_get?]
      exact owned parent owner
    obtain ⟨draft, found⟩ := Option.isSome_iff_exists.mp there
    simp only [found]

theorem of_append (arena : Arena) (calls : List Call) (call : Call) :
    of arena (calls ++ [call]) =
      (((of arena calls).1.add call).1, (of arena calls).2 ++ [((of arena calls).1.add call).2]) :=
  List.foldl_concat ..

section Laws

variable (laws : arena.Laws)
include laws

private theorem mirrors_empty : ({} : Store arena).Mirrors {} where
  size := laws.size_empty
  drafts := laws.draft?_empty
  index := fun _ => rfl
  incoming := laws.incoming_empty
  outgoing := by
    intro id
    show (arena.outgoing arena.empty id).Perm []
    rw [laws.outgoing_empty]

theorem Mirrors.addNode (mirrors : store.Mirrors graph) {draft : Draft}
    (new : graph.idOf? draft.fullName = none) :
    Mirrors ⟨(arena.addNode store.graph draft).1, store.index.insert draft.fullName graph.size⟩
      ⟨graph.nodes ++ [⟨draft, none⟩]⟩ where
  size := by rw [laws.size_addNode, mirrors.size, ResourceGraph.size_grown rfl]
  drafts := by
    intro id
    rw [ResourceGraph.get?_grown rfl, get?, laws.draft?_addNode, mirrors.size]
    split
    · rfl
    · exact mirrors.drafts id
  index := by
    intro name
    rw [ResourceGraph.idOf?_grown rfl new, idOf?, NameMap.get?_insert]
    split
    · rfl
    · exact mirrors.index name
  incoming := by
    intro id
    apply eq_toList_of_perm
    have same := laws.incoming_addNode store.graph draft id
    rw [mirrors.incoming] at same
    rw [ResourceGraph.parentOf?_grown rfl]
    split
    next last =>
      subst last
      rwa [graph.parentOf?_size] at same
    next => exact same
  outgoing := by
    intro id
    rw [ResourceGraph.childrenOf_grown rfl, if_neg (Option.some_ne_none id).symm]
    exact (laws.outgoing_addNode store.graph draft id).trans (mirrors.outgoing id)

/-- The node is there without a parent, and then the edge to it gives it one. -/
theorem Mirrors.addEdge {draft : Draft} {parent : Nat}
    (mirrors : store.Mirrors ⟨graph.nodes ++ [⟨draft, none⟩]⟩) (there : parent < graph.size) :
    Mirrors ⟨arena.addEdge store.graph parent graph.size, store.index⟩
      ⟨graph.nodes ++ [⟨draft, some parent⟩]⟩ := by
  have size : arena.size store.graph = graph.size + 1 := by
    rw [mirrors.size, ResourceGraph.size_grown rfl]
  have source : parent < arena.size store.graph := by omega
  have target : graph.size < arena.size store.graph := by omega
  constructor
  case size => rw [laws.size_addEdge, size, ResourceGraph.size_grown rfl]
  case drafts =>
    intro id
    have before := mirrors.drafts id
    rw [ResourceGraph.get?_grown rfl] at before ⊢
    rw [get?, laws.draft?_addEdge]
    exact before
  case index =>
    intro name
    refine (mirrors.index name).trans ?_
    simp [ResourceGraph.idOf?, List.findIdx?_append]
  case incoming =>
    intro id
    apply eq_toList_of_perm
    have found := laws.incoming_addEdge store.graph parent graph.size id source target
    rw [mirrors.incoming, ResourceGraph.parentOf?_grown rfl] at found
    rw [ResourceGraph.parentOf?_grown rfl]
    by_cases last : id = graph.size
    · rw [if_pos last, if_pos last] at found
      rw [if_pos last]
      exact found
    · rw [if_neg last, if_neg last] at found
      rw [if_neg last]
      exact found
  case outgoing =>
    intro id
    have before := mirrors.outgoing id
    have found := laws.outgoing_addEdge store.graph parent graph.size id source target
    rw [ResourceGraph.childrenOf_grown rfl] at before ⊢
    rw [if_neg (Option.some_ne_none id).symm] at before
    by_cases owner : id = parent
    · subst owner
      rw [if_pos rfl] at found ⊢
      exact found.trans ((before.cons _).trans (List.perm_append_singleton ..).symm)
    · rw [if_neg owner] at found
      rw [if_neg (fun same => owner (Option.some.inj same).symm)]
      exact found.trans before

/-- A new draft is a new node, with an edge to it if it has a parent. -/
theorem Mirrors.insert (mirrors : store.Mirrors graph) {owner : Option Nat} {draft : Draft}
    (owned : ∀ parent ∈ owner, parent < graph.size) (new : graph.idOf? draft.fullName = none) :
    (store.insert owner draft).2 = ⟨graph.size, true⟩ ∧
      (store.insert owner draft).1.Mirrors ⟨graph.nodes ++ [⟨draft, owner⟩]⟩ := by
  have unknown : store.index.get? draft.fullName = none := (mirrors.index _).trans new
  have added := mirrors.addNode laws new
  unfold Store.insert
  rw [unknown]
  cases owner with
  | none =>
    simp only [laws.addNode_next, mirrors.size]
    exact ⟨trivial, added⟩
  | some parent =>
    simp only [laws.addNode_next, mirrors.size]
    exact ⟨trivial, added.addEdge laws (owned parent rfl)⟩

/-- A call does to the store what it does to the graph, and is answered alike. -/
theorem Mirrors.add {history later : History} {call : Call} {answer? : Option Answer}
    (mirrors : store.Mirrors history.graph) (grows : history.Grows call answer? later) :
    (store.add call).2 = answer? ∧ (store.add call).1.Mirrors later.graph := by
  cases grows with
  | @refused parent owner absent =>
    have missing : store.get? parent = none := by
      rw [mirrors.drafts, ← Option.not_isSome_iff_eq_none, ResourceGraph.isSome_get?]
      exact Nat.not_lt.mpr absent
    unfold Store.add
    simp only [owner, missing]
    exact ⟨trivial, mirrors⟩
  | known owned known =>
    rw [mirrors.add_of_owned owned]
    have listed : store.index.get? call.draft.fullName = some _ := (mirrors.index _).trans known
    unfold Store.insert
    rw [listed]
    exact ⟨rfl, mirrors⟩
  | created owned new =>
    rw [mirrors.add_of_owned owned]
    obtain ⟨answer, kept⟩ := mirrors.insert laws owned new
    exact ⟨congrArg some answer, kept⟩

/-- A store goes along with the graph of the same calls, answer by answer. -/
theorem mirrors_of (calls : List Call) :
    (of arena calls).1.Mirrors (History.of calls).graph ∧
      (of arena calls).2 = (History.of calls).calls.map (·.2) := by
  induction calls using List.reverseRecOn with
  | nil => exact ⟨mirrors_empty laws, rfl⟩
  | append_singleton calls call ih =>
    obtain ⟨mirrors, answers⟩ := ih
    obtain ⟨answer, kept⟩ := mirrors.add laws (History.grows (.of calls) call)
    rw [of_append, History.of_append]
    refine ⟨kept, ?_⟩
    rw [History.next, List.map_append, answers, answer]
    rfl

end Laws

structure Agrees (store : Store arena) (graph : ResourceGraph) : Prop where
  ids : store.ids = graph.ids
  drafts : ∀ id, store.get? id = graph.get? id
  index : ∀ name, store.idOf? name = graph.idOf? name
  /-- No node has two parents. -/
  incoming : ∀ id, arena.incoming store.graph id = (graph.parentOf? id).toList
  parentOf? : ∀ id, store.parentOf? id = graph.parentOf? id
  childrenOf : ∀ id, store.childrenOf id = graph.childrenOf id
  roots : store.roots = graph.roots
  climb : ∀ id above, store.Climb id above ↔ above = graph.ancestors id

theorem Mirrors.parentOf? (mirrors : store.Mirrors graph) (id : Nat) :
    store.parentOf? id = graph.parentOf? id := by
  unfold Store.parentOf?
  rw [mirrors.incoming]
  cases graph.parentOf? id <;> rfl

theorem Mirrors.childrenOf (mirrors : store.Mirrors graph) (id : Nat) :
    store.childrenOf id = graph.childrenOf id := by
  have same := mirrors.outgoing id
  unfold Store.childrenOf
  generalize arena.outgoing store.graph id = found at same
  have sorted : (found.mergeSort (· ≤ ·)).Pairwise fun a b => decide (a ≤ b) = true := by
    apply List.pairwise_mergeSort
    · simp only [decide_eq_true_eq]
      exact fun _ _ _ => Nat.le_trans
    · simp only [Bool.or_eq_true, decide_eq_true_eq]
      exact Nat.le_total
  simp only [decide_eq_true_eq] at sorted
  apply List.Perm.eq_of_pairwise _ sorted ((graph.ascending_childrenOf id).imp Nat.le_of_lt)
  · exact (List.mergeSort_perm _ _).trans same
  · exact fun _ _ _ _ => Nat.le_antisymm

/-- Going up ends since it goes to older resources. -/
theorem Mirrors.climb (mirrors : store.Mirrors graph) (orderly : graph.Orderly) (id : Nat) :
    store.Climb id (graph.ancestors id) := by
  induction id using Nat.strongRecOn with
  | ind id ih =>
    rw [orderly.ancestors_eq]
    cases contained : graph.parentOf? id with
    | none => exact .top ((mirrors.parentOf? id).trans contained)
    | some parent =>
      exact .up ((mirrors.parentOf? id).trans contained) (ih parent (orderly.older id parent contained))

theorem Climb.unique {id : Nat} {above other : List Nat} (one : store.Climb id above)
    (two : store.Climb id other) : above = other := by
  induction one generalizing other with
  | top none =>
    cases two with
    | top => rfl
    | up owned => simp [none] at owned
  | up owned rest ih =>
    cases two with
    | top none => simp [none] at owned
    | up also further =>
      obtain rfl : _ = _ := Option.some.inj (owned.symm.trans also)
      rw [ih further]

theorem Mirrors.agrees (mirrors : store.Mirrors graph) (orderly : graph.Orderly) :
    store.Agrees graph where
  ids := by
    unfold Store.ids ResourceGraph.ids
    rw [mirrors.size]
  drafts := mirrors.drafts
  index := mirrors.index
  incoming := mirrors.incoming
  parentOf? := mirrors.parentOf?
  childrenOf := mirrors.childrenOf
  roots := by
    unfold Store.roots Store.ids ResourceGraph.roots ResourceGraph.ids
    simp only [mirrors.size, mirrors.parentOf?]
  climb := by
    intro id above
    constructor
    · intro climbs
      exact climbs.unique (mirrors.climb orderly id)
    · rintro rfl
      exact mirrors.climb orderly id

end Store

/-- Whatever the calls, they leave a forest and are told apart by their answers, and one more adds
a resource or leaves the graph as it is. A store of any arena has the same to tell. Callers that
take turns only make such a sequence of calls. -/
theorem calls_make_forest {arena : Arena} (laws : arena.Laws) :
    (∀ calls, (History.of calls).Sound ∧
      (∀ call, (History.of calls).Grows call ((History.of calls).answer? call)
        (.of (calls ++ [call]))) ∧
      (Store.of arena calls).1.Agrees (History.of calls).graph ∧
      (Store.of arena calls).2 = (History.of calls).calls.map (·.2)) ∧
    ∀ callers sharing, Sharing.Reached callers sharing →
      sharing.InTurn ∧ sharing.history.Sound := by
  refine ⟨?_, ?_⟩
  · intro calls
    have kept := History.kept_of calls
    obtain ⟨mirrors, answers⟩ := Store.mirrors_of laws calls
    refine ⟨kept.sound, ?_, mirrors.agrees kept.orderly, answers⟩
    intro call
    rw [History.of_append]
    exact History.grows _ call
  · intro callers sharing reached
    have inTurn := reached.inTurn
    refine ⟨inTurn, ?_⟩
    rw [inTurn.history]
    exact (History.kept_of _).sound

/-- The first caller adds an account and, below what it was answered, a project. The second one adds
the account as well and a project below a resource that is not there, and looks at what there is. -/
def twoCallers : Nat → Caller
  | 0, [] => some (.add ⟨none, ⟨"Account", "account", "account", ∅⟩⟩)
  | 0, [.answered (some answer)] => some (.add ⟨some answer.id, ⟨"Web", "account/web", "project", ∅⟩⟩)
  | 1, [] => some (.add ⟨none, ⟨"Account", "account", "account", ∅⟩⟩)
  | 1, [_] => some (.add ⟨some 7, ⟨"App", "account/app", "project", ∅⟩⟩)
  | 1, [_, _] => some .look
  | _, _ => none

theorem two_callers_make_forest :
    ∃ sharing, Sharing.Reached twoCallers sharing ∧
      sharing.history.calls.map (·.2) =
        [some ⟨0, true⟩, some ⟨0, false⟩, some ⟨1, true⟩, none] ∧
      sharing.history.graph.ancestors 1 = [0] ∧
      (Store.of .lists sharing.calls).1.Agrees sharing.history.graph ∧
      sharing.InTurn ∧ sharing.history.Sound := by
  have first := Sharing.Reached.turn .start (@Sharing.Step.add twoCallers _ 0 _ rfl)
  have second := first.turn (@Sharing.Step.add twoCallers _ 1 _ rfl)
  have third := second.turn (@Sharing.Step.add twoCallers _ 0 _ rfl)
  have fourth := third.turn (@Sharing.Step.add twoCallers _ 1 _ rfl)
  have last := fourth.turn (@Sharing.Step.look twoCallers _ 1 rfl)
  obtain ⟨made, shared⟩ := calls_make_forest Arena.laws_lists
  obtain ⟨inTurn, sound⟩ := shared twoCallers _ last
  refine ⟨_, last, rfl, rfl, ?_, inTurn, sound⟩
  rw [inTurn.history]
  exact (made _).2.2.1

end CredentialReach
