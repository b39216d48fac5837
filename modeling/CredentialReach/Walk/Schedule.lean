import CredentialReach.Resource.Graph
import CredentialReach.Walk.Branch

/-! The course of a walk. Open branches are settled one at a time, in any order;
the resources of each are added to the graph, and those that are new open
further branches. -/

namespace CredentialReach.Walk

/-- An open branch, and the resource it belongs to. -/
structure Open where
  owner : Option Nat
  branch : Branch

structure State where
  graph : ResourceGraph := {}
  pending : List Open := []
  /-- The visits that are over, in their order. -/
  visits : List Visit := []

/-- Adds what a visit found below `owner`. Only a resource that is new opens
its branches. -/
def addFindings (owner : Option Nat) : ResourceGraph → List Finding → ResourceGraph × List Open
  | graph, [] => (graph, [])
  | graph, .of draft below :: rest =>
    let added := graph.insert owner draft
    let (graph, opened) := addFindings owner added.graph rest
    (graph, (if added.created then below.map (⟨some added.id, ·⟩) else []) ++ opened)

namespace State

/-- The branches still to be settled, and all those below them. -/
def remaining (pending : List Open) : Nat := Branch.sizes (pending.map (·.branch))

def settle (state : State) (position : Nat) : State :=
  match state.pending[position]? with
  | none => state
  | some ⟨owner, .of visit found⟩ =>
    let (graph, opened) := addFindings owner state.graph found
    { graph, pending := state.pending.eraseIdx position ++ opened
      visits := state.visits ++ [visit] }

private theorem remaining_append (first second : List Open) :
    remaining (first ++ second) = remaining first + remaining second := by
  induction first with
  | nil => simp [remaining, Branch.sizes]
  | cons head rest ih =>
    simp only [remaining, List.cons_append, List.map_cons, Branch.sizes] at ih ⊢
    omega

private theorem remaining_eraseIdx {pending : List Open} {position : Nat} {chosen : Open}
    (found : pending[position]? = some chosen) :
    remaining (pending.eraseIdx position) + chosen.branch.size = remaining pending := by
  induction pending generalizing position with
  | nil => simp at found
  | cons head rest ih =>
    cases position with
    | zero =>
      simp only [List.getElem?_cons_zero, Option.some.injEq] at found
      subst found
      simp [remaining, Branch.sizes, Nat.add_comm]
    | succ position =>
      have := ih (by simpa using found)
      simp only [List.eraseIdx_cons_succ, remaining, List.map_cons, Branch.sizes] at this ⊢
      omega

private theorem remaining_opened (owner : Nat) (branches : List Branch) :
    remaining (branches.map (⟨some owner, ·⟩)) = Branch.sizes branches := by
  induction branches with
  | nil => rfl
  | cons head rest ih =>
    simp only [remaining, List.map_cons, Branch.sizes] at ih ⊢
    rw [ih]

private theorem remaining_addFindings (owner : Option Nat) (graph : ResourceGraph)
    (found : List Finding) :
    remaining (addFindings owner graph found).2 ≤ Finding.sizes found := by
  induction found generalizing graph with
  | nil => simp [addFindings, remaining, Finding.sizes, Branch.sizes]
  | cons head rest ih =>
    obtain ⟨draft, below⟩ := head
    have later := ih (graph.insert owner draft).graph
    simp only [addFindings, Finding.sizes, remaining_append]
    split
    · rw [remaining_opened]
      omega
    · simp only [remaining, List.map_nil, Branch.sizes]
      simp only [remaining] at later
      omega

/-- Settling a branch leaves fewer than before. -/
theorem remaining_settle {state : State} {position : Nat}
    (inside : position < state.pending.length) :
    remaining (state.settle position).pending < remaining state.pending := by
  obtain ⟨chosen, found⟩ : ∃ chosen, state.pending[position]? = some chosen :=
    ⟨_, List.getElem?_eq_getElem inside⟩
  obtain ⟨owner, visit, findings⟩ := chosen
  have less := remaining_eraseIdx found
  have few := remaining_addFindings owner state.graph findings
  simp only [Branch.size] at less
  simp only [settle, found, remaining_append]
  omega

/-- Settles branches until none is open, each time the one that `order` picks. -/
def run (order : State → Nat) (state : State) : State :=
  if _settled : state.pending = [] then state
  else run order (state.settle (order state % state.pending.length))
termination_by remaining state.pending
decreasing_by
  exact remaining_settle (Nat.mod_lt _ (List.length_pos_iff.mpr _settled))

def earliest (state : State) : Nat :=
  let times := state.pending.map (·.branch.visit.settled)
  times.idxOf (times.min?.getD 0)

end State

structure Outcome where
  graph : ResourceGraph
  error : Option WalkError
  /-- Every request, in the order in which the visits were over. -/
  sent : List Request
  elapsed : Nat

def Outcome.ofState (state : State) : Outcome :=
  { graph := state.graph
    error := WalkError.join? (state.visits.filterMap Visit.error?)
    sent := state.visits.filterMap (·.request)
    elapsed := (state.visits.map (·.settled)).foldl max 0 }

def Plan.start (plan : Plan) (collections : List Collection) : State :=
  { pending := (plan.branches 0 none collections).map (⟨none, ·⟩) }

/-- A walk whose branches are over in a given order. -/
def Plan.walkInOrder (plan : Plan) (order : State → Nat) (collections : List Collection) :
    Outcome :=
  .ofState ((plan.start collections).run order)

/-- Everything that can be reached from the top collections. -/
def Plan.walk (plan : Plan) (collections : List Collection) : Outcome :=
  plan.walkInOrder State.earliest collections

end CredentialReach.Walk
