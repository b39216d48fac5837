import Mathlib.Data.Multiset.AddSub
import Mathlib.Logic.Relation
import CredentialReach.Walk.Schedule

/-! A walk in its single steps. Branches are under way side by side: each waits for its
response, adds what it found one resource at a time, and when it is through opens the
branches below the resources that were new. Any branch may take the next step. -/

namespace CredentialReach.Walk

def Finding.draft : Finding → Draft
  | of draft _ => draft

/-- The branches that a resource opens once it was added. -/
def opens (added : Insertion) (below : List Branch) : List Open :=
  if added.created then below.map (⟨some added.id, ·⟩) else []

/-- What a branch has before it. -/
inductive Task where
  | waiting (opening : Open)
  /-- Some of what was found is left to add; `opened` are the branches to open then. -/
  | storing (owner : Option Nat) (left : List Finding) (opened : List Open)

structure Progress where
  graph : ResourceGraph := {}
  tasks : Multiset Task
  /-- The visits that are over, in their order. -/
  visits : List Visit := []
  /-- Everything that these visits found, added or not. -/
  extracted : List Draft := []

inductive Step (progress : Progress) : Progress → Prop
  | settle {owner : Option Nat} {visit : Visit} {found : List Finding} {others : Multiset Task}
      (chosen : progress.tasks = .waiting ⟨owner, .of visit found⟩ ::ₘ others) :
      Step progress
        { progress with
          tasks := .storing owner found [] ::ₘ others
          visits := progress.visits ++ [visit]
          extracted := progress.extracted ++ found.map Finding.draft }
  | store {owner : Option Nat} {draft : Draft} {below : List Branch} {left : List Finding}
      {opened : List Open} {others : Multiset Task}
      (chosen : progress.tasks = .storing owner (.of draft below :: left) opened ::ₘ others) :
      Step progress
        { progress with
          graph := (progress.graph.insert owner draft).graph
          tasks := .storing owner left
            (opened ++ opens (progress.graph.insert owner draft) below) ::ₘ others }
  | spread {owner : Option Nat} {opened : List Open} {others : Multiset Task}
      (chosen : progress.tasks = .storing owner [] opened ::ₘ others) :
      Step progress { progress with tasks := ↑(opened.map Task.waiting) + others }

abbrev Steps : Progress → Progress → Prop := Relation.ReflTransGen Step

namespace Progress

def outcome (progress : Progress) : Outcome :=
  .ofState { graph := progress.graph, visits := progress.visits }

/-- No visit was given up at the deadline. -/
def InTime (progress : Progress) : Prop := ∀ visit ∈ progress.visits, visit.failure ≠ some .timedOut

/-- No full name was found twice. -/
def NamesApart (progress : Progress) : Prop := (progress.extracted.map (·.fullName)).Nodup

/-- Whole branches at a time, as single steps see it. -/
def ofState (state : State) (extracted : List Draft) : Progress where
  graph := state.graph
  tasks := ↑(state.pending.map Task.waiting)
  visits := state.visits
  extracted := extracted

end Progress

/-- The walk can come to this end. -/
structure Plan.Ends (plan : Plan) (collections : List Collection) (final : Progress) : Prop where
  reached : Steps (.ofState (plan.start collections) []) final
  done : final.tasks = 0

/-! Settling a branch as a whole is a succession of single steps. -/

theorem steps_addFindings (owner : Option Nat) (found : List Finding) (opened : List Open)
    (others : Multiset Task) (graph : ResourceGraph) (visits : List Visit) (extracted : List Draft) :
    Steps ⟨graph, .storing owner found opened ::ₘ others, visits, extracted⟩
      ⟨(addFindings owner graph found).1,
        .storing owner [] (opened ++ (addFindings owner graph found).2) ::ₘ others, visits, extracted⟩ := by
  induction found generalizing graph opened with
  | nil => rw [addFindings, List.append_nil]
  | cons finding left ih =>
    obtain ⟨draft, below⟩ := finding
    refine .head (.store rfl) ?_
    simpa [addFindings, opens] using
      ih (opened ++ opens (graph.insert owner draft) below) (graph.insert owner draft).graph

theorem steps_settle (state : State) (position : Nat) (extracted : List Draft) :
    ∃ more, Steps (.ofState state extracted) (.ofState (state.settle position) (extracted ++ more)) := by
  cases chosen : state.pending[position]? with
  | none =>
    refine ⟨[], ?_⟩
    rw [State.settle, chosen, List.append_nil]
  | some opening =>
    obtain ⟨owner, visit, found⟩ := opening
    obtain ⟨inside, same⟩ := List.getElem?_eq_some_iff.mp chosen
    let others : Multiset Task := ↑((state.pending.eraseIdx position).map Task.waiting)
    have tasks : (Progress.ofState state extracted).tasks = .waiting ⟨owner, .of visit found⟩ ::ₘ others := by
      have first := (List.getElem_cons_eraseIdx_perm inside).map Task.waiting
      rw [same] at first
      exact (Multiset.coe_eq_coe.mpr first).symm
    refine ⟨found.map Finding.draft, .head (.settle tasks) ?_⟩
    refine (steps_addFindings owner found [] others _ _ _).trans ?_
    have settled : Progress.ofState (state.settle position) (extracted ++ found.map Finding.draft) =
        ⟨(addFindings owner state.graph found).1,
          ↑((addFindings owner state.graph found).2.map Task.waiting) + others, state.visits ++ [visit], extracted ++ found.map Finding.draft⟩ := by
      have joined : others + ↑((addFindings owner state.graph found).2.map Task.waiting) =
          ↑((state.pending.eraseIdx position ++ (addFindings owner state.graph found).2).map Task.waiting) := by
        rw [Multiset.coe_add, ← List.map_append]
      rw [Multiset.add_comm, joined, State.settle, chosen]
      rfl
    rw [settled]
    exact .single (.spread rfl)

theorem steps_run (order : State → Nat) (state : State) (extracted : List Draft) :
    ∃ more, Steps (.ofState state extracted) (.ofState (state.run order) (extracted ++ more)) ∧
      (state.run order).pending = [] := by
  fun_induction State.run order state generalizing extracted with
  | case1 state settled => exact ⟨[], by rw [List.append_nil], settled⟩
  | case2 state open_ ih =>
    obtain ⟨first, step⟩ := steps_settle state (order state % state.pending.length) extracted
    obtain ⟨later, rest, settled⟩ := ih (extracted ++ first)
    exact ⟨first ++ later, by rw [← List.append_assoc]; exact step.trans rest, settled⟩

/-- Every order of whole branches is an order of single steps. -/
theorem Plan.exists_ends (plan : Plan) (order : State → Nat) (collections : List Collection) :
    ∃ final, plan.Ends collections final ∧ final.outcome = plan.walkInOrder order collections := by
  obtain ⟨extracted, reached, settled⟩ := steps_run order (plan.start collections) []
  refine ⟨_, ⟨reached, ?_⟩, rfl⟩
  simp [Progress.ofState, settled]

end CredentialReach.Walk
