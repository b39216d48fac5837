import CredentialReach.Proofs.ResourceForest

/-! Graphs that calls have made. A call is refused, or its name is known, or it puts a draft behind
all others, and in every case full names stay apart and a resource is older than those that it
contains. So the resources are a forest, numbered in the order of their creation, and each was
created by one call. Callers that share a graph only make such calls, one after another. -/

namespace CredentialReach

namespace History

variable {history later : History} {call : Call}

inductive Grows (history : History) (call : Call) : Option Answer → History → Prop
  | refused {parent : Nat} (owner : call.owner = some parent)
      (absent : history.graph.size ≤ parent) :
      Grows history call none ⟨history.graph, history.calls ++ [(call, none)]⟩
  | known {id : Nat} (owned : ∀ parent ∈ call.owner, parent < history.graph.size)
      (known : history.graph.idOf? call.draft.fullName = some id) :
      Grows history call (some ⟨id, false⟩)
        ⟨history.graph, history.calls ++ [(call, some ⟨id, false⟩)]⟩
  | created (owned : ∀ parent ∈ call.owner, parent < history.graph.size)
      (new : history.graph.idOf? call.draft.fullName = none) :
      Grows history call (some ⟨history.graph.size, true⟩)
        ⟨⟨history.graph.nodes ++ [⟨call.draft, call.owner⟩]⟩,
          history.calls ++ [(call, some ⟨history.graph.size, true⟩)]⟩

private theorem insertion?_of_owned (owned : ∀ parent ∈ call.owner, parent < history.graph.size) :
    history.insertion? call = some (history.graph.insert call.owner call.draft) := by
  unfold insertion? ResourceGraph.add?
  cases owner : call.owner with
  | none => rfl
  | some parent => exact if_pos (owned parent owner)

theorem grows (history : History) (call : Call) :
    history.Grows call (history.answer? call) (history.next call) := by
  by_cases owned : ∀ parent ∈ call.owner, parent < history.graph.size
  · unfold next answer?
    rw [insertion?_of_owned owned]
    unfold ResourceGraph.insert
    cases known : history.graph.idOf? call.draft.fullName with
    | some id => exact .known owned known
    | none => exact .created owned known
  · obtain ⟨parent, failed⟩ := Classical.not_forall.mp owned
    obtain ⟨member, absent⟩ := Classical.not_imp.mp failed
    have owner : call.owner = some parent := member
    have refused : history.insertion? call = none := by
      unfold insertion? ResourceGraph.add?
      rw [owner]
      exact if_neg absent
    unfold next answer?
    rw [refused]
    exact .refused owner (Nat.not_lt.mp absent)

theorem graph_next_of_new (owned : ∀ parent ∈ call.owner, parent < history.graph.size)
    (new : history.graph.idOf? call.draft.fullName = none) :
    (history.next call).graph = ⟨history.graph.nodes ++ [⟨call.draft, call.owner⟩]⟩ := by
  unfold next
  rw [insertion?_of_owned owned]
  unfold ResourceGraph.insert
  rw [new]
  rfl

structure Kept (history : History) : Prop where
  orderly : history.graph.Orderly
  created : history.created = history.graph.entries
  answered : ∀ call answer, (call, some answer) ∈ history.calls →
    history.graph.idOf? call.draft.fullName = some answer.id

theorem created_append (graph : ResourceGraph) (calls : List (Call × Option Answer))
    (call : Call) (answer? : Option Answer) :
    created ⟨graph, calls ++ [(call, answer?)]⟩ =
      created ⟨graph, calls⟩ ++
        match answer? with
        | some ⟨id, true⟩ => [(id, call)]
        | _ => [] := by
  unfold created
  rw [List.filterMap_append]
  rcases answer? with _ | ⟨id, _ | _⟩ <;> rfl

theorem answered_append {graph : ResourceGraph} {calls : List (Call × Option Answer)}
    {answer? : Option Answer}
    (before : ∀ call answer, (call, some answer) ∈ calls →
      graph.idOf? call.draft.fullName = some answer.id)
    (last : ∀ answer ∈ answer?, graph.idOf? call.draft.fullName = some answer.id) :
    ∀ other answer, (other, some answer) ∈ calls ++ [(call, answer?)] →
      graph.idOf? other.draft.fullName = some answer.id := by
  intro other answer listed
  rcases List.mem_append.mp listed with earlier | here
  · exact before other answer earlier
  · obtain ⟨rfl, same⟩ := Prod.mk.inj (List.mem_singleton.mp here)
    exact last answer same.symm

theorem Kept.next {answer? : Option Answer} (kept : history.Kept)
    (grows : history.Grows call answer? later) : later.Kept := by
  cases grows with
  | refused owner absent =>
    refine ⟨kept.orderly, ?_, answered_append kept.answered ?_⟩
    · rw [created_append, List.append_nil]
      exact kept.created
    · intro answer none
      cases none
  | known owned known =>
    refine ⟨kept.orderly, ?_, answered_append kept.answered ?_⟩
    · rw [created_append, List.append_nil]
      exact kept.created
    · rintro _ ⟨⟩
      exact known
  | created owned new =>
    refine ⟨kept.orderly.grow rfl new owned, ?_, answered_append ?_ ?_⟩
    · rw [created_append, ResourceGraph.entries_grown rfl, ← kept.created]
      rfl
    · -- What was answered before had another name.
      intro other answer earlier
      have leads := kept.answered other answer earlier
      have different : other.draft.fullName ≠ call.draft.fullName := by
        intro same
        rw [same, new] at leads
        cases leads
      rw [ResourceGraph.idOf?_grown rfl new, if_neg different, leads]
    · rintro _ ⟨⟩
      rw [ResourceGraph.idOf?_grown rfl new, if_pos rfl]

theorem of_append (calls : List Call) (call : Call) :
    History.of (calls ++ [call]) = (History.of calls).next call :=
  List.foldl_concat ..

theorem kept_of (calls : List Call) : (History.of calls).Kept := by
  induction calls using List.reverseRecOn with
  | nil =>
    refine ⟨ResourceGraph.orderly_empty, rfl, ?_⟩
    intro call answer listed
    cases listed
  | append_singleton calls call ih =>
    rw [of_append]
    exact ih.next (grows _ call)

/-- The resources of a graph are a forest, and the calls that it was made by are told apart. -/
structure Sound (history : History) : Prop where
  forest : history.graph.Forest
  /-- Ids are given in the order of creation, and each to what was created. -/
  numbered : history.created.map (·.1) = List.range history.graph.size
  placed : ∀ id call, (id, call) ∈ history.created ↔
    history.graph.get? id = some call.draft ∧ history.graph.parentOf? id = call.owner
  /-- A name that is stored was created by one call, and no other name was. -/
  once : ∀ name, (history.created.map (·.2.draft.fullName)).count name =
    if (history.graph.idOf? name).isSome then 1 else 0
  answered : ∀ call answer, (call, some answer) ∈ history.calls →
    history.graph.idOf? call.draft.fullName = some answer.id

theorem Kept.sound (kept : history.Kept) : history.Sound where
  forest := kept.orderly.forest
  numbered := by
    rw [kept.created]
    exact history.graph.ids_entries
  placed := by
    intro id call
    rw [kept.created]
    exact ResourceGraph.mem_entries
  once := by
    intro name
    rw [kept.created, ResourceGraph.names_entries, kept.orderly.apart.count]
    simp only [ResourceGraph.mem_fullNames_iff]
  answered := kept.answered

end History

namespace Sharing

variable {callers : Nat → Caller} {sharing : Sharing}

def calls (sharing : Sharing) : List Call := sharing.history.calls.map (·.1)

/-- Callers that take turns have made one sequence of calls, and each has seen what a part of it
made. -/
structure InTurn (sharing : Sharing) : Prop where
  history : sharing.history = .of sharing.calls
  seen : ∀ caller graph, .seen graph ∈ sharing.notices caller →
    ∃ earlier, earlier <+: sharing.calls ∧ graph = (History.of earlier).graph
  answered : ∀ caller answer?, .answered answer? ∈ sharing.notices caller →
    ∃ call, (call, answer?) ∈ sharing.history.calls

theorem mem_notify {caller other : Nat} {notice had : Notice}
    (member : had ∈ sharing.notify caller notice other) :
    had ∈ sharing.notices other ∨ had = notice := by
  unfold notify at member
  rcases List.mem_append.mp member with earlier | last
  · exact .inl earlier
  · split at last
    · exact .inr (List.mem_singleton.mp last)
    · cases last

theorem InTurn.step {next : Sharing} (inTurn : sharing.InTurn) (step : Step callers sharing next) :
    next.InTurn := by
  cases step with
  | @add caller call turn =>
    have extended : (sharing.history.next call).calls.map (·.1) = sharing.calls ++ [call] := by
      rw [History.next, List.map_append]
      rfl
    refine ⟨?_, ?_, ?_⟩
    · show sharing.history.next call = .of ((sharing.history.next call).calls.map (·.1))
      rw [extended, History.of_append, ← inTurn.history]
    · intro other graph member
      rcases mem_notify member with earlier | last
      · obtain ⟨part, before, made⟩ := inTurn.seen other graph earlier
        refine ⟨part, ?_, made⟩
        show part <+: (sharing.history.next call).calls.map (·.1)
        rw [extended]
        exact before.trans (List.prefix_append ..)
      · cases last
    · intro other answer? member
      rcases mem_notify member with earlier | last
      · obtain ⟨made, listed⟩ := inTurn.answered other answer? earlier
        exact ⟨made, List.mem_append_left _ listed⟩
      · cases last
        exact ⟨call, List.mem_append_right _ (List.mem_singleton_self _)⟩
  | @look caller turn =>
    refine ⟨inTurn.history, ?_, ?_⟩
    · intro other graph member
      rcases mem_notify member with earlier | last
      · exact inTurn.seen other graph earlier
      · cases last
        exact ⟨sharing.calls, List.prefix_rfl, congrArg History.graph inTurn.history⟩
    · intro other answer? member
      rcases mem_notify member with earlier | last
      · exact inTurn.answered other answer? earlier
      · cases last

theorem Reached.inTurn (reached : Reached callers sharing) : sharing.InTurn := by
  induction reached with
  | start =>
    refine ⟨rfl, ?_, ?_⟩
    · intro caller graph member
      cases member
    · intro caller answer? member
      cases member
  | turn _ step ih => exact ih.step step

end Sharing

end CredentialReach
