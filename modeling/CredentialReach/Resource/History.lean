import CredentialReach.Resource.Graph

/-! How a graph came about. Drafts are added by one call after another, and each call is answered
with the resource that its draft goes by and with whether that is new. Callers that share a graph
take turns in any order; one that has the turn adds a draft, or looks at what is there. -/

namespace CredentialReach

/-- A call that adds a draft below a resource, or at the top. -/
structure Call where
  owner : Option Nat
  draft : Draft

structure Answer where
  id : Nat
  created : Bool
deriving DecidableEq, Repr

/-- A graph, and the calls that it was made by with the answers that they were given. A call that
names an owner that is not there has no answer. -/
structure History where
  graph : ResourceGraph := {}
  calls : List (Call × Option Answer) := []

namespace History

def insertion? (history : History) (call : Call) : Option Insertion :=
  history.graph.add? call.owner call.draft

def answer? (history : History) (call : Call) : Option Answer :=
  (history.insertion? call).map fun added => ⟨added.id, added.created⟩

def next (history : History) (call : Call) : History where
  graph := ((history.insertion? call).map (·.graph)).getD history.graph
  calls := history.calls ++ [(call, history.answer? call)]

/-- A graph that is made by these calls. -/
def of (calls : List Call) : History := calls.foldl next {}

/-- The calls that created a resource, each with its id. -/
def created (history : History) : List (Nat × Call) :=
  history.calls.filterMap fun (call, answer?) =>
    match answer? with
    | some ⟨id, true⟩ => some (id, call)
    | _ => none

end History

/-- A draft that belongs below the resource with some full name, or at the top. -/
structure Filing where
  draft : Draft
  owner : Option String := none

namespace History

/-- None if the owner is not there. -/
def file? (history : History) (filing : Filing) : Option History :=
  match filing.owner with
  | none => some (history.next ⟨none, filing.draft⟩)
  | some owner =>
    (history.graph.idOf? owner).map fun parent => history.next ⟨some parent, filing.draft⟩

/-- A graph that is made by filing these drafts, one after another. -/
def ofFilings? (filings : List Filing) : Option History := filings.foldlM file? {}

end History

/-! Callers that share a graph. -/

/-- What a caller has had back. -/
inductive Notice where
  | answered (answer? : Option Answer)
  | seen (graph : ResourceGraph)

inductive Turn where
  | add (call : Call)
  | look

/-- What a caller does next, going by all that it has had back; none if it is through. -/
abbrev Caller := List Notice → Option Turn

structure Sharing where
  history : History := {}
  /-- What each caller has had back. -/
  notices : Nat → List Notice := fun _ => []

namespace Sharing

def notify (sharing : Sharing) (caller : Nat) (notice : Notice) : Nat → List Notice :=
  fun other => sharing.notices other ++ if other = caller then [notice] else []

/-- A turn. The caller has the graph to itself until it is over. -/
inductive Step (callers : Nat → Caller) (sharing : Sharing) : Sharing → Prop
  | add {caller : Nat} {call : Call}
      (turn : callers caller (sharing.notices caller) = some (.add call)) :
      Step callers sharing
        ⟨sharing.history.next call,
          sharing.notify caller (.answered (sharing.history.answer? call))⟩
  | look {caller : Nat} (turn : callers caller (sharing.notices caller) = some .look) :
      Step callers sharing
        { sharing with notices := sharing.notify caller (.seen sharing.history.graph) }

/-- The callers can come to this together. -/
inductive Reached (callers : Nat → Caller) : Sharing → Prop
  | start : Reached callers {}
  | turn {sharing next : Sharing} (reached : Reached callers sharing)
      (step : Step callers sharing next) : Reached callers next

end Sharing

end CredentialReach
