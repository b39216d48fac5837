import CredentialReach.Walk.Interleaving

/-! Walks with their origins. A branch under way knows the collection that it asks and the
resource it belongs to, and every draft that is handed to the graph goes on record with the
branch that found it. What asking comes to is left open: walks whose branches meet with
different answers can be followed side by side. -/

namespace CredentialReach.Walk

/-- A collection to ask for, once. -/
structure Errand where
  /-- The resource that it belongs to, and its id. -/
  parent : Option (Nat × Resource)
  collection : Collection
  start : Nat

namespace Errand

def owner (errand : Errand) : Option Nat := errand.parent.map Prod.fst

def resource (errand : Errand) : Option Resource := errand.parent.map Prod.snd

def request (errand : Errand) : Except CollectionFault Request :=
  errand.collection.source.request errand.resource

def children (errand : Errand) : List Collection := errand.collection.children

/-- How the branch is called where it failed. -/
def error (errand : Errand) (failure : BranchFailure) : BranchError :=
  ⟨errand.collection.source.label, errand.resource.map (·.fullName), failure⟩

end Errand

/-- A draft that a branch handed to the graph, and what became of it. -/
structure Delivery where
  errand : Errand
  draft : Draft
  id : Nat
  created : Bool

def Delivery.resource (delivery : Delivery) : Resource :=
  .place delivery.draft delivery.errand.resource

/-- What a walk goes by: the collections that may be asked for, and what asking comes to. -/
structure Manner where
  permissions : PermissionSet
  ask : Source → Option Resource → (start : Nat) → Visit × List Draft

def Plan.manner (plan : Plan) : Manner := ⟨plan.permissions, plan.visit⟩

namespace Manner

def permitted (manner : Manner) (collections : List Collection) : List Collection :=
  collections.filter fun collection => manner.permissions.meets collection.source.required

/-- The errands that begin at one resource, or at the top. -/
def errands (manner : Manner) (parent : Option (Nat × Resource)) (start : Nat)
    (collections : List Collection) : List Errand :=
  (manner.permitted collections).map (⟨parent, ·, start⟩)

def visit (manner : Manner) (errand : Errand) : Visit :=
  (manner.ask errand.collection.source errand.resource errand.start).1

def drafts (manner : Manner) (errand : Errand) : List Draft :=
  (manner.ask errand.collection.source errand.resource errand.start).2

/-- The errands below a resource that `errand` brought into the graph. -/
def below (manner : Manner) (errand : Errand) (id : Nat) (resource : Resource) : List Errand :=
  manner.errands (some (id, resource)) (manner.visit errand).settled errand.children

/-- Those that a delivery opens where it brought a new resource. -/
def opened (manner : Manner) (delivery : Delivery) : List Errand :=
  manner.below delivery.errand delivery.id delivery.resource

/-- The errands below an id, if the graph knows it. -/
def belowId (manner : Manner) (graph : ResourceGraph) (errand : Errand) (id : Nat) : List Errand :=
  match graph.resource? id with
  | some resource => manner.below errand id resource
  | none => []

end Manner

/-- What a branch has before it. -/
inductive Duty where
  | ask (errand : Errand)
  /-- Some of its drafts are left to hand over; it created the resources `inserted`. -/
  | deliver (errand : Errand) (left : List Draft) (inserted : List Nat)

structure Course where
  graph : ResourceGraph := {}
  duties : Multiset Duty
  /-- The errands that are over, in their order. -/
  tried : List Errand := []
  /-- Everything that was handed to the graph, in its order. -/
  deliveries : List Delivery := []

inductive Manner.Step (manner : Manner) (course : Course) : Course → Prop
  | ask {errand : Errand} {others : Multiset Duty}
      (chosen : course.duties = .ask errand ::ₘ others) :
      Step manner course
        { course with
          duties := .deliver errand (manner.drafts errand) [] ::ₘ others
          tried := course.tried ++ [errand] }
  | deliver {errand : Errand} {draft : Draft} {left : List Draft} {inserted : List Nat}
      {others : Multiset Duty} {added : Insertion}
      (chosen : course.duties = .deliver errand (draft :: left) inserted ::ₘ others)
      (adds : course.graph.add? errand.owner draft = some added) :
      Step manner course
        { course with
          graph := added.graph
          duties := .deliver errand left
            (inserted ++ if added.created then [added.id] else []) ::ₘ others
          deliveries := course.deliveries ++ [⟨errand, draft, added.id, added.created⟩] }
  | lose {errand : Errand} {draft : Draft} {left : List Draft} {inserted : List Nat}
      {others : Multiset Duty}
      (chosen : course.duties = .deliver errand (draft :: left) inserted ::ₘ others)
      (unowned : course.graph.add? errand.owner draft = none) :
      Step manner course { course with duties := .deliver errand left inserted ::ₘ others }
  | spread {errand : Errand} {inserted : List Nat} {others : Multiset Duty}
      (chosen : course.duties = .deliver errand [] inserted ::ₘ others) :
      Step manner course
        { course with
          duties := ↑((inserted.flatMap (manner.belowId course.graph errand)).map Duty.ask) +
            others }

abbrev Manner.Steps (manner : Manner) : Course → Course → Prop := Relation.ReflTransGen manner.Step

def Manner.start (manner : Manner) (collections : List Collection) : Course :=
  { duties := ↑((manner.errands none 0 collections).map Duty.ask) }

/-- The walk can take this course, and it is over. -/
structure Manner.Ends (manner : Manner) (collections : List Collection) (final : Course) : Prop where
  reached : manner.Steps (manner.start collections) final
  done : final.duties = 0

namespace Course

/-- The deliveries that brought a new resource. -/
def created (course : Course) : List Delivery := course.deliveries.filter (·.created)

def names (course : Course) : List String := course.graph.resources.map (·.fullName)

/-- What branches found, with the branch that found it. -/
def finds (manner : Manner) (course : Course) : List (Errand × Draft) :=
  course.tried.flatMap fun errand => (manner.drafts errand).map (errand, ·)

/-- The collections that were asked for below a resource. -/
def triedBelow (course : Course) (id : Nat) : List Collection :=
  (course.tried.filter (·.owner == some id)).map (·.collection)

/-- The same for a full name. -/
def triedUnder (course : Course) (name : String) : List Collection :=
  ((course.graph.idOf? name).map course.triedBelow).getD []

def outcome (manner : Manner) (course : Course) : Outcome :=
  .ofState { graph := course.graph, visits := course.tried.map manner.visit }

end Course

end CredentialReach.Walk
