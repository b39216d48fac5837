import Mathlib.Logic.Hydra
import Mathlib.Tactic.Abel
import CredentialReach.Walk.Course

/-! Every walk ends. A step takes one duty of a branch away, and what it puts in its place is
smaller, however much it is: a draft less to hand over, or branches further down the tree of
collections. So no walk goes on forever, and one that is not over can always take a step. -/

namespace CredentialReach

namespace Collection

variable {collection child : Collection} {collections : List Collection}

theorem height_le_depth (listed : collection ∈ collections) : collection.height ≤ depth collections := by
  induction collections with
  | nil => cases listed
  | cons first rest ih =>
    rw [depth]
    rcases List.mem_cons.mp listed with rfl | later
    · exact Nat.le_max_left ..
    · exact (ih later).trans (Nat.le_max_right ..)

theorem height_eq (collection : Collection) : collection.height = 1 + depth collection.children := by
  obtain ⟨source, children⟩ := collection
  exact height.eq_1 source children

theorem height_lt_of_mem (member : child ∈ collection.children) : child.height < collection.height := by
  rw [height_eq collection]
  have below := height_le_depth member
  omega

end Collection

namespace Walk

variable {manner : Manner} {course next : Course}

/-- How far a branch is from its end: the height of what it may open, then its own drafts. -/
def Duty.rank : Duty → Nat ×ₗ Nat
  | ask errand => toLex (2 * errand.collection.height + 1, 0)
  | deliver errand left _ => toLex (2 * errand.collection.height, left.length)

private theorem rank_of_mem_belowId {graph : ResourceGraph} {errand below : Errand} {id : Nat}
    (member : below ∈ manner.belowId graph errand id) (inserted : List Nat) :
    (Duty.ask below).rank < (Duty.deliver errand [] inserted).rank := by
  unfold Manner.belowId at member
  split at member
  · obtain ⟨collection, listed, rfl⟩ := List.mem_map.mp member
    have lower := Collection.height_lt_of_mem (List.mem_of_mem_filter listed)
    refine Prod.Lex.toLex_lt_toLex.mpr (.inl ?_)
    simp only
    omega
  · cases member

/-- What a step does to the duties. -/
theorem Manner.Step.replaces (step : manner.Step course next) :
    ∃ duty others smaller, course.duties = duty ::ₘ others ∧ next.duties = smaller + others ∧
      ∀ other ∈ smaller, other.rank < duty.rank := by
  -- A draft that was handed over, known or new or lost, is one less.
  have shorter : ∀ (errand : Errand) (draft : Draft) (left : List Draft) (before after : List Nat),
      (Duty.deliver errand left after).rank < (Duty.deliver errand (draft :: left) before).rank :=
    fun _ _ left _ _ => Prod.Lex.toLex_lt_toLex.mpr (.inr ⟨rfl, Nat.lt_succ_self left.length⟩)
  cases step with
  | ask chosen =>
    refine ⟨_, _, {_}, chosen, (Multiset.singleton_add _ _).symm, fun other member => ?_⟩
    obtain rfl := Multiset.mem_singleton.mp member
    exact Prod.Lex.toLex_lt_toLex.mpr (.inl (Nat.lt_succ_self _))
  | deliver chosen | lose chosen =>
    refine ⟨_, _, {_}, chosen, (Multiset.singleton_add _ _).symm, fun other member => ?_⟩
    obtain rfl := Multiset.mem_singleton.mp member
    exact shorter ..
  | spread chosen =>
    refine ⟨_, _, _, chosen, rfl, fun other member => ?_⟩
    obtain ⟨below, listed, rfl⟩ := List.mem_map.mp (Multiset.mem_coe.mp member)
    obtain ⟨id, _, opened⟩ := List.mem_flatMap.mp listed
    exact rank_of_mem_belowId opened _

/-- No walk goes on forever. -/
theorem Manner.wellFounded_step (manner : Manner) :
    WellFounded fun next course => manner.Step course next := by
  have ranks : WellFounded (Relation.CutExpand fun lower upper : Nat ×ₗ Nat => lower < upper) :=
    wellFounded_lt.cutExpand
  refine Subrelation.wf ?_ (InvImage.wf (fun course : Course => course.duties.map Duty.rank) ranks)
  intro next course step
  obtain ⟨duty, others, smaller, before, after, lower⟩ := step.replaces
  refine ⟨smaller.map Duty.rank, duty.rank, fun rank member => ?_, ?_⟩
  · obtain ⟨other, listed, rfl⟩ := Multiset.mem_map.mp member
    exact lower other listed
  · show next.duties.map Duty.rank + {duty.rank} = course.duties.map Duty.rank + smaller.map Duty.rank
    rw [before, after, Multiset.map_add, Multiset.map_cons, ← Multiset.singleton_add]
    abel

/-- A walk that is not over can go on. -/
theorem Manner.exists_step (manner : Manner) (unfinished : course.duties ≠ 0) :
    ∃ next, manner.Step course next := by
  obtain ⟨duty, member⟩ := Multiset.exists_mem_of_ne_zero unfinished
  obtain ⟨others, chosen⟩ := Multiset.exists_cons_of_mem member
  cases duty with
  | ask errand => exact ⟨_, .ask chosen⟩
  | deliver errand left inserted =>
    cases left with
    | nil => exact ⟨_, .spread chosen⟩
    | cons draft left =>
      cases adds : course.graph.add? errand.owner draft with
      | some added => exact ⟨_, .deliver chosen adds⟩
      | none => exact ⟨_, .lose chosen adds⟩

/-- However a walk was begun, it can be brought to its end. -/
theorem Manner.exists_end (manner : Manner) (course : Course) :
    ∃ final, manner.Steps course final ∧ final.duties = 0 := by
  induction course using manner.wellFounded_step.induction with
  | h course ih =>
    by_cases done : course.duties = 0
    · exact ⟨course, .refl, done⟩
    · obtain ⟨next, step⟩ := manner.exists_step done
      obtain ⟨final, steps, done⟩ := ih next step
      exact ⟨final, .head step steps, done⟩

end Walk

end CredentialReach
