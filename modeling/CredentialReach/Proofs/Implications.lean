import Mathlib.Data.List.Perm.Subperm
import CredentialReach.Proofs.HeldPermissions

/-! What implies a permission. A permission is declared to follow from one other at most, so that
the broader ones lie on a path. The path may end, come back to where it started, or run into a cycle
farther on. The search along it stops at the first permission that it has met before: it ends on
every table, and nothing that can be reached is left out. -/

namespace CredentialReach.PermissionTable

/-- The permission that implies this one by way of a number of declarations. -/
def broader? (table : PermissionTable) : (steps : Nat) → (permission : String) → Option String
  | 0, permission => some permission
  | steps + 1, permission => (table.impliedBy.get? permission).bind (table.broader? steps)

/-- The search for what implies a permission, with no bound on its steps. It goes on for as long as
the next permission is one that it has not seen. -/
inductive Finds (table : PermissionTable) :
    (seen : List String) → (permission : String) → (found : List String) → Prop
  | top {seen : List String} {permission : String} (last : table.impliedBy.get? permission = none) :
      table.Finds seen permission []
  | again {seen : List String} {permission broader : String}
      (implied : table.impliedBy.get? permission = some broader) (met : broader ∈ seen) :
      table.Finds seen permission []
  | next {seen : List String} {permission broader : String} {found : List String}
      (implied : table.impliedBy.get? permission = some broader) (new : broader ∉ seen)
      (rest : table.Finds (broader :: seen) broader found) :
      table.Finds seen permission (broader :: found)

variable {table : PermissionTable} {held : PermissionSet} {permission broader : String}
  {seen passed found : List String}

theorem Finds.unique {other : List String} (one : table.Finds seen permission found)
    (two : table.Finds seen permission other) : found = other := by
  induction one generalizing other with
  | top last =>
    cases two with
    | top => rfl
    | again | next => simp_all
  | again implied met =>
    cases two with
    | top | again => rfl
    | next impliedToo new =>
      cases implied.symm.trans impliedToo
      exact absurd met new
  | next implied new _ ih =>
    cases two with
    | top last => simp_all
    | again impliedToo met =>
      cases implied.symm.trans impliedToo
      exact absurd met new
    | next impliedToo _ rest =>
      cases implied.symm.trans impliedToo
      rw [ih rest]

/-- Every permission that was passed is declared to follow from another one, and no two are the
same. So there are no more of them than declarations, and the search stops before its steps run
out. -/
theorem finds_follow {steps : Nat} (apart : (permission :: passed).Nodup)
    (declared : passed ⊆ table.impliedBy.names)
    (enough : table.impliedBy.names.length ≤ passed.length + steps) :
    table.Finds (permission :: passed) permission
      (table.follow steps (permission :: passed) permission) := by
  induction steps generalizing permission passed with
  | zero =>
    refine .top (Option.not_isSome_iff_eq_none.mp fun some => ?_)
    have all : permission :: passed ⊆ table.impliedBy.names :=
      List.cons_subset.mpr ⟨NameMap.mem_names.mpr some, declared⟩
    have bound := (List.subperm_of_subset apart all).length_le
    simp only [List.length_cons] at bound
    omega
  | succ steps ih =>
    cases implied : table.impliedBy.get? permission with
    | none =>
      simp only [follow, implied]
      exact .top implied
    | some broader =>
      by_cases met : broader ∈ permission :: passed
      · simp only [follow, implied, if_pos met]
        exact .again implied met
      · simp only [follow, implied, if_neg met]
        refine .next implied met (ih (List.nodup_cons.mpr ⟨met, apart⟩) ?_ ?_)
        · exact List.cons_subset.mpr ⟨NameMap.mem_names.mpr (by simp [implied]), declared⟩
        · simp only [List.length_cons]
          omega

theorem finds_implying (table : PermissionTable) (permission : String) :
    table.Finds [permission] permission (table.implying permission) := by
  refine finds_follow (List.nodup_singleton permission) (List.nil_subset _) ?_
  simp [NameMap.names]

namespace Finds

private theorem new_of_mem (finds : table.Finds seen permission found) (member : broader ∈ found) :
    broader ∉ seen := by
  induction finds with
  | top | again => cases member
  | next _ new _ ih =>
    rcases List.mem_cons.mp member with rfl | later
    · exact new
    · exact List.not_mem_of_not_mem_cons (ih later)

theorem nodup (finds : table.Finds seen permission found) : found.Nodup := by
  induction finds with
  | top | again => exact List.nodup_nil
  | next _ _ rest ih =>
    exact List.nodup_cons.mpr ⟨fun again => rest.new_of_mem again List.mem_cons_self, ih⟩

/-- The permissions stand at the distance at which they are found. -/
theorem broader?_place (finds : table.Finds seen permission found) {place : Nat}
    (there : (permission :: found)[place]? = some broader) :
    table.broader? place permission = some broader := by
  induction finds generalizing place with
  | top | again =>
    cases place with
    | zero => exact there
    | succ => simp at there
  | next implied _ _ ih =>
    cases place with
    | zero => exact there
    | succ place =>
      rw [List.getElem?_cons_succ] at there
      simp only [broader?, implied, Option.bind_some]
      exact ih there

/-- A declaration leads to what was found, or back to what was seen before. -/
theorem closed {name : String} (finds : table.Finds seen permission found)
    (member : name ∈ permission :: found) (implied : table.impliedBy.get? name = some broader) :
    broader ∈ seen ∨ broader ∈ found := by
  induction finds with
  | top last =>
    obtain rfl := List.mem_singleton.mp member
    rw [last] at implied
    cases implied
  | again first met =>
    obtain rfl := List.mem_singleton.mp member
    cases first.symm.trans implied
    exact .inl met
  | next first _ _ ih =>
    rcases List.mem_cons.mp member with rfl | later
    · cases first.symm.trans implied
      exact .inr List.mem_cons_self
    · rcases ih later with old | new
      · exact (List.mem_cons.mp old).elim (fun same => .inr (same ▸ List.mem_cons_self)) .inl
      · exact .inr (List.mem_cons_of_mem _ new)

/-- No number of steps leads out of what was found. -/
theorem mem_of_broader? {name : String} {steps : Nat}
    (finds : table.Finds [permission] permission found) (member : name ∈ permission :: found)
    (reached : table.broader? steps name = some broader) : broader ∈ permission :: found := by
  induction steps generalizing name with
  | zero =>
    cases reached
    exact member
  | succ steps ih =>
    obtain ⟨next, implied, reached⟩ := Option.bind_eq_some_iff.mp reached
    refine ih ?_ reached
    rcases finds.closed member implied with start | later
    · exact List.mem_singleton.mp start ▸ List.mem_cons_self
    · exact List.mem_cons_of_mem permission later

end Finds

/-- The permissions above one: all that any number of declarations leads to, without itself, each
once and the nearest first. -/
structure Above (table : PermissionTable) (permission : String) (chain : List String) : Prop where
  once : chain.Nodup
  mem_iff : ∀ broader, broader ∈ chain ↔
    broader ≠ permission ∧ ∃ steps, table.broader? (steps + 1) permission = some broader
  /-- No fewer steps lead to a permission than its place in the chain tells. -/
  nearest : ∀ place broader, chain[place]? = some broader →
    table.broader? (place + 1) permission = some broader ∧
      ∀ steps ≤ place, table.broader? steps permission ≠ some broader

private theorem exists_broader?_iff :
    (∃ steps, table.broader? steps permission = some broader) ↔
      broader ∈ permission :: table.implying permission := by
  have finds := finds_implying table permission
  constructor
  · rintro ⟨steps, reached⟩
    exact finds.mem_of_broader? List.mem_cons_self reached
  · intro member
    obtain ⟨place, there⟩ := List.mem_iff_getElem?.mp member
    exact ⟨place, finds.broader?_place there⟩

theorem above_implying (table : PermissionTable) (permission : String) :
    table.Above permission (table.implying permission) := by
  have finds := finds_implying table permission
  have apart : (permission :: table.implying permission).Nodup := by
    refine List.nodup_cons.mpr ⟨fun again => ?_, finds.nodup⟩
    exact finds.new_of_mem again List.mem_cons_self
  constructor
  case once => exact finds.nodup
  case mem_iff =>
    intro broader
    constructor
    · intro member
      obtain ⟨place, there⟩ := List.mem_iff_getElem?.mp member
      refine ⟨fun same => (List.nodup_cons.mp apart).1 (same ▸ member), place, ?_⟩
      exact finds.broader?_place there
    · rintro ⟨different, steps, reached⟩
      exact List.mem_of_ne_of_mem different (finds.mem_of_broader? List.mem_cons_self reached)
  case nearest =>
    intro place broader there
    have inside : place < (table.implying permission).length := (List.getElem?_eq_some_iff.mp there).1
    refine ⟨finds.broader?_place there, fun steps early reached => ?_⟩
    -- What lies at a smaller distance stands earlier, and nothing stands twice.
    obtain ⟨other, earlier⟩ : ∃ other, (permission :: table.implying permission)[steps]? = some other :=
      ⟨_, List.getElem?_eq_getElem (by simp only [List.length_cons]; omega)⟩
    obtain rfl : other = broader := by
      exact Option.some.inj ((finds.broader?_place earlier).symm.trans reached)
    have same : steps = place + 1 := by
      refine (List.getElem?_inj (by simp only [List.length_cons]; omega) apart).mp ?_
      rw [earlier, List.getElem?_cons_succ, there]
    omega

theorem grants_iff_reached :
    table.grants held permission = true ↔
      fullAccess ∈ held ∨
        ∃ steps broader, table.broader? steps permission = some broader ∧ broader ∈ held := by
  have reached : (∃ steps broader, table.broader? steps permission = some broader ∧ broader ∈ held) ↔
      ∃ broader, broader ∈ permission :: table.implying permission ∧ broader ∈ held := by
    rw [exists_comm]
    simp only [exists_and_right, exists_broader?_iff]
  simp only [grants_iff, reached, List.mem_cons, exists_eq_or_imp]
  exact or_left_comm

/-- On every table, cyclic ones too, the search ends. A permission is granted exactly if full access
is held, or the permission or one that any number of declarations leads to; and it is shown with all
of these above it. -/
theorem implications_followed (table : PermissionTable) (held : PermissionSet) (permission : String) :
    (∀ found, table.Finds [permission] permission found ↔ found = table.implying permission) ∧
      (table.grants held permission = true ↔ fullAccess ∈ held ∨
        ∃ steps broader, table.broader? steps permission = some broader ∧ broader ∈ held) ∧
      (table.permission permission).value = permission ∧
      table.Above permission (table.permission permission).impliedBy := by
  have finds := finds_implying table permission
  refine ⟨fun found => ?_, grants_iff_reached, rfl, above_implying table permission⟩
  constructor
  · intro other
    exact other.unique finds
  · rintro rfl
    exact finds

/-- From a the path runs into the cycle of b and c. -/
example : ((({} : PermissionTable).withImplication "a" "b").withImplication "b" "c"
    |>.withImplication "c" "b").implying "a" = ["b", "c"] := by decide +kernel

end CredentialReach.PermissionTable
