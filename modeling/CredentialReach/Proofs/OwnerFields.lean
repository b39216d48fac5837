import Mathlib.Data.List.Infix
import CredentialReach.Collection.Listing
import CredentialReach.Proofs.TextMarks

/-! Fields of containing resources. A key goes up by one resource for each `parent.` that it
begins with; what is left of it is looked up in the resource that it came to. -/

namespace CredentialReach.Listing

variable {owner : Draft} {owners : List Draft} {key rest field : List Char} {value : String}

def climbing (above : Nat) (field : List Char) : List Char :=
  (List.replicate (above + 1) upward).flatten ++ field

theorem climbing_zero (field : List Char) : climbing 0 field = upward ++ field := by
  simp [climbing]

theorem climbing_succ (above : Nat) (field : List Char) :
    climbing (above + 1) field = upward ++ climbing above field := by
  simp [climbing, List.replicate_succ]

theorem ownerValue?_of_unprefixed (unprefixed : ¬ upward <+: key) : ownerValue? owners key = none := by
  have outside : Text.after? upward key = none := by
    rw [Option.eq_none_iff_forall_ne_some]
    exact fun rest starts => unprefixed ⟨rest, (Text.after?_eq_some_iff.mp starts).symm⟩
  cases owners with
  | nil => rfl
  | cons owner owners => rw [ownerValue?, outside]

theorem ownerValue?_upward (owner : Draft) (owners : List Draft) (rest : List Char) :
    ownerValue? (owner :: owners) (upward ++ rest) =
      if upward <+: rest then ownerValue? owners rest else fieldOf owner rest := by
  have starts : Text.after? upward (upward ++ rest) = some rest := Text.after?_eq_some_iff.mpr rfl
  rw [ownerValue?, starts]
  simp only [List.isPrefixOf_iff_prefix]

/-- A key leads to the resource that its steps count off, if there are so many. -/
theorem ownerValue?_climbing (owners : List Draft) (above : Nat) (reached : ¬ upward <+: field) :
    ownerValue? owners (climbing above field) = owners[above]?.bind (fieldOf · field) := by
  induction above generalizing owners with
  | zero =>
    rw [climbing_zero]
    cases owners with
    | nil => rfl
    | cons owner owners => rw [ownerValue?_upward, if_neg reached]; rfl
  | succ above ih =>
    have further : upward <+: climbing above field := by
      cases above with
      | zero => exact climbing_zero field ▸ List.prefix_append ..
      | succ above => exact climbing_succ above field ▸ List.prefix_append ..
    rw [climbing_succ]
    cases owners with
    | nil => rfl
    | cons owner owners => rw [ownerValue?_upward, if_pos further, ih, List.getElem?_cons_succ]

end CredentialReach.Listing
