import Mathlib
import CredentialReach.Permission.Basic
import CredentialReach.Proofs.PrivilegeLevels
import CredentialReach.Proofs.StatementReading

/-! How privileges are written. The reader of statements leaves no letter of a
privilege in lower case, so that no text can give the privilege that stands for all. -/

namespace CredentialReach.Mysql

/-- No letter of the name has a capital form other than itself. -/
def IsCapital (name : String) : Prop := Text.upper name.toList = name.toList

instance (name : String) : Decidable (IsCapital name) :=
  inferInstanceAs (Decidable (Text.upper name.toList = name.toList))

namespace Statement

private theorem isCapital_privilegeName (text : List Char) : IsCapital (privilegeName text) := by
  simp [IsCapital, privilegeName, Text.upper]

private theorem isCapital_of_readItem {place : List Char} {item : Item}
    (read : readItem place = .ok item) : IsCapital item.privilege := by
  obtain ⟨name, list, _, rfl⟩ := readItem_eq_ok_iff.mp read
  exact isCapital_privilegeName name

end Statement

theorem isCapital_of_isStatic {name : String} (known : IsStatic name) : IsCapital name := by
  have listed : ∀ privilege ∈ staticPrivileges, IsCapital privilege.name := by decide
  obtain ⟨privilege, member, rfl⟩ := known
  exact listed privilege member

private theorem Statement.Concerns.isCapital {text : String} {statement : Statement} {node : Node}
    {name : String} (concerns : statement.Concerns node name)
    (read : Statement.parse text = .ok statement) : IsCapital name := by
  cases concerns with
  | static _ _ allowed => exact isCapital_of_isStatic allowed.isStatic
  | all _ _ _ _ member => exact isCapital_of_isStatic (mem_allAt.mp member).1.isStatic
  | option _ _ same => exact same ▸ by decide
  | verbatim _ _ named =>
    obtain ⟨item, member, _, rfl⟩ := named
    obtain ⟨place, read⟩ := exists_readItem_of_parse read member
    exact isCapital_of_readItem read
  | column _ _ _ _ _ _ _ _ allowed => exact isCapital_of_isStatic allowed.isStatic

namespace PrivilegeTree

private theorem isCapital_of_mem_held {snapshot : Snapshot} {batches : List (List String)} {node : Node}
    {name : String} (member : name ∈ ((ofSnapshot snapshot).processAll batches).held node) :
    IsCapital name := by
  rcases concerns_of_mem_processAll member with before | ⟨text, statement, read, concerns⟩
  · rw [held_ofSnapshot] at before
    exact absurd before (NameSet.not_mem_empty name)
  · exact concerns.isCapital read

/-- No set grants everything there is. -/
theorem hasFullAccess_processAll (snapshot : Snapshot) (batches : List (List String))
    (node : Node) :
    PermissionSet.hasFullAccess (((ofSnapshot snapshot).processAll batches).held node) = false := by
  refine decide_eq_false fun member => ?_
  have written : ¬ IsCapital fullAccess := by decide
  exact written (isCapital_of_mem_held member)

end PrivilegeTree

end CredentialReach.Mysql
