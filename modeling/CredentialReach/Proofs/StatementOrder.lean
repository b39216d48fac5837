import CredentialReach.Mysql.Snapshot
import CredentialReach.Proofs.StatementRuns

/-! Runs of grants. No grant takes back what another one gives, and none opens a
node for another one: after the run a node holds what it held and what any of the
grants gives it, in whatever order they came. -/

namespace CredentialReach.Mysql

/-- No text takes privileges away. Texts that are no statements may be among them. -/
def OnlyGrants (texts : List String) : Prop :=
  ∀ statement ∈ accepted texts, statement.action = .grant

instance (texts : List String) : Decidable (OnlyGrants texts) :=
  inferInstanceAs (Decidable (∀ statement ∈ accepted texts, statement.action = .grant))

private theorem accepted_perm {first second : List String} (same : first.Perm second) :
    (accepted first).Perm (accepted second) := same.filterMap _

private theorem rejected_perm {first second : List String} (same : first.Perm second) :
    (rejected first).Perm (rejected second) := same.filterMap _

namespace PrivilegeTree

variable (tree : PrivilegeTree)

private theorem mem_held_perform_grant {statement : Statement} (granting : statement.action = .grant)
    (node : Node) (name : String) :
    name ∈ (tree.perform statement).held node ↔
      name ∈ tree.held node ∨
        statement.covers tree.isOpen node = true ∧ name ∈ statement.delta node := by
  rw [held_perform]
  by_cases covered : statement.covers tree.isOpen node = true
  · by_cases said : name ∈ statement.delta node <;>
      simp [covered, Action.mem_change, granting, said]
  · simp [covered]

theorem mem_held_run_grants {statements : List Statement}
    (granting : ∀ statement ∈ statements, statement.action = .grant)
    (node : Node) (name : String) :
    name ∈ (tree.run statements).held node ↔
      name ∈ tree.held node ∨
        ∃ statement ∈ statements,
          statement.covers tree.isOpen node = true ∧ name ∈ statement.delta node := by
  induction statements generalizing tree with
  | nil => simp [run]
  | cons statement rest ih =>
    obtain ⟨first, later⟩ := List.forall_mem_cons.mp granting
    -- The first grant opens nothing, so what the rest covers is settled before it.
    rw [run_cons, ih (tree.perform statement) later, isOpen_perform,
      mem_held_perform_grant tree first]
    simp only [List.mem_cons, exists_eq_or_imp, or_assoc]

private theorem run_perm {first second : List Statement} (same : first.Perm second)
    (granting : ∀ statement ∈ first, statement.action = .grant) :
    tree.run first = tree.run second := by
  have granting' : ∀ statement ∈ second, statement.action = .grant :=
    fun statement member => granting statement (same.mem_iff.mpr member)
  apply ext_nodes
  · intro node
    rw [traits?_run, traits?_run, same.any_eq]
  · intro node
    apply NameSet.ext_mem
    intro name
    rw [mem_held_run_grants tree granting, mem_held_run_grants tree granting']
    simp only [same.mem_iff]

/-- The order of grants shows in the order of the rejections only: every
permutation of the texts gives the same tree. -/
theorem process_permuted {first second : List String} (same : first.Perm second)
    (granting : OnlyGrants first) :
    (tree.process first).tree = (tree.process second).tree ∧
      (tree.process first).rejections.Perm (tree.process second).rejections := by
  rw [process_eq, process_eq]
  exact ⟨run_perm tree (accepted_perm same) granting, rejected_perm same⟩

/-- A grant on a table that is missing from the schema, and one on everything. -/
theorem process_permuted_with_placeholder :
    let tree := ofSnapshot { databases := [⟨"shop", [⟨"orders", none⟩], []⟩] }
    let onMissing := "GRANT SELECT ON `shop`.`archive` TO `app`@`%`"
    let onEverything := "GRANT ALL ON *.* TO `app`@`%`"
    OnlyGrants [onMissing, onEverything] ∧
      (tree.process [onMissing, onEverything]).tree =
        (tree.process [onEverything, onMissing]).tree ∧
      "INSERT" ∈ (tree.process [onMissing, onEverything]).tree.held
        (.within "shop" (.table "orders")) ∧
      "INSERT" ∉ (tree.process [onMissing, onEverything]).tree.held
        (.within "shop" (.table "archive")) := by
  intro tree onMissing onEverything
  have granting : OnlyGrants [onMissing, onEverything] := by decide
  exact ⟨granting, (process_permuted tree (.swap ..) granting).1, by decide, by decide⟩

end PrivilegeTree

end CredentialReach.Mysql
