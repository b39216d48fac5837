import CredentialReach.Mysql.Snapshot
import CredentialReach.Proofs.StatementReading
import CredentialReach.Proofs.StatementRuns

/-! Texts that are no statements. Processing makes room before it applies, so that
no statement fails once it is read: the rejections are the faults of reading, and
the other texts are processed as if they stood alone. -/

namespace CredentialReach.Mysql

def isAccepted (text : String) : Bool := (Statement.parse text).isOk

private theorem isAccepted_ok {text : String} {statement : Statement}
    (read : Statement.parse text = .ok statement) : isAccepted text = true := by
  rw [isAccepted, read]
  rfl

theorem isAccepted_error {text : String} {fault : StatementFault}
    (read : Statement.parse text = .error fault) : isAccepted text = false := by
  rw [isAccepted, read]
  rfl

private theorem accepted_filter (texts : List String) :
    accepted (texts.filter isAccepted) = accepted texts := by
  induction texts with
  | nil => rfl
  | cons text rest ih =>
    cases read : Statement.parse text with
    | ok statement =>
      rw [List.filter_cons_of_pos (isAccepted_ok read), accepted_cons_ok read, ih,
        accepted_cons_ok read]
    | error fault =>
      rw [List.filter_cons_of_neg (by simp [isAccepted_error read]), ih,
        accepted_cons_error read]

private theorem parse_of_mem_rejected {texts : List String} {rejection : Rejection}
    (member : rejection ∈ rejected texts) :
    rejection.statement ∈ texts ∧
      Statement.parse rejection.statement = .error rejection.fault := by
  obtain ⟨text, listed, same⟩ := List.mem_filterMap.mp member
  cases read : Statement.parse text with
  | ok statement =>
    rw [read] at same
    cases same
  | error fault =>
    rw [read] at same
    cases same
    exact ⟨listed, read⟩

private theorem statements_rejected (texts : List String) :
    (rejected texts).map (·.statement) = texts.filter fun text => !isAccepted text := by
  induction texts with
  | nil => rfl
  | cons text rest ih =>
    cases read : Statement.parse text with
    | ok statement =>
      rw [rejected_cons_ok read, ih, List.filter_cons_of_neg (by simp [isAccepted_ok read])]
    | error fault =>
      rw [rejected_cons_error read, List.map_cons, ih,
        List.filter_cons_of_pos (by simp [isAccepted_error read])]

private theorem rejected_filter (texts : List String) : rejected (texts.filter isAccepted) = [] := by
  rw [List.eq_nil_iff_forall_not_mem]
  intro rejection member
  obtain ⟨listed, failed⟩ := parse_of_mem_rejected member
  have read := (List.mem_filter.mp listed).2
  rw [isAccepted_error failed] at read
  cases read

namespace PrivilegeTree

/-- There is one rejection for each text that is no statement, in order and with
the text as it came, and there is no other: a database is never found missing.
The tree is that of the accepted texts alone, so a text that is no statement
leaves no trace beside its own rejection. -/
theorem process_rejects_unread (tree : PrivilegeTree) (texts : List String) :
    (tree.process texts).rejections.map (·.statement) =
        texts.filter (fun text => !isAccepted text) ∧
      (∀ rejection ∈ (tree.process texts).rejections,
        Statement.parse rejection.statement = .error rejection.fault ∧
          ∀ name, rejection.fault ≠ .unknownDatabase name) ∧
      tree.process (texts.filter isAccepted) =
        { tree := (tree.process texts).tree, rejections := [] } ∧
      ∀ before text fault after, texts = before ++ text :: after →
        Statement.parse text = .error fault →
          (tree.process texts).tree = (tree.process (before ++ after)).tree ∧
          (tree.process texts).rejections.Perm
            (⟨text, fault⟩ :: (tree.process (before ++ after)).rejections) := by
  simp only [process_eq]
  refine ⟨statements_rejected texts, ?_, ?_, ?_⟩
  · intro rejection member
    have failed := (parse_of_mem_rejected member).2
    refine ⟨failed, ?_⟩
    intro name unknown
    exact Statement.parse_ne_unknownDatabase rejection.statement name (unknown ▸ failed)
  · rw [accepted_filter, rejected_filter]
  · rintro before text fault after rfl failed
    rw [accepted_append, accepted_cons_error failed, ← accepted_append, rejected_append,
      rejected_cons_error failed, rejected_append]
    exact ⟨rfl, List.perm_middle⟩

/-- A text that starts like no statement, and one that ends too early, among two
statements. -/
theorem process_rejects_unread_between :
    let tree := ofSnapshot { databases := [⟨"shop", [⟨"orders", none⟩], []⟩] }
    let first := "GRANT SELECT ON `shop`.* TO `app`@`%`"
    let last := "REVOKE SELECT ON `shop`.`orders` FROM `app`@`%`"
    let texts := [first, "SHOW TABLES", "GRANT SELECT TO `app`@`%`", last]
    (tree.process texts).rejections.map (·.statement) =
        ["SHOW TABLES", "GRANT SELECT TO `app`@`%`"] ∧
      Statement.parse "SHOW TABLES" = .error .notGrantOrRevoke ∧
      (tree.process texts).tree = (tree.process [first, "GRANT SELECT TO `app`@`%`", last]).tree ∧
      tree.process [first, last] = { tree := (tree.process texts).tree } := by
  intro tree first last texts
  obtain ⟨rejected, _, alone, without⟩ := process_rejects_unread tree texts
  have read : Statement.parse "SHOW TABLES" = .error .notGrantOrRevoke := rfl
  have statements : texts.filter isAccepted = [first, last] := by decide
  have others : texts.filter (fun text => !isAccepted text) =
      ["SHOW TABLES", "GRANT SELECT TO `app`@`%`"] := by decide
  refine ⟨rejected.trans others, read, ?_, statements ▸ alone⟩
  exact (without [first] "SHOW TABLES" _ _ rfl read).1

end PrivilegeTree

end CredentialReach.Mysql
