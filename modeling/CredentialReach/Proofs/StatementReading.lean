import CredentialReach.Mysql.Statement
import CredentialReach.Proofs.TextMarks
import CredentialReach.Proofs.Traversals

/-! What reading a text can give: a fault of the text alone, or a statement whose
items were each read by themselves. -/

namespace CredentialReach.Mysql

namespace Statement

open Text

/-- What stands between the action and the clause. -/
def privilegeList? (text : String) : Option (List Char) :=
  (readAction? (trimEnd (dropLast ';' (trim text.toList)))).bind fun action =>
    (cutAt? " ON ".toList action.2).map (·.1)

/-- Where the outcome of reading a text comes from. -/
inductive Reading (text : String) : Except StatementFault Statement → Prop
  | misshapen {fault : StatementFault}
      (shape : fault ∈ [.notGrantOrRevoke, .noOnClause, .noPrivileges]) : Reading text (.error fault)
  | target {path : List Char} {fault : StatementFault}
      (failed : readTarget path = .error fault) : Reading text (.error fault)
  | items {list : List Char} {fault : StatementFault}
      (failed : readItems list = .error fault) : Reading text (.error fault)
  | statement {list : List Char} {statement : Statement} (listed : privilegeList? text = some list)
      (read : readItems list = .ok statement.items) : Reading text (.ok statement)

private theorem reading_parse (text : String) : Reading text (parse text) := by
  unfold parse ofChars
  dsimp only
  split
  next => exact .misshapen (by simp)
  next begins =>
    split
    next => exact .misshapen (by simp)
    next list targetAndAccount cut =>
      have listed : privilegeList? text = some list := by
        rw [privilegeList?, begins, Option.bind_some, cut, Option.map_some]
      cases target : readTarget (trim (beforeAny clauseEnds targetAndAccount)) with
      | error fault => exact .target target
      | ok _ =>
        cases items : readItems list with
        | error fault => exact .items items
        | ok found =>
          simp only [bind, Except.bind]
          split
          next => exact .misshapen (by simp)
          next => exact .statement listed items

private theorem readTarget_ne_unknownDatabase (text : List Char) (name : String) :
    readTarget text ≠ .error (.unknownDatabase name) := by
  intro failed
  unfold readTarget at failed
  dsimp only at failed
  repeat' split at failed
  all_goals cases failed

private theorem readItems_ne_unknownDatabase (list : List Char) (name : String) :
    readItems list ≠ .error (.unknownDatabase name) := by
  intro failed
  obtain ⟨item, _, failed⟩ := exists_of_mapM_error failed
  unfold readItem at failed
  split at failed
  next => split at failed <;> cases failed
  next => cases failed

/-- Whether a database is there cannot be seen in a text. -/
theorem parse_ne_unknownDatabase (text name : String) :
    parse text ≠ .error (.unknownDatabase name) := by
  intro failed
  have reading := reading_parse text
  rw [failed] at reading
  cases reading with
  | misshapen shape => simp at shape
  | target failed => exact readTarget_ne_unknownDatabase _ name failed
  | items failed => exact readItems_ne_unknownDatabase _ name failed

theorem privilegeList?_of_parse {text : String} {statement : Statement} (read : parse text = .ok statement) :
    ∃ list, privilegeList? text = some list ∧ readItems list = .ok statement.items := by
  have reading := reading_parse text
  rw [read] at reading
  cases reading with
  | statement listed items => exact ⟨_, listed, items⟩

/-- Every item of a statement was read by itself. -/
theorem exists_readItem_of_parse {text : String} {statement : Statement}
    (read : parse text = .ok statement) {item : Item} (member : item ∈ statement.items) :
    ∃ place, readItem place = .ok item := by
  obtain ⟨_, _, items⟩ := privilegeList?_of_parse read
  obtain ⟨place, _, same⟩ := exists_of_mapM_ok items member
  exact ⟨place, same⟩

variable {place name : List Char} {item : Item}

/-- An item is written as a name, and the inside of the parentheses behind it, if there are any. -/
inductive Written : (place name : List Char) → Option (List Char) → Prop
  | whole {name : List Char} (bare : '(' ∉ name) : Written name name none
  | limited {name list : List Char} (bare : '(' ∉ name) : Written (name ++ '(' :: (list ++ [')'])) name (some list)

theorem readItem_eq_ok_iff : readItem place = .ok item ↔
    ∃ name list, Written place name list ∧ item = ⟨privilegeName name, list.elim [] readColumns⟩ := by
  constructor
  · intro read
    unfold readItem at read
    split at read
    next name rest cut =>
      obtain ⟨rfl, clear⟩ := clear_of_cutAt? cut
      split at read
      next list closed =>
        obtain rfl := before?_eq_some_iff.mp closed
        cases read
        exact ⟨name, some list, .limited clear.not_mem, rfl⟩
      next => cases read
    next uncut =>
      cases read
      refine ⟨place, none, .whole fun opening => ?_, rfl⟩
      obtain ⟨before, after, whole⟩ := List.append_of_mem opening
      have inside : ['('] <:+: place := ⟨before, after, by rw [whole, List.append_assoc]; rfl⟩
      obtain ⟨cut, found⟩ := exists_cutAt? inside
      rw [uncut] at found
      cases found
  · rintro ⟨name, _, written, rfl⟩
    cases written with
    | whole bare =>
      rw [readItem, cutAt?_eq_none (clear_of_not_mem bare []) (List.cons_ne_nil _ _)]
      rfl
    | @limited _ list bare =>
      have clear : Clear ['('] name (['('] ++ (list ++ [')'])) := clear_of_not_mem bare _
      have cut : cutAt? ['('] (name ++ '(' :: (list ++ [')'])) = some (name, list ++ [')']) := cutAt?_clear clear
      have closed : before? [')'] (list ++ [')']) = some list := before?_eq_some_iff.mpr rfl
      rw [readItem, cut]
      simp only [closed]
      rfl

theorem Written.unique {other : List Char} {first second : Option (List Char)}
    (written : Written place name first) (again : Written place other second) :
    name = other ∧ first = second := by
  generalize same : place = text at again
  cases written with
  | whole bare =>
    cases again with
    | whole => exact ⟨same, rfl⟩
    | limited => exact absurd (same ▸ by simp) bare
  | limited bare =>
    cases again with
    | whole otherBare => exact absurd (same ▸ by simp) otherBare
    | limited otherBare =>
      obtain ⟨rfl, lists⟩ := append_inj_of_separator bare otherBare (by simp) (by simp) same
      exact ⟨rfl, congrArg some (List.append_cancel_right (List.cons.inj lists).2)⟩

end Statement

end CredentialReach.Mysql
