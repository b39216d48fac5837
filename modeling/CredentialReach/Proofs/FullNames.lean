import CredentialReach.Proofs.TextMarks
import CredentialReach.Proofs.TreeObjects

/-! Full names of objects. The names of an object and of its owners are joined by
slashes and stand as they are, so that a full name tells its object apart from all
others where databases and tables have no slash in their names. The names of columns
and routines end a full name and may hold anything. -/

namespace CredentialReach.Mysql

namespace Part

/-- What follows the name of its database in the full name of a part. -/
def path : Part → String
  | itself => ""
  | table name => s!"/table/{name}"
  | column holder name => s!"/table/{holder}/column/{name}"
  | routine kind name => s!"/{kind.name}/{name}"

def table? : Part → Option String
  | table name | column name _ => some name
  | itself | routine .. => none

private theorem slash_of_head?_path (part : Part) : ∀ c ∈ part.path.toList.head?, c = '/' := by
  cases part <;> simp [path, toString]

private theorem path_injective {part other : Part} (plain : ∀ name ∈ part.table?, '/' ∉ name.toList)
    (otherPlain : ∀ name ∈ other.table?, '/' ∉ name.toList) (same : part.path = other.path) :
    part = other := by
  have texts := congrArg String.toList same
  cases part with
  | itself => cases other <;> simp [path, toString] at texts ⊢
  | table name =>
    have free := plain name rfl
    cases other with
    | itself => simp [path, toString] at texts
    | table => simpa [path, toString, String.toList_inj] using texts
    | column holder =>
      -- The name of the table would hold the slash before the column.
      simp only [path, toString, String.toList_append, List.append_assoc,
        List.append_cancel_left_eq] at texts
      rw [texts] at free
      simp at free
    | routine kind => cases kind <;> simp [path, toString, RoutineKind.name] at texts
  | column holder name =>
    have free := plain holder rfl
    cases other with
    | itself => simp [path, toString] at texts
    | table other =>
      have otherFree := otherPlain other rfl
      simp only [path, toString, String.toList_append, List.append_assoc,
        List.append_cancel_left_eq] at texts
      rw [← texts] at otherFree
      simp at otherFree
    | column other _ =>
      simp only [path, toString, String.toList_append, List.append_assoc,
        List.append_cancel_left_eq] at texts
      obtain ⟨holders, names⟩ :=
        Text.append_inj_of_separator free (otherPlain other rfl) (by simp) (by simp) texts
      rw [List.append_cancel_left_eq] at names
      rw [String.toList_inj.mp holders, String.toList_inj.mp names]
    | routine kind => cases kind <;> simp [path, toString, RoutineKind.name] at texts
  | routine kind name =>
    cases other with
    | itself => simp [path, toString] at texts
    | table | column => cases kind <;> simp [path, toString, RoutineKind.name] at texts
    | routine other _ =>
      cases kind <;> cases other <;>
        simp [path, toString, RoutineKind.name, String.toList_inj] at texts ⊢ <;> exact texts

end Part

namespace Node

private theorem fullName_server (address : String) : server.fullName address = "server/" ++ address := rfl

theorem fullName_within (address database : String) (part : Part) :
    (within database part).fullName address =
      "server/" ++ address ++ "/database/" ++ database ++ part.path := by
  cases part <;> simp [fullName, Part.path, toString, String.append_assoc]

/-- The names of a node's database and table hold no slash. -/
def Plain : Node → Prop
  | server => True
  | within database part =>
    '/' ∉ database.toList ∧ ∀ name ∈ part.table?, '/' ∉ name.toList

private theorem fullName_injective {address : String} {node other : Node} (plain : node.Plain)
    (otherPlain : other.Plain) (same : node.fullName address = other.fullName address) :
    node = other := by
  have texts := congrArg String.toList same
  cases node with
  | server =>
    cases other with
    | server => rfl
    | within => simp [fullName_within, fullName_server] at texts
  | within database part =>
    cases other with
    | server => simp [fullName_within, fullName_server] at texts
    | within other more =>
      simp only [fullName_within, String.toList_append, List.append_assoc,
        List.append_cancel_left_eq] at texts
      obtain ⟨databases, parts⟩ := Text.append_inj_of_separator plain.1 otherPlain.1
        part.slash_of_head?_path more.slash_of_head?_path texts
      rw [String.toList_inj.mp databases,
        Part.path_injective plain.2 otherPlain.2 (String.toList_inj.mp parts)]

end Node

namespace PrivilegeTree

/-- No database and no table of the tree has a slash in its name. -/
def Plain (tree : PrivilegeTree) : Prop :=
  ∀ database part, .within database part ∈ tree.nodes →
    part.level ∈ [.database, .table] → '/' ∉ (part.name database).toList

theorem Plain.node {tree : PrivilegeTree} (plain : tree.Plain) {node : Node}
    (member : node ∈ tree.nodes) : node.Plain := by
  cases node with
  | server => trivial
  | within database part =>
    have owner {part other : Part} (member : .within database part ∈ tree.nodes)
        (above : .within database other ∈ (Node.within database part).owners) :
        .within database other ∈ tree.nodes := owner_mem_nodes member above
    have holder : '/' ∉ database.toList := by
      refine plain database .itself ?_ (by simp [Part.level])
      cases part with
      | itself => exact member
      | table | column | routine => exact owner member (by simp [Node.owners])
    refine ⟨holder, ?_⟩
    cases part with
    | itself | routine => simp [Part.table?]
    | table name =>
      rintro _ ⟨⟩
      exact plain database (.table name) member (by simp [Part.level])
    | column table name =>
      rintro _ ⟨⟩
      exact plain database (.table table) (owner member (by simp [Node.owners]))
        (by simp [Part.level])

theorem Plain.namedApart {tree : PrivilegeTree} (plain : tree.Plain) (address : String) :
    tree.NamedApart address :=
  fun _ member _ other same => Node.fullName_injective (plain.node member) (plain.node other) same

end PrivilegeTree

end CredentialReach.Mysql
