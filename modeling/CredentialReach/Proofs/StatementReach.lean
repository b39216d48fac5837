import CredentialReach.Mysql.Grants
import CredentialReach.Proofs.TreeNodes

/-! What one statement does to a tree, node by node. It adds the nodes that it
names and that are not there, and it changes the privileges of the nodes that
it covers. What it covers depends on the tree through open nodes only. -/

namespace CredentialReach.Mysql

/-- The databases in which a target can change anything. -/
def Target.meets (target : Target) (database : String) : Bool :=
  match target.database? with
  | none => true
  | some name => name = database

def Target.part? : Target → Option Part
  | .everything => none
  | .database _ => some .itself
  | .table _ name => some (.table name)
  | .routine kind _ name => some (.routine kind name)

def Part.placeholder (database : String) : Part → Traits
  | .itself => { name := database, builtin := isBuiltinDatabase database, placeholder := true }
  | .table name => { name, placeholder := true }
  | .column _ name => { name }
  | .routine kind name => { name, kind := some kind, placeholder := true }

/-- The server is never added. -/
def Node.placeholder : Node → Traits
  | .server => { placeholder := true }
  | .within database part => part.placeholder database

namespace Statement

/-- The columns that stand with a privilege that columns can carry. -/
def lists (statement : Statement) (column : String) : Bool :=
  statement.items.any fun item => hasColumns item.privilege && item.columns.contains column

def namesPart (statement : Statement) : Part → Bool
  | .itself => false
  | .table name => statement.target.part? = some (.table name)
  | .column table name =>
    statement.target.part? = some (.table table) && statement.lists name
  | .routine kind name => statement.target.part? = some (.routine kind name)

/-- The nodes that a statement names: the database of its target, the table or
routine there, and the columns it lists. -/
def names (statement : Statement) : Node → Bool
  | .server => false
  | .within database part =>
    statement.target.database? = some database && (part = .itself || statement.namesPart part)

def coversPart (statement : Statement) (isOpen : Part → Bool) (part : Part) : Bool :=
  match statement.target, part with
  | .everything, _ => isOpen .itself && isOpen part
  | .database _, .itself => true
  | .database _, _ => isOpen part
  | .table _ name, .table other => name = other
  | .table _ name, .column table column => name = table && statement.lists column
  | .routine kind _ name, .routine otherKind other => kind = otherKind && name = other
  | _, _ => false

def covers (statement : Statement) (isOpen : Node → Bool) : Node → Bool
  | .server => statement.target = .everything
  | .within database part =>
    statement.target.meets database &&
      statement.coversPart (fun part => isOpen (.within database part)) part

def saidOfColumn (statement : Statement) (name : String) : List String :=
  (statement.columnPrivileges.filter fun named => named.1 = name).map (·.2)

/-- What a statement adds to or takes from a part that it covers. -/
def deltaPart (statement : Statement) (part : Part) : List String :=
  let isTarget := decide (statement.target.part? = some part)
  match part with
  | .column _ name => statement.saidOfColumn name
  | .routine .. => statement.privilegesAt .routine isTarget
  | .itself | .table _ =>
    statement.privilegesAt part.level isTarget ++
      if isTarget then statement.otherPrivileges part.level else []

def delta (statement : Statement) : Node → List String
  | .server => statement.privilegesAt .server true ++ statement.otherPrivileges .server
  | .within _ part => statement.deltaPart part

private theorem any_columnPrivileges (statement : Statement) (column : String) :
    (statement.columnPrivileges.any fun named => named.1 = column) = statement.lists column := by
  rw [Bool.eq_iff_iff]
  simp only [columnPrivileges, lists, List.any_eq_true, List.mem_flatMap, List.mem_filter,
    List.mem_map, Bool.and_eq_true, decide_eq_true_eq, List.contains_iff_mem]
  constructor
  · rintro ⟨named, ⟨item, ⟨member, carries⟩, other, listed, rfl⟩, rfl⟩
    exact ⟨item, member, carries, listed⟩
  · rintro ⟨item, member, carries, listed⟩
    exact ⟨(column, item.privilege), ⟨item, ⟨member, carries⟩, column, listed, rfl⟩, rfl⟩

/-- Columns that are named several times collect what each naming says. -/
theorem get?_foldl_onColumn (statement : Statement) (named : List (String × String))
    (columns : NameMap Column) (name : String) :
    (named.foldl statement.onColumn columns).get? name =
      if named.any (fun entry => entry.1 = name) then
        let column := (columns.get? name).getD { name }
        some { column with
          privileges := statement.action.change column.privileges
            ((named.filter fun entry => entry.1 = name).map (·.2)) }
      else columns.get? name := by
  induction named generalizing columns with
  | nil => simp
  | cons entry rest ih =>
    simp only [List.foldl_cons, ih, onColumn, NameMap.get?_update, List.any_cons, List.filter_cons]
    by_cases same : entry.1 = name
    · subst same
      by_cases later : rest.any (fun other => other.1 = entry.1) = true
      · simp [later, ← Action.change_append]
      · have alone : rest.filter (fun other => other.1 = entry.1) = [] := by
          rw [List.filter_eq_nil_iff]
          exact fun other member equal => later (List.any_eq_true.mpr ⟨other, member, equal⟩)
        simp [later, alone]
    · rw [if_neg (Ne.symm same)]
      simp only [decide_eq_false same, Bool.false_or, Bool.false_eq_true, if_false]

def onEntry (statement : Statement) (covered : Bool) (said : List String) (entry : Entry) : Entry :=
  if covered then
    { entry with privileges := statement.action.change entry.privileges said }
  else entry

@[simp] theorem onEntry_false (statement : Statement) (said : List String) :
    statement.onEntry false said = id := rfl

section

variable (statement : Statement) (database : Database)

/-- What a statement finds at a part: the entry there, or else a placeholder if
it names the part. -/
def found (owner : String) (part : Part) : Option Entry :=
  (database.get? part).or
    (if statement.namesPart part then some ⟨part.placeholder owner, ∅⟩ else none)

private theorem routines_onDatabase (isTarget : Bool) (kind : RoutineKind) :
    (statement.onDatabase isTarget database).routines kind =
      (database.routines kind).map fun _ => statement.onContainedRoutine := by
  cases kind <;> rfl

@[simp] theorem columns_onContainedTable (table : Table) :
    (statement.onContainedTable table).columns = table.columns := by
  unfold onContainedTable
  split <;> rfl

private theorem entry_onContainedTable (table : Table) :
    (statement.onContainedTable table).entry =
      statement.onEntry table.entry.traits.isOpen (statement.privilegesAt .table false)
        table.entry := by
  cases closed : table.placeholder <;>
    simp [onContainedTable, onTable, onEntry, Table.entry, Traits.isOpen, closed]

private theorem entry_onContainedRoutine (routine : Routine) :
    (statement.onContainedRoutine routine).entry =
      statement.onEntry routine.entry.traits.isOpen (statement.privilegesAt .routine false)
        routine.entry := by
  cases closed : routine.placeholder <;>
    simp [onContainedRoutine, onRoutine, onEntry, Routine.entry, Traits.isOpen, closed]

/-- Below a wide target the open tables and routines change. -/
theorem get?_onDatabase_contained (isTarget : Bool) (part : Part) (inside : part ≠ .itself) :
    (statement.onDatabase isTarget database).get? part =
      (database.get? part).map
        (statement.onEntry (database.isOpen part)
          (statement.privilegesAt part.level false)) := by
  cases part with
  | itself => exact absurd rfl inside
  | table name =>
    cases found : database.tables.get? name <;>
      simp [Database.get?, Database.isOpen, onDatabase, Part.level, Part.isColumn, found,
        entry_onContainedTable]
  | column table name =>
    cases found : database.tables.get? table <;>
      simp [Database.get?, Database.isOpen, onDatabase, Part.level, Part.isColumn, found]
  | routine kind name =>
    cases found : (database.routines kind).get? name <;>
      simp [Database.get?, Database.isOpen, routines_onDatabase, Part.level, Part.isColumn, found,
        entry_onContainedRoutine]

private theorem entry_onDatabase (isTarget : Bool) :
    (statement.onDatabase isTarget database).entry =
      statement.onEntry true (statement.privilegesAt .database isTarget ++
        if isTarget then statement.otherPrivileges .database else []) database.entry := by
  cases isTarget <;> simp [onDatabase, onEntry, Database.entry, Action.change_append]

private theorem entry_onTable_target (table : Table) :
    (statement.onTable true table).entry =
      statement.onEntry true
        (statement.privilegesAt .table true ++ statement.otherPrivileges .table) table.entry := by
  simp [onTable, onEntry, Table.entry, Action.change_append]

private theorem column_onTable_target (table : Table) (name : String) :
    ((statement.onTable true table).columns.get? name).map Column.entry =
      (((table.columns.get? name).map Column.entry).or
        (if statement.lists name then some { traits := { name } } else none)).map
          (statement.onEntry (statement.lists name) (statement.saidOfColumn name)) := by
  simp only [onTable, if_true, get?_foldl_onColumn, any_columnPrivileges]
  cases statement.lists name with
  | false => simp
  | true =>
    cases table.columns.get? name <;> simp [Column.entry, onEntry, saidOfColumn]

private def ActsAt (owner : String) (part : Part) : Prop :=
  (statement.onTarget database).get? part =
    (statement.found database owner part).map
      (statement.onEntry (statement.coversPart database.isOpen part) (statement.deltaPart part))

private theorem actsAt_everything (owner : String) (part : Part)
    (aimed : statement.target = .everything) : statement.ActsAt database owner part := by
  unfold ActsAt
  have unnamed : statement.namesPart part = false := by
    cases part <;> simp [namesPart, aimed, Target.part?]
  simp only [onTarget, aimed, onContainedDatabase, found, unnamed, Bool.false_eq_true, if_false,
    Option.or_none]
  cases closed : database.builtin || database.placeholder with
  | true =>
    have shut : database.isOpen .itself = false := by
      simpa only [Database.isOpen_itself, ← Bool.not_or, Bool.not_eq_false'] using closed
    have uncovered : statement.coversPart database.isOpen part = false := by
      cases part <;> simp [coversPart, aimed, shut]
    simp [uncovered]
  | false =>
    have wide : database.isOpen .itself = true := by
      simpa only [Database.isOpen_itself, ← Bool.not_or, Bool.not_eq_true'] using closed
    cases part with
    | itself =>
      simp [Database.get?, entry_onDatabase, coversPart, aimed, wide, deltaPart, Target.part?,
        Part.level]
    | column table name =>
      simp [get?_onDatabase_contained, coversPart, aimed, Part.level]
    | table _ | routine =>
      simp [get?_onDatabase_contained, coversPart, aimed, wide, deltaPart, Target.part?,
        Part.level]

private theorem actsAt_database (owner : String) (part : Part) {name : String}
    (aimed : statement.target = .database name) : statement.ActsAt database owner part := by
  unfold ActsAt
  have unnamed : statement.namesPart part = false := by
    cases part <;> simp [namesPart, aimed, Target.part?]
  simp only [onTarget, aimed, found, unnamed, Bool.false_eq_true, if_false, Option.or_none]
  cases part with
  | itself =>
    simp [Database.get?, entry_onDatabase, coversPart, aimed, deltaPart, Target.part?, Part.level]
  | column table name =>
    simp [get?_onDatabase_contained, coversPart, aimed, Part.level]
  | table _ | routine =>
    simp [get?_onDatabase_contained, coversPart, aimed, deltaPart, Target.part?, Part.level]

private theorem actsAt_table (owner : String) (part : Part) {holder name : String}
    (aimed : statement.target = .table holder name) : statement.ActsAt database owner part := by
  simp only [ActsAt, onTarget, aimed, found]
  cases part with
  | itself => simp [Database.get?, Database.entry, namesPart, coversPart, aimed]
  | table other =>
    by_cases same : name = other
    · subst same
      have blank : (Table.placeholderNamed name).entry =
          ⟨(Part.table name).placeholder owner, ∅⟩ := rfl
      cases found : database.tables.get? name <;>
        simp [Database.get?, namesPart, coversPart, deltaPart, Target.part?, Part.level, aimed,
          entry_onTable_target, found, blank]
    · simp [Database.get?, namesPart, coversPart, Target.part?, aimed, same, Ne.symm same]
  | column table column =>
    by_cases same : name = table
    · subst same
      cases found : database.tables.get? name <;>
        simp [Database.get?, namesPart, coversPart, deltaPart, Target.part?, aimed,
          column_onTable_target, found, Table.placeholderNamed, Part.placeholder]
    · simp [Database.get?, namesPart, coversPart, Target.part?, aimed, same, Ne.symm same]
  | routine kind other =>
    simp [Database.get?, Database.routines, namesPart, coversPart, Target.part?, aimed]

private theorem actsAt_routine (owner : String) (part : Part) {kind : RoutineKind}
    {holder name : String} (aimed : statement.target = .routine kind holder name) :
    statement.ActsAt database owner part := by
  simp only [ActsAt, onTarget, aimed, found]
  cases part with
  | itself =>
    cases kind <;>
      simp [Database.get?, Database.entry, Database.withRoutines, namesPart, coversPart, aimed]
  | table _ | column =>
    simp [Database.get?, namesPart, coversPart, Target.part?, aimed]
  | routine otherKind other =>
    by_cases same : kind = otherKind
    · subst same
      by_cases same : name = other
      · subst same
        have blank : (Routine.placeholderNamed name kind).entry =
            ⟨(Part.routine kind name).placeholder owner, ∅⟩ := rfl
        have entry (routine : Routine) : (statement.onRoutine true routine).entry =
            statement.onEntry true (statement.privilegesAt .routine true) routine.entry := rfl
        cases found : (database.routines kind).get? name <;>
          simp [Database.get?, namesPart, coversPart, deltaPart, Target.part?, aimed, entry,
            found, blank]
      · simp [Database.get?, namesPart, coversPart, Target.part?, aimed, same, Ne.symm same]
    · simp [Database.get?, namesPart, coversPart, Target.part?, aimed, same, Ne.symm same]

/-- A statement changes the entries that it finds in a database of its target,
where it covers them. -/
theorem get?_onTarget (owner : String) (part : Part) :
    (statement.onTarget database).get? part =
      (statement.found database owner part).map
        (statement.onEntry (statement.coversPart database.isOpen part)
          (statement.deltaPart part)) := by
  cases aimed : statement.target with
  | everything => exact actsAt_everything statement database owner part aimed
  | database name => exact actsAt_database statement database owner part aimed
  | table holder name => exact actsAt_table statement database owner part aimed
  | routine kind holder name => exact actsAt_routine statement database owner part aimed

end

end Statement

end CredentialReach.Mysql
