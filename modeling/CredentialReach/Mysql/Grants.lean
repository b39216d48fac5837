import CredentialReach.Mysql.Tree

/-! Applying statements to a privilege tree. Each statement is read on its own:
one that cannot be processed is reported and changes nothing. -/

namespace CredentialReach.Mysql

def Action.change (action : Action) (held : NameSet) (privileges : List String) : NameSet :=
  match action with
  | .grant => held.insertAll privileges
  | .revoke => held.eraseAll privileges

namespace Action

variable (action : Action) (held : NameSet)

theorem change_append (first second : List String) :
    action.change held (first ++ second) = action.change (action.change held first) second := by
  cases action <;> simp [change, NameSet.insertAll, NameSet.eraseAll]

theorem mem_change {name : String} {privileges : List String} :
    name ∈ action.change held privileges ↔
      if name ∈ privileges then action = .grant else name ∈ held := by
  cases action <;> by_cases named : name ∈ privileges <;> simp [change, named]

end Action

namespace Statement

def objectPrivileges (statement : Statement) : List String :=
  (statement.items.filter (·.columns.isEmpty)).map (·.privilege)

/-- The static privileges that one name stands for at a level. -/
def expand (level : Level) (name : String) : List String :=
  if isAll name then allAt level
  else
    match staticPrivilege? name with
    | some privilege => if name != usage && privilege.allows level then [name] else []
    | none => []

/-- The static privileges that the statement gives or takes at a level. The
grant option goes to the object that the statement points at, and to no other. -/
def privilegesAt (statement : Statement) (level : Level) (isTarget : Bool) : List String :=
  statement.objectPrivileges.flatMap (expand level) ++
    if statement.withGrantOption && isTarget && level != .column then [grantOption] else []

/-- Dynamic and unknown names, which are kept as they are where the statement
points. -/
def otherPrivileges (statement : Statement) (level : Level) : List String :=
  statement.objectPrivileges.filter fun name =>
    !isAll name && (staticPrivilege? name).isNone && (level == .server || !isDynamic name)

def hasColumns (privilege : String) : Bool :=
  (staticPrivilege? privilege).any (·.allows .column)

def columnPrivileges (statement : Statement) : List (String × String) :=
  (statement.items.filter fun item => hasColumns item.privilege).flatMap fun item =>
    item.columns.map fun column => (column, item.privilege)

def onColumn (statement : Statement) (columns : NameMap Column) (named : String × String) :
    NameMap Column :=
  columns.update named.1 fun found =>
    let column := found.getD { name := named.1 }
    { column with privileges := statement.action.change column.privileges [named.2] }

def onTable (statement : Statement) (isTarget : Bool) (table : Table) : Table :=
  let held := statement.action.change table.privileges (statement.privilegesAt .table isTarget)
  if isTarget then
    { table with
      privileges := statement.action.change held (statement.otherPrivileges .table)
      columns := statement.columnPrivileges.foldl statement.onColumn table.columns }
  else { table with privileges := held }

def onRoutine (statement : Statement) (isTarget : Bool) (routine : Routine) : Routine :=
  { routine with
    privileges :=
      statement.action.change routine.privileges (statement.privilegesAt .routine isTarget) }

/-- The tables of a database that are no placeholders follow it. -/
def onContainedTable (statement : Statement) (table : Table) : Table :=
  if table.placeholder then table else statement.onTable false table

def onContainedRoutine (statement : Statement) (routine : Routine) : Routine :=
  if routine.placeholder then routine else statement.onRoutine false routine

/-- A database and everything in it that is no placeholder. -/
def onDatabase (statement : Statement) (isTarget : Bool) (database : Database) : Database :=
  let held :=
    statement.action.change database.privileges (statement.privilegesAt .database isTarget)
  { database with
    privileges :=
      if isTarget then statement.action.change held (statement.otherPrivileges .database)
      else held
    tables := database.tables.map fun _ => statement.onContainedTable
    procedures := database.procedures.map fun _ => statement.onContainedRoutine
    functions := database.functions.map fun _ => statement.onContainedRoutine }

def onServer (statement : Statement) (held : NameSet) : NameSet :=
  statement.action.change
    (statement.action.change held (statement.privilegesAt .server true))
    (statement.otherPrivileges .server)

/-- A statement on everything passes by built-in databases and placeholders. -/
def onContainedDatabase (statement : Statement) (database : Database) : Database :=
  if database.builtin || database.placeholder then database
  else statement.onDatabase false database

/-- The part of a statement that its target's database sees. -/
def onTarget (statement : Statement) (database : Database) : Database :=
  match statement.target with
  | .everything => statement.onContainedDatabase database
  | .database _ => statement.onDatabase true database
  | .table _ name =>
    { database with
      tables := database.tables.update name fun found =>
        statement.onTable true (found.getD (.placeholderNamed name)) }
  | .routine kind _ name =>
    database.withRoutines kind <| (database.routines kind).update name fun found =>
      statement.onRoutine true (found.getD (.placeholderNamed name kind))

end Statement

namespace PrivilegeTree

/-- Applies a statement, whose database has to be in the tree. -/
def apply (tree : PrivilegeTree) (statement : Statement) :
    Except StatementFault PrivilegeTree :=
  match statement.target.database? with
  | none =>
    .ok { server := statement.onServer tree.server
          databases := tree.databases.map fun _ => statement.onTarget }
  | some name =>
    match tree.databases.get? name with
    | none => .error (.unknownDatabase name)
    | some database =>
      .ok { tree with databases := tree.databases.insert name (statement.onTarget database) }

def declare (tree : PrivilegeTree) (statement : Statement) : PrivilegeTree :=
  match statement.target.database? with
  | none => tree
  | some name =>
    if tree.databases.contains name then tree
    else { tree with databases := tree.databases.insert name (.placeholderNamed name) }

end PrivilegeTree

structure Rejection where
  statement : String
  fault : StatementFault
deriving DecidableEq, Repr

def Rejection.message (rejection : Rejection) : String :=
  s!"cannot process grant '{rejection.statement}': {rejection.fault.reason}"

/-- The tree after some statements, and those that were not processed. -/
structure Outcome where
  tree : PrivilegeTree
  rejections : List Rejection := []

def Outcome.process (outcome : Outcome)
    (entry : String × Except StatementFault Statement) : Outcome :=
  match entry.2.bind outcome.tree.apply with
  | .ok tree => { outcome with tree }
  | .error fault => { outcome with rejections := outcome.rejections ++ [⟨entry.1, fault⟩] }

/-- Applies statements in order. Every database that one of them names is made
room for before the first is applied. -/
def PrivilegeTree.process (tree : PrivilegeTree) (texts : List String) : Outcome :=
  let entries := texts.map fun text => (text, Statement.parse text)
  let declared := entries.foldl (fun tree entry =>
    match entry.2 with
    | .ok statement => tree.declare statement
    | .error _ => tree) tree
  entries.foldl Outcome.process { tree := declared }

end CredentialReach.Mysql
