import CredentialReach.Mysql.Privilege
import CredentialReach.Mysql.Statement
import CredentialReach.Names.Map
import CredentialReach.Names.Set

/-! Everything one account can do on a server, object by object. -/

namespace CredentialReach.Mysql

structure Column where
  name : String
  privileges : NameSet := ∅

/-- Where a set of names is expected, a column stands for its privileges. -/
instance : CoeOut Column NameSet := ⟨Column.privileges⟩

/-- A table, with the privileges on it and on those of its columns that a
statement has named. A placeholder is named by a statement and absent from the
schema. -/
structure Table where
  name : String
  bytes : Option Nat := none
  placeholder : Bool := false
  privileges : NameSet := ∅
  columns : NameMap Column := ∅

structure Routine where
  name : String
  kind : RoutineKind
  placeholder : Bool := false
  privileges : NameSet := ∅

structure Database where
  name : String
  /-- One of the server's own schemas. -/
  builtin : Bool
  placeholder : Bool := false
  privileges : NameSet := ∅
  tables : NameMap Table := ∅
  procedures : NameMap Routine := ∅
  functions : NameMap Routine := ∅

def Table.placeholderNamed (name : String) : Table := { name, placeholder := true }

def Routine.placeholderNamed (name : String) (kind : RoutineKind) : Routine :=
  { name, kind, placeholder := true }

namespace Database

def named (name : String) : Database := { name, builtin := isBuiltinDatabase name }

def placeholderNamed (name : String) : Database := { named name with placeholder := true }

def routines (database : Database) : RoutineKind → NameMap Routine
  | .procedure => database.procedures
  | .function => database.functions

def withRoutines (database : Database) (kind : RoutineKind) (routines : NameMap Routine) :
    Database :=
  match kind with
  | .procedure => { database with procedures := routines }
  | .function => { database with functions := routines }

@[simp] theorem routines_withRoutines (database : Database) (kind other : RoutineKind)
    (routines : NameMap Routine) :
    (database.withRoutines kind routines).routines other =
      if other = kind then routines else database.routines other := by
  cases kind <;> cases other <;> rfl

@[simp] theorem tables_withRoutines (database : Database) (kind : RoutineKind)
    (routines : NameMap Routine) :
    (database.withRoutines kind routines).tables = database.tables := by
  cases kind <;> rfl

end Database

structure PrivilegeTree where
  server : NameSet := ∅
  databases : NameMap Database := ∅

instance : Inhabited PrivilegeTree := ⟨{}⟩

end CredentialReach.Mysql
