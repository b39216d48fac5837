import CredentialReach.Mysql.Snapshot
import CredentialReach.Proofs.TreeNodes

/-! The nodes of a tree that was made from a schema: databases, tables and
routines under their own names, and nothing held on them. -/

namespace CredentialReach.Mysql

inductive SchemaEntry (database : String) : Part → Entry → Prop
  | itself : SchemaEntry database .itself
      { traits := { name := database, builtin := isBuiltinDatabase database } }
  | table (name : String) (bytes : Option Nat) :
      SchemaEntry database (.table name) { traits := { name, bytes } }
  | routine (kind : RoutineKind) (name : String) :
      SchemaEntry database (.routine kind name) { traits := { name, kind := some kind } }

namespace Database

def FromSchema (database : Database) (name : String) : Prop :=
  ∀ part entry, database.get? part = some entry → SchemaEntry name part entry

private theorem fromSchema_named (name : String) : (named name).FromSchema name := by
  intro part entry found
  cases part with
  | itself =>
    cases found
    exact .itself
  | table | column => cases found
  | routine kind => cases kind <;> cases found

theorem FromSchema.addTable {database : Database} {owner : String}
    (valid : database.FromSchema owner) (name : String) (bytes : Option Nat) :
    (database.addTable name bytes).FromSchema owner := by
  intro part entry found
  cases part with
  | itself => exact valid .itself entry found
  | routine kind other => exact valid (.routine kind other) entry (by cases kind <;> exact found)
  | table other =>
    simp only [Database.addTable, get?, NameMap.get?_insert] at found
    split at found
    next same =>
      subst same
      cases found
      exact .table other bytes
    next => exact valid (.table other) entry found
  | column table other =>
    simp only [Database.addTable, get?, NameMap.get?_insert] at found
    split at found
    next => cases found
    next => exact valid (.column table other) entry found

theorem FromSchema.addRoutine {database : Database} {owner : String}
    (valid : database.FromSchema owner) (name : String) (kind : RoutineKind) :
    (database.addRoutine name kind).FromSchema owner := by
  intro part entry found
  cases part with
  | itself => exact valid .itself entry (by cases kind <;> exact found)
  | table other => exact valid (.table other) entry (by cases kind <;> exact found)
  | column table other => exact valid (.column table other) entry (by cases kind <;> exact found)
  | routine otherKind other =>
    simp only [Database.addRoutine, get?, routines_withRoutines] at found
    split at found
    next same =>
      subst same
      rw [NameMap.get?_insert] at found
      split at found
      next same =>
        subst same
        cases found
        exact .routine otherKind other
      next => exact valid (.routine otherKind other) entry found
    next => exact valid (.routine otherKind other) entry found

theorem fromSchema_ofSchema (schema : SchemaDatabase) :
    (ofSchema schema).FromSchema schema.name := by
  unfold ofSchema
  refine List.foldlRecOn
    (motive := fun database : Database => database.FromSchema schema.name) _ _ ?_
    fun _ valid _ _ => valid.addRoutine _ _
  exact List.foldlRecOn (motive := fun database : Database => database.FromSchema schema.name) _ _
    (fromSchema_named schema.name) fun _ valid _ _ => valid.addTable _ _

end Database

theorem PrivilegeTree.schemaEntry_of_get? {snapshot : Snapshot} {database : String} {part : Part}
    {entry : Entry} (found : (ofSnapshot snapshot).get? (.within database part) = some entry) :
    SchemaEntry database part entry := by
  obtain ⟨value, present, found⟩ := Option.bind_eq_some_iff.mp found
  obtain ⟨schema, _, same⟩ := List.mem_map.mp (NameMap.mem_of_get?_ofList present)
  cases same
  exact Database.fromSchema_ofSchema schema part entry found

end CredentialReach.Mysql
