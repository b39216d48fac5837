import CredentialReach.Json.Reader
import CredentialReach.Json.Record
import CredentialReach.Mysql.Tree

/-! The schema and the grants of one account, as read from a server. -/

namespace CredentialReach.Mysql

structure SchemaTable where
  name : String
  bytes : Option Nat := none
deriving DecidableEq, Repr

/-- A stored routine; a bare name means a procedure. -/
inductive SchemaRoutine where
  | bare (name : String)
  | typed (name : String) (kind : RoutineKind)
deriving DecidableEq, Repr

namespace SchemaRoutine

def name : SchemaRoutine → String
  | bare name | typed name _ => name

def kind : SchemaRoutine → RoutineKind
  | bare _ => .procedure
  | typed _ kind => kind

end SchemaRoutine

structure SchemaDatabase where
  name : String
  tables : List SchemaTable := []
  routines : List SchemaRoutine := []
deriving DecidableEq, Repr

structure Snapshot where
  databases : List SchemaDatabase := []
  grants : List String := []
deriving DecidableEq, Repr

/-! The tree without privileges. -/

def Database.addTable (database : Database) (name : String) (bytes : Option Nat) : Database :=
  { database with tables := database.tables.insert name { name, bytes } }

def Database.addRoutine (database : Database) (name : String) (kind : RoutineKind) : Database :=
  database.withRoutines kind ((database.routines kind).insert name { name, kind })

/-- Of two entries with one name the later one stands. -/
def Database.ofSchema (schema : SchemaDatabase) : Database :=
  let withTables := schema.tables.foldl (fun database table =>
    database.addTable table.name table.bytes) (Database.named schema.name)
  schema.routines.foldl (fun database routine =>
    database.addRoutine routine.name routine.kind) withTables

def PrivilegeTree.ofSnapshot (snapshot : Snapshot) : PrivilegeTree :=
  { databases := NameMap.ofList (snapshot.databases.map fun schema =>
      (schema.name, Database.ofSchema schema)) }

/-! Snapshots as documents. -/

def RoutineKind.ofName? (name : String) : Option RoutineKind :=
  [procedure, function].find? (·.name == name)

namespace SchemaTable

def fields : List String := ["name", "bytes"]

def toJson (table : SchemaTable) : Json :=
  .object [("name", .string table.name), ("bytes", Json.ofOption Json.ofNat table.bytes)]

def ofJson (document : Json) : Except JsonFault SchemaTable := do
  let members ← Json.asRecord fields document
  return {
    name := ← Json.required members "name" Json.asText
    bytes := ← Json.optional members "bytes" none (Json.asOptional Json.asCount) }

end SchemaTable

namespace SchemaRoutine

def toJson : SchemaRoutine → Json
  | bare name => .string name
  | typed name kind => .object [("name", .string name), ("kind", .string kind.name)]

def occurrences (name : String) (members : List (String × Json)) : Nat :=
  (members.filter (·.1 == name)).length

def ofJson : Json → Except JsonFault SchemaRoutine
  | .string name => .ok (bare name)
  | .object members => do
    if let some field := ["name", "kind"].find? fun field => occurrences field members > 1 then
      throw (.repeated field)
    let name ← Json.required members "name" Json.asText
    return typed name
      (← Json.optional members "kind" .procedure (Json.asName RoutineKind.ofName?))
  | _ => .error (.expected "a routine")

end SchemaRoutine

namespace SchemaDatabase

def fields : List String := ["name", "tables", "routines"]

def toJson (schema : SchemaDatabase) : Json :=
  .object [("name", .string schema.name),
    ("tables", .array (schema.tables.map SchemaTable.toJson)),
    ("routines", .array (schema.routines.map SchemaRoutine.toJson))]

def ofJson (document : Json) : Except JsonFault SchemaDatabase := do
  let members ← Json.asRecord fields document
  return {
    name := ← Json.required members "name" Json.asText
    tables := ← Json.optional members "tables" [] (Json.asList SchemaTable.ofJson)
    routines := ← Json.optional members "routines" [] (Json.asList SchemaRoutine.ofJson) }

end SchemaDatabase

namespace Snapshot

def fields : List String := ["databases", "grants"]

def toJson (snapshot : Snapshot) : Json :=
  .object [("databases", .array (snapshot.databases.map SchemaDatabase.toJson)),
    ("grants", .ofTexts snapshot.grants)]

def ofJson (document : Json) : Except JsonFault Snapshot := do
  let members ← Json.asRecord fields document
  return {
    databases := ← Json.optional members "databases" [] (Json.asList SchemaDatabase.ofJson)
    grants := ← Json.optional members "grants" [] (Json.asList Json.asText) }

open Json.Reader in
def reader : Json.Reader Json :=
  let routine : Json.Reader Json :=
    checked fun document => do
      let _ ← SchemaRoutine.ofJson document
      return document
  let table := record [⟨"name", true, text⟩, ⟨"bytes", false, optional count⟩]
  let database := record [⟨"name", true, text⟩, ⟨"tables", false, list table⟩,
    ⟨"routines", false, list routine⟩]
  record [⟨"databases", false, list database⟩, ⟨"grants", false, list text⟩]

def parse (text : String) : Except JsonFault Snapshot := do ofJson (← reader.run text)

end Snapshot

end CredentialReach.Mysql
