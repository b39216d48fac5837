import CredentialReach.Text.Search

/-! The privileges a server knows, and the levels at which each can be held. -/

namespace CredentialReach.Mysql

inductive Level where
  | server
  | database
  | table
  | column
  | routine
deriving DecidableEq, Repr

namespace Level

def all : List Level := [server, database, table, column, routine]

/-- The type of the resources at this level. -/
def name : Level → String
  | server => "server"
  | database => "database"
  | table => "table"
  | column => "column"
  | routine => "routine"

end Level

structure Privilege where
  name : String
  levels : List Level
deriving Repr

def Privilege.allows (privilege : Privilege) (level : Level) : Bool := level ∈ privilege.levels

def usage : String := "USAGE"

def grantOption : String := "GRANT OPTION"

open Level in
def staticPrivileges : List Privilege :=
  [⟨"ALTER", [server, database, table]⟩,
   ⟨"ALTER ROUTINE", [server, database, routine]⟩,
   ⟨"CREATE", [server, database, table]⟩,
   ⟨"CREATE ROLE", [server]⟩,
   ⟨"CREATE ROUTINE", [server, database]⟩,
   ⟨"CREATE TABLESPACE", [server]⟩,
   ⟨"CREATE TEMPORARY TABLES", [server, database]⟩,
   ⟨"CREATE USER", [server]⟩,
   ⟨"CREATE VIEW", [server, database, table]⟩,
   ⟨"DELETE", [server, database, table]⟩,
   ⟨"DROP", [server, database, table]⟩,
   ⟨"DROP ROLE", [server]⟩,
   ⟨"EVENT", [server, database]⟩,
   ⟨"EXECUTE", [server, database, routine]⟩,
   ⟨"FILE", [server]⟩,
   ⟨grantOption, [server, database, table, routine]⟩,
   ⟨"INDEX", [server, database, table]⟩,
   ⟨"INSERT", [server, database, table, column]⟩,
   ⟨"LOCK TABLES", [server, database]⟩,
   ⟨"PROCESS", [server]⟩,
   ⟨"PROXY", []⟩,
   ⟨"REFERENCES", [server, database, table, column]⟩,
   ⟨"RELOAD", [server]⟩,
   ⟨"REPLICATION CLIENT", [server]⟩,
   ⟨"REPLICATION SLAVE", [server]⟩,
   ⟨"SELECT", [server, database, table, column]⟩,
   ⟨"SHOW DATABASES", [server]⟩,
   ⟨"SHOW VIEW", [server, database, table]⟩,
   ⟨"SHUTDOWN", [server]⟩,
   ⟨"SUPER", [server]⟩,
   ⟨"TRIGGER", [server, database, table]⟩,
   ⟨"UPDATE", [server, database, table, column]⟩,
   ⟨usage, [server]⟩]

/-- Held on the whole server only, and not part of `ALL`. -/
def dynamicPrivileges : List String :=
  ["APPLICATION_PASSWORD_ADMIN", "AUDIT_ABORT_EXEMPT", "AUDIT_ADMIN",
   "AUTHENTICATION_POLICY_ADMIN", "BACKUP_ADMIN", "BINLOG_ADMIN", "BINLOG_ENCRYPTION_ADMIN",
   "CLONE_ADMIN", "CONNECTION_ADMIN", "ENCRYPTION_KEY_ADMIN", "FIREWALL_ADMIN",
   "FIREWALL_EXEMPT", "FIREWALL_USER", "FLUSH_OPTIMIZER_COSTS", "FLUSH_STATUS", "FLUSH_TABLES",
   "FLUSH_USER_RESOURCES", "GROUP_REPLICATION_ADMIN", "GROUP_REPLICATION_STREAM",
   "INNODB_REDO_LOG_ARCHIVE", "INNODB_REDO_LOG_ENABLE", "NDB_STORED_USER",
   "PASSWORDLESS_USER_ADMIN", "PERSIST_RO_VARIABLES_ADMIN", "REPLICATION_APPLIER",
   "REPLICATION_SLAVE_ADMIN", "RESOURCE_GROUP_ADMIN", "RESOURCE_GROUP_USER", "ROLE_ADMIN",
   "SENSITIVE_VARIABLES_OBSERVER", "SERVICE_CONNECTION_ADMIN", "SESSION_VARIABLES_ADMIN",
   "SET_USER_ID", "SHOW_ROUTINE", "SKIP_QUERY_REWRITE", "SYSTEM_USER", "SYSTEM_VARIABLES_ADMIN",
   "TABLE_ENCRYPTION_ADMIN", "TELEMETRY_LOG_ADMIN", "TP_CONNECTION_ADMIN",
   "VERSION_TOKEN_ADMIN", "XA_RECOVER_ADMIN"]

/-- The schemas of the system itself, whose privileges no server-wide grant changes. -/
def builtinDatabases : List String := ["information_schema", "performance_schema", "sys", "mysql"]

def staticPrivilege? (name : String) : Option Privilege := staticPrivileges.find? (·.name == name)

def isDynamic (name : String) : Bool := dynamicPrivileges.contains name

def isBuiltinDatabase (name : String) : Bool :=
  builtinDatabases.any fun builtin => Text.sameIgnoringCase builtin.toList name.toList

def isAll (name : String) : Bool := name == "ALL" || name == "ALL PRIVILEGES"

def allAt (level : Level) : List String :=
  ((staticPrivileges.filter (·.allows level)).map (·.name)).filter fun name =>
    name != usage && name != grantOption

/-- Every privilege that a resource at this level can carry. -/
def vocabulary (level : Level) : List String :=
  ((staticPrivileges.filter fun privilege => privilege.allows level && privilege.name != usage).map
    (·.name)) ++ if level = .server then dynamicPrivileges else []

end CredentialReach.Mysql
