import CredentialReach.Mysql.Privilege
import CredentialReach.Text.Quoted

/-! GRANT and REVOKE statements, as a server lists them, read from text. -/

namespace CredentialReach.Mysql

inductive Action where
  | grant
  | revoke
deriving DecidableEq, Repr

/-- Procedures and functions have separate name spaces. -/
inductive RoutineKind where
  | procedure
  | function
deriving DecidableEq, Repr

def RoutineKind.name : RoutineKind → String
  | procedure => "procedure"
  | function => "function"

/-- One privilege of a statement, with the columns that it was limited to, if any. -/
structure Item where
  privilege : String
  columns : List String
deriving DecidableEq, Repr

inductive Target where
  | everything
  | database (name : String)
  | table (database name : String)
  | routine (kind : RoutineKind) (database name : String)
deriving DecidableEq, Repr

def Target.database? : Target → Option String
  | .everything => none
  | .database name | .table name _ | .routine _ name _ => some name

structure Statement where
  action : Action
  items : List Item
  target : Target
  withGrantOption : Bool
deriving DecidableEq, Repr

inductive StatementFault where
  | notGrantOrRevoke
  | noOnClause
  | targetShape (target : String)
  | emptyName (target : String)
  | objectInEveryDatabase (target : String)
  | namelessRoutine (target : String)
  | unbalancedColumns (item : String)
  | noPrivileges
  | unknownDatabase (name : String)
deriving DecidableEq, Repr

def StatementFault.reason : StatementFault → String
  | notGrantOrRevoke => "not a GRANT or REVOKE statement"
  | noOnClause => "no ' ON ' clause"
  | targetShape target => s!"target '{target}' is not of the form <db>.<object>"
  | emptyName target => s!"target '{target}' has an empty name"
  | objectInEveryDatabase target => s!"target '{target}' names an object in every database"
  | namelessRoutine target => s!"routine target '{target}' must name a routine"
  | unbalancedColumns item => s!"unbalanced column list in '{item}'"
  | noPrivileges => "empty privilege list"
  | unknownDatabase name => s!"unknown database '{name}'"

namespace Statement

open Text

/-- What follows a keyword, in any letter case, and the white space after it. -/
def afterKeyword? (keyword text : List Char) : Option (List Char) :=
  let rest := text.drop keyword.length
  if sameIgnoringCase (text.take keyword.length) keyword && (rest.head?.any isBlank) then
    some (trimStart rest)
  else none

def readAction? (text : List Char) : Option (Action × List Char) :=
  match afterKeyword? "GRANT".toList text with
  | some rest => some (.grant, rest)
  | none => (afterKeyword? "REVOKE".toList text).map (.revoke, ·)

/-- The kind of routine that a target announces, and the path of its object. -/
def readObjectType (text : List Char) : Option RoutineKind × List Char :=
  match afterKeyword? "PROCEDURE".toList text with
  | some path => (some .procedure, path)
  | none =>
    match afterKeyword? "FUNCTION".toList text with
    | some path => (some .function, path)
    | none => (none, (afterKeyword? "TABLE".toList text).getD text)

def readTarget (text : List Char) : Except StatementFault Target :=
  let whole := String.ofList text
  let (routine, path) := readObjectType text
  match splitOutside '.' path with
  | [first, second] =>
    let database := String.ofList (unquote first)
    let object := String.ofList (unquote second)
    if database.isEmpty || object.isEmpty then .error (.emptyName whole)
    else if database == "*" && object != "*" then .error (.objectInEveryDatabase whole)
    else
      match routine with
      | some kind =>
        if database == "*" || object == "*" then .error (.namelessRoutine whole)
        else .ok (.routine kind database object)
      | none =>
        if database == "*" then .ok .everything
        else if object == "*" then .ok (.database database)
        else .ok (.table database object)
  | _ => .error (.targetShape whole)

/-- The words of a privilege in capital letters, with one space between them. -/
def privilegeName (text : List Char) : String :=
  String.ofList (upper (joinWith [' '] (words text)))

/-- The names in a column list; blank places name nothing. -/
def readColumns (list : List Char) : List String :=
  (((splitOutside ',' list).map unquote).filter fun name => !name.isEmpty).map String.ofList

def readItem (item : List Char) : Except StatementFault Item :=
  match cutAt? ['('] item with
  | some (name, rest) =>
    match before? [')'] rest with
    | some list => .ok ⟨privilegeName name, readColumns list⟩
    | none => .error (.unbalancedColumns (String.ofList item))
  | none => .ok ⟨privilegeName item, []⟩

/-- Blank places in the list name no privilege. -/
def readItems (list : List Char) : Except StatementFault (List Item) :=
  (((splitOutside ',' list).map trim).filter fun item => !item.isEmpty).mapM readItem

def clauseEnds : List (List Char) := [" TO ".toList, " FROM ".toList]

def grantOptionClause : List Char := "WITH GRANT OPTION".toList

def ofChars (text : List Char) : Except StatementFault Statement :=
  let text := trimEnd (dropLast ';' (trim text))
  match readAction? text with
  | none => .error .notGrantOrRevoke
  | some (action, rest) =>
    match cutAt? " ON ".toList rest with
    | none => .error .noOnClause
    | some (list, targetAndAccount) => do
      let target ← readTarget (trim (beforeAny clauseEnds targetAndAccount))
      let items ← readItems list
      if items.isEmpty then throw .noPrivileges
      return ⟨action, items, target, grantOptionClause.isSuffixOf (upper text)⟩

def parse (text : String) : Except StatementFault Statement := ofChars text.toList

end Statement

end CredentialReach.Mysql
