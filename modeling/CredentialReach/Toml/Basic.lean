import CredentialReach.Names.Map

/-! TOML documents. Tables grow by headers and by dotted keys; where a table
came from says how it may grow further. -/

namespace CredentialReach

structure TomlFault where
  message : String
deriving DecidableEq, Repr

inductive TableOrigin where
  /-- A header of its own, or the document itself. -/
  | header
  /-- Headers of tables below it. -/
  | implied
  /-- Dotted keys. -/
  | dotted
  /-- Braces; such a table is complete. -/
  | inline
deriving DecidableEq, Repr

inductive Toml where
  | string (value : String)
  | integer (value : Int)
  | float (literal : String)
  | boolean (value : Bool)
  | datetime (literal : String)
  /-- An array of tables grows by headers. -/
  | array (ofTables : Bool) (items : List Toml)
  | table (origin : TableOrigin) (entries : List (String × Toml))

namespace Toml

instance : Inhabited Toml := ⟨table .header []⟩

def duplicate (key : String) : TomlFault := ⟨s!"duplicate key '{key}'"⟩

def notTable (key : String) : TomlFault := ⟨s!"'{key}' is not a table"⟩

def set (key : String) (value : Toml) (entries : List (String × Toml)) : List (String × Toml) :=
  NameMap.updateEntries key (fun _ => value) entries

/-- Changes the table at the end of a path. Tables that are missing on the way
are made; of an array of tables the last one is meant. -/
def atPath (byDots : Bool) (change : TableOrigin → List (String × Toml) →
    Except TomlFault Toml) : (path : List String) → (origin : TableOrigin) →
    (entries : List (String × Toml)) → Except TomlFault Toml
  | [], origin, entries => change origin entries
  | key :: path, origin, entries => do
    let below ← match NameMap.lookup key entries with
      | none => atPath byDots change path (if byDots then .dotted else .implied) []
      | some (.table .inline _) => throw (notTable key)
      | some (.table found below) =>
        if byDots && found = .header then throw (duplicate key)
        else atPath byDots change path found below
      | some (.array true items) =>
        match items.getLast? with
        | some (.table found below) => do
          let last ← atPath byDots change path found below
          pure (.array true (items.dropLast ++ [last]))
        | _ => throw (notTable key)
      | some _ => throw (notTable key)
    return .table origin (set key below entries)

/-- Puts a value below the last table of a dotted key. That table has to be of
the kind that the key makes: one that only dots have made, or the one at hand. -/
def addValue (key : String) (value : Toml) (dotted : Bool) (origin : TableOrigin)
    (entries : List (String × Toml)) : Except TomlFault Toml :=
  if (origin = .dotted) ≠ dotted then .error (duplicate key)
  else if (NameMap.lookup key entries).isSome then .error (duplicate key)
  else .ok (.table origin (set key value entries))

/-- Opens a table; one that was only implied becomes a table of its own. -/
def openTable (key : String) (origin : TableOrigin) (entries : List (String × Toml)) :
    Except TomlFault Toml :=
  match NameMap.lookup key entries with
  | none => .ok (.table origin (set key (.table .header []) entries))
  | some (.table .implied below) => .ok (.table origin (set key (.table .header below) entries))
  | some _ => .error (duplicate key)

/-- Opens one more table of an array. -/
def openItem (key : String) (origin : TableOrigin) (entries : List (String × Toml)) :
    Except TomlFault Toml :=
  match NameMap.lookup key entries with
  | none => .ok (.table origin (set key (.array true [.table .header []]) entries))
  | some (.array true items) =>
    .ok (.table origin (set key (.array true (items ++ [.table .header []])) entries))
  | some _ => .error (duplicate key)

/-- Applies a change to a document or an inline table. -/
def change (document : Toml) (byDots : Bool) (path : List String)
    (act : TableOrigin → List (String × Toml) → Except TomlFault Toml) : Except TomlFault Toml :=
  match document with
  | table origin entries => atPath byDots act path origin entries
  | other => .ok other

/-- Adds `keys = value` to a table; all keys but the last one name tables. -/
def assign (document : Toml) (keys : List String) (value : Toml) : Except TomlFault Toml :=
  match keys.getLast? with
  | some key =>
    document.change true keys.dropLast (addValue key value (keys.length ≠ 1))
  | none => .ok document

end Toml

end CredentialReach
