import CredentialReach.Text.Search

/-! Files as texts. -/

namespace CredentialReach

inductive FileFault where
  | absent
  | directory
  | withinFile
  | longName
  | notText
  | other (message : String)
deriving DecidableEq, Repr

def FileFault.message : FileFault → String
  | absent => "No such file or directory (os error 2)"
  | directory => "Is a directory (os error 21)"
  | withinFile => "Not a directory (os error 20)"
  | longName => "File name too long (os error 36)"
  | notText => "stream did not contain valid UTF-8"
  | other message => message

/-- The content of each path. -/
abbrev Files := String → Except FileFault ByteArray

def Files.text (files : Files) (path : String) : Except FileFault String := do
  match String.fromUTF8? (← files path) with
  | some text => return text
  | none => throw .notText

/-! A directory: paths are walked step by step. -/

/-- No file has a longer name, in bytes. -/
def longestName : Nat := 255

/-- No path is longer, in bytes. -/
def longestPath : Nat := 4095

/-- A step that leads back to where it starts. -/
def staysPut (step : String) : Bool := step = "" || step = "."

/-- Follows the steps outside the directory, where nothing is known. -/
def walkOutside : List String → FileFault
  | [] => .directory
  | step :: rest =>
    if staysPut step || step = ".." then walkOutside rest
    else if longestName < step.utf8ByteSize then .longName
    else .absent

/-- Follows the steps from a directory with the given files. -/
def walkDirectory (content? : String → Option ByteArray) : List String → Except FileFault ByteArray
  | [] => .error .directory
  | step :: rest =>
    if staysPut step then walkDirectory content? rest
    else if step = ".." then .error (walkOutside rest)
    else if longestName < step.utf8ByteSize then .error .longName
    else
      match content? step with
      | some content => if rest.isEmpty then .ok content else .error .withinFile
      | none => .error .absent

/-- The files of one directory; its own path has no slash at the end. -/
def Files.ofDirectory (directory : String) (content? : String → Option ByteArray) : Files :=
  fun path =>
    if path.contains '\x00' then .error (.other "file name contained an unexpected NUL byte")
    else if longestPath < path.utf8ByteSize then .error .longName
    else
      match Text.after? directory.toList path.toList with
      | some ('/' :: rest) =>
        walkDirectory content? ((Text.splitAt '/' rest).map String.ofList)
      | some [] => .error .directory
      | _ =>
        if path.isEmpty then .error .absent
        else .error (walkOutside ((Text.splitAt '/' path.toList).map String.ofList))

end CredentialReach
