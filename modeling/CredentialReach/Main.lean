import CredentialReach.CommandLine.Help
import CredentialReach.Text.Instant
import Std.Time.DateTime.Timestamp

/-! The program. -/

namespace CredentialReach.CommandLine

def readFile (path : String) : IO (Except FileFault ByteArray) := do
  try
    return .ok (← IO.FS.readBinFile path)
  catch
    | .noFileOrDirectory .. => return .error .absent
    | .inappropriateType _ code _ => return .error (if code = 20 then .withinFile else .directory)
    | .invalidArgument _ 36 _ => return .error .longName
    | fault => return .error (.other (toString fault))

def readFiles (paths : List String) : IO Files := do
  let contents ← paths.mapM readFile
  return fun path => ((paths.zip contents).lookup path).getD (.error .absent)

def printCauses : List String → IO Unit
  | [] => pure ()
  | fault :: reasons => do
    IO.eprintln s!"Error: {fault}"
    unless reasons.isEmpty do
      IO.eprintln "\nCaused by:"
      for reason in reasons do
        IO.eprintln s!"    {reason}"

end CredentialReach.CommandLine

open CredentialReach in
def main (arguments : List String) : IO UInt32 := do
  match CommandLine.read arguments with
  | .error fault =>
    if fault.status = 0 then IO.println fault.message else IO.eprintln fault.message
    return fault.status.toUInt32
  | .ok invocation =>
    let files ← CommandLine.readFiles invocation.command.inputs
    let now ← Std.Time.Timestamp.now
    let time := Text.timeStamp now.toNanosecondsSinceUnixEpoch.val.toNat
    let colors ← (← IO.getStdout).isTty
    let ending := invocation.command.run files time colors
    IO.print ending.output
    CommandLine.printCauses ending.causes
    return ending.status.toUInt32
