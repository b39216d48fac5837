import CredentialReach.Report.Basic
import CredentialReach.Settings.Document
import CredentialReach.Vendor.Analyzer

/-! The commands of the program, and what each of them does. -/

namespace CredentialReach

inductive TokenVendor where
  | figma
  | launchDarkly
deriving DecidableEq, Repr

namespace TokenVendor

def all : List TokenVendor := [figma, launchDarkly]

def kind : TokenVendor → AnalyzerKind
  | figma => .figma
  | launchDarkly => .launchDarkly

def name (vendor : TokenVendor) : String := vendor.kind.name

def ofName? (name : String) : Option TokenVendor := all.find? (·.name == name)

def analyzer (vendor : TokenVendor) (settings : Settings) : Analyzer :=
  match vendor with
  | figma => .figma settings none
  | launchDarkly => .launchDarkly settings none

end TokenVendor

inductive Command where
  | token (vendor : TokenVendor) (token : String) (settings : Option String)
      (format : Report.Format)
  | grants (snapshot connection : String) (format : Report.Format)
deriving DecidableEq, Repr

inductive CommandFault where
  | settings (fault : SettingsFault)
  | token (vendor : TokenVendor) (fault : AnalysisFault)
  | grants (snapshot : String) (fault : AnalysisFault)
deriving DecidableEq, Repr

def CommandFault.causes : CommandFault → List String
  | settings fault => [fault.message]
  | token vendor fault => [s!"{vendor.name} analysis failed", fault.message]
  | grants snapshot fault => [s!"Failed to analyze grants in {snapshot}", fault.message]

namespace Command

def format : Command → Report.Format
  | token _ _ _ format | grants _ _ format => format

def inputs : Command → List String
  | token _ _ settings _ => settings.toList
  | grants snapshot _ _ => [snapshot]

def analyze (files : Files) (time : String) : Command → Except CommandFault Analysis
  | token vendor secret settings _ => do
    let settings ← match settings with
      | some path => (Settings.ofFile files path).mapError .settings
      | none => pure {}
    let session := (vendor.analyzer settings).analyze time (Credential.token secret)
    session.outcome.mapError (.token vendor)
  | grants snapshot connection _ =>
    let source := Analyzer.mysql fun _ => Mysql.Snapshot.ofFile files snapshot
    let credential := Credential.ofFields [(Credential.connectionField, connection)]
    (source.analyze time credential).outcome.mapError (.grants snapshot)

def run (command : Command) (files : Files) (time : String) (colors : Bool) : Ending :=
  match command.analyze files time with
  | .ok analysis => analysis.report command.format colors
  | .error fault => { causes := fault.causes }

end Command

end CredentialReach
