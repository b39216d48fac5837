import CredentialReach.Report.Text
import CredentialReach.Vendor.Connection
import CredentialReach.Yaml.Printer

/-! Reports on analyses in all formats. -/

namespace CredentialReach

namespace Report

inductive Format where
  | text
  | json
  | yaml
deriving DecidableEq, Repr

namespace Format

def all : List Format := [text, json, yaml]

def name : Format → String
  | text => "text"
  | json => "json"
  | yaml => "yaml"

def ofName? (name : String) : Option Format := all.find? (·.name == name)

end Format

def ofResult (format : Format) (colors : Bool) (result : AnalysisResult) : String :=
  match format with
  | .json => result.toJson.pretty ++ "\n"
  | .yaml => Yaml.render result.toJson
  | .text => render colors (resultLines result)

/-- The failures behind an incomplete result, if the format shows them. -/
def ofError (format : Format) (colors : Bool) (error : WalkError) : String :=
  match format with
  | .text => render colors (errorLines error)
  | .json | .yaml => ""

end Report

structure Ending where
  output : String := ""
  causes : List String := []
deriving DecidableEq, Repr

def Ending.status (ending : Ending) : Nat := if ending.causes.isEmpty then 0 else 1

/-- Whatever was found is shown; an incomplete result is a failure. -/
def Analysis.report (analysis : Analysis) (format : Report.Format) (colors : Bool) : Ending :=
  let found := Report.ofResult format colors analysis.result
  match analysis.partialError with
  | none => { output := found }
  | some error =>
    { output := found ++ Report.ofError format colors error
      causes := ["results are incomplete", error.message] }

end CredentialReach
