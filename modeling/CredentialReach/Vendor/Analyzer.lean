import CredentialReach.Vendor.Figma
import CredentialReach.Vendor.LaunchDarkly
import CredentialReach.Vendor.Mysql

/-! The analyzers of all vendors. -/

namespace CredentialReach

inductive Analyzer where
  | figma (settings : Settings) (transport : Option Transport)
  | launchDarkly (settings : Settings) (transport : Option Transport)
  | mysql (source : Mysql.SnapshotSource)

namespace Analyzer

def kind : Analyzer → AnalyzerKind
  | figma _ _ => .figma
  | launchDarkly _ _ => .launchDarkly
  | mysql _ => .mysql

def analyzeUndated (analyzer : Analyzer) (credential : Credential) : Session Analysis :=
  match analyzer with
  | figma settings transport => Figma.analyze settings transport credential
  | launchDarkly settings transport => LaunchDarkly.analyze settings transport credential
  | mysql source => Session.lift (Mysql.analyze source credential)

/-- Analyzes a credential; the result says when. -/
def analyze (analyzer : Analyzer) (time : String) (credential : Credential) : Session Analysis := do
  let analysis ← analyzer.analyzeUndated credential
  let metadata := analysis.result.metadata.insert "analyzed_at" (.string time)
  return { analysis with result := { analysis.result with metadata } }

end Analyzer

end CredentialReach
