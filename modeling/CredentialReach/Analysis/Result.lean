import CredentialReach.Permission.Basic
import CredentialReach.Resource.Document
import CredentialReach.Text.Search

/-! What an analysis tells: which permission is held on which resource, and
which resources are reachable without a known permission. -/

namespace CredentialReach

inductive AnalyzerKind where
  | figma
  | launchDarkly
  | mysql
deriving DecidableEq, Repr

namespace AnalyzerKind

def all : List AnalyzerKind := [figma, launchDarkly, mysql]

def name : AnalyzerKind → String
  | figma => "figma"
  | launchDarkly => "launchdarkly"
  | mysql => "mysql"

/-- Letters count alike in upper and lower case. -/
def ofName? (name : String) : Option AnalyzerKind :=
  all.find? fun kind => Text.sameIgnoringCase kind.name.toList name.toList

def unknownMessage (name : String) : String := s!"unknown analyzer '{name}'"

end AnalyzerKind

structure Binding where
  resource : Resource
  permission : Permission
deriving Inhabited

structure AnalysisResult where
  kind : AnalyzerKind
  metadata : NameMap Json := ∅
  bindings : List Binding := []
  /-- Resources without a permission. -/
  unbounded : List Resource := []

namespace AnalysisResult

/-- The first of several resources with one full name. -/
def firstOfEach : (seen : List String) → List Resource → List Resource
  | _, [] => []
  | seen, resource :: rest =>
    if resource.fullName ∈ seen then firstOfEach seen rest
    else resource :: firstOfEach (resource.fullName :: seen) rest

def boundResources (result : AnalysisResult) : List Resource :=
  firstOfEach [] (result.bindings.map (·.resource))

def bindingsOf (result : AnalysisResult) (fullName : String) : List Binding :=
  result.bindings.filter (·.resource.fullName == fullName)

def permissionsOf (result : AnalysisResult) (fullName : String) : List String :=
  (result.bindingsOf fullName).map (·.permission.value)

def resourceCount (result : AnalysisResult) : Nat :=
  result.boundResources.length + result.unbounded.length

def bindingFields : List String := ["resource", "permission"]

def fields : List String := ["analyzer_type", "metadata", "bindings", "unbounded_resources"]

def toJson (result : AnalysisResult) : Json :=
  let binding (binding : Binding) : Json :=
    .object [("resource", binding.resource.toJson), ("permission", binding.permission.toJson)]
  .object [("analyzer_type", .string result.kind.name), ("metadata", .ofMap result.metadata),
    ("bindings", .array (result.bindings.map binding)),
    ("unbounded_resources", .array (result.unbounded.map Resource.toJson))]

def decodeBinding (document : Json) : Except JsonFault Binding := do
  let members ← Json.asRecord bindingFields document
  return ⟨← Json.required members "resource" Resource.ofJson,
    ← Json.required members "permission" Permission.ofJson⟩

def ofJson (document : Json) : Except JsonFault AnalysisResult := do
  let members ← Json.asRecord fields document
  let kind (name : String) : Option AnalyzerKind := AnalyzerKind.all.find? (·.name == name)
  return {
    kind := ← Json.required members "analyzer_type" (Json.asName kind)
    metadata := ← Json.optional members "metadata" ∅ Json.asMap
    bindings := ← Json.optional members "bindings" [] (Json.asList decodeBinding)
    unbounded := ← Json.optional members "unbounded_resources" [] (Json.asList Resource.ofJson) }

end AnalysisResult

end CredentialReach
