import CredentialReach.Analysis.Result
import CredentialReach.Json.Printer
import CredentialReach.Report.Paint
import CredentialReach.Settings.Basic
import CredentialReach.Walk.Fault

/-! The report for a terminal, line by line. -/

namespace CredentialReach.Report

inductive Line where
  | blank
  | title (kind : AnalyzerKind)
  | heading (text : String)
  | rule
  | detail (indent : String) (key : String) (value : Json)
  /-- Nothing is held anywhere. -/
  | nothing
  | resource (resource : Resource)
  | permission (permission : Permission)
  | unbounded (resource : Resource)
  | count (label : String) (value : Nat) (emphasis : Bool)
  | incomplete (branches : Nat)
  | failure (branch : BranchError)

/-! What the report says. -/

def details (indent : String) (metadata : NameMap Json) : List Line :=
  metadata.toList.map fun entry => .detail indent entry.1 entry.2

def credentialLines (result : AnalysisResult) : List Line :=
  if result.metadata.isEmpty then []
  else .heading "Credential" :: details " " result.metadata ++ [.blank]

def resourceLines (result : AnalysisResult) (resource : Resource) : List Line :=
  .resource resource :: details "   " resource.metadata ++
    (result.bindingsOf resource.fullName).map fun binding => .permission binding.permission

def accessLines (result : AnalysisResult) : List Line :=
  let bound := result.boundResources
  if bound.isEmpty then [.nothing]
  else .heading "Access" :: bound.flatMap (resourceLines result)

theorem accessLine_cases {result : AnalysisResult} {line : Line} (member : line ∈ accessLines result) :
    line = .nothing ∨ line = .heading "Access" ∨ (∃ found, line = .resource found) ∨
      (∃ key value, line = .detail "   " key value) ∨
      ∃ binding ∈ result.bindings, line = .permission binding.permission := by
  simp only [accessLines] at member
  split at member
  · exact .inl (List.mem_singleton.mp member)
  rcases List.mem_cons.mp member with heading | listed
  · exact .inr (.inl heading)
  obtain ⟨resource, -, listed⟩ := List.mem_flatMap.mp listed
  rcases List.mem_append.mp listed with top | permission
  · rcases List.mem_cons.mp top with header | told
    · exact .inr (.inr (.inl ⟨resource, header⟩))
    · obtain ⟨entry, -, rfl⟩ := List.mem_map.mp told
      exact .inr (.inr (.inr (.inl ⟨entry.1, entry.2, rfl⟩)))
  · obtain ⟨binding, bound, rfl⟩ := List.mem_map.mp permission
    exact .inr (.inr (.inr (.inr ⟨binding, (List.mem_filter.mp bound).1, rfl⟩)))

def unboundedLines (result : AnalysisResult) : List Line :=
  if result.unbounded.isEmpty then []
  else .heading "Visible without permissions" :: result.unbounded.map .unbounded ++ [.blank]

def summaryLines (result : AnalysisResult) : List Line :=
  [.heading "Summary",
   .count "Resources:    " result.resourceCount false,
   .count "Bound:        " result.boundResources.length true,
   .count "Unbounded:    " result.unbounded.length false,
   .count "Bindings:     " result.bindings.length false]

def resultLines (result : AnalysisResult) : List Line :=
  [.blank, .title result.kind, .blank] ++ credentialLines result ++ [.rule, .blank] ++
    accessLines result ++ [.blank] ++ unboundedLines result ++ [.rule, .blank] ++
    summaryLines result ++ [.blank]

def errorLines (error : WalkError) : List Line :=
  .incomplete error.branches.length :: error.branches.map .failure ++ [.blank]

/-! How it is written. -/

mutual

def valueText (colors : Bool) : Json → String
  | .string value => value
  | .array [] => Paint.dimmed.apply colors "none"
  | .array (item :: items) =>
    ", ".intercalate (valueText colors item :: valueTexts colors items)
  | .bool value => if value then "yes" else "no"
  | .null => "null"
  | .number value => String.ofList (Json.numberText value)
  | .object members => (Json.object members).compact

def valueTexts (colors : Bool) : List Json → List String
  | [] => []
  | item :: items => valueText colors item :: valueTexts colors items

end

def location (resource : Resource) : String :=
  if resource.owners.isEmpty then ""
  else " in " ++ " / ".intercalate (resource.owners.reverse.map (·.name))

def rule : String := String.ofList (List.replicate 60 '=')

def Line.text (colors : Bool) : Line → String
  | blank => ""
  | title kind => Paint.bold.apply colors s!" keyreach v{version} — {kind.name} credential"
  | heading text => " " ++ Paint.heading.apply colors text
  | Line.rule => " " ++ Paint.dimmed.apply colors Report.rule
  | detail indent key value =>
    indent ++ Paint.dimmed.apply colors "|" ++ " " ++ key ++ ": " ++ valueText colors value
  | nothing =>
    " " ++ Paint.dimmed.apply colors "--" ++
      " The credential holds no permission on any discovered resource."
  | resource found =>
    " " ++ Paint.label.apply colors s!" {found.type} " ++
      " " ++ Paint.bold.apply colors found.name ++
      " " ++ Paint.dimmed.apply colors found.fullName ++
      Paint.dimmed.apply colors (location found)
  | permission granted =>
    let held := "   " ++ Paint.green.apply colors "+" ++
      " " ++ Paint.green.apply colors granted.value
    match granted.impliedBy with
    | [] => held
    | broader :: _ => held ++ " " ++ Paint.dimmed.apply colors s!"(via {broader})"
  | unbounded found =>
    " " ++ Paint.dimmed.apply colors "|-" ++
      " " ++ Paint.yellow.apply colors found.fullName ++
      " " ++ Paint.dimmed.apply colors s!"({found.type})"
  | count label value emphasis =>
    let number := Nat.repr value
    " " ++ Paint.dimmed.apply colors "|-" ++ " " ++ label ++
      if emphasis then Paint.boldGreen.apply colors number else number
  | incomplete branches =>
    " " ++ Paint.warning.apply colors " PARTIAL " ++ " " ++ Paint.bold.apply colors
      s!"{Nat.repr branches} branch(es) could not be walked; results above are incomplete"
  | failure branch =>
    "   " ++ Paint.dimmed.apply colors "|" ++ " " ++ Paint.red.apply colors branch.message

def render (colors : Bool) (lines : List Line) : String :=
  String.join (lines.map fun line => line.text colors ++ "\n")

end CredentialReach.Report
