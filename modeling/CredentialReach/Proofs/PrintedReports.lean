import CredentialReach.Proofs.QuotedText
import CredentialReach.Report.Basic

/-! Reports as they are printed. Every line of a result is written out here as it stands in a report
without colors, which is these texts with a line break behind each. The report with colors differs from
it only in the codes that are put in between. -/

namespace CredentialReach.Report

inductive ValueWritten : Json → String → Prop
  | string (value : String) : ValueWritten (.string value) value
  | number (value : JsonNumber) : ValueWritten (.number value) (String.ofList (Json.numberText value))
  | yes : ValueWritten (.bool true) "yes"
  | no : ValueWritten (.bool false) "no"
  | null : ValueWritten .null "null"
  | none : ValueWritten (.array []) "none"
  | last {item : Json} {text : String} (written : ValueWritten item text) : ValueWritten (.array [item]) text
  | next {item other : Json} {items : List Json} {text rest : String} (written : ValueWritten item text)
      (later : ValueWritten (.array (other :: items)) rest) :
      ValueWritten (.array (item :: other :: items)) (text ++ ", " ++ rest)
  | object (members : List (String × Json)) :
      ValueWritten (.object members) (Json.object members).compact

inductive Line.Written : Line → String → Prop
  | blank : Written .blank ""
  | title (kind : AnalyzerKind) :
      Written (.title kind) (" keyreach v" ++ version ++ " — " ++ kind.name ++ " credential")
  | heading {text : String}
      (known : text ∈ ["Credential", "Access", "Visible without permissions", "Summary"]) :
      Written (.heading text) (" " ++ text)
  | rule : Written .rule " ============================================================"
  | detail {indent key text : String} {value : Json} (known : indent ∈ [" ", "   "])
      (written : ValueWritten value text) :
      Written (.detail indent key value) (indent ++ "| " ++ key ++ ": " ++ text)
  | nothing : Written .nothing " -- The credential holds no permission on any discovered resource."
  | top {resource : Resource} (unowned : resource.owners = []) :
      Written (.resource resource)
        ("  " ++ resource.type ++ "  " ++ resource.name ++ " " ++ resource.fullName)
  | owned {resource : Resource} (owned : resource.owners ≠ []) :
      Written (.resource resource)
        ("  " ++ resource.type ++ "  " ++ resource.name ++ " " ++ resource.fullName ++ " in " ++
          " / ".intercalate (resource.owners.reverse.map (·.name)))
  | held (value : String) : Written (.permission ⟨value, []⟩) ("   + " ++ value)
  | implied (value broader : String) (above : List String) :
      Written (.permission ⟨value, broader :: above⟩) ("   + " ++ value ++ " (via " ++ broader ++ ")")
  | unbounded (resource : Resource) :
      Written (.unbounded resource) (" |- " ++ resource.fullName ++ " (" ++ resource.type ++ ")")
  | count (label : String) (value : Nat) (emphasis : Bool) :
      Written (.count label value emphasis) (" |- " ++ label ++ Nat.repr value)

inductive Printed : List Line → String → Prop
  | nothing : Printed [] ""
  | line {line : Line} {lines : List Line} {text rest : String} (written : line.Written text)
      (printed : Printed lines rest) : Printed (line :: lines) (text ++ "\n" ++ rest)

/-- A text with codes for attributes between its characters. -/
inductive Decorated : (plain decorated : List Char) → Prop
  | nothing : Decorated [] []
  | char {plain decorated : List Char} (c : Char) (rest : Decorated plain decorated) :
      Decorated (c :: plain) (c :: decorated)
  | code {codes plain decorated : List Char} (numbers : ∀ c ∈ codes, c.isDigit = true ∨ c = ';')
      (rest : Decorated plain decorated) :
      Decorated plain ('\x1b' :: '[' :: codes ++ 'm' :: decorated)

def Line.OfResult : Line → Prop
  | heading text => text ∈ ["Credential", "Access", "Visible without permissions", "Summary"]
  | detail indent _ _ => indent ∈ [" ", "   "]
  | incomplete _ | failure _ => False
  | _ => True

variable {lines : List Line}

mutual

private theorem valueWritten_text (value : Json) : ValueWritten value (valueText false value) := by
  cases value with
  | string value => exact .string value
  | number value => exact .number value
  | bool value =>
    cases value with
    | true => exact .yes
    | false => exact .no
  | null => exact .null
  | array items =>
    cases items with
    | nil => exact .none
    | cons item items => exact valueWritten_texts item items
  | object members => exact .object members
termination_by sizeOf value

private theorem valueWritten_texts (item : Json) (items : List Json) :
    ValueWritten (.array (item :: items))
      (", ".intercalate (valueText false item :: valueTexts false items)) := by
  cases items with
  | nil =>
    rw [valueTexts, String.intercalate_singleton]
    exact .last (valueWritten_text item)
  | cons other items =>
    rw [valueTexts, String.intercalate_cons_cons]
    exact .next (valueWritten_text item) (valueWritten_texts other items)
termination_by sizeOf item + sizeOf items + 1

end

private theorem Line.Written.of_toList {line : Line} {text other : String} (written : line.Written text)
    (same : other.toList = text.toList) : line.Written other := by
  rwa [String.toList_inj.mp same]

private theorem written_text {line : Line} (ofResult : line.OfResult) : line.Written (line.text false) := by
  cases line with
  | blank => exact .blank
  | title kind => exact .title kind
  | heading text => exact .heading ofResult
  | rule => exact .rule
  | detail indent key value =>
    have written : Line.Written (.detail indent key value) _ := .detail ofResult (valueWritten_text value)
    apply written.of_toList
    simp [Line.text, Paint.apply]
  | nothing => exact .nothing
  | resource found =>
    by_cases unowned : found.owners = []
    · apply (Line.Written.top unowned).of_toList
      simp [Line.text, Paint.apply, location, toString, unowned]
    · apply (Line.Written.owned unowned).of_toList
      simp [Line.text, Paint.apply, location, toString, unowned]
  | permission granted =>
    obtain ⟨value, _ | ⟨broader, above⟩⟩ := granted
    · exact .held value
    · apply (Line.Written.implied value broader above).of_toList
      simp [Line.text, Paint.apply, toString]
  | unbounded found =>
    apply (Line.Written.unbounded found).of_toList
    simp [Line.text, Paint.apply, toString]
  | count label value emphasis =>
    apply (Line.Written.count label value emphasis).of_toList
    simp [Line.text, Paint.apply]
  | incomplete | failure => cases ofResult

private theorem printed_render (ofResult : ∀ line ∈ lines, line.OfResult) :
    Printed lines (render false lines) := by
  induction lines with
  | nil => exact .nothing
  | cons line rest ih =>
    obtain ⟨first, later⟩ := List.forall_mem_cons.mp ofResult
    rw [render, List.map_cons, String.join_cons]
    exact .line (written_text first) (ih later)

private theorem ofResult_details {indent : String} (known : indent ∈ [" ", "   "])
    (metadata : NameMap Json) : ∀ line ∈ details indent metadata, line.OfResult := by
  intro line member
  obtain ⟨entry, -, rfl⟩ := List.mem_map.mp member
  exact known

private theorem ofResult_resultLines (result : AnalysisResult) :
    ∀ line ∈ resultLines result, line.OfResult := by
  have credential : ∀ line ∈ credentialLines result, line.OfResult := by
    unfold credentialLines
    split
    · simp
    simp only [List.cons_append, List.forall_mem_cons, List.forall_mem_append]
    exact ⟨by simp [Line.OfResult], ofResult_details (by simp) _, by simp [Line.OfResult]⟩
  have unbounded : ∀ line ∈ unboundedLines result, line.OfResult := by
    unfold unboundedLines
    split
    · simp
    simp only [List.cons_append, List.forall_mem_cons, List.forall_mem_append, List.forall_mem_map]
    exact ⟨by simp [Line.OfResult], fun _ _ => trivial, by simp [Line.OfResult]⟩
  have access : ∀ line ∈ accessLines result, line.OfResult := by
    intro line member
    rcases accessLine_cases member with rfl | rfl | ⟨found, rfl⟩ | ⟨key, value, rfl⟩ | ⟨binding, -, rfl⟩ <;>
      simp [Line.OfResult]
  simp only [resultLines, List.forall_mem_append]
  refine ⟨⟨⟨⟨⟨⟨⟨⟨?_, credential⟩, ?_⟩, access⟩, ?_⟩, unbounded⟩, ?_⟩, ?_⟩, ?_⟩ <;>
    simp [Line.OfResult, summaryLines]

theorem printed_ofResult (result : AnalysisResult) :
    Printed (resultLines result) (ofResult .text false result) :=
  printed_render (ofResult_resultLines result)

namespace Decorated

variable {plain decorated others otherDecorated : List Char}

theorem refl (text : List Char) : Decorated text text := by
  induction text with
  | nil => exact .nothing
  | cons c rest ih => exact .char c ih

theorem append (first : Decorated plain decorated) (second : Decorated others otherDecorated) :
    Decorated (plain ++ others) (decorated ++ otherDecorated) := by
  induction first with
  | nothing => exact second
  | char c rest ih => exact .char c ih
  | code numbers rest ih =>
    rw [List.cons_append, List.cons_append, List.append_assoc, List.cons_append]
    exact .code numbers ih

end Decorated

variable {plain decorated : List Char}

private theorem decorated_sequence (codes : List Nat) (rest : Decorated plain decorated) :
    Decorated plain (Paint.sequence codes ++ decorated) := by
  rw [Paint.sequence, List.append_assoc, List.singleton_append]
  apply Decorated.code _ rest
  intro c member
  rcases Text.mem_joinWith member with between | ⟨numeral, listed, inside⟩
  · exact .inr (List.mem_singleton.mp between)
  · obtain ⟨number, -, rfl⟩ := List.mem_map.mp listed
    exact .inl (Nat.isDigit_of_mem_toDigits (by decide) (by decide) inside)

private theorem decorated_keepOn (codes : List Nat) (text : List Char) :
    Decorated text (Paint.keepOn (Paint.sequence codes) text) := by
  induction text using Paint.keepOn.induct with
  | case1 => rw [Paint.keepOn]; exact .nothing
  | case2 c rest switched ih =>
    -- What the text has switched off itself is switched on again behind it.
    obtain ⟨others, same⟩ := List.isPrefixOf_iff_prefix.mp switched
    have behind : others = rest.drop (Paint.reset.length - 1) := congrArg (List.drop Paint.reset.length) same
    rw [Paint.keepOn, if_pos switched, List.append_assoc, ← same, ← behind]
    rw [← behind] at ih
    exact (Decorated.refl _).append (decorated_sequence codes ih)
  | case3 c rest other ih =>
    rw [Paint.keepOn, if_neg other]
    exact .char c ih

/-- What is written with colors is what is written without them, decorated. -/
private def Colorable (write : Bool → String) : Prop :=
  Decorated (write false).toList (write true).toList

namespace Colorable

variable {write writeMore : Bool → String}

private theorem text (text : String) : Colorable fun _ => text := .refl _

private theorem append (first : Colorable write) (second : Colorable writeMore) :
    Colorable fun colors => write colors ++ writeMore colors := by
  unfold Colorable
  rw [String.toList_append, String.toList_append]
  exact Decorated.append first second

private theorem painted (paint : Paint) (text : String) : Colorable fun colors => paint.apply colors text := by
  simp only [Colorable, Paint.apply, Bool.false_eq_true, if_false, if_true, String.toList_ofList,
    List.append_assoc]
  apply decorated_sequence
  have shown := (decorated_keepOn paint.codes text.toList).append (decorated_sequence [0] .nothing)
  rwa [List.append_nil, List.append_nil] at shown

mutual

private theorem value (json : Json) : Colorable fun colors => valueText colors json := by
  cases json with
  | array items =>
    cases items with
    | nil => exact painted _ _
    | cons item items => exact values item items
  | string | number | bool | null | object => exact text _
termination_by sizeOf json

private theorem values (item : Json) (items : List Json) :
    Colorable fun colors => ", ".intercalate (valueText colors item :: valueTexts colors items) := by
  cases items with
  | nil =>
    simp only [valueTexts, String.intercalate_singleton]
    exact value item
  | cons other items =>
    simp only [valueTexts, String.intercalate_cons_cons]
    exact ((value item).append (text _)).append (values other items)
termination_by sizeOf item + sizeOf items + 1

end

private theorem marked (indent mark : String) (paint : Paint) :
    Colorable fun colors => indent ++ paint.apply colors mark ++ " " :=
  ((text indent).append (painted paint mark)).append (text " ")

private theorem line (line : Line) : Colorable line.text := by
  cases line with
  | blank => exact text _
  | title => exact painted _ _
  | heading | rule => exact (text _).append (painted _ _)
  | detail indent key json =>
    have named := ((marked indent "|" .dimmed).append (text key)).append (text ": ")
    exact named.append (value json)
  | nothing => exact ((text _).append (painted _ _)).append (text _)
  | resource found =>
    have named := (marked " " s!" {found.type} " .label).append (painted .bold found.name)
    exact ((named.append (text " ")).append (painted _ _)).append (painted _ _)
  | permission granted =>
    have held := (marked "   " "+" .green).append (painted .green granted.value)
    obtain ⟨value, _ | ⟨broader, above⟩⟩ := granted
    · exact held
    · exact (held.append (text " ")).append (painted _ _)
  | unbounded found =>
    have named := (marked " " "|-" .dimmed).append (painted .yellow found.fullName)
    exact (named.append (text " ")).append (painted _ _)
  | count label value emphasis =>
    have named := (marked " " "|-" .dimmed).append (text label)
    cases emphasis with
    | true => exact named.append (painted _ _)
    | false => exact named.append (text _)
  | incomplete => exact (marked " " " PARTIAL " .warning).append (painted _ _)
  | failure => exact (marked "   " "|" .dimmed).append (painted _ _)

private theorem render (lines : List Line) : Colorable fun colors => render colors lines := by
  induction lines with
  | nil => exact text ""
  | cons first rest ih =>
    simp only [Report.render, List.map_cons, String.join_cons]
    exact ((line first).append (text _)).append ih

end Colorable

/-- Colors change nothing else. -/
theorem decorated_ofResult (result : AnalysisResult) :
    Decorated (ofResult .text false result).toList (ofResult .text true result).toList :=
  Colorable.render _

end CredentialReach.Report
