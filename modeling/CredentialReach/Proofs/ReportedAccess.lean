import CredentialReach.Proofs.PrintedReports
import CredentialReach.Proofs.ReportedHoldings

/-! What a report for a terminal tells of the bindings of a result. Its lines are read in turn: a
permission belongs to the last header above it. Read like this, it has one header for each full name
that something is bound to, and it shows every binding once, whatever the order of the bindings is. -/

namespace CredentialReach

namespace AnalysisResult

variable {seen : List String} {resources : List Resource} {resource : Resource}

theorem mem_names_firstOfEach {name : String} :
    name ∈ (firstOfEach seen resources).map (·.fullName) ↔
      name ∉ seen ∧ name ∈ resources.map (·.fullName) := by
  induction resources generalizing seen with
  | nil => simp [firstOfEach]
  | cons first rest ih =>
    rw [firstOfEach]
    split
    next known =>
      rw [ih, List.map_cons, List.mem_cons]
      grind
    next => simp only [List.map_cons, List.mem_cons, ih]; grind

private theorem fullName_of_mem_firstOfEach (member : resource ∈ firstOfEach seen resources) :
    resource.fullName ∉ seen :=
  (mem_names_firstOfEach.mp (List.mem_map_of_mem (f := fun found : Resource => found.fullName) member)).1

/-- The names stand in the order in which they first occur. -/
theorem pairwise_firstOfEach (seen : List String) (resources : List Resource) :
    ((firstOfEach seen resources).map (·.fullName)).Pairwise fun a b =>
      (resources.map (·.fullName)).idxOf a < (resources.map (·.fullName)).idxOf b := by
  induction resources generalizing seen with
  | nil => exact List.Pairwise.nil
  | cons first rest ih =>
    -- One more name in front moves all others by one.
    have behind (seen : List String) (known : first.fullName ∈ seen) :
        ((firstOfEach seen rest).map (·.fullName)).Pairwise fun a b =>
          ((first :: rest).map (·.fullName)).idxOf a < ((first :: rest).map (·.fullName)).idxOf b := by
      refine (ih seen).imp_of_mem fun {a b} memberA memberB before => ?_
      have otherA : first.fullName ≠ a := fun same => (mem_names_firstOfEach.mp memberA).1 (same ▸ known)
      have otherB : first.fullName ≠ b := fun same => (mem_names_firstOfEach.mp memberB).1 (same ▸ known)
      rw [List.map_cons, List.idxOf_cons_ne _ otherA, List.idxOf_cons_ne _ otherB]
      exact Nat.succ_lt_succ before
    rw [firstOfEach]
    split
    next known => exact behind seen known
    next new =>
      refine List.pairwise_cons.mpr ⟨fun name listed => ?_, behind _ List.mem_cons_self⟩
      have other : first.fullName ≠ name := fun same =>
        (mem_names_firstOfEach.mp listed).1 (same ▸ List.mem_cons_self)
      rw [List.map_cons, List.idxOf_cons_self, List.idxOf_cons_ne _ other]
      exact Nat.succ_pos _

/-- Each one is the first of its name. -/
theorem find?_of_mem_firstOfEach (member : resource ∈ firstOfEach seen resources) :
    resources.find? (·.fullName == resource.fullName) = some resource := by
  induction resources generalizing seen with
  | nil => cases member
  | cons first rest ih =>
    have later (seen : List String) (known : first.fullName ∈ seen)
        (listed : resource ∈ firstOfEach seen rest) :
        (first :: rest).find? (·.fullName == resource.fullName) = some resource := by
      have other : first.fullName ≠ resource.fullName := fun same =>
        fullName_of_mem_firstOfEach listed (same ▸ known)
      rw [List.find?_cons_of_neg (by simpa using other)]
      exact ih listed
    rw [firstOfEach] at member
    split at member
    next known => exact later seen known member
    next new =>
      rcases List.mem_cons.mp member with rfl | listed
      · exact List.find?_cons_of_pos (by simp)
      · exact later _ List.mem_cons_self listed

/-- Gathered name by name, the items of a list are all there. -/
theorem perm_gathered {α : Type} (name : α → String) {names : List String} (apart : names.Nodup)
    {items : List α} (named : ∀ item ∈ items, name item ∈ names) :
    (names.flatMap fun one => items.filter (name · == one)).Perm items := by
  induction names generalizing items with
  | nil => rw [List.eq_nil_iff_forall_not_mem.mpr fun item listed => List.not_mem_nil (named item listed)]; rfl
  | cons first rest ih =>
    obtain ⟨absent, apart⟩ := List.nodup_cons.mp apart
    let others := items.filter (!name · == first)
    have gathered : (rest.flatMap fun one => items.filter (name · == one)) =
        rest.flatMap fun one => others.filter (name · == one) := by
      refine List.flatMap_congr fun one listed => ?_
      rw [List.filter_filter]
      refine List.filter_congr fun item _ => ?_
      by_cases same : name item = one
      · have other : one ≠ first := fun equal => absent (equal ▸ listed)
        simp [same, other]
      · simp [same]
    have later : ∀ item ∈ others, name item ∈ rest := by
      intro item listed
      obtain ⟨listed, other⟩ := List.mem_filter.mp listed
      exact (List.mem_cons.mp (named item listed)).resolve_left (by simpa using other)
    rw [List.flatMap_cons, gathered]
    exact ((ih apart later).append_left _).trans (List.filter_append_perm _ items)

end AnalysisResult

namespace Report

open AnalysisResult

def Line.header? : Line → Option Resource
  | resource found => some found
  | _ => none

def Line.permission? : Line → Option Permission
  | permission granted => some granted
  | _ => none

def Line.unbounded? : Line → Option Resource
  | unbounded found => some found
  | _ => none

def headers (lines : List Line) : List Resource := lines.filterMap Line.header?

/-- The permissions that are shown, each with the full name in the last header above it. -/
def shown : (header : Option String) → List Line → List (Option String × Permission)
  | _, [] => []
  | _, .resource found :: rest => shown (some found.fullName) rest
  | header, .permission granted :: rest => (header, granted) :: shown header rest
  | header, _ :: rest => shown header rest

/-- The lines tell of all bindings of a result, and of each of them once. -/
structure ShowsBindings (result : AnalysisResult) (lines : List Line) : Prop where
  /-- Headers and permissions stand in one section, whose heading says so. -/
  oneSection : ∃ before access after, lines = before ++ access ++ after ∧
    access.head? = (if result.bindings.isEmpty then some .nothing else some (.heading "Access")) ∧
    ∀ line ∈ before ++ after, line.header? = none ∧ line.permission? = none
  named : ∀ name, name ∈ (headers lines).map (·.fullName) ↔
    ∃ binding ∈ result.bindings, binding.resource.fullName = name
  once : ((headers lines).map (·.fullName)).Nodup
  /-- The headers stand in the order of the first bindings. -/
  ordered : ((headers lines).map (·.fullName)).Pairwise fun a b =>
    (result.bindings.map (·.resource.fullName)).idxOf a <
      (result.bindings.map (·.resource.fullName)).idxOf b
  first : ∀ header ∈ headers lines,
    (result.bindings.map (·.resource)).find? (·.fullName == header.fullName) = some header
  /-- Under a header stand the permissions bound to its name, in the order of the bindings. -/
  under : ∀ name, (shown none lines).filter (·.1 == some name) =
    (result.bindings.filter (·.resource.fullName == name)).map fun binding =>
      (some name, binding.permission)
  all : (shown none lines).Perm
    (result.bindings.map fun binding => (some binding.resource.fullName, binding.permission))

/-- The last lines count the headers, the resources without permissions and the permissions. -/
def CountsShown (lines : List Line) : Prop :=
  let bound := (headers lines).length
  let unbounded := (lines.filterMap Line.unbounded?).length
  let held := (lines.filterMap Line.permission?).length
  ∃ above, lines = above ++ [.heading "Summary",
    .count "Resources:    " (bound + unbounded) false, .count "Bound:        " bound true,
    .count "Unbounded:    " unbounded false, .count "Bindings:     " held false, .blank]

def Aside (lines : List Line) : Prop := ∀ line ∈ lines, line.header? = none ∧ line.permission? = none

variable {lines others rest : List Line} {result : AnalysisResult}

theorem Aside.append (first : Aside lines) (second : Aside others) : Aside (lines ++ others) := by
  intro line member
  rcases List.mem_append.mp member with listed | listed
  · exact first line listed
  · exact second line listed

theorem aside_details (indent : String) (metadata : NameMap Json) : Aside (details indent metadata) := by
  intro line member
  obtain ⟨entry, -, rfl⟩ := List.mem_map.mp member
  exact ⟨rfl, rfl⟩

theorem headers_append : headers (lines ++ others) = headers lines ++ headers others :=
  List.filterMap_append

theorem Aside.headers (aside : Aside lines) : headers lines = [] :=
  List.filterMap_eq_nil_iff.mpr fun line member => (aside line member).1

theorem Aside.shown_append (aside : Aside lines) (header : Option String) (rest : List Line) :
    shown header (lines ++ rest) = shown header rest := by
  induction lines with
  | nil => rfl
  | cons line others ih =>
    obtain ⟨⟨noHeader, noPermission⟩, later⟩ := List.forall_mem_cons.mp aside
    rw [List.cons_append, ← ih later]
    cases line <;> first | rfl | contradiction

private theorem length_shown (header : Option String) (lines : List Line) :
    (shown header lines).length = (lines.filterMap Line.permission?).length := by
  induction lines generalizing header with
  | nil => rfl
  | cons line rest ih =>
    cases line
    case permission granted => exact congrArg (· + 1) (ih header)
    all_goals exact ih _

private theorem shown_permissions (header : Option String) (bindings : List Binding) (rest : List Line) :
    shown header (bindings.map (fun binding => .permission binding.permission) ++ rest) =
      bindings.map (fun binding => (header, binding.permission)) ++ shown header rest := by
  induction bindings with
  | nil => rfl
  | cons binding others ih => rw [List.map_cons, List.cons_append, shown, ih]; rfl

def shownOf (result : AnalysisResult) (name : String) : List (Option String × Permission) :=
  (result.bindingsOf name).map fun binding => (some name, binding.permission)

private theorem shown_resourceLines (header : Option String) (result : AnalysisResult) (resource : Resource)
    (rest : List Line) : shown header (resourceLines result resource ++ rest) =
      shownOf result resource.fullName ++ shown (some resource.fullName) rest := by
  rw [resourceLines, List.append_assoc, List.cons_append, shown, (aside_details _ _).shown_append,
    shown_permissions]
  rfl

private theorem headers_resourceLines (result : AnalysisResult) (resource : Resource) :
    headers (resourceLines result resource) = [resource] := by
  have told : headers (details "   " resource.metadata) = [] := (aside_details _ _).headers
  have permissions : headers ((result.bindingsOf resource.fullName).map
      fun binding => .permission binding.permission) = [] :=
    List.filterMap_eq_nil_iff.mpr fun line member => by
      obtain ⟨binding, -, rfl⟩ := List.mem_map.mp member
      rfl
  have first (rest : List Line) : headers (.resource resource :: rest) = resource :: headers rest := rfl
  rw [resourceLines, List.cons_append, first, headers_append, told, permissions]
  rfl

private theorem isEmpty_boundResources (result : AnalysisResult) :
    result.boundResources.isEmpty = result.bindings.isEmpty := by
  unfold boundResources
  cases result.bindings <;> rfl

private theorem headers_accessLines (result : AnalysisResult) :
    headers (accessLines result) = result.boundResources := by
  unfold accessLines
  cases bound : result.boundResources with
  | nil => rfl
  | cons first rest =>
    simp only [List.isEmpty_cons, Bool.false_eq_true, if_false]
    generalize first :: rest = resources
    have heading (rest : List Line) : headers (.heading "Access" :: rest) = headers rest := rfl
    rw [heading]
    induction resources with
    | nil => rfl
    | cons resource others ih => rw [List.flatMap_cons, headers_append, headers_resourceLines, ih]; rfl

private theorem shown_accessLines (result : AnalysisResult) (header : Option String) (aside : Aside rest) :
    shown header (accessLines result ++ rest) =
      result.boundResources.flatMap fun resource => shownOf result resource.fullName := by
  have nothing (header : Option String) : shown header rest = [] := by
    have empty := aside.shown_append header []
    rwa [List.append_nil] at empty
  unfold accessLines
  cases result.boundResources with
  | nil => exact nothing header
  | cons first others =>
    simp only [List.isEmpty_cons, Bool.false_eq_true, if_false, List.cons_append, shown]
    generalize first :: others = resources
    induction resources generalizing header with
    | nil => exact nothing header
    | cons resource others ih =>
      rw [List.flatMap_cons, List.append_assoc, shown_resourceLines, ih, List.flatMap_cons]

private theorem head?_accessLines (result : AnalysisResult) : (accessLines result).head? =
    if result.bindings.isEmpty then some .nothing else some (.heading "Access") := by
  rw [← isEmpty_boundResources, accessLines]
  split <;> rfl

def linesAbove (result : AnalysisResult) : List Line :=
  [.blank, .title result.kind, .blank] ++ credentialLines result ++ [.rule, .blank]

def linesBelow (result : AnalysisResult) : List Line :=
  [.blank] ++ unboundedLines result ++ [.rule, .blank] ++ summaryLines result ++ [.blank]

theorem resultLines_eq (result : AnalysisResult) :
    resultLines result = linesAbove result ++ accessLines result ++ linesBelow result := by
  simp only [resultLines, linesAbove, linesBelow, List.append_assoc]

theorem aside_linesAbove (result : AnalysisResult) : Aside (linesAbove result) := by
  have credential : Aside (credentialLines result) := by
    unfold credentialLines
    split
    · exact fun _ member => absurd member List.not_mem_nil
    · refine Aside.append ?_ (by simp [Aside, Line.header?, Line.permission?])
      exact List.forall_mem_cons.mpr ⟨⟨rfl, rfl⟩, aside_details _ _⟩
  refine (Aside.append ?_ credential).append ?_ <;> simp [Aside, Line.header?, Line.permission?]

theorem aside_linesBelow (result : AnalysisResult) : Aside (linesBelow result) := by
  have unbounded : Aside (unboundedLines result) := by
    unfold unboundedLines
    split
    · exact fun _ member => absurd member List.not_mem_nil
    · refine Aside.append ?_ (by simp [Aside, Line.header?, Line.permission?])
      refine List.forall_mem_cons.mpr ⟨⟨rfl, rfl⟩, fun line member => ?_⟩
      obtain ⟨resource, -, rfl⟩ := List.mem_map.mp member
      exact ⟨rfl, rfl⟩
  refine (((Aside.append ?_ unbounded).append ?_).append ?_).append ?_ <;>
    simp [Aside, Line.header?, Line.permission?, summaryLines]

private theorem headers_resultLines (result : AnalysisResult) :
    headers (resultLines result) = result.boundResources := by
  rw [resultLines_eq, headers_append, headers_append, (aside_linesAbove result).headers,
    headers_accessLines, (aside_linesBelow result).headers, List.append_nil, List.nil_append]

private theorem shown_resultLines (result : AnalysisResult) : shown none (resultLines result) =
    result.boundResources.flatMap fun resource => shownOf result resource.fullName := by
  rw [resultLines_eq, List.append_assoc, (aside_linesAbove result).shown_append,
    shown_accessLines result none (aside_linesBelow result)]

private theorem unbounded_details (indent : String) (metadata : NameMap Json) :
    (details indent metadata).filterMap Line.unbounded? = [] :=
  List.filterMap_eq_nil_iff.mpr fun line member => by
    obtain ⟨entry, -, rfl⟩ := List.mem_map.mp member
    rfl

private theorem unbounded_accessLines (result : AnalysisResult) :
    (accessLines result).filterMap Line.unbounded? = [] := by
  refine List.filterMap_eq_nil_iff.mpr fun line member => ?_
  rcases accessLine_cases member with rfl | rfl | ⟨found, rfl⟩ | ⟨key, value, rfl⟩ | ⟨binding, -, rfl⟩ <;> rfl

private theorem unbounded_resultLines (result : AnalysisResult) :
    (resultLines result).filterMap Line.unbounded? = result.unbounded := by
  have credential : (credentialLines result).filterMap Line.unbounded? = [] := by
    unfold credentialLines
    split
    · rfl
    · rw [List.filterMap_append, List.filterMap_cons_none rfl, unbounded_details]
      rfl
  have unbounded : (unboundedLines result).filterMap Line.unbounded? = result.unbounded := by
    unfold unboundedLines
    split
    next none => exact (List.isEmpty_iff.mp none).symm
    next =>
      have listed : (result.unbounded.map Line.unbounded).filterMap Line.unbounded? = result.unbounded := by
        rw [List.filterMap_map]
        exact List.filterMap_some
      rw [List.filterMap_append, List.filterMap_cons_none rfl, listed]
      exact List.append_nil _
  simp only [resultLines, List.filterMap_append, credential, unbounded_accessLines, unbounded]
  change result.unbounded ++ [] ++ [] ++ [] = result.unbounded
  simp only [List.append_nil]

theorem nodup_boundResources (result : AnalysisResult) :
    (result.boundResources.map (·.fullName)).Nodup :=
  (pairwise_firstOfEach [] _).imp fun before same => by
    rw [same] at before
    exact Nat.lt_irrefl _ before

theorem mem_names_boundResources {name : String} :
    name ∈ result.boundResources.map (·.fullName) ↔
      ∃ binding ∈ result.bindings, binding.resource.fullName = name := by
  simp [boundResources, mem_names_firstOfEach]

private theorem perm_shown_resultLines (result : AnalysisResult) : (shown none (resultLines result)).Perm
    (result.bindings.map fun binding => (some binding.resource.fullName, binding.permission)) := by
  have named : ∀ binding ∈ result.bindings,
      binding.resource.fullName ∈ result.boundResources.map (·.fullName) := fun binding listed =>
    mem_names_boundResources.mpr ⟨binding, listed, rfl⟩
  have gathered := (perm_gathered _ (nodup_boundResources result) named).map
    fun binding => (some binding.resource.fullName, binding.permission)
  have same : shown none (resultLines result) = ((result.boundResources.map (·.fullName)).flatMap
      fun name => result.bindings.filter (·.resource.fullName == name)).map fun binding =>
        (some binding.resource.fullName, binding.permission) := by
    rw [shown_resultLines, List.map_flatMap, List.flatMap_map]
    refine List.flatMap_congr fun resource _ => List.map_congr_left fun binding listed => ?_
    rw [beq_iff_eq.mp (List.mem_filter.mp listed).2]
  rw [same]
  exact gathered

private theorem filter_shownOf (result : AnalysisResult) (name other : String) :
    (shownOf result other).filter (·.1 == some name) =
      if other = name then shownOf result other else [] := by
  unfold shownOf
  split <;> simp_all [List.filter_map, Function.comp_def]

private theorem filter_shown_resultLines (result : AnalysisResult) (name : String) :
    (shown none (resultLines result)).filter (·.1 == some name) = shownOf result name := by
  simp only [shown_resultLines, List.filter_flatMap, filter_shownOf]
  by_cases bound : name ∈ result.boundResources.map (·.fullName)
  · obtain ⟨resource, listed, rfl⟩ := List.mem_map.mp bound
    exact flatMap_of_apart (nodup_boundResources result) listed fun other => shownOf result other.fullName
  · -- Nothing is bound to the name, so nothing is shown of it.
    have none : shownOf result name = [] := by
      refine List.map_eq_nil_iff.mpr (List.filter_eq_nil_iff.mpr fun binding listed same => bound ?_)
      exact mem_names_boundResources.mpr ⟨binding, listed, beq_iff_eq.mp same⟩
    rw [none]
    refine List.flatMap_eq_nil_iff.mpr fun resource listed => if_neg fun same => bound ?_
    exact List.mem_map.mpr ⟨resource, listed, same⟩

private theorem showsBindings_resultLines (result : AnalysisResult) :
    ShowsBindings result (resultLines result) := by
  have headers := headers_resultLines result
  constructor
  case oneSection =>
    exact ⟨_, _, _, resultLines_eq result, head?_accessLines result,
      (aside_linesAbove result).append (aside_linesBelow result)⟩
  case named =>
    rw [headers]
    exact fun name => mem_names_boundResources
  case once =>
    rw [headers]
    exact nodup_boundResources result
  case ordered =>
    have names : result.bindings.map (·.resource.fullName) =
        (result.bindings.map (·.resource)).map (·.fullName) := by rw [List.map_map]; rfl
    rw [headers, names]
    exact pairwise_firstOfEach [] _
  case first =>
    rw [headers]
    exact fun header listed => find?_of_mem_firstOfEach listed
  case under => exact filter_shown_resultLines result
  case all => exact perm_shown_resultLines result

/-- A text report shows every binding of a result once, under the one header of its name, and its
summary counts what it shows. With colors it shows the same. -/
theorem ofResult_shows_bindings (result : AnalysisResult) :
    ∃ lines, Printed lines (ofResult .text false result) ∧
      Decorated (ofResult .text false result).toList (ofResult .text true result).toList ∧
      ShowsBindings result lines ∧ CountsShown lines := by
  have held : ((resultLines result).filterMap Line.permission?).length = result.bindings.length := by
    rw [← length_shown none, (perm_shown_resultLines result).length_eq, List.length_map]
  have counted : CountsShown (resultLines result) := by
    unfold CountsShown
    rw [headers_resultLines, unbounded_resultLines, held]
    exact ⟨_, List.append_assoc _ (summaryLines result) [.blank]⟩
  exact ⟨_, printed_ofResult result, decorated_ofResult result, showsBindings_resultLines result, counted⟩

end Report

end CredentialReach
