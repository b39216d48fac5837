import CredentialReach.Proofs.HeldPermissions
import CredentialReach.Proofs.ProbeRuns
import CredentialReach.Vendor.Figma

/-! What is told of a Figma token. It reaches one resource, its owner or itself, and each scope
that a token can have is granted, denied or left open there. The resource is bound to the scopes
that are granted. That is not so if the name for full access is among the scopes that a response
reveals: then it is bound to all of them, although they are denied. -/

namespace CredentialReach.Figma

open Probe (Report Status Reports)

variable {transport : Transport} {send : Nat → Transport} {report : Report}
  {identity : Option Identity} {result : AnalysisResult}

def asksWho : Probe :=
  { probe "files:read" (.get identityPath) 200 with revealsIdentity := true }

private theorem permissions_probes : probes.map (·.permission) = scopes := rfl

private theorem nodup_scopes : scopes.Nodup := by decide

private theorem fullAccess_not_mem_scopes : fullAccess ∉ scopes := by decide

def reached (identity : Option Identity) : Resource := .place (owner identity) none

private theorem resources_addRoot (draft : Draft) :
    (({} : ResourceGraph).addRoot draft).graph.resources = [.place draft none] := rfl

theorem grants_iff (held : PermissionSet) (scope : String) :
    permissionTable.grants held scope = true ↔ scope ∈ held ∨ fullAccess ∈ held := by
  have none : permissionTable.implying scope = [] := rfl
  simp [PermissionTable.grants_iff, none]

private theorem applicable_owner (identity : Option Identity) :
    permissionTable.applicable (owner identity).type = scopes := by
  cases identity with
  | none => rfl
  | some identity => rfl

theorem values_resolve (identity : Option Identity) (held : PermissionSet) :
    (permissionTable.resolve (reached identity).type held).map (·.value) =
      scopes.filter fun scope => scope ∈ held ∨ fullAccess ∈ held := by
  have type : (reached identity).type = (owner identity).type := rfl
  rw [PermissionTable.values_resolve, type, applicable_owner]
  apply List.filter_congr
  intro scope _
  exact Bool.eq_iff_iff.mpr ((grants_iff held scope).trans (by simp))

/-- The owner that was reported, if it can be read. -/
def identityIn (report : Report) : Except AnalysisFault (Option Identity) :=
  report.identity.mapM fun document => (Identity.ofJson document).mapError (.decode identityPath)

private theorem exists_of_resultOf (done : resultOf report = .ok result) :
    ∃ identity, identityIn report = .ok identity ∧
      result = .aggregate .figma (({} : ResourceGraph).addRoot (owner identity)).graph permissionTable
        ⟨report.granted, []⟩ (metadataOf report identity) := by
  change identityIn report >>= _ = _ at done
  cases read : identityIn report with
  | error fault =>
    rw [read] at done
    cases done
  | ok identity =>
    rw [read] at done
    exact ⟨identity, rfl, (Except.ok.inj done).symm⟩

/-- An analysis that comes to a result has run all its probes and read the identity. -/
theorem exists_of_analyze {settings : Settings} {credential : Credential} {analysis : Analysis}
    (done : (analyze settings (some transport) credential).outcome = .ok analysis) :
    ∃ report result, (Probe.run (fun _ => transport) probes).outcome = .ok report ∧
      resultOf report = .ok result ∧ analysis = { result } := by
  obtain ⟨token, -, done⟩ := Session.exists_of_bind_ok done
  simp only [Transport.connect_given, Session.lift_ok_bind] at done
  obtain ⟨report, run, done⟩ := Session.exists_of_bind_ok done
  obtain ⟨result, told, done⟩ := Session.exists_of_bind_ok done
  exact ⟨report, result, run, told, (Except.ok.inj done).symm⟩

/-- The scopes that are left open are listed, if there are any. -/
theorem get?_unverified (report : Report) (identity : Option Identity) :
    (metadataOf report identity).get? "unverified_scopes" =
      if report.withStatus .unverified = [] then none
      else some (.ofTexts (report.withStatus .unverified)) := by
  unfold metadataOf
  -- Each part of the metadata has names of its own.
  rcases identity with _ | ⟨id, handle, _ | email⟩ <;> cases report.revealed <;>
    by_cases settled : report.withStatus .unverified = [] <;>
    simp [settled, NameMap.ofList, Identity.emailMember]

private theorem identity?_of_later (send : Nat → Transport) {trial : Probe.Trial}
    (later : trial ∈ probes.tail.zipIdx 1) : trial.identity? send = none := by
  have silent : ∀ probe ∈ probes.tail, probe.revealsIdentity = false := by decide
  have quiet := silent trial.1 (List.fst_mem_of_mem_zipIdx later)
  simp [Probe.Trial.identity?, Probe.Trial.identifies, quiet]

private theorem identity_of_run (run : (Probe.run (fun _ => transport) probes).outcome = .ok report) :
    Probe.Trial.fault? (fun _ => transport) (asksWho, 0) = none ∧
      report.identity = Probe.Trial.identity? (fun _ => transport) (asksWho, 0) := by
  obtain ⟨sound, reports⟩ := Probe.exists_of_run run
  obtain ⟨count, first⟩ : ∃ count, Probe.tried (fun _ => transport) probes.zipIdx =
      (asksWho, 0) :: (probes.tail.zipIdx 1).take count := ⟨_, rfl⟩
  -- Only the first probe asks for it.
  have others : ((probes.tail.zipIdx 1).take count).filterMap
      (Probe.Trial.identity? fun _ => transport) = [] := by
    apply List.filterMap_eq_nil_iff.mpr
    intro trial member
    exact identity?_of_later _ (List.mem_of_mem_take member)
  rw [first] at sound
  refine ⟨sound _ List.mem_cons_self, ?_⟩
  rw [reports.identity, first, List.filterMap_cons, others]
  cases Probe.Trial.identity? (fun _ => transport) (asksWho, 0) <;> rfl

/-- Whose token it is, if the vendor says so. -/
structure Knows (transport : Transport) (identity : Option Identity) : Prop where
  granted : identity.isSome = true ↔
    ∃ response, (transport (.get identityPath)).outcome = .ok response ∧ response.status = 200
  decoded : ∀ owner ∈ identity, ∃ response document,
    (transport (.get identityPath)).outcome = .ok response ∧ response.json = .ok document ∧
      Identity.ofJson document = .ok owner

theorem identifies_asksWho :
    Probe.Trial.identifies (fun _ => transport) (asksWho, 0) = true ↔
      ∃ response, (transport (.get identityPath)).outcome = .ok response ∧ response.status = 200 := by
  cases answered : (transport (.get identityPath)).outcome with
  | error fault =>
    have reply : Probe.Trial.reply (fun _ => transport) (asksWho, 0) = .error fault := answered
    simp [Probe.Trial.identifies, Probe.Trial.verdict?, reply, Except.toOption]
  | ok response =>
    have reply : Probe.Trial.reply (fun _ => transport) (asksWho, 0) = .ok response := answered
    have granted : asksWho.classify response = .settled .granted ↔ response.status = 200 := by
      rw [Probe.classify_granted_iff]
      simp [asksWho, probe, Probe.Expected.accepts]
    have reveals : asksWho.revealsIdentity = true := rfl
    simp [Probe.Trial.identifies, Probe.Trial.verdict_of_reply reply, granted, reveals]

private theorem knows_of_run (run : (Probe.run (fun _ => transport) probes).outcome = .ok report)
    (read : identityIn report = .ok identity) : Knows transport identity := by
  obtain ⟨sound, same⟩ := identity_of_run run
  cases identifies : Probe.Trial.identifies (fun _ => transport) (asksWho, 0) with
  | false =>
    rw [identityIn, same, Probe.Trial.identity?, identifies] at read
    obtain rfl : none = identity := Except.ok.inj read
    constructor
    · rw [← identifies_asksWho, identifies]
      exact Iff.rfl
    · intro owner known
      cases known
  | true =>
    obtain ⟨response, answered, status⟩ := identifies_asksWho.mp identifies
    have reply : Probe.Trial.reply (fun _ => transport) (asksWho, 0) = .ok response := answered
    cases parsed : response.json with
    | error fault => simp [Probe.Trial.fault?, reply, identifies, parsed] at sound
    | ok document =>
      have found : report.identity = some document := by
        simp [same, Probe.Trial.identity?, identifies, reply, parsed, Except.toOption]
      rw [identityIn, found, Option.mapM_some] at read
      cases decoded : Identity.ofJson document with
      | error fault =>
        rw [decoded] at read
        cases read
      | ok owner =>
        rw [decoded] at read
        obtain rfl : some owner = identity := Except.ok.inj read
        constructor
        · rw [← identifies_asksWho, identifies]
          exact Iff.rfl
        · intro other known
          cases known
          exact ⟨response, document, answered, parsed, decoded⟩

/-- The result for a token, of whose scopes `report` tells. -/
structure Told (report : Report) (identity : Option Identity) (result : AnalysisResult) : Prop where
  one : result.boundResources ++ result.unbounded = [reached identity]
  there : ∀ binding ∈ result.bindings, binding.resource = reached identity
  /-- Every scope has one status. -/
  accounted : ∀ scope ∈ scopes, ∃! status, scope ∈ report.withStatus status
  inOrder : ∀ status, (report.withStatus status).Sublist scopes ∧ (report.withStatus status).Nodup
  settled : report.revealed.isSome = true → report.withStatus .unverified = []
  unverified : result.metadata.get? "unverified_scopes" =
    if report.withStatus .unverified = [] then none
    else some (.ofTexts (report.withStatus .unverified))
  granted : ∀ scope ∈ scopes, (scope ∈ report.granted ↔ scope ∈ report.withStatus .granted)
  bound : fullAccess ∉ report.revealed.getD [] →
    result.bindings.map (·.permission.value) = report.withStatus .granted ∧
      (result.unbounded = [] ↔ ∃ scope ∈ scopes, scope ∈ report.granted)
  /-- The name for full access stands for all scopes, also where it was revealed. -/
  boundToAll : fullAccess ∈ report.revealed.getD [] →
    result.bindings.map (·.permission.value) = scopes ∧ result.unbounded = []

theorem fullAccess_granted_iff (reports : Reports send probes report) :
    fullAccess ∈ report.granted ↔ fullAccess ∈ report.revealed.getD [] :=
  reports.granted_other fullAccess_not_mem_scopes

theorem candidates_eq (reports : Reports send probes report) :
    report.statuses.map (·.1) = scopes :=
  reports.candidates.trans permissions_probes

private theorem filter_granted (reports : Reports send probes report) :
    (scopes.filter fun scope => scope ∈ report.granted) = report.withStatus .granted := by
  have apart : (report.statuses.map (·.1)).Nodup := candidates_eq reports ▸ nodup_scopes
  have own := Probe.filter_withStatus apart .granted
  rw [candidates_eq reports] at own
  rw [← own]
  apply List.filter_congr
  intro scope candidate
  exact decide_eq_decide.mpr (reports.granted_candidate candidate)

/-- The scopes that are resolved for a token: those that were granted, or all. -/
theorem values_resolve_granted (reports : Reports send probes report) (identity : Option Identity) :
    (permissionTable.resolve (reached identity).type report.granted).map (·.value) =
      if fullAccess ∈ report.revealed.getD [] then scopes else report.withStatus .granted := by
  rw [values_resolve, ← filter_granted reports]
  split
  next named =>
    have all := (fullAccess_granted_iff reports).mpr named
    simp [all]
  next unnamed =>
    have absent := mt (fullAccess_granted_iff reports).mp unnamed
    simp [absent]

private theorem told_of_run (run : (Probe.run (fun _ => transport) probes).outcome = .ok report)
    (identity : Option Identity) :
    Told report identity (.aggregate .figma (({} : ResourceGraph).addRoot (owner identity)).graph
      permissionTable ⟨report.granted, []⟩ (metadataOf report identity)) := by
  obtain ⟨-, reports⟩ := Probe.exists_of_run run
  obtain ⟨bindings, unbounded, one⟩ := AnalysisResult.aggregate_alone .figma permissionTable
    report.granted (metadataOf report identity) (resources_addRoot (owner identity))
  have apart : (report.statuses.map (·.1)).Nodup := candidates_eq reports ▸ nodup_scopes
  have values := values_resolve_granted reports identity
  refine ⟨one, ?there, ?accounted, ?inOrder, ?settled, get?_unverified report identity, ?granted, ?bound,
    ?boundToAll⟩
  case there =>
    intro binding member
    rw [bindings] at member
    obtain ⟨permission, -, rfl⟩ := List.mem_map.mp member
    rfl
  case accounted =>
    intro scope member
    exact Probe.existsUnique_status apart (candidates_eq reports ▸ member)
  case inOrder =>
    intro status
    have sub : (report.withStatus status).Sublist (report.statuses.map (·.1)) :=
      List.filter_sublist.map _
    exact ⟨candidates_eq reports ▸ sub, apart.sublist sub⟩
  case settled =>
    intro revealed
    rw [reports.revealed] at revealed
    obtain ⟨list, revealed⟩ := Option.isSome_iff_exists.mp revealed
    exact (reports.settled list revealed).2.1
  case granted => exact fun scope member => reports.granted_candidate member
  case bound =>
    intro unnamed
    rw [if_neg unnamed] at values
    have none : permissionTable.resolve (reached identity).type report.granted = [] ↔
        ∀ scope ∈ scopes, scope ∉ report.granted := by
      rw [← List.map_eq_nil_iff, values, ← filter_granted reports, List.filter_eq_nil_iff]
      simp
    rw [bindings, unbounded, List.map_map]
    refine ⟨values, (not_congr none).trans ?_⟩
    simp
  case boundToAll =>
    intro named
    rw [if_pos named] at values
    rw [bindings, unbounded, List.map_map]
    refine ⟨values, ?_⟩
    intro none
    rw [show permissionTable.resolve (reached identity).type report.granted = [] from none] at values
    cases values

/-- An analysis that comes to a result tells of one resource, and there of every scope: it is
granted and bound, or listed as open, or denied. The exception is a token with a scope that is
called like full access. -/
theorem analyze_accounts_for_scopes {settings : Settings} {credential : Credential}
    {analysis : Analysis}
    (done : (analyze settings (some transport) credential).outcome = .ok analysis) :
    ∃ report identity, (Probe.run (fun _ => transport) probes).outcome = .ok report ∧
      Knows transport identity ∧ analysis.isComplete = true ∧
      Told report identity analysis.result := by
  obtain ⟨report, result, run, told, rfl⟩ := exists_of_analyze done
  obtain ⟨identity, read, rfl⟩ := exists_of_resultOf told
  exact ⟨report, identity, run, knows_of_run run read, rfl, told_of_run run identity⟩

/-- The owner is known, and then a scope that no token can have is revealed as well. -/
def partly : Transport := fun request =>
  if request.path = identityPath then
    ⟨0, .ok ⟨200, "\x7b\"id\":\"7\",\"handle\":\"ann\"\x7d"⟩⟩
  else ⟨0, .ok ⟨403, "Invalid scope(s): files:read, projects:read. This endpoint requires more"⟩⟩

theorem analyze_accounts_for_scopes_partly :
    ∃ analysis, (analyze {} (some partly) (.token "figd_x")).outcome = .ok analysis ∧
      analysis.result.bindings.map (·.permission.value) = ["files:read"] ∧
      analysis.result.unbounded = [] := by
  have succeeds : (analyze {} (some partly) (.token "figd_x")).outcome.toOption.isSome = true := by
    decide +kernel
  have seen : (Probe.run (fun _ => partly) probes).outcome.toOption.map
      (fun report => (report.withStatus .granted, report.revealed)) =
        some (["files:read"], some ["files:read", "projects:read"]) := by
    decide +kernel
  cases done : (analyze {} (some partly) (.token "figd_x")).outcome with
  | error fault =>
    rw [done] at succeeds
    cases succeeds
  | ok analysis =>
    obtain ⟨report, identity, run, -, -, told⟩ := analyze_accounts_for_scopes done
    rw [run] at seen
    obtain ⟨granted, revealed⟩ := Prod.mk.inj (Option.some.inj seen)
    have unnamed : fullAccess ∉ report.revealed.getD [] := by
      rw [revealed]
      decide
    have held : "files:read" ∈ report.granted := by
      rw [told.granted "files:read" (by decide), granted]
      exact List.mem_singleton.mpr rfl
    obtain ⟨bound, unbounded⟩ := told.bound unnamed
    exact ⟨analysis, rfl, bound.trans granted, unbounded.mpr ⟨_, by decide, held⟩⟩

/-- The one scope that is revealed has the name for full access. -/
def misnaming : Transport := fun _ =>
  ⟨0, .ok ⟨403, "Invalid scope(s): full_access. This endpoint requires the files:read scope"⟩⟩

/-- A token is bound to all scopes though each of them was denied. -/
theorem analyze_binds_denied_scopes :
    (Probe.run (fun _ => misnaming) probes).outcome.toOption.map (·.withStatus .denied) = some scopes ∧
      (analyze {} (some misnaming) (.token "figd_x")).outcome.toOption.map
        (·.result.bindings.map (·.permission.value)) = some scopes := by
  decide +kernel

end CredentialReach.Figma
