import Mathlib.Data.List.Nodup
import CredentialReach.Probe.Basic

/-! What a run of probes comes to. It goes on to the first response that reveals the scopes of
the token, or to the last probe, unless a request fails on the way or an identity cannot be
read. A revealed list settles every candidate, whatever was known of it before; without one,
each has the status that its own response gives it. -/

namespace CredentialReach.Probe

abbrev Trial := Probe × Nat

namespace Trial

variable (send : Nat → Transport) (trial : Trial)

def reply : Except TransportFault Response := (send trial.2 trial.1.request).outcome

/-- How its response is classified, if there is one. -/
def verdict? : Option Verdict := (trial.reply send).toOption.map trial.1.classify

def revealed? : Option (List String) :=
  match trial.verdict? send with
  | some (.revealed scopes) => some scopes
  | _ => none

/-- The status that its own response gives the candidate. -/
def status : Status :=
  match trial.verdict? send with
  | some (.settled status) => status
  | _ => .unverified

def identifies : Bool :=
  trial.verdict? send = some (.settled .granted) && trial.1.revealsIdentity

def identity? : Option Json :=
  if trial.identifies send then
    (trial.reply send).toOption.bind fun response => response.json.toOption
  else none

def fault? : Option AnalysisFault :=
  match trial.reply send with
  | .error fault => some (.transport fault)
  | .ok response =>
    if trial.identifies send then
      match response.json with
      | .ok _ => none
      | .error fault => some (.decode trial.1.request.path fault)
    else none

end Trial

variable (send : Nat → Transport) (trials : List Trial)

/-- The first position whose response reveals scopes. If there is none, it is the length. -/
def decisive : Nat := trials.findIdx fun trial => (trial.revealed? send).isSome

/-- The probes up to the decisive one, which is tried as well. -/
def tried : List Trial := trials.take (decisive send trials + 1)

def scopes? : Option (List String) := trials.findSome? (·.revealed? send)

def obstacle? : Option AnalysisFault := (tried send trials).findSome? (·.fault? send)

/-- The probes that are sent: those that are tried, up to the first that fails. -/
def sent : List Trial :=
  let all := tried send trials
  all.take (all.findIdx (fun trial => (trial.fault? send).isSome) + 1)

/-- What `report` has become after the trials. -/
def concluded (probes : List Probe) (report : Report) : Report where
  statuses := match scopes? send trials with
    | some scopes => settleAll probes scopes
    | none => report.statuses ++ trials.map fun trial => (trial.1.permission, trial.status send)
  identity := ((tried send trials).filterMap (·.identity? send)).getLast?.or report.identity
  revealed := (scopes? send trials).or report.revealed
  requestsIssued := report.requestsIssued + (tried send trials).length

variable {send trials} {trial : Trial} {probe : Probe} {probes rest : List Probe} {report : Report}
  {fault : AnalysisFault} {scopes : List String} {response : Response}

theorem classify_granted_iff :
    probe.classify response = .settled .granted ↔
      response.status = 200 ∨ probe.granted.accepts response = true := by
  unfold classify
  split
  next accepted => simpa using accepted
  next refused =>
    simp only [Bool.or_eq_true, beq_iff_eq] at refused
    refine ⟨fun granted => ?_, fun accepted => absurd accepted refused⟩
    repeat' split at granted
    all_goals cases granted

theorem Trial.verdict_of_reply (answered : trial.reply send = .ok response) :
    trial.verdict? send = some (trial.1.classify response) := by
  simp [verdict?, answered, Except.toOption]

private theorem Trial.reply_of_sound (sound : trial.fault? send = none) :
    ∃ response, trial.reply send = .ok response := by
  cases answered : trial.reply send with
  | ok response => exact ⟨response, rfl⟩
  | error fault => simp [fault?, answered] at sound

theorem Trial.revealed_iff :
    trial.revealed? send = some scopes ↔ trial.verdict? send = some (.revealed scopes) := by
  unfold revealed?
  split
  next list verdict => simp [verdict]
  next other =>
    constructor
    · intro none
      cases none
    · intro verdict
      exact absurd verdict (other scopes)

private theorem Trial.revealed_of_classified (answered : trial.reply send = .ok response)
    (classified : trial.1.classify response = .revealed scopes) :
    trial.revealed? send = some scopes :=
  revealed_iff.mpr ((verdict_of_reply answered).trans (congrArg some classified))

theorem Trial.sound_of_revealed (reveals : trial.revealed? send = some scopes) :
    trial.fault? send = none ∧ trial.identity? send = none := by
  have verdict := revealed_iff.mp reveals
  have silent : trial.identifies send = false := by simp [identifies, verdict]
  refine ⟨?_, by simp [identity?, silent]⟩
  cases answered : trial.reply send with
  | ok response => simp [fault?, answered, silent]
  | error fault => simp [verdict?, answered, Except.toOption] at verdict

private theorem tried_cons_of_revealed (reveals : trial.revealed? send = some scopes)
    (trials : List Trial) :
    tried send (trial :: trials) = [trial] ∧ scopes? send (trial :: trials) = some scopes := by
  simp [tried, decisive, scopes?, List.findIdx_cons, reveals]

private theorem tried_cons_of_unrevealed (unrevealed : trial.revealed? send = none)
    (trials : List Trial) :
    tried send (trial :: trials) = trial :: tried send trials ∧
      scopes? send (trial :: trials) = scopes? send trials := by
  simp [tried, decisive, scopes?, List.findIdx_cons, unrevealed]

private theorem cut_of_fault (fails : trial.fault? send = some fault) (trials : List Trial) :
    obstacle? send (trial :: trials) = some fault ∧ sent send (trial :: trials) = [trial] := by
  simp [obstacle?, sent, tried, fails, List.findIdx_cons]

private theorem cut_of_revealed (reveals : trial.revealed? send = some scopes) (trials : List Trial) :
    obstacle? send (trial :: trials) = none ∧ sent send (trial :: trials) = [trial] := by
  have sound := (Trial.sound_of_revealed reveals).1
  rw [obstacle?, sent, (tried_cons_of_revealed reveals trials).1]
  simp [sound]

private theorem cut_of_settled (sound : trial.fault? send = none)
    (unrevealed : trial.revealed? send = none) (trials : List Trial) :
    obstacle? send (trial :: trials) = obstacle? send trials ∧
      sent send (trial :: trials) = trial :: sent send trials := by
  rw [obstacle?, sent, (tried_cons_of_unrevealed unrevealed trials).1]
  simp [sound, List.findIdx_cons, obstacle?, sent]

/-- `report` with a response that settles its candidate alone. -/
def Trial.addTo (send : Nat → Transport) (trial : Trial) (report : Report) : Report :=
  { report with
    statuses := report.statuses ++ [(trial.1.permission, trial.status send)]
    identity := (trial.identity? send).or report.identity
    requestsIssued := report.requestsIssued + 1 }

private theorem concluded_cons_of_unrevealed (unrevealed : trial.revealed? send = none) :
    concluded send (trial :: trials) probes report =
      concluded send trials probes (trial.addTo send report) := by
  obtain ⟨longer, later⟩ := tried_cons_of_unrevealed unrevealed trials
  have latest : ((trial :: tried send trials).filterMap (·.identity? send)).getLast? =
      ((tried send trials).filterMap (·.identity? send)).getLast?.or (trial.identity? send) := by
    cases own : trial.identity? send with
    | none => simp [own]
    | some identity =>
      rw [List.filterMap_cons_some own, List.getLast?_cons]
      cases ((tried send trials).filterMap (·.identity? send)).getLast? <;> rfl
  simp only [concluded, Trial.addTo, longer, later, latest, Option.or_assoc, List.map_cons,
    List.length_cons, List.append_assoc, List.singleton_append]
  congr 1
  omega

/-- A response that settles its candidate alone, and what the run makes of it. -/
theorem Trial.of_settled {status : Status} (answered : trial.reply send = .ok response)
    (classified : trial.1.classify response = .settled status) :
    trial.revealed? send = none ∧ trial.status send = status ∧
      trial.1.identity? status response =
        match trial.fault? send with
        | some fault => .error fault
        | none => .ok (trial.identity? send) := by
  have verdict := (verdict_of_reply answered).trans (congrArg some classified)
  refine ⟨by simp [revealed?, verdict], by simp [Trial.status, verdict], ?_⟩
  have same : trial.identifies send = (decide (status = .granted) && trial.1.revealsIdentity) := by
    simp [identifies, verdict]
  simp only [Probe.identity?, fault?, identity?, answered, same]
  split
  · cases parsed : response.json <;> simp [Except.toOption, parsed]
  · simp

private theorem runFrom_of_fault (fails : Trial.fault? send (probe, report.requestsIssued) = some fault)
    (probes rest : List Probe) :
    (runFrom send probes report (probe :: rest)).outcome = .error fault ∧
      (runFrom send probes report (probe :: rest)).sent = [probe.request] := by
  rw [runFrom]
  cases answered : Trial.reply send (probe, report.requestsIssued) with
  | error cause =>
    rw [Session.send_bind_of_error answered]
    simpa [Trial.fault?, answered] using fails
  | ok response =>
    rw [Session.send_bind_of_ok answered]
    cases classified : probe.classify response with
    | revealed scopes =>
      have sound := (Trial.sound_of_revealed (Trial.revealed_of_classified answered classified)).1
      rw [sound] at fails
      cases fails
    | settled status =>
      have unread := (Trial.of_settled answered classified).2.2
      rw [fails] at unread
      simp only [unread]
      exact ⟨rfl, rfl⟩

private theorem runFrom_of_revealed
    (reveals : Trial.revealed? send (probe, report.requestsIssued) = some scopes)
    (probes rest : List Probe) :
    (runFrom send probes report (probe :: rest)).outcome =
        .ok { report with
          statuses := settleAll probes scopes, revealed := some scopes
          requestsIssued := report.requestsIssued + 1 } ∧
      (runFrom send probes report (probe :: rest)).sent = [probe.request] := by
  obtain ⟨response, answered⟩ := Trial.reply_of_sound (Trial.sound_of_revealed reveals).1
  have verdict := (Trial.verdict_of_reply answered).symm.trans (Trial.revealed_iff.mp reveals)
  have classified : probe.classify response = .revealed scopes := Option.some.inj verdict
  rw [runFrom, Session.send_bind_of_ok answered]
  simp only [classified]
  exact ⟨rfl, rfl⟩

private theorem runFrom_of_settled (sound : Trial.fault? send (probe, report.requestsIssued) = none)
    (unrevealed : Trial.revealed? send (probe, report.requestsIssued) = none)
    (probes rest : List Probe) :
    let later := runFrom send probes (Trial.addTo send (probe, report.requestsIssued) report) rest
    (runFrom send probes report (probe :: rest)).outcome = later.outcome ∧
      (runFrom send probes report (probe :: rest)).sent = probe.request :: later.sent := by
  obtain ⟨response, answered⟩ := Trial.reply_of_sound sound
  rw [runFrom, Session.send_bind_of_ok answered]
  cases classified : probe.classify response with
  | revealed scopes =>
    rw [Trial.revealed_of_classified answered classified] at unrevealed
    cases unrevealed
  | settled status =>
    obtain ⟨-, own, read⟩ := Trial.of_settled answered classified
    subst own
    rw [sound] at read
    simp only [read, Session.lift_ok_bind]
    exact ⟨rfl, rfl⟩

/-- What a run sends and comes to, by induction on the probes that are left. -/
theorem runFrom_eq (send : Nat → Transport) (probes rest : List Probe) (report : Report) :
    let trials := rest.zipIdx report.requestsIssued
    (runFrom send probes report rest).outcome =
        (match obstacle? send trials with
          | some fault => .error fault
          | none => .ok (concluded send trials probes report)) ∧
      (runFrom send probes report rest).sent = (sent send trials).map (·.1.request) := by
  induction rest generalizing report with
  | nil =>
    simp only [List.zipIdx_nil]
    exact ⟨by simp [runFrom, obstacle?, tried, concluded, scopes?]; rfl, rfl⟩
  | cons probe rest later =>
    simp only [List.zipIdx_cons]
    cases fails : Trial.fault? send (probe, report.requestsIssued) with
    | some fault =>
      obtain ⟨outcome, asked⟩ := runFrom_of_fault fails probes rest
      rw [(cut_of_fault fails _).1, (cut_of_fault fails _).2]
      exact ⟨outcome, asked⟩
    | none =>
      cases reveals : Trial.revealed? send (probe, report.requestsIssued) with
      | some scopes =>
        obtain ⟨outcome, asked⟩ := runFrom_of_revealed reveals probes rest
        obtain ⟨alone, first⟩ :=
          tried_cons_of_revealed reveals (rest.zipIdx (report.requestsIssued + 1))
        rw [(cut_of_revealed reveals _).1, (cut_of_revealed reveals _).2]
        refine ⟨outcome.trans ?_, asked⟩
        simp [concluded, alone, first, (Trial.sound_of_revealed reveals).2]
      | none =>
        obtain ⟨outcome, asked⟩ := runFrom_of_settled fails reveals probes rest
        obtain ⟨same, also⟩ := later (Trial.addTo send (probe, report.requestsIssued) report)
        rw [(cut_of_settled fails reveals _).1, (cut_of_settled fails reveals _).2,
          concluded_cons_of_unrevealed reveals]
        exact ⟨outcome.trans same, asked.trans (congrArg _ also)⟩

private theorem outcome_run (send : Nat → Transport) (probes : List Probe) :
    (run send probes).outcome =
      match obstacle? send probes.zipIdx with
      | some fault => .error fault
      | none => .ok (concluded send probes.zipIdx probes {}) :=
  (runFrom_eq send probes probes {}).1

private theorem sent_run (send : Nat → Transport) (probes : List Probe) :
    (run send probes).sent = (sent send probes.zipIdx).map (·.1.request) :=
  (runFrom_eq send probes probes {}).2

structure Reports (send : Nat → Transport) (probes : List Probe) (report : Report) : Prop where
  issued : report.requestsIssued = (tried send probes.zipIdx).length
  candidates : report.statuses.map (·.1) = probes.map (·.permission)
  revealed : report.revealed = scopes? send probes.zipIdx
  /-- A list that was revealed settles everything. -/
  settled : ∀ scopes, scopes? send probes.zipIdx = some scopes →
    report.statuses = (probes.map fun probe =>
        (probe.permission, if probe.permission ∈ scopes then .granted else .denied)) ∧
      report.withStatus .unverified = [] ∧ report.granted = NameSet.ofList scopes
  /-- Without one, every response speaks for its own candidate. -/
  unsettled : scopes? send probes.zipIdx = none →
    report.statuses = (probes.zipIdx.map fun trial : Trial =>
        (trial.1.permission, trial.status send)) ∧
      report.granted = NameSet.ofList (report.withStatus .granted)
  identity : report.identity = ((tried send probes.zipIdx).filterMap (·.identity? send)).getLast?

theorem mem_withStatus {status : Status} {name : String} :
    name ∈ report.withStatus status ↔ (name, status) ∈ report.statuses := by
  simp [Report.withStatus]

theorem mem_granted {name : String} :
    name ∈ report.granted ↔
      (name, Status.granted) ∈ report.statuses ∨ name ∈ report.revealed.getD [] := by
  simp [Report.granted, mem_withStatus, or_comm]

theorem mem_settleAll {status : Status} {name : String} :
    (name, status) ∈ settleAll probes scopes ↔
      name ∈ probes.map (·.permission) ∧ status = if name ∈ scopes then .granted else .denied := by
  simp only [settleAll, List.mem_map, Prod.mk.injEq]
  constructor
  · rintro ⟨probe, member, rfl, rfl⟩
    exact ⟨⟨probe, member, rfl⟩, rfl⟩
  · rintro ⟨⟨probe, member, rfl⟩, rfl⟩
    exact ⟨probe, member, rfl, rfl⟩

private theorem permissions_zipIdx (probes : List Probe) (position : Nat) :
    (probes.zipIdx position).map (·.1.permission) = probes.map (·.permission) := by
  have plain := congrArg (List.map (·.permission)) (List.zipIdx_map_fst position probes)
  rwa [List.map_map] at plain

private theorem reports_concluded (send : Nat → Transport) (probes : List Probe) :
    Reports send probes (concluded send probes.zipIdx probes {}) where
  issued := by simp [concluded]
  candidates := by
    cases list : scopes? send probes.zipIdx with
    | some scopes => simp [concluded, list, settleAll]
    | none => simpa [concluded, list, Function.comp_def] using permissions_zipIdx probes 0
  revealed := by simp [concluded]
  settled scopes list := by
    refine ⟨by simp [concluded, list, settleAll], ?_, ?_⟩
    · apply List.eq_nil_iff_forall_not_mem.mpr
      intro name member
      simp only [mem_withStatus, concluded, list, mem_settleAll] at member
      split at member <;> simp at member
    · apply NameSet.ext_mem
      intro name
      simp only [mem_granted, concluded, list, mem_settleAll, NameSet.mem_ofList, Option.some_or,
        Option.getD_some]
      constructor
      · rintro (⟨-, settled⟩ | member)
        · split at settled
          · assumption
          · cases settled
        · exact member
      · exact .inr
  unsettled unrevealed := by
    refine ⟨by simp [concluded, unrevealed], ?_⟩
    apply NameSet.ext_mem
    intro name
    simp [mem_granted, concluded, unrevealed, mem_withStatus]
  identity := by simp [concluded]

private theorem obstacle?_eq_none (sound : ∀ trial ∈ tried send trials, trial.fault? send = none) :
    obstacle? send trials = none ∧ sent send trials = tried send trials := by
  refine ⟨List.findSome?_eq_none_iff.mpr sound, ?_⟩
  have last : (tried send trials).findIdx (fun trial => (trial.fault? send).isSome) =
      (tried send trials).length := by
    apply List.findIdx_eq_length.mpr
    intro trial member
    simp [sound trial member]
  rw [sent, last]
  exact List.take_of_length_le (Nat.le_succ _)

/-- A run that comes to a report has met with no obstacle. -/
theorem exists_of_run (done : (run send probes).outcome = .ok report) :
    (∀ trial ∈ tried send probes.zipIdx, trial.fault? send = none) ∧ Reports send probes report := by
  rw [outcome_run] at done
  cases obstacle : obstacle? send probes.zipIdx with
  | some fault =>
    rw [obstacle] at done
    cases done
  | none =>
    rw [obstacle] at done
    obtain rfl := Except.ok.inj done
    exact ⟨List.findSome?_eq_none_iff.mp obstacle, reports_concluded send probes⟩

private theorem obstacle?_eq_some {before after : List Trial}
    (cut : tried send trials = before ++ trial :: after)
    (sound : ∀ earlier ∈ before, earlier.fault? send = none)
    (fails : trial.fault? send = some fault) :
    obstacle? send trials = some fault ∧ sent send trials = before ++ [trial] := by
  have first : (tried send trials).findIdx (fun trial => (trial.fault? send).isSome) =
      before.length := by
    rw [cut, List.findIdx_append, List.findIdx_eq_length.mpr, List.findIdx_cons]
    · simp [fails]
    · intro earlier member
      simp [sound earlier member]
  constructor
  · rw [obstacle?, cut, List.findSome?_append, List.findSome?_eq_none_iff.mpr sound, Option.none_or,
      List.findSome?_cons_of_isSome] <;> simp [fails]
  · rw [sent, first, cut, List.take_length_add_append, List.take_succ_cons, List.take_zero]

/-- A run tries the probes up to the first response that reveals the scopes, or all of them. If
nothing fails on the way, each of them is sent once and the report accounts for all candidates.
Otherwise the first failure is what the run comes to, and nothing is sent after it. -/
theorem run_reports (send : Nat → Transport) (probes : List Probe) :
    ((∀ trial ∈ tried send probes.zipIdx, trial.fault? send = none) →
      ∃ report, (run send probes).outcome = .ok report ∧
        (run send probes).sent = (tried send probes.zipIdx).map (·.1.request) ∧
        Reports send probes report) ∧
    (∀ before trial after fault, tried send probes.zipIdx = before ++ trial :: after →
      (∀ earlier ∈ before, earlier.fault? send = none) → trial.fault? send = some fault →
      (run send probes).outcome = .error fault ∧
        (run send probes).sent = (before ++ [trial]).map (·.1.request)) := by
  rw [outcome_run, sent_run]
  constructor
  · intro sound
    obtain ⟨obstacle, whole⟩ := obstacle?_eq_none sound
    rw [obstacle, whole]
    exact ⟨_, rfl, rfl, reports_concluded send probes⟩
  · intro before trial after fault cut sound fails
    obtain ⟨obstacle, stops⟩ := obstacle?_eq_some cut sound fails
    rw [obstacle, stops]
    exact ⟨rfl, rfl⟩

def askingWho : Probe := { permission := "read", request := .get "/me", revealsIdentity := true }

def samples : List Probe :=
  [askingWho, { permission := "write", request := .post "/items" (.object []) },
   { permission := "delete", request := .post "/items/0" (.object []) }]

/-- The first scope is granted, and then missing in the list that is revealed. -/
def revealing : Nat → Transport
  | 0 => fun _ => ⟨0, .ok ⟨200, "7"⟩⟩
  | _ => fun _ => ⟨0, .ok ⟨403, "Invalid scope(s): write, admin. This endpoint requires more"⟩⟩

def garbled : Nat → Transport := fun _ _ => ⟨0, .ok ⟨200, "?"⟩⟩

theorem run_reports_of_samples :
    (∃ report, (run revealing samples).outcome = .ok report ∧
        (run revealing samples).sent = [.get "/me", .post "/items" (.object [])] ∧
        report.statuses = [("read", .denied), ("write", .granted), ("delete", .denied)]) ∧
      (run garbled samples).outcome = .error (.decode "/me" ⟨.malformed, "expected a value"⟩) ∧
      (run garbled samples).sent = [.get "/me"] := by
  constructor
  · obtain ⟨report, outcome, asked, reports⟩ :=
      (run_reports revealing samples).1 (by decide +kernel)
    obtain ⟨statuses, -, -⟩ := reports.settled ["write", "admin"] (by decide +kernel)
    exact ⟨report, outcome, asked, statuses⟩
  · apply (run_reports garbled samples).2 [] (askingWho, 0) _ _ rfl
    · intro _ earlier
      cases earlier
    · decide +kernel

namespace Reports

variable (reports : Reports send probes report) {name : String}
include reports

/-- A candidate is granted if that is its status, whatever else was revealed. -/
theorem granted_candidate (candidate : name ∈ probes.map (·.permission)) :
    name ∈ report.granted ↔ name ∈ report.withStatus .granted := by
  cases list : scopes? send probes.zipIdx with
  | some scopes =>
    obtain ⟨statuses, -, granted⟩ := reports.settled scopes list
    have settled : report.statuses = settleAll probes scopes := statuses
    rw [granted, NameSet.mem_ofList, mem_withStatus, settled, mem_settleAll]
    refine ⟨fun member => ⟨candidate, (if_pos member).symm⟩, ?_⟩
    rintro ⟨-, own⟩
    split at own
    · assumption
    · cases own
  | none => rw [(reports.unsettled list).2, NameSet.mem_ofList]

theorem granted_other (other : name ∉ probes.map (·.permission)) :
    name ∈ report.granted ↔ name ∈ report.revealed.getD [] := by
  rw [mem_granted, or_iff_right]
  intro listed
  exact other (reports.candidates ▸ List.mem_map_of_mem listed)

end Reports

section Apart

variable (apart : (report.statuses.map (·.1)).Nodup)
include apart

private theorem status_unique {name : String} {status other : Status}
    (here : (name, status) ∈ report.statuses) (there : (name, other) ∈ report.statuses) :
    status = other :=
  (Prod.mk.inj (List.inj_on_of_nodup_map apart here there rfl)).2

theorem existsUnique_status {name : String} (candidate : name ∈ report.statuses.map (·.1)) :
    ∃! status, name ∈ report.withStatus status := by
  obtain ⟨⟨_, status⟩, listed, rfl⟩ := List.mem_map.mp candidate
  refine ⟨status, mem_withStatus.mpr listed, ?_⟩
  intro other member
  exact status_unique apart (mem_withStatus.mp member) listed

theorem filter_withStatus (status : Status) :
    (report.statuses.map (·.1)).filter (· ∈ report.withStatus status) = report.withStatus status := by
  rw [List.filter_map]
  apply congrArg
  apply List.filter_congr
  rintro ⟨name, own⟩ listed
  refine decide_eq_decide.mpr ⟨fun member => ?_, ?_⟩
  · exact status_unique apart listed (mem_withStatus.mp member)
  · rintro rfl
    exact mem_withStatus.mpr listed

end Apart

end CredentialReach.Probe
