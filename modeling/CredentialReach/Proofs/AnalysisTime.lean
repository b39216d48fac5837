import CredentialReach.Proofs.WalkDeadline
import CredentialReach.Vendor.Analyzer

/-! How long an analysis takes. Its requests are sent one after another until a walk begins, and
nothing cuts these short: the deadline is one for the walk alone. An analysis takes as long as its
opening requests do, and then at most the time of a walk, if it comes to one. -/

namespace CredentialReach

variable {transport : Transport} {opening : List Request} {count more rest : Nat}

/-- How long requests take if each is sent after the reply to the one before it. -/
def Transport.delays (transport : Transport) (requests : List Request) : Nat :=
  (requests.map fun request => (transport request).delay).sum

@[simp] theorem Transport.delays_append (transport : Transport) (first second : List Request) :
    transport.delays (first ++ second) = transport.delays first + transport.delays second := by
  simp [delays]

private theorem Transport.delays_le {limit : Nat}
    (limited : ∀ request ∈ opening, (transport request).delay ≤ limit) :
    transport.delays opening ≤ opening.length * limit := by
  have each : ∀ delay ∈ opening.map fun request => (transport request).delay, delay ≤ limit := by
    simpa using limited
  simpa [delays] using List.sum_le_card_nsmul _ limit each

namespace Session

/-- All of a session is waiting for replies, to one request at a time and a few in all. -/
structure Sequential (session : Session α) (transport : Transport) (count : Nat) : Prop where
  waits : session.elapsed = transport.delays session.sent
  few : session.sent.length ≤ count

/-- A session begins with some requests, one after another, and what follows them takes no longer
than `rest`. -/
structure Opens (session : Session α) (transport : Transport) (opening : List Request)
    (rest : Nat) : Prop where
  first : opening <+: session.sent
  least : transport.delays opening ≤ session.elapsed
  most : session.elapsed ≤ transport.delays opening + rest

theorem sequential_lift (outcome : Except AnalysisFault α) : (lift outcome).Sequential transport 0 :=
  ⟨rfl, Nat.le_refl _⟩

theorem sequential_pure (value : α) : (pure value : Session α).Sequential transport 0 :=
  sequential_lift (.ok value)

private theorem sequential_send (request : Request) : (send transport request).Sequential transport 1 :=
  ⟨by simp [send, Transport.delays], Nat.le_refl _⟩

theorem Sequential.bind {session : Session α} {next : α → Session β}
    (sequential : session.Sequential transport count)
    (later : ∀ value, (next value).Sequential transport more) :
    (session >>= next).Sequential transport (count + more) := by
  obtain ⟨waits, few⟩ := sequential
  cases outcome : session.outcome with
  | error fault =>
    rw [bind_of_error outcome]
    exact ⟨waits, Nat.le_add_right_of_le few⟩
  | ok value =>
    obtain ⟨after, fewer⟩ := later value
    rw [bind_of_ok outcome]
    constructor
    · simp only [waits, after, Transport.delays_append]
    · simp only [List.length_append]
      omega

theorem Sequential.opens {session : Session α} (sequential : session.Sequential transport count)
    (rest : Nat) : session.Opens transport session.sent rest where
  first := List.prefix_rfl
  least := sequential.waits.ge
  most := sequential.waits.le.trans (Nat.le_add_right ..)

/-- What comes first is part of the opening of the whole. -/
theorem Sequential.bind_opens {session : Session α} {next : α → Session β}
    (sequential : session.Sequential transport count)
    (later : ∀ value, ∃ opening, opening.length ≤ more ∧ (next value).Opens transport opening rest) :
    ∃ opening, session.sent <+: opening ∧ opening.length ≤ count + more ∧
      (session >>= next).Opens transport opening rest := by
  obtain ⟨waits, few⟩ := sequential
  cases outcome : session.outcome with
  | error fault =>
    rw [bind_of_error outcome]
    exact ⟨session.sent, List.prefix_rfl, Nat.le_add_right_of_le few, List.prefix_rfl, waits.ge,
      waits.le.trans (Nat.le_add_right ..)⟩
  | ok value =>
    obtain ⟨opening, fewer, begins, least, most⟩ := later value
    rw [bind_of_ok outcome]
    refine ⟨session.sent ++ opening, List.prefix_append .., ?_,
      (List.prefix_append_right_inj _).mpr begins, ?_, ?_⟩
    · rw [List.length_append]
      exact Nat.add_le_add few fewer
    · rw [Transport.delays_append, waits]
      exact Nat.add_le_add_left least _
    · rw [Transport.delays_append, waits, Nat.add_assoc]
      exact Nat.add_le_add_left most _

private theorem bind_pure_same (session : Session α) (f : α → β) :
    (session >>= fun value => pure (f value)).sent = session.sent ∧
      (session >>= fun value => pure (f value)).elapsed = session.elapsed := by
  cases outcome : session.outcome with
  | error fault => rw [bind_of_error outcome]; exact ⟨rfl, rfl⟩
  | ok value => rw [bind_of_ok outcome]; exact ⟨List.append_nil _, rfl⟩

end Session

private theorem Probe.sequential_runFrom (transport : Transport) (probes left : List Probe)
    (report : Report) :
    (runFrom (fun _ => transport) probes report left).Sequential transport left.length := by
  induction left generalizing report with
  | nil => exact Session.sequential_pure report
  | cons probe left later =>
    rw [List.length_cons, Nat.add_comm]
    apply (Session.sequential_send _).bind
    intro response
    cases probe.classify response with
    | revealed scopes => exact ⟨rfl, Nat.zero_le _⟩
    | settled status =>
      rw [← Nat.zero_add left.length]
      apply (Session.sequential_lift _).bind
      intro identity
      exact later _

private theorem Figma.sequential_analyze (settings : Settings) (transport : Transport)
    (credential : Credential) :
    (analyze settings (some transport) credential).Sequential transport probes.length := by
  have run : (Probe.run (fun _ => transport) probes).Sequential transport probes.length :=
    Probe.sequential_runFrom transport probes probes {}
  show Session.Sequential _ transport (0 + (probes.length + (0 + 0)))
  apply (Session.sequential_lift _).bind
  intro token
  simp only [Transport.connect_given, Session.lift_ok_bind]
  apply run.bind
  intro report
  apply (Session.sequential_lift _).bind
  intro result
  exact Session.sequential_pure _

namespace LaunchDarkly

private theorem sequential_fetch (transport : Transport) (path : String)
    (parse : String → Except JsonFault α) :
    (fetch transport path parse).Sequential transport 1 := by
  show Session.Sequential _ transport (1 + (0 + 0))
  apply (Session.sequential_send _).bind
  intro response
  apply (Session.sequential_lift _).bind
  intro accepted
  exact Session.sequential_lift _

private theorem begins_fetch (transport : Transport) (path : String)
    (parse : String → Except JsonFault α) :
    [.get path] <+: (fetch transport path parse).sent := by
  unfold fetch
  cases answered : (transport (.get path)).outcome with
  | error fault =>
    rw [Session.send_bind_of_error answered]
  | ok response =>
    rw [Session.send_bind_of_ok answered]
    simp

/-- The details of a token are asked for at most once. -/
theorem sequential_fetchToken (transport : Transport) (identity : CallerIdentity) :
    (fetchToken transport identity).Sequential transport 1 := by
  unfold fetchToken
  cases identity.tokenId with
  | some id =>
    show Session.Sequential _ transport (1 + 0)
    apply (sequential_fetch transport (tokenPath id) Token.parse).bind
    intro token
    exact Session.sequential_pure _
  | none => exact ⟨rfl, Nat.zero_le _⟩

/-- A walk begins when all else is over, and keeps to the time that it is given. -/
theorem opens_report (transport : Transport) (permissions : PermissionSet) (metadata : NameMap Json)
    (timeout backoff : Nat) :
    (report permissions metadata
        ((Walk.Plan.within transport permissions timeout backoff).walk collections)).Opens
      transport [] (min timeout Walk.longestWait) where
  first := List.nil_prefix
  least := Nat.zero_le _
  most := by
    rw [show transport.delays [] = 0 from rfl, Nat.zero_add]
    exact (Walk.Plan.endsWithin _ collections).ordered _

private theorem opens_analyze (settings : Settings) (transport : Transport) (credential : Credential) :
    ∃ opening, opening.length ≤ 2 ∧
      (opening = [] → (analyze settings (some transport) credential).sent = []) ∧
      (analyze settings (some transport) credential).Opens transport opening
        (min settings.timeout Walk.longestWait) := by
  unfold analyze
  cases credential.require Credential.tokenField with
  | error fault =>
    exact ⟨[], Nat.zero_le _, fun _ => rfl, (Session.sequential_lift (.error fault)).opens _⟩
  | ok token =>
    simp only [Transport.connect_given, Session.lift_ok_bind]
    obtain ⟨opening, begins, few, opens⟩ :=
      (sequential_fetch transport identityPath CallerIdentity.parse).bind_opens fun identity => by
        obtain ⟨later, -, fewer, opens⟩ :=
          (sequential_fetchToken transport identity).bind_opens fun token =>
            ⟨[], Nat.le_refl _, opens_report transport (rolePermissions (roleOf token))
              (metadataOf identity token) settings.timeout settings.rateLimitBackoff⟩
        exact ⟨later, fewer, opens⟩
    refine ⟨opening, few, ?_, opens⟩
    rintro rfl
    have first := (begins_fetch transport identityPath CallerIdentity.parse).trans begins
    simp at first

end LaunchDarkly

namespace Analyzer

def through (analyzer : Analyzer) (transport : Transport) : Analyzer :=
  match analyzer with
  | figma settings _ => figma settings (some transport)
  | launchDarkly settings _ => launchDarkly settings (some transport)
  | mysql source => mysql source

/-- At most so many requests are sent before a walk, or without one. -/
def openings : Analyzer → Nat
  | figma _ _ => Figma.probes.length
  | launchDarkly _ _ => 2
  | mysql _ => 0

def walkTime : Analyzer → Nat
  | launchDarkly settings _ => min settings.timeout Walk.longestWait
  | figma _ _ | mysql _ => 0

private theorem opens_undated (analyzer : Analyzer) (transport : Transport) (credential : Credential) :
    ∃ opening, opening.length ≤ analyzer.openings ∧
      (opening = [] → ((analyzer.through transport).analyzeUndated credential).sent = []) ∧
      ((analyzer.through transport).analyzeUndated credential).Opens transport opening
        analyzer.walkTime := by
  cases analyzer with
  | figma settings given =>
    have sequential := Figma.sequential_analyze settings transport credential
    exact ⟨_, sequential.few, id, sequential.opens 0⟩
  | launchDarkly settings given => exact LaunchDarkly.opens_analyze settings transport credential
  | mysql source =>
    exact ⟨[], Nat.zero_le _, fun _ => rfl, (Session.sequential_lift _).opens 0⟩

/-- An analysis takes as long as the requests that open it, however long that is, and then no
longer than its walk may take. -/
theorem analyze_takes (analyzer : Analyzer) (transport : Transport) (time : String)
    (credential : Credential) :
    let session := (analyzer.through transport).analyze time credential
    ∃ opening, session.Opens transport opening analyzer.walkTime ∧
      opening.length ≤ analyzer.openings ∧ (opening = [] → session.sent = []) ∧
      ∀ limit, (∀ request ∈ opening, (transport request).delay ≤ limit) →
        session.elapsed ≤ analyzer.openings * limit + analyzer.walkTime := by
  intro session
  obtain ⟨sent, elapsed⟩ : session.sent = _ ∧ session.elapsed = _ :=
    Session.bind_pure_same ((analyzer.through transport).analyzeUndated credential) _
  obtain ⟨opening, few, begins, opens⟩ := analyzer.opens_undated transport credential
  have least := opens.least
  have most := opens.most
  rw [← elapsed] at least most
  rw [← sent] at begins
  refine ⟨opening, ⟨sent ▸ opens.first, least, most⟩, few, begins, ?_⟩
  intro limit limited
  have total := Transport.delays_le limited
  have bound := Nat.mul_le_mul_right limit few
  omega

def refusing : Transport := fun _ =>
  ⟨5000, .ok ⟨403, "Invalid scope(s): webhooks:write. This endpoint requires the files:read scope"⟩⟩

/-- The caller's identity and a list of members are known after 600 milliseconds each, and nothing
else is there. -/
def hesitant : Transport := fun request =>
  if request.path = LaunchDarkly.identityPath then ⟨600, .ok ⟨200, "\x7b\x7d"⟩⟩
  else if request.path = LaunchDarkly.members.path then
    ⟨600, .ok ⟨200, "\x7b\"items\":[\x7b\"_id\":\"m1\"\x7d]\x7d"⟩⟩
  else ⟨0, .ok ⟨404, ""⟩⟩

def aSecond : Settings := { timeoutSeconds := 1 }

/-- Neither a probe nor the requests before a walk are cut short when the time of the analysis is
over, and a walk has all of that time to itself. -/
theorem analyze_outlives_timeout :
    let refused := (figma aSecond (some refusing)).analyze "" (.token "figd_x")
    let walked := (launchDarkly aSecond (some hesitant)).analyze "" (.token "api-1")
    aSecond.timeout = 1000 ∧
      refused.outcome.toOption.map (·.isComplete) = some true ∧ refused.elapsed = 5000 ∧
      walked.outcome.toOption.map (·.isComplete) = some true ∧ walked.elapsed = 1200 := by
  decide +kernel

end Analyzer

end CredentialReach
