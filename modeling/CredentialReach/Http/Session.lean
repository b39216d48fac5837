import CredentialReach.Analysis.Fault

/-! Requests made one after another. The first failure ends a session. -/

namespace CredentialReach

/-- What a session came to, with what was sent and how long it took. -/
structure Session (α : Type) where
  outcome : Except AnalysisFault α
  sent : List Request := []
  elapsed : Nat := 0

namespace Session

def bind (session : Session α) (next : α → Session β) : Session β :=
  match session.outcome with
  | .error fault => ⟨.error fault, session.sent, session.elapsed⟩
  | .ok value =>
    let rest := next value
    ⟨rest.outcome, session.sent ++ rest.sent, session.elapsed + rest.elapsed⟩

instance : Monad Session where
  pure value := ⟨.ok value, [], 0⟩
  bind := bind

def lift (outcome : Except AnalysisFault α) : Session α := ⟨outcome, [], 0⟩

def send (transport : Transport) (request : Request) : Session Response :=
  let reply := transport request
  ⟨reply.outcome.mapError .transport, [request], reply.delay⟩

theorem bind_of_ok {session : Session α} {value : α} (done : session.outcome = .ok value)
    (next : α → Session β) :
    session >>= next =
      ⟨(next value).outcome, session.sent ++ (next value).sent,
        session.elapsed + (next value).elapsed⟩ := by
  show session.bind next = _
  unfold bind
  rw [done]

theorem bind_of_error {session : Session α} {fault : AnalysisFault}
    (failed : session.outcome = .error fault) (next : α → Session β) :
    session >>= next = ⟨.error fault, session.sent, session.elapsed⟩ := by
  show session.bind next = _
  unfold bind
  rw [failed]

theorem send_bind_of_ok {transport : Transport} {request : Request} {response : Response}
    (answered : (transport request).outcome = .ok response) (next : Response → Session α) :
    send transport request >>= next =
      ⟨(next response).outcome, request :: (next response).sent,
        (transport request).delay + (next response).elapsed⟩ := by
  apply bind_of_ok
  rw [send, answered]
  rfl

theorem send_bind_of_error {transport : Transport} {request : Request} {fault : TransportFault}
    (failed : (transport request).outcome = .error fault) (next : Response → Session α) :
    send transport request >>= next =
      ⟨.error (.transport fault), [request], (transport request).delay⟩ := by
  apply bind_of_error
  rw [send, failed]
  rfl

theorem exists_of_bind_ok {session : Session α} {next : α → Session β} {value : β}
    (done : (session >>= next).outcome = .ok value) :
    ∃ first, session.outcome = .ok first ∧ (next first).outcome = .ok value := by
  cases outcome : session.outcome with
  | error fault =>
    rw [bind_of_error outcome] at done
    cases done
  | ok first =>
    rw [bind_of_ok outcome] at done
    exact ⟨first, rfl, done⟩

@[simp] theorem lift_ok_bind (value : α) (next : α → Session β) :
    lift (.ok value) >>= next = next value := by
  rw [bind_of_ok rfl]
  simp [lift]

end Session

end CredentialReach
