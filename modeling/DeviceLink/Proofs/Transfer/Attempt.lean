-- Attempts at a transfer operation. All operations take the same course: the phase is asked first,
-- then the server, and only what the server consents to has an effect.
import DeviceLink.Proofs.Results
import DeviceLink.Transfer.Step

namespace DeviceLink

theorem ofLink_eq_ok_iff {α : Type} {result : Except LinkError α} {x : α} :
    ofLink result = .ok x ↔ result = .ok x := by
  cases result with
  | error cause => simp [ofLink]
  | ok y => simp [ofLink]

/-! ## What a server consents to -/

/-- A server answers a call with success and with a record. -/
def Caller.Answers {α : Type} [Json.Payload α] (c : Caller) (q : Request) (reply : Reply) (x : α) :
    Prop :=
  ∃ r, c.call q reply = .ok r ∧ r.status = Exchange.statusOk ∧ Json.Payload.parse r.body = .ok x

/-- A call whose answer has to report success. -/
def Caller.consent (c : Caller) (request : Request) (reply : Reply) :
    Except ClientError Response := do
  (← c.call request reply).ensureSuccess

theorem Response.ensureSuccess_eq_ok_iff {r s : Response} :
    r.ensureSuccess = .ok s ↔ r.status = Exchange.statusOk ∧ r = s := by
  unfold ensureSuccess isSuccess
  simp only [beq_iff_eq]
  split
  · rename_i success
    simp [success]
  · rename_i failure
    simp [failure]

theorem Response.parse_eq_ok_iff {α : Type} [Json.Payload α] {r : Response} {x : α} :
    r.parse = .ok x ↔ Json.Payload.parse r.body = .ok x := by
  unfold parse
  cases (Json.Payload.parse r.body : Except Json.Error α) with
  | ok y => simp
  | error cause => simp

namespace Caller

/-- A one-way call that has to report success if it is answered. -/
def notify (c : Caller) (request : Request) (reply : Reply) : Except ClientError Unit := do
  match ← c.callOneWay request reply with
  | none => pure ()
  | some response =>
    let _ ← response.ensureSuccess

variable {c : Caller} {request : Request} {reply : Reply}

/-- A call that succeeds has read its response from the stream. -/
theorem read_of_call {source : Source} {r : Response}
    (called : c.call request (.stream source) = .ok r) :
    (Response.read c.limit source).1 = .ok r := by
  unfold call exchange at called
  cases encoded : request.encode with
  | error cause =>
    simp only [encoded] at called
    cases called
  | ok bs =>
    simp only [encoded, read, ok_bind, ofLink_eq_ok_iff] at called
    exact called

theorem notify_eq_ok_iff : c.notify request reply = .ok () ↔
    c.callOneWay request reply = .ok none ∨
      ∃ r, c.callOneWay request reply = .ok (some r) ∧ r.status = Exchange.statusOk := by
  unfold notify
  rcases c.callOneWay request reply with e | _ | r
  · simp [error_bind]
  · simp [ok_bind, pure, Except.pure]
  · simp only [ok_bind, bind_eq_ok_iff, Response.ensureSuccess_eq_ok_iff]
    simp [pure, Except.pure]

theorem consent_eq_ok_iff {r : Response} : c.consent request reply = .ok r ↔
    c.call request reply = .ok r ∧ r.status = Exchange.statusOk := by
  unfold consent
  rw [bind_eq_ok_iff]
  constructor
  · rintro ⟨s, answered, success⟩
    obtain ⟨good, rfl⟩ := Response.ensureSuccess_eq_ok_iff.1 success
    exact ⟨answered, good⟩
  · rintro ⟨answered, good⟩
    exact ⟨r, answered, Response.ensureSuccess_eq_ok_iff.2 ⟨good, rfl⟩⟩

theorem ask_eq {α : Type} [Json.Payload α] :
    (c.ask request reply : Except ClientError α) =
      (do (← c.consent request reply).parse) := by
  unfold ask consent
  rw [bind_assoc]

theorem ask_eq_ok_iff {α : Type} [Json.Payload α] {x : α} :
    c.ask request reply = .ok x ↔ c.Answers request reply x := by
  rw [ask_eq, bind_eq_ok_iff]
  simp only [consent_eq_ok_iff, Response.parse_eq_ok_iff, and_assoc, Answers]

end Caller

namespace Transfer

/-! ## Running steps -/

namespace Step

variable {σ α β : Type}

theorem run_pure (x : α) (s : σ) : (pure x : Step σ α) s = (.ok x, s) := rfl

theorem run_throw (e : ClientError) (s : σ) : (throw e : Step σ α) s = (.error e, s) := rfl

theorem run_ofExcept (r : Except ClientError α) (s : σ) :
    (ofExcept r : Step σ α) s = (r, s) := rfl

theorem run_get (s : σ) : (get : Step σ σ) s = (.ok s, s) := rfl

theorem run_modify (f : σ → σ) (s : σ) : (modify f : Step σ Unit) s = (.ok (), f s) := rfl

theorem run_bind (m : Step σ α) (f : α → Step σ β) (s : σ) :
    (m >>= f) s = match m s with
      | (.ok x, t) => f x t
      | (.error e, t) => (.error e, t) := by
  show ExceptT.bind m f s = _
  unfold ExceptT.bind ExceptT.mk
  simp only [bind, StateT.bind]
  rcases m s with ⟨_ | x, t⟩
  · rfl
  · rfl

theorem run_bind_ok {m : Step σ α} {s t : σ} {x : α} (ran : m s = (.ok x, t))
    (f : α → Step σ β) : (m >>= f) s = f x t := by
  rw [run_bind, ran]

theorem run_bind_error {m : Step σ α} {s t : σ} {e : ClientError} (ran : m s = (.error e, t))
    (f : α → Step σ β) : (m >>= f) s = (.error e, t) := by
  rw [run_bind, ran]

theorem run_map (f : α → β) (m : Step σ α) (s : σ) : (f <$> m) s = (f <$> (m s).1, (m s).2) := by
  rw [← bind_pure_comp, run_bind]
  rcases m s with ⟨_ | x, t⟩
  · rfl
  · rfl

end Step

/-! ## The course of an operation -/

variable {σ α β : Type}

/-- An operation is checked first. Then the server gives its verdict, and the call is noted. Only
consent has an effect, in the phase that the check gave. -/
def attempt (checked : Except LinkError Phase) (verdict : Except ClientError α) (note : σ → σ)
    (effect : Phase → α → σ → σ) (s : σ) : Except ClientError α × σ :=
  match checked, verdict with
  | .error cause, _ => (.error (.link cause), s)
  | .ok _, .error e => (.error e, note s)
  | .ok phase, .ok x => (.ok x, effect phase x (note s))

theorem attempt_cases (checked : Except LinkError Phase) (verdict : Except ClientError α)
    (note : σ → σ) (effect : Phase → α → σ → σ) (s : σ) :
    (∃ cause, checked = .error cause ∧
      attempt checked verdict note effect s = (.error (.link cause), s)) ∨
    (∃ phase e, checked = .ok phase ∧ verdict = .error e ∧
      attempt checked verdict note effect s = (.error e, note s)) ∨
    (∃ phase x, checked = .ok phase ∧ verdict = .ok x ∧
      attempt checked verdict note effect s = (.ok x, effect phase x (note s))) := by
  rcases checked with cause | phase
  · exact .inl ⟨cause, rfl, rfl⟩
  · rcases verdict with e | x
    · exact .inr (.inl ⟨phase, e, rfl, rfl, rfl⟩)
    · exact .inr (.inr ⟨phase, x, rfl, rfl, rfl⟩)

theorem attempt_map (f : α → β) (checked : Except LinkError Phase)
    (verdict : Except ClientError α) (note : σ → σ) (effect : Phase → β → σ → σ) (s : σ) :
    (f <$> (attempt checked verdict note (fun phase x => effect phase (f x)) s).1,
        (attempt checked verdict note (fun phase x => effect phase (f x)) s).2) =
      attempt checked (f <$> verdict) note effect s := by
  rcases checked with cause | phase
  · rfl
  · rcases verdict with e | x
    · rfl
    · rfl

end Transfer

end DeviceLink
