-- A server comes to rest. Whatever a connection does by itself leaves it less to do, so all of them
-- end up waiting for the clients.
import DeviceLink.Proofs.Frame.Decoding
import DeviceLink.Proofs.Registry.Lines
import DeviceLink.Proofs.Server.Transition
import DeviceLink.Server.Settle

namespace DeviceLink.Server

/-- No connection can do anything by itself. -/
def AtRest (s : Server) : Prop := ∀ c, s.advance? c = none

/-- A connection can only wait: for its first frame, or for the next one while nothing asks it to
leave, or for nothing as it is over. -/
def Waits (s : Server) (conn : Connection) : Prop :=
  match conn.stage with
  | .handshake => Frame.decode? s.cap conn.inbox = none ∧ conn.hungUp = false
  | .identified h place =>
    place = .waiting ∧ s.lifecycle = .running ∧ (s.registry.line h.conn).closing = false ∧
      Frame.decode? s.cap conn.inbox = none ∧ conn.hungUp = false
  | .ended => True

variable {s s' : Server} {c : ClientId} {conn conn' : Connection} {h : Handle} {place : Place}

/-! ## Waiting -/

theorem proceed?_eq_none_iff (stage : conn.stage = .identified h place) :
    s.proceed? c conn = none ↔ place = .waiting := by
  cases place <;> simp [proceed?, stage, move?]

theorem read?_eq_none_iff
    (stage : conn.stage = .handshake ∨ ∃ h, conn.stage = .identified h .waiting) :
    s.read? c conn = none ↔ Frame.decode? s.cap conn.inbox = none ∧ conn.hungUp = false := by
  have found : ∀ f inbox, Frame.decode? s.cap conn.inbox = some (f, inbox) →
      s.read? c conn ≠ none := by
    intro f inbox decoded
    rcases stage with stage | ⟨h, stage⟩
    · cases named : DeviceId.ofWire? f.payload <;> simp [read?, stage, identify?, decoded, named]
    · simp [read?, stage, receive?, decoded]
  cases decoded : Frame.decode? s.cap conn.inbox with
  | some x => simpa using found x.1 x.2 decoded
  | none =>
    rcases stage with stage | ⟨h, stage⟩
    · simp [read?, stage, identify?, decoded]
    · simp [read?, stage, receive?, decoded]

/-- A connection that can do nothing by itself waits, and one that waits can do nothing. -/
theorem advance?_eq_none_iff (found : s.connections[c]? = some conn) :
    s.advance? c = none ↔ Waits s conn := by
  have either : s.advance? c = none ↔ s.proceed? c conn = none ∧ s.noticeStop? c conn = none ∧
      s.noticeClose? c conn = none ∧ s.read? c conn = none := by
    simp [advance?, at?, found]
  rw [either]
  cases stage : conn.stage with
  | handshake =>
    simp only [Waits, stage, proceed?, noticeStop?, noticeClose?, true_and]
    exact read?_eq_none_iff (.inl stage)
  | ended => simp [Waits, stage, proceed?, noticeStop?, noticeClose?, read?]
  | identified h place =>
    rw [proceed?_eq_none_iff stage]
    simp only [Waits, stage]
    refine and_congr_right fun waiting => ?_
    subst waiting
    rw [read?_eq_none_iff (.inr ⟨h, stage⟩)]
    by_cases runs : s.lifecycle = .running <;> simp [noticeStop?, noticeClose?, stage, runs]

theorem atRest_iff :
    AtRest s ↔ ∀ (c : ClientId) conn, s.connections[c]? = some conn → Waits s conn := by
  constructor
  · intro rest c conn found
    exact (advance?_eq_none_iff found).1 (rest c)
  · intro waits c
    cases found : s.connections[c]? with
    | none => simp [advance?, at?, found]
    | some conn => exact (advance?_eq_none_iff found).2 (waits c conn found)

/-! ## Less and less to do -/

theorem length_of_decode? {limit : Nat} {bs rest : Bytes} {f : Frame}
    (decoded : Frame.decode? limit bs = some (f, rest)) : rest.length + 3 ≤ bs.length := by
  obtain ⟨_, payload, rfl, _, _⟩ := Frame.decode?_eq_some_iff.1 decoded
  simp [Bytes.be16]

theorem work_of_stage (stage : conn.stage = .identified h place) :
    conn.work = 1 + place.rank + conn.inbox.length := by
  simp [Connection.work, stage]

theorem rank_of_move? {place' : Place} (moves : s.move? h place = some (place', s')) :
    place'.rank < place.rank := by
  cases place with
  | waiting => cases moves
  | parted => cases moves
  | ready =>
    cases moves
    by_cases runs : s.lifecycle = .running <;> simp [runs, Place.rank]
  | _ =>
    cases moves
    simp [Place.rank]

theorem work_lt_of_rank {place' : Place} (stage : conn.stage = .identified h place)
    (stage' : conn'.stage = .identified h place') (inbox : conn'.inbox = conn.inbox)
    (less : place'.rank < place.rank) : conn'.work < conn.work := by
  rw [work_of_stage stage, work_of_stage stage', inbox]
  omega

theorem work_lt_of_ended (stage : conn.stage ≠ .ended) (stage' : conn'.stage = .ended) :
    conn'.work < conn.work := by
  unfold Connection.work
  rw [stage']
  cases here : conn.stage with
  | handshake =>
    dsimp only
    omega
  | identified h place =>
    dsimp only
    omega
  | ended => exact absurd here stage

/-- What a connection does by itself. -/
def Event.isOwn (c : ClientId) : Event → Prop
  | .proceed c' | .noticeStop c' | .noticeClose c' | .read c' => c' = c
  | _ => False

/-- A connection that did something has less to do. -/
theorem Transition.less_work {e : Event} (t : Transition s e s') (own : e.isOwn c) :
    ∃ conn conn', s.connections[c]? = some conn ∧ s'.connections = s.connections.set c conn' ∧
      conn'.work < conn.work := by
  cases t with
  | @move c' conn h place place' moved found stage moves =>
    obtain rfl : c' = c := own
    refine ⟨conn, _, found, by rw [setConnection, connections_of_move? moves], ?_⟩
    exact work_lt_of_rank stage rfl rfl (rank_of_move? moves)
  | @part c' conn h found stage =>
    obtain rfl : c' = c := own
    exact ⟨conn, _, found, rfl, work_lt_of_ended (by simp [stage]) rfl⟩
  | @identify c' conn f inbox device found stage decoded named =>
    obtain rfl : c' = c := own
    have shorter := length_of_decode? decoded
    refine ⟨conn, _, found, rfl, ?_⟩
    simp only [Connection.work, stage, Place.rank]
    omega
  | @refuse c' conn f inbox found stage =>
    obtain rfl : c' = c := own
    exact ⟨conn, _, found, rfl, work_lt_of_ended (by simp [stage]) rfl⟩
  | @leave c' conn found stage =>
    obtain rfl : c' = c := own
    exact ⟨conn, _, found, rfl, work_lt_of_ended (by simp [stage]) rfl⟩
  | @receive c' conn h f inbox found stage decoded =>
    obtain rfl : c' = c := own
    have shorter := length_of_decode? decoded
    refine ⟨conn, _, found, by rw [setConnection, connections_deliver], ?_⟩
    rw [work_of_stage stage, work_of_stage rfl]
    simp only [Place.rank]
    omega
  | @noticeEnd c' conn h found stage =>
    obtain rfl : c' = c := own
    refine ⟨conn, _, found, rfl, ?_⟩
    exact work_lt_of_rank stage rfl rfl (by decide)
  | @noticeClose c' conn h found stage =>
    obtain rfl : c' = c := own
    refine ⟨conn, _, found, rfl, ?_⟩
    exact work_lt_of_rank stage rfl rfl (by decide)
  | @noticeStop c' conn h found stage =>
    obtain rfl : c' = c := own
    refine ⟨conn, _, found, rfl, ?_⟩
    exact work_lt_of_rank stage rfl rfl (by decide)
  | _ => exact own.elim

theorem foldr_work_set {conns : List Connection} (found : conns[c]? = some conn)
    (conn' : Connection) :
    (conns.set c conn').foldr (fun conn n => conn.work + n) 0 + conn.work =
      conns.foldr (fun conn n => conn.work + n) 0 + conn'.work := by
  induction conns generalizing c with
  | nil => simp at found
  | cons first conns ih =>
    cases c with
    | zero =>
      obtain rfl : first = conn := by simpa using found
      simp only [List.set_cons_zero, List.foldr_cons]
      omega
    | succ c =>
      have rest := ih (by simpa using found : conns[c]? = some conn)
      simp only [List.set_cons_succ, List.foldr_cons]
      omega

/-- What a connection does by itself is a step of the server and leaves it less to do. -/
theorem step?_of_advance? (advances : s.advance? c = some s') :
    ∃ e, s.step? e = some s' ∧ s'.work < s.work := by
  obtain ⟨conn, found, does⟩ := at?_eq_some_iff.1 advances
  have own : ∃ e : Event, s.step? e = some s' ∧ e.isOwn c := by
    simp only [Option.orElse_eq_orElse, Option.orElse_eq_or, Option.or_eq_some_iff] at does
    rcases does with moves | ⟨_, stops | ⟨_, closes | ⟨_, reads⟩⟩⟩
    · exact ⟨.proceed c, at?_eq_some_iff.2 ⟨conn, found, moves⟩, rfl⟩
    · exact ⟨.noticeStop c, at?_eq_some_iff.2 ⟨conn, found, stops⟩, rfl⟩
    · exact ⟨.noticeClose c, at?_eq_some_iff.2 ⟨conn, found, closes⟩, rfl⟩
    · exact ⟨.read c, at?_eq_some_iff.2 ⟨conn, found, reads⟩, rfl⟩
  obtain ⟨e, step, own⟩ := own
  obtain ⟨conn₁, conn₂, found₁, connections, less⟩ := (transition_of_step? step).less_work own
  have total := foldr_work_set found₁ conn₂
  rw [← connections] at total
  refine ⟨e, step, ?_⟩
  unfold work
  omega

/-! ## Coming to rest -/

theorem exists_of_advanceFirst? (advances : s.advanceFirst? = some s') :
    ∃ c, s.advance? c = some s' := by
  obtain ⟨c, _, does⟩ := List.exists_of_findSome?_eq_some advances
  exact ⟨c, does⟩

theorem atRest_of_advanceFirst? (nobody : s.advanceFirst? = none) : AtRest s := by
  intro c
  by_cases there : c < s.connections.length
  · exact List.findSome?_eq_none_iff.1 nobody c (List.mem_range.2 there)
  · simp [advance?, at?, List.getElem?_eq_none (Nat.le_of_not_lt there)]

theorem atRest_advanceUpTo {fuel : Nat} (enough : s.work ≤ fuel) : AtRest (s.advanceUpTo fuel) := by
  induction fuel generalizing s with
  | zero =>
    intro c
    cases advances : s.advance? c with
    | none => exact advances
    | some s' =>
      obtain ⟨e, _, less⟩ := step?_of_advance? advances
      omega
  | succ fuel ih =>
    unfold advanceUpTo
    cases first : s.advanceFirst? with
    | none => exact atRest_of_advanceFirst? first
    | some s' =>
      obtain ⟨c, advances⟩ := exists_of_advanceFirst? first
      obtain ⟨e, _, less⟩ := step?_of_advance? advances
      exact ih (by omega)

theorem run?_append (s : Server) (es es' : List Event) :
    s.run? (es ++ es') = (s.run? es).bind (·.run? es') := by
  induction es generalizing s with
  | nil => rfl
  | cons e es ih =>
    simp only [List.cons_append, run?]
    cases s.step? e with
    | none => rfl
    | some s' => exact ih s'

theorem run?_advanceUpTo (s : Server) (fuel : Nat) :
    ∃ es, s.run? es = some (s.advanceUpTo fuel) := by
  induction fuel generalizing s with
  | zero => exact ⟨[], rfl⟩
  | succ fuel ih =>
    unfold advanceUpTo
    cases first : s.advanceFirst? with
    | none => exact ⟨[], rfl⟩
    | some s' =>
      obtain ⟨c, advances⟩ := exists_of_advanceFirst? first
      obtain ⟨e, step, _⟩ := step?_of_advance? advances
      obtain ⟨es, run⟩ := ih s'
      exact ⟨e :: es, by rw [run?, step]; exact run⟩

/-- Writing wakes nobody. -/
theorem atRest_of_write (rest : AtRest s) (step : s.step? (.write c) = some s') : AtRest s' := by
  rw [atRest_iff] at *
  intro c' conn' found'
  cases transition_of_step? step with
  | @write _ conn h found =>
    have closing : ∀ n, ((s.operate (.drain h.conn)).registry.line n).closing =
        (s.registry.line n).closing := by
      intro n
      change ((s.registry.drain h.conn).2.line n).closing = _
      rw [Registry.line_drain]
    obtain ⟨old, found, stage, inbox, hungUp⟩ : ∃ old, s.connections[c']? = some old ∧
        conn'.stage = old.stage ∧ conn'.inbox = old.inbox ∧ conn'.hungUp = old.hungUp := by
      rw [setConnection, List.getElem?_set] at found'
      split at found'
      · rename_i same
        subst same
        split at found'
        · cases found'
          exact ⟨conn, found, rfl, rfl, rfl⟩
        · cases found'
      · exact ⟨conn', found', rfl, rfl, rfl⟩
    have waits := rest c' old found
    unfold Waits at waits ⊢
    rw [stage, inbox, hungUp]
    simp only [setConnection, closing]
    exact waits

theorem writeAll_induct {p : Server → Prop}
    (write : ∀ s s' c, p s → s.step? (.write c) = some s' → p s') (holds : p s) : p s.writeAll := by
  unfold writeAll
  generalize List.range s.connections.length = cs
  induction cs generalizing s with
  | nil => exact holds
  | cons c cs ih =>
    rw [List.foldl_cons]
    apply ih
    cases writes : s.at? c (s.write? c) with
    | none => exact holds
    | some s' => exact write s s' c holds writes

/-- A server comes to rest by steps of its own. -/
theorem settle_spec (s : Server) : (∃ es, s.run? es = some s.settle) ∧ AtRest s.settle := by
  unfold settle
  refine writeAll_induct (p := fun s' => (∃ es, s.run? es = some s') ∧ AtRest s') ?_ ?_
  · rintro s₁ s₂ c ⟨⟨es, run⟩, rest⟩ step
    refine ⟨⟨es ++ [.write c], ?_⟩, atRest_of_write rest step⟩
    rw [run?_append, run]
    simp [run?, step]
  · exact ⟨run?_advanceUpTo s _, atRest_advanceUpTo (Nat.le_refl _)⟩

end DeviceLink.Server
