-- A stop. It ends every connection that said who it is, and nobody is accepted any more; but a
-- connection that is still to say who it is does not hear of it until it has said so.
import DeviceLink.Proofs.Server.Lifecycle
import DeviceLink.Proofs.Server.Listening

namespace DeviceLink.Server

open Registry (Operation)

variable {acts : Request → Registry → List Operation} {start s s' t t' : Server} {e : Event}
  {story before after : List Moment} {m : Moment} {c : ClientId} {conn : Connection} {h : Handle}

/-! ## Stories one after another -/

theorem framesFrom_append (before after : List Moment) (c : ClientId) :
    framesFrom (before ++ after) c = framesFrom before c ++ framesFrom after c := by
  simp [framesFrom]

/-! ## What stays as it is -/

theorem stopped_of_story (stopped : t.lifecycle = .stopped) (later : Story t after s) :
    s.lifecycle = .stopped := by
  induction later with
  | nil => exact stopped
  | @snoc _ t₁ _ _ _ _ step ih =>
    rcases (transition_of_step? step).lifecycle_cases with same | ⟨_, other, _⟩ | ⟨_, other, _⟩ |
      ⟨_, other, _⟩
    · exact same.trans ih
    · cases ih.symm.trans other
    · cases ih.symm.trans other
    · cases ih.symm.trans other

/-- A server that is stopped accepts nobody. -/
theorem length_connections_of_stopped (stopped : t.lifecycle = .stopped) (later : Story t after s) :
    s.connections.length = t.connections.length := by
  induction later with
  | nil => rfl
  | @snoc _ t₁ _ e told _ step ih =>
    have transition := transition_of_step? step
    have refuses : e.isAccept = false := by
      have still := stopped_of_story stopped told
      cases transition with
      | accept peer listens =>
        rcases listens with runs | stops
        · cases still.symm.trans runs
        · cases still.symm.trans stops
      | _ => rfl
    rw [transition.length_connections, refuses]
    exact ih

theorem ended_of_story (found : t.connections[c]? = some conn) (stage : conn.stage = .ended)
    (later : Story t after s) : ∃ conn', s.connections[c]? = some conn' ∧ conn'.stage = .ended := by
  induction later with
  | nil => exact ⟨conn, found, stage⟩
  | snoc _ _ step ih =>
    obtain ⟨conn₁, found₁, stage₁⟩ := ih
    obtain ⟨conn₂, found₂, hears⟩ := (transition_of_step? step).hears found₁
    exact ⟨conn₂, found₂, (hears.of_ended stage₁).1⟩

/-! ## Frames after a stop -/

/-- A connection waits for a frame. -/
def Connection.isWaiting (conn : Connection) : Bool :=
  match conn.stage with
  | .identified _ .waiting => true
  | _ => false

def isWaiting (s : Server) (c : ClientId) : Bool := (s.connections[c]?).any (·.isWaiting)

theorem isWaiting_of_found (found : s.connections[c]? = some conn) :
    s.isWaiting c = conn.isWaiting := by
  rw [isWaiting, found, Option.any_some]

theorem not_isWaiting {place : Place} (stage : conn.stage = .identified h place)
    (other : place ≠ .waiting) : conn.isWaiting = false := by
  unfold Connection.isWaiting
  rw [stage]
  cases place with
  | waiting => exact absurd rfl other
  | _ => rfl

/-- While the server stops, a connection takes a frame only if it waited, and never waits again. -/
theorem Transition.less_waiting (transition : Transition m.server m.event s')
    (stops : m.server.lifecycle ≠ .running) :
    (m.intake? c).toList.length + (s'.isWaiting c).toNat ≤ (m.server.isWaiting c).toNat := by
  cases found : m.server.connections[c]? with
  | none =>
    obtain ⟨comes, _, intake⟩ := transition.comes found
    have silent : s'.isWaiting c = false := by
      cases found' : s'.connections[c]? with
      | none => rw [isWaiting, found', Option.any_none]
      | some conn' =>
        rw [isWaiting_of_found found', Connection.isWaiting, (comes conn' found').1]
    change m.intake? c = none at intake
    rw [intake, silent]
    exact Nat.zero_le _
  | some conn =>
    obtain ⟨conn', found', hears⟩ := transition.hears found
    rw [isWaiting_of_found found, isWaiting_of_found found']
    change Hears m s' c conn conn' at hears
    have idle : m.intake? c = none → conn'.isWaiting = false →
        (m.intake? c).toList.length + conn'.isWaiting.toNat ≤ conn.isWaiting.toNat := by
      intro intake silent
      rw [intake, silent]
      exact Nat.zero_le _
    cases hears with
    | still same _ _ intake =>
      have alike : conn'.isWaiting = conn.isWaiting := by simp only [Connection.isWaiting, same]
      rw [intake, alike]
      exact Nat.le_of_eq (Nat.zero_add _)
    | identify _ _ _ _ after _ intake => exact idle intake (by rw [after]; rfl)
    | refuse _ _ _ stage' _ intake => exact idle intake (by rw [Connection.isWaiting, stage'])
    | leave _ _ _ after _ intake => exact idle intake (by rw [after]; rfl)
    | giveUp _ _ stage' _ intake => exact idle intake (by rw [Connection.isWaiting, stage'])
    | take stage _ after _ intake =>
      rw [intake, after, show conn.isWaiting = true by rw [Connection.isWaiting, stage]]
      exact Nat.le_refl _
    | part _ _ after _ intake => exact idle intake (by rw [after]; rfl)
    | pass stage _ stay after _ intake =>
      refine idle intake ?_
      rw [after]
      exact not_isWaiting rfl fun same => stops (stay same)
    | finish _ stage' _ _ _ intake => exact idle intake (by rw [Connection.isWaiting, stage'])

/-- After a stop a connection takes at most the frame that it waited for. -/
theorem frames_after_stop (stops : t.lifecycle ≠ .running) (later : Story t after s) :
    s.lifecycle ≠ .running ∧
      (framesFrom after c).length + (s.isWaiting c).toNat ≤ (t.isWaiting c).toNat := by
  induction later with
  | nil => exact ⟨stops, Nat.le_of_eq (Nat.zero_add _)⟩
  | @snoc _ t₁ t₂ e told hooks step ih =>
    obtain ⟨stopping, before⟩ := ih
    have transition := transition_of_step? step
    have now := transition.less_waiting (m := ⟨{ t₁ with hooks }, e⟩) (c := c) stopping
    change _ ≤ (t₁.isWaiting c).toNat at now
    refine ⟨transition.stays_stopping stopping, ?_⟩
    rw [framesFrom_concat, List.length_append]
    have same : ((Moment.intake? ⟨{ t₁ with hooks }, e⟩ c).map (·.2)).toList.length =
        (Moment.intake? ⟨{ t₁ with hooks }, e⟩ c).toList.length := by
      cases Moment.intake? ⟨{ t₁ with hooks }, e⟩ c <;> rfl
    omega

/-! ## What is left -/

/-- What is left of a connection when a server that is stopped is at rest: nothing, and if it had
said who it is, it came and went as every other and has no entry; or its client is still there and
has not said who it is. -/
inductive Remains (cap : Nat) (story : List Moment) (r : Registry) (c : ClientId)
    (conn : Connection) : Prop
  | silent (stage : conn.stage = .handshake) (lived : life story c = [])
      (incomplete : Frame.decode? cap (bytesFrom story c) = none) (there : conn.hungUp = false)
  | refused (stage : conn.stage = .ended) (lived : life story c = [])
  | gone {h : Handle} (stage : conn.stage = .ended)
      (lived : life story c =
        [.identified h, .registered h, .connected h, .removed h, .disconnected h])
      (entries : r.entriesOf h.conn = [])

theorem Tracked.remains (tracked : Tracked acts start story s) (stopped : s.lifecycle = .stopped)
    (rest : AtRest s) (found : s.connections[c]? = some conn) :
    Remains start.cap story s.registry c conn := by
  have waits := atRest_iff.1 rest c conn found
  cases tracked.stands c conn found with
  | unknown stage lived inbox =>
    simp only [Waits, stage, inbox, tracked.cap] at waits
    exact .silent stage lived waits.1 waits.2
  | known stage =>
    simp only [Waits, stage] at waits
    cases stopped.symm.trans waits.2.1
  | refused stage lived => exact .refused stage lived
  | closed stage lived gone => exact .gone stage lived gone

theorem entries_of_finishStop (step : t.step? .finishStop = some t') :
    t'.registry.entries = [] := by
  cases transition_of_step? step with
  | finishStop => exact (Registry.performs_perform t.registry .closeAll).entries

theorem found_of_finishStop (step : t.step? .finishStop = some t')
    (found : t.connections[c]? = some conn) : t'.connections[c]? = some conn := by
  cases transition_of_step? step with
  | finishStop => exact found

/-- Of the entries of a stopped server at rest, none is from before, and none is a connection's. -/
theorem Tracked.entries_of_others (tracked : Tracked acts start (before ++ after) s)
    (apart : KeepApart acts start (before ++ after)) (does : Does acts t.handler)
    (empty : t.registry.entries = []) (later : Story t after s) (stopped : s.lifecycle = .stopped)
    (rest : AtRest s) (entry : h ∈ s.registry.entries) : h ∈ after.flatMap (·.outsiders acts) := by
  rcases origin_of_story does later h (.inl entry) with outsider | ⟨c, registered⟩
  · rw [outsiders, empty] at outsider
    exact outsider
  · have known : .identified h ∈ life (before ++ after) c :=
      tracked.lived.identified_of_registered (by simp [life_append, registered])
    obtain ⟨conn, found, stage⟩ := tracked.waiting_of_entry apart rest entry known rfl
    have waits := atRest_iff.1 rest c conn found
    simp only [Waits, stage] at waits
    cases stopped.symm.trans waits.2.1

/-! ## The law -/

/-- A stop ends every connection that says who it is, and no other one that is still open. Take any
story of a server that starts with no connection and that finishes a stop, and whatever happens
then. Nobody is accepted any more, and a connection that is over stays so. Each connection takes at
most the one frame that it waited for, and one that had not said who it is takes none. When the
server is at rest, a connection is over, and if it said who it is, it came and went as every other;
or its client is still there and has not said who it is. The entries are those that others
registered after the stop. And the server comes to rest. -/
theorem a_stop_ends_whoever_said_who_it_is (does : Does acts start.handler)
    (alone : start.connections = []) (idle : start.active = 0) (silent : start.notes = [])
    (told : Story start before t) (step : t.step? .finishStop = some t') (later : Story t' after s)
    (apart : KeepApart acts start (before ++ ⟨t, .finishStop⟩ :: after)) :
    s.connections.length = t.connections.length ∧
    (∀ (c : ClientId) conn, t.connections[c]? = some conn → conn.stage = .ended →
      ∃ conn', s.connections[c]? = some conn' ∧ conn'.stage = .ended) ∧
    (∀ c, (framesFrom after c).length ≤ 1) ∧
    (∀ (c : ClientId) conn, t.connections[c]? = some conn → conn.stage = .handshake →
      framesFrom (before ++ ⟨t, .finishStop⟩ :: after) c = []) ∧
    (AtRest s →
      (∀ (c : ClientId) conn, s.connections[c]? = some conn →
        Remains start.cap (before ++ ⟨t, .finishStop⟩ :: after) s.registry c conn) ∧
      ∀ e ∈ s.registry.entries, e ∈ after.flatMap (·.outsiders acts)) ∧
    (∃ more, Story t' (after ++ more) s.settle) ∧ AtRest s.settle := by
  have ended : Story start (before ++ [⟨t, .finishStop⟩]) t' := told.snoc t.hooks step
  have split : before ++ ⟨t, .finishStop⟩ :: after = (before ++ [⟨t, .finishStop⟩]) ++ after := by
    rw [List.append_assoc, List.singleton_append]
  rw [split] at apart ⊢
  have whole := ended.append later
  have tracked := tracked_of_story does alone idle silent whole apart
  have transition := transition_of_step? step
  have stopped : t'.lifecycle = .stopped := by
    cases transition with
    | finishStop => rfl
  have stops : t'.lifecycle ≠ .running := by
    rw [stopped]
    simp
  have stays := stopped_of_story stopped later
  have frames : ∀ c, (framesFrom after c).length + (s.isWaiting c).toNat ≤
      (t'.isWaiting c).toNat := fun c => (frames_after_stop stops later).2
  obtain ⟨⟨es, run⟩, rests⟩ := settle_spec s
  refine ⟨?_, ?_, fun c => ?_, ?_, fun rest => ⟨?_, ?_⟩, ⟨_, later.append_tell run⟩, rests⟩
  · rw [length_connections_of_stopped stopped later, transition.length_connections]
    rfl
  · intro c conn found stage
    exact ended_of_story (found_of_finishStop step found) stage later
  · have one := (t'.isWaiting c).toNat_le
    exact Nat.le_trans (Nat.le_of_add_right_le (frames c)) one
  · intro c conn found stage
    have earlier := ((listening_of_story does alone told).heard c conn found).handshake stage
    have now : framesFrom [⟨t, .finishStop⟩] c = [] := rfl
    have idle : t'.isWaiting c = false := by
      rw [isWaiting_of_found (found_of_finishStop step found), Connection.isWaiting, stage]
    have none_later := frames c
    rw [idle] at none_later
    rw [framesFrom_append, framesFrom_append, earlier.2, now]
    exact List.length_eq_zero_iff.1 (Nat.le_zero.1 (Nat.le_of_add_right_le none_later))
  · exact fun c conn => tracked.remains stays rest
  · have does' : Does acts t'.handler := (setup_of_story ended).2 ▸ does
    have empty := entries_of_finishStop step
    exact fun e => tracked.entries_of_others apart does' empty later stays rest

/-- A server stops with two connections. One has said who it is; the other one says so only after
the stop. At rest both are over and nobody has an entry. -/
theorem both_connections_are_over_after_the_stop :
    let s : Server := { handler := fun _ r => (none, r) }
    let go (n : Nat) (c : ClientId) : List Event := List.replicate n (.proceed c)
    let es : List Event := .accept none :: .accept none :: .arrive 0 [1, 0, 1, 97] :: .read 0 ::
      (go 5 0).append [.signalStop, .unbind]
    let es' : List Event := .noticeStop 0 ::
      (go 5 0).append (.arrive 1 [1, 0, 1, 98] :: .read 1 :: go 10 1)
    ∃ t t' s', s.run? es = some t ∧ t.step? .finishStop = some t' ∧ t'.run? es' = some s' ∧
      s'.registry.entries = [] ∧
      ∀ (c : ClientId) conn, s'.connections[c]? = some conn →
        Remains s.cap (s.tell es ++ ⟨t, .finishStop⟩ :: t'.tell es') s'.registry c conn := by
  intro s go es es'
  have happens : (s.run? es).isSome = true := by decide +kernel
  have stops : ((s.run? es).bind (·.step? .finishStop)).isSome = true := by decide +kernel
  have goes : (((s.run? es).bind (·.step? .finishStop)).bind (·.run? es')).isSome = true := by
    decide +kernel
  have stays : ((((s.run? es).bind (·.step? .finishStop)).bind (·.run? es')).bind
      (·.advanceFirst?)).isNone = true := by decide +kernel
  obtain ⟨t, run⟩ := Option.isSome_iff_exists.1 happens
  rw [run, Option.bind_some] at stops goes stays
  obtain ⟨t', step⟩ := Option.isSome_iff_exists.1 stops
  rw [step, Option.bind_some] at goes stays
  obtain ⟨s', run'⟩ := Option.isSome_iff_exists.1 goes
  rw [run', Option.bind_some] at stays
  have rest : AtRest s' := atRest_of_advanceFirst? (Option.isNone_iff_eq_none.1 stays)
  have nobody : outsiders (fun _ _ => []) s (s.tell (es ++ .finishStop :: es')) = [] := by
    decide +kernel
  rw [tell_append_cons run step] at nobody
  have apart : KeepApart (fun _ _ => []) s (s.tell es ++ ⟨t, .finishStop⟩ :: t'.tell es') := by
    intro h outsider
    rw [nobody] at outsider
    cases outsider
  obtain ⟨_, _, _, _, law, _⟩ := a_stop_ends_whoever_said_who_it_is (fun _ _ => rfl) rfl rfl rfl
    (story_tell run) step (story_tell run') apart
  obtain ⟨remains, entries⟩ := law rest
  refine ⟨t, t', s', run, step, run', List.eq_nil_iff_forall_not_mem.2 fun e entry => ?_, remains⟩
  have outsider := entries e entry
  simp only [outsiders, List.flatMap_append, List.flatMap_cons, List.append_eq_nil_iff] at nobody
  rw [nobody.2.2.2] at outsider
  cases outsider

/-- A stop does not reach a connection that is still to say who it is. The server has stopped and is
at rest when the client says so; then the client is registered, announced and greeted, and the hook
for devices that come is called. -/
theorem a_stopped_server_greets_a_device :
    let s : Server := { handler := fun _ r => (none, r) }
    let h : Handle := { conn := 1, device := ⟨"a", by decide⟩ }
    let es : List Event := [.accept none, .signalStop, .unbind, .finishStop]
    let es' : List Event := [.arrive 0 [1, 0, 1, 97], .read 0, .proceed 0, .proceed 0, .proceed 0,
      .proceed 0, .write 0]
    ∃ t s', s.run? es = some t ∧ t.lifecycle = .stopped ∧ AtRest t ∧ t.isOpen 0 = true ∧
      t.run? es' = some s' ∧ s'.registry.entries = [h] ∧ s'.passages = [.online h] ∧
      s'.connections.map (·.sent) = [[Frame.ordinary (greeting h.device)]] := by
  intro s h es es'
  have stops : (s.run? es).map (fun t => (t.lifecycle, t.isOpen 0, t.advanceFirst?.isNone)) =
      some (.stopped, true, true) := by decide +kernel
  have goes : ((s.run? es).bind (·.run? es')).map (fun s' => (s'.registry.entries, s'.passages,
      s'.connections.map (·.sent))) =
      some ([h], [.online h], [[Frame.ordinary (greeting h.device)]]) := by decide +kernel
  obtain ⟨t, run, stopped⟩ := Option.map_eq_some_iff.1 stops
  obtain ⟨s', run', reached⟩ := Option.map_eq_some_iff.1 goes
  rw [run, Option.bind_some] at run'
  simp only [Prod.mk.injEq] at stopped reached
  obtain ⟨lifecycle, isOpen, waits⟩ := stopped
  obtain ⟨entries, passages, sent⟩ := reached
  exact ⟨t, s', run, lifecycle, atRest_of_advanceFirst? (Option.isNone_iff_eq_none.1 waits), isOpen,
    run', entries, passages, sent⟩

end DeviceLink.Server
