-- What all connections of a server have heard after a story, and what the sink was called with: the
-- frames of each connection under its own handle, however the calls ended.
import DeviceLink.Proofs.Server.Hearing

namespace DeviceLink.Server

open Registry (Operation)

variable {acts : Request → Registry → List Operation} {start s s' : Server} {e : Event}
  {story : List Moment} {m : Moment} {c : ClientId} {conn conn' : Connection} {h h' : Handle}
  {f : Frame}

/-! ## All connections -/

/-- What is true after a story of what the connections of a server have heard. -/
structure Listening (acts : Request → Registry → List Operation) (start : Server)
    (story : List Moment) (s : Server) : Prop where
  cap : s.cap = start.cap
  lived : Lived story s
  heard : ∀ c conn, s.connections[c]? = some conn → Heard acts start.cap story s c conn
  absent : ∀ (c : ClientId), s.connections[c]? = none →
    bytesFrom story c = [] ∧ framesFrom story c = []

theorem Listening.snoc (listening : Listening acts start story m.server)
    (transition : Transition m.server m.event s')
    (registry : s'.registry = m.server.registry.after (m.operations acts)) :
    Listening acts start (story ++ [m]) s' := by
  have absent : ∀ c : ClientId, m.server.connections[c]? = none →
      bytesFrom (story ++ [m]) c = [] ∧ framesFrom (story ++ [m]) c = [] := by
    intro c missing
    obtain ⟨bytes, frames⟩ := listening.absent c missing
    obtain ⟨_, nothing, intake⟩ := transition.comes missing
    change m.intake? c = none at intake
    change m.bytesFrom c = [] at nothing
    rw [bytesFrom_concat, framesFrom_concat, bytes, frames, nothing, intake]
    exact ⟨rfl, rfl⟩
  refine ⟨transition.sameSetup.cap.trans listening.cap,
    listening.lived.snoc transition.turn registry, ?_, ?_⟩
  · intro c conn' found'
    cases found : m.server.connections[c]? with
    | none =>
      obtain ⟨bytes, frames⟩ := absent c found
      obtain ⟨stage, inbox, _⟩ := (transition.comes found).1 conn' found'
      exact .unknown stage (inbox.trans bytes.symm) frames
    | some conn =>
      obtain ⟨conn'', same, hears⟩ := transition.hears found
      cases found'.symm.trans same
      exact (listening.heard c conn found).snoc listening.lived listening.cap found found'
        transition.turn registry transition.stays_stopping hears
  · intro c missing'
    cases found : m.server.connections[c]? with
    | none => exact absent c found
    | some conn =>
      obtain ⟨conn', found', _⟩ := transition.hears found
      simp [missing'] at found'

/-- Other hooks in force change nothing of what was heard. -/
theorem Listening.withHooks (listening : Listening acts start story s) (hooks : Hooks) :
    Listening acts start story { s with hooks } := by
  refine ⟨listening.cap, listening.lived.withHooks hooks, ?_, listening.absent⟩
  intro c conn found
  cases listening.heard c conn found with
  | unknown stage inbox frames => exact .unknown stage inbox frames
  | known stage named taken ending closing => exact .known stage named taken ending closing
  | refused stage nameless frames why => exact .refused stage nameless frames why
  | closed stage lived named taken ending => exact .closed stage lived named taken ending

theorem listening_of_story (does : Does acts start.handler) (alone : start.connections = [])
    (told : Story start story s) : Listening acts start story s := by
  induction told with
  | nil =>
    refine ⟨rfl, lived_nil alone, fun c conn found => ?_, fun _ _ => ⟨rfl, rfl⟩⟩
    simp [alone] at found
  | @snoc past t t' e told hooks step ih =>
    have transition := transition_of_step? step
    have registry := registry_of_story does told step
    exact Listening.snoc (m := ⟨{ t with hooks }, e⟩) (ih.withHooks hooks) transition registry

/-! ## The sink -/

/-- The frame that the sink was called with, and for which connection. -/
def Occasion.message? : Occasion → Option (Handle × Frame)
  | .message h f => some (h, f)
  | _ => none

/-- The noted calls of the sink. -/
def messages (s : Server) : List (Handle × Frame) := s.notes.filterMap (·.occasion.message?)

/-- The call of the sink at a moment. -/
def Moment.sinkCall? (m : Moment) : Option (Handle × Frame) :=
  match m.event, m.server.hooks.sink with
  | .read c, some _ => m.server.ready? c
  | _, _ => none

theorem messages_react (s : Server) (occasion : Occasion) (reaction : Reaction) :
    (s.react occasion reaction).messages = s.messages ++ occasion.message?.toList := by
  cases called : occasion.message? <;> simp [react, messages, called]

theorem messages_of_move? {place place' : Place} (moves : s.move? h place = some (place', s')) :
    s'.messages = s.messages := by
  cases place with
  | waiting => cases moves
  | parted => cases moves
  | judged replaced => cases replaced <;> cases moves <;> rfl
  | greeted =>
    cases moves
    exact (messages_react s _ _).trans (List.append_nil _)
  | departed =>
    cases moves
    exact (messages_react s _ _).trans (List.append_nil _)
  | _ =>
    cases moves
    rfl

theorem sinkCall?_read (installed : s.hooks.sink.isSome = true) :
    Moment.sinkCall? ⟨s, .read c⟩ = s.ready? c := by
  obtain ⟨sink, here⟩ := Option.isSome_iff_exists.1 installed
  simp [Moment.sinkCall?, here]

theorem sinkCall?_of_ready? (nothing : s.ready? c = none) :
    Moment.sinkCall? ⟨s, .read c⟩ = none := by
  cases installed : s.hooks.sink with
  | none => simp [Moment.sinkCall?, installed]
  | some sink => simp [Moment.sinkCall?, installed, nothing]

theorem sinkCall?_of_handshake (found : s.connections[c]? = some conn)
    (stage : conn.stage = .handshake) : Moment.sinkCall? ⟨s, .read c⟩ = none :=
  sinkCall?_of_ready? (ready?_of_other found (by simp [stage]))

/-- What is noted of the sink are its calls at the moments. -/
theorem Transition.messages_eq (t : Transition s e s') :
    s'.messages = s.messages ++ (Moment.sinkCall? ⟨s, e⟩).toList := by
  cases t with
  | move found stage moves =>
    have same := messages_of_move? moves
    exact same.trans (List.append_nil _).symm
  | identify found stage =>
    rw [sinkCall?_of_handshake found stage]
    exact (List.append_nil _).symm
  | refuse found stage =>
    rw [sinkCall?_of_handshake found stage]
    exact (List.append_nil _).symm
  | leave found stage =>
    rw [sinkCall?_of_handshake found stage]
    exact (List.append_nil _).symm
  | @receive c conn h f inbox found stage decoded =>
    have ready : s.ready? c = some (h, f) := by
      rw [ready?_of_waiting found stage, decoded]
      rfl
    change (s.deliver h f).messages = _
    cases installed : s.hooks.sink with
    | none =>
      rw [show s.deliver h f = s.operate (.send h.conn f.payload) by simp [deliver, installed],
        show Moment.sinkCall? ⟨s, .read c⟩ = none by simp [Moment.sinkCall?, installed]]
      exact (List.append_nil _).symm
    | some sink =>
      rw [show s.deliver h f = s.react (.message h f) (sink h f) by simp [deliver, installed],
        sinkCall?_read (by simp [installed]), ready, messages_react]
      rfl
  | @noticeEnd c conn h found stage incomplete =>
    have nothing : s.ready? c = none := by
      rw [ready?_of_waiting found stage, incomplete]
      rfl
    rw [sinkCall?_of_ready? nothing]
    exact (List.append_nil _).symm
  | _ => exact (List.append_nil _).symm

theorem intake?_of_sinkCall? (call : m.sinkCall? = some (h, f)) :
    ∃ c, m.event = .read c ∧ m.intake? c = some (h, f) := by
  obtain ⟨s, e⟩ := m
  unfold Moment.sinkCall? at call
  split at call
  · rename_i c sink event installed
    cases event
    exact ⟨c, rfl, by rw [intake?_read_self]; exact call⟩
  · cases call

theorem stage_of_intake? (intake : m.intake? c = some (h, f)) :
    ∃ conn, m.server.connections[c]? = some conn ∧ conn.stage = .identified h .waiting := by
  obtain ⟨s, e⟩ := m
  cases e with
  | read c' =>
    unfold Moment.intake? at intake
    dsimp only at intake
    split at intake
    · obtain ⟨conn, found, taken⟩ := Option.bind_eq_some_iff.1 intake
      split at taken
      · rename_i h' stage
        obtain ⟨x, _, same⟩ := Option.map_eq_some_iff.1 taken
        cases same
        exact ⟨conn, found, stage⟩
      · cases taken
    · cases intake
  | _ => cases intake

theorem event_of_intake? (intake : m.intake? c = some (h, f)) : m.event = .read c := by
  obtain ⟨s, e⟩ := m
  cases e with
  | read c' =>
    by_cases same : c' = c
    · rw [same]
    · simp [intake?_read_of_ne (Ne.symm same)] at intake
  | _ => cases intake

/-- With a sink installed, whatever is taken is a call of the sink. -/
theorem sinkCall?_eq_intake? (installed : m.server.hooks.sink.isSome = true)
    (event : m.event = .read c) : m.sinkCall? = m.intake? c := by
  obtain ⟨s, e⟩ := m
  cases event
  rw [sinkCall?_read installed, intake?_read_self]

theorem event_of_identified (new : .identified h ∈ m.deedsOf c) : m.event = .read c := by
  obtain ⟨s, e⟩ := m
  cases e with
  | read c' =>
    by_cases same : c' = c
    · rw [same]
    · simp [deedsOf_read_of_ne (Ne.symm same)] at new
  | proceed c' =>
    by_cases same : c' = c
    · subst same
      cases stands : s.standing? c' with
      | none => simp [Moment.deedsOf, stands] at new
      | some x =>
        obtain ⟨h', place⟩ := x
        cases place <;> simp [Moment.deedsOf, stands, Place.deed?] at new
    · simp [deedsOf_proceed_of_ne (Ne.symm same)] at new
  | _ => cases new

/-- What is true after a story of what the sink was called with. -/
structure Called (story : List Moment) (s : Server) : Prop where
  known : ∀ h f, (h, f) ∈ s.messages → ∃ c, .identified h ∈ life story c ∧ f ∈ framesFrom story c
  own : (∀ m ∈ story, m.server.hooks.sink.isSome = true) → ∀ c h, .identified h ∈ life story c →
    s.messages.filter (·.1.conn == h.conn) = (framesFrom story c).map fun f => (h, f)

theorem Called.known_snoc (called : Called story m.server) (lived : Lived story m.server)
    (transition : Transition m.server m.event s') (member : (h, f) ∈ s'.messages) :
    ∃ c, .identified h ∈ life (story ++ [m]) c ∧ f ∈ framesFrom (story ++ [m]) c := by
  rw [transition.messages_eq] at member
  rcases List.mem_append.1 member with old | new
  · obtain ⟨c, known, taken⟩ := called.known h f old
    refine ⟨c, ?_, ?_⟩
    · rw [life_concat]
      exact List.mem_append_left _ known
    · rw [framesFrom_concat]
      exact List.mem_append_left _ taken
  · obtain ⟨c, _, intake⟩ := intake?_of_sinkCall? (m := m) (by simpa using new)
    obtain ⟨conn, found, stage⟩ := stage_of_intake? intake
    refine ⟨c, ?_, ?_⟩
    · rw [life_concat]
      exact List.mem_append_left _ (lived.identified found stage)
    · rw [framesFrom_concat, intake]
      simp

/-- No call was noted for a number that nobody had. -/
theorem Called.filter_fresh (called : Called story s) (lived : Lived story s)
    (fresh : h.conn = s.registry.nextConn) : s.messages.filter (·.1.conn == h.conn) = [] := by
  rw [List.filter_eq_nil_iff]
  rintro ⟨h', f⟩ member same
  obtain ⟨c, known, _⟩ := called.known h' f member
  have less := lived.numbers.taken c h' known
  rw [beq_iff_eq.1 same, fresh] at less
  exact Nat.lt_irrefl _ less

/-- The calls of the sink for a connection that was known before are what is taken from it. -/
theorem Lived.sinkCall?_of_known (lived : Lived story m.server) (known : .identified h ∈ life story c)
    (installed : m.server.hooks.sink.isSome = true) :
    m.sinkCall?.toList.filter (·.1.conn == h.conn) =
      ((m.intake? c).map (·.2)).toList.map fun f => (h, f) := by
  cases intake : m.intake? c with
  | some x =>
    obtain ⟨h', f⟩ := x
    obtain ⟨conn, found, stage⟩ := stage_of_intake? intake
    obtain rfl := lived.handle_unique known (lived.identified found stage)
    rw [sinkCall?_eq_intake? installed (event_of_intake? intake), intake]
    simp
  | none =>
    cases call : m.sinkCall? with
    | none => rfl
    | some x =>
      obtain ⟨h', f⟩ := x
      obtain ⟨c', event, taken⟩ := intake?_of_sinkCall? call
      obtain ⟨conn, found, stage⟩ := stage_of_intake? taken
      have other : h'.conn ≠ h.conn := by
        intro number
        have one := lived.numbers.distinct c' c h' h (lived.identified found stage) known number
        rw [one, intake] at taken
        cases taken
      simp [other]

theorem Called.own_snoc (called : Called story m.server)
    (listening : Listening acts start story m.server)
    (transition : Transition m.server m.event s')
    (installed : ∀ m' ∈ story ++ [m], m'.server.hooks.sink.isSome = true)
    (known : .identified h ∈ life (story ++ [m]) c) :
    s'.messages.filter (·.1.conn == h.conn) =
      (framesFrom (story ++ [m]) c).map fun f => (h, f) := by
  have lived := listening.lived
  have turn : Turn acts m s' := transition.turn
  rw [transition.messages_eq, framesFrom_concat, List.filter_append, List.map_append]
  change m.server.messages.filter _ ++ m.sinkCall?.toList.filter _ = _
  rcases List.mem_append.1 (life_concat story m c ▸ known) with old | new
  · rw [lived.sinkCall?_of_known old (installed m (by simp)),
      called.own (fun m' member => installed m' (List.mem_append_left _ member)) c h old]
  · -- A device that is known only now: nothing was taken from it, and no call has its number.
    obtain ⟨⟨conn, found, stage⟩, _, fresh, _⟩ := turn.introduces new
    obtain ⟨_, frames⟩ := (listening.heard c conn found).handshake stage
    obtain ⟨s, e⟩ := m
    obtain rfl : e = .read c := event_of_identified new
    rw [called.filter_fresh lived fresh, frames, intake?_read_self,
      ready?_of_other found (by simp [stage]), sinkCall?_of_handshake found stage]
    rfl

theorem called_of_story (does : Does acts start.handler) (alone : start.connections = [])
    (silent : start.notes = []) (told : Story start story s) : Called story s := by
  induction told with
  | nil =>
    refine ⟨fun h f member => ?_, fun _ _ _ => nofun⟩
    simp [messages, silent] at member
  | @snoc past t t' e told hooks step ih =>
    have transition := transition_of_step? step
    have called : Called past { t with hooks } := ⟨ih.known, ih.own⟩
    have listening := (listening_of_story does alone told).withHooks hooks
    refine ⟨fun h f member => ?_, fun installed c h known => ?_⟩
    · exact Called.known_snoc (m := ⟨{ t with hooks }, e⟩) called listening.lived transition member
    · exact Called.own_snoc (m := ⟨{ t with hooks }, e⟩) called listening transition installed known

end DeviceLink.Server
