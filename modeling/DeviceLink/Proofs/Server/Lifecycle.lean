-- The life of a connection. Whatever happens to a server, each connection that says who it is has
-- one entry from then on until it leaves or loses it, and the hooks hear of it once when it comes
-- and once when it goes.
import DeviceLink.Proofs.Server.Rest
import DeviceLink.Proofs.Server.Tracking

namespace DeviceLink.Server

open Registry (HeldUnless)

variable {acts : Request → Registry → List Registry.Operation} {start s s' : Server}
  {story : List Moment} {c : ClientId} {conn : Connection} {h : Handle}

/-! ## Those who were accepted -/

def Event.isAccept : Event → Bool
  | .accept _ => true
  | _ => false

theorem Transition.length_connections {e : Event} (t : Transition s e s') :
    s'.connections.length = s.connections.length + e.isAccept.toNat := by
  cases t with
  | accept peer => simp [Event.isAccept]
  | move _ _ moves => simp [setConnection, connections_of_move? moves, Event.isAccept]
  | receive => simp [setConnection, connections_deliver, Event.isAccept]
  | part => simp [Server.part, finish, setConnection, Server.operate, Event.isAccept]
  | abort => simp [Server.part, finish, setConnection, Server.operate, Event.isAccept]
  | _ => simp [finish, setConnection, Server.operate, answer, Event.isAccept]

theorem length_connections_of_story (alone : start.connections = []) (told : Story start story s) :
    s.connections.length = story.countP (·.event.isAccept) := by
  induction told with
  | nil => simp [alone]
  | snoc told hooks step ih =>
    rw [(transition_of_step? step).length_connections, ih, List.countP_append,
      List.countP_singleton]
    cases Event.isAccept _ <;> rfl

/-! ## Who is heard of -/

theorem flatMap_range_of_single {f : ClientId → List Occasion} {n : Nat} (within : c < n)
    (others : ∀ c', c' ≠ c → f c' = []) : (List.range n).flatMap f = f c := by
  induction n with
  | zero => exact absurd within (Nat.not_lt_zero c)
  | succ n ih =>
    rw [List.range_succ, List.flatMap_append, List.flatMap_singleton]
    rcases Nat.lt_succ_iff_lt_or_eq.1 within with earlier | rfl
    · rw [ih earlier, others n (Nat.ne_of_gt earlier), List.append_nil]
    · have nobody : (List.range c).flatMap f = [] := List.flatMap_eq_nil_iff.2 fun c' member =>
        others c' (Nat.ne_of_lt (List.mem_range.1 member))
      rw [nobody, List.nil_append]

/-- A hook is called in the life of the connection whose moment it is, and in no other. -/
theorem Moment.call?_cases (m : Moment) :
    (∃ c, m.call?.toList = (m.deedsOf c).filterMap (·.occasion?) ∧
        ∀ c', c' ≠ c → m.deedsOf c' = []) ∨
      (m.call? = none ∧ ∀ c, (m.deedsOf c).filterMap (·.occasion?) = []) := by
  obtain ⟨s, e⟩ := m
  cases e with
  | proceed c =>
    refine .inl ⟨c, ?_, fun c' other => deedsOf_proceed_of_ne other⟩
    cases stands : s.standing? c with
    | none => simp [Moment.call?, Moment.deedsOf, stands]
    | some x =>
      obtain ⟨h, place⟩ := x
      cases deed : place.deed? h with
      | none => simp [Moment.call?, Moment.deedsOf, stands, deed]
      | some d =>
        cases occasion : d.occasion? <;>
          simp [Moment.call?, Moment.deedsOf, stands, deed, occasion]
  | read c =>
    refine .inr ⟨rfl, fun c' => ?_⟩
    by_cases same : c = c'
    · cases new : s.newHandle? c' <;> simp [Moment.deedsOf, same, new, Deed.occasion?]
    · simp [Moment.deedsOf, same]
  | _ => exact .inr ⟨rfl, fun _ => rfl⟩

/-- The hooks are called for nothing but what connections do. -/
theorem calls_perm {n : Nat} (nobody : ∀ c, n ≤ c → life story c = []) :
    (calls story).Perm ((List.range n).flatMap (callsFor story)) := by
  induction story using List.reverseRecOn with
  | nil => simp [calls, callsFor, life]
  | append_singleton story m ih =>
    have earlier : ∀ c, n ≤ c → life story c = [] ∧ m.deedsOf c = [] := by
      intro c late
      simpa using nobody c late
    have now : (List.range n).flatMap (fun c => (m.deedsOf c).filterMap (·.occasion?)) =
        m.call?.toList := by
      rcases m.call?_cases with ⟨c, called, others⟩ | ⟨silent, idle⟩
      · by_cases within : c < n
        · rw [flatMap_range_of_single within fun c' other => by simp [others c' other], called]
        · have idle : ∀ c', m.deedsOf c' = [] := by
            intro c'
            by_cases same : c' = c
            · rw [same, (earlier c (Nat.le_of_not_lt within)).2]
            · exact others c' same
          simp [called, idle]
      · simp [silent, idle]
    have split : callsFor (story ++ [m]) =
        fun c => callsFor story c ++ (m.deedsOf c).filterMap (·.occasion?) := by
      funext c
      simp [callsFor]
    rw [calls_concat, ← now, split]
    exact ((ih fun c late => (earlier c late).1).append_right _).trans
      (List.flatMap_append_perm _ _ _)

/-! ## Leaving -/

/-- What a connection does to the entries as it goes. Its own one goes with it; what else may happen
to them then is the hook's doing. -/
structure TakesItsOwn (s : Server) : Prop where
  leaving : ∀ c h, s.standing? c = some (h, .leaving) → ∃ t, s.step? (.proceed c) = some t ∧
    t.registry.entries = s.registry.entries.filter (·.conn != h.conn)
  gone : ∀ c h place, s.standing? c = some (h, place) →
    (place = .removed ∨ (∃ replaced, place = .judged replaced) ∨ place = .parted) →
    ∃ t, s.step? (.proceed c) = some t ∧ t.registry.entries = s.registry.entries
  departed : ∀ c h, s.standing? c = some (h, .departed) → ∃ t, s.step? (.proceed c) = some t ∧
    t.registry = s.registry.after (s.hooks.disconnected h.device).operations
  unknown : ∀ (c : ClientId) conn, s.connections[c]? = some conn → conn.stage = .handshake →
    ∀ t, s.step? (.read c) = some t → t.registry.entries = s.registry.entries
  expired : ∀ c t, s.step? (.expire c) = some t → t.registry.entries = s.registry.entries

theorem step?_of_standing? {place : Place} (stands : s.standing? c = some (h, place))
    (on : place ≠ .waiting) : ∃ t, s.step? (.proceed c) = some t := by
  obtain ⟨conn, found, stage⟩ := standing?_eq_some_iff.1 stands
  cases moves : s.proceed? c conn with
  | none => exact absurd ((proceed?_eq_none_iff stage).1 moves) on
  | some t => exact ⟨t, at?_eq_some_iff.2 ⟨conn, found, moves⟩⟩

theorem takesItsOwn (does : Does acts s.handler)
    (held : ∀ c h, s.standing? c = some (h, .leaving) → ∃ lost, HeldUnless lost s.registry h) :
    TakesItsOwn s := by
  have registry : ∀ c h place, s.standing? c = some (h, place) → ∀ t,
      s.step? (.proceed c) = some t → t.registry = s.registry.after (s.doings h place) := by
    intro c h place stands t step
    have after := (transition_of_step? step).registry_eq does
    simpa [Moment.operations, stands] using after
  refine ⟨fun c h stands => ?_, fun c h place stands gone => ?_, fun c h stands => ?_,
    fun c conn found stage t step => ?_, fun c t step => ?_⟩
  · obtain ⟨t, step⟩ := step?_of_standing? stands (by simp)
    refine ⟨t, step, ?_⟩
    obtain ⟨lost, own⟩ := held c h stands
    rw [registry c h _ stands t step]
    exact own.leave
  · have on : place ≠ .waiting := by
      rcases gone with rfl | ⟨replaced, rfl⟩ | rfl <;> simp
    obtain ⟨t, step⟩ := step?_of_standing? stands on
    refine ⟨t, step, ?_⟩
    rw [registry c h _ stands t step]
    rcases gone with rfl | ⟨replaced, rfl⟩ | rfl
    · rfl
    · cases replaced with
      | true => rfl
      | false =>
        have told := Registry.sameButQueues_broadcast s.registry h.device.text
          (offlineMessage h.device)
        exact told.rest.entries
    · rfl
  · obtain ⟨t, step⟩ := step?_of_standing? stands (by simp)
    exact ⟨t, step, registry c h _ stands t step⟩
  · cases transition_of_step? step with
    | identify => rfl
    | refuse => rfl
    | leave => rfl
    | receive found' stage' =>
      rw [found] at found'
      cases found'
      simp [stage] at stage'
    | noticeEnd => rfl
  · cases transition_of_step? step with
    | giveUp => rfl
    | abort => rfl

/-! ## At rest -/

/-- What is true of a connection when the server is at rest. -/
structure Settled (acts : Request → Registry → List Registry.Operation) (cap : Nat)
    (story : List Moment) (r : Registry) (c : ClientId) (conn : Connection) : Prop where
  known : conn.isEnded = false → ∀ d, firstDevice? cap (bytesFrom story c) = some d →
    ∃ h, conn.stage = .identified h .waiting ∧ h.device = d ∧
      r.entriesOf h.conn = (if h ∈ removed acts story then [] else [h]) ∧
      life story c = [.identified h, .registered h, .connected h]
  unknown : conn.isEnded = false → firstDevice? cap (bytesFrom story c) = none →
    conn.stage = .handshake ∧ life story c = []
  closed : conn.isEnded = true → life story c = [] ∨
    ∃ h, r.entriesOf h.conn = [] ∧
      life story c = [.identified h, .registered h, .connected h, .removed h, .disconnected h]

theorem Tracked.settled (tracked : Tracked acts start story s) (rest : AtRest s)
    (found : s.connections[c]? = some conn) :
    Settled acts start.cap story s.registry c conn := by
  have waits := atRest_iff.1 rest c conn found
  cases tracked.stands c conn found with
  | unknown stage lived inbox =>
    simp only [Waits, stage] at waits
    have nothing : firstDevice? start.cap (bytesFrom story c) = none := by
      rw [← inbox, ← tracked.cap]
      simp [firstDevice?, waits.1]
    have open_ : conn.isEnded = false := by simp [Connection.isEnded, stage]
    exact ⟨fun _ d first => by simp [nothing] at first, fun _ _ => ⟨stage, lived⟩,
      fun ended => by simp [open_] at ended⟩
  | @known h place stage lived device held gone =>
    simp only [Waits, stage] at waits
    obtain ⟨rfl, _⟩ := waits
    have open_ : conn.isEnded = false := by simp [Connection.isEnded, stage]
    refine ⟨fun _ d first => ⟨h, stage, ?_, held rfl, lived⟩, fun _ first => ?_,
      fun ended => by simp [open_] at ended⟩
    · exact Option.some.inj (device.symm.trans first)
    · simp [device] at first
  | refused stage lived =>
    have ended : conn.isEnded = true := by simp [Connection.isEnded, stage]
    exact ⟨fun open_ => by simp [ended] at open_, fun open_ => by simp [ended] at open_,
      fun _ => .inl lived⟩
  | @closed h stage lived gone =>
    have ended : conn.isEnded = true := by simp [Connection.isEnded, stage]
    exact ⟨fun open_ => by simp [ended] at open_, fun open_ => by simp [ended] at open_,
      fun _ => .inr ⟨h, gone, lived⟩⟩

/-- An entry with the number of a connection is the entry of that connection, and the connection is
there. -/
theorem Tracked.waiting_of_entry (tracked : Tracked acts start story s)
    (apart : KeepApart acts start story) (rest : AtRest s) {e : Handle}
    (entry : e ∈ s.registry.entries) (known : .identified h ∈ life story c)
    (same : e.conn = h.conn) :
    ∃ conn, s.connections[c]? = some conn ∧ conn.stage = .identified e .waiting := by
  have registered := tracked.unique apart known (.inl entry) same
  cases found : s.connections[c]? with
  | none => simp [(tracked.absent c found).1] at registered
  | some conn =>
    refine ⟨conn, rfl, ?_⟩
    have waits := atRest_iff.1 rest c conn found
    cases tracked.stands c conn found with
    | unknown _ lived => simp [lived] at registered
    | known stage lived =>
      rw [lived] at registered
      simp only [Waits, stage] at waits
      rw [stage, (registered_mem_deeds.1 registered).1, waits.1]
    | refused _ lived => simp [lived] at registered
    | closed _ lived gone =>
      rw [lived] at registered
      have own := (registered_mem_deeds.1 registered).1
      exact absurd (own ▸ rfl) (Registry.entriesOf_eq_nil_iff.1 gone e entry)

/-! ## The law -/

/-- Every connection comes once and goes once. Take any story of a server that starts with no
connection: whatever clients, hooks, handlers and other users of the registry do, as long as they
register nobody under the number of one of the connections. The connections that are counted are
those that were accepted and are not over. One that goes takes its own entry with it and no other.
The hooks for devices that come or go are called as the connections do so, and for nothing else.
When the server is at rest, a connection that is not over either waits for its first frame, or the
frame named a device; then it has one entry as this device, unless somebody took that away, and the
hook for devices that come was called once. One that is over has no entry, and if it had said who it
is, both hooks were called, once each, in this order. Nobody else has an entry under its number. And
the server comes to rest after any story. -/
theorem every_connection_comes_and_goes_once (does : Does acts start.handler)
    (alone : start.connections = []) (idle : start.active = 0) (silent : start.notes = [])
    (told : Story start story s) (apart : KeepApart acts start story) :
    s.active = s.connections.countP (!·.isEnded) ∧
    s.connections.length = story.countP (·.event.isAccept) ∧
    (∀ hooks, TakesItsOwn { s with hooks }) ∧
    s.passages = calls story ∧
    s.passages.Perm ((List.range s.connections.length).flatMap (callsFor story)) ∧
    (AtRest s →
      (∀ (c : ClientId) conn, s.connections[c]? = some conn →
        Settled acts start.cap story s.registry c conn) ∧
      ∀ e ∈ s.registry.entries, ∀ c h, .identified h ∈ life story c → e.conn = h.conn →
        ∃ conn, s.connections[c]? = some conn ∧ conn.stage = .identified e .waiting) ∧
    (∃ later, Story start (story ++ later) s.settle) ∧ AtRest s.settle := by
  have tracked := tracked_of_story does alone idle silent told apart
  obtain ⟨⟨es, run⟩, rests⟩ := settle_spec s
  refine ⟨tracked.active, length_connections_of_story alone told, fun hooks => ?_,
    tracked.passages, ?_, fun rest => ⟨fun c conn => tracked.settled rest, ?_⟩,
    ⟨_, told.append_tell run⟩, rests⟩
  · have same : Does acts ({ s with hooks } : Server).handler := by
      change Does acts s.handler
      rw [tracked.handler]
      exact does
    refine takesItsOwn same fun c h stands => ?_
    obtain ⟨conn, found, stage⟩ := standing?_eq_some_iff.1 stands
    exact ⟨_, (tracked.known found stage).2.2.1 rfl⟩
  · rw [tracked.passages]
    exact calls_perm fun c late => (tracked.absent c (List.getElem?_eq_none late)).1
  · intro e entry c h known same
    exact tracked.waiting_of_entry apart rest entry known same

/-- Two connections come as the same device, and the first one is replaced. At rest the second one
has the entry and the first one is over. -/
theorem the_replaced_connection_is_over :
    let s : Server := { handler := fun _ r => (none, r), registry := { policy := .replace } }
    let come (c : ClientId) : List Event := [.accept none, .arrive c [1, 0, 1, 97], .read c,
      .proceed c, .proceed c, .proceed c, .proceed c, .proceed c]
    let es := come 0 ++ come 1 ++ [.noticeClose 0, .proceed 0, .proceed 0, .proceed 0, .proceed 0,
      .proceed 0]
    ∃ s', s.run? es = some s' ∧ s'.active = s'.connections.countP (!·.isEnded) ∧
      s'.passages = calls (s.tell es) ∧
      ∀ (c : ClientId) conn, s'.connections[c]? = some conn →
        Settled (fun _ _ => []) s.cap (s.tell es) s'.registry c conn := by
  intro s come es
  have stays : ((s.run? es).bind (·.advanceFirst?)).isNone = true := by decide +kernel
  have happens : (s.run? es).isSome = true := by decide +kernel
  obtain ⟨s', run⟩ := Option.isSome_iff_exists.1 happens
  have rest : AtRest s' := by
    apply atRest_of_advanceFirst?
    simpa [run] using stays
  have nobody : outsiders (fun _ _ => []) s (s.tell es) = [] := by decide +kernel
  have apart : KeepApart (fun _ _ => []) s (s.tell es) := by
    intro h outsider
    rw [nobody] at outsider
    cases outsider
  obtain ⟨active, _, _, noted, _, settled, _⟩ := every_connection_comes_and_goes_once
    (fun _ _ => rfl) rfl rfl rfl (story_tell run) apart
  exact ⟨s', run, active, noted, (settled rest).1⟩

end DeviceLink.Server
