-- Calls that take turns. Each finds the client as the one before it left it, with a task for the
-- device that was asked for last, or closed; and once it is closed it does nothing. Calls that
-- overlap may leave it otherwise.
import DeviceLink.Proofs.Client.States

namespace DeviceLink

namespace Session

variable {s s' : Session} {story : List Moment} {e : Event} {t : Task} {i j : SocketId}

/-! ## Taking turns -/

/-- No call is under way. -/
def Free (s : Session) : Prop := ∀ call ∈ s.calls, call.stage = .ended

instance (s : Session) : Decidable s.Free :=
  inferInstanceAs (Decidable (∀ call ∈ s.calls, call.stage = .ended))

/-- Each call was made while no other one was under way. -/
def Serial (story : List Moment) : Prop :=
  ∀ m ∈ story, m.event.asked?.isSome = true → m.session.Free

instance (story : List Moment) : Decidable (Serial story) :=
  inferInstanceAs (Decidable (∀ m ∈ story, m.event.asked?.isSome = true → m.session.Free))

/-- The task is as the call that was made last leaves it: gone before a call that closes the client
clears anything, and at the end there is one for the device that was asked for. -/
structure Call.Fits (call : Call) (task : Option Task) : Prop where
  ended : call.stage = .ended → task.map (·.device) = call.device
  closing : call.device = none → ∀ cell, call.stage = .clearing cell → task = none

/-- Calls on a client take turns. -/
structure InTurn (s : Session) : Prop where
  /-- Only the last call may be under way. -/
  last : ∀ (n : Nat) call, s.calls[n]? = some call → call.stage ≠ .ended →
    n + 1 = s.calls.length
  fits : ∀ call, s.calls.getLast? = some call → call.Fits s.task
  untouched : s.calls = [] → s.task = none

theorem inTurn_new (cap : Nat) (timeout : Duration) : InTurn ({ cap, timeout } : Session) where
  last _ _ := nofun
  fits _ := nofun
  untouched _ := rfl

theorem InTurn.keep (turn : s.InTurn) (calls : s'.calls = s.calls)
    (task : s'.task.map (·.device) = s.task.map (·.device)) : s'.InTurn where
  last := by
    rw [calls]
    exact turn.last
  fits call last := by
    obtain ⟨ended, closing⟩ := turn.fits call (calls ▸ last)
    refine ⟨fun ends => task.trans (ended ends), fun none_ cell stage => ?_⟩
    rw [closing none_ cell stage] at task
    exact Option.map_eq_none_iff.1 task
  untouched empty := by
    rw [turn.untouched (calls ▸ empty)] at task
    exact Option.map_eq_none_iff.1 task

theorem InTurn.mild (turn : s.InTurn) (mild : Mild s s') : s'.InTurn :=
  turn.keep mild.calls (congrArg _ mild.task)

/-- A call is made once the others are over. -/
theorem InTurn.ask (free : s.Free) (calls : s'.calls = s.calls ++ [⟨wanted, .queued⟩]) :
    s'.InTurn where
  last n call called busy := by
    rw [calls, List.getElem?_append] at called
    split at called
    · exact absurd (free call (List.mem_of_getElem? called)) busy
    · rename_i later
      rw [List.getElem?_singleton] at called
      split at called
      · rename_i next
        have length : s'.calls.length = s.calls.length + 1 := by rw [calls, List.length_append]; rfl
        omega
      · cases called
  fits call last := by
    rw [calls, List.getLast?_concat] at last
    cases last
    exact ⟨nofun, fun _ _ => nofun⟩
  untouched empty := by simp [calls] at empty

/-- The call that was made last goes on. -/
theorem InTurn.setStage {u : Session} {n : CallId} {call : Call} {stage : Stage} (turn : s.InTurn)
    (same : u.calls = s.calls) (called : s.calls[n]? = some call) (busy : call.stage ≠ .ended)
    (fits : Call.Fits { call with stage } u.task) : (u.setStage n call stage).InTurn := by
  have newest := turn.last n call called busy
  have called' : u.calls[n]? = some call := same ▸ called
  have length : (u.setStage n call stage).calls.length = s.calls.length :=
    List.length_set.trans (congrArg List.length same)
  refine ⟨fun m other found going => ?_, fun other last => ?_, fun empty => ?_⟩
  · rw [getElem?_setStage called', same] at found
    rw [length]
    split at found
    · rename_i own
      rw [own]
      exact newest
    · exact turn.last m other found going
  · rw [List.getLast?_eq_getElem?, length, ← newest, Nat.add_sub_cancel,
      getElem?_setStage called', if_pos rfl] at last
    cases last
    exact fits
  · rw [empty] at length
    rw [← newest] at length
    cases length

theorem Transition.inTurn (transition : Transition s e s') (c : Coherent s) (turn : s.InTurn)
    (serial : e.asked?.isSome = true → s.Free) : s'.InTurn := by
  have cleared : ∀ cell, (s.clear cell).calls = s.calls ∧ (s.clear cell).task = s.task := by
    intro cell
    rw [clear_eq c.slot]
    exact ⟨rfl, rfl⟩
  -- a call that goes on is the one that was made last
  have newest : ∀ (n : CallId) (call : Call), s.calls[n]? = some call →
      call.stage ≠ .ended → call.Fits s.task := by
    intro n call called busy
    apply turn.fits
    rw [List.getLast?_eq_getElem?, ← turn.last n call called busy]
    exact called
  have mild := transition.mild c
  cases transition with
  | connect device => exact .ask (serial rfl) rfl
  | close => exact .ask (serial rfl) rfl
  | @enter n call called stage free =>
    refine turn.setStage rfl called (by rw [stage]; exact nofun) ⟨fun ends => ?_, ?_⟩
    · unfold Call.entry at ends
      split at ends
      · cases ends
      · split at ends <;> cases ends
    · intro closes cell stage'
      dsimp only [Call.entry] at stage'
      split at stage'
      · cases stage'
      · rename_i stopped
        exact Option.not_isSome_iff_eq_none.1 stopped
  | @stop n call called stage =>
    exact turn.setStage rfl called (by rw [stage]; exact nofun) ⟨nofun, fun _ _ _ => rfl⟩
  | @erase n call cell called stage =>
    have busy : call.stage ≠ .ended := by
      rw [stage]
      exact nofun
    have fits := newest n call called busy
    obtain ⟨calls, task⟩ := cleared cell
    refine turn.setStage calls called busy ⟨fun ends => ?_, fun closes cell' stage' => ?_⟩
    · rw [task]
      cases device : call.device with
      | none => rw [fits.closing device cell stage]; rfl
      | some device' =>
        unfold Call.onward at ends
        rw [device] at ends
        cases cell <;> cases ends
    · rw [task]
      exact fits.closing closes cell stage
  | @launch n call device called stage named =>
    refine turn.setStage rfl called (by rw [stage]; exact nofun) ⟨fun _ => named.symm, ?_⟩
    intro closes
    rw [named] at closes
    cases closes
  | @clear t i cell task place =>
    refine turn.keep (cleared cell).1 ?_
    rw [task]
    rfl
  | receive task place found decoded => exact turn.mild (mild_receive c _ _ _)
  | arrive | hangUp | breakOff | send | ask | expire => exact turn.mild (mild rfl)
  | _ task =>
    refine turn.keep rfl ?_
    rw [task]
    rfl

/-! ## Order -/

/-- The only call that can be under way as a task is started is the one that starts it. -/
theorem InTurn.calm {n : CallId} {call : Call} (turn : s.InTurn) (called : s.calls[n]? = some call)
    (starting : call.stage = .starting) : s.Calm := by
  intro other member
  unfold Call.lingers
  cases stage : other.stage with
  | clearing cell =>
    obtain ⟨m, found⟩ := List.mem_iff_getElem?.1 member
    have first := turn.last m other found (by rw [stage]; exact nofun)
    have second := turn.last n call called (by rw [starting]; exact nofun)
    have same : m = n := Nat.succ.inj (first.trans second.symm)
    subst same
    cases found.symm.trans called
    rw [starting] at stage
    cases stage
  | _ => rfl

theorem Serial.snoc {m : Moment} (serial : Serial (story ++ [m])) :
    Serial story ∧ (m.event.asked?.isSome = true → m.session.Free) :=
  ⟨fun m' member => serial m' (List.mem_append_left _ member),
    serial m (List.mem_append_right _ (List.mem_singleton_self m))⟩

theorem inTurn_of_serial {cap : Nat} {timeout : Duration}
    (told : Story ({ cap, timeout } : Session) story s) (serial : Serial story) :
    s.InTurn ∧ Ordered story := by
  induction told with
  | nil => exact ⟨inTurn_new cap timeout, fun _ => nofun⟩
  | @snoc past t t' e told step ih =>
    obtain ⟨before, free⟩ := serial.snoc
    obtain ⟨turn, ordered⟩ := ih before
    have transition := transition_of_step? step
    refine ⟨transition.inTurn (tracked_of_story told).coherent turn free, ?_⟩
    intro m member starts
    rcases List.mem_append.1 member with old | new
    · exact ordered m old starts
    · cases List.mem_singleton.1 new
      obtain ⟨device, started⟩ := Option.isSome_iff_exists.1 starts
      obtain ⟨n, call, -, called, starting, -⟩ := started?_eq_some_iff.1 started
      exact turn.calm called starting

/-- Between calls that take turns the task is the one that was asked for. -/
theorem InTurn.task_of_free (turn : s.InTurn) (free : s.Free) :
    s.task.map (·.device) = (s.calls.map (·.device)).getLast?.join := by
  cases last : s.calls.getLast? with
  | none =>
    rw [List.getLast?_eq_none_iff] at last
    rw [turn.untouched last, last]
    rfl
  | some call =>
    have ended := free call (List.mem_of_getLast? last)
    rw [(turn.fits call last).ended ended, List.getLast?_map, last]
    rfl

/-! ## After it is closed -/

/-- A client has no task, nothing to clear, and no call that would start one. -/
structure Quiet (s : Session) : Prop where
  task : s.task = none
  blank : ∀ cell, s.Blank cell
  calls : ∀ call ∈ s.calls, call.stage ≠ .ended → call.device = none

theorem Coherent.quiet (c : Coherent s) (free : s.Free) (stopped : s.task = none) : s.Quiet := by
  refine ⟨stopped, fun cell => (c.idle stopped cell).resolve_right ?_, fun call member busy =>
    absurd (free call member) busy⟩
  rintro ⟨n, call, called, owes⟩
  have ended := free call (List.mem_of_getElem? called)
  simp [Call.owes, ended] at owes

theorem Quiet.setStage {u : Session} {n : CallId} {call : Call} {stage : Stage} (quiet : s.Quiet)
    (called : s.calls[n]? = some call) (busy : call.stage ≠ .ended) (calls : u.calls = s.calls)
    (task : u.task = none) (blank : ∀ cell, u.Blank cell) : (u.setStage n call stage).Quiet := by
  refine ⟨task, fun cell => blank_setStage.2 (blank cell), fun other member going => ?_⟩
  rcases List.mem_or_eq_of_mem_set member with before | rfl
  · exact quiet.calls other (calls ▸ before) going
  · exact quiet.calls call (List.mem_of_getElem? called) busy

theorem Quiet.mild (quiet : s.Quiet) (mild : Mild s s') : s'.Quiet := by
  refine ⟨mild.task.trans quiet.task, fun cell => ?_, ?_⟩
  · exact mild.blank (quiet.blank cell) (quiet.blank .writer)
  · rw [mild.calls]
    exact quiet.calls

/-- Such a client stays as it is until a connection is asked for, and dials nobody. -/
theorem Transition.quiet (transition : Transition s e s') (c : Coherent s) (quiet : s.Quiet)
    (others : e.wanted? = none) :
    s'.Quiet ∧ s'.sockets.length = s.sockets.length ∧ ∀ opened, e ≠ .dialed opened := by
  have mild := transition.mild c
  cases transition with
  | connect device => cases others
  | close =>
    have blank := fun cell => (blank_congr rfl rfl rfl).2 (quiet.blank cell)
    refine ⟨⟨quiet.task, blank, fun call member going => ?_⟩, rfl, fun _ => nofun⟩
    rcases List.mem_append.1 member with before | new
    · exact quiet.calls call before going
    · rw [List.mem_singleton.1 new]
  | enter called stage free =>
    exact ⟨quiet.setStage called (by rw [stage]; exact nofun) rfl quiet.task quiet.blank, rfl,
      fun _ => nofun⟩
  | stop called stage =>
    have blank := fun cell => (blank_congr rfl rfl rfl).2 (quiet.blank cell)
    exact ⟨quiet.setStage called (by rw [stage]; exact nofun) rfl rfl blank, rfl, fun _ => nofun⟩
  | @erase n call cell called stage =>
    have busy : call.stage ≠ .ended := by
      rw [stage]
      exact nofun
    have blank : ∀ cell', (s.clear cell).Blank cell' :=
      fun cell' => (quiet.blank cell').clear c.slot cell
    have cleared : (s.clear cell).calls = s.calls ∧ (s.clear cell).task = s.task ∧
        (s.clear cell).sockets = s.sockets := by
      rw [clear_eq c.slot]
      exact ⟨rfl, rfl, rfl⟩
    obtain ⟨calls, task, sockets⟩ := cleared
    refine ⟨quiet.setStage called busy calls (task.trans quiet.task) blank, ?_, fun _ => nofun⟩
    exact congrArg List.length sockets
  | launch called stage named =>
    have closes := quiet.calls _ (List.mem_of_getElem? called) (by rw [stage]; exact nofun)
    rw [named] at closes
    cases closes
  | arrive | hangUp | breakOff | send | ask | expire =>
    exact ⟨quiet.mild (mild rfl), (mild rfl).length, fun _ => nofun⟩
  | _ task =>
    rw [quiet.task] at task
    cases task

/-- A call that closes the client does its last step at a moment. -/
def Moment.closes (m : Moment) : Bool :=
  m.call?.any fun call => call.device.isNone && call.stage == .clearing .state

theorem Moment.closes_iff {m : Moment} : m.closes = true ↔ ∃ n call, m.event = .resume n ∧
    m.session.calls[n]? = some call ∧ call.device = none ∧ call.stage = .clearing .state := by
  unfold closes call?
  cases m.event <;> simp [Option.any_eq_true]

/-- As a call that closes the client ends, it leaves nothing behind if the calls take turns. -/
theorem InTurn.quiet_of_closes (turn : s.InTurn) (c : Coherent s)
    (closes : Moment.closes ⟨s, e⟩ = true) (step : s.step? e = some s') :
    s'.Quiet ∧ s'.sockets = s.sockets := by
  obtain ⟨n, call, rfl, called, closing, stage⟩ := Moment.closes_iff.1 closes
  have busy : call.stage ≠ .ended := by
    rw [stage]
    exact nofun
  have newest := turn.last n call called busy
  have stopped : s.task = none := by
    refine (turn.fits call ?_).closing closing _ stage
    rw [List.getLast?_eq_getElem?, ← newest]
    exact called
  have made : s' = (s.clear .state).setStage n call .ended := by
    have onward : call.onward .state = .ended := by simp [Call.onward, Cell.next?, closing]
    have resumed : s.resume? n call = some s' := by
      change (s.calls[n]? >>= s.resume? n) = some s' at step
      rw [called] at step
      exact step
    simp only [resume?, stage, onward, Option.some.injEq] at resumed
    exact resumed.symm
  have c' := (transition_of_step? step).coherent c
  subst made
  refine ⟨c'.quiet (fun other member => ?_) stopped, rfl⟩
  obtain ⟨m, found⟩ := List.mem_iff_getElem?.1 member
  rw [getElem?_setStage (s := s.clear .state) called] at found
  split at found
  · cases found
    rfl
  · rename_i apart
    by_contra going
    exact apart (Nat.succ.inj ((turn.last m other found going).trans newest.symm))

theorem quiet_of_story {cap : Nat} {timeout : Duration} {before after : List Moment} {m : Moment}
    (told : Story ({ cap, timeout } : Session) story s) (serial : Serial story)
    (parts : story = before ++ m :: after) (closes : m.closes = true)
    (others : ∀ m' ∈ after, m'.event.wanted? = none) :
    s.Quiet ∧ s.sockets.length = m.session.sockets.length ∧
      ∀ m' ∈ after, ∀ opened, m'.event ≠ .dialed opened := by
  induction told generalizing after with
  | nil => simp at parts
  | @snoc past t t' e told step ih =>
    have c := (tracked_of_story told).coherent
    obtain ⟨earlier, -⟩ := serial.snoc
    rcases mem_snoc_cases parts with ⟨rfl, rfl, rfl⟩ | ⟨after', rfl, rfl⟩
    · have turn := (inTurn_of_serial told earlier).1
      obtain ⟨quiet, sockets⟩ := turn.quiet_of_closes c closes step
      exact ⟨quiet, congrArg List.length sockets, fun _ => nofun⟩
    · obtain ⟨quiet, length, silent⟩ :=
        ih earlier rfl fun m' member => others m' (List.mem_append_left _ member)
      obtain ⟨still, same, undialed⟩ :=
        (transition_of_step? step).quiet c quiet (others ⟨t, e⟩ (by simp))
      refine ⟨still, same.trans length, fun m' member => ?_⟩
      rcases List.mem_append.1 member with old | new
      · exact silent m' old
      · rw [List.mem_singleton.1 new]
        exact undialed

/-- A client that was closed: it says so, has no task that could dial, and refuses messages. -/
structure Closed (s : Session) : Prop where
  state : s.state = .disconnected
  task : s.task = none
  holds : ∀ i, ¬ s.Holds i
  send : ∀ typ payload, s.send typ payload = (.error .notConnected, s)
  ask : ∀ payload, s.step? (.ask payload) =
    some { s with replies := s.replies ++ [.error .notConnected] }

theorem Quiet.closed (quiet : s.Quiet) (c : Coherent s) : s.Closed := by
  obtain ⟨task, blank, -⟩ := quiet
  have writer : s.writer = none := blank .writer
  have waits : s.waiting = none := blank .slot
  have pending := c.slot.trans waits
  refine ⟨blank .state, task, not_holds_of_blank task writer, fun typ payload => ?_,
    fun payload => ?_⟩
  · rw [Session.send, writer]
  · change (if s.waiting.isSome then none else some (s.ask payload)) = _
    simp [Session.ask, Session.send, writer, waits, pending]

/-! ## The law -/

/-- What a client tells of its connection after a story, and what is true of it. -/
structure AsItSays (story : List Moment) (s : Session) : Prop where
  /-- A task goes from place to place for its device until a call stops it. -/
  goes : ∀ t e s', s.task = some t → s.step? e = some s' →
    (∃ place, s'.task = some { t with place } ∧
      (place = t.place ∨ t.place.Next s.sockets.length place)) ∨
      (s'.task = none ∧ Moment.stops ⟨s, e⟩ = true)
  redials : ∀ t, s.task = some t →
    (t.place = .failed ∨ ∃ i cell, t.place = .lost i cell) → s.Redials t
  /-- A task is only started once the one before is gone. Its socket is gone as well, unless a call
  lingers. -/
  starts : ∀ e s' device, s.step? e = some s' → Moment.started? ⟨s, e⟩ = some device →
    s.task = none ∧ s'.task = some { device } ∧ (s.Calm → ∀ i, ¬ s.Holds i)
  device : s.device = (story.filterMap (·.event.wanted?)).getLast?
  /-- On the socket of a task its own device was named first. -/
  task : ∀ t, s.task = some t → (story.filterMap (·.started?)).getLast? = some t.device ∧
    ∀ i, t.socket? = some i → s.Introduced i t.device
  /-- To be connected is told by a task that has named its device and been greeted. -/
  publishes : ∀ e s', s.step? e = some s' → s'.state = .connected → s.state = .connected ∨
    ∃ t i, s.task = some t ∧ t.place = .shared i ∧ s.Introduced i t.device ∧
      deliveriesOn story i ≠ []
  state : InOrder story → ∀ e s', s.step? e = some s' →
    s'.state = s.state ∨ s.state.Next s'.state
  connected : InOrder story → s.state = .connected →
    (∃ t i, s.task = some t ∧ (t.place = .reading i ∨ ∃ cell, t.place = .lost i cell) ∧
      s.Introduced i t.device ∧ deliveriesOn story i ≠ []) ∨
      (s.task = none ∧ s.Owed .state)
  socket : InOrder story → ∀ i j, s.Holds i → s.Holds j → i = j
  /-- Calls that take turns start their tasks in order. -/
  serial : Serial story → InOrder story
  /-- Between calls that take turns the client is for the device that was asked for last, or for
  none if it was closed. -/
  between : Serial story → s.Free →
    s.task.map (·.device) = (story.filterMap (·.event.asked?)).getLast?.join ∧
      ∀ t, s.task = some t → s.device = some t.device
  closed : Serial story → ∀ before m after, story = before ++ m :: after → m.closes = true →
    (∀ m' ∈ after, m'.event.wanted? = none) →
      s.Closed ∧ s.sockets.length = m.session.sockets.length ∧
        ∀ m' ∈ after, ∀ opened, m'.event ≠ .dialed opened

/-- The device that was asked for last is the one that the last call wanted, if it wanted one. -/
theorem wanted_of_asked {device : DeviceId}
    (asked : (story.filterMap (·.event.asked?)).getLast?.join = some device) :
    (story.filterMap (·.event.wanted?)).getLast? = some device := by
  have wanted : story.filterMap (·.event.wanted?) =
      (story.filterMap (·.event.asked?)).filterMap id := by
    rw [List.filterMap_filterMap]
    congr 1
    funext m
    cases m.event <;> rfl
  obtain ⟨earlier, whole⟩ := List.getLast?_eq_some_iff.1 (Option.join_eq_some_iff.1 asked)
  rw [wanted, whole, List.filterMap_append, List.getLast?_append]
  rfl

/-- What a client tells of its connection is true while its calls take turns. Take any story of a
new client, with calls that may overlap. Its task goes from place to place for the same device
until a call stops it: from a failed attempt or a lost socket it goes to the next attempt, which it
can make. There is one task at most, and it tells that it is connected only after it has named its
device on its socket and was greeted there. If it was not started while a call that closes the
client had still cells to clear, the state changes along four ways only, and the client holds one
socket at most. So it is if the calls take turns. Then, between them, the task is for the device
that was asked for last, which is also the one that the client names. And from the moment that it
is closed until a connection is asked for, it is disconnected, does not dial, and refuses each
message. -/
theorem a_client_is_as_it_says_while_its_calls_take_turns {cap : Nat} {timeout : Duration}
    (told : Story ({ cap, timeout } : Session) story s) : AsItSays story s := by
  obtain ⟨c, st, steady⟩ := tracked_of_story told
  obtain ⟨calls, device⟩ := asked_of_story told
  refine ⟨?_, fun t => redials_of_ended, ?_, device, ?_, ?_, ?_, ?_, ?_, ?_, ?_, ?_⟩
  · intro t e s' task step
    exact ((transition_of_step? step).course c).of_task task
  · intro e s' device step started
    cases (transition_of_step? step).course c with
    | start device' started' before task' =>
      cases started.symm.trans started'
      refine ⟨before, task', fun calm i => ?_⟩
      obtain ⟨n, call, rfl, called, starting, -⟩ := started?_eq_some_iff.1 started
      exact not_holds_of_blank before ((c.blank_of_starting calm called starting).2 .writer) i
    | stop _ other => simp [started] at other
    | stay other => simp [started] at other
    | move other => simp [started] at other
  · intro t task
    exact ⟨device_of_started told task, fun i => c.socket t i task⟩
  · intro e s' step connected
    refine ((transition_of_step? step).publishes c connected).imp_right ?_
    rintro ⟨t, i, task, place⟩
    refine ⟨t, i, task, place, c.socket t i task ?_, st.greeted t i task ?_⟩
    · rw [Task.socket?, place]
    · rw [place]
      rfl
  · intro orderly e s' step
    exact (transition_of_step? step).state_next c (steady orderly)
  · intro orderly connected
    cases task : s.task with
    | none =>
      refine .inr ⟨rfl, (c.idle task .state).resolve_left fun blank => ?_⟩
      cases (show s.state = .disconnected from blank).symm.trans connected
    | some t =>
      left
      have told := (steady orderly t task).state.symm.trans connected
      have greeted := fun i => st.greeted t i task
      have socket := fun i => c.socket t i task
      obtain ⟨device, place⟩ := t
      cases place with
      | reading i => exact ⟨_, i, rfl, .inl rfl, socket i rfl, greeted i rfl⟩
      | lost i cell => exact ⟨_, i, rfl, .inr ⟨cell, rfl⟩, socket i rfl, greeted i rfl⟩
      | _ => cases told
  · intro orderly i j
    exact (steady orderly).holds_unique
  · intro serial
    exact (inTurn_of_serial told serial).2.inOrder
  · intro serial free
    have task := (inTurn_of_serial told serial).1.task_of_free free
    rw [calls] at task
    refine ⟨task, fun t there => ?_⟩
    rw [there] at task
    exact device.trans (wanted_of_asked task.symm)
  · intro serial before m after parts closes others
    obtain ⟨quiet, rest⟩ := quiet_of_story told serial parts closes others
    exact ⟨quiet.closed c, rest⟩

/-- An attempt fails, the next one succeeds, the socket is lost, a connection is asked for as
another device, and the client is closed. What the server sends after that changes nothing. -/
theorem a_closed_client_stays_closed :
    let start : Session := {}
    let es : List Event := [.connect ⟨"a", by decide⟩, .resume 0, .resume 0, .proceed,
      .dialed false, .proceed, .wake, .proceed, .dialed true, .arrive 0 [1, 0, 1, 72], .read,
      .proceed, .proceed, .hangUp 0, .read, .connect ⟨"b", by decide⟩, .resume 1, .resume 1,
      .resume 1, .resume 1, .resume 1, .resume 1, .proceed, .dialed true, .close, .resume 2,
      .resume 2, .resume 2, .resume 2]
    let later : List Event := [.arrive 1 [1, 0, 1, 72], .send 1 []]
    ∃ u v s, start.run? es = some u ∧ u.step? (.resume 2) = some v ∧ v.run? later = some s ∧
      AsItSays (start.moments es ++ [⟨u, .resume 2⟩] ++ v.moments later) s ∧
      s.device = some ⟨"b", by decide⟩ ∧ s.Closed := by
  intro start es later
  have happens :
      (((start.run? es).bind (·.step? (.resume 2))).bind (·.run? later)).isSome = true := by
    decide +kernel
  have closing : (start.run? es).any (fun u => Moment.closes ⟨u, .resume 2⟩) = true := by
    decide +kernel
  obtain ⟨s, run⟩ := Option.isSome_iff_exists.1 happens
  obtain ⟨v, until_, after⟩ := Option.bind_eq_some_iff.1 run
  obtain ⟨u, before, step⟩ := Option.bind_eq_some_iff.1 until_
  have told := ((story_moments before).snoc step).append_moments after
  have law := a_client_is_as_it_says_while_its_calls_take_turns told
  have unasked : ∀ m ∈ v.moments later, m.event.asked? = none ∧ m.event.wanted? = none := by
    intro m member
    simp only [later, moments, List.mem_cons, List.not_mem_nil, or_false] at member
    rcases member with rfl | rfl
    · exact ⟨rfl, rfl⟩
    · exact ⟨rfl, rfl⟩
  have first : Serial (start.moments es) := by decide +kernel
  have serial : Serial (start.moments es ++ [⟨u, .resume 2⟩] ++ v.moments later) := by
    intro m member asked
    simp only [List.mem_append, List.mem_singleton] at member
    rcases member with (old | rfl) | new
    · exact first m old asked
    · cases asked
    · rw [(unasked m new).1] at asked
      cases asked
  have names : (start.moments es).filterMap (·.event.wanted?) =
      [⟨"a", by decide⟩, ⟨"b", by decide⟩] := by decide +kernel
  have nobody : (v.moments later).filterMap (·.event.wanted?) = [] :=
    List.filterMap_eq_nil_iff.2 fun m member => (unasked m member).2
  rw [before, Option.any_some] at closing
  refine ⟨u, v, s, before, step, after, law, ?_, ?_⟩
  · rw [law.device, List.filterMap_append, List.filterMap_append, names, nobody]
    rfl
  · exact (law.closed serial _ ⟨u, .resume 2⟩ _ (List.append_assoc ..) closing
      fun m member => (unasked m member).2).1

/-- While calls are under way a client is not as it says. A task for one device tells that it is
connected while the client already names another. If a connection is asked for between two steps of
a call that closes the client, the state changes from connected to connecting, and later from
disconnected to connected or not at all: then all calls are over and the task reads, but the client
says that it is disconnected, and refuses messages. Two calls that ask for a connection leave a
task for the one device in a client that names the other. -/
theorem calls_under_way_leave_a_client_that_is_not_as_it_says :
    let start : Session := {}
    let a : DeviceId := ⟨"a", by decide⟩
    let b : DeviceId := ⟨"b", by decide⟩
    let first : List Event := [.connect a, .resume 0, .resume 0, .proceed, .dialed true,
      .arrive 0 [1, 0, 1, 72], .read, .proceed]
    let asked : List Event := [.connect b]
    let onward : List Event := [.proceed]
    let crossing : List Event := [.close, .resume 1, .resume 1, .connect b, .resume 2, .resume 2]
    let crossed := first ++ onward ++ crossing
    let again : List Event := [.proceed, .dialed true, .arrive 1 [1, 0, 1, 72], .read, .proceed]
    let cleared : List Event := [.resume 1, .resume 1, .resume 1]
    let twice : List Event := [.connect a, .connect b, .resume 1, .resume 1, .resume 0, .resume 0,
      .resume 0, .resume 0, .resume 0, .resume 0, .proceed, .dialed true]
    (start.run? (first ++ asked)).map (fun s => (s.state, s.device)) =
        some (ConnectionState.connecting, some b) ∧
      (start.run? (first ++ asked ++ onward)).map (fun s =>
        (s.state, s.device, s.task.map (·.device))) =
          some (ConnectionState.connected, some b, some a) ∧
      (start.run? crossed).map (·.state) = some ConnectionState.connected ∧
      (start.run? (crossed ++ onward)).map (·.state) = some ConnectionState.connecting ∧
      (start.run? (crossed ++ again ++ cleared)).map (·.state) =
        some ConnectionState.disconnected ∧
      (start.run? (crossed ++ again ++ cleared ++ onward)).map (·.state) =
        some ConnectionState.connected ∧
      (start.run? (crossed ++ again ++ onward ++ cleared)).map (fun s =>
        (decide s.Free, s.state, s.task, (s.send 1 [120]).1.toOption)) =
          some (true, ConnectionState.disconnected, some (Task.mk b (.reading 1)), none) ∧
      (start.run? twice).map (fun s =>
        (decide s.Free, s.device, s.task.map (·.device), s.sockets.flatMap (·.sent))) =
          some (true, some b, some a, [introduction a]) := by
  intro start a b first asked onward crossing crossed again cleared twice
  exact ⟨by decide +kernel, by decide +kernel, by decide +kernel, by decide +kernel,
    by decide +kernel, by decide +kernel, by decide +kernel, by decide +kernel⟩

end Session

end DeviceLink
