-- What a client tells of its connection against what its sockets hold. The task goes its way
-- whatever is called; but what is told agrees with it only if no task is started while a call that
-- closes the client has still cells to clear, and the device is that of the task only between calls
-- that take turns.
import DeviceLink.Proofs.Client.Streams

namespace DeviceLink

/-- The changes of state that others may see. -/
inductive ConnectionState.Next : ConnectionState → ConnectionState → Prop
  | dial : Next .disconnected .connecting
  | reach : Next .connecting .connected
  | fail : Next .connecting .disconnected
  | lose : Next .connected .disconnected

namespace Session

variable {s s' : Session} {story : List Moment} {e : Event} {t : Task} {i j : SocketId}

/-! ## The state -/

theorem next_disconnected (state : ConnectionState) :
    .disconnected = state ∨ state.Next .disconnected := by
  cases state with
  | disconnected => exact .inl rfl
  | connecting => exact .inr .fail
  | connected => exact .inr .lose

theorem state_clear (c : Coherent s) (cell : Cell) :
    (s.clear cell).state = s.state ∨ s.state.Next (s.clear cell).state := by
  rw [clear_eq c.slot]
  cases cell with
  | state => exact next_disconnected s.state
  | _ => exact .inl rfl

/-- While the cells agree with the task, the state stays or changes as it may. -/
theorem Transition.state_next (transition : Transition s e s') (c : Coherent s)
    (steady : s.Steady) : s'.state = s.state ∨ s.state.Next s'.state := by
  have mild := transition.mild c
  cases transition with
  | erase called stage => exact state_clear c _
  | clear task place => exact state_clear c _
  | start task place =>
    have told := (steady _ task).state
    rw [place] at told
    exact .inr (told ▸ .dial)
  | publish task place =>
    have told := (steady _ task).state
    rw [place] at told
    exact .inr (told ▸ .reach)
  | pause task place => exact next_disconnected s.state
  | receive task place found decoded => exact .inl (mild_receive c _ _ _).state
  | arrive | hangUp | breakOff | send | ask | expire => exact .inl (mild rfl).state
  | _ => exact .inl rfl

/-- Only a task that shares its socket tells others that it is connected. -/
theorem Transition.publishes (transition : Transition s e s') (c : Coherent s)
    (connected : s'.state = .connected) :
    s.state = .connected ∨ ∃ t i, s.task = some t ∧ t.place = .shared i := by
  have cleared : ∀ cell, (s.clear cell).state = .connected → s.state = .connected := by
    intro cell connected
    rw [clear_eq c.slot] at connected
    cases cell with
    | state => cases connected
    | _ => exact connected
  have mild := transition.mild c
  cases transition with
  | erase called stage => exact .inl (cleared _ connected)
  | clear task place => exact .inl (cleared _ connected)
  | start task place => cases connected
  | publish task place => exact .inr ⟨_, _, task, place⟩
  | pause task place => cases connected
  | receive task place found decoded =>
    exact .inl ((mild_receive c _ _ _).state.symm.trans connected)
  | arrive | hangUp | breakOff | send | ask | expire =>
    exact .inl ((mild rfl).state.symm.trans connected)
  | _ => exact .inl connected

/-! ## The sockets -/

/-- A client holds a socket: its task reads from it, or messages are written to it. -/
def Holds (s : Session) (i : SocketId) : Prop :=
  s.writer = some i ∨ ∃ t, s.task = some t ∧ t.socket? = some i

/-- The socket that messages are written to is the one that the task reads from. -/
theorem socket?_of_open? (open_ : t.place.open? = some i) : t.socket? = some i := by
  unfold Task.socket?
  generalize t.place = place at open_
  cases place with
  | shared j | reading j =>
    cases open_
    rfl
  | lost j cell =>
    cases cell with
    | writer =>
      cases open_
      rfl
    | _ => cases open_
  | _ => cases open_

theorem Steady.holds_unique (steady : s.Steady) (first : s.Holds i) (second : s.Holds j) :
    i = j := by
  have reads : ∀ k t, s.Holds k → s.task = some t → t.socket? = some k := by
    rintro k t (writes | ⟨t', task', reads⟩) task
    · exact socket?_of_open? ((steady t task).writer k writes)
    · cases task.symm.trans task'
      exact reads
  cases task : s.task with
  | some t =>
    have same := (reads i t first task).symm.trans (reads j t second task)
    exact Option.some.inj same
  | none =>
    have writes : ∀ k, s.Holds k → s.writer = some k := by
      rintro k (writes | ⟨t, there, _⟩)
      · exact writes
      · rw [task] at there
        cases there
    exact Option.some.inj ((writes i first).symm.trans (writes j second))

theorem not_holds_of_blank (stopped : s.task = none) (mute : s.Blank .writer) (i : SocketId) :
    ¬ s.Holds i := by
  rintro (writes | ⟨t, there, _⟩)
  · cases mute.symm.trans writes
  · rw [stopped] at there
    cases there

/-! ## The task -/

/-- A task goes from place to place until it is gone, and then because a call told it to stop. -/
theorem Course.of_task {m : Moment} (course : Course m s') (task : m.session.task = some t) :
    (∃ place, s'.task = some { t with place } ∧
      (place = t.place ∨ t.place.Next m.session.sockets.length place)) ∨
      (s'.task = none ∧ m.stops = true) := by
  cases course with
  | start device started before =>
    rw [before] at task
    cases task
  | stop stops started task' => exact .inr ⟨task', stops⟩
  | stay started task' => exact .inl ⟨t.place, task'.trans task, .inl rfl⟩
  | move started same next task' =>
    cases task.symm.trans same
    exact .inl ⟨_, task', .inr next⟩

/-- A task dials again after some steps of its own. -/
def Redials (s : Session) (t : Task) : Prop :=
  ∃ (n : Nat) (s' : Session), s.run? (List.replicate n .proceed ++ [.wake, .proceed]) = some s' ∧
    s'.task = some { t with place := .dialing }

theorem redials_of_resting (task : s.task = some { t with place := .resting }) : s.Redials t := by
  obtain ⟨woken, wakes, starting⟩ : ∃ s₁, s.step? .wake = some s₁ ∧
      s₁.task = some { t with place := .starting } :=
    ⟨s.goTo t .starting, by simp [step?, task, wake?, goTo], rfl⟩
  obtain ⟨dialing, dials, place⟩ : ∃ s₂, woken.step? .proceed = some s₂ ∧
      s₂.task = some { t with place := .dialing } :=
    ⟨{ woken with state := .connecting }.goTo t .dialing,
      by simp [step?, starting, proceed?, goTo], rfl⟩
  exact ⟨0, dialing, by simp [run?, wakes, dials], place⟩

theorem Redials.of_proceed (proceeds : s.step? .proceed = some s') (redials : s'.Redials t) :
    s.Redials t := by
  obtain ⟨n, last, run, task⟩ := redials
  refine ⟨n + 1, last, ?_, task⟩
  rw [List.replicate_succ, List.cons_append, run?, proceeds]
  exact run

/-- A task that failed or lost its socket rests, wakes, and dials again for the same device. -/
theorem redials_of_ended (task : s.task = some t)
    (ended : t.place = .failed ∨ ∃ i cell, t.place = .lost i cell) : s.Redials t := by
  rcases ended with failed | ⟨i, cell, lost⟩
  · have proceeds : s.step? .proceed =
        some ({ s with state := .disconnected }.goTo t .resting) := by
      simp [step?, task, proceed?, failed]
    exact .of_proceed proceeds (redials_of_resting rfl)
  · have proceeds : ∀ (u : Session) cell, u.task = some { t with place := .lost i cell } →
        u.step? .proceed =
          some ((u.clear cell).goTo t (cell.next?.elim .resting (.lost i))) := by
      intro u cell here
      simp [step?, here, proceed?, goTo]
    have atState : ∀ u : Session, u.task = some { t with place := .lost i .state } →
        u.Redials t := fun u here => .of_proceed (proceeds u _ here) (redials_of_resting rfl)
    have atSlot : ∀ u : Session, u.task = some { t with place := .lost i .slot } →
        u.Redials t := fun u here => .of_proceed (proceeds u _ here) (atState _ rfl)
    have here : s.task = some { t with place := .lost i cell } := by rw [task, ← lost]
    cases cell with
    | state => exact atState s here
    | slot => exact atSlot s here
    | writer => exact .of_proceed (proceeds s _ here) (atSlot _ rfl)

/-! ## The device -/

/-- What a call wants, which is nothing for one that closes the client. -/
def Event.asked? : Event → Option (Option DeviceId)
  | .connect device => some (some device)
  | .close => some none
  | _ => none

theorem map_device_setStage {n : CallId} {call : Call} {stage : Stage}
    (called : s.calls[n]? = some call) :
    (s.setStage n call stage).calls.map (·.device) = s.calls.map (·.device) := by
  apply List.ext_getElem?
  intro m
  rw [List.getElem?_map, List.getElem?_map, getElem?_setStage called]
  split
  · rename_i own
    rw [own, called]
    rfl
  · rfl

/-- A client knows what it was asked for, and the device that was asked for last. -/
theorem Transition.asked (transition : Transition s e s') (c : Coherent s) :
    s'.calls.map (·.device) = s.calls.map (·.device) ++ e.asked?.toList ∧
      s'.device = e.wanted?.or s.device := by
  have still : ∀ {u : Session}, Mild s u →
      u.calls.map (·.device) = s.calls.map (·.device) ++ [] ∧ u.device = s.device := by
    intro u mild
    rw [mild.calls, List.append_nil]
    exact ⟨rfl, mild.named⟩
  have same : s.calls.map (·.device) = s.calls.map (·.device) ++ [] := (List.append_nil _).symm
  have mild := transition.mild c
  cases transition with
  | connect device => exact ⟨List.map_append, rfl⟩
  | close => exact ⟨List.map_append, rfl⟩
  | enter called stage free => exact ⟨(map_device_setStage called).trans same, rfl⟩
  | stop called stage =>
    exact ⟨(map_device_setStage (s := { s with task := none }) called).trans same, rfl⟩
  | erase called stage =>
    rw [clear_eq c.slot]
    exact ⟨(map_device_setStage (s := { s with .. }) called).trans same, rfl⟩
  | @launch n call device called stage named =>
    exact ⟨(map_device_setStage (s := { s with task := some { device } }) called).trans same, rfl⟩
  | clear task place =>
    rw [clear_eq c.slot]
    exact ⟨same, rfl⟩
  | receive task place found decoded => exact still (mild_receive c _ _ _)
  | arrive | hangUp | breakOff | send | ask | expire => exact still (mild rfl)
  | _ => exact ⟨same, rfl⟩

theorem asked_of_story {cap : Nat} {timeout : Duration}
    (told : Story ({ cap, timeout } : Session) story s) :
    s.calls.map (·.device) = story.filterMap (·.event.asked?) ∧
      s.device = (story.filterMap (·.event.wanted?)).getLast? := by
  induction told with
  | nil => exact ⟨rfl, rfl⟩
  | @snoc past t t' e told step ih =>
    obtain ⟨calls, device⟩ := (transition_of_step? step).asked (tracked_of_story told).coherent
    constructor
    · rw [calls, ih.1, List.filterMap_append]
      cases asked : e.asked? <;> simp [asked]
    · rw [device, ih.2, List.filterMap_append, List.getLast?_append]
      cases wanted : e.wanted? <;> simp [wanted]

/-- A task is there for the device for which one was started last. -/
theorem device_of_started {cap : Nat} {timeout : Duration}
    (told : Story ({ cap, timeout } : Session) story s) (task : s.task = some t) :
    (story.filterMap (·.started?)).getLast? = some t.device := by
  induction told generalizing t with
  | nil => cases task
  | @snoc past u u' e told step ih =>
    have course := (transition_of_step? step).course (tracked_of_story told).coherent
    rw [List.filterMap_append, List.getLast?_append]
    cases course with
    | start device started before task' =>
      cases task.symm.trans task'
      simp [started]
    | stop stops started task' =>
      rw [task'] at task
      cases task
    | stay started task' => simp [started, ih (task'.symm.trans task)]
    | move started before next task' =>
      cases task.symm.trans task'
      simp [started, ih before]

end Session

end DeviceLink
