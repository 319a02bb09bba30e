-- Every step leaves the cells of a client in order. The steps of the calls come first, then those
-- of the task; all others touch neither.
import DeviceLink.Proofs.Client.Coherence

namespace DeviceLink.Session

variable {s s' : Session} {e : Event} {t : Task}

/-! ## Steps of a call -/

section

variable {u : Session} {n : CallId} {call : Call} {stage : Stage}

theorem holdsTask_of_free (free : s.isHeld = false) {m : CallId} {other : Call}
    (found : s.calls[m]? = some other) : other.holdsTask = false :=
  Bool.eq_false_iff.2 (List.any_eq_false.1 free other (List.mem_of_getElem? found))

theorem Owed.setStage {cell : Cell} (owed : s.Owed cell) (same : u.calls = s.calls)
    (called : s.calls[n]? = some call)
    (keeps : call.owes cell = true → Call.owes { call with stage } cell = true) :
    (u.setStage n call stage).Owed cell := by
  obtain ⟨m, other, found, owes⟩ := owed
  have after := getElem?_setStage (same ▸ called : u.calls[n]? = some call) stage m
  by_cases own : m = n
  · subst own
    cases found.symm.trans called
    exact ⟨m, _, after.trans (if_pos rfl), keeps owes⟩
  · refine ⟨m, other, ?_, owes⟩
    rw [after, if_neg own, same]
    exact found

/-- A call holds the task alone if it held it before, or if nobody did. -/
theorem Coherent.alone_setStage (c : Coherent s) (same : u.calls = s.calls)
    (called : s.calls[n]? = some call)
    (holds : Call.holdsTask { call with stage } = true →
      call.holdsTask = true ∨ s.isHeld = false)
    (p q : CallId) (a b : Call) (first : (u.setStage n call stage).calls[p]? = some a)
    (second : (u.setStage n call stage).calls[q]? = some b) (heldA : a.holdsTask = true)
    (heldB : b.holdsTask = true) : p = q := by
  have called' : u.calls[n]? = some call := same ▸ called
  rw [getElem?_setStage called'] at first second
  -- the call itself against another one
  have apart : ∀ (m : CallId) (other : Call), u.calls[m]? = some other →
      other.holdsTask = true → Call.holdsTask { call with stage } = true → m = n := by
    intro m other found held own
    rw [same] at found
    rcases holds own with before | free
    · exact c.alone m n other call found called held before
    · rw [holdsTask_of_free free found] at held
      cases held
  split at first
  · rename_i own
    cases first
    split at second
    · rename_i own'
      exact own.trans own'.symm
    · exact own.trans (apart q b second heldB heldA).symm
  · split at second
    · rename_i own
      cases second
      exact (apart p a first heldA heldB).trans own.symm
    · rw [same] at first second
      exact c.alone p q a b first second heldA heldB

theorem blank_setStage {cell : Cell} : (u.setStage n call stage).Blank cell ↔ u.Blank cell :=
  blank_congr rfl rfl rfl

theorem Coherent.enter (c : Coherent s) (called : s.calls[n]? = some call)
    (queued : call.stage = .queued) (free : s.isHeld = false) :
    Coherent (s.setStage n call (call.entry s.task)) where
  slot := c.slot
  turn := c.turn
  alone := c.alone_setStage rfl called fun _ => .inr free
  gone := by
    intro m other found held busy
    rw [getElem?_setStage called] at found
    split at found
    · cases found
      change s.task = none
      by_contra there
      apply busy
      have isSome : s.task.isSome = true := Option.isSome_iff_ne_none.2 there
      simp [Call.entry, isSome]
    · rw [holdsTask_of_free free found] at held
      cases held
  idle task cell := by
    rw [blank_setStage]
    refine (c.idle task cell).imp id fun owed => owed.setStage rfl called fun owes => ?_
    simp [Call.owes, queued] at owes
  socket := c.socket
  writer := c.writer

theorem Coherent.stop (c : Coherent s) (called : s.calls[n]? = some call)
    (stopping : call.stage = .stopping) :
    Coherent ({ s with task := none }.setStage n call (.clearing .writer)) where
  slot := c.slot
  turn := c.turn
  alone := by
    refine c.alone_setStage rfl called fun _ => .inl ?_
    unfold Call.holdsTask
    rw [stopping]
  gone _ _ _ _ _ := rfl
  idle _ cell := by
    right
    refine ⟨n, { call with stage := .clearing .writer }, ?_, ?_⟩
    · rw [getElem?_setStage (s := { s with task := none }) called, if_pos rfl]
    · simp [Call.owes, Cell.rank]
  socket _ _ := nofun
  writer i writes := ⟨(c.writer i writes).1, fun _ => nofun⟩

theorem Coherent.erase {cell : Cell} (c : Coherent s) (called : s.calls[n]? = some call)
    (clearing : call.stage = .clearing cell) :
    Coherent ((s.clear cell).setStage n call (call.onward cell)) := by
  have cleared := clear_eq c.slot cell
  have calls : (s.clear cell).calls = s.calls := by rw [cleared]
  have task : (s.clear cell).task = s.task := by rw [cleared]
  refine ⟨?_, ?_, ?_, ?_, ?_, ?_, ?_⟩
  · rw [cleared]
    change (if _ then _ else _) = if _ then _ else _
    rw [c.slot]
  · rw [cleared]
    intro w waiting
    change (if _ then _ else _) = _ at waiting
    split at waiting
    · cases waiting
    · rename_i other
      exact (c.turn w waiting).trans (congrArg List.length (if_neg other).symm)
  · apply c.alone_setStage calls called
    rw [Call.holdsTask_onward clearing]
    exact .inl
  · intro m other found held busy
    rw [getElem?_setStage (calls ▸ called)] at found
    change (s.clear cell).task = none
    rw [task]
    split at found
    · cases found
      rw [Call.holdsTask_onward clearing] at held
      exact c.gone n call called held (by rw [clearing]; exact nofun)
    · rw [calls] at found
      exact c.gone m other found held busy
  · intro idle cell'
    rw [blank_setStage]
    by_cases own : cell' = cell
    · rw [own]
      exact .inl (blank_clear c.slot cell)
    · refine (c.idle (task.symm.trans idle) cell').imp (·.clear c.slot cell) fun owed => ?_
      exact owed.setStage calls called fun owes => Call.owes_onward owes clearing own
  · rw [cleared]
    exact c.socket
  · intro i writes
    rw [cleared] at writes ⊢
    change (if _ then _ else _) = _ at writes
    split at writes
    · cases writes
    · exact c.writer i writes

theorem Coherent.launch {device : DeviceId} (c : Coherent s) (called : s.calls[n]? = some call)
    (starting : call.stage = .starting) :
    Coherent ({ s with task := some { device } }.setStage n call .ended) where
  slot := c.slot
  turn := c.turn
  alone := c.alone_setStage rfl called nofun
  gone := by
    intro m other found held busy
    rw [getElem?_setStage (s := { s with task := some { device } }) called] at found
    split at found
    · cases found
      cases held
    · rename_i apart
      have holds : call.holdsTask = true := by
        unfold Call.holdsTask
        rw [starting]
      exact absurd (c.alone m n other call found called held holds) apart
  idle := nofun
  socket t i task held := by
    cases task
    cases held
  writer i writes := by
    refine ⟨(c.writer i writes).1, fun t task => ?_⟩
    cases task
    exact ⟨nofun, nofun⟩

/-- A call that is made waits first. -/
theorem Coherent.ask (c : Coherent s) (named wanted : Option DeviceId) :
    Coherent { s with device := named, calls := s.calls ++ [{ device := wanted }] } := by
  have found : ∀ (m : CallId) (other : Call),
      (s.calls ++ [{ device := wanted }])[m]? = some other → other.holdsTask = true →
        s.calls[m]? = some other := by
    intro m other found held
    rw [List.getElem?_append] at found
    split at found
    · exact found
    · rw [List.getElem?_singleton] at found
      split at found
      · cases found
        cases held
      · cases found
  refine ⟨c.slot, c.turn, ?_, ?_, ?_, c.socket, c.writer⟩
  · intro p q a b first second heldA heldB
    exact c.alone p q a b (found p a first heldA) (found q b second heldB) heldA heldB
  · intro m other called held
    exact c.gone m other (found m other called held) held
  · intro task cell
    refine (c.idle task cell).imp (blank_congr rfl rfl rfl).2 ?_
    rintro ⟨m, other, called, owes⟩
    refine ⟨m, other, ?_, owes⟩
    rw [List.getElem?_append_left (List.getElem?_eq_some_iff.1 called).1]
    exact called

end

/-! ## Steps of the task -/

/-- The task goes to a place, and perhaps to a socket. -/
theorem Coherent.goTo {u : Session} {place : Place} (c : Coherent s) (task : s.task = some t)
    (calls : u.calls = s.calls) (slot : u.pending = u.waiting)
    (turn : ∀ w, u.waiting = some w → w = u.replies.length)
    (socket : ∀ i, Task.socket? { t with place } = some i → u.Introduced i t.device)
    (writer : ∀ i, u.writer = some i → i < u.sockets.length ∧
      place ≠ .introduced i ∧ place ≠ .greeted i) : Coherent (u.goTo t place) where
  slot := slot
  turn := turn
  alone := by
    change ∀ (m n : CallId) a b, u.calls[m]? = some a → u.calls[n]? = some b → _
    rw [calls]
    exact c.alone
  gone := by
    change ∀ (n : CallId) call, u.calls[n]? = some call → _
    rw [calls]
    intro n call called held busy
    rw [c.gone n call called held busy] at task
    cases task
  idle := nofun
  socket t' i here held := by
    cases here
    exact socket i held
  writer i writes := by
    refine ⟨(writer i writes).1, fun t' here => ?_⟩
    cases here
    exact (writer i writes).2

/-- The task goes to a place without a socket, whatever it tells others as it does. -/
theorem Coherent.leave {place : Place} (c : Coherent s) (task : s.task = some t)
    (state : ConnectionState) (away : Task.socket? { t with place } = none) :
    Coherent ({ s with state }.goTo t place) := by
  refine c.goTo task rfl c.slot c.turn (fun i held => ?_) fun i writes => ?_
  · rw [away] at held
    cases held
  · refine ⟨(c.writer i writes).1, ?_, ?_⟩
    · rintro rfl
      cases away
    · rintro rfl
      cases away

/-! ## Every step -/

/-- The cells of a client are still in order after a step. -/
theorem Transition.coherent (transition : Transition s e s') (c : Coherent s) : Coherent s' := by
  have mild := transition.mild c
  cases transition with
  | connect device => exact c.ask _ _
  | close => exact c.ask _ _
  | enter called stage free => exact c.enter called stage free
  | stop called stage => exact c.stop called stage
  | erase called stage => exact c.erase called stage
  | launch called stage named => exact c.launch called stage
  | @reach t task place =>
    refine c.goTo task rfl c.slot c.turn ?_ ?_
    · rintro i ⟨⟩
      exact ⟨by simp [openAs], { sent := [introduction t.device] }, by simp [openAs], rfl⟩
    · intro i writes
      have old := (c.writer i writes).1
      refine ⟨?_, ?_, ?_⟩
      · exact Nat.lt_of_lt_of_le old (by simp [openAs])
      · rintro ⟨⟩
        exact absurd old (Nat.lt_irrefl _)
      · rintro ⟨⟩
  | start task place => exact c.leave task .connecting rfl
  | pause task place => exact c.leave task .disconnected rfl
  | miss task place | giveUp task place | wake task place =>
    exact c.leave task s.state rfl
  | miscarry task place found incomplete hungUp => exact c.leave task s.state rfl
  | @share t i task place =>
    have said := c.socket t i task (by rw [Task.socket?, place])
    refine c.goTo task rfl c.slot c.turn (fun j held => ?_) fun j writes => ?_
    · cases held
      exact said
    · cases writes
      refine ⟨?_, ?_, ?_⟩
      · exact Nat.lt_of_lt_of_eq (Nat.lt_succ_self i) said.1
      · rintro ⟨⟩
      · rintro ⟨⟩
  | @publish t i task place =>
    refine c.goTo task rfl c.slot c.turn (fun j held => ?_) fun j writes => ?_
    · cases held
      exact c.socket t i task (by rw [Task.socket?, place])
    · refine ⟨(c.writer j writes).1, ?_, ?_⟩
      · rintro ⟨⟩
      · rintro ⟨⟩
  | @clear t i cell task place =>
    rw [clear_eq c.slot]
    refine c.goTo task rfl ?_ ?_ ?_ ?_
    · dsimp only
      rw [c.slot]
    · intro w waiting
      dsimp only at waiting ⊢
      split at waiting
      · cases waiting
      · rename_i other
        rw [if_neg other]
        exact c.turn w waiting
    · intro j held
      have same : i = j := by cases cell <;> cases held <;> rfl
      exact c.socket t j task (by rw [Task.socket?, place, same])
    · intro j writes
      dsimp only at writes
      split at writes
      · cases writes
      · refine ⟨(c.writer j writes).1, ?_, ?_⟩
        · cases cell <;> rintro ⟨⟩
        · cases cell <;> rintro ⟨⟩
  | @greet t i socket f inbox task place found decoded =>
    refine c.goTo task rfl c.slot c.turn (fun j held => ?_) fun j writes => ?_
    · cases held
      have said := c.socket t i task (by rw [Task.socket?, place])
      exact said.updateSocket fun _ first => first
    · obtain ⟨old, away⟩ := c.writer j writes
      refine ⟨?_, ?_, ?_⟩
      · exact Nat.lt_of_lt_of_eq old (List.length_modify ..).symm
      · rintro ⟨⟩
      · rintro ⟨⟩
        exact (away t task).1 place
  | receive task place found decoded => exact c.mild (mild_receive c _ _ _)
  | @lose t i socket task place found incomplete hungUp =>
    refine c.goTo task rfl c.slot c.turn (fun j held => ?_) fun j writes => ?_
    · cases held
      exact c.socket t i task (by rw [Task.socket?, place])
    · refine ⟨(c.writer j writes).1, ?_, ?_⟩
      · rintro ⟨⟩
      · rintro ⟨⟩
  | arrive | hangUp | breakOff | send | ask | expire => exact c.mild (mild rfl)

/-! ## Steps behind the back of a task -/

theorem calm_setStage {u : Session} {n : CallId} {call : Call} {stage : Stage} (calm : s.Calm)
    (same : u.calls = s.calls) (quiet : Call.lingers { call with stage } = false) :
    (u.setStage n call stage).Calm := by
  intro other member
  rcases List.mem_or_eq_of_mem_set member with before | rfl
  · exact calm other (same ▸ before)
  · exact quiet

/-- A call that clears a cell without lingering holds the task. -/
theorem holdsTask_of_clearing {call : Call} {cell : Cell} (stage : call.stage = .clearing cell)
    (quiet : call.lingers = false) : call.holdsTask = true := by
  unfold Call.lingers at quiet
  unfold Call.holdsTask
  rw [stage] at quiet ⊢
  cases device : call.device with
  | none => simp [device] at quiet
  | some device => rfl

/-- A task that is started while no call lingers finds all cells cleared. -/
theorem Coherent.blank_of_starting {n : CallId} {call : Call} (c : Coherent s) (calm : s.Calm)
    (called : s.calls[n]? = some call) (starting : call.stage = .starting) :
    s.task = none ∧ ∀ cell, s.Blank cell := by
  have holds : call.holdsTask = true := by
    unfold Call.holdsTask
    rw [starting]
  have stopped := c.gone n call called holds (by rw [starting]; exact nofun)
  refine ⟨stopped, fun cell => (c.idle stopped cell).resolve_right ?_⟩
  rintro ⟨m, other, found, owes⟩
  unfold Call.owes at owes
  cases stage : other.stage with
  | clearing first =>
    have held := holdsTask_of_clearing stage (calm other (List.mem_of_getElem? found))
    have same := c.alone m n other call found called held holds
    subst same
    cases found.symm.trans called
    rw [starting] at stage
    cases stage
  | _ => simp [stage] at owes

theorem steady_goTo {u : Session} {place : Place} (stands : u.Stands place) :
    (u.goTo t place).Steady := by
  intro t' here
  cases here
  exact ⟨stands.state, stands.writer, stands.waits, stands.calm⟩

/-- A call that is made waits first, and clears nothing. -/
theorem Steady.ask (steady : s.Steady) (named wanted : Option DeviceId) :
    Steady { s with device := named, calls := s.calls ++ [{ device := wanted }] } := by
  intro t task
  have stands := steady t task
  refine ⟨stands.state, stands.writer, stands.waits, fun other member => ?_⟩
  rcases List.mem_append.1 member with before | new
  · exact stands.calm other before
  · rw [List.mem_singleton.1 new]
    rfl

/-- The cells of a client still agree with its task after a step, if a new task is only started
while no call lingers. -/
theorem Transition.steady (transition : Transition s e s') (c : Coherent s) (steady : s.Steady)
    (orderly : ∀ n call device, e = .resume n → s.calls[n]? = some call →
      call.stage = .starting → call.device = some device → s.Calm) : s'.Steady := by
  have mild := transition.mild c
  cases transition with
  | connect device => exact steady.ask _ _
  | close => exact steady.ask _ _
  | enter called stage free =>
    intro t task
    have stands := steady t task
    refine ⟨stands.state, stands.writer, stands.waits, calm_setStage stands.calm rfl ?_⟩
    have there : s.task = some t := task
    simp [Call.lingers, Call.entry, there]
  | stop called stage =>
    rintro t ⟨⟩
  | @erase n call cell called stage =>
    -- with a task there is no call that clears: it would have waited for the end of the task
    intro t task
    have there : s.task = some t := by
      rw [clear_eq c.slot] at task
      exact task
    have quiet := (steady t there).calm call (List.mem_of_getElem? called)
    have holds := holdsTask_of_clearing stage quiet
    have stopped := c.gone n call called holds (by rw [stage]; exact nofun)
    rw [there] at stopped
    cases stopped
  | @launch n call device called stage named =>
    have calm := orderly n call device rfl called stage named
    obtain ⟨-, blank⟩ := c.blank_of_starting calm called stage
    rintro t ⟨⟩
    refine ⟨blank .state, fun i writes => ?_, fun w waiting => ?_, calm_setStage calm rfl rfl⟩
    · cases (blank .writer).symm.trans writes
    · cases (blank .slot).symm.trans waiting
  | reach task place | miss task place | giveUp task place | wake task place =>
    have stands := place ▸ steady _ task
    exact steady_goTo ⟨stands.state, stands.writer, stands.waits, stands.calm⟩
  | greet task place found decoded | miscarry task place found incomplete hungUp =>
    have stands := place ▸ steady _ task
    exact steady_goTo ⟨stands.state, stands.writer, stands.waits, stands.calm⟩
  | start task place | pause task place =>
    have stands := place ▸ steady _ task
    exact steady_goTo ⟨rfl, stands.writer, stands.waits, stands.calm⟩
  | share task place =>
    have stands := place ▸ steady _ task
    exact steady_goTo ⟨stands.state, fun _ writes => writes, fun _ _ => rfl, stands.calm⟩
  | publish task place =>
    have stands := place ▸ steady _ task
    exact steady_goTo ⟨rfl, stands.writer, fun _ _ => rfl, stands.calm⟩
  | @clear t i cell task place =>
    obtain ⟨state, writer, waits, calm⟩ := place ▸ steady _ task
    rw [clear_eq c.slot]
    cases cell with
    | writer => exact steady_goTo ⟨state, fun _ => nofun, waits, calm⟩
    | slot => exact steady_goTo ⟨state, writer, fun _ => nofun, calm⟩
    | state => exact steady_goTo ⟨rfl, writer, waits, calm⟩
  | receive task place found decoded => exact steady.mild (mild_receive c _ _ _)
  | lose task place found incomplete hungUp =>
    have stands := place ▸ steady _ task
    exact steady_goTo ⟨stands.state, stands.writer, fun _ _ => rfl, stands.calm⟩
  | arrive | hangUp | breakOff | send | ask | expire => exact steady.mild (mild rfl)

end DeviceLink.Session
