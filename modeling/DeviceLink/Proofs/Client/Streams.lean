-- The frames that a client takes off a socket are those that arrived on it, in order and each once;
-- the first one is the greeting, and no other is.
import DeviceLink.Proofs.Client.Story

namespace DeviceLink.Session

variable {start s s' : Session} {story : List Moment} {e : Event} {i : SocketId}

/-- The socket on which the greeting has come, for a task at a place. -/
def Place.greeted? : Place → Option SocketId
  | .greeted i | .shared i | .reading i | .lost i _ => some i
  | _ => none

/-- What was taken off the sockets in a story that led to a client. -/
structure Streamed (story : List Moment) (s : Session) : Prop where
  /-- Nothing is told of sockets that are still to be opened. -/
  unopened : ∀ i, s.inbox? i = none → bytesOn story i = [] ∧ deliveriesOn story i = []
  taken : ∀ i inbox, s.inbox? i = some inbox →
    Frame.Taken s.cap (bytesOn story i) ((deliveriesOn story i).map (·.frame)) inbox
  silent : ∀ t i, s.task = some t → t.place = .introduced i → deliveriesOn story i = []
  greeted : ∀ t i, s.task = some t → t.place.greeted? = some i → deliveriesOn story i ≠ []
  first : ∀ (i : SocketId) (k : Nat) d, (deliveriesOn story i)[k]? = some d →
    d.isGreeting = (k == 0)

theorem streamed_nil (s : Session) (fresh : s.sockets = []) (stopped : s.task = none) :
    Streamed [] s where
  unopened _ _ := ⟨rfl, rfl⟩
  taken i inbox found := by simp [inbox?, fresh] at found
  silent _ _ task := by simp [stopped] at task
  greeted _ _ task := by simp [stopped] at task
  first _ _ _ := nofun

/-- What was taken off a socket, and what is left on it. -/
theorem Streamed.off (st : Streamed story s) (i : SocketId) :
    Frame.Taken s.cap (bytesOn story i) ((deliveriesOn story i).map (·.frame))
      ((s.inbox? i).getD []) := by
  cases found : s.inbox? i with
  | some inbox => exact st.taken i inbox found
  | none =>
    obtain ⟨noBytes, noFrames⟩ := st.unopened i found
    rw [noBytes, noFrames]
    exact Frame.taken_nil _ _

/-! ## What stays -/

theorem Transition.setup (transition : Transition s e s') (c : Coherent s) :
    s'.cap = s.cap ∧ s'.timeout = s.timeout := by
  cases transition with
  | erase called stage =>
    rw [clear_eq c.slot]
    exact ⟨rfl, rfl⟩
  | clear task place =>
    rw [clear_eq c.slot]
    exact ⟨rfl, rfl⟩
  | receive task place found decoded =>
    rw [dispatch_eq (s := s.leaveOn _ _) c.slot]
    split
    · exact ⟨rfl, rfl⟩
    · exact ⟨rfl, rfl⟩
  | send typ payload =>
    have sends := sends_send s typ payload
    generalize s.send typ payload = result at sends ⊢
    obtain ⟨outcome, after⟩ := result
    cases sends <;> exact ⟨rfl, rfl⟩
  | ask payload idle =>
    have asks := asks_ask s payload
    generalize s.ask payload = after at asks ⊢
    cases asks <;> exact ⟨rfl, rfl⟩
  | expire waits =>
    rw [endWait_eq waits]
    exact ⟨rfl, rfl⟩
  | _ => exact ⟨rfl, rfl⟩

/-! ## One moment more -/

section

variable {m : Moment} {d : Delivery}

theorem deliveryOn?_eq_some_iff :
    m.deliveryOn? i = some d ↔ m.delivery? = some d ∧ d.socket = i := by
  simp [Moment.deliveryOn?]

theorem Streamed.unopened_snoc (st : Streamed story m.session) (traffic : Traffic m s' i)
    (none' : s'.inbox? i = none) :
    bytesOn (story ++ [m]) i = [] ∧ deliveriesOn (story ++ [m]) i = [] := by
  rw [bytesOn_snoc, deliveriesOn_snoc]
  cases traffic with
  | absent before after bytes delivery =>
    obtain ⟨noBytes, noFrames⟩ := st.unopened i before
    simp [noBytes, noFrames, bytes, delivery]
  | opened before after => simp [after] at none'
  | arrived before after => simp [after] at none'
  | taken before decoded after => simp [after] at none'

theorem Streamed.taken_snoc (st : Streamed story m.session) (traffic : Traffic m s' i)
    {inbox' : Bytes} (found' : s'.inbox? i = some inbox') :
    Frame.Taken m.session.cap (bytesOn (story ++ [m]) i)
      ((deliveriesOn (story ++ [m]) i).map (·.frame)) inbox' := by
  rw [bytesOn_snoc, deliveriesOn_snoc]
  cases traffic with
  | absent before after => simp [after] at found'
  | opened before after bytes delivery =>
    obtain ⟨noBytes, noFrames⟩ := st.unopened i before
    cases after.symm.trans found'
    simp only [noBytes, noFrames, bytes, delivery]
    exact Frame.taken_nil _ _
  | arrived before after delivery =>
    cases after.symm.trans found'
    simpa [delivery] using (st.taken i _ before).arrive (m.bytesOn i)
  | taken before decoded after bytes delivery =>
    cases after.symm.trans found'
    simpa [bytes, delivery] using (st.taken i _ before).take decoded

theorem Streamed.silent_snoc (st : Streamed story m.session) (course : Course m s') {t' : Task}
    (task' : s'.task = some t') (place' : t'.place = .introduced i) :
    deliveriesOn (story ++ [m]) i = [] := by
  rw [deliveriesOn_snoc]
  cases course with
  | start device started before same =>
    rw [task'] at same
    cases same
    cases place'
  | stop stops started same => simp [task'] at same
  | stay started same delivery =>
    rw [task'] at same
    rw [st.silent t' i same.symm place', List.nil_append]
    cases taken : m.deliveryOn? i with
    | none => rfl
    | some d =>
      obtain ⟨delivered, rfl⟩ := deliveryOn?_eq_some_iff.1 taken
      obtain ⟨_, t, task, place⟩ := delivery d delivered
      rw [← same] at task
      cases task
      rw [place] at place'
      cases place'
  | @move t place started task next same delivery =>
    rw [task'] at same
    cases same
    subst place'
    generalize from_ : t.place = before at next
    cases next
    have nothing : m.deliveryOn? m.session.sockets.length = none := by
      apply deliveryOn?_of_none
      cases taken : m.delivery? with
      | none => rfl
      | some d =>
        have waited := (delivery d taken).2
        rw [from_] at waited
        cases waited
    rw [nothing, (st.unopened _ (by simp [inbox?])).2]
    rfl

theorem Streamed.greeted_snoc (st : Streamed story m.session) (course : Course m s') {t' : Task}
    (task' : s'.task = some t') (place' : t'.place.greeted? = some i) :
    deliveriesOn (story ++ [m]) i ≠ [] := by
  rw [deliveriesOn_snoc]
  have before : ∀ t, m.session.task = some t → t.place.greeted? = some i →
      deliveriesOn story i ++ (m.deliveryOn? i).toList ≠ [] := by
    intro t task greeted
    exact List.append_ne_nil_of_left_ne_nil (st.greeted t i task greeted) _
  cases course with
  | start device started before same =>
    rw [task'] at same
    cases same
    cases place'
  | stop stops started same => simp [task'] at same
  | stay started same =>
    rw [task'] at same
    exact before t' same.symm place'
  | @move t place started task next same delivery greets =>
    rw [task'] at same
    cases same
    generalize from_ : t.place = from' at next
    cases next with
    | greet j =>
      cases place'
      obtain ⟨d, delivered, on⟩ := greets _ rfl
      rw [deliveryOn?_eq_some_iff.2 ⟨delivered, on⟩]
      simp
    | share | publish | lose | release | empty =>
      cases place'
      exact before t task (by rw [from_]; rfl)
    | _ => cases place'

/-- A frame is taken as the greeting where none was taken before, and only there. -/
theorem Streamed.isGreeting (st : Streamed story m.session) (course : Course m s')
    (delivery : m.delivery? = some d) :
    d.isGreeting = (deliveriesOn story d.socket).isEmpty := by
  cases course with
  | start device started before same nothing => simp [nothing] at delivery
  | stop stops started same nothing => simp [nothing] at delivery
  | stay started same reads =>
    obtain ⟨ordinary, t, task, place⟩ := reads d delivery
    have greeted := st.greeted t d.socket task (by rw [place]; rfl)
    rw [ordinary, List.isEmpty_eq_false_iff.2 greeted]
  | move started task next same greets =>
    obtain ⟨greeting, place⟩ := greets d delivery
    rw [greeting, st.silent _ d.socket task place]
    rfl

theorem Streamed.first_snoc (st : Streamed story m.session) (course : Course m s') {k : Nat}
    (found : (deliveriesOn (story ++ [m]) i)[k]? = some d) : d.isGreeting = (k == 0) := by
  rw [deliveriesOn_snoc] at found
  by_cases old : k < (deliveriesOn story i).length
  · rw [List.getElem?_append_left old] at found
    exact st.first i k d found
  · rw [List.getElem?_append_right (by omega)] at found
    cases taken : m.deliveryOn? i with
    | none => simp [taken] at found
    | some d' =>
      rw [taken, Option.toList_some, List.getElem?_singleton] at found
      split at found
      · cases found
        obtain ⟨delivery, rfl⟩ := deliveryOn?_eq_some_iff.1 taken
        have last : k = (deliveriesOn story d.socket).length := by omega
        rw [st.isGreeting course delivery, last]
        cases deliveriesOn story d.socket with
        | nil => rfl
        | cons _ _ => rfl
      · cases found

end

/-! ## The whole story -/

/-- What holds of a client after every story. -/
structure Tracked (story : List Moment) (s : Session) : Prop where
  coherent : Coherent s
  streamed : Streamed story s
  steady : InOrder story → Steady s

theorem Tracked.snoc (tracked : Tracked story s) (step : s.step? e = some s') :
    Tracked (story ++ [⟨s, e⟩]) s' := by
  obtain ⟨c, st, steady⟩ := tracked
  have transition := transition_of_step? step
  have course := transition.course c
  have traffic := transition.traffic c
  refine ⟨transition.coherent c, ⟨?_, ?_, ?_, ?_, ?_⟩, fun orderly => ?_⟩
  · intro i nothing
    exact st.unopened_snoc (m := ⟨s, e⟩) (traffic i) nothing
  · intro i inbox found
    rw [(transition.setup c).1]
    exact st.taken_snoc (m := ⟨s, e⟩) (traffic i) found
  · intro t i task place
    exact st.silent_snoc (m := ⟨s, e⟩) course task place
  · intro t i task place
    exact st.greeted_snoc (m := ⟨s, e⟩) course task place
  · intro i k d found
    exact st.first_snoc (m := ⟨s, e⟩) course found
  · rw [inOrder_snoc] at orderly
    split at orderly
    · rename_i starts
      have stopped : s.task = none := course.task_of_started starts
      refine transition.steady c (fun t task => ?_) fun _ _ _ _ _ _ _ => orderly
      rw [stopped] at task
      cases task
    · rename_i quiet
      refine transition.steady c (steady orderly) ?_
      rintro n call device rfl called starting named
      rw [started?_of_starting called starting named] at quiet
      exact absurd rfl quiet

theorem tracked_of_story {cap : Nat} {timeout : Duration}
    (told : Story ({ cap, timeout } : Session) story s) : Tracked story s := by
  induction told with
  | nil =>
    exact ⟨coherent_new cap timeout, streamed_nil _ rfl rfl, fun _ => steady_new cap timeout⟩
  | snoc told step ih => exact ih.snoc step

theorem setup_of_story {cap : Nat} {timeout : Duration}
    (told : Story ({ cap, timeout } : Session) story s) : s.cap = cap ∧ s.timeout = timeout := by
  induction told with
  | nil => exact ⟨rfl, rfl⟩
  | snoc told step ih =>
    have same := (transition_of_step? step).setup (tracked_of_story told).coherent
    exact ⟨same.1.trans ih.1, same.2.trans ih.2⟩

end DeviceLink.Session
