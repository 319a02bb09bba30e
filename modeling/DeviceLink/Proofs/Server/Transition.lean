-- What a step of a server can be, one case for each thing that happens. Everything that is proved
-- about all runs of a server goes through these cases, never through the functions behind them.
import DeviceLink.Server.Step

namespace DeviceLink.Server

/-! ## The cases of a step -/

/-- An event makes one server of another. -/
inductive Transition (s : Server) : Event → Server → Prop
  | accept (peer : Option Network.Endpoint)
      (listens : s.lifecycle = .running ∨ s.lifecycle = .stopping) :
      Transition s (.accept peer)
        { s with connections := s.connections ++ [{ peer }], active := s.active + 1 }
  | arrive {c : ClientId} {conn : Connection} (bytes : Bytes)
      (found : s.connections[c]? = some conn) (talks : conn.hungUp = false) :
      Transition s (.arrive c bytes)
        (s.setConnection c { conn with inbox := conn.inbox ++ bytes })
  | hangUp {c : ClientId} {conn : Connection} (found : s.connections[c]? = some conn) :
      Transition s (.hangUp c) (s.setConnection c { conn with hungUp := true })
  | move {c : ClientId} {conn : Connection} {h : Handle} {place place' : Place} {moved : Server}
      (found : s.connections[c]? = some conn) (stage : conn.stage = .identified h place)
      (moves : s.move? h place = some (place', moved)) :
      Transition s (.proceed c)
        (moved.setConnection c { conn with stage := .identified h place' })
  | part {c : ClientId} {conn : Connection} {h : Handle}
      (found : s.connections[c]? = some conn) (stage : conn.stage = .identified h .parted) :
      Transition s (.proceed c) (s.part c conn h (s.registry.line h.conn).queue)
  | identify {c : ClientId} {conn : Connection} {f : Frame} {inbox : Bytes} {device : DeviceId}
      (found : s.connections[c]? = some conn) (stage : conn.stage = .handshake)
      (decoded : Frame.decode? s.cap conn.inbox = some (f, inbox))
      (named : DeviceId.ofWire? f.payload = some device) :
      Transition s (.read c)
        ({ s with registry := (s.registry.connect device conn.peer).2 }.setConnection c
          { conn with
            inbox, stage := .identified (s.registry.connect device conn.peer).1 .named })
  | refuse {c : ClientId} {conn : Connection} {f : Frame} {inbox : Bytes}
      (found : s.connections[c]? = some conn) (stage : conn.stage = .handshake)
      (decoded : Frame.decode? s.cap conn.inbox = some (f, inbox))
      (unnamed : DeviceId.ofWire? f.payload = none) :
      Transition s (.read c) (s.finish c { conn with inbox })
  | leave {c : ClientId} {conn : Connection}
      (found : s.connections[c]? = some conn) (stage : conn.stage = .handshake)
      (incomplete : Frame.decode? s.cap conn.inbox = none) (hungUp : conn.hungUp = true) :
      Transition s (.read c) (s.finish c conn)
  | receive {c : ClientId} {conn : Connection} {h : Handle} {f : Frame} {inbox : Bytes}
      (found : s.connections[c]? = some conn) (stage : conn.stage = .identified h .waiting)
      (decoded : Frame.decode? s.cap conn.inbox = some (f, inbox)) :
      Transition s (.read c)
        ((s.deliver h f).setConnection c { conn with inbox, stage := .identified h .ready })
  | noticeEnd {c : ClientId} {conn : Connection} {h : Handle}
      (found : s.connections[c]? = some conn) (stage : conn.stage = .identified h .waiting)
      (incomplete : Frame.decode? s.cap conn.inbox = none) (hungUp : conn.hungUp = true) :
      Transition s (.read c) (s.setConnection c { conn with stage := .identified h .leaving })
  | giveUp {c : ClientId} {conn : Connection}
      (found : s.connections[c]? = some conn) (stage : conn.stage = .handshake) :
      Transition s (.expire c) (s.finish c conn)
  | abort {c : ClientId} {conn : Connection} {h : Handle}
      (found : s.connections[c]? = some conn) (stage : conn.stage = .identified h .parted) :
      Transition s (.expire c) (s.part c conn h [])
  | noticeClose {c : ClientId} {conn : Connection} {h : Handle}
      (found : s.connections[c]? = some conn) (stage : conn.stage = .identified h .waiting)
      (asked : (s.registry.line h.conn).closing = true) :
      Transition s (.noticeClose c)
        ((s.operate (.noticeClose h.conn)).setConnection c
          { conn with stage := .identified h .leaving })
  | noticeStop {c : ClientId} {conn : Connection} {h : Handle}
      (found : s.connections[c]? = some conn) (stage : conn.stage = .identified h .waiting)
      (stops : s.lifecycle ≠ .running) :
      Transition s (.noticeStop c) (s.setConnection c { conn with stage := .identified h .leaving })
  | write {c : ClientId} {conn : Connection} {h : Handle}
      (found : s.connections[c]? = some conn) (handle : conn.handle? = some h)
      (waits : (s.registry.line h.conn).queue ≠ []) :
      Transition s (.write c)
        ((s.operate (.drain h.conn)).setConnection c
          { conn with sent := conn.sent ++ (s.registry.line h.conn).queue })
  | failWrite {c : ClientId} {conn : Connection} {h : Handle}
      (found : s.connections[c]? = some conn) (handle : conn.handle? = some h)
      (hungUp : conn.hungUp = true) :
      Transition s (.failWrite c) (s.operate (.dropWriter h.conn))
  | operate (op : Registry.Operation) : Transition s (.operate op) (s.operate op)
  | exchange (source : Source) : Transition s (.exchange source) (s.answer source).2
  | signalStop (runs : s.lifecycle = .running) :
      Transition s .signalStop { s with lifecycle := .stopping }
  | unbind (stops : s.lifecycle = .stopping) :
      Transition s .unbind { s with lifecycle := .unbound }
  | finishStop (unbound : s.lifecycle = .unbound) :
      Transition s .finishStop { s.operate .closeAll with lifecycle := .stopped }

/-! ## The cases are all -/

variable {s s' : Server} {c : ClientId}

theorem at?_eq_some_iff {f : Connection → Option Server} :
    s.at? c f = some s' ↔ ∃ conn, s.connections[c]? = some conn ∧ f conn = some s' :=
  Option.bind_eq_some_iff

theorem transition_of_proceed? {conn : Connection} (found : s.connections[c]? = some conn)
    (h : s.proceed? c conn = some s') : Transition s (.proceed c) s' := by
  unfold proceed? at h
  split at h
  · rename_i handle stage
    cases h
    exact .part found stage
  · rename_i handle place _ stage
    obtain ⟨⟨place', moved⟩, moves, rest⟩ := Option.bind_eq_some_iff.1 h
    cases rest
    exact .move found stage moves
  · cases h

theorem transition_of_read? {conn : Connection} (found : s.connections[c]? = some conn)
    (h : s.read? c conn = some s') : Transition s (.read c) s' := by
  unfold read? at h
  split at h
  · rename_i stage
    unfold identify? at h
    split at h
    · rename_i f inbox decoded
      split at h
      · rename_i unnamed
        cases h
        exact .refuse found stage decoded unnamed
      · rename_i device named
        cases h
        exact .identify found stage decoded named
    · rename_i incomplete
      split at h
      · rename_i hungUp
        cases h
        exact .leave found stage incomplete hungUp
      · cases h
  · rename_i handle stage
    unfold receive? at h
    split at h
    · rename_i f inbox decoded
      cases h
      exact .receive found stage decoded
    · rename_i incomplete
      split at h
      · rename_i hungUp
        cases h
        exact .noticeEnd found stage incomplete hungUp
      · cases h
  · cases h

theorem transition_of_expire? {conn : Connection} (found : s.connections[c]? = some conn)
    (h : s.expire? c conn = some s') : Transition s (.expire c) s' := by
  unfold expire? at h
  split at h
  · rename_i stage
    cases h
    exact .giveUp found stage
  · rename_i handle stage
    cases h
    exact .abort found stage
  · cases h

theorem transition_of_noticeClose? {conn : Connection} (found : s.connections[c]? = some conn)
    (h : s.noticeClose? c conn = some s') : Transition s (.noticeClose c) s' := by
  unfold noticeClose? at h
  split at h
  · rename_i handle stage
    split at h
    · rename_i asked
      cases h
      exact .noticeClose found stage asked
    · cases h
  · cases h

theorem transition_of_noticeStop? {conn : Connection} (found : s.connections[c]? = some conn)
    (h : s.noticeStop? c conn = some s') : Transition s (.noticeStop c) s' := by
  unfold noticeStop? at h
  split at h
  · rename_i handle stage
    split at h
    · cases h
    · rename_i stops
      cases h
      exact .noticeStop found stage stops
  · cases h

theorem transition_of_write? {conn : Connection} (found : s.connections[c]? = some conn)
    (h : s.write? c conn = some s') : Transition s (.write c) s' := by
  unfold write? Registry.drain at h
  split at h
  · rename_i handle known
    split at h
    · cases h
    · rename_i frames registry waits drained
      cases drained
      cases h
      exact .write found known waits
  · cases h

theorem transition_of_failWrite? {conn : Connection} (found : s.connections[c]? = some conn)
    (h : s.failWrite? conn = some s') : Transition s (.failWrite c) s' := by
  unfold failWrite? at h
  split at h
  · rename_i handle known
    split at h
    · rename_i hungUp
      cases h
      exact .failWrite found known hungUp
    · cases h
  · cases h

theorem goOn?_eq_some_iff {here there : Lifecycle} :
    s.goOn? here there = some s' ↔ s.lifecycle = here ∧ s' = { s with lifecycle := there } := by
  unfold goOn?
  by_cases h : s.lifecycle = here
  · rw [if_pos h, Option.some.injEq, eq_comm]
    exact ⟨fun same => ⟨h, same⟩, fun both => both.2⟩
  · rw [if_neg h]
    exact ⟨nofun, fun both => absurd both.1 h⟩

/-- Whatever a step does is one of the cases. -/
theorem transition_of_step? {e : Event} (h : s.step? e = some s') : Transition s e s' := by
  cases e with
  | accept peer =>
    simp only [step?, accept?] at h
    split at h
    · rename_i listens
      cases h
      exact .accept peer listens
    · cases h
  | arrive c bytes =>
    obtain ⟨conn, found, h⟩ := at?_eq_some_iff.1 h
    split at h
    · cases h
    · rename_i talks
      cases h
      exact .arrive bytes found (Bool.eq_false_iff.2 talks)
  | hangUp c =>
    obtain ⟨conn, found, h⟩ := at?_eq_some_iff.1 h
    cases h
    exact .hangUp found
  | proceed c =>
    obtain ⟨conn, found, h⟩ := at?_eq_some_iff.1 h
    exact transition_of_proceed? found h
  | read c =>
    obtain ⟨conn, found, h⟩ := at?_eq_some_iff.1 h
    exact transition_of_read? found h
  | expire c =>
    obtain ⟨conn, found, h⟩ := at?_eq_some_iff.1 h
    exact transition_of_expire? found h
  | noticeClose c =>
    obtain ⟨conn, found, h⟩ := at?_eq_some_iff.1 h
    exact transition_of_noticeClose? found h
  | noticeStop c =>
    obtain ⟨conn, found, h⟩ := at?_eq_some_iff.1 h
    exact transition_of_noticeStop? found h
  | write c =>
    obtain ⟨conn, found, h⟩ := at?_eq_some_iff.1 h
    exact transition_of_write? found h
  | failWrite c =>
    obtain ⟨conn, found, h⟩ := at?_eq_some_iff.1 h
    exact transition_of_failWrite? found h
  | operate op =>
    cases h
    exact .operate op
  | exchange source =>
    cases h
    exact .exchange source
  | signalStop =>
    obtain ⟨runs, rfl⟩ := goOn?_eq_some_iff.1 h
    exact .signalStop runs
  | unbind =>
    obtain ⟨stops, rfl⟩ := goOn?_eq_some_iff.1 h
    exact .unbind stops
  | finishStop =>
    obtain ⟨unbound, rfl⟩ := goOn?_eq_some_iff.1 h
    exact .finishStop unbound

/-! ## What no step changes -/

/-- Two servers were set up the same way. -/
structure SameSetup (s s' : Server) : Prop where
  cap : s'.cap = s.cap
  limit : s'.limit = s.limit
  handler : s'.handler = s.handler
  hooks : s'.hooks = s.hooks

theorem SameSetup.setConnection (same : SameSetup s s') (c : ClientId) (conn : Connection) :
    SameSetup s (s'.setConnection c conn) :=
  ⟨same.cap, same.limit, same.handler, same.hooks⟩

theorem sameSetup_deliver (s : Server) (h : Handle) (f : Frame) :
    SameSetup s (s.deliver h f) := by
  unfold deliver
  cases s.hooks.sink with
  | none => exact ⟨rfl, rfl, rfl, rfl⟩
  | some sink => exact ⟨rfl, rfl, rfl, rfl⟩

theorem sameSetup_of_move? {h : Handle} {place place' : Place}
    (moves : s.move? h place = some (place', s')) : SameSetup s s' := by
  cases place with
  | waiting => cases moves
  | parted => cases moves
  | judged replaced => cases replaced <;> cases moves <;> exact ⟨rfl, rfl, rfl, rfl⟩
  | _ =>
    cases moves
    exact ⟨rfl, rfl, rfl, rfl⟩

theorem Transition.sameSetup {e : Event} (t : Transition s e s') : SameSetup s s' := by
  cases t with
  | move _ _ moves => exact (sameSetup_of_move? moves).setConnection _ _
  | @receive _ _ h f => exact (sameSetup_deliver s h f).setConnection _ _
  | _ => exact ⟨rfl, rfl, rfl, rfl⟩

/-- A move of one connection leaves the others where they are. -/
theorem connections_of_move? {h : Handle} {place place' : Place}
    (moves : s.move? h place = some (place', s')) : s'.connections = s.connections := by
  cases place with
  | waiting => cases moves
  | parted => cases moves
  | judged replaced => cases replaced <;> cases moves <;> rfl
  | _ =>
    cases moves
    rfl

theorem connections_deliver (s : Server) (h : Handle) (f : Frame) :
    (s.deliver h f).connections = s.connections := by
  unfold deliver
  cases s.hooks.sink <;> rfl

/-! ## How a stop goes on -/

theorem lifecycle_of_move? {h : Handle} {place place' : Place}
    (moves : s.move? h place = some (place', s')) : s'.lifecycle = s.lifecycle := by
  cases place with
  | waiting => cases moves
  | parted => cases moves
  | judged replaced => cases replaced <;> cases moves <;> rfl
  | _ =>
    cases moves
    rfl

theorem lifecycle_deliver (s : Server) (h : Handle) (f : Frame) :
    (s.deliver h f).lifecycle = s.lifecycle := by
  unfold deliver
  cases s.hooks.sink <;> rfl

/-- A stop goes on step by step, and nothing else touches it. -/
theorem Transition.lifecycle_cases {e : Event} (t : Transition s e s') :
    s'.lifecycle = s.lifecycle ∨
      (e = .signalStop ∧ s.lifecycle = .running ∧ s'.lifecycle = .stopping) ∨
      (e = .unbind ∧ s.lifecycle = .stopping ∧ s'.lifecycle = .unbound) ∨
      (e = .finishStop ∧ s.lifecycle = .unbound ∧ s'.lifecycle = .stopped) := by
  cases t with
  | move _ _ moves =>
    left
    have same := lifecycle_of_move? moves
    exact same
  | @receive _ _ h f =>
    left
    have same := lifecycle_deliver s h f
    exact same
  | signalStop runs => exact .inr (.inl ⟨rfl, runs, rfl⟩)
  | unbind stops => exact .inr (.inr (.inl ⟨rfl, stops, rfl⟩))
  | finishStop unbound => exact .inr (.inr (.inr ⟨rfl, unbound, rfl⟩))
  | _ => exact .inl rfl

/-- A server that stops never runs again. -/
theorem Transition.stays_stopping {e : Event} (t : Transition s e s')
    (stops : s.lifecycle ≠ .running) : s'.lifecycle ≠ .running := by
  rcases t.lifecycle_cases with same | ⟨_, runs, _⟩ | ⟨_, _, later⟩ | ⟨_, _, later⟩
  · rwa [same]
  · exact absurd runs stops
  · simp [later]
  · simp [later]

end DeviceLink.Server
