-- What a connection hears. The frames that it takes are those that its client sent after the first
-- one, in order and each once, whatever is done with them.
import DeviceLink.Proofs.Frame.Fragments
import DeviceLink.Proofs.Registry.Replacement
import DeviceLink.Proofs.Server.Lives

namespace DeviceLink.Server

open Registry (Operation gather)

/-! ## Frames -/

/-- A frame that a connection can take while it waits, with the handle of the connection. -/
def ready? (s : Server) (c : ClientId) : Option (Handle × Frame) :=
  s.connections[c]?.bind fun conn =>
    match conn.stage with
    | .identified h .waiting => (Frame.decode? s.cap conn.inbox).map fun x => (h, x.1)
    | _ => none

/-- The frame that a connection takes at a moment, with the handle of the connection. -/
def Moment.intake? (m : Moment) (c : ClientId) : Option (Handle × Frame) :=
  match m.event with
  | .read c' => if c' = c then m.server.ready? c else none
  | _ => none

/-- The frames that a connection took in a story, first one first. The one that said who it is does
not count. -/
def framesFrom (story : List Moment) (c : ClientId) : List Frame :=
  (story.filterMap (·.intake? c)).map (·.2)

/-- The connections that were asked to close in a story. -/
def asked (acts : Request → Registry → List Operation) (story : List Moment) : List ConnId :=
  story.flatMap fun m =>
    gather (fun r op => op.asks r.policy r.entries) m.server.registry (m.operations acts)

variable {acts : Request → Registry → List Operation} {start s s' : Server} {e : Event}
  {story : List Moment} {m : Moment} {c : ClientId} {conn conn' : Connection} {h : Handle}
  {place : Place}

theorem framesFrom_concat (story : List Moment) (m : Moment) (c : ClientId) :
    framesFrom (story ++ [m]) c = framesFrom story c ++ ((m.intake? c).map (·.2)).toList := by
  cases taken : m.intake? c <;> simp [framesFrom, taken]

theorem ready?_of_waiting (found : s.connections[c]? = some conn)
    (stage : conn.stage = .identified h .waiting) :
    s.ready? c = (Frame.decode? s.cap conn.inbox).map fun x => (h, x.1) := by
  simp [ready?, found, stage]

theorem ready?_of_other (found : s.connections[c]? = some conn)
    (stage : ∀ h, conn.stage ≠ .identified h .waiting) : s.ready? c = none := by
  rw [ready?, found, Option.bind_some]
  split
  · rename_i h waiting
    exact absurd waiting (stage h)
  · rfl

theorem intake?_read_self : Moment.intake? ⟨s, .read c⟩ c = s.ready? c := if_pos rfl

theorem intake?_read_of_ne {c' : ClientId} (other : c' ≠ c) :
    Moment.intake? ⟨s, .read c⟩ c' = none := if_neg (Ne.symm other)

/-! ## What becomes of a connection -/

/-- A connection that has left, or is about to. -/
def Place.isLeaving : Place → Bool
  | .leaving | .removed | .judged _ | .departed | .parted => true
  | _ => false

/-- What becomes of what a connection has heard, at any moment. -/
inductive Hears (m : Moment) (s' : Server) (c : ClientId) (conn conn' : Connection) : Prop
  | still (stage : conn'.stage = conn.stage) (inbox : conn'.inbox = conn.inbox ++ m.bytesFrom c)
      (silent : conn.hungUp = true → conn'.hungUp = true ∧ m.bytesFrom c = [])
      (intake : m.intake? c = none)
  | identify {h : Handle} {first : Frame} {rest : Bytes} (stage : conn.stage = .handshake)
      (decoded : Frame.decode? m.server.cap conn.inbox = some (first, rest))
      (named : DeviceId.ofWire? first.payload = some h.device)
      (line : s'.registry.line h.conn = {})
      (after : conn' = { conn with inbox := rest, stage := .identified h .named })
      (bytes : m.bytesFrom c = []) (intake : m.intake? c = none)
  | refuse {first : Frame} {rest : Bytes} (stage : conn.stage = .handshake)
      (decoded : Frame.decode? m.server.cap conn.inbox = some (first, rest))
      (unnamed : DeviceId.ofWire? first.payload = none) (stage' : conn'.stage = .ended)
      (bytes : m.bytesFrom c = []) (intake : m.intake? c = none)
  | leave (stage : conn.stage = .handshake)
      (incomplete : Frame.decode? m.server.cap conn.inbox = none) (hungUp : conn.hungUp = true)
      (after : conn' = { conn with stage := .ended })
      (bytes : m.bytesFrom c = []) (intake : m.intake? c = none)
  | giveUp (stage : conn.stage = .handshake) (event : m.event = .expire c)
      (stage' : conn'.stage = .ended) (bytes : m.bytesFrom c = []) (intake : m.intake? c = none)
  | take {h : Handle} {f : Frame} {rest : Bytes} (stage : conn.stage = .identified h .waiting)
      (decoded : Frame.decode? m.server.cap conn.inbox = some (f, rest))
      (after : conn' = { conn with inbox := rest, stage := .identified h .ready })
      (bytes : m.bytesFrom c = []) (intake : m.intake? c = some (h, f))
  | part {h : Handle} (stage : conn.stage = .identified h .waiting)
      (why : m.server.lifecycle ≠ .running ∨ (m.server.registry.line h.conn).closing = true ∨
        conn.hungUp = true ∧ Frame.decode? m.server.cap conn.inbox = none)
      (after : conn' = { conn with stage := .identified h .leaving })
      (bytes : m.bytesFrom c = []) (intake : m.intake? c = none)
  | pass {h : Handle} {place place' : Place} (stage : conn.stage = .identified h place)
      (on : place'.isLeaving = true → place.isLeaving = true ∨ m.server.lifecycle ≠ .running)
      (stay : place' = .waiting → m.server.lifecycle = .running)
      (after : conn' = { conn with stage := .identified h place' })
      (bytes : m.bytesFrom c = []) (intake : m.intake? c = none)
  | finish {h : Handle} (stage : conn.stage = .identified h .parted)
      (stage' : conn'.stage = .ended) (inbox : conn'.inbox = conn.inbox)
      (hungUp : conn'.hungUp = conn.hungUp) (bytes : m.bytesFrom c = [])
      (intake : m.intake? c = none)

/-- A connection that another one's moment leaves alone. -/
theorem Hears.idle (bytes : m.bytesFrom c = []) (intake : m.intake? c = none) :
    Hears m s' c conn conn :=
  .still rfl (by rw [bytes, List.append_nil]) (fun hungUp => ⟨hungUp, bytes⟩) intake

/-- A connection that is over stays so, and takes nothing. -/
theorem Hears.of_ended (hears : Hears m s' c conn conn') (stage : conn.stage = .ended) :
    conn'.stage = .ended ∧ m.intake? c = none := by
  cases hears with
  | still same _ _ intake => exact ⟨same.trans stage, intake⟩
  | identify other => cases stage.symm.trans other
  | refuse other => cases stage.symm.trans other
  | leave other => cases stage.symm.trans other
  | giveUp other => cases stage.symm.trans other
  | take other => cases stage.symm.trans other
  | part other => cases stage.symm.trans other
  | pass other => cases stage.symm.trans other
  | finish other => cases stage.symm.trans other

/-- A connection that says who it is has a new line, and takes no frame for it. -/
theorem Hears.of_identified (hears : Hears m s' c conn conn') (stage : conn.stage = .handshake)
    (stage' : conn'.stage = .identified h place) :
    s'.registry.line h.conn = {} ∧ m.intake? c = none := by
  cases hears with
  | @identify h' first rest _ decoded named line after bytes intake =>
    have same : conn'.stage = .identified h' .named := by rw [after]
    cases stage'.symm.trans same
    exact ⟨line, intake⟩
  | still same => cases stage'.symm.trans (same.trans stage)
  | refuse _ _ _ ended => cases stage'.symm.trans ended
  | leave _ _ _ after =>
    rw [after] at stage'
    cases stage'
  | giveUp _ _ ended => cases stage'.symm.trans ended
  | take other => cases stage.symm.trans other
  | part other => cases stage.symm.trans other
  | pass other => cases stage.symm.trans other
  | finish other => cases stage.symm.trans other

/-- What becomes of all connections at a moment that is one connection's. -/
theorem hears_of_set {c₀ : ClientId} {conn₀ conn₀' : Connection}
    (connections : s'.connections = m.server.connections.set c₀ conn₀')
    (found₀ : m.server.connections[c₀]? = some conn₀) (own : Hears m s' c₀ conn₀ conn₀')
    (others : ∀ c, c ≠ c₀ → m.bytesFrom c = [] ∧ m.intake? c = none)
    (found : m.server.connections[c]? = some conn) :
    ∃ conn', s'.connections[c]? = some conn' ∧ Hears m s' c conn conn' := by
  by_cases same : c₀ = c
  · subst same
    cases found₀.symm.trans found
    refine ⟨conn₀', ?_, own⟩
    rw [connections, List.getElem?_set_self (List.getElem?_eq_some_iff.1 found).1]
  · refine ⟨conn, ?_, .idle (others c (Ne.symm same)).1 (others c (Ne.symm same)).2⟩
    rw [connections, List.getElem?_set_ne same, found]

theorem hears_of_same (connections : s'.connections = m.server.connections)
    (idle : m.bytesFrom c = [] ∧ m.intake? c = none)
    (found : m.server.connections[c]? = some conn) :
    ∃ conn', s'.connections[c]? = some conn' ∧ Hears m s' c conn conn' :=
  ⟨conn, connections ▸ found, .idle idle.1 idle.2⟩

theorem isLeaving_of_move? {place' : Place} {moved : Server}
    (moves : s.move? h place = some (place', moved)) (leaving : place'.isLeaving = true) :
    place.isLeaving = true ∨ s.lifecycle ≠ .running := by
  cases place with
  | ready =>
    right
    intro runs
    cases moves
    simp [runs, Place.isLeaving] at leaving
  | waiting => cases moves
  | parted => cases moves
  | leaving => exact .inl rfl
  | removed => exact .inl rfl
  | judged _ => exact .inl rfl
  | departed => exact .inl rfl
  | _ =>
    cases moves
    cases leaving

/-- A connection goes on to wait only while the server runs. -/
theorem running_of_move? {moved : Server} (moves : s.move? h place = some (.waiting, moved)) :
    s.lifecycle = .running := by
  cases place with
  | ready =>
    by_contra stops
    simp [move?, stops] at moves
  | waiting => cases moves
  | parted => cases moves
  | _ => cases moves

theorem Transition.hears (t : Transition s e s') (found : s.connections[c]? = some conn) :
    ∃ conn', s'.connections[c]? = some conn' ∧ Hears ⟨s, e⟩ s' c conn conn' := by
  cases t with
  | accept peer =>
    refine ⟨conn, ?_, .idle rfl rfl⟩
    change (s.connections ++ [({ peer } : Connection)])[c]? = _
    rw [List.getElem?_append_left (List.getElem?_eq_some_iff.1 found).1, found]
  | @arrive c₀ conn₀ bytes found₀ talks =>
    refine hears_of_set (m := ⟨s, .arrive c₀ bytes⟩) rfl found₀ ?_
      (fun c other => ⟨if_neg (Ne.symm other), rfl⟩) found
    refine .still rfl ?_ (fun hungUp => ?_) rfl
    · simp [Moment.bytesFrom]
    · simp [talks] at hungUp
  | @hangUp c₀ conn₀ found₀ =>
    refine hears_of_set (m := ⟨s, .hangUp c₀⟩) rfl found₀ ?_ (fun c _ => ⟨rfl, rfl⟩) found
    exact .still rfl (List.append_nil _).symm (fun _ => ⟨rfl, rfl⟩) rfl
  | @move c₀ conn₀ h place place' moved found₀ stage moves =>
    have connections : (moved.setConnection c₀ { conn₀ with
        stage := .identified h place' }).connections =
        s.connections.set c₀ { conn₀ with stage := .identified h place' } := by
      rw [setConnection, connections_of_move? moves]
    refine hears_of_set (m := ⟨s, .proceed c₀⟩) connections found₀ ?_ (fun c _ => ⟨rfl, rfl⟩) found
    exact .pass stage (isLeaving_of_move? moves)
      (fun stays => running_of_move? (stays ▸ moves)) rfl rfl rfl
  | @part c₀ conn₀ h found₀ stage =>
    refine hears_of_set (m := ⟨s, .proceed c₀⟩) rfl found₀ ?_ (fun c _ => ⟨rfl, rfl⟩) found
    exact .finish stage rfl rfl rfl rfl rfl
  | @identify c₀ conn₀ f inbox device found₀ stage decoded named =>
    refine hears_of_set (m := ⟨s, .read c₀⟩) rfl found₀ ?_
      (fun c other => ⟨rfl, intake?_read_of_ne other⟩) found
    refine .identify stage decoded named ?_ rfl rfl ?_
    · exact (Registry.line_connect s.registry device conn₀.peer _).trans (if_pos rfl)
    · rw [intake?_read_self, ready?_of_other found₀ (by simp [stage])]
  | @refuse c₀ conn₀ f inbox found₀ stage decoded unnamed =>
    refine hears_of_set (m := ⟨s, .read c₀⟩) rfl found₀ ?_
      (fun c other => ⟨rfl, intake?_read_of_ne other⟩) found
    refine .refuse stage decoded unnamed rfl rfl ?_
    rw [intake?_read_self, ready?_of_other found₀ (by simp [stage])]
  | @leave c₀ conn₀ found₀ stage incomplete hungUp =>
    refine hears_of_set (m := ⟨s, .read c₀⟩) rfl found₀ ?_
      (fun c other => ⟨rfl, intake?_read_of_ne other⟩) found
    refine .leave stage incomplete hungUp rfl rfl ?_
    rw [intake?_read_self, ready?_of_other found₀ (by simp [stage])]
  | @receive c₀ conn₀ h f inbox found₀ stage decoded =>
    have connections : ((s.deliver h f).setConnection c₀ { conn₀ with
        inbox, stage := .identified h .ready }).connections =
        s.connections.set c₀ { conn₀ with inbox, stage := .identified h .ready } := by
      rw [setConnection, connections_deliver]
    refine hears_of_set (m := ⟨s, .read c₀⟩) connections found₀ ?_
      (fun c other => ⟨rfl, intake?_read_of_ne other⟩) found
    refine .take stage decoded rfl rfl ?_
    rw [intake?_read_self, ready?_of_waiting found₀ stage, decoded]
    rfl
  | @noticeEnd c₀ conn₀ h found₀ stage incomplete hungUp =>
    refine hears_of_set (m := ⟨s, .read c₀⟩) rfl found₀ ?_
      (fun c other => ⟨rfl, intake?_read_of_ne other⟩) found
    refine .part stage (.inr (.inr ⟨hungUp, incomplete⟩)) rfl rfl ?_
    rw [intake?_read_self, ready?_of_waiting found₀ stage, incomplete]
    rfl
  | @giveUp c₀ conn₀ found₀ stage =>
    refine hears_of_set (m := ⟨s, .expire c₀⟩) rfl found₀ ?_ (fun c _ => ⟨rfl, rfl⟩) found
    exact .giveUp stage rfl rfl rfl rfl
  | @abort c₀ conn₀ h found₀ stage =>
    refine hears_of_set (m := ⟨s, .expire c₀⟩) rfl found₀ ?_ (fun c _ => ⟨rfl, rfl⟩) found
    exact .finish stage rfl rfl rfl rfl rfl
  | @noticeClose c₀ conn₀ h found₀ stage asked =>
    refine hears_of_set (m := ⟨s, .noticeClose c₀⟩) rfl found₀ ?_ (fun c _ => ⟨rfl, rfl⟩) found
    exact .part stage (.inr (.inl asked)) rfl rfl rfl
  | @noticeStop c₀ conn₀ h found₀ stage stops =>
    refine hears_of_set (m := ⟨s, .noticeStop c₀⟩) rfl found₀ ?_ (fun c _ => ⟨rfl, rfl⟩) found
    exact .part stage (.inl stops) rfl rfl rfl
  | @write c₀ conn₀ h found₀ handle waits =>
    refine hears_of_set (m := ⟨s, .write c₀⟩) rfl found₀ ?_ (fun c _ => ⟨rfl, rfl⟩) found
    exact .still rfl (List.append_nil _).symm (fun hungUp => ⟨hungUp, rfl⟩) rfl
  | failWrite => exact hears_of_same rfl ⟨rfl, rfl⟩ found
  | operate op => exact hears_of_same rfl ⟨rfl, rfl⟩ found
  | exchange source => exact hears_of_same rfl ⟨rfl, rfl⟩ found
  | signalStop => exact hears_of_same rfl ⟨rfl, rfl⟩ found
  | unbind => exact hears_of_same rfl ⟨rfl, rfl⟩ found
  | finishStop => exact hears_of_same rfl ⟨rfl, rfl⟩ found

/-- A connection that was not there comes at most as one that has heard nothing and got nothing. -/
theorem Transition.comes (t : Transition s e s') (missing : s.connections[c]? = none) :
    (∀ conn', s'.connections[c]? = some conn' →
        conn'.stage = .handshake ∧ conn'.inbox = [] ∧ conn'.sent = []) ∧
      Moment.bytesFrom ⟨s, e⟩ c = [] ∧ Moment.intake? ⟨s, e⟩ c = none := by
  have intake : Moment.intake? ⟨s, e⟩ c = none := by
    cases e with
    | read c' =>
      by_cases same : c' = c
      · subst same
        rw [intake?_read_self, ready?, missing]
        rfl
      · exact intake?_read_of_ne (Ne.symm same)
    | _ => rfl
  have turn : Turn (fun _ _ => []) ⟨s, e⟩ s' := t.turn
  cases turn with
  | accept peer _ connections _ idle =>
    refine ⟨fun conn' found => ?_, (idle c).2, intake⟩
    rw [connections, List.getElem?_append_right (List.getElem?_eq_none_iff.1 missing),
      List.getElem?_singleton] at found
    split at found
    · cases found
      exact ⟨rfl, rfl, rfl⟩
    · cases found
  | nothing connections _ idle =>
    refine ⟨fun conn' found => ?_, (idle c).2, intake⟩
    rw [connections, missing] at found
    cases found
  | @act c' conn₁ conn₂ found₁ connections how _ idle =>
    have other : c ≠ c' := by
      rintro rfl
      rw [missing] at found₁
      cases found₁
    refine ⟨fun conn' found => ?_, (idle c other).2, intake⟩
    rw [connections, List.getElem?_set_ne (Ne.symm other), missing] at found
    cases found

/-! ## What a connection has heard -/

/-- The server is to blame if a connection takes no more frames: it stops, or somebody asked the
connection to close. -/
def Dismissed (acts : Request → Registry → List Operation) (story : List Moment) (s : Server)
    (h : Handle) : Prop := s.lifecycle ≠ .running ∨ h.conn ∈ asked acts story

/-- Why a connection ended that never said who it is. -/
inductive Unknown (cap : Nat) (story : List Moment) (c : ClientId) (conn : Connection) : Prop
  | unnamed {first : Frame} {rest : Bytes}
      (decoded : Frame.decode? cap (bytesFrom story c) = some (first, rest))
      (unnamed : DeviceId.ofWire? first.payload = none)
  | left (hungUp : conn.hungUp = true) (incomplete : Frame.decode? cap (bytesFrom story c) = none)
  | late {m : Moment} (member : m ∈ story) (event : m.event = .expire c)

/-- Why a connection takes no more frames. -/
def Over (acts : Request → Registry → List Operation) (cap : Nat) (story : List Moment) (s : Server)
    (h : Handle) (conn : Connection) : Prop :=
  Dismissed acts story s h ∨ conn.hungUp = true ∧ Frame.decode? cap conn.inbox = none

/-- What a connection has heard in a story, by the stage that it has come to. -/
inductive Heard (acts : Request → Registry → List Operation) (cap : Nat) (story : List Moment)
    (s : Server) (c : ClientId) (conn : Connection) : Prop
  | unknown (stage : conn.stage = .handshake) (inbox : conn.inbox = bytesFrom story c)
      (frames : framesFrom story c = [])
  | known {h : Handle} {place : Place} {first : Frame} (stage : conn.stage = .identified h place)
      (named : DeviceId.ofWire? first.payload = some h.device)
      (taken : Frame.Taken cap (bytesFrom story c) (first :: framesFrom story c) conn.inbox)
      (ending : place.isLeaving = true → Over acts cap story s h conn)
      (closing : (s.registry.line h.conn).closing = true → h.conn ∈ asked acts story)
  | refused (stage : conn.stage = .ended) (nameless : ∀ h, .identified h ∉ life story c)
      (frames : framesFrom story c = []) (why : Unknown cap story c conn)
  | closed {h : Handle} {first : Frame} (stage : conn.stage = .ended)
      (lived : .identified h ∈ life story c)
      (named : DeviceId.ofWire? first.payload = some h.device)
      (taken : Frame.Taken cap (bytesFrom story c) (first :: framesFrom story c) conn.inbox)
      (ending : Over acts cap story s h conn)

theorem asked_concat (story : List Moment) (m : Moment) : asked acts (story ++ [m]) =
    asked acts story ++
      gather (fun r op => op.asks r.policy r.entries) m.server.registry (m.operations acts) := by
  simp [asked]

/-- A signal to close is old, or somebody gave it. -/
theorem closing_of_after {r : Registry} {ops : List Operation} {n : ConnId}
    (closing : ((r.after ops).line n).closing = true) :
    (r.line n).closing = true ∨ n ∈ gather (fun r op => op.asks r.policy r.entries) r ops := by
  induction ops generalizing r with
  | nil => exact .inl closing
  | cons op ops ih =>
    rcases ih closing with first | later
    · rcases (Registry.closing_perform r op n).1 first with ⟨old, _⟩ | asks
      · exact .inl old
      · exact .inr (List.mem_append_left _ asks)
    · exact .inr (List.mem_append_right _ later)

theorem Dismissed.snoc (dismissed : Dismissed acts story m.server h)
    (stays : m.server.lifecycle ≠ .running → s'.lifecycle ≠ .running) :
    Dismissed acts (story ++ [m]) s' h := by
  rcases dismissed with stops | asks
  · exact .inl (stays stops)
  · right
    rw [asked_concat]
    exact List.mem_append_left _ asks

theorem Over.snoc {cap : Nat} (ending : Over acts cap story m.server h conn)
    (stays : m.server.lifecycle ≠ .running → s'.lifecycle ≠ .running)
    (hungUp : conn.hungUp = true → conn'.hungUp = true ∧ conn'.inbox = conn.inbox) :
    Over acts cap (story ++ [m]) s' h conn' := by
  rcases ending with dismissed | ⟨silent, nothing⟩
  · exact .inl (dismissed.snoc stays)
  · obtain ⟨silent', same⟩ := hungUp silent
    exact .inr ⟨silent', by rwa [same]⟩

theorem Unknown.snoc {cap : Nat} (why : Unknown cap story c conn)
    (silent : conn.hungUp = true → conn'.hungUp = true ∧ m.bytesFrom c = []) :
    Unknown cap (story ++ [m]) c conn' := by
  cases why with
  | unnamed decoded nobody =>
    have longer := Frame.decode?_append (m.bytesFrom c) decoded
    rw [← bytesFrom_concat] at longer
    exact .unnamed longer nobody
  | left hungUp incomplete =>
    obtain ⟨hungUp', nothing⟩ := silent hungUp
    refine .left hungUp' ?_
    rwa [bytesFrom_concat, nothing, List.append_nil]
  | late member event => exact .late (List.mem_append_left _ member) event

/-! ## One moment more -/

section

variable {cap : Nat}

theorem Heard.handshake (heard : Heard acts cap story s c conn) (stage : conn.stage = .handshake) :
    conn.inbox = bytesFrom story c ∧ framesFrom story c = [] := by
  cases heard with
  | unknown _ inbox frames => exact ⟨inbox, frames⟩
  | known other => simp [stage] at other
  | refused other => simp [stage] at other
  | closed other => simp [stage] at other

theorem Heard.identified (heard : Heard acts cap story s c conn)
    (stage : conn.stage = .identified h place) :
    ∃ first, DeviceId.ofWire? first.payload = some h.device ∧
      Frame.Taken cap (bytesFrom story c) (first :: framesFrom story c) conn.inbox ∧
      (place.isLeaving = true → Over acts cap story s h conn) ∧
      ((s.registry.line h.conn).closing = true → h.conn ∈ asked acts story) := by
  cases heard with
  | known stage' named taken ending closing =>
    cases stage.symm.trans stage'
    exact ⟨_, named, taken, ending, closing⟩
  | unknown other => simp [stage] at other
  | refused other => simp [stage] at other
  | closed other => simp [stage] at other

/-- A connection that does not say who it is stays unknown. -/
theorem nameless_snoc (nameless : ∀ h, .identified h ∉ life story c) (turn : Turn acts m s')
    (found' : s'.connections[c]? = some conn') (ended : conn'.stage = .ended) (h : Handle) :
    .identified h ∉ life (story ++ [m]) c := by
  intro known
  rcases List.mem_append.1 (life_concat story m c ▸ known) with old | new
  · exact nameless h old
  · cases ended.symm.trans ((turn.introduces new).known conn' found')

/-- A connection that stays where it is, while bytes may come. -/
theorem Heard.still (heard : Heard acts cap story m.server c conn) (turn : Turn acts m s')
    (found' : s'.connections[c]? = some conn')
    (registry : s'.registry = m.server.registry.after (m.operations acts))
    (stays : m.server.lifecycle ≠ .running → s'.lifecycle ≠ .running)
    (stage : conn'.stage = conn.stage) (inbox : conn'.inbox = conn.inbox ++ m.bytesFrom c)
    (silent : conn.hungUp = true → conn'.hungUp = true ∧ m.bytesFrom c = [])
    (intake : m.intake? c = none) : Heard acts cap (story ++ [m]) s' c conn' := by
  have frames : framesFrom (story ++ [m]) c = framesFrom story c := by
    rw [framesFrom_concat, intake]
    exact List.append_nil _
  have hungUp : conn.hungUp = true → conn'.hungUp = true ∧ conn'.inbox = conn.inbox := by
    intro before
    obtain ⟨after, nothing⟩ := silent before
    exact ⟨after, by rw [inbox, nothing, List.append_nil]⟩
  cases heard with
  | unknown stage₀ inbox₀ frames₀ =>
    refine .unknown (stage.trans stage₀) ?_ (frames.trans frames₀)
    rw [inbox, inbox₀, bytesFrom_concat]
  | known stage₀ named taken ending closing =>
    refine .known (stage.trans stage₀) named ?_ (fun leaving => (ending leaving).snoc stays hungUp) ?_
    · rw [bytesFrom_concat, frames, inbox]
      exact taken.arrive _
    · intro closes
      rw [asked_concat]
      rw [registry] at closes
      rcases closing_of_after closes with old | new
      · exact List.mem_append_left _ (closing old)
      · exact List.mem_append_right _ new
  | refused stage₀ nameless frames₀ why =>
    have ended := stage.trans stage₀
    exact .refused ended (nameless_snoc nameless turn found' ended) (frames.trans frames₀)
      (why.snoc silent)
  | closed stage₀ lived named taken ending =>
    refine .closed (stage.trans stage₀) ?_ named ?_ (ending.snoc stays hungUp)
    · rw [life_concat]
      exact List.mem_append_left _ lived
    · rw [bytesFrom_concat, frames, inbox]
      exact taken.arrive _

theorem Heard.snoc (heard : Heard acts cap story m.server c conn) (lived : Lived story m.server)
    (setup : m.server.cap = cap) (found : m.server.connections[c]? = some conn)
    (found' : s'.connections[c]? = some conn') (turn : Turn acts m s')
    (registry : s'.registry = m.server.registry.after (m.operations acts))
    (stays : m.server.lifecycle ≠ .running → s'.lifecycle ≠ .running)
    (hears : Hears m s' c conn conn') : Heard acts cap (story ++ [m]) s' c conn' := by
  have closing' : ∀ h : Handle,
      ((m.server.registry.line h.conn).closing = true → h.conn ∈ asked acts story) →
      (s'.registry.line h.conn).closing = true → h.conn ∈ asked acts (story ++ [m]) := by
    intro h closing closes
    rw [asked_concat]
    rw [registry] at closes
    rcases closing_of_after closes with old | new
    · exact List.mem_append_left _ (closing old)
    · exact List.mem_append_right _ new
  have bytes' : m.bytesFrom c = [] → bytesFrom (story ++ [m]) c = bytesFrom story c := by
    intro nothing
    rw [bytesFrom_concat, nothing, List.append_nil]
  have frames' : m.intake? c = none → framesFrom (story ++ [m]) c = framesFrom story c := by
    intro nothing
    rw [framesFrom_concat, nothing]
    exact List.append_nil _
  have nameless : conn.stage = .handshake → conn'.stage = .ended →
      ∀ h, .identified h ∉ life (story ++ [m]) c := by
    intro stage
    refine nameless_snoc (fun h known => ?_) turn found'
    rw [lived.handshake found stage] at known
    cases known
  cases hears with
  | still stage inbox silent intake =>
    exact heard.still turn found' registry stays stage inbox silent intake
  | @identify h first rest stage decoded named line after bytes intake =>
    subst after
    obtain ⟨inbox, frames⟩ := heard.handshake stage
    refine .known rfl named ?_ nofun ?_
    · rw [bytes' bytes, frames' intake, frames, ← inbox]
      rw [setup] at decoded
      exact (Frame.taken_nil cap conn.inbox).take decoded
    · intro closes
      rw [line] at closes
      cases closes
  | refuse stage decoded unnamed stage' bytes intake =>
    obtain ⟨inbox, frames⟩ := heard.handshake stage
    rw [setup, inbox, ← bytes' bytes] at decoded
    exact .refused stage' (nameless stage stage') ((frames' intake).trans frames)
      (.unnamed decoded unnamed)
  | leave stage incomplete hungUp after bytes intake =>
    subst after
    obtain ⟨inbox, frames⟩ := heard.handshake stage
    refine .refused rfl (nameless stage rfl) ((frames' intake).trans frames) (.left hungUp ?_)
    rw [bytes' bytes, ← inbox, ← setup]
    exact incomplete
  | giveUp stage event stage' bytes intake =>
    obtain ⟨inbox, frames⟩ := heard.handshake stage
    exact .refused stage' (nameless stage stage') ((frames' intake).trans frames)
      (.late (by simp) event)
  | @take h f rest stage decoded after bytes intake =>
    subst after
    obtain ⟨first, named, taken, _, closing⟩ := heard.identified stage
    refine .known rfl named ?_ nofun (closing' h closing)
    rw [setup] at decoded
    rw [bytes' bytes, framesFrom_concat, intake]
    exact taken.take decoded
  | @part h stage why after bytes intake =>
    subst after
    obtain ⟨first, named, taken, _, closing⟩ := heard.identified stage
    refine .known rfl named ?_ (fun _ => ?_) (closing' h closing)
    · rw [bytes' bytes, frames' intake]
      exact taken
    · rcases why with stops | closes | ⟨hungUp, nothing⟩
      · exact .inl (.inl (stays stops))
      · left
        right
        rw [asked_concat]
        exact List.mem_append_left _ (closing closes)
      · exact .inr ⟨hungUp, setup ▸ nothing⟩
  | @pass h place place' stage on _ after bytes intake =>
    subst after
    obtain ⟨first, named, taken, ending, closing⟩ := heard.identified stage
    refine .known rfl named ?_ (fun leaving => ?_) (closing' h closing)
    · rw [bytes' bytes, frames' intake]
      exact taken
    · rcases on leaving with before | stops
      · exact (ending before).snoc stays fun hungUp => ⟨hungUp, rfl⟩
      · exact .inl (.inl (stays stops))
  | @finish h stage stage' inbox hungUp bytes intake =>
    obtain ⟨first, named, taken, ending, _⟩ := heard.identified stage
    refine .closed stage' ?_ named ?_ ((ending rfl).snoc stays fun before => ?_)
    · rw [life_concat]
      exact List.mem_append_left _ (lived.identified found stage)
    · rw [bytes' bytes, frames' intake, inbox]
      exact taken
    · exact ⟨hungUp.trans before, inbox⟩

end

end DeviceLink.Server
