-- The lines of a registry. Each connection has its own, and an operation reaches a line in few
-- ways: it puts frames at the end of the queue, empties the queue, takes the writer away, asks
-- the connection to close, or notices that it was asked.
import DeviceLink.Proofs.Frame.RoundTrip
import DeviceLink.Proofs.Registry.Entries

namespace DeviceLink.Registry

variable (r : Registry)

/-! ## One line -/

theorem lookup_setLine (conn c : ConnId) (l : Line) (ls : List (ConnId × Line)) :
    (setLine conn l ls).lookup c = if c = conn then some l else ls.lookup c := by
  induction ls with
  | nil =>
    by_cases same : c = conn
    · simp [setLine, same]
    · simp [setLine, List.lookup_cons, beq_eq_false_iff_ne.2 same, same]
  | cons x ls ih =>
    obtain ⟨c', l'⟩ := x
    unfold setLine
    by_cases here : c' = conn
    · subst here
      by_cases same : c = c'
      · simp [same]
      · simp [List.lookup_cons, beq_eq_false_iff_ne.2 same, same]
    · by_cases same : c = c'
      · subst same
        simp [here]
      · simp [here, List.lookup_cons, beq_eq_false_iff_ne.2 same, ih]

/-- A change of a line leaves all other lines alone. -/
theorem line_updateLine (conn c : ConnId) (change : Line → Line) :
    (r.updateLine conn change).line c = if c = conn then change (r.line conn) else r.line c := by
  unfold updateLine
  rw [line, lookup_setLine]
  by_cases same : c = conn
  · simp [same]
  · simp [same, line]

theorem line_closeEach (hs : List Handle) (c : ConnId) :
    (r.closeEach hs).line c =
      { r.line c with closing := (r.line c).closing || hs.any (·.conn == c) } := by
  unfold closeEach
  induction hs generalizing r with
  | nil => simp
  | cons h hs ih =>
    rw [List.foldl_cons, ih, close, line_updateLine]
    by_cases same : c = h.conn
    · simp [same]
    · simp [same, beq_eq_false_iff_ne.2 (Ne.symm same)]

/-! ## Frames at the ends of queues -/

/-- A registry became another one as a frame was put at the ends of queues, once for each time that
a connection is listed. -/
structure Queues (r : Registry) (bs : Bytes) (conns : List ConnId) (r' : Registry) : Prop where
  rest : SameButLines r r'
  line : ∀ c, r'.line c =
    { r.line c with queue := (r.line c).queue ++ List.replicate (conns.count c) bs }

theorem queues_nil (bs : Bytes) : Queues r bs [] r where
  rest := ⟨rfl, rfl, rfl⟩
  line c := by simp

section

variable {r} {r₁ r₂ : Registry} {bs : Bytes} {conns conns' : List ConnId}

theorem Queues.append (first : Queues r bs conns r₁) (second : Queues r₁ bs conns' r₂) :
    Queues r bs (conns ++ conns') r₂ where
  rest := first.rest.trans second.rest
  line c := by
    rw [second.line, first.line, List.count_append, ← List.replicate_append_replicate,
      List.append_assoc]

theorem Queues.isOpen_eq (queues : Queues r bs conns r₁) (c : ConnId) :
    r₁.isOpen c = r.isOpen c := by
  unfold isOpen
  rw [queues.line]

end

theorem le_of_encode {typ : UInt8} {payload bs : Bytes}
    (encodes : Frame.encode typ payload = .ok bs) :
    payload.length ≤ 65535 := by
  refine Nat.le_of_not_lt fun long => ?_
  rw [(Frame.encode_eq_error_iff typ payload).2 long] at encodes
  cases encodes

/-- A handle's send queues its frame if there can be one and somebody is there to write it;
otherwise nothing happens. -/
theorem sendFrame_cases (conn : ConnId) (typ : UInt8) (payload : Bytes) :
    (payload.length ≤ 65535 ∧ r.isOpen conn = true ∧ (r.sendFrame conn typ payload).1 = true ∧
        ∃ bs, Frame.encode typ payload = .ok bs ∧
          Queues r bs [conn] (r.sendFrame conn typ payload).2) ∨
      (¬ (payload.length ≤ 65535 ∧ r.isOpen conn = true) ∧
        r.sendFrame conn typ payload = (false, r)) := by
  unfold sendFrame
  by_cases fits : payload.length ≤ 65535
  · rw [Frame.encode_of_le typ fits]
    by_cases there : r.isOpen conn = true
    · refine .inl ⟨fits, there, ?_⟩
      simp only [there, if_true]
      refine ⟨trivial, _, rfl, sameButLines_updateLine r conn _, fun c => ?_⟩
      rw [line_updateLine]
      by_cases same : c = conn
      · simp [same]
      · simp [same, List.count_cons, beq_eq_false_iff_ne.2 (Ne.symm same)]
    · exact .inr ⟨fun both => there both.2, if_neg there⟩
  · rw [(Frame.encode_eq_error_iff typ payload).2 (Nat.lt_of_not_le fits)]
    exact .inr ⟨fun both => fits both.1, rfl⟩

theorem sendEach_of_long {payload : Bytes} (long : 65535 < payload.length) (hs : List Handle) :
    sendEach payload hs r = (0, r) := by
  induction hs with
  | nil => rfl
  | cons h hs ih =>
    rcases sendFrame_cases r h.conn MessageType.socket.code payload with ⟨fits, _⟩ | ⟨_, refused⟩
    · omega
    · simp only [sendEach, send, refused, ih]
      rfl

/-- Of some entries those whose writers are there. -/
def present (hs : List Handle) : List Handle := hs.filter fun h => r.isOpen h.conn

/-- Sending to each of some entries reaches those whose writers are there, once for each entry. -/
theorem sendEach_of_encode {payload bs : Bytes}
    (encodes : Frame.encode MessageType.socket.code payload = .ok bs) (hs : List Handle) :
    (sendEach payload hs r).1 = (r.present hs).length ∧
      Queues r bs ((r.present hs).map (·.conn)) (sendEach payload hs r).2 := by
  induction hs generalizing r with
  | nil => exact ⟨rfl, queues_nil r bs⟩
  | cons h hs ih =>
    unfold sendEach send
    dsimp only
    obtain ⟨counted, others⟩ := ih (r.sendFrame h.conn MessageType.socket.code payload).2
    rcases sendFrame_cases r h.conn MessageType.socket.code payload with
      ⟨_, there, sent, bs', encodes', queues⟩ | ⟨impossible, refused⟩
    · rw [encodes] at encodes'
      cases encodes'
      have same : ∀ hs, (r.sendFrame h.conn MessageType.socket.code payload).2.present hs =
          r.present hs := fun hs => by simp only [present, queues.isOpen_eq]
      rw [same] at counted others
      have here : r.present (h :: hs) = h :: r.present hs := List.filter_cons_of_pos there
      rw [here, counted, sent]
      exact ⟨rfl, queues.append others⟩
    · have fits := le_of_encode encodes
      have here : r.present (h :: hs) = r.present hs :=
        List.filter_cons_of_neg fun there => impossible ⟨fits, there⟩
      rw [refused] at counted others ⊢
      rw [here, counted]
      exact ⟨rfl, others⟩

/-! ## Sends leave all but queues alone -/

/-- Two registries differ at most in what waits on their lines. -/
structure SameButQueues (r r' : Registry) : Prop where
  rest : SameButLines r r'
  line : ∀ c, ∃ queue, r'.line c = { r.line c with queue }

theorem sameButQueues_refl : SameButQueues r r where
  rest := ⟨rfl, rfl, rfl⟩
  line c := ⟨(r.line c).queue, rfl⟩

variable {r} in
theorem Queues.sameButQueues {r' : Registry} {bs : Bytes} {conns : List ConnId}
    (queues : Queues r bs conns r') : SameButQueues r r' where
  rest := queues.rest
  line c := ⟨_, queues.line c⟩

theorem sameButQueues_sendFrame (conn : ConnId) (typ : UInt8) (payload : Bytes) :
    SameButQueues r (r.sendFrame conn typ payload).2 := by
  rcases sendFrame_cases r conn typ payload with ⟨_, _, _, bs, _, queues⟩ | ⟨_, refused⟩
  · exact queues.sameButQueues
  · rw [refused]
    exact sameButQueues_refl r

theorem sameButQueues_sendToDevice (id : String) (typ : UInt8) (payload : Bytes) :
    SameButQueues r (r.sendToDevice id typ payload).2 := by
  unfold sendToDevice
  cases r.find? id with
  | none => exact sameButQueues_refl r
  | some h => exact sameButQueues_sendFrame r h.conn typ payload

theorem sameButQueues_broadcast (sender : String) (payload : Bytes) :
    SameButQueues r (r.broadcast sender payload).2 := by
  unfold broadcast
  by_cases fits : payload.length ≤ 65535
  · exact (sendEach_of_encode r (Frame.encode_of_le _ fits) _).2.sameButQueues
  · rw [sendEach_of_long r (Nat.lt_of_not_le fits)]
    exact sameButQueues_refl r

section

variable {r} {r' : Registry}

theorem SameButQueues.isOpen_eq (same : SameButQueues r r') (c : ConnId) :
    r'.isOpen c = r.isOpen c := by
  obtain ⟨queue, line⟩ := same.line c
  unfold isOpen
  rw [line]

theorem SameButQueues.closing_eq (same : SameButQueues r r') (c : ConnId) :
    (r'.line c).closing = (r.line c).closing := by
  obtain ⟨queue, line⟩ := same.line c
  rw [line]

end

/-! ## What other operations do to a line -/

/-- The connections that an operation asks to close. -/
def Operation.asks (policy : DuplicatePolicy) (entries : List Handle) : Operation → List ConnId
  | .register h =>
    match policy with
    | .allow => []
    | .replace => (entries.filter (·.device == h.device)).map (·.conn)
  | .closeAll => entries.map (·.conn)
  | .close conn => [conn]
  | _ => []

theorem line_connect (device : DeviceId) (peer : Option Network.Endpoint) (c : ConnId) :
    (r.connect device peer).2.line c = if c = r.nextConn then {} else r.line c := by
  show ((setLine r.nextConn {} r.lines).lookup c).getD .gone = _
  rw [lookup_setLine]
  by_cases new : c = r.nextConn
  · simp [new]
  · simp [new, line]

theorem line_close (conn c : ConnId) : (r.close conn).line c =
    { r.line c with closing := (r.line c).closing || c == conn } := by
  rw [close, line_updateLine]
  by_cases same : c = conn
  · simp [same]
  · simp [same, beq_eq_false_iff_ne.2 same]

theorem line_noticeClose (conn c : ConnId) : (r.noticeClose conn).2.line c =
    { r.line c with closing := (r.line c).closing && c != conn } := by
  refine (line_updateLine r conn c _).trans ?_
  by_cases same : c = conn
  · simp [same]
  · simp [same, bne_iff_ne.2 same]

theorem line_drain (conn c : ConnId) : (r.drain conn).2.line c =
    { r.line c with queue := if c = conn then [] else (r.line c).queue } := by
  refine (line_updateLine r conn c _).trans ?_
  by_cases same : c = conn
  · simp [same]
  · simp [same]

theorem line_dropWriter (conn c : ConnId) : (r.dropWriter conn).line c =
    { r.line c with
      queue := if c = conn then [] else (r.line c).queue
      writer := (r.line c).writer && c != conn } := by
  refine (line_updateLine r conn c _).trans ?_
  by_cases same : c = conn
  · simp [same]
  · simp [same, bne_iff_ne.2 same]

theorem any_conn_eq (hs : List Handle) (c : ConnId) :
    hs.any (·.conn == c) = (hs.map (·.conn)).contains c := by
  rw [List.contains_eq_any_beq, List.any_map]
  exact congrArg hs.any (funext fun h => BEq.comm)

theorem line_register (h : Handle) (c : ConnId) :
    (r.register h).2.line c = { r.line c with closing := (r.line c).closing ||
      ((Operation.register h).asks r.policy r.entries).contains c } := by
  match policy_eq : r.policy with
  | .allow =>
    rw [register_of_allow h policy_eq]
    simp [Operation.asks, line]
  | .replace =>
    rw [register_of_replace h policy_eq, line_closeEach, any_conn_eq]
    rfl

theorem line_closeAll (c : ConnId) : r.closeAll.2.line c =
    { r.line c with closing := (r.line c).closing || (r.entries.map (·.conn)).contains c } := by
  rw [← any_conn_eq]
  exact line_closeEach _ _ c

/-! ## Writers -/

/-- Whether a connection has a writer after an operation. -/
def Operation.onWriter (next c : ConnId) (there : Bool) : Operation → Bool
  | .connect _ _ => there || c == next
  | .dropWriter conn => there && c != conn
  | _ => there

/-- A connection has a writer from when it gets its number until the writer goes away. -/
theorem isOpen_perform (op : Operation) (c : ConnId) :
    (r.perform op).2.isOpen c = op.onWriter r.nextConn c (r.isOpen c) := by
  cases op with
  | connect device peer =>
    show ((r.connect device peer).2.line c).writer = _
    rw [line_connect]
    by_cases new : c = r.nextConn
    · simp [Operation.onWriter, new]
    · simp [Operation.onWriter, new, isOpen]
  | register h =>
    show ((r.register h).2.line c).writer = _
    rw [line_register]
    rfl
  | sendFrame conn typ payload => exact (sameButQueues_sendFrame r conn typ payload).isOpen_eq c
  | sendToDevice id typ payload => exact (sameButQueues_sendToDevice r id typ payload).isOpen_eq c
  | broadcast sender payload => exact (sameButQueues_broadcast r sender payload).isOpen_eq c
  | closeAll =>
    show (r.closeAll.2.line c).writer = _
    rw [line_closeAll]
    rfl
  | close conn =>
    show ((r.close conn).line c).writer = _
    rw [line_close]
    rfl
  | noticeClose conn =>
    show ((r.noticeClose conn).2.line c).writer = _
    rw [line_noticeClose]
    rfl
  | drain conn =>
    show ((r.drain conn).2.line c).writer = _
    rw [line_drain]
    rfl
  | dropWriter conn =>
    show ((r.dropWriter conn).line c).writer = _
    rw [line_dropWriter]
    rfl
  | _ => rfl

end DeviceLink.Registry
