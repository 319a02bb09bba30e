-- Delivery of pushes. A push that is accepted is on the queue of the one connection that it is for,
-- once; a push that is refused is nowhere. So what the writer of a connection is given is what was
-- accepted for the connection, in that order.
import DeviceLink.Proofs.Registry.Lines
import DeviceLink.Proofs.Registry.Survivors

namespace DeviceLink.Registry

/-! ## What one push does -/

/-- A push to one connection, if there is one that it is for: it is accepted exactly if its frame
was queued there, once, and nowhere else, and exactly if the payload fits and the writer is there.
One that is refused changes nothing. -/
structure Pushes (r : Registry) (goal : ConnId → Prop) (typ : UInt8) (payload : Bytes)
    (result : Bool × Registry) : Prop where
  accepted_iff_queued : result.1 = true ↔ ∃ conn bs, goal conn ∧
    Frame.encode typ payload = .ok bs ∧ Queues r bs [conn] result.2
  accepted_iff_possible : result.1 = true ↔
    ∃ conn, goal conn ∧ payload.length ≤ 65535 ∧ r.isOpen conn = true
  unchanged_of_refused : result.1 = false → result.2 = r

/-- The entries that a broadcast reaches: the admin consoles whose writers are there, if the sender
is no admin console and the payload fits. -/
def reached (r : Registry) (sender : String) (payload : Bytes) : List Handle :=
  if sender ≠ DeviceId.adminConsole.text ∧ payload.length ≤ 65535 then
    r.entries.filter fun h => isFor DeviceId.adminConsole.text h && r.isOpen h.conn
  else []

/-- A push to all admin consoles but the sender: its frame was queued once for each entry that it
reaches, and these are counted. -/
structure Broadcasts (r : Registry) (sender : String) (payload : Bytes)
    (result : Nat × Registry) : Prop where
  count : result.1 = (r.reached sender payload).length
  queued : ∀ bs, Frame.encode MessageType.socket.code payload = .ok bs →
    Queues r bs ((r.reached sender payload).map (·.conn)) result.2
  unchanged_of_long : 65535 < payload.length → result.2 = r

variable (r : Registry)

theorem not_queues_self (bs : Bytes) (conn : ConnId) : ¬ Queues r bs [conn] r := by
  intro queues
  have line := congrArg (fun l => l.queue.length) (queues.line conn)
  simp at line

theorem pushes_none {goal : ConnId → Prop} (nobody : ∀ conn, ¬ goal conn) (typ : UInt8)
    (payload : Bytes) : Pushes r goal typ payload (false, r) where
  accepted_iff_queued := iff_of_false nofun fun ⟨conn, _, isGoal, _⟩ => nobody conn isGoal
  accepted_iff_possible := iff_of_false nofun fun ⟨conn, isGoal, _⟩ => nobody conn isGoal
  unchanged_of_refused _ := rfl

theorem pushes_sendFrame {goal : ConnId → Prop} {conn : ConnId} (isGoal : ∀ c, goal c ↔ c = conn)
    (typ : UInt8) (payload : Bytes) : Pushes r goal typ payload (r.sendFrame conn typ payload) := by
  rcases sendFrame_cases r conn typ payload with ⟨fits, there, sent, bs, encodes, queues⟩ |
    ⟨impossible, refused⟩
  · refine ⟨iff_of_true sent ⟨conn, bs, (isGoal conn).2 rfl, encodes, queues⟩,
      iff_of_true sent ⟨conn, (isGoal conn).2 rfl, fits, there⟩, fun refused => ?_⟩
    rw [sent] at refused
    cases refused
  · rw [refused]
    refine ⟨iff_of_false nofun ?_, iff_of_false nofun ?_, fun _ => rfl⟩
    · rintro ⟨c, bs, _, _, queues⟩
      exact not_queues_self r bs c queues
    · rintro ⟨c, same, possible⟩
      rw [(isGoal c).1 same] at possible
      exact impossible possible

theorem pushes_sendToDevice {goal : ConnId → Prop} {id : String}
    (isGoal : ∀ c, goal c ↔ ∃ h, r.find? id = some h ∧ h.conn = c) (typ : UInt8)
    (payload : Bytes) : Pushes r goal typ payload (r.sendToDevice id typ payload) := by
  unfold sendToDevice
  cases found : r.find? id with
  | none =>
    refine pushes_none r (fun conn isIt => ?_) typ payload
    obtain ⟨h, here, _⟩ := (isGoal conn).1 isIt
    rw [found] at here
    cases here
  | some h =>
    refine pushes_sendFrame r (fun c => (isGoal c).trans ?_) typ payload
    rw [found]
    constructor
    · rintro ⟨h, here, rfl⟩
      cases here
      rfl
    · rintro rfl
      exact ⟨h, rfl, rfl⟩

theorem present_audience (sender : String) {payload : Bytes} (fits : payload.length ≤ 65535) :
    r.present (r.audience sender) = r.reached sender payload := by
  unfold present audience reached
  rw [List.filter_filter]
  by_cases self : sender = DeviceId.adminConsole.text
  · rw [if_neg fun both => both.1 self, List.filter_eq_nil_iff]
    intro h _ both
    simp only [self, isFor, DeviceId.isAdminConsole, Bool.and_eq_true, Bool.not_eq_true'] at both
    rw [both.2.2] at both
    exact Bool.noConfusion both.2.1
  · rw [if_pos ⟨self, fits⟩]
    refine List.filter_congr fun h _ => ?_
    by_cases admin : isFor DeviceId.adminConsole.text h = true
    · have other : isFor sender h = false := by
        unfold isFor at admin ⊢
        rw [beq_iff_eq.1 admin]
        exact beq_eq_false_iff_ne.2 (Ne.symm self)
      have console : h.device.isAdminConsole = true := admin
      simp only [admin, other, console, Bool.not_false, Bool.and_true, Bool.true_and]
    · have console : h.device.isAdminConsole = false := Bool.eq_false_iff.2 admin
      simp only [admin, console, Bool.and_false, Bool.false_and]

theorem broadcasts_broadcast (sender : String) (payload : Bytes) :
    Broadcasts r sender payload (r.broadcast sender payload) := by
  unfold broadcast
  by_cases fits : payload.length ≤ 65535
  · have encodes := Frame.encode_of_le MessageType.socket.code fits
    obtain ⟨counted, queues⟩ := sendEach_of_encode r encodes (r.audience sender)
    rw [present_audience r sender fits] at counted queues
    refine ⟨counted, fun bs encodes' => ?_, fun long => absurd fits (Nat.not_le_of_lt long)⟩
    rw [encodes] at encodes'
    cases encodes'
    exact queues
  · rw [sendEach_of_long r (Nat.lt_of_not_le fits)]
    have nobody : r.reached sender payload = [] := if_neg fun both => fits both.2
    refine ⟨by rw [nobody]; rfl, fun bs encodes => absurd (le_of_encode encodes) fits, fun _ => rfl⟩

/-! ## What a run does -/

/-- The frame of a payload as it is queued, or none if the payload is too long for one. -/
def framed (typ : UInt8) (payload : Bytes) : List Bytes :=
  match Frame.encode typ payload with
  | .ok bs => [bs]
  | .error _ => []

/-- The frames that an operation sends to a connection with success. -/
def accepted (c : ConnId) (r : Registry) : Operation → List Bytes
  | .sendFrame conn typ payload =>
    if conn = c ∧ (r.sendFrame conn typ payload).1 = true then framed typ payload else []
  | .sendToDevice id typ payload =>
    if (r.find? id).map (·.conn) = some c ∧ (r.sendToDevice id typ payload).1 = true then
      framed typ payload
    else []
  | .broadcast sender payload =>
    ((r.reached sender payload).filter (·.conn == c)).flatMap fun _ =>
      framed MessageType.socket.code payload
  | _ => []

/-- The frames that an operation drains from the queue of a connection. -/
def drained (c : ConnId) (r : Registry) : Operation → List Bytes
  | .drain conn => if conn = c then (r.drain conn).1 else []
  | _ => []

/-- The frames that are lost by an operation because the writer of a connection goes away. -/
def lost (c : ConnId) (r : Registry) : Operation → List Bytes
  | .dropWriter conn => if conn = c then (r.line conn).queue else []
  | _ => []

variable {r}

theorem framed_of_encode {typ : UInt8} {payload bs : Bytes}
    (encodes : Frame.encode typ payload = .ok bs) : framed typ payload = [bs] := by
  unfold framed
  rw [encodes]

theorem encode_of_mem_framed {typ : UInt8} {payload bs : Bytes}
    (member : bs ∈ framed typ payload) : Frame.encode typ payload = .ok bs := by
  unfold framed at member
  split at member
  · rename_i encodes
    rw [encodes, List.mem_singleton.1 member]
  · cases member

/-- Only frames are accepted. -/
theorem encoded_of_accepted {c : ConnId} {op : Operation} {bs : Bytes}
    (member : bs ∈ accepted c r op) : ∃ typ payload, Frame.encode typ payload = .ok bs := by
  cases op with
  | sendFrame conn typ payload =>
    simp only [accepted] at member
    split at member
    · exact ⟨typ, payload, encode_of_mem_framed member⟩
    · cases member
  | sendToDevice id typ payload =>
    simp only [accepted] at member
    split at member
    · exact ⟨typ, payload, encode_of_mem_framed member⟩
    · cases member
  | broadcast sender payload =>
    obtain ⟨_, _, framed⟩ := List.mem_flatMap.1 member
    exact ⟨_, payload, encode_of_mem_framed framed⟩
  | _ => cases member

theorem Queues.queue_eq {r' : Registry} {bs : Bytes} {conns : List ConnId}
    (queues : Queues r bs conns r') (c : ConnId) :
    (r'.line c).queue = (r.line c).queue ++ List.replicate (conns.count c) bs := by
  rw [queues.line]

theorem queue_sendFrame (conn c : ConnId) (typ : UInt8) (payload : Bytes) :
    ((r.sendFrame conn typ payload).2.line c).queue =
      (r.line c).queue ++ accepted c r (.sendFrame conn typ payload) := by
  simp only [accepted]
  rcases sendFrame_cases r conn typ payload with ⟨_, _, sent, bs, encodes, queues⟩ | ⟨_, refused⟩
  · rw [queues.queue_eq, framed_of_encode encodes]
    by_cases same : conn = c
    · subst same
      simp [sent]
    · simp [same]
  · simp [refused]

theorem queue_sendToDevice (id : String) (c : ConnId) (typ : UInt8) (payload : Bytes) :
    ((r.sendToDevice id typ payload).2.line c).queue =
      (r.line c).queue ++ accepted c r (.sendToDevice id typ payload) := by
  simp only [accepted]
  unfold sendToDevice
  cases found : r.find? id with
  | none => simp
  | some h =>
    simp only [queue_sendFrame, accepted, Option.map_some, Option.some.injEq]

theorem flatMap_eq_replicate (hs : List Handle) (c : ConnId) (bs : Bytes) :
    ((hs.filter (·.conn == c)).flatMap fun _ => [bs]) =
      List.replicate ((hs.map (·.conn)).count c) bs := by
  rw [List.flatMap_def, List.map_const', List.flatten_replicate_singleton, List.count_eq_countP,
    List.countP_map, List.countP_eq_length_filter]
  rfl

theorem queue_broadcast (sender : String) (c : ConnId) (payload : Bytes) :
    ((r.broadcast sender payload).2.line c).queue =
      (r.line c).queue ++ accepted c r (.broadcast sender payload) := by
  have broadcasts := broadcasts_broadcast r sender payload
  simp only [accepted]
  by_cases fits : payload.length ≤ 65535
  · have encodes := Frame.encode_of_le MessageType.socket.code fits
    rw [(broadcasts.queued _ encodes).queue_eq, framed_of_encode encodes, flatMap_eq_replicate]
  · have nobody : r.reached sender payload = [] := if_neg fun both => fits both.2
    rw [broadcasts.unchanged_of_long (Nat.lt_of_not_le fits), nobody]
    exact (List.append_nil _).symm

/-- What was on a queue and what is accepted for it is drained, lost or still there. -/
theorem queue_perform (op : Operation) (c : ConnId)
    (idle : r.nextConn ≤ c → (r.line c).queue = []) :
    drained c r op ++ lost c r op ++ ((r.perform op).2.line c).queue =
      (r.line c).queue ++ accepted c r op := by
  cases op with
  | connect device peer =>
    show ((r.connect device peer).2.line c).queue = (r.line c).queue ++ []
    rw [line_connect, List.append_nil]
    by_cases new : c = r.nextConn
    · rw [if_pos new, idle (Nat.le_of_eq new.symm)]
    · rw [if_neg new]
  | register h =>
    show ((r.register h).2.line c).queue = (r.line c).queue ++ []
    rw [line_register, List.append_nil]
  | sendFrame conn typ payload => exact queue_sendFrame conn c typ payload
  | sendToDevice id typ payload => exact queue_sendToDevice id c typ payload
  | broadcast sender payload => exact queue_broadcast sender c payload
  | closeAll =>
    show (r.closeAll.2.line c).queue = (r.line c).queue ++ []
    rw [line_closeAll, List.append_nil]
  | close conn =>
    show ((r.close conn).line c).queue = (r.line c).queue ++ []
    rw [line_close, List.append_nil]
  | noticeClose conn =>
    show ((r.noticeClose conn).2.line c).queue = (r.line c).queue ++ []
    rw [line_noticeClose, List.append_nil]
  | drain conn =>
    show (if conn = c then (r.line conn).queue else []) ++ [] ++ ((r.drain conn).2.line c).queue = _
    rw [line_drain]
    by_cases same : conn = c
    · simp [same, accepted]
    · simp [same, Ne.symm same, accepted]
  | dropWriter conn =>
    show [] ++ (if conn = c then (r.line conn).queue else []) ++
      ((r.dropWriter conn).line c).queue = _
    rw [line_dropWriter]
    by_cases same : conn = c
    · simp [same, accepted]
    · simp [same, Ne.symm same, accepted]
  | _ => exact (List.append_nil _).symm

theorem isOpen_of_sent {conn : ConnId} {typ : UInt8} {payload : Bytes}
    (sent : (r.sendFrame conn typ payload).1 = true) : r.isOpen conn = true := by
  rcases sendFrame_cases r conn typ payload with ⟨_, there, _⟩ | ⟨_, refused⟩
  · exact there
  · rw [refused] at sent
    cases sent

theorem accepted_of_closed {c : ConnId} (closed : r.isOpen c = false) (op : Operation) :
    accepted c r op = [] := by
  cases op with
  | sendFrame conn typ payload =>
    refine if_neg fun both => ?_
    obtain ⟨rfl, sent⟩ := both
    rw [isOpen_of_sent sent] at closed
    cases closed
  | sendToDevice id typ payload =>
    refine if_neg fun both => ?_
    obtain ⟨goal, sent⟩ := both
    obtain ⟨h, found, rfl⟩ := Option.map_eq_some_iff.1 goal
    unfold sendToDevice at sent
    rw [found] at sent
    rw [isOpen_of_sent sent] at closed
    cases closed
  | broadcast sender payload =>
    have nobody : (r.reached sender payload).filter (·.conn == c) = [] := by
      rw [List.filter_eq_nil_iff]
      intro h member same
      unfold reached at member
      split at member
      · have there := (List.mem_filter.1 member).2
        rw [beq_iff_eq.1 same, closed, Bool.and_false] at there
        cases there
      · cases member
    simp only [accepted, nobody]
    rfl
  | _ => rfl

theorem drained_of_idle {c : ConnId} (idle : (r.line c).queue = []) (op : Operation) :
    drained c r op = [] := by
  cases op with
  | drain conn =>
    simp only [drained]
    split
    · rename_i same
      subst same
      exact idle
    · rfl
  | _ => rfl

theorem lost_of_idle {c : ConnId} (idle : (r.line c).queue = []) (op : Operation) :
    lost c r op = [] := by
  cases op with
  | dropWriter conn =>
    simp only [lost]
    split
    · rename_i same
      subst same
      exact idle
    · rfl
  | _ => rfl

/-- The frames of a connection are accounted for. What was accepted for it was drained, was lost
with its writer, or waits; nothing is lost while the writer is there, and nothing waits once it
is gone. A number that nobody has yet has neither. -/
structure Accounted (r : Registry) (c : ConnId) (accepted drained lost : List Bytes) : Prop where
  balance : accepted = drained ++ lost ++ (r.line c).queue
  nothing_lost : r.isOpen c = true → lost = []
  nothing_waits : r.isOpen c = false → (r.line c).queue = []
  unborn : r.nextConn ≤ c → r.isOpen c = false ∧ lost = []

section

variable {c : ConnId} {as ds ls : List Bytes}

theorem Accounted.queue_perform (accounted : Accounted r c as ds ls) (op : Operation) :
    drained c r op ++ lost c r op ++ ((r.perform op).2.line c).queue =
      (r.line c).queue ++ accepted c r op :=
  Registry.queue_perform op c fun unborn => accounted.nothing_waits (accounted.unborn unborn).1

theorem Accounted.balance_perform (accounted : Accounted r c as ds ls) (op : Operation) :
    as ++ accepted c r op =
      ds ++ drained c r op ++ (ls ++ lost c r op) ++ ((r.perform op).2.line c).queue := by
  -- What is drained comes before what is lost, for either there is nothing lost or nothing waits.
  have order : ls ++ drained c r op = drained c r op ++ ls := by
    by_cases there : r.isOpen c = true
    · rw [accounted.nothing_lost there, List.nil_append, List.append_nil]
    · have waits := accounted.nothing_waits (Bool.eq_false_iff.2 there)
      rw [drained_of_idle waits, List.nil_append, List.append_nil]
  calc as ++ accepted c r op
      = ds ++ ls ++ ((r.line c).queue ++ accepted c r op) := by
        rw [accounted.balance, List.append_assoc]
    _ = ds ++ (ls ++ drained c r op) ++ lost c r op ++ ((r.perform op).2.line c).queue := by
        rw [← accounted.queue_perform op]
        simp only [List.append_assoc]
    _ = _ := by
        rw [order]
        simp only [List.append_assoc]

theorem Accounted.nothing_lost_perform (accounted : Accounted r c as ds ls) (op : Operation)
    (there : (r.perform op).2.isOpen c = true) : ls ++ lost c r op = [] := by
  rw [isOpen_perform] at there
  cases op with
  | connect device peer =>
    rcases Bool.or_eq_true_iff.1 there with there | new
    · exact (List.append_nil _).trans (accounted.nothing_lost there)
    · have unborn := accounted.unborn (Nat.le_of_eq (beq_iff_eq.1 new).symm)
      exact (List.append_nil _).trans unborn.2
  | dropWriter conn =>
    obtain ⟨there, other⟩ := Bool.and_eq_true_iff.1 there
    rw [accounted.nothing_lost there, List.nil_append]
    exact if_neg (Ne.symm (bne_iff_ne.1 other))
  | _ => exact (List.append_nil _).trans (accounted.nothing_lost there)

theorem Accounted.nothing_waits_perform (accounted : Accounted r c as ds ls) (op : Operation)
    (gone : (r.perform op).2.isOpen c = false) : ((r.perform op).2.line c).queue = [] := by
  rw [isOpen_perform] at gone
  by_cases there : r.isOpen c = true
  · cases op with
    | connect device peer =>
      rw [there] at gone
      cases gone
    | dropWriter conn =>
      have same : c = conn := by simpa [Operation.onWriter, there] using gone
      change ((r.dropWriter conn).line c).queue = []
      rw [line_dropWriter]
      exact if_pos same
    | _ => exact absurd (there.symm.trans gone) Bool.noConfusion
  · have closed := Bool.eq_false_iff.2 there
    have queue := accounted.queue_perform op
    rw [accounted.nothing_waits closed, accepted_of_closed closed] at queue
    exact (List.append_eq_nil_iff.1 queue).2

theorem Accounted.unborn_perform (accounted : Accounted r c as ds ls) (op : Operation)
    (unborn : (r.perform op).2.nextConn ≤ c) :
    (r.perform op).2.isOpen c = false ∧ ls ++ lost c r op = [] := by
  rw [(performs_perform r op).nextConn] at unborn
  obtain ⟨closed, none_lost⟩ := accounted.unborn (Nat.le_of_add_right_le unborn)
  rw [isOpen_perform, none_lost, lost_of_idle (accounted.nothing_waits closed)]
  refine ⟨?_, rfl⟩
  cases op with
  | connect device peer =>
    have older : c ≠ r.nextConn := Nat.ne_of_gt unborn
    simp [Operation.onWriter, closed, older]
  | dropWriter conn => simp [Operation.onWriter, closed]
  | _ => exact closed

theorem Accounted.perform (accounted : Accounted r c as ds ls) (op : Operation) :
    Accounted (r.perform op).2 c (as ++ accepted c r op) (ds ++ drained c r op)
      (ls ++ lost c r op) where
  balance := accounted.balance_perform op
  nothing_lost := accounted.nothing_lost_perform op
  nothing_waits := accounted.nothing_waits_perform op
  unborn := accounted.unborn_perform op

end

theorem accounted_after (policy : DuplicatePolicy) (ops : List Operation) (c : ConnId) :
    Accounted (after { policy } ops) c (gather (accepted c) { policy } ops)
      (gather (drained c) { policy } ops) (gather (lost c) { policy } ops) := by
  induction ops using List.reverseRecOn with
  | nil => exact ⟨rfl, fun _ => rfl, fun _ => rfl, fun _ => ⟨rfl, rfl⟩⟩
  | append_singleton ops op ih =>
    rw [after_concat, gather_concat, gather_concat, gather_concat]
    exact ih.perform op

theorem Accounted.accepted_eq {c : ConnId} {as ds ls : List Bytes}
    (accounted : Accounted r c as ds ls) :
    as = ds ++ if r.isOpen c then (r.line c).queue else ls := by
  rw [accounted.balance]
  by_cases there : r.isOpen c = true
  · rw [if_pos there, accounted.nothing_lost there, List.append_nil]
  · rw [if_neg there, accounted.nothing_waits (Bool.eq_false_iff.2 there), List.append_nil]

/-! ## The law -/

/-- The connection registered with an identifier in a run, and of all that are still there under it
did so last. -/
def Newest (policy : DuplicatePolicy) (ops : List Operation) (id : String) (conn : ConnId) : Prop :=
  ∃ t h, Latest (Since policy ops) (isFor id) t h ∧ h.conn = conn

theorem newest_iff {policy : DuplicatePolicy} {ops : List Operation}
    (ranked : EntriesRanked r (Since policy ops)) (id : String) (conn : ConnId) :
    Newest policy ops id conn ↔ ∃ h, r.find? id = some h ∧ h.conn = conn := by
  simp only [Newest, ranked.find?_eq_some_iff]
  constructor
  · rintro ⟨t, h, latest, same⟩
    exact ⟨h, ⟨t, latest⟩, same⟩
  · rintro ⟨h, ⟨t, latest⟩, same⟩
    exact ⟨t, h, latest, same⟩

/-- No push is lost, doubled or led astray. Take a registry that began without entries, after any
run of operations on it. A push through a handle goes to the connection of the handle, a push to
a device to the connection that registered as it most recently and is still there: it is accepted
exactly if it was put on the queue of that connection, once and nowhere else, and exactly if it
fits and the writer is there. A broadcast is put once on the queue of each entry that it reaches.
And what was accepted for a connection so far is what was drained from its queue, in this order,
followed by what waits there, or, if its writer has gone, by what waited then. -/
theorem an_accepted_push_is_queued_once_where_it_belongs (policy : DuplicatePolicy)
    (ops : List Operation) :
    let start : Registry := { policy }
    let r := start.after ops
    (∀ conn typ payload, Pushes r (· = conn) typ payload (r.sendFrame conn typ payload)) ∧
    (∀ conn payload,
      Pushes r (· = conn) MessageType.socket.code payload (r.send conn payload)) ∧
    (∀ id typ payload,
      Pushes r (Newest policy ops id) typ payload (r.sendToDevice id typ payload)) ∧
    (∀ id payload,
      Pushes r (Newest policy ops id) MessageType.socket.code payload (r.unicast id payload)) ∧
    (∀ sender payload, Broadcasts r sender payload (r.broadcast sender payload)) ∧
    ∀ c, gather (accepted c) start ops = gather (drained c) start ops ++
      if r.isOpen c then (r.line c).queue else gather (lost c) start ops := by
  intro start r
  have ranked : EntriesRanked r (Since policy ops) := entriesRanked_after rfl ops
  refine ⟨fun conn typ payload => ?_, fun conn payload => ?_, fun id typ payload => ?_,
    fun id payload => ?_, broadcasts_broadcast r, fun c => ?_⟩
  · exact pushes_sendFrame r (fun _ => Iff.rfl) typ payload
  · exact pushes_sendFrame r (fun _ => Iff.rfl) _ payload
  · exact pushes_sendToDevice r (newest_iff ranked id) typ payload
  · exact pushes_sendToDevice r (newest_iff ranked id) _ payload
  · exact (accounted_after policy ops c).accepted_eq

end DeviceLink.Registry
