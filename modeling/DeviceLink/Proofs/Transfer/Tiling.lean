-- Backups without gaps. Each chunk goes to the place where the accepted ones before it end, counted
-- from the offset at which the server opened the transfer last.
import Mathlib
import DeviceLink.Proofs.Transfer.Calls
import DeviceLink.Proofs.Transfer.Payload

namespace DeviceLink.Transfer.Backup

/-! ## Openings -/

/-- The name and the offset that an outcome opens the transfer with; an offset below zero counts as
zero. -/
def Outcome.opening? : Outcome → Option (String × Nat)
  | .opened r => some (r.transferId, r.currentOffset.toInt.toNat)
  | .looked r => if r.status = .found then some (r.transferId, r.offset.toInt.toNat) else none
  | _ => none

/-- The chunk that the server accepted. -/
def Outcome.chunk? : Outcome → Option Bytes
  | .sent data => some data
  | _ => none

abbrev Turn := Transfer.Turn Backup Action Outcome

namespace Turn

def opening? (t : Turn) : Option (String × Nat) :=
  match t.result with
  | .ok x => x.opening?
  | .error _ => none

def chunk? (t : Turn) : Option Bytes :=
  match t.result with
  | .ok x => x.chunk?
  | .error _ => none

/-- The requests of a turn, last first. -/
def requests (t : Turn) : List Request := t.sent calls

end Turn

/-- The last opening of a transfer, and the turns since. -/
structure Opening where
  id : String
  start : Nat
  since : List Turn := []

namespace Opening

/-- The chunks that were accepted since. -/
def chunks (o : Opening) : List Bytes := o.since.filterMap Turn.chunk?

/-- The offset at which the accepted chunks end. -/
def stop (o : Opening) : Nat := o.start + o.chunks.flatten.length

/-- The requests for which the chunks were accepted. -/
def accepted (o : Opening) : List Request :=
  (o.since.filter fun t => t.chunk?.isSome).flatMap Turn.requests

end Opening

/-- The last turn that opened the transfer or found it again, with the turns since. -/
def lastOpening? : List Turn → Option Opening
  | [] => none
  | t :: ts =>
    match lastOpening? ts with
    | some o => some o
    | none => t.opening?.map fun (id, start) => ⟨id, start, ts⟩

theorem lastOpening?_concat (ts : List Turn) (t : Turn) : lastOpening? (ts ++ [t]) =
    match t.opening? with
    | some (id, start) => some ⟨id, start, []⟩
    | none => (lastOpening? ts).map fun o => { o with since := o.since ++ [t] } := by
  induction ts with
  | nil =>
    cases opens : t.opening? with
    | none => simp [lastOpening?, opens]
    | some o => simp [lastOpening?, opens]
  | cons u us ih =>
    rw [List.cons_append, lastOpening?, ih]
    cases opens : t.opening? with
    | some o => rfl
    | none =>
      rw [lastOpening?]
      cases lastOpening? us with
      | some o => rfl
      | none =>
        cases u.opening? with
        | some o => rfl
        | none => rfl

/-! ## Chunks end to end -/

/-- The request that brings a chunk to an offset. -/
def chunkRequest (id : String) (offset : Nat) (data : Bytes) : Request :=
  .ofOperation .backupChunk (BackupChunkRequest.ofBytes id (Int64.ofNat offset) data)

/-- The requests that bring chunks to one place after the other, each to where the one before it
ends. -/
def endToEnd (id : String) (offset : Nat) : List Bytes → List Request
  | [] => []
  | data :: rest => chunkRequest id offset data :: endToEnd id (offset + data.length) rest

theorem endToEnd_concat (id : String) (offset : Nat) (chunks : List Bytes) (data : Bytes) :
    endToEnd id offset (chunks ++ [data]) =
      endToEnd id offset chunks ++ [chunkRequest id (offset + chunks.flatten.length) data] := by
  induction chunks generalizing offset with
  | nil => simp [endToEnd]
  | cons first chunks ih => simp [endToEnd, ih, Nat.add_assoc]

/-! ## What an outcome changes -/

theorem Outcome.effect_of_opening {x : Outcome} {id : String} {start : Nat} (phase : Phase)
    (s : Sequence) (opens : x.opening? = some (id, start)) :
    (x.effect phase s).id = some id ∧ (x.effect phase s).offset = start := by
  cases x with
  | opened r =>
    cases opens
    exact ⟨rfl, rfl⟩
  | looked r =>
    simp only [opening?] at opens
    split at opens
    · rename_i found
      cases opens
      rw [effect, if_pos found]
      exact ⟨rfl, rfl⟩
    · cases opens
  | _ => cases opens

theorem Outcome.effect_of_closed {x : Outcome} (phase : Phase) (s : Sequence)
    (closed : x.opening? = none) : (x.effect phase s).id = s.id ∧
      (x.effect phase s).offset = s.offset + x.chunk?.toList.flatten.length := by
  cases x with
  | opened r => cases closed
  | looked r =>
    simp only [opening?] at closed
    split at closed
    · cases closed
    · rename_i elsewhere
      rw [effect, if_neg elsewhere]
      exact ⟨rfl, rfl⟩
  | sent data => exact ⟨rfl, by simp [effect, chunk?, Sequence.record]⟩
  | finished r => exact ⟨rfl, rfl⟩
  | cancelled => exact ⟨rfl, rfl⟩

/-! ## What a run keeps -/

/-- What is known of a transfer after some turns comes from its last opening and the chunks that were
accepted since, and the requests for these lie end to end. -/
structure Continuous (past : List Turn) (s : Sequence) : Prop where
  named : s.id = (lastOpening? past).map Opening.id
  offset : ∀ o, lastOpening? past = some o → s.offset = o.stop
  tiled : ∀ o, lastOpening? past = some o → o.accepted = endToEnd o.id o.start o.chunks

namespace Continuous

variable {past : List Turn} {t : Turn} {s s' : Sequence}

theorem opened {id : String} {start : Nat} (opens : t.opening? = some (id, start))
    (named : s'.id = some id) (offset : s'.offset = start) : Continuous (past ++ [t]) s' := by
  have last : lastOpening? (past ++ [t]) = some ⟨id, start, []⟩ := by
    rw [lastOpening?_concat, opens]
  constructor
  · rw [last, named]
    rfl
  · intro o found
    cases last.symm.trans found
    exact offset
  · intro o found
    cases last.symm.trans found
    rfl

/-- A turn that opens nothing adds its chunk, if it has one, to those since the last opening. -/
theorem closed (continuous : Continuous past s) (closed : t.opening? = none) (named : s'.id = s.id)
    (offset : s'.offset = s.offset + t.chunk?.toList.flatten.length)
    (brings : ∀ id data, s.id = some id → t.chunk? = some data →
      t.requests = [chunkRequest id s.offset data]) : Continuous (past ++ [t]) s' := by
  have last : lastOpening? (past ++ [t]) =
      (lastOpening? past).map fun o => { o with since := o.since ++ [t] } := by
    rw [lastOpening?_concat, closed]
  have chunks : ∀ o : Opening, ({ o with since := o.since ++ [t] } : Opening).chunks =
      o.chunks ++ t.chunk?.toList := by
    intro o
    unfold Opening.chunks
    cases chunk : t.chunk? with
    | none => simp [chunk]
    | some data => simp [chunk]
  constructor
  · rw [last, named, continuous.named, Option.map_map]
    rfl
  · intro o found
    rw [last, Option.map_eq_some_iff] at found
    obtain ⟨o, before, rfl⟩ := found
    rw [offset, continuous.offset o before]
    unfold Opening.stop
    rw [chunks, List.flatten_append, List.length_append, Nat.add_assoc]
  · intro o found
    rw [last, Option.map_eq_some_iff] at found
    obtain ⟨o, before, rfl⟩ := found
    have tiled := continuous.tiled o before
    rw [chunks]
    unfold Opening.accepted at tiled ⊢
    rw [List.filter_append, List.flatMap_append, tiled]
    cases chunk : t.chunk? with
    | none => simp [chunk]
    | some data =>
      have id : s.id = some o.id := by
        rw [continuous.named, before]
        rfl
      have requests := brings o.id data id chunk
      rw [continuous.offset o before] at requests
      simp [chunk, requests, endToEnd_concat, Opening.stop]

end Continuous

variable {caller : Caller} {remote : Remote} {b : Backup} {a : Action} {past : List Turn}

theorem requests_turn (caller : Caller) (remote : Remote) (a : Action) (b : Backup) :
    Turn.requests (turn (perform caller) remote a b) = a.requests b.sequence :=
  Transfer.Turn.sent_eq (calls_perform caller remote a b)

theorem requests_of_chunk {x : Outcome} {phase : Phase} {data : Bytes} {id : String}
    (checked : b.sequence.check a.operation = .ok phase)
    (granted : a.verdict caller remote b.sequence = .ok x) (brings : x.chunk? = some data)
    (named : b.sequence.id = some id) :
    a.requests b.sequence = [chunkRequest id b.sequence.offset data] := by
  cases yields_of_verdict granted with
  | sendChunk data =>
    cases brings
    unfold Action.requests
    rw [checked]
    simp only [Action.request?, named, Option.map_some, Option.toList_some]
    rfl
  | _ => cases brings

theorem continuous_turn (continuous : Continuous past b.sequence) :
    Continuous (past ++ [turn (perform caller) remote a b])
      (perform caller remote a b).2.sequence := by
  rcases perform_cases caller remote a b with
    ⟨e, result, kept⟩ | ⟨phase, x, result, checked, granted, effect⟩
  · have opens : Turn.opening? (turn (perform caller) remote a b) = none := by
      simp [Turn.opening?, turn, result]
    have chunk : Turn.chunk? (turn (perform caller) remote a b) = none := by
      simp [Turn.chunk?, turn, result]
    apply continuous.closed opens
    · rw [kept]
    · rw [kept, chunk]
      rfl
    · intro id data _ brings
      rw [chunk] at brings
      cases brings
  · have opens : Turn.opening? (turn (perform caller) remote a b) = x.opening? := by
      simp [Turn.opening?, turn, result]
    have chunk : Turn.chunk? (turn (perform caller) remote a b) = x.chunk? := by
      simp [Turn.chunk?, turn, result]
    cases opening : x.opening? with
    | some o =>
      obtain ⟨id, start⟩ := o
      obtain ⟨named, offset⟩ := Outcome.effect_of_opening phase b.sequence opening
      rw [opening] at opens
      apply Continuous.opened opens
      · rw [effect, named]
      · rw [effect, offset]
    | none =>
      obtain ⟨named, offset⟩ := Outcome.effect_of_closed phase b.sequence opening
      rw [opening] at opens
      apply continuous.closed opens
      · rw [effect, named]
      · rw [effect, offset, chunk]
      · intro id data named brings
        rw [chunk] at brings
        rw [requests_turn, requests_of_chunk checked granted brings named]

theorem continuous_after (caller : Caller) (steps : List (Action × Remote)) :
    Continuous (turns (perform caller) {} steps) (after (perform caller) {} steps).sequence := by
  apply after_induct (fun past (b : Backup) => Continuous past b.sequence)
  · exact ⟨rfl, fun o found => (by cases found), fun o found => (by cases found)⟩
  · intro past b remote a continuous
    exact continuous_turn continuous

/-! ## The requests for chunks -/

/-- Only the sending of a chunk asks the server to take one. -/
theorem eq_sendChunk_of_mem_requests {s : Sequence} {q : Request} (sent : q ∈ a.requests s)
    (typ : q.typ = MessageType.backupChunkReq.code) :
    ∃ data id, a = .sendChunk data ∧ s.id = some id ∧ q = chunkRequest id s.offset data := by
  unfold Action.requests at sent
  split at sent
  · simp only [Option.mem_toList] at sent
    cases a with
    | init request =>
      cases sent
      cases typ
    | resume request =>
      cases sent
      cases typ
    | sendChunk data =>
      obtain ⟨id, named, rfl⟩ := Option.map_eq_some_iff.1 sent
      exact ⟨data, id, rfl, named, rfl⟩
    | finish serverPath fileHash =>
      obtain ⟨id, named, rfl⟩ := Option.map_eq_some_iff.1 sent
      cases typ
    | cancel =>
      obtain ⟨id, named, rfl⟩ := Option.map_eq_some_iff.1 sent
      cases typ
  · cases sent

/-- A request that asks the server to take a chunk at the place where the chunks end that were
accepted since an opening. -/
structure Places (o : Opening) (data : Bytes) (x : BackupChunkRequest) : Prop where
  transferId : x.transferId = o.id
  offset : x.offset = Int64.ofNat o.stop
  dataLen : x.dataLen = Int64.ofNat data.length
  /-- The length is exact as far as 64 bits go. -/
  exact : data.length < 2 ^ 63 → x.dataLen.toInt = data.length
  data : decodeChunkData x.data = .ok data

theorem places_chunkRequest (o : Opening) (data : Bytes) : ∃ x,
    Json.Payload.parse (chunkRequest o.id o.stop data).payload = .ok x ∧ Places o data x := by
  refine ⟨_, lawful_backupChunkRequest.parse_print _, ?_⟩
  constructor
  · rfl
  · rfl
  · rfl
  · intro short
    exact Int64.toInt_ofNat_of_lt short
  · exact decodeChunkData_encode data

/-- Actions that fail leave a retry what they found. -/
theorem sequence_of_failed {steps : List (Action × Remote)} {failed later : List Turn} {u : Turn}
    (split : turns (perform caller) b steps = failed ++ u :: later)
    (failing : ∀ v ∈ failed, ∃ e, v.result = .error e) :
    u.before.sequence = b.sequence := by
  induction failed generalizing b steps with
  | nil =>
    cases steps with
    | nil => cases split
    | cons step steps =>
      cases split
      rfl
  | cons v failed ih =>
    cases steps with
    | nil => cases split
    | cons step steps =>
      rw [turns, List.cons_append] at split
      obtain ⟨rfl, onward⟩ := List.cons.inj split
      rw [ih onward fun v member => failing v (List.mem_cons_of_mem _ member)]
      obtain ⟨e, failure⟩ := failing _ List.mem_cons_self
      rcases perform_cases caller step.2 step.1 b with
        ⟨_, _, kept⟩ | ⟨_, x, granted, _⟩
      · exact kept
      · cases failure.symm.trans granted

/-- A turn of a run that sends a chunk sends it to the transfer that was opened last, and to where the
chunks end that were accepted since. -/
theorem places_of_mem_requests {steps : List (Action × Remote)} {later : List Turn} {t : Turn}
    {q : Request} (split : turns (perform caller) {} steps = past ++ t :: later)
    (sent : q ∈ Turn.requests t) (typ : q.typ = MessageType.backupChunkReq.code) :
    ∃ data o x, t.action = .sendChunk data ∧ lastOpening? past = some o ∧
      Json.Payload.parse q.payload = .ok x ∧ Places o data x := by
  obtain ⟨before, a, remote, rest, _, rfl, rfl, _⟩ := turns_eq_append split
  have continuous := continuous_after caller before
  rw [requests_turn] at sent
  obtain ⟨data, id, rfl, named, rfl⟩ := eq_sendChunk_of_mem_requests sent typ
  rw [continuous.named, Option.map_eq_some_iff] at named
  obtain ⟨o, opening, rfl⟩ := named
  obtain ⟨x, parsed, places⟩ := places_chunkRequest o data
  rw [← continuous.offset o opening] at parsed
  exact ⟨data, o, x, rfl, opening, parsed, places⟩

/-- An action that is tried again, with nothing but failures in between, sends the same again. -/
theorem requests_of_retry {steps : List (Action × Remote)} {failed later : List Turn} {t u : Turn}
    (split : turns (perform caller) {} steps = past ++ t :: (failed ++ u :: later))
    (failing : ∀ v ∈ t :: failed, ∃ e, v.result = .error e) (again : u.action = t.action) :
    Turn.requests u = Turn.requests t := by
  have further : turns (perform caller) {} steps = (past ++ t :: failed) ++ u :: later := by
    rw [split, List.append_assoc]
    rfl
  obtain ⟨_, a', remote', _, _, _, rfl, _⟩ := turns_eq_append further
  obtain ⟨before, a, remote, rest, _, _, rfl, onward⟩ := turns_eq_append split
  have from_here : turns (perform caller) (after (perform caller) {} before)
      ((a, remote) :: rest) = (turn _ remote a _ :: failed) ++ turn _ remote' a' _ :: later :=
    congrArg (List.cons _) onward.symm
  have kept := sequence_of_failed from_here failing
  rw [requests_turn, requests_turn]
  cases again
  exact congrArg a'.requests kept

/-! ## The law -/

/-- Over any run of operations, against any server, every chunk is sent to the transfer that was
opened last, and to the place where the chunks end that were accepted since. These lie end to end up
to the offset that is known in the end. An operation that failed sends the same again when it is
tried again. -/
theorem uploads_leave_no_gap_and_no_overlap (caller : Caller) (steps : List (Action × Remote)) :
    let ts := turns (perform caller) {} steps
    let final := after (perform caller) {} steps
    (∀ past t later, ts = past ++ t :: later → ∀ q ∈ Turn.requests t,
      q.typ = MessageType.backupChunkReq.code →
        ∃ data o x, t.action = .sendChunk data ∧ lastOpening? past = some o ∧
          Json.Payload.parse q.payload = .ok x ∧ Places o data x) ∧
    (∀ o, lastOpening? ts = some o → final.sequence.id = some o.id ∧
      final.sequence.offset = o.stop ∧ o.accepted = endToEnd o.id o.start o.chunks) ∧
    (∀ past t failed u later, ts = past ++ t :: (failed ++ u :: later) →
      (∀ v ∈ t :: failed, ∃ e, v.result = .error e) → u.action = t.action →
        Turn.requests u = Turn.requests t) ∧
    final.calls = ts.reverse.flatMap Turn.requests := by
  intro ts final
  have continuous := continuous_after caller steps
  refine ⟨?_, ?_, ?_, ?_⟩
  · intro past t later split q sent typ
    exact places_of_mem_requests split sent typ
  · intro o opening
    refine ⟨?_, continuous.offset o opening, continuous.tiled o opening⟩
    rw [continuous.named, opening]
    rfl
  · intro past t failed u later split failing again
    exact requests_of_retry split failing again
  · have calls := calls_after
      (fun remote a (b : Backup) => calls_perform caller remote a b) {} steps
    rw [List.append_nil] at calls
    exact calls

end DeviceLink.Transfer.Backup
