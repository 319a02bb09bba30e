-- What a restore takes a server's word for. Once a call for a chunk has succeeded, only the data in
-- the answer count: neither the status nor the length that stand beside them are looked at, nor is
-- the size that was asked for.
import DeviceLink.Proofs.Transfer.Naming
import DeviceLink.Proofs.Transfer.Serving

namespace DeviceLink.Transfer.Restore

variable {caller : Caller} {remote : Remote} {r : Restore} {size : Int32} {data data' : Bytes}
  {id : String} {q : Request}

/-! ## One chunk -/

/-- Asks for up to `size` bytes of a transfer from an offset on. -/
def chunkRequest (id : String) (offset : Nat) (size : Int32) : Request :=
  .ofOperation .restoreChunk (⟨id, Int64.ofNat offset, size⟩ : RestoreChunkRequest)

/-- The answer to a request has these data, whatever else it says. -/
def HasData (caller : Caller) (remote : Remote) (q : Request) (data : Bytes) : Prop :=
  ∃ chunk : RestoreChunkResponse, caller.Answers q (remote q) chunk ∧
    decodeChunkData chunk.data = .ok data

theorem HasData.unique (has : HasData caller remote q data) (has' : HasData caller remote q data') :
    data = data' := by
  unfold HasData at has has'
  rw [← fetch_eq_ok_iff] at has has'
  rw [has] at has'
  cases has'
  rfl

theorem hasData_of_answers {dataLen : Int32} {status : String}
    (answers : caller.Answers q (remote q)
      (⟨Text.Hex.encode data, dataLen, status⟩ : RestoreChunkResponse)) :
    HasData caller remote q data :=
  ⟨_, answers, decodeChunkData_encode data⟩

/-- A chunk with these data is due to a restore: it is open, and the server gives them. -/
def Due (caller : Caller) (remote : Remote) (size : Int32) (r : Restore) (data : Bytes) : Prop :=
  r.sequence.phase = .streaming ∧ ∃ id, r.sequence.id = some id ∧
    HasData caller remote (chunkRequest id r.sequence.offset size) data

theorem Due.unique (due : Due caller remote size r data) (due' : Due caller remote size r data') :
    data = data' := by
  obtain ⟨-, id, named, has⟩ := due
  obtain ⟨-, id', named', has'⟩ := due'
  rw [named] at named'
  cases named'
  exact has.unique has'

theorem check_restoreChunk (sound : r.sequence.Sound .restore) :
    r.sequence.check .restoreChunk =
      if r.sequence.phase = .streaming then .ok .streaming
      else .error (.outOfOrder .restoreChunk r.sequence.phase) := by
  have own : Operation.restoreChunk.direction? = some r.sequence.direction := by
    rw [sound.direction]
    rfl
  rw [Sequence.check_eq own]
  cases r.sequence.phase with
  | _ => rfl

/-- What is due is taken and counted. -/
theorem nextChunk_of_due (sound : r.sequence.Sound .restore) (due : Due caller remote size r data) :
    ∃ r', nextChunk caller remote size r = (.ok data, r') ∧
      known r' = (r.sequence.record data.length, r.totalSize) := by
  obtain ⟨streaming, id, named, has⟩ := due
  have same : ({ r.sequence with phase := .streaming } : Sequence) = r.sequence := by
    rw [← streaming]
  rw [nextChunk_eq size named (q := chunkRequest id r.sequence.offset size) rfl,
    check_restoreChunk sound, if_pos streaming, fetch_eq_ok_iff.2 has]
  refine ⟨_, rfl, ?_⟩
  unfold known Outcome.take noting
  dsimp only
  rw [same]

/-- Where nothing is due, nothing changes. -/
theorem nextChunk_of_not_due (sound : r.sequence.Sound .restore)
    (nothing : ∀ data, ¬ Due caller remote size r data) :
    ∃ e r', nextChunk caller remote size r = (.error e, r') ∧ known r' = known r := by
  by_cases streaming : r.sequence.phase = .streaming
  · obtain ⟨id, named⟩ := sound.named streaming
    rw [nextChunk_eq size named (q := chunkRequest id r.sequence.offset size) rfl,
      check_restoreChunk sound, if_pos streaming]
    cases fetched : fetch caller (chunkRequest id r.sequence.offset size)
        (remote (chunkRequest id r.sequence.offset size)) with
    | ok data => exact absurd ⟨streaming, id, named, fetch_eq_ok_iff.1 fetched⟩ (nothing data)
    | error e => exact ⟨e, _, rfl, rfl⟩
  · have checked := check_restoreChunk sound
    rw [if_neg streaming] at checked
    have refused : nextChunk caller remote size r =
        (.error (.link (.outOfOrder .restoreChunk r.sequence.phase)), r) := by
      unfold nextChunk
      exact Step.run_bind_error (check_error checked) _
    exact ⟨_, r, refused, rfl⟩

/-- What becomes of a restore that asks for a chunk. -/
structure TakesOnTrust (caller : Caller) (remote : Remote) (size : Int32) (r : Restore) : Prop where
  /-- It takes just what data there are in the answer, if it is open. -/
  taken_iff : ∀ data, (nextChunk caller remote size r).1 = .ok data ↔ Due caller remote size r data
  /-- It counts all that it takes. -/
  counted : ∀ data, (nextChunk caller remote size r).1 = .ok data →
    known (nextChunk caller remote size r).2 = (r.sequence.record data.length, r.totalSize)
  /-- An error changes nothing that is known. -/
  kept : ∀ e, (nextChunk caller remote size r).1 = .error e →
    known (nextChunk caller remote size r).2 = known r

theorem takesOnTrust (sound : r.sequence.Sound .restore) : TakesOnTrust caller remote size r := by
  by_cases something : ∃ data, Due caller remote size r data
  · obtain ⟨data, due⟩ := something
    obtain ⟨r', ran, counted⟩ := nextChunk_of_due sound due
    refine ⟨?_, ?_, ?_⟩
    · intro data'
      rw [ran]
      constructor
      · rintro ⟨⟩
        exact due
      · intro due'
        rw [due.unique due']
    · intro data' ok
      rw [ran] at ok ⊢
      cases ok
      exact counted
    · intro e failed
      rw [ran] at failed
      cases failed
  · have nothing := not_exists.1 something
    obtain ⟨e, r', ran, same⟩ := nextChunk_of_not_due sound nothing
    refine ⟨?_, ?_, ?_⟩
    · intro data
      rw [ran]
      exact iff_of_false nofun (nothing data)
    · intro data ok
      rw [ran] at ok
      cases ok
    · intro e' _
      rw [ran]
      exact same

/-! ## Many chunks -/

/-- A restore of the transfer with this name is open. -/
structure OpenAs (id : String) (s : Sequence) : Prop where
  sound : s.Sound .restore
  streaming : s.phase = .streaming
  named : s.id = some id

theorem OpenAs.record {s : Sequence} (opened : OpenAs id s) (length : Nat) :
    OpenAs id (s.record length) where
  sound := ⟨opened.sound.direction, opened.sound.named⟩
  streaming := opened.streaming
  named := opened.named

/-- A server that gives the same data each time it is asked for a chunk has them counted each time.
The induction is on the requests, the first of which is made where the restore is. -/
theorem after_replicate (n : Nat) (opened : OpenAs id r.sequence)
    (gives : ∀ k < n,
      HasData caller remote (chunkRequest id (r.sequence.offset + k * data.length) size) data) :
    let steps := List.replicate n (Action.nextChunk size, remote)
    (∀ t ∈ turns (perform caller) r steps, t.result = .ok (.fetched data)) ∧
      known (after (perform caller) r steps) = (r.sequence.record (n * data.length), r.totalSize) := by
  induction n generalizing r with
  | zero => simp [turns, after, known, Sequence.record]
  | succ n ih =>
    have first := gives 0 (Nat.succ_pos n)
    rw [Nat.zero_mul, Nat.add_zero] at first
    obtain ⟨r', ran, counted⟩ :=
      nextChunk_of_due opened.sound ⟨opened.streaming, id, opened.named, first⟩
    obtain ⟨sequence, total⟩ := Prod.mk.inj counted
    have performed : perform caller remote (.nextChunk size) r = (.ok (.fetched data), r') := by
      rw [perform, Step.run_map, ran]
      rfl
    have onward : OpenAs id r'.sequence := by
      rw [sequence]
      exact opened.record data.length
    have later : ∀ k < n,
        HasData caller remote (chunkRequest id (r'.sequence.offset + k * data.length) size) data := by
      intro k small
      have next := gives (k + 1) (Nat.succ_lt_succ small)
      rw [Nat.succ_mul, Nat.add_comm (k * data.length), ← Nat.add_assoc] at next
      rw [sequence]
      exact next
    obtain ⟨results, final⟩ := ih onward later
    simp only [List.replicate_succ, turns, after, performed]
    refine ⟨?_, ?_⟩
    · intro t member
      rcases List.mem_cons.1 member with rfl | later
      · exact congrArg Prod.fst performed
      · exact results t later
    · rw [final, sequence, total, Nat.succ_mul, Nat.add_comm (n * data.length)]
      simp [Sequence.record, Nat.add_assoc]

/-! ## The law -/

/-- After any run of operations against any servers, a restore that is open takes the data of a chunk
as they come and counts them, if the call succeeds and the data are hexadecimal; it fails otherwise,
and then nothing changes. So the record may report a failure, give any length, and bring more than
was asked for. A server that goes on in this way has its data counted as often as it is asked, and
if it never sends any, the restore stays where it is without an error. -/
theorem a_chunk_is_taken_for_its_data_alone (caller : Caller) (steps : List (Action × Remote)) :
    let r := after (perform caller) {} steps
    (∀ remote size, TakesOnTrust caller remote size r) ∧
    (∀ (remote : Remote) q data dataLen status, caller.Answers q (remote q)
      (⟨Text.Hex.encode data, dataLen, status⟩ : RestoreChunkResponse) →
        HasData caller remote q data) ∧
    ∀ id, r.sequence.phase = .streaming → r.sequence.id = some id →
      ∀ remote size data n, (∀ k < n, HasData caller remote
          (chunkRequest id (r.sequence.offset + k * data.length) size) data) →
        let more := List.replicate n (Action.nextChunk size, remote)
        (∀ t ∈ turns (perform caller) r more, t.result = .ok (.fetched data)) ∧
          known (after (perform caller) r more) =
            (r.sequence.record (n * data.length), r.totalSize) := by
  intro r
  have sound : r.sequence.Sound .restore := sound_after steps
  refine ⟨?_, ?_, ?_⟩
  · intro remote size
    exact takesOnTrust sound
  · intro remote q data dataLen status answers
    exact hasData_of_answers answers
  · intro id streaming named remote size data n gives
    exact after_replicate n ⟨sound, streaming, named⟩ gives

/-- A server that answers everything with the same chunk. -/
def chunkServer (chunk : RestoreChunkResponse) : Remote := fun _ =>
  .stream (.ofBytes (Exchange.sentBytes
    (some (.ofPayload MessageType.restoreChunkResp.code Exchange.statusOk chunk))))

/-- Asked twice for two bytes, a server reports a failure and sends three each time: six bytes of a
file of five have come. -/
theorem failures_bring_more_than_was_asked_for :
    let c : Caller := { address := "guard:7000" }
    let opening : Action × Remote := (.init ⟨"lamp", "f-1", 1⟩, fileServer [3, 1, 4, 1, 5])
    let chunk : RestoreChunkResponse := ⟨Text.Hex.encode [97, 98, 99], 7, "error"⟩
    let failing := chunkServer chunk
    let r := after (perform c) {} [opening]
    (nextChunk c failing 2 r).1 = .ok [97, 98, 99] ∧
      known (after (perform c) r (List.replicate 2 (.nextChunk 2, failing))) =
        (⟨.restore, .streaming, some "t-1", 6⟩, 5) := by
  intro c opening chunk failing
  have start : known (after (perform c) {} [opening]) =
      (⟨.restore, .streaming, some "t-1", 0⟩, 5) := by decide +kernel
  have law := a_chunk_is_taken_for_its_data_alone c [opening]
  generalize after (perform c) {} [opening] = r at start law ⊢
  obtain ⟨sequence, total⟩ := Prod.mk.inj start
  obtain ⟨trusts, brings, more⟩ := law
  have called : ∀ k < 2, let q := chunkRequest "t-1" (0 + k * 3) 2
      c.call q (failing q) =
        .ok (.ofPayload MessageType.restoreChunkResp.code Exchange.statusOk chunk) := by
    decide +kernel
  have gives : ∀ k < 2, HasData c failing
      (chunkRequest "t-1" (r.sequence.offset + k * 3) 2) [97, 98, 99] := by
    intro k small
    apply brings failing _ [97, 98, 99] 7 "error"
    rw [sequence]
    exact ⟨_, called k small, rfl, lawful_restoreChunkResponse.parse_print chunk⟩
  have streaming : r.sequence.phase = .streaming := by rw [sequence]
  have named : r.sequence.id = some "t-1" := by rw [sequence]
  constructor
  · exact ((trusts failing 2).taken_iff _).2 ⟨streaming, "t-1", named, gives 0 (by decide)⟩
  · rw [(more "t-1" streaming named failing 2 [97, 98, 99] 2 gives).2, sequence, total]
    rfl

/-- A failure with more bytes than were asked for counts as a chunk, and so does one without any. -/
theorem a_failure_counts_as_a_chunk :
    let c : Caller := { address := "guard:7000" }
    let opening : Action × Remote := (.init ⟨"lamp", "f-1", 1⟩, fileServer [3, 1, 4, 1, 5])
    let r := after (perform c) {} [opening]
    let long := nextChunk c (chunkServer ⟨"616263", 7, "error"⟩) 2 r
    let empty := nextChunk c (chunkServer ⟨"", 0, "error"⟩) 2 r
    r.sequence.offset = 0 ∧ long.1 = .ok [97, 98, 99] ∧ long.2.sequence.offset = 3 ∧
      empty.1 = .ok [] ∧ empty.2.sequence.offset = 0 := by
  decide +kernel

end DeviceLink.Transfer.Restore
