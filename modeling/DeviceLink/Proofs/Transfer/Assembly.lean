-- Restores that put a file together. The next chunk is asked for where the bytes end that have come,
-- so the bytes of an honest server make up the beginning of the file, whatever fails on the way.
import DeviceLink.Proofs.Transfer.Calls
import DeviceLink.Proofs.Transfer.Serving

namespace DeviceLink.Transfer.Restore

/-! ## What has come -/

/-- The bytes that an outcome brings. -/
def Outcome.data : Outcome → Bytes
  | .fetched data => data
  | _ => []

abbrev Turn := Transfer.Turn Restore Action Outcome

namespace Turn

def data (t : Turn) : Bytes :=
  match t.result with
  | .ok x => x.data
  | .error _ => []

/-- The requests of a turn, last first. -/
def requests (t : Turn) : List Request := t.sent calls

end Turn

/-- The bytes of the chunks that came, one after the other. -/
def fetched (ts : List Turn) : Bytes := ts.flatMap Turn.data

theorem fetched_concat (ts : List Turn) (t : Turn) : fetched (ts ++ [t]) = fetched ts ++ t.data := by
  simp [fetched]

variable {caller : Caller} {remote : Remote} {r : Restore} {a : Action} {past : List Turn}
  {content : Bytes}

/-! ## What a run keeps -/

theorem data_turn_of_error {e : ClientError} (failed : (perform caller remote a r).1 = .error e) :
    Turn.data (turn (perform caller) remote a r) = [] := by
  simp [Turn.data, turn, failed]

theorem data_turn_of_ok {x : Outcome} (granted : (perform caller remote a r).1 = .ok x) :
    Turn.data (turn (perform caller) remote a r) = x.data := by
  simp [Turn.data, turn, granted]

theorem Outcome.offset_take (phase : Phase) (x : Outcome) (r : Restore) :
    (x.take phase r).sequence.offset = r.sequence.offset + x.data.length := by
  cases x with
  | _ => rfl

theorem offset_turn (caller : Caller) (remote : Remote) (a : Action)
    (counted : r.sequence.offset = (fetched past).length) :
    (perform caller remote a r).2.sequence.offset =
      (fetched (past ++ [turn (perform caller) remote a r])).length := by
  rw [fetched_concat, List.length_append, ← counted]
  rcases perform_cases caller remote a r with
    ⟨e, failed, kept, _⟩ | ⟨phase, x, granted, _, _, effect, _⟩
  · rw [data_turn_of_error failed, kept]
    rfl
  · rw [data_turn_of_ok granted, effect, Outcome.offset_take]

/-- The offset counts the bytes that have come. -/
theorem offset_after (caller : Caller) (steps : List (Action × Remote)) :
    (after (perform caller) {} steps).sequence.offset =
      (fetched (turns (perform caller) {} steps)).length := by
  apply after_induct (fun past (r : Restore) => r.sequence.offset = (fetched past).length)
  · rfl
  · intro past r remote a counted
    exact offset_turn caller remote a counted

/-- The bytes that have come are the beginning of the file, and once a transfer is known its size is
that of the file. -/
structure Assembled (content : Bytes) (past : List Turn) (r : Restore) : Prop where
  offset : r.sequence.offset = (fetched past).length
  begins : fetched past <+: content
  size : r.sequence.id.isSome → r.totalSize = content.length ∧ content.length < 2 ^ 63

theorem Assembled.fetched_eq (assembled : Assembled content past r) :
    fetched past = content.take r.sequence.offset := by
  rw [assembled.offset]
  exact List.prefix_iff_eq_take.1 assembled.begins

theorem Assembled.offset_le (assembled : Assembled content past r) :
    r.sequence.offset ≤ content.length := by
  rw [assembled.offset]
  exact assembled.begins.length_le

theorem Assembled.begins_turn (assembled : Assembled content past r)
    (serves : Serves caller content remote) :
    fetched (past ++ [turn (perform caller) remote a r]) <+: content := by
  rw [fetched_concat]
  rcases perform_cases caller remote a r with
    ⟨e, failed, _⟩ | ⟨phase, x, granted, _, verdict, _⟩
  · rw [data_turn_of_error failed, List.append_nil]
    exact assembled.begins
  · rw [data_turn_of_ok granted]
    cases x with
    | fetched data =>
      have bound := (assembled.size (named_of_fetched verdict)).2
      have inside := assembled.offset_le
      -- the chunk begins where the ones before it end
      obtain ⟨k, slice⟩ := serves.data_eq verdict (by omega)
      have longer : fetched past ++ data = content.take (r.sequence.offset + k) := by
        rw [List.take_add, ← assembled.fetched_eq, slice]
      change fetched past ++ data <+: content
      rw [longer]
      exact List.take_prefix _ _
    | _ =>
      change fetched past ++ [] <+: content
      rw [List.append_nil]
      exact assembled.begins

/-- Each turn with an honest server leaves a beginning of the file. -/
theorem Assembled.turn (assembled : Assembled content past r)
    (serves : Serves caller content remote) :
    Assembled content (past ++ [turn (perform caller) remote a r])
      (perform caller remote a r).2 := by
  refine ⟨offset_turn caller remote a assembled.offset, assembled.begins_turn serves, ?_⟩
  rcases perform_cases caller remote a r with
    ⟨e, _, kept, size⟩ | ⟨phase, x, _, _, verdict, kept, size⟩
  · rw [kept, size]
    exact assembled.size
  · rw [kept, size]
    cases x with
    | opened session =>
      intro _
      have announced := serves.totalSize_eq verdict
      have bound := session.totalSize.toInt_lt
      simp only [Outcome.take]
      omega
    | fetched data => exact assembled.size
    | finished response => exact assembled.size

theorem assembled_after {steps : List (Action × Remote)}
    (serve : ∀ step ∈ steps, Serves caller content step.2) :
    Assembled content (turns (perform caller) {} steps) (after (perform caller) {} steps) := by
  apply after_induct_of (Assembled content)
  · exact ⟨rfl, List.nil_prefix, fun unknown => (by cases unknown)⟩
  · intro past r step member assembled
    exact assembled.turn (serve step member)

/-- All of the file has come just when the client says so. -/
theorem Assembled.isComplete_iff (assembled : Assembled content past r)
    (known : r.sequence.id.isSome) : r.isComplete = true ↔ fetched past = content := by
  unfold isComplete
  rw [(assembled.size known).1, assembled.offset]
  simp only [known, Bool.true_and, decide_eq_true_eq]
  constructor
  · intro long
    exact assembled.begins.eq_of_length_le long
  · intro whole
    exact Nat.le_of_eq (congrArg List.length whole.symm)

/-! ## The requests for chunks -/

theorem requests_turn (caller : Caller) (remote : Remote) (a : Action) (r : Restore) :
    Turn.requests (turn (perform caller) remote a r) = a.requests r.sequence :=
  Transfer.Turn.sent_eq (calls_perform caller remote a r)

/-- Only the next chunk is asked for as a chunk. -/
theorem eq_nextChunk_of_mem_requests {s : Sequence} {q : Request} (sent : q ∈ a.requests s)
    (typ : q.typ = MessageType.restoreChunkReq.code) :
    ∃ size id, a = .nextChunk size ∧ s.id = some id ∧ q = .ofOperation .restoreChunk
      (⟨id, Int64.ofNat s.offset, size⟩ : RestoreChunkRequest) := by
  unfold Action.requests at sent
  split at sent
  · simp only [Option.mem_toList] at sent
    cases a with
    | init request =>
      cases sent
      cases typ
    | resume id =>
      cases sent
      cases typ
    | nextChunk size =>
      obtain ⟨id, named, rfl⟩ := Option.map_eq_some_iff.1 sent
      exact ⟨size, id, rfl, named, rfl⟩
    | finish =>
      obtain ⟨id, named, rfl⟩ := Option.map_eq_some_iff.1 sent
      cases typ
  · cases sent

/-- A turn of a run that asks for a chunk asks for the one at the offset that counts the bytes that
came before. -/
theorem asks_of_mem_requests {steps : List (Action × Remote)} {later : List Turn} {t : Turn}
    {q : Request} (split : turns (perform caller) {} steps = past ++ t :: later)
    (sent : q ∈ Turn.requests t) (typ : q.typ = MessageType.restoreChunkReq.code) :
    ∃ (size : Int32) (x : RestoreChunkRequest), t.action = .nextChunk size ∧
      Json.Payload.parse q.payload = .ok x ∧ x.size = size ∧
      x.offset = Int64.ofNat (fetched past).length := by
  obtain ⟨before, a, remote, rest, _, rfl, rfl, _⟩ := turns_eq_append split
  rw [requests_turn] at sent
  obtain ⟨size, id, rfl, _, rfl⟩ := eq_nextChunk_of_mem_requests sent typ
  refine ⟨size, _, rfl, lawful_restoreChunkRequest.parse_print _, rfl, ?_⟩
  rw [offset_after caller before]

/-! ## The law -/

/-- Over any run of operations, against any server, each chunk is asked for at the offset that counts
the bytes that came before. So if every server of the run has the file and may otherwise fail as it
likes, the bytes that came are always the beginning of the file up to the offset, and a transfer
that is known is complete just when they are the whole file. -/
theorem downloads_reconstruct_the_file (caller : Caller) (steps : List (Action × Remote)) :
    let ts := turns (perform caller) {} steps
    let final := after (perform caller) {} steps
    (∀ past t later, ts = past ++ t :: later → ∀ q ∈ Turn.requests t,
      q.typ = MessageType.restoreChunkReq.code →
        ∃ (size : Int32) (x : RestoreChunkRequest), t.action = .nextChunk size ∧
          Json.Payload.parse q.payload = .ok x ∧ x.size = size ∧
          x.offset = Int64.ofNat (fetched past).length ∧
          ((fetched past).length < 2 ^ 63 → x.offset.toInt = (fetched past).length)) ∧
    ∀ content, (∀ step ∈ steps, Serves caller content step.2) →
      fetched ts = content.take final.sequence.offset ∧
        final.sequence.offset ≤ content.length ∧
        (final.sequence.id.isSome → (final.isComplete = true ↔ fetched ts = content)) := by
  intro ts final
  refine ⟨?_, ?_⟩
  · intro past t later split q sent typ
    obtain ⟨size, x, asking, parsed, wanted, counted⟩ := asks_of_mem_requests split sent typ
    refine ⟨size, x, asking, parsed, wanted, counted, ?_⟩
    intro short
    rw [counted]
    exact Int64.toInt_ofNat_of_lt short
  · intro content serve
    have assembled := assembled_after serve
    exact ⟨assembled.fetched_eq, assembled.offset_le, assembled.isComplete_iff⟩

/-- A file comes whole although a connection is lost between its two chunks. -/
theorem a_file_comes_whole_over_a_lost_connection :
    let caller : Caller := { address := "guard:7000" }
    let file : Bytes := [3, 1, 4, 1, 5]
    let steps : List (Action × Remote) := [(.init ⟨"lamp", "f-1", 1⟩, fileServer file),
      (.nextChunk 2, fileServer file), (.nextChunk 2, fun _ => .unsent "reset"),
      (.resume "t-1", fileServer file), (.nextChunk 9, fileServer file)]
    (after (perform caller) {} steps).isComplete = true ∧
      fetched (turns (perform caller) {} steps) = file := by
  intro caller file steps
  have serve : ∀ step ∈ steps, Serves caller file step.2 := by
    have honest := serves_fileServer caller file (by decide)
    have unreached := serves_unreached caller file "reset"
    intro step member
    simp only [steps, List.mem_cons, List.not_mem_nil, or_false] at member
    rcases member with rfl | rfl | rfl | rfl | rfl
    · exact honest
    · exact honest
    · exact unreached
    · exact honest
    · exact honest
  have complete : (after (perform caller) {} steps).isComplete = true := by decide +kernel
  have known : (after (perform caller) {} steps).sequence.id.isSome = true := by decide +kernel
  have law := (downloads_reconstruct_the_file caller steps).2 file serve
  exact ⟨complete, (law.2.2 known).1 complete⟩

end DeviceLink.Transfer.Restore
