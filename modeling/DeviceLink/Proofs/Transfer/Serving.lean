-- Servers that have a file to restore: what makes them honest, and one that is.
import DeviceLink.Proofs.Exchange.EndToEnd
import DeviceLink.Proofs.Transfer.Download
import DeviceLink.Proofs.Transfer.Payload

namespace DeviceLink.Transfer.Restore

/-! ## Honest servers -/

/-- A server that has a file. Whenever it opens or resumes a transfer it announces the size of the
file, and the bytes that it gives are those at the offset that the request names. Otherwise it may
fail as it likes. -/
structure Serves (caller : Caller) (content : Bytes) (remote : Remote) : Prop where
  announces : ∀ q (session : RestoreInitResponse),
    q.typ = MessageType.restoreInitReq.code ∨ q.typ = MessageType.restoreResumeReq.code →
      caller.Answers q (remote q) session → session.status = "ok" →
        session.totalSize.toInt = content.length
  gives : ∀ q (x : RestoreChunkRequest) (chunk : RestoreChunkResponse) data,
    q.typ = MessageType.restoreChunkReq.code → Json.Payload.parse q.payload = .ok x →
      caller.Answers q (remote q) chunk → decodeChunkData chunk.data = .ok data →
        ∃ k ≤ x.size.toInt.toNat, data = (content.drop x.offset.toInt.toNat).take k

variable {caller : Caller} {remote : Remote} {a : Action} {content : Bytes}

theorem Serves.totalSize_eq (serves : Serves caller content remote) {s : Sequence}
    {session : RestoreInitResponse} (granted : a.verdict caller remote s = .ok (.opened session)) :
    session.totalSize.toInt = content.length := by
  cases a with
  | init request =>
    obtain ⟨_, welcomed, ⟨⟩⟩ := map_eq_ok_iff.1 granted
    obtain ⟨answers, good⟩ := welcome_eq_ok_iff.1 welcomed
    exact serves.announces _ _ (.inl rfl) answers good
  | resume id =>
    obtain ⟨_, welcomed, ⟨⟩⟩ := map_eq_ok_iff.1 granted
    obtain ⟨answers, good⟩ := welcome_eq_ok_iff.1 welcomed
    exact serves.announces _ _ (.inr rfl) answers good
  | nextChunk size => cases yields_of_verdict granted
  | finish => cases yields_of_verdict granted

theorem named_of_fetched {s : Sequence} {data : Bytes}
    (granted : a.verdict caller remote s = .ok (.fetched data)) : s.id.isSome := by
  cases yields_of_verdict granted with
  | nextChunk size data =>
    cases named : s.id with
    | some id => rfl
    | none =>
      unfold Action.verdict Action.request? at granted
      rw [named] at granted
      cases granted

theorem Serves.data_eq (serves : Serves caller content remote) {s : Sequence} {data : Bytes}
    (granted : a.verdict caller remote s = .ok (.fetched data)) (short : s.offset < 2 ^ 63) :
    ∃ k, data = (content.drop s.offset).take k := by
  obtain ⟨id, named⟩ := Option.isSome_iff_exists.1 (named_of_fetched granted)
  cases yields_of_verdict granted with
  | nextChunk size data =>
    unfold Action.verdict Action.request? at granted
    rw [named] at granted
    obtain ⟨_, came, ⟨⟩⟩ := map_eq_ok_iff.1 granted
    obtain ⟨chunk, answers, decoded⟩ := fetch_eq_ok_iff.1 came
    let x : RestoreChunkRequest := ⟨id, Int64.ofNat s.offset, size⟩
    have asked : Json.Payload.parse (Request.ofOperation .restoreChunk x).payload = .ok x :=
      lawful_restoreChunkRequest.parse_print x
    obtain ⟨k, _, slice⟩ := serves.gives _ x chunk data rfl asked answers decoded
    refine ⟨k, ?_⟩
    rw [slice, Int64.toInt_ofNat_of_lt short]
    rfl

/-! ## A server that has a file -/

/-- The transfer that the server opens. -/
def openedFile (content : Bytes) : RestoreInitResponse :=
  ⟨"t-1", "notes.txt", Int64.ofNat content.length, "", "ok"⟩

/-- The part of the file that a request for a chunk names. -/
def slice (content : Bytes) (x : RestoreChunkRequest) : Bytes :=
  (content.drop x.offset.toInt.toNat).take x.size.toInt.toNat

def sliceOfFile (content : Bytes) (x : RestoreChunkRequest) : RestoreChunkResponse :=
  ⟨Text.Hex.encode (slice content x), Int32.ofNat (slice content x).length, "ok"⟩

def fileAnswer (content : Bytes) (q : Request) : Response :=
  if q.typ = MessageType.restoreChunkReq.code then
    match Json.Payload.parse q.payload with
    | .ok x => .ofPayload MessageType.restoreChunkResp.code Exchange.statusOk (sliceOfFile content x)
    | .error _ => Exchange.refusal "Invalid Payload"
  else .ofPayload MessageType.restoreInitResp.code Exchange.statusOk (openedFile content)

/-- A server that answers all requests from a file, and never fails. -/
def fileServer (content : Bytes) : Remote := fun q =>
  .stream (.ofBytes (Exchange.sentBytes (some (fileAnswer content q))))

theorem typ_fileAnswer (content : Bytes) (q : Request) :
    (fileAnswer content q).typ ≠ Exchange.magic := by
  have chunk : MessageType.restoreChunkResp.code ≠ Exchange.magic := by decide
  have opened : MessageType.restoreInitResp.code ≠ Exchange.magic := by decide
  unfold fileAnswer
  split
  · split
    · exact chunk
    · decide
  · exact opened

/-- A caller that understands the server at all reads the answer that it gave. -/
theorem parse_fileAnswer {α : Type} [Json.Payload α] {q : Request} {x : α}
    (answers : caller.Answers q (fileServer content q) x) :
    Json.Payload.parse (fileAnswer content q).body = .ok x := by
  obtain ⟨r, called, _, parsed⟩ := answers
  have read := Caller.read_of_call called
  have same := Exchange.eq_of_read_sentBytes (typ_fileAnswer content q) (List.append_nil _) read
  rw [← same]
  exact parsed

/-- The server is honest, whatever the file. -/
theorem serves_fileServer (caller : Caller) (content : Bytes) (short : content.length < 2 ^ 63) :
    Serves caller content (fileServer content) where
  announces q session opens answers _ := by
    have parsed := parse_fileAnswer answers
    have other : q.typ ≠ MessageType.restoreChunkReq.code := by
      rcases opens with typ | typ
      · rw [typ]
        decide
      · rw [typ]
        decide
    unfold fileAnswer at parsed
    rw [if_neg other] at parsed
    cases (lawful_restoreInitResponse.parse_print (openedFile content)).symm.trans parsed
    exact Int64.toInt_ofNat_of_lt short
  gives q x chunk data typ asked answers decoded := by
    have parsed := parse_fileAnswer answers
    unfold fileAnswer at parsed
    rw [if_pos typ, asked] at parsed
    cases (lawful_restoreChunkResponse.parse_print (sliceOfFile content x)).symm.trans parsed
    cases (decodeChunkData_encode (slice content x)).symm.trans decoded
    exact ⟨_, Nat.le_refl _, rfl⟩

/-- A server that is never reached is honest. -/
theorem serves_unreached (caller : Caller) (content : Bytes) (reason : String) :
    Serves caller content fun _ => .unsent reason := by
  have unanswered : ∀ {α : Type} [Json.Payload α] q (x : α),
      ¬ caller.Answers q (.unsent reason) x := by
    rintro α _ q x ⟨r, called, _⟩
    unfold Caller.call Caller.exchange at called
    cases encoded : q.encode with
    | error cause =>
      rw [encoded] at called
      cases called
    | ok bs =>
      rw [encoded] at called
      cases called
  constructor
  · intro q session _ answers
    exact absurd answers (unanswered q session)
  · intro q x chunk data _ _ answers
    exact absurd answers (unanswered q chunk)

end DeviceLink.Transfer.Restore
