-- Requests of an admin that a device restore a file. The answer to one says whether the device was
-- told, and it was told just where the answer says so: one command was queued, for the newest
-- entry of the device, and a client can read there which file and which version are meant.
import DeviceLink.Exchange.Router
import DeviceLink.Proofs.Registry.Delivery
import DeviceLink.Proofs.Transfer.Payload

namespace DeviceLink.Exchange

open Json (Payload)
open Transfer (AdminRestoreRequest AdminRestoreResponse RestoreCommand)

variable {r r' : Registry} {id : String} {h h' : Handle} {q : AdminRestoreRequest} {payload : Bytes}
  {answer : Response}

/-! ## The entry that is meant -/

/-- Of the entries for an identifier this is the newest one. -/
def NewestEntry (r : Registry) (id : String) (h : Handle) : Prop :=
  h.device.text = id ∧ ∃ newer older, r.entries = newer ++ h :: older ∧
    ∀ e ∈ newer, e.device.text ≠ id

/-- It is the one that lookups find. -/
theorem newestEntry_iff_find? : NewestEntry r id h ↔ r.find? id = some h := by
  unfold NewestEntry Registry.find? Registry.isFor
  rw [List.find?_eq_some_iff_append]
  simp

theorem NewestEntry.unique (newest : NewestEntry r id h) (newest' : NewestEntry r id h') :
    h = h' := by
  rw [newestEntry_iff_find?] at newest newest'
  rw [newest] at newest'
  cases newest'
  rfl

/-- After a run it is the entry that was registered last of those that are left. -/
theorem newest_iff_newestEntry (policy : DuplicatePolicy) (ops : List Registry.Operation)
    (id : String) (conn : ConnId) : Registry.Newest policy ops id conn ↔
      ∃ h, NewestEntry (({ policy } : Registry).after ops) id h ∧ h.conn = conn := by
  have ranked := Registry.entriesRanked_after (r := { policy }) rfl ops
  simp only [newestEntry_iff_find?]
  exact Registry.newest_iff ranked id conn

/-! ## The command -/

/-- What a device is told: to restore this version of this file. -/
def wantedRestore (q : AdminRestoreRequest) : RestoreCommand :=
  ⟨"RESTORE_CMD", q.fileUuid, q.version⟩

/-- The entry can be told to restore the file: it is the newest one of the device, its writer is
there, and the command fits into a frame. -/
def CanTell (r : Registry) (q : AdminRestoreRequest) (h : Handle) : Prop :=
  NewestEntry r q.deviceId h ∧ r.isOpen h.conn = true ∧
    (Payload.print (wantedRestore q)).length ≤ 65535

/-- The entry was told to restore the file, and nothing else happened: one frame was queued for it,
and who reads the frame as a whole finds the command in it. -/
def Told (r : Registry) (q : AdminRestoreRequest) (h : Handle) (r' : Registry) : Prop :=
  ∃ bs, Registry.Queues r bs [h.conn] r' ∧
    ∀ limit, 65535 ≤ limit → ∃ f, Frame.decodeAll limit bs = ([f], []) ∧
      f.typ = MessageType.serverRestoreCmd.code ∧ f.isTruncated = false ∧
        Payload.parse f.payload = .ok (wantedRestore q)

theorem told_of_queues {bs : Bytes} (encodes : Frame.encode MessageType.serverRestoreCmd.code
    (Payload.print (wantedRestore q)) = .ok bs) (queues : Registry.Queues r bs [h.conn] r') :
    Told r q h r' := by
  have fits := Registry.le_of_encode encodes
  refine ⟨bs, queues, ?_⟩
  intro limit large
  refine ⟨_, Frame.decodeAll_of_encode limit encodes, rfl, ?_, ?_⟩
  · apply Bool.eq_false_iff.2
    rw [Ne, Frame.isTruncated_kept_iff]
    dsimp only
    omega
  · unfold Frame.kept
    dsimp only
    rw [List.take_of_length_le (by omega)]
    exact Transfer.lawful_restoreCommand.parse_print _

/-! ## The answer -/

/-- The answer to a request for a restore has this status and says this word. -/
structure Reports (answer : Response) (status : UInt16) (word : String) : Prop where
  typ : answer.typ = MessageType.adminRestoreResp.code
  status : answer.status = status
  body : ∃ note, Payload.parse answer.body = .ok (⟨word, note⟩ : AdminRestoreResponse)

theorem reports_restoreResponse (status : UInt16) (word note : String) :
    Reports (Handler.restoreResponse status word note) status word :=
  ⟨rfl, rfl, note, Transfer.lawful_adminRestoreResponse.parse_print _⟩

theorem Reports.word_eq {status status' : UInt16} {word word' : String}
    (reports : Reports answer status word) (reports' : Reports answer status' word') :
    word = word' := by
  obtain ⟨note, body⟩ := reports.body
  obtain ⟨note', body'⟩ := reports'.body
  rw [body] at body'
  cases body'
  rfl

/-- The word for whether a command was queued. -/
def wordFor (told : Bool) : String := if told then "ok" else "error"

/-- A request that can be read is answered with whether the command for it was queued. -/
theorem handle_of_parsed (accepted : Credentials) (r : Registry)
    (parsed : Payload.parse payload = .ok q) :
    let pushed := r.sendToDevice q.deviceId MessageType.serverRestoreCmd.code
      (Payload.print (wantedRestore q))
    ∃ note, (Router.standard accepted).handle ⟨MessageType.adminRestoreReq.code, payload⟩ r =
      (some (Handler.restoreResponse statusOk (wordFor pushed.1) note), pushed.2) := by
  have command : RestoreCommand.ofFile q.fileUuid q.version = wantedRestore q := rfl
  dsimp only
  generalize same : r.sendToDevice q.deviceId MessageType.serverRestoreCmd.code
    (Payload.print (wantedRestore q)) = pushed
  change ∃ note, Handler.adminRestore ⟨MessageType.adminRestoreReq.code, payload⟩ r = _
  unfold Handler.adminRestore
  simp only [parsed, command, same]
  cases pushed.1 with
  | true => exact ⟨"Restore command sent to device", rfl⟩
  | false => exact ⟨"Device Offline", rfl⟩

/-- Any other request is refused, and nothing is queued. -/
theorem handle_of_unparsed (accepted : Credentials) (r : Registry)
    (unparsed : ∀ q : AdminRestoreRequest, Payload.parse payload ≠ .ok q) :
    (Router.standard accepted).handle ⟨MessageType.adminRestoreReq.code, payload⟩ r =
      (some (Handler.restoreResponse statusBadRequest "error" "Invalid Payload"), r) := by
  change Handler.adminRestore ⟨MessageType.adminRestoreReq.code, payload⟩ r = _
  unfold Handler.adminRestore
  dsimp only
  split
  · rfl
  · rename_i q parsed
    exact absurd parsed (unparsed q)

/-! ## The law -/

/-- What becomes of a request for a restore that can be read. -/
structure Settles (r : Registry) (q : AdminRestoreRequest) (answer : Response) (r' : Registry) :
    Prop where
  answered : Reports answer 200 "ok" ∨ Reports answer 200 "error"
  ok_iff : Reports answer 200 "ok" ↔ ∃ h, CanTell r q h
  told : ∀ h, CanTell r q h → Told r q h r'
  unchanged : Reports answer 200 "error" → r' = r

theorem reports_wordFor_iff {told : Bool} {word : String}
    (reports : Reports answer statusOk (wordFor told)) :
    Reports answer 200 word ↔ word = wordFor told := by
  constructor
  · intro reports'
    exact reports'.word_eq reports
  · rintro rfl
    exact reports

theorem settles_of_pushes {told : Bool} (reports : Reports answer statusOk (wordFor told))
    (pushes : Registry.Pushes r (fun conn => ∃ h, NewestEntry r q.deviceId h ∧ h.conn = conn)
      MessageType.serverRestoreCmd.code (Payload.print (wantedRestore q)) (told, r')) :
    Settles r q answer r' := by
  have possible : told = true ↔ ∃ h, CanTell r q h := by
    refine pushes.accepted_iff_possible.trans ⟨?_, ?_⟩
    · rintro ⟨conn, ⟨h, newest, rfl⟩, fits, there⟩
      exact ⟨h, newest, there, fits⟩
    · rintro ⟨h, newest, there, fits⟩
      exact ⟨h.conn, ⟨h, newest, rfl⟩, fits, there⟩
  refine ⟨?_, ?_, ?_, ?_⟩
  · cases told with
    | true => exact .inl reports
    | false => exact .inr reports
  · rw [reports_wordFor_iff reports, ← possible]
    cases told <;> decide
  · intro h canTell
    obtain ⟨conn, bs, ⟨h', newest, rfl⟩, encodes, queues⟩ :=
      pushes.accepted_iff_queued.1 (possible.2 ⟨h, canTell⟩)
    obtain rfl := canTell.1.unique newest
    exact told_of_queues encodes queues
  · intro failed
    rw [reports_wordFor_iff reports] at failed
    apply pushes.unchanged_of_refused
    cases told with
    | true => exact absurd failed (by decide)
    | false => rfl

/-- Whatever the state of the registry, the admin is told what happened. A request that cannot be
read is refused and queues nothing. Any other is answered with "ok" just where the newest entry of
the device, which in a run is the one that registered last of those that are left, has a writer
still and the command fits into a frame; then that entry was sent the command, once, and nobody else
was sent anything. Otherwise the answer says "error" and nothing was queued. -/
theorem restores_are_reported_as_pushed :
    (∀ (accepted : Credentials) (r : Registry) (payload : Bytes), ∃ answer r',
      (Router.standard accepted).handle ⟨MessageType.adminRestoreReq.code, payload⟩ r =
        (some answer, r') ∧
      ((∀ q : AdminRestoreRequest, Payload.parse payload ≠ .ok q) →
        Reports answer 400 "error" ∧ r' = r) ∧
      ∀ q : AdminRestoreRequest, Payload.parse payload = .ok q → Settles r q answer r') ∧
    ∀ policy ops id conn, Registry.Newest policy ops id conn ↔
      ∃ h, NewestEntry (({ policy } : Registry).after ops) id h ∧ h.conn = conn := by
  refine ⟨?_, newest_iff_newestEntry⟩
  intro accepted r payload
  by_cases readable : ∃ q : AdminRestoreRequest, Payload.parse payload = .ok q
  · obtain ⟨q, parsed⟩ := readable
    obtain ⟨note, handled⟩ := handle_of_parsed accepted r parsed
    refine ⟨_, _, handled, ?_, ?_⟩
    · intro unparsed
      exact absurd parsed (unparsed q)
    · intro q' parsed'
      rw [parsed] at parsed'
      cases parsed'
      apply settles_of_pushes (reports_restoreResponse _ _ note)
      apply Registry.pushes_sendToDevice
      intro conn
      simp only [newestEntry_iff_find?]
  · refine ⟨_, _, handle_of_unparsed accepted r fun q parsed => readable ⟨q, parsed⟩, ?_, ?_⟩
    · intro _
      exact ⟨reports_restoreResponse _ _ _, rfl⟩
    · intro q parsed
      exact absurd ⟨q, parsed⟩ readable

/-- A lamp is there twice, but the writer of the newer entry is gone, so only the door is told. -/
theorem only_the_door_is_told :
    let lamp : DeviceId := ⟨"lamp", by decide⟩
    let door : DeviceId := ⟨"door", by decide⟩
    let ops : List Registry.Operation := [.connect lamp none, .register ⟨1, lamp, none⟩,
      .connect door none, .register ⟨2, door, none⟩, .connect lamp none, .register ⟨3, lamp, none⟩,
      .dropWriter 3]
    let r := ({ policy := .allow } : Registry).after ops
    let handle (payload : Bytes) :=
      (Router.standard ⟨"admin", "secret"⟩).handle ⟨MessageType.adminRestoreReq.code, payload⟩ r
    let forLamp : AdminRestoreRequest := ⟨"lamp", "f", 3⟩
    let forDoor : AdminRestoreRequest := ⟨"door", "f", 3⟩
    (∃ answer, handle [] = (some answer, r) ∧ Reports answer 400 "error") ∧
    (∃ answer, handle (Payload.print forLamp) = (some answer, r) ∧ Reports answer 200 "error") ∧
    (∃ answer r', handle (Payload.print forDoor) = (some answer, r') ∧ Reports answer 200 "ok" ∧
      Told r forDoor ⟨2, door, none⟩ r') ∧
    Registry.Newest .allow ops "lamp" 3 := by
  intro lamp door ops r handle forLamp forDoor
  obtain ⟨law, newest⟩ := restores_are_reported_as_pushed
  have entries : r.entries = [⟨3, lamp, none⟩, ⟨2, door, none⟩, ⟨1, lamp, none⟩] := by decide
  have newestLamp : NewestEntry r "lamp" ⟨3, lamp, none⟩ := ⟨rfl, [], _, entries, nofun⟩
  have newestDoor : NewestEntry r "door" ⟨2, door, none⟩ :=
    ⟨rfl, [⟨3, lamp, none⟩], _, entries, by decide⟩
  refine ⟨?_, ?_, ?_, (newest .allow ops "lamp" 3).2 ⟨_, newestLamp, rfl⟩⟩
  · obtain ⟨answer, r', handled, refused, -⟩ := law ⟨"admin", "secret"⟩ r []
    obtain ⟨reports, same⟩ := refused nofun
    subst same
    exact ⟨answer, handled, reports⟩
  · obtain ⟨answer, r', handled, -, settles⟩ :=
      law ⟨"admin", "secret"⟩ r (Payload.print forLamp)
    have settled := settles forLamp (Transfer.lawful_adminRestoreRequest.parse_print forLamp)
    have silent : ¬ Reports answer 200 "ok" := by
      rw [settled.ok_iff]
      rintro ⟨h, newest', there, -⟩
      obtain rfl := newest'.unique newestLamp
      exact absurd there (by decide)
    have reports := settled.answered.resolve_left silent
    obtain rfl := settled.unchanged reports
    exact ⟨answer, handled, reports⟩
  · obtain ⟨answer, r', handled, -, settles⟩ :=
      law ⟨"admin", "secret"⟩ r (Payload.print forDoor)
    have settled := settles forDoor (Transfer.lawful_adminRestoreRequest.parse_print forDoor)
    have canTell : CanTell r forDoor ⟨2, door, none⟩ := ⟨newestDoor, by decide, by decide +kernel⟩
    exact ⟨answer, r', handled, settled.ok_iff.2 ⟨_, canTell⟩, settled.told _ canTell⟩

end DeviceLink.Exchange
