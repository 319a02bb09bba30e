-- Who is online, as a client is told. The server writes the identifiers of the registry as a list
-- of texts, and the client reads just this list, whatever characters the identifiers have.
import DeviceLink.Exchange.Router
import DeviceLink.Proofs.Exchange.EndToEnd
import DeviceLink.Proofs.Json.Record
import DeviceLink.Proofs.Registry.Survivors
import DeviceLink.Proofs.Transfer.Attempt

namespace DeviceLink

/-! ## The list on the wire -/

theorem lawful_userList : Json.LawfulPayload UserList where
  fields := .cons Json.lawful_texts (by decide) .nil
  ofRecord_toRecord _ := rfl

theorem printItems_strings (ss : List String) :
    Json.printItems (ss.map .string) = ss.map Json.printString := by
  induction ss with
  | nil => rfl
  | cons s ss ih => rw [List.map_cons, Json.printItems, ih, Json.print, List.map_cons]

namespace Exchange

/-- The server writes the record that the client reads. -/
theorem print_listBody (ids : List DeviceId) :
    (listBody ids).print = Json.Payload.print (⟨ids.map (·.text)⟩ : UserList) := by
  have items : (ids.map fun id => Json.string id.text) = (ids.map (·.text)).map .string := by
    rw [List.map_map]
    rfl
  unfold listBody
  rw [items]
  change Json.print (.object [("users", .array _)]) = _
  rw [Json.print, Json.printMembers, Json.printMembers, Json.print, printItems_strings]
  rfl

theorem parse_listBody (ids : List DeviceId) :
    Json.Payload.parse (listBody ids).print = .ok (⟨ids.map (·.text)⟩ : UserList) := by
  rw [print_listBody, lawful_userList.parse_print]

/-- The answer to a request for the list. -/
def listAnswer (ids : List DeviceId) : Response :=
  .ofJson MessageType.listResp.code statusOk (listBody ids)

theorem fallback_onlineUsers (accepted : Credentials) (registry : Registry) :
    Handler.fallback accepted .onlineUsers registry =
      (some (listAnswer registry.list), registry) := rfl

/-- With the standard routes, the list is given as without any. -/
theorem standard_onlineUsers (accepted : Credentials) (registry : Registry) :
    (Router.standard accepted).handle .onlineUsers registry =
      (some (listAnswer registry.list), registry) := rfl

/-! ## The law -/

/-- A response that was sent is read just where it is within the limit of the reader and within
what a length of four bytes can say. -/
theorem read_sentBytes_iff {limit : Nat} {source : Source} {sent : Response}
    (plain : sent.typ ≠ magic) (arriving : source.toList = sentBytes (some sent)) :
    (Response.read limit source).1 = .ok sent ↔
      sent.body.length ≤ limit ∧ sent.body.length ≤ 2 ^ 32 - 1 := by
  constructor
  · intro read
    rw [(Response.gives_read limit source).result_eq] at read
    obtain ⟨h, body, -, within, length, rfl⟩ := outcome_eq_ok_iff.1 (Prod.ext read rfl)
    have := h.length.toNat_lt
    show body.length ≤ limit ∧ body.length ≤ 2 ^ 32 - 1
    omega
  · rintro ⟨wanted, sayable⟩
    have passes : Passes limit sent.typ sent.body := ⟨wanted, sayable, .inl plain⟩
    obtain ⟨typ, status, body⟩ := sent
    rw [passes.sentBytes_eq] at arriving
    exact read_response_eq passes arriving

/-- The request for the list has no payload. -/
theorem encode_onlineUsers :
    Request.onlineUsers.encode = .ok [MessageType.listReq.code, 0, 0] := rfl

/-- A client that gets the bytes of the answer has the list just where it can read the answer. -/
theorem ask_listAnswer_iff {c : Caller} {down : Source} {ids : List DeviceId}
    (arriving : down.toList = sentBytes (some (listAnswer ids))) :
    c.ask .onlineUsers (.stream down) = .ok (⟨ids.map (·.text)⟩ : UserList) ↔
      (listAnswer ids).body.length ≤ c.limit ∧ (listAnswer ids).body.length ≤ 2 ^ 32 - 1 := by
  have plain : (listAnswer ids).typ ≠ magic := show MessageType.listResp.code ≠ magic by decide
  rw [Caller.ask_eq_ok_iff, ← read_sentBytes_iff plain arriving]
  constructor
  · rintro ⟨r, called, -, -⟩
    have read := Caller.read_of_call called
    rw [eq_of_read_sentBytes plain arriving read] at read
    exact read
  · intro read
    refine ⟨listAnswer ids, ?_, rfl, parse_listBody ids⟩
    unfold Caller.call Caller.exchange
    simp only [encode_onlineUsers, Caller.read, read]
    rfl

/-- A server without a handler of its own, and one with the standard routes, give the list. -/
theorem answer_onlineUsers {s : Server} {accepted : Credentials}
    (standard : s.handler = .fallback accepted ∨ s.handler = (Router.standard accepted).handle)
    {up : Source} (arriving : up.toList = [MessageType.listReq.code, 0, 0]) :
    s.answer up = (some (listAnswer s.registry.list), s) := by
  have passes : Passes s.limit MessageType.listReq.code [] :=
    ⟨Nat.zero_le _, Nat.zero_le _, .inl (by decide)⟩
  have read : (Inbound.read s.limit up).1 = .ok (.request .onlineUsers) :=
    (gives_inbound passes (by decide) arriving).result_eq
  have given : s.handler .onlineUsers s.registry =
      (some (listAnswer s.registry.list), s.registry) := by
    rcases standard with same | same
    · rw [same, fallback_onlineUsers]
    · rw [same, standard_onlineUsers]
  unfold Server.answer serve
  simp only [read, given]

/-- A client that asks who is online is told the identifiers of the registry, each as often as it is
there and in the same order, whatever characters they have and in whatever pieces the bytes go
over, if and only if the answer is within its limit and within what a length of four bytes can say.
In a registry that began without entries, this is the order of the registrations that still stand,
the latest one first. -/
theorem a_client_is_told_who_is_online (s : Server) (c : Caller) (accepted : Credentials)
    (standard : s.handler = .fallback accepted ∨ s.handler = (Router.standard accepted).handle) :
    let answer := listAnswer s.registry.list
    Request.onlineUsers.encode = .ok [MessageType.listReq.code, 0, 0] ∧
      (∀ up : Source, up.toList = [MessageType.listReq.code, 0, 0] →
        s.answer up = (some answer, s)) ∧
      (∀ down : Source, down.toList = sentBytes (some answer) →
        (c.ask .onlineUsers (.stream down) =
            .ok (⟨s.registry.list.map (·.text)⟩ : UserList) ↔
          answer.body.length ≤ c.limit ∧ answer.body.length ≤ 2 ^ 32 - 1)) ∧
      ∀ policy ops, s.registry = ({ policy } : Registry).after ops →
        ∃ standing, Registry.Ranked (Registry.Since policy ops) standing ∧
          s.registry.list = standing.map (·.2.device) := by
  refine ⟨encode_onlineUsers, fun up arriving => answer_onlineUsers standard arriving,
    fun down arriving => ask_listAnswer_iff arriving, fun policy ops reached => ?_⟩
  obtain ⟨standing, entries, ranked⟩ :=
    Registry.entriesRanked_after (r := { policy }) rfl ops
  refine ⟨standing, ranked, ?_⟩
  unfold Registry.list
  rw [reached, ← entries, List.map_map]
  rfl

/-- Quotes, line ends and control characters arrive, and so does a name that is there twice. -/
theorem odd_names_are_listed_as_they_are :
    let odd : DeviceId := ⟨"a\"\\\n\u0001é", by decide⟩
    let s : Server := {
      handler := .fallback ⟨"admin", "secret"⟩
      registry := ({} : Registry).after [.register ⟨1, odd, none⟩,
        .register ⟨2, .adminConsole, none⟩, .register ⟨3, odd, none⟩] }
    ({ address := "guard:7000" } : Caller).ask Request.onlineUsers
        (.stream (.ofBytes (sentBytes (s.answer ⟨[[0xB1], [0, 0]], .closed⟩).1))) =
      .ok (⟨["a\"\\\n\u0001é", "ADMIN_CONSOLE", "a\"\\\n\u0001é"]⟩ : UserList) := by
  intro odd s
  obtain ⟨-, answered, told, -⟩ := a_client_is_told_who_is_online s { address := "guard:7000" }
    ⟨"admin", "secret"⟩ (.inl rfl)
  rw [answered ⟨[[0xB1], [0, 0]], .closed⟩ rfl]
  refine (told (.ofBytes _) ?_).2 ?_
  · simp [Source.ofBytes, Source.toList]
  · decide

end Exchange

end DeviceLink
