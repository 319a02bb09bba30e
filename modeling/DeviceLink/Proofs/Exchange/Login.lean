-- Logins: which payloads present the credentials that a server accepts, by a grammar of what it
-- reads, and that a client logs in with these credentials alone, whatever characters they have.
import DeviceLink.Exchange.Router
import DeviceLink.Proofs.Exchange.OnlineList
import DeviceLink.Proofs.Json.TextRecord

namespace DeviceLink.Exchange

variable {payload : Bytes} {given accepted : Credentials} {c : Caller} {s : Server}
  {username password : String} {device : Option DeviceId}

/-! ## What a payload presents -/

/-- The payload is a record with these credentials, and nothing but blanks follows it. A part that
is left out is empty. -/
def Presents (payload : Bytes) (given : Credentials) : Prop :=
  ∃ texts rest, Json.Gives ["username", "password"] payload texts rest ∧ Json.Blanks rest [] ∧
    given = ⟨Json.textOf texts "username", Json.textOf texts "password"⟩

/-- A payload is read as credentials just where it presents them. -/
theorem parse_eq_ok_iff : Json.Payload.parse payload = .ok given ↔ Presents payload given := by
  have distinct : ["username", "password"].Nodup := by decide
  unfold Json.Payload.parse Json.Payload.read
  rw [Json.readAll_eq_ok_iff]
  simp only [Json.Read.map_eq_ok_iff]
  constructor
  · rintro ⟨rest, ⟨r, read, rfl⟩, blanks⟩
    obtain ⟨texts, gives, rfl⟩ := (Json.read_textFields_eq_ok_iff distinct).1 read
    exact ⟨texts, rest, gives, blanks, rfl⟩
  · rintro ⟨texts, rest, gives, blanks, rfl⟩
    refine ⟨rest, ⟨Json.textRecord ["username", "password"] texts, ?_, rfl⟩, blanks⟩
    exact (Json.read_textFields_eq_ok_iff distinct).2 ⟨texts, gives, rfl⟩

/-- A payload presents one pair of credentials at most. -/
theorem Presents.unique {given' : Credentials} (presents : Presents payload given)
    (presents' : Presents payload given') : given = given' := by
  rw [← parse_eq_ok_iff] at presents presents'
  rw [presents] at presents'
  cases presents'
  rfl

/-- What a client writes for a login, as texts with names. -/
def loginTexts (username password : String) (device : Option DeviceId) : List (String × String) :=
  ("username", username) :: ("password", password) ::
    (device.map fun d => ("device_id", d.text)).toList

theorem loginPayload_eq (username password : String) (device : Option DeviceId) :
    Request.loginPayload username password device =
      Json.printObject (Json.stringMembers (loginTexts username password device)) := by
  cases device with
  | _ => rfl

/-- What a client writes presents what it was given, and its identifier counts for nothing. -/
theorem presents_loginPayload_iff : Presents (Request.loginPayload username password device) given ↔
    given = ⟨username, password⟩ := by
  have kept : Json.ofNames ["username", "password"] (loginTexts username password device) =
      [("username", username), ("password", password)] := by
    cases device with
    | _ => rfl
  have presents :
      Presents (Request.loginPayload username password device) ⟨username, password⟩ := by
    have distinct : ((Json.ofNames ["username", "password"]
        (loginTexts username password device)).map Prod.fst).Nodup := by
      rw [kept]
      change ["username", "password"].Nodup
      decide
    have gives := Json.gives_printObject distinct []
    rw [kept, List.append_nil, ← loginPayload_eq] at gives
    exact ⟨_, [], gives, .nil [], rfl⟩
  constructor
  · intro presents'
    exact presents'.unique presents
  · rintro rfl
    exact presents

/-! ## The decision -/

/-- The answer to a login that is accepted. -/
def granted : Response :=
  ⟨MessageType.loginResp.code, statusOk, noteBody "message" "Login Successful"⟩

/-- The answer to any other login. -/
def denied : Response :=
  ⟨MessageType.loginResp.code, statusUnauthorized, noteBody "error" "Invalid Credentials"⟩

theorem accepts_iff : accepts accepted payload = true ↔ Presents payload accepted := by
  rw [← parse_eq_ok_iff]
  unfold accepts
  split
  · next given parsed => simp [parsed]
  · next cause refused => simp [refused]

-- A member that nobody asked for is skipped, and a password that is left out is empty; a name that
-- comes twice is refused.
example : accepts ⟨"a", ""⟩ (Text.utf8 "\x7b\"x\":[1,null],\"username\":\"\\u0061\"\x7d") = true ∧
    accepts ⟨"a", ""⟩ (Text.utf8 "\x7b\"username\":\"a\",\"username\":\"a\"\x7d") = false := by
  decide +kernel

theorem fallback_of_presents (presents : Presents payload accepted) (online : List DeviceId) :
    fallback accepted online ⟨MessageType.loginReq.code, payload⟩ = granted :=
  if_pos (accepts_iff.2 presents)

theorem fallback_of_not_presents (other : ¬ Presents payload accepted) (online : List DeviceId) :
    fallback accepted online ⟨MessageType.loginReq.code, payload⟩ = denied :=
  if_neg (mt accepts_iff.1 other)

/-- The answer of a server to a login. -/
theorem handler_login
    (standard : s.handler = .fallback accepted ∨ s.handler = (Router.standard accepted).handle) :
    s.handler ⟨MessageType.loginReq.code, payload⟩ s.registry =
      (some (fallback accepted s.registry.list ⟨MessageType.loginReq.code, payload⟩),
        s.registry) := by
  rcases standard with same | same
  · rw [same]
    rfl
  · rw [same]
    rfl

/-! ## Over the wire -/

/-- A server answers no request that is longer than its limit. -/
theorem answer_of_long {up : Source} {typ : UInt8} (plain : typ ≠ magic)
    (sayable : payload.length ≤ 2 ^ 32 - 1)
    (arriving : up.toList = (Shape.ofLength payload.length).header typ payload.length ++ payload)
    (long : s.limit < payload.length) : (s.answer up).1 = none := by
  have header := RequestHeader.parse?_header sayable (.inl plain) payload
  rw [← arriving] at header
  have refused : (Inbound.read s.limit up).1 = .error (.oversize payload.length) := by
    rw [(Inbound.gives_read s.limit up).result_eq]
    unfold Inbound.outcome
    simp only [header, toNat_lengthField sayable, long, if_true]
  unfold Server.answer serve
  simp only [refused]

theorem read_nothing_ne_ok {limit : Nat} {down : Source} {r : Response}
    (nothing : down.toList = []) : (Response.read limit down).1 ≠ .ok r := by
  intro read
  rw [(Response.gives_read limit down).result_eq] at read
  obtain ⟨h, body, parsed, -⟩ := outcome_eq_ok_iff.1 (Prod.ext read rfl)
  rw [nothing] at parsed
  cases parsed

/-- A request is answered just where it is within the limit of the server, its answer is within the
limit of the client, and lengths of four bytes can say how long both are. -/
theorem call_eq_ok_iff {typ : UInt8} {sent r : Response}
    (answers : s.handler ⟨typ, payload⟩ s.registry = (some sent, s.registry))
    (opens : opensExchange typ = true) (plain : typ ≠ magic) (plain' : sent.typ ≠ magic)
    {up down : Source} (there : ∀ bs, Request.encode ⟨typ, payload⟩ = .ok bs → up.toList = bs)
    (back : down.toList = sentBytes (s.answer up).1) :
    c.call ⟨typ, payload⟩ (.stream down) = .ok r ↔ r = sent ∧
      (payload.length ≤ s.limit ∧ payload.length ≤ 2 ^ 32 - 1) ∧
      sent.body.length ≤ c.limit ∧ sent.body.length ≤ 2 ^ 32 - 1 := by
  have answered (passes : Passes s.limit typ payload) : (s.answer up).1 = some sent := by
    have taken : (Inbound.read s.limit up).1 = .ok (.request ⟨typ, payload⟩) :=
      (gives_inbound passes opens (there _ passes.encode_request)).result_eq
    unfold Server.answer serve
    simp only [taken, answers]
  constructor
  · intro called
    have read := Caller.read_of_call called
    by_cases sayable : payload.length ≤ 2 ^ 32 - 1
    · have arriving := there _ (by rw [encode_request_eq, if_pos sayable, List.nil_append])
      by_cases wanted : payload.length ≤ s.limit
      · rw [answered ⟨wanted, sayable, .inl plain⟩] at back
        obtain rfl := eq_of_read_sentBytes plain' back read
        exact ⟨rfl, ⟨wanted, sayable⟩, (read_sentBytes_iff plain' back).1 read⟩
      · rw [answer_of_long plain sayable arriving (Nat.lt_of_not_le wanted)] at back
        exact absurd read (read_nothing_ne_ok back)
    · unfold Caller.call Caller.exchange at called
      rw [encode_request_eq, if_neg sayable] at called
      cases called
  · rintro ⟨rfl, ⟨wanted, sayable⟩, within⟩
    have passes : Passes s.limit typ payload := ⟨wanted, sayable, .inl plain⟩
    rw [answered passes] at back
    have read := (read_sentBytes_iff plain' back).2 within
    unfold Caller.call Caller.exchange
    simp only [passes.encode_request, Caller.read, read]
    rfl

/-- A client that sends the accepted credentials is granted the login just where both messages can
pass. -/
theorem call_login_iff
    (standard : s.handler = .fallback accepted ∨ s.handler = (Router.standard accepted).handle)
    {up down : Source}
    (there : ∀ bs, (Request.login username password device).encode = .ok bs → up.toList = bs)
    (back : down.toList = sentBytes (s.answer up).1) :
    (∃ r, c.call (.login username password device) (.stream down) = .ok r ∧ r.status = 200) ↔
      accepted = ⟨username, password⟩ ∧
        ((Request.loginPayload username password device).length ≤ s.limit ∧
          (Request.loginPayload username password device).length ≤ 2 ^ 32 - 1) ∧
        granted.body.length ≤ c.limit := by
  have short : granted.body.length ≤ 2 ^ 32 - 1 := by decide
  unfold Request.login at *
  rw [← @presents_loginPayload_iff accepted username password device]
  generalize Request.loginPayload username password device = payload at *
  have answers : s.handler ⟨MessageType.loginReq.code, payload⟩ s.registry = _ :=
    handler_login standard
  by_cases presents : Presents payload accepted
  · rw [fallback_of_presents presents] at answers
    simp only [call_eq_ok_iff answers (by decide) (by decide) (by decide) there back]
    constructor
    · rintro ⟨r, ⟨-, sizes, within, -⟩, -⟩
      exact ⟨presents, sizes, within⟩
    · rintro ⟨-, sizes, within⟩
      exact ⟨granted, ⟨rfl, sizes, within, short⟩, rfl⟩
  · rw [fallback_of_not_presents presents] at answers
    simp only [call_eq_ok_iff answers (by decide) (by decide) (by decide) there back]
    constructor
    · rintro ⟨r, ⟨rfl, -⟩, granted⟩
      exact absurd granted (by decide)
    · rintro ⟨presented, -⟩
      exact absurd presented presents

/-! ## The law -/

/-- A login is granted just where its payload presents the accepted credentials, and denied
otherwise. So a client logs in with these credentials alone, if its request is within the limit of
the server and the answer within its own: they may hold any characters, and the identifier that the
client sends along counts for nothing. -/
theorem only_the_accepted_credentials_log_in (accepted : Credentials) (s : Server) (c : Caller)
    (standard : s.handler = .fallback accepted ∨ s.handler = (Router.standard accepted).handle) :
    (∀ payload, ∃ answer,
      s.handler ⟨MessageType.loginReq.code, payload⟩ s.registry = (some answer, s.registry) ∧
        (answer.status = 200 ↔ Presents payload accepted) ∧
        (answer.status = 401 ↔ ¬ Presents payload accepted)) ∧
    ∀ (username password : String) (device : Option DeviceId),
      let request := Request.login username password device
      ∀ up down : Source, (∀ bs, request.encode = .ok bs → up.toList = bs) →
        down.toList = sentBytes (s.answer up).1 →
          ((∃ r, c.call request (.stream down) = .ok r ∧ r.status = 200) ↔
            (username = accepted.username ∧ password = accepted.password) ∧
              (request.payload.length ≤ s.limit ∧ request.payload.length ≤ 2 ^ 32 - 1) ∧
              granted.body.length ≤ c.limit) := by
  constructor
  · intro payload
    refine ⟨_, handler_login standard, ?_⟩
    by_cases presents : Presents payload accepted
    · rw [fallback_of_presents presents]
      exact ⟨iff_of_true rfl presents, iff_of_false (by decide) fun other => other presents⟩
    · rw [fallback_of_not_presents presents]
      exact ⟨iff_of_false (by decide) presents, iff_of_true rfl presents⟩
  · intro username password device request up down there back
    have same : accepted = ⟨username, password⟩ ↔
        username = accepted.username ∧ password = accepted.password := by
      constructor
      · rintro rfl
        exact ⟨rfl, rfl⟩
      · rintro ⟨rfl, rfl⟩
        rfl
    rw [call_login_iff standard there back, same]
    exact Iff.rfl

/-- Quotes, control characters and a backslash log in, sent along with an identifier, and a
password that lacks its last character does not. -/
theorem odd_credentials_log_in :
    let user := "a\"\\\n\u0001é"
    let device : DeviceId := ⟨"GUARD-\"7", by decide⟩
    let s : Server := { handler := .fallback ⟨user, "p\t\"'"⟩ }
    let c : Caller := { address := "guard:7000" }
    let right := Request.login user "p\t\"'" (some device)
    let wrong := Request.login user "p\t\"" (some device)
    ∃ up up' : Source, right.encode = .ok up.toList ∧ wrong.encode = .ok up'.toList ∧
      (∃ r, c.call right (.stream (.ofBytes (sentBytes (s.answer up).1))) = .ok r ∧
        r.status = 200) ∧
      ¬ ∃ r, c.call wrong (.stream (.ofBytes (sentBytes (s.answer up').1))) = .ok r ∧
        r.status = 200 := by
  intro user device s c right wrong
  obtain ⟨-, logsIn⟩ := only_the_accepted_credentials_log_in ⟨user, "p\t\"'"⟩ s c (.inl rfl)
  have whole (bs : Bytes) : (Source.ofBytes bs).toList = bs := List.append_nil bs
  have encoded (request : Request) (short : request.payload.length ≤ 2 ^ 32 - 1) :
      ∃ up : Source, request.encode = .ok up.toList := by
    rw [encode_request_eq, if_pos short]
    exact ⟨.ofBytes _, by rw [whole]⟩
  have arrives {request : Request} {up : Source} (sent : request.encode = .ok up.toList) :
      ∀ bs, request.encode = .ok bs → up.toList = bs := fun bs encoded => by
    rw [sent] at encoded
    exact Except.ok.inj encoded
  obtain ⟨up, sent⟩ := encoded right (by decide)
  obtain ⟨up', sent'⟩ := encoded wrong (by decide)
  refine ⟨up, up', sent, sent', ?_, ?_⟩
  · exact (logsIn user "p\t\"'" (some device) up _ (arrives sent) (whole _)).2
      ⟨⟨rfl, rfl⟩, ⟨by decide, by decide⟩, by decide⟩
  · rw [logsIn user "p\t\"" (some device) up' _ (arrives sent') (whole _)]
    rintro ⟨⟨-, same⟩, -⟩
    exact absurd same (by decide)

/-- A server whose limit is 16 bytes does not answer the right login at all. -/
theorem a_login_beyond_the_limit_is_not_answered :
    let s : Server := { handler := .fallback ⟨"admin", "admin"⟩, limit := 16 }
    let c : Caller := { address := "guard:7000" }
    let up : Source := ⟨[[0xA1, 0, 0x27],
      Text.utf8 "\x7b\"username\":\"admin\",\"password\":\"admin\"\x7d"], .closed⟩
    (Request.login "admin" "admin" none).encode = .ok up.toList ∧ (s.answer up).1 = none ∧
      c.call (.login "admin" "admin" none) (.stream (.ofBytes (sentBytes (s.answer up).1))) =
        .error (.link .closed) := by
  decide +kernel

end DeviceLink.Exchange
