-- A whole exchange: the request goes to the handler of the server as the client made it, and the
-- answer comes back as the handler gave it, in whatever layout and pieces the two go over.
import DeviceLink.Client.Caller
import DeviceLink.Proofs.Exchange.Inbound
import DeviceLink.Proofs.Exchange.RoundTrip
import DeviceLink.Server.Step

namespace DeviceLink

open Receive (Gives)

/-! ## Handlers that are watched -/

namespace Exchange

/-- What a server does with a connection when its handler has another state than the registry. -/
def serveWith {σ : Type} (limit : Nat) (handler : Request → σ → Option Response × σ)
    (source : Source) (state : σ) : Option Response × σ :=
  match (Inbound.read limit source).1 with
  | .ok (.request request) => handler request state
  | .ok (.rejected _) => (some unknownRequest, state)
  | .error _ => (none, state)

theorem serveWith_registry (limit : Nat) (handler : Handler) (source : Source)
    (registry : Registry) :
    serveWith limit handler source registry = serve limit handler source registry := rfl

end Exchange

/-- The handler, noting each request that it is given. -/
def Handler.watched (handler : Handler) (request : Request) :
    Registry × List Request → Option Response × (Registry × List Request) :=
  fun (registry, asked) =>
    let (response, registry) := handler request registry
    (response, registry, asked ++ [request])

namespace Exchange

/-- A handler answers as it would if nobody watched it. -/
theorem serveWith_watched (limit : Nat) (handler : Handler) (source : Source)
    (registry : Registry) (asked : List Request) :
    let watched := serveWith limit handler.watched source (registry, asked)
    (watched.1, watched.2.1) = serve limit handler source registry := by
  unfold serveWith serve
  rcases (Inbound.read limit source).1 with cause | request | typ
  · rfl
  · rfl
  · rfl

/-! ## Messages that pass -/

/-- A message passes to a reader with the given limit. It is within the limit and within what a
length of four bytes can say, and it is no short message of the magic type. -/
structure Passes (limit : Nat) (typ : UInt8) (payload : Bytes) : Prop where
  wanted : payload.length ≤ limit
  sayable : payload.length ≤ 2 ^ 32 - 1
  plain : typ ≠ magic ∨ 65535 < payload.length

variable {limit : Nat} {s : Source} {typ : UInt8} {status : UInt16} {payload : Bytes}

/-- A server reads a request that passes, and leaves nothing of it. -/
theorem gives_inbound (passes : Passes limit typ payload) (opens : opensExchange typ = true)
    (arriving : s.toList = (Shape.ofLength payload.length).header typ payload.length ++ payload) :
    Gives (Inbound.read limit) s (.ok (.request ⟨typ, payload⟩)) [] := by
  have header := RequestHeader.parse?_header passes.sayable passes.plain payload
  rw [← arriving] at header
  have whole : Bytes.cut? payload.length payload = some (payload, []) :=
    Bytes.cut?_eq_some_iff.2 ⟨(List.append_nil payload).symm, rfl⟩
  have found : Inbound.outcome limit s.ending s.toList = (.ok (.request ⟨typ, payload⟩), []) := by
    simp only [Inbound.outcome, header, toNat_lengthField passes.sayable,
      Nat.not_lt.2 passes.wanted, opens, whole, if_true, if_false]
  have gives := Inbound.gives_read limit s
  rwa [found] at gives

/-- A client reads a response that passes. -/
theorem read_response_eq (passes : Passes limit typ payload)
    (arriving : s.toList = (Shape.ofLength payload.length).header typ payload.length ++
      (Bytes.be16 status.toNat ++ payload)) :
    (Response.read limit s).1 = .ok ⟨typ, status, payload⟩ := by
  have header := ResponseHeader.parse?_header status passes.sayable passes.plain payload
  rw [← arriving] at header
  have found : Response.outcome limit s.ending s.toList = (.ok ⟨typ, status, payload⟩, []) := by
    refine outcome_eq_ok_iff.2
      ⟨⟨typ, .ofNat payload.length, status⟩, payload, ?_, ?_, ?_, rfl⟩
    · rw [header, List.append_nil]
    · rw [toNat_lengthField passes.sayable]
      exact passes.wanted
    · rw [toNat_lengthField passes.sayable]
  rw [(Response.gives_read limit s).result_eq, found]

/-- A client that reads anything at all from what a server sent reads the response. -/
theorem eq_of_read_sentBytes {sent got : Response} (plain : sent.typ ≠ magic)
    (arriving : s.toList = sentBytes (some sent)) (read : (Response.read limit s).1 = .ok got) :
    got = sent := by
  obtain ⟨typ, status, body⟩ := sent
  rw [(Response.gives_read limit s).result_eq] at read
  obtain ⟨h, bytes, parsed, -, length, rfl⟩ := outcome_eq_ok_iff.1 (Prod.ext read rfl)
  unfold sentBytes at arriving
  rw [Option.map_some, encode_response_eq] at arriving
  by_cases sayable : body.length ≤ 2 ^ 32 - 1
  · rw [if_pos sayable] at arriving
    rw [arriving, ResponseHeader.parse?_header status sayable (.inl plain), Option.some.injEq,
      Prod.mk.injEq] at parsed
    obtain ⟨rfl, whole⟩ := parsed
    rw [toNat_lengthField sayable] at length
    have same := List.append_inj (whole.symm.trans (List.append_nil body).symm) length
    rw [same.1]
  · rw [if_neg sayable] at arriving
    rw [arriving] at parsed
    cases parsed

theorem Passes.encode_request (passes : Passes limit typ payload) :
    Request.encode ⟨typ, payload⟩ =
      .ok ((Shape.ofLength payload.length).header typ payload.length ++ payload) := by
  rw [encode_request_eq, if_pos passes.sayable, List.nil_append]

theorem Passes.sentBytes_eq (passes : Passes limit typ payload) :
    sentBytes (some ⟨typ, status, payload⟩) =
      (Shape.ofLength payload.length).header typ payload.length ++
        (Bytes.be16 status.toNat ++ payload) := by
  unfold sentBytes
  rw [Option.map_some, encode_response_eq, if_pos passes.sayable]

theorem opensExchange_of_kind (opens : ∀ t, MessageType.ofCode? typ = some t → t.kind = .request) :
    opensExchange typ = true := by
  unfold opensExchange
  cases known : MessageType.ofCode? typ with
  | none => rfl
  | some t => simp [opens t known]

/-! ## The law -/

/-- A client sends a request whose type is unknown or the type of a request, and the handler of the
server answers it. If both messages pass, then the handler is asked exactly once, for exactly this
request, and the client gets exactly its answer, in whatever pieces the bytes arrive on both
ways. -/
theorem an_exchange_brings_the_answer_of_the_handler (s : Server) (c : Caller) (request : Request)
    (response : Response) (registry : Registry)
    (answers : s.handler request s.registry = (some response, registry))
    (opens : ∀ t, MessageType.ofCode? request.typ = some t → t.kind = .request)
    (there : Passes s.limit request.typ request.payload)
    (back : Passes c.limit response.typ response.body) :
    ∃ bs, request.encode = .ok bs ∧ ∀ up : Source, up.toList = bs →
      s.answer up = (some response, { s with registry }) ∧
      serveWith s.limit s.handler.watched up (s.registry, []) =
        (some response, registry, [request]) ∧
      ∀ down : Source, down.toList = sentBytes (s.answer up).1 →
        c.call request (.stream down) = .ok response := by
  refine ⟨_, there.encode_request, fun up arriving => ?_⟩
  have taken : (Inbound.read s.limit up).1 = .ok (.request request) :=
    (gives_inbound there (opensExchange_of_kind opens) arriving).result_eq
  have noted : serveWith s.limit s.handler.watched up (s.registry, []) =
      (some response, registry, [request]) := by
    unfold serveWith
    simp only [taken, Handler.watched, answers, List.nil_append]
  have served : serve s.limit s.handler up s.registry = (some response, registry) := by
    rw [← serveWith_watched, noted]
  have answered : s.answer up = (some response, { s with registry }) := by
    unfold Server.answer
    rw [served]
  refine ⟨answered, noted, fun down arriving => ?_⟩
  rw [answered, back.sentBytes_eq] at arriving
  have got := read_response_eq back arriving
  unfold Caller.call Caller.exchange
  simp only [there.encode_request, Caller.read, got]
  rfl

/-- A long request of the magic type, and its short answer, in pieces that cut both headers. -/
theorem a_long_request_of_the_magic_type_is_answered :
    let s : Server := { handler := .ofResponse fun q => ⟨0xFF, statusOk, q.payload.take 2⟩ }
    let request : Request := ⟨0xFE, List.replicate 65536 7⟩
    (s.answer ⟨[[0xFE, 0xFE, 0], [1, 0, 0], List.replicate 65536 7], .closed⟩).1 =
        some ⟨0xFF, statusOk, [7, 7]⟩ ∧
      ({ address := "guard:7000" } : Caller).call request
        (.stream ⟨[[0xFF, 0], [2, 0, 200, 7], [7]], .closed⟩) = .ok ⟨0xFF, statusOk, [7, 7]⟩ := by
  have size : (List.replicate 65536 (7 : UInt8)).length = 65536 := List.length_replicate
  have front : (List.replicate 65536 (7 : UInt8)).take 2 = [7, 7] := List.take_replicate
  generalize List.replicate 65536 (7 : UInt8) = body at size front ⊢
  intro s request
  have there : Passes s.limit request.typ request.payload :=
    ⟨by rw [size]; decide, by rw [size]; decide, .inr (by rw [size]; decide)⟩
  obtain ⟨bs, encoded, law⟩ := an_exchange_brings_the_answer_of_the_handler s
    { address := "guard:7000" } request ⟨0xFF, statusOk, [7, 7]⟩ {}
    (by simp only [s, request, Handler.ofResponse, front])
    (show ∀ t, MessageType.ofCode? 0xFE = some t → _ by decide) there
    ⟨by decide, by decide, by decide⟩
  rw [there.encode_request, size] at encoded
  cases encoded
  obtain ⟨answered, -, got⟩ := law ⟨[[0xFE, 0xFE, 0], [1, 0, 0], body], .closed⟩
    (by simp only [Source.toList, List.flatten_cons, List.flatten_nil, List.append_nil]; rfl)
  rw [answered] at got ⊢
  exact ⟨rfl, got _ (by decide)⟩

end Exchange

end DeviceLink
