-- What becomes of a connection of the exchange channel, whatever it brings. All depends on the
-- request that its first bytes make, if they make one, and on nothing that comes after it.
import DeviceLink.Exchange.Router
import DeviceLink.Proofs.Exchange.EndToEnd
import DeviceLink.Proofs.Exchange.Grammar

namespace DeviceLink

namespace Exchange

/-! ## The first request -/

/-- A whole request stands in front of the bytes: a header within the limit, and as many bytes as
it says. -/
def Opens (limit : Nat) (bs : Bytes) (request : Request) : Prop :=
  ∃ h shape front rest, RequestHeader.Spells h shape front ∧ bs = front ++ request.payload ++ rest ∧
    request.typ = h.typ ∧ request.payload.length = h.length.toNat ∧ h.length.toNat ≤ limit

variable {limit : Nat} {source : Source} {request : Request}

theorem opens_iff {bs : Bytes} : Opens limit bs request ↔
    ∃ h rest, RequestHeader.parse? bs = some (h, request.payload ++ rest) ∧
      request.typ = h.typ ∧ request.payload.length = h.length.toNat ∧ h.length.toNat ≤ limit := by
  simp only [RequestHeader.parse?_eq_some_iff]
  constructor
  · rintro ⟨h, shape, front, rest, spells, whole, facts⟩
    rw [List.append_assoc] at whole
    exact ⟨h, rest, ⟨shape, front, spells, whole⟩, facts⟩
  · rintro ⟨h, rest, ⟨shape, front, spells, whole⟩, facts⟩
    rw [← List.append_assoc] at whole
    exact ⟨h, shape, front, rest, spells, whole, facts⟩

/-- The bytes open with one request at most. -/
theorem opens_unique {bs : Bytes} {other : Request} (opens : Opens limit bs request)
    (opens' : Opens limit bs other) : request = other := by
  obtain ⟨h, rest, found, typ, length, -⟩ := opens_iff.1 opens
  obtain ⟨h', rest', found', typ', length', -⟩ := opens_iff.1 opens'
  rw [found, Option.some.injEq, Prod.mk.injEq] at found'
  obtain ⟨rfl, same⟩ := found'
  have payload := (List.append_inj same (length.trans length'.symm)).1
  cases request
  cases other
  simp_all

/-- What comes after the first request does not hide it. -/
theorem Opens.append {bs : Bytes} (opens : Opens limit bs request) (more : Bytes) :
    Opens limit (bs ++ more) request := by
  obtain ⟨h, shape, front, rest, spells, rfl, facts⟩ := opens
  refine ⟨h, shape, front, rest ++ more, spells, ?_, facts⟩
  rw [List.append_assoc _ rest more]

/-- A request that opens a connection is read, and its payload is dropped if its type is that of
another message. -/
theorem read_of_opens (opens : Opens limit source.toList request) :
    (Inbound.read limit source).1 =
      .ok (if opensExchange request.typ then .request request else .rejected request.typ) := by
  obtain ⟨typ, payload⟩ := request
  obtain ⟨h, rest, found, rfl, length, within⟩ := opens_iff.1 opens
  have whole : Bytes.cut? h.length.toNat (payload ++ rest) = some (payload, rest) :=
    Bytes.cut?_eq_some_iff.2 ⟨rfl, length⟩
  have enough : h.length.toNat ≤ (payload ++ rest).length := by
    rw [List.length_append, ← length]
    exact Nat.le_add_right _ _
  rw [(Inbound.gives_read limit source).result_eq]
  simp only [Inbound.outcome, found, Nat.not_lt.2 within, whole, enough, if_true, if_false]
  split
  · rfl
  · rfl

/-- Without a whole request, nothing is read. -/
theorem read_of_not_opens (never : ∀ request, ¬ Opens limit source.toList request) :
    ∃ cause, (Inbound.read limit source).1 = .error cause := by
  rw [(Inbound.gives_read limit source).result_eq]
  unfold Inbound.outcome
  split
  · exact ⟨_, rfl⟩
  rename_i h rest found
  dsimp only
  split
  · exact ⟨_, rfl⟩
  rename_i within
  have short : rest.length < h.length.toNat := by
    by_contra enough
    refine never ⟨h.typ, rest.take h.length.toNat⟩
      (opens_iff.2 ⟨h, rest.drop h.length.toNat, ?_, rfl, ?_, Nat.not_lt.1 within⟩)
    · rw [List.take_append_drop, found]
    · exact List.length_take_of_le (Nat.not_lt.1 enough)
  split
  · rw [Bytes.cut?_eq_none_iff.2 short]
    exact ⟨_, rfl⟩
  · rw [if_neg (Nat.not_le.2 short)]
    exact ⟨_, rfl⟩

/-! ## Routes -/

variable {σ : Type}

/-- The handler of a router that was given its routes in this order. Its handlers may use any
state. -/
def routed (given : List (UInt8 × (Request → σ → Option Response × σ))) (request : Request)
    (state : σ) : Option Response × σ :=
  match given.reverse.lookup request.typ with
  | some handler => handler request state
  | none => (some (refusal "Route Not Found"), state)

theorem routes_given (given : List (UInt8 × Handler)) (r : Router) :
    (given.foldl (fun r route => r.route route.1 route.2) r).routes =
      given.reverse ++ r.routes := by
  induction given generalizing r with
  | nil => rfl
  | cons route given ih =>
    rw [List.foldl_cons, ih, List.reverse_cons, List.append_assoc]
    rfl

/-- A router hands requests on as its routes were given. -/
theorem handle_given (given : List (UInt8 × Handler)) :
    (given.foldl (fun r route => r.route route.1 route.2) ({} : Router)).handle = routed given := by
  funext request registry
  unfold Router.handle Router.handler? routed
  rw [routes_given, List.append_nil]
  cases given.reverse.lookup request.typ with
  | none => rfl
  | some handler => rfl

/-- Of the routes of a type, the last one stands. -/
theorem routed_of_last {before after : List (UInt8 × (Request → σ → Option Response × σ))}
    {handler : Request → σ → Option Response × σ}
    (last : ∀ route ∈ after, route.1 ≠ request.typ) (state : σ) :
    routed (before ++ (request.typ, handler) :: after) request state = handler request state := by
  have later : after.reverse.lookup request.typ = none := by
    rw [List.lookup_eq_none_iff]
    intro route member
    simpa using (last route (List.mem_reverse.1 member)).symm
  unfold routed
  rw [List.reverse_append, List.reverse_cons, List.append_assoc, List.lookup_append, later]
  simp

theorem routed_of_none {given : List (UInt8 × (Request → σ → Option Response × σ))}
    (absent : ∀ route ∈ given, route.1 ≠ request.typ) (state : σ) :
    routed given request state = (some (refusal "Route Not Found"), state) := by
  have missing : given.reverse.lookup request.typ = none := by
    rw [List.lookup_eq_none_iff]
    intro route member
    simpa using (absent route (List.mem_reverse.1 member)).symm
  unfold routed
  rw [missing]

/-! ## The law -/

/-- The type may open an exchange: it is unknown, or that of a request. -/
def MayOpen (typ : UInt8) : Prop := ∀ t, MessageType.ofCode? typ = some t → t.kind = .request

theorem mayOpen_iff {typ : UInt8} : MayOpen typ ↔ opensExchange typ = true := by
  unfold MayOpen opensExchange
  cases MessageType.ofCode? typ with
  | none => simp
  | some t => simp

/-- What becomes of a connection, with a handler that may use any state. -/
structure Decided (limit : Nat) (handler : Request → σ → Option Response × σ) (source : Source)
    (state : σ) : Prop where
  /-- Without a whole request within the limit, nothing is written, and no handler is asked. -/
  silent : (∀ request, ¬ Opens limit source.toList request) →
    serveWith limit handler source state = (none, state) ∧ sentBytes none = []
  /-- A request of a type that only other messages have is refused, and no handler is asked. -/
  refused : ∀ request, Opens limit source.toList request → ¬ MayOpen request.typ →
    serveWith limit handler source state = (some unknownRequest, state) ∧
      sentBytes (some unknownRequest) = 0 :: Bytes.be16 33 ++ Bytes.be16 400 ++
        Text.utf8 "\x7b\"error\": \"Unknown Request Type\"\x7d"
  /-- Any other request is what the handler is asked, and its answer is the answer. -/
  handled : ∀ request, Opens limit source.toList request → MayOpen request.typ →
    serveWith limit handler source state = handler request state
  /-- Another stream that brings the same first request comes to the same end. -/
  later : ∀ request other, Opens limit source.toList request → Opens limit other.toList request →
    serveWith limit handler other state = serveWith limit handler source state

theorem decided (limit : Nat) (handler : Request → σ → Option Response × σ) (source : Source)
    (state : σ) : Decided limit handler source state where
  silent never := by
    obtain ⟨cause, unread⟩ := read_of_not_opens never
    refine ⟨?_, rfl⟩
    unfold serveWith
    rw [unread]
  refused request opens other := by
    refine ⟨?_, by decide⟩
    unfold serveWith
    rw [read_of_opens opens, if_neg (mayOpen_iff.not.1 other)]
  handled request opens may := by
    unfold serveWith
    rw [read_of_opens opens, if_pos (mayOpen_iff.1 may)]
  later request other opens opens' := by
    unfold serveWith
    rw [read_of_opens opens, read_of_opens opens']

/-- A response is no request, and the request that comes after it is not looked at. -/
example (handler : Handler) (registry : Registry) :
    serveWith 9 handler ⟨[[0xA2, 0], [1, 7, 0xA1, 0, 0]], .closed⟩ registry =
      (some unknownRequest, registry) := by
  have opens : Opens 9 [0xA2, 0, 1, 7, 0xA1, 0, 0] ⟨0xA2, [7]⟩ :=
    ⟨_, _, _, _, .standard (by decide) 0 1, rfl, rfl, rfl, by decide⟩
  have other : ¬ MayOpen 0xA2 := mayOpen_iff.not.2 (by decide)
  exact ((decided 9 handler ⟨[[0xA2, 0], [1, 7, 0xA1, 0, 0]], .closed⟩ registry).refused _ opens
    other).1

/-- How a connection fares whose handler is a router. -/
structure Routed (limit : Nat) (given : List (UInt8 × (Request → σ → Option Response × σ)))
    (source : Source) (state : σ) : Prop where
  /-- Of the handlers that a type was given, the last one is asked. -/
  last : ∀ request before handler after, Opens limit source.toList request → MayOpen request.typ →
    given = before ++ (request.typ, handler) :: after →
    (∀ route ∈ after, route.1 ≠ request.typ) →
      serveWith limit (routed given) source state = handler request state
  /-- A request of a type that was given no handler is refused. -/
  missing : ∀ request, Opens limit source.toList request → MayOpen request.typ →
    (∀ route ∈ given, route.1 ≠ request.typ) →
      serveWith limit (routed given) source state =
          (some (refusal "Route Not Found"), state) ∧
        sentBytes (some (refusal "Route Not Found")) = 0 :: Bytes.be16 28 ++ Bytes.be16 400 ++
          Text.utf8 "\x7b\"error\": \"Route Not Found\"\x7d"

theorem routes_decide (limit : Nat) (given : List (UInt8 × (Request → σ → Option Response × σ)))
    (source : Source) (state : σ) : Routed limit given source state where
  last request before handler after opens may split last := by
    rw [(decided limit (routed given) source state).handled request opens may, split]
    exact routed_of_last last state
  missing request opens may absent := by
    rw [(decided limit (routed given) source state).handled request opens may]
    exact ⟨routed_of_none absent state, by decide⟩

/-- The requests that the handler of a server is asked on a connection. -/
def asked (limit : Nat) (handler : Handler) (source : Source) (registry : Registry) :
    List Request :=
  (serveWith limit handler.watched source (registry, [])).2.2

theorem asked_of_opens (opens : Opens limit source.toList request) (may : MayOpen request.typ)
    (handler : Handler) (registry : Registry) :
    asked limit handler source registry = [request] := by
  unfold asked
  rw [(decided limit handler.watched source (registry, [])).handled request opens may]
  rfl

theorem asked_of_never
    (never : ∀ request, Opens limit source.toList request → ¬ MayOpen request.typ)
    (handler : Handler) (registry : Registry) : asked limit handler source registry = [] := by
  have law := decided limit handler.watched source (registry, [])
  unfold asked
  by_cases first : ∃ request, Opens limit source.toList request
  · obtain ⟨request, opens⟩ := first
    rw [(law.refused request opens (never request opens)).1]
  · rw [not_exists] at first
    rw [(law.silent first).1]

theorem answer_eq (s : Server) (source : Source) :
    s.answer source =
      (let (response, registry) := serveWith s.limit s.handler source s.registry
      (response, { s with registry })) := by
  rw [serveWith_registry]
  rfl

/-- What a server does with a connection of the exchange channel is decided by the first request
that comes whole and within the limit; there is one at most, and what comes after it does not change
which it is. Without one there is silence, a request of a type that only other messages have is
refused, and any other is what the handler is asked, once. With a router, that is the handler that
was given last for the type. -/
theorem a_connection_is_decided_by_its_first_request (s : Server) (source : Source) :
    (∀ bs request other, Opens s.limit bs request → Opens s.limit bs other → request = other) ∧
      (∀ bs more request, Opens s.limit bs request → Opens s.limit (bs ++ more) request) ∧
      (∀ (σ : Type) handler (state : σ), Decided s.limit handler source state) ∧
      (∀ (σ : Type) given (state : σ), Routed s.limit given source state) ∧
      (∀ given : List (UInt8 × Handler),
        (given.foldl (fun r route => r.route route.1 route.2) ({} : Router)).handle =
          routed given) ∧
      s.answer source =
        (let (response, registry) := serveWith s.limit s.handler source s.registry
        (response, { s with registry })) ∧
      (∀ request, Opens s.limit source.toList request → MayOpen request.typ →
        asked s.limit s.handler source s.registry = [request]) ∧
      ((∀ request, Opens s.limit source.toList request → ¬ MayOpen request.typ) →
        asked s.limit s.handler source s.registry = []) := by
  refine ⟨fun _ _ _ => opens_unique, fun _ more _ opens => opens.append more,
    fun _ handler state => decided s.limit handler source state,
    fun _ given state => routes_decide s.limit given source state, handle_given,
    answer_eq s source,
    fun request opens may => ?_, fun never => ?_⟩
  · exact asked_of_opens opens may s.handler s.registry
  · exact asked_of_never never s.handler s.registry

end Exchange

end DeviceLink
