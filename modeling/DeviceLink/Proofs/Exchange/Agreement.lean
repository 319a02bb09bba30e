-- A server reads requests with a reader of its own, which drops what it will refuse. Here it stands
-- beside the reader that keeps everything: both take the same bytes, and one fails as the other.
import DeviceLink.Proofs.Exchange.Decision

namespace DeviceLink.Exchange

open Receive (Gives)

variable {limit n : Nat} {s : Source}

/-! ## The two readers -/

/-- A server reads from a stream what any reader of requests does, and leaves the same bytes. -/
structure Agrees (limit : Nat) (s : Source) : Prop where
  /-- What may open an exchange is a request with the same payload. -/
  request_iff : ∀ r rest, Gives (Inbound.read limit) s (.ok (.request r)) rest ↔
    Gives (Request.read limit) s (.ok r) rest ∧ MayOpen r.typ
  /-- Of anything else only the type is kept. -/
  rejected_iff : ∀ typ rest, Gives (Inbound.read limit) s (.ok (.rejected typ)) rest ↔
    ∃ payload, Gives (Request.read limit) s (.ok ⟨typ, payload⟩) rest ∧ ¬ MayOpen typ
  error_iff : ∀ e rest, Gives (Inbound.read limit) s (.error e) rest ↔
    Gives (Request.read limit) s (.error e) rest

theorem ofRequest_eq_request_iff {q r : Request} :
    Inbound.ofRequest q = .request r ↔ q = r ∧ MayOpen r.typ := by
  rw [mayOpen_iff]
  unfold Inbound.ofRequest
  split
  · rename_i opens
    constructor
    · rintro ⟨⟩
      exact ⟨rfl, opens⟩
    · rintro ⟨rfl, -⟩
      rfl
  · rename_i other
    simp only [reduceCtorEq, false_iff]
    rintro ⟨rfl, opens⟩
    exact other opens

theorem ofRequest_eq_rejected_iff {q : Request} {typ : UInt8} :
    Inbound.ofRequest q = .rejected typ ↔ q.typ = typ ∧ ¬ MayOpen typ := by
  rw [mayOpen_iff]
  unfold Inbound.ofRequest
  split
  · rename_i opens
    simp only [reduceCtorEq, false_iff]
    rintro ⟨rfl, other⟩
    exact other opens
  · rename_i other
    constructor
    · rintro ⟨⟩
      exact ⟨rfl, other⟩
    · rintro ⟨rfl, -⟩
      rfl

theorem agrees (limit : Nat) (closed : s.ending = .closed) : Agrees limit s := by
  have plain := Request.gives_read limit s
  have server := Inbound.gives_read limit s
  rw [closed] at plain server
  rw [Inbound.outcome_closed] at server
  generalize Request.outcome limit .closed s.toList = found at plain server
  obtain ⟨result, left⟩ := found
  constructor
  · intro r rest
    rw [Receive.gives_iff server, Receive.gives_iff plain]
    cases result with
    | error e => simp [Except.map]
    | ok q =>
      simp only [Except.map, Except.ok.injEq, ofRequest_eq_request_iff]
      exact and_right_comm
  · intro typ rest
    rw [Receive.gives_iff server]
    simp only [Receive.gives_iff plain]
    cases result with
    | error e => simp [Except.map]
    | ok q =>
      obtain ⟨typ', payload⟩ := q
      simp only [Except.map, Except.ok.injEq, ofRequest_eq_rejected_iff, Request.mk.injEq]
      constructor
      · rintro ⟨⟨rfl, other⟩, rfl⟩
        exact ⟨payload, ⟨⟨rfl, rfl⟩, rfl⟩, other⟩
      · rintro ⟨_, ⟨⟨rfl, _⟩, rfl⟩, other⟩
        exact ⟨⟨rfl, other⟩, rfl⟩
  · intro e rest
    rw [Receive.gives_iff server, Receive.gives_iff plain]
    cases result with
    | error e' => simp [Except.map]
    | ok q => simp [Except.map]

/-! ## The two ways to take a body -/

/-- A body of `n` bytes is dropped, or else taken into a buffer. -/
structure SameBody (n : Nat) (into : Bytes) (s : Source) : Prop where
  /-- Dropping it comes to an end, after reads that each bring a part of it. -/
  ends : ∃ pieces, Drops n s pieces (drain n s).1 (drain n s).2 ∧ pieces.length ≤ n ∧
    pieces.flatten = s.toList.take n ∧ ∀ piece ∈ pieces, piece ≠ [] ∧ piece.length ≤ 1024
  success_iff : (drain n s).1 = .ok () ↔ (readBody n into s).1 = .ok ()
  left_eq : (drain n s).2.toList = (readBody n into s).2.2.toList
  error_eq : s.ending = .closed → (drain n s).1 = (readBody n into s).1
  /-- What goes into the buffer is what is dropped otherwise. -/
  kept : (readBody n into s).1 = .ok () → (readBody n into s).2.1 = into ++ s.toList.take n
  /-- In this way the payload of a message is read. -/
  payload : Receive.exactly n s =
    ((readBody n [] s).1.map fun _ => (readBody n [] s).2.1, (readBody n [] s).2.2)

theorem sameBody (n : Nat) (into : Bytes) (s : Source) : SameBody n into s := by
  obtain ⟨pieces, drops⟩ := drops_drain n s
  obtain ⟨flat, left, -⟩ := drops.flatten_eq
  have taken := readBody_eq n into s
  have rest : (takeChunks n s.chunks).2.flatten = s.toList.drop n := takeChunks_snd n s.chunks
  refine ⟨⟨pieces, drops, drops.length_le, flat, drops.piece_size⟩, ?_, ?_, ?_, ?_,
    exactly_eq_readBody n s⟩
  · rw [drops.result_eq, taken]
    by_cases enough : n ≤ s.toList.length
    · simp [enough]
    · simp [enough]
  · rw [left, taken]
    exact rest.symm
  · intro closed
    rw [drops.result_eq, taken, closed]
    rfl
  · intro success
    rw [taken] at success ⊢
    by_cases enough : n ≤ s.toList.length
    · simp [Nat.sub_eq_zero_of_le enough]
    · simp [enough] at success

/-! ## The law -/

/-- On a stream that is closed in the end, in whatever pieces it comes, a server reads a request just
where any other reader does, with the same payload, and refuses by its type what opens no exchange;
it leaves the same bytes, and fails with the same error. For it makes no difference to a stream
whether a body is dropped or kept: dropping comes to an end, takes the same bytes, and succeeds on
the same streams. -/
theorem a_server_reads_requests_as_others_do :
    (∀ limit chunks, Agrees limit ⟨chunks, .closed⟩) ∧ ∀ n into s, SameBody n into s :=
  ⟨fun limit _ => agrees limit rfl, sameBody⟩

/-- A response that comes where a request should is dropped up to the request after it. -/
example : Gives (Inbound.read 9) ⟨[[0xA2, 0], [2, 7], [8, 0xA1], [0, 0]], .closed⟩
    (.ok (.rejected 0xA2)) [0xA1, 0, 0] :=
  ⟨by decide +kernel, by decide +kernel, by decide +kernel⟩

end DeviceLink.Exchange
