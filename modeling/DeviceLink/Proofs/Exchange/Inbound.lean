-- How a server reads a request. It sorts by the type: the payload of a request is kept, and any
-- other one is dropped piece by piece, so that nothing of it is left on the stream.
import DeviceLink.Exchange.Inbound
import DeviceLink.Proofs.Exchange.Reading

namespace DeviceLink

open Receive (Gives)

/-! ## Pieces of a stream -/

theorem takePiece_append (n : Nat) (cs : List Bytes) :
    (takePiece n cs).1 ++ (takePiece n cs).2.flatten = cs.flatten := by
  induction cs with
  | nil => rfl
  | cons c cs ih =>
    cases c with
    | nil => exact ih
    | cons b c =>
      unfold takePiece
      split
      · rfl
      · rw [List.flatten_cons, List.flatten_cons, ← List.append_assoc, List.take_append_drop]

theorem length_takePiece_le (n : Nat) (cs : List Bytes) : (takePiece n cs).1.length ≤ n := by
  induction cs with
  | nil => exact Nat.zero_le n
  | cons c cs ih =>
    cases c with
    | nil => exact ih
    | cons b c =>
      unfold takePiece
      split
      · assumption
      · exact List.length_take_le n _

/-- A piece is empty only at the end. -/
theorem flatten_of_takePiece {n : Nat} (positive : 0 < n) {cs : List Bytes}
    (empty : (takePiece n cs).1 = []) : cs.flatten = [] := by
  induction cs with
  | nil => rfl
  | cons c cs ih =>
    cases c with
    | nil => exact ih empty
    | cons b c =>
      unfold takePiece at empty
      split at empty
      · cases empty
      · simp at empty
        omega

namespace Exchange

/-! ## Bodies that are dropped -/

/-- A body of `n` bytes is dropped. Each read brings a piece, as large as the stream has it, until
nothing is wanted any more or the stream is at its end. -/
inductive Drops : Nat → Source → List Bytes → Except LinkError Unit → Source → Prop
  | done (s : Source) : Drops 0 s [] (.ok ()) s
  | cut {n : Nat} {s : Source} {chunks : List Bytes} (wanted : 0 < n)
      (taken : takePiece (min n drainPiece) s.chunks = ([], chunks)) :
      Drops n s [] (.error s.ending.error) { s with chunks }
  | more {n : Nat} {s t : Source} {piece : Bytes} {chunks pieces : List Bytes}
      {result : Except LinkError Unit} (nonempty : piece ≠ [])
      (taken : takePiece (min n drainPiece) s.chunks = (piece, chunks))
      (onward : Drops (n - piece.length) { s with chunks } pieces result t) :
      Drops n s (piece :: pieces) result t

/-- Dropping is such a run of reads. It comes to an end because each piece makes the body shorter. -/
theorem drops_drain (n : Nat) (s : Source) :
    ∃ pieces, Drops n s pieces (drain n s).1 (drain n s).2 := by
  induction n using Nat.strongRecOn generalizing s with
  | ind n ih =>
    by_cases done : n = 0
    · subst done
      have run : drain 0 s = (.ok (), s) := by rw [drain, if_pos rfl]
      rw [run]
      exact ⟨[], .done s⟩
    rcases taken : takePiece (min n drainPiece) s.chunks with ⟨piece, chunks⟩
    by_cases empty : piece = []
    · subst empty
      have run : drain n s = (.error s.ending.error, { s with chunks }) := by
        rw [drain, if_neg done]
        simp [taken]
      rw [run]
      exact ⟨[], .cut (Nat.pos_of_ne_zero done) taken⟩
    · have run : drain n s = drain (n - piece.length) { s with chunks } := by
        rw [drain, if_neg done]
        simp [taken, empty]
      have shorter := List.length_pos_iff.2 empty
      obtain ⟨pieces, onward⟩ := ih (n - piece.length) (by omega) { s with chunks }
      rw [run]
      exact ⟨piece :: pieces, .more empty taken onward⟩

section

variable {n : Nat} {s t : Source} {piece : Bytes} {chunks pieces : List Bytes}
  {result : Except LinkError Unit}

/-- One read takes a piece off the stream: no more than is wanted, and nothing only at the end. -/
theorem piece_of_read (taken : takePiece (min n drainPiece) s.chunks = (piece, chunks)) :
    s.toList = piece ++ chunks.flatten ∧ piece.length ≤ n ∧ piece.length ≤ drainPiece ∧
      (0 < n → piece = [] → s.toList = []) := by
  have whole := takePiece_append (min n drainPiece) s.chunks
  have size := length_takePiece_le (min n drainPiece) s.chunks
  rw [taken] at whole size
  simp only at size
  refine ⟨whole.symm, by omega, by omega, ?_⟩
  intro wanted empty
  have positive : 0 < min n drainPiece := by
    unfold drainPiece
    omega
  exact flatten_of_takePiece positive (by rw [taken, empty])

/-- The pieces are the body, or all there is of it. -/
theorem Drops.flatten_eq (drops : Drops n s pieces result t) :
    pieces.flatten = s.toList.take n ∧ t.toList = s.toList.drop n ∧ t.ending = s.ending := by
  induction drops with
  | done s => exact ⟨rfl, rfl, rfl⟩
  | @cut n s chunks wanted taken =>
    obtain ⟨whole, -, -, last⟩ := piece_of_read taken
    have nothing := last wanted rfl
    refine ⟨by rw [nothing, List.take_nil]; rfl, ?_, rfl⟩
    rw [nothing, List.drop_nil]
    exact whole.symm.trans nothing
  | @more n s t piece chunks pieces result nonempty taken onward ih =>
    obtain ⟨flat, left, ending⟩ := ih
    obtain ⟨whole, within, -, -⟩ := piece_of_read taken
    refine ⟨?_, ?_, ending⟩
    · rw [List.flatten_cons, flat, whole, List.take_append, List.take_of_length_le within]
      rfl
    · rw [left, whole, List.drop_append, List.drop_of_length_le within, List.nil_append]
      rfl

/-- Dropping fails just where the stream ends too early. -/
theorem Drops.result_eq (drops : Drops n s pieces result t) :
    result = if n ≤ s.toList.length then .ok () else .error s.ending.error := by
  induction drops with
  | done s => simp
  | cut wanted taken =>
    have nothing := (piece_of_read taken).2.2.2 wanted rfl
    rw [nothing, if_neg (by simp; omega)]
  | @more n s t piece chunks pieces result nonempty taken onward ih =>
    obtain ⟨whole, within, -, -⟩ := piece_of_read taken
    have length : s.toList.length = piece.length + chunks.flatten.length := by
      rw [whole, List.length_append]
    rw [ih]
    by_cases enough : n ≤ s.toList.length
    · rw [if_pos enough, if_pos (by simp only [Source.toList]; omega)]
    · rw [if_neg enough, if_neg (by simp only [Source.toList]; omega)]

theorem Drops.piece_size (drops : Drops n s pieces result t) :
    ∀ piece ∈ pieces, piece ≠ [] ∧ piece.length ≤ drainPiece := by
  induction drops with
  | done s => simp
  | cut wanted taken => simp
  | more nonempty taken onward ih =>
    intro other member
    rcases List.mem_cons.1 member with rfl | later
    · exact ⟨nonempty, (piece_of_read taken).2.2.1⟩
    · exact ih other later

/-- There are no more reads than bytes in the body. -/
theorem Drops.length_le (drops : Drops n s pieces result t) : pieces.length ≤ n := by
  induction drops with
  | done s => simp
  | cut wanted taken => simp
  | more nonempty taken onward ih =>
    have within := (piece_of_read taken).2.1
    have positive := List.length_pos_iff.2 nonempty
    rw [List.length_cons]
    omega

end

/-- Dropping a body takes as many bytes as it has, or all there are if these are fewer. -/
theorem gives_drain (n : Nat) (s : Source) : Gives (drain n) s
    (if n ≤ s.toList.length then .ok () else .error s.ending.error) (s.toList.drop n) := by
  obtain ⟨pieces, drops⟩ := drops_drain n s
  obtain ⟨-, left, ending⟩ := drops.flatten_eq
  exact ⟨drops.result_eq, left, ending⟩

/-! ## Bodies that are kept -/

theorem readBody_eq (n : Nat) (into : Bytes) (s : Source) : readBody n into s =
    (if n ≤ s.toList.length then .ok () else .error s.ending.cutOff,
      into ++ s.toList.take n ++ List.replicate (n - s.toList.length) 0,
      { s with chunks := (takeChunks n s.chunks).2 }) := by
  have taken : (takeChunks n s.chunks).1 = s.toList.take n := takeChunks_fst n s.chunks
  unfold readBody
  simp only [taken, List.length_take]
  by_cases enough : n ≤ s.toList.length
  · rw [if_pos (by omega), if_pos enough, Nat.sub_eq_zero_of_le enough, List.replicate_zero,
      List.append_nil]
  · rw [if_neg (by omega), if_neg enough, Nat.min_eq_right (by omega)]

/-- The payload of a message is read as a body that comes first into its buffer. -/
theorem exactly_eq_readBody (n : Nat) (s : Source) : Receive.exactly n s =
    ((readBody n [] s).1.map fun _ => (readBody n [] s).2.1, (readBody n [] s).2.2) := by
  have run : Receive.exactly n s =
      (if (takeChunks n s.chunks).1.length = n then pure (takeChunks n s.chunks).1
        else do throw (← get).ending.cutOff : Receive Bytes)
      { s with chunks := (takeChunks n s.chunks).2 } := rfl
  rw [run]
  unfold readBody
  dsimp only
  split
  · rfl
  · rfl

/-! ## Requests that are sorted -/

/-- What the bytes of a stream make of a request to a server, and what is left of them. -/
def Inbound.outcome (limit : Nat) (ending : Ending) (bs : Bytes) : Except LinkError Inbound × Bytes :=
  match RequestHeader.parse? bs with
  | none => (.error ending.cutOff, [])
  | some (h, rest) =>
    let n := h.length.toNat
    if limit < n then (.error (.oversize n), rest)
    else if opensExchange h.typ then
      match Bytes.cut? n rest with
      | none => (.error ending.cutOff, [])
      | some (payload, left) => (.ok (.request ⟨h.typ, payload⟩), left)
    else (if n ≤ rest.length then .ok (.rejected h.typ) else .error ending.error, rest.drop n)

theorem Inbound.gives_read (limit : Nat) (s : Source) : Gives (Inbound.read limit) s
    (outcome limit s.ending s.toList).1 (outcome limit s.ending s.toList).2 := by
  unfold outcome
  rcases found : RequestHeader.parse? s.toList with _ | ⟨h, rest⟩
  · exact Receive.gives_bind_error (RequestHeader.parses_read.missing found)
  refine Receive.gives_bind (RequestHeader.parses_read.found found) fun s' left same => ?_
  rw [← left, ← same]
  dsimp only
  by_cases above : limit < h.length.toNat
  · simp only [above, if_true]
    exact Receive.gives_bind_error (Receive.gives_throw _ s')
  simp only [above, if_false]
  cases opens : opensExchange h.typ with
  | true =>
    simp only [if_true]
    have payload := Receive.parses_exactly h.length.toNat
    rcases cut : Bytes.cut? h.length.toNat s'.toList with _ | ⟨bs, after⟩
    · exact Receive.gives_bind_error (payload.missing cut)
    · refine Receive.gives_bind (payload.found cut) fun t taken _ => ?_
      rw [← taken]
      exact Receive.gives_pure _ t
  | false =>
    simp only [Bool.false_eq_true, if_false]
    have dropped := gives_drain h.length.toNat s'
    by_cases enough : h.length.toNat ≤ s'.toList.length
    · rw [if_pos enough] at dropped ⊢
      refine Receive.gives_bind dropped fun t taken _ => ?_
      rw [← taken]
      exact Receive.gives_pure _ t
    · rw [if_neg enough] at dropped ⊢
      exact Receive.gives_bind_error dropped

/-- What a server takes a request for. -/
def Inbound.ofRequest (r : Request) : Inbound :=
  if opensExchange r.typ then .request r else .rejected r.typ

/-- On a stream that is closed in the end, sorting makes no difference to what is read. -/
theorem Inbound.outcome_closed (limit : Nat) (bs : Bytes) : outcome limit .closed bs =
    ((Request.outcome limit .closed bs).1.map ofRequest, (Request.outcome limit .closed bs).2) := by
  unfold outcome Request.outcome Exchange.outcome ofRequest
  rcases RequestHeader.parse? bs with _ | ⟨h, rest⟩
  · rfl
  dsimp only
  by_cases above : limit < h.length.toNat
  · simp only [above, if_true]
    rfl
  simp only [above, if_false]
  cases cut : Bytes.cut? h.length.toNat rest with
  | none =>
    have short := Bytes.cut?_eq_none_iff.1 cut
    rw [if_neg (Nat.not_le.2 short), List.drop_of_length_le (Nat.le_of_lt short)]
    split
    · rfl
    · rfl
  | some x =>
    obtain ⟨payload, left⟩ := x
    obtain ⟨rfl, length⟩ := Bytes.cut?_eq_some_iff.1 cut
    cases opens : opensExchange h.typ with
    | true => simp [Except.map, opens]
    | false => simp [Except.map, opens, ← length]

end Exchange

end DeviceLink
