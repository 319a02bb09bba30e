-- Encoding and decoding frames are inverse to each other. A cap shortens the payloads that are
-- kept, but never moves the place where the next frame begins.
import DeviceLink.Proofs.Frame.Decoding

namespace DeviceLink.Frame

/-! ## Encoding -/

theorem encode_eq (typ : UInt8) (payload : Bytes) : encode typ payload =
    if payload.length ≤ 65535 then .ok (typ :: (Bytes.be16 payload.length ++ payload))
    else .error (.oversize payload.length) := rfl

theorem encode_of_le {payload : Bytes} (typ : UInt8) (h : payload.length ≤ 65535) :
    encode typ payload = .ok (typ :: (Bytes.be16 payload.length ++ payload)) := if_pos h

theorem encode_eq_error_iff (typ : UInt8) (payload : Bytes) :
    encode typ payload = .error (.oversize payload.length) ↔ 65535 < payload.length := by
  rw [encode_eq]
  split
  · rename_i fits
    exact iff_of_false nofun (Nat.not_lt.2 fits)
  · rename_i long
    exact iff_of_true rfl (Nat.not_le.1 long)

/-- The bytes of an ordinary frame with a payload. -/
def ordinary (payload : Bytes) : Bytes :=
  MessageType.socket.code :: (Bytes.be16 payload.length ++ payload)

theorem encode_ordinary {payload : Bytes} (h : payload.length ≤ 65535) :
    encode MessageType.socket.code payload = .ok (ordinary payload) := encode_of_le _ h

/-- The bytes of frames one after another, if all can be encoded. -/
def encodeAll : List (UInt8 × Bytes) → Except LinkError Bytes
  | [] => .ok []
  | (typ, payload) :: ps => do return (← encode typ payload) ++ (← encodeAll ps)

theorem encodeAll_cons {typ : UInt8} {payload bs : Bytes} {ps : List (UInt8 × Bytes)}
    (h : payload.length ≤ 65535) (hps : encodeAll ps = .ok bs) : encodeAll ((typ, payload) :: ps) =
      .ok (typ :: (Bytes.be16 payload.length ++ (payload ++ bs))) := by
  rw [encodeAll, encode_of_le typ h, hps]
  show Except.ok (typ :: (Bytes.be16 payload.length ++ payload) ++ bs) = _
  simp

/-- What a receiver has of a frame that was sent to it. -/
def kept (limit : Nat) (p : UInt8 × Bytes) : Frame :=
  ⟨p.1, p.2.take (min limit 65535), p.2.length⟩

theorem isTruncated_kept_iff (limit : Nat) (p : UInt8 × Bytes) :
    (kept limit p).isTruncated = true ↔ min limit 65535 < p.2.length := by
  unfold isTruncated kept
  simp only [decide_eq_true_eq, List.length_take]
  omega

/-! ## Inversion -/

theorem decode?_of_encode (limit : Nat) {typ : UInt8} {payload bs : Bytes}
    (encodes : encode typ payload = .ok bs) :
    decode? limit bs = some (kept limit (typ, payload), []) := by
  rw [encode_eq] at encodes
  split at encodes
  · rename_i fits
    cases encodes
    exact decode?_eq_some_iff.2 ⟨fits, payload, by simp [kept], rfl, rfl⟩
  · cases encodes

/-- The bytes of one frame hold that frame and nothing else. -/
theorem decodeAll_of_encode (limit : Nat) {typ : UInt8} {payload bs : Bytes}
    (encodes : encode typ payload = .ok bs) :
    decodeAll limit bs = ([kept limit (typ, payload)], []) := by
  have nothing : decode? limit [] = none := rfl
  rw [decodeAll_of_some (decode?_of_encode limit encodes), decodeAll_of_none nothing]

/-- Frames one after another are decoded one by one. -/
theorem decodeAll_flatten (limit : Nat) {frames : List Bytes}
    (encoded : ∀ bs ∈ frames, ∃ typ payload, encode typ payload = .ok bs) :
    frames.map (decode? limit) =
      (decodeAll limit frames.flatten).1.map fun f => some (f, []) := by
  induction frames with
  | nil =>
    have nothing : decode? limit [] = none := rfl
    rw [List.flatten_nil, decodeAll_of_none nothing]
    rfl
  | cons bs frames ih =>
    obtain ⟨typ, payload, encodes⟩ := encoded bs List.mem_cons_self
    have first := decode?_of_encode limit encodes
    have rest := ih fun bs' member => encoded bs' (List.mem_cons_of_mem bs member)
    rw [List.flatten_cons, decodeAll_of_some (decode?_append _ first), List.map_cons, first, rest]
    rfl

theorem decodeAll_encodeAll (limit : Nat) (ps : List (UInt8 × Bytes)) (tail : Bytes)
    (hps : ∀ p ∈ ps, p.2.length ≤ 65535) (htail : ¬ Whole tail) :
    ∃ bs, encodeAll ps = .ok bs ∧ decodeAll limit (bs ++ tail) = (ps.map (kept limit), tail) := by
  induction ps with
  | nil => exact ⟨[], rfl, decodeAll_of_none (decode?_eq_none_iff.2 htail)⟩
  | cons p ps ih =>
    obtain ⟨bs, hbs, hdec⟩ := ih fun q hq => hps q (List.mem_cons_of_mem p hq)
    have hp := hps p List.mem_cons_self
    refine ⟨_, encodeAll_cons hp hbs, ?_⟩
    have hfirst : decode? limit
        (p.1 :: (Bytes.be16 p.2.length ++ (p.2 ++ bs)) ++ tail) = some (kept limit p, bs ++ tail) :=
      decode?_eq_some_iff.2 ⟨hp, p.2, by simp [kept], rfl, rfl⟩
    rw [decodeAll_of_some hfirst, hdec]
    rfl

theorem encodeAll_decodeAll {limit : Nat} (h : 65535 ≤ limit) (bs : Bytes) :
    ∃ sent, encodeAll ((decodeAll limit bs).1.map fun f => (f.typ, f.payload)) = .ok sent ∧
      sent ++ (decodeAll limit bs).2 = bs := by
  fun_induction decodeAll limit bs with
  | case1 bs hd => exact ⟨[], rfl, rfl⟩
  | case2 bs f rest hd fs left hrec ih =>
    rw [hrec] at ih
    obtain ⟨sent, hsent, hrest⟩ := ih
    obtain ⟨hle, payload, rfl, hl, hp⟩ := decode?_eq_some_iff.1 hd
    have hwhole : f.payload = payload := by
      rw [hp]
      apply List.take_of_length_le
      unfold cap maxPayload at *
      omega
    refine ⟨_, encodeAll_cons (by rw [hwhole, hl]; exact hle) hsent, ?_⟩
    rw [hwhole, hl, ← hrest]
    simp

/-- What is kept of a payload is all that depends on the cap. -/
theorem decode?_of_other_cap {limit : Nat} (limit' : Nat) {bs rest : Bytes} {f : Frame}
    (h : decode? limit bs = some (f, rest)) : ∃ f', decode? limit' bs = some (f', rest) ∧
      f'.typ = f.typ ∧ f'.declared = f.declared := by
  obtain ⟨hle, payload, hbs, hl, -⟩ := decode?_eq_some_iff.1 h
  exact ⟨⟨f.typ, payload.take (cap limit'), f.declared⟩,
    decode?_eq_some_iff.2 ⟨hle, payload, hbs, hl, rfl⟩, rfl, rfl⟩

theorem decodeAll_of_other_cap (limit limit' : Nat) (bs : Bytes) :
    (decodeAll limit bs).1.map (fun f => (f.typ, f.declared)) =
        (decodeAll limit' bs).1.map (fun f => (f.typ, f.declared)) ∧
      (decodeAll limit bs).2 = (decodeAll limit' bs).2 := by
  fun_induction decodeAll limit bs with
  | case1 bs h =>
    rw [decodeAll_of_none (decode?_eq_none_iff.2 (decode?_eq_none_iff.1 h))]
    exact ⟨rfl, rfl⟩
  | case2 bs f rest h fs left hrec ih =>
    obtain ⟨f', hd, htyp, hdeclared⟩ := decode?_of_other_cap limit' h
    rw [hrec] at ih
    rw [decodeAll_of_some hd, List.map_cons, List.map_cons, htyp, hdeclared, ih.1]
    exact ⟨rfl, ih.2⟩

/-! ## The law -/

/-- Frames that are encoded one after another are decoded again: of each payload, what the cap
allows is kept, and whatever comes after the last frame is left. With the largest cap, what is
decoded encodes to what was taken. The cap changes no type, no length, and not what is left. Only
a payload that is too long for its length field is refused. -/
theorem a_cap_never_moves_the_next_frame :
    (∀ (limit : Nat) (ps : List (UInt8 × Bytes)) (tail : Bytes),
      (∀ p ∈ ps, p.2.length ≤ 65535) → ¬ Whole tail →
      ∃ bs, encodeAll ps = .ok bs ∧ decodeAll limit (bs ++ tail) = (ps.map (kept limit), tail)) ∧
    (∀ limit p, (kept limit p).isTruncated = true ↔ min limit 65535 < p.2.length) ∧
    (∀ limit bs, 65535 ≤ limit →
      ∃ sent, encodeAll ((decodeAll limit bs).1.map fun f => (f.typ, f.payload)) = .ok sent ∧
        sent ++ (decodeAll limit bs).2 = bs) ∧
    (∀ limit limit' bs, (decodeAll limit bs).1.length = (decodeAll limit' bs).1.length ∧
      (decodeAll limit bs).1.map (fun f => (f.typ, f.declared)) =
        (decodeAll limit' bs).1.map (fun f => (f.typ, f.declared)) ∧
      (decodeAll limit bs).2 = (decodeAll limit' bs).2) ∧
    (∀ typ payload,
      encode typ payload = .error (.oversize payload.length) ↔ 65535 < payload.length) := by
  refine ⟨decodeAll_encodeAll, isTruncated_kept_iff, fun _ bs h => encodeAll_decodeAll h bs,
    fun limit limit' bs => ?_, encode_eq_error_iff⟩
  obtain ⟨hmap, hleft⟩ := decodeAll_of_other_cap limit limit' bs
  have hlen := congrArg List.length hmap
  simp only [List.length_map] at hlen
  exact ⟨hlen, hmap, hleft⟩

/-- A payload of three bytes loses one to a cap of two, and the frame behind it is found. -/
theorem a_frame_behind_a_long_one_is_found : ∃ bs,
    encodeAll [(7, [1, 2, 3]), (8, [4])] = .ok bs ∧
      decodeAll 2 (bs ++ [9, 0]) = ([⟨7, [1, 2], 3⟩, ⟨8, [4], 1⟩], [9, 0]) :=
  a_cap_never_moves_the_next_frame.1 2 [(7, [1, 2, 3]), (8, [4])] [9, 0] (by decide)
    fun h => absurd h.1 (by decide)

end DeviceLink.Frame
