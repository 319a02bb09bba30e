-- Which messages of the exchange channel are read back as they were written. A standard header
-- whose type is the magic byte is taken for an extended one; all others are read back exactly.
import Mathlib
import DeviceLink.Proofs.Exchange.Reading

namespace DeviceLink

open Receive (Gives)

namespace Exchange

/-! ## Layouts -/

/-- The bytes of a header in a layout. -/
def Shape.header (typ : UInt8) (n : Nat) : Shape → Bytes
  | .standard => typ :: Bytes.be16 n
  | .extended => magic :: typ :: Bytes.be32 n

theorem Shape.ofLength_eq_extended_iff (n : Nat) : ofLength n = .extended ↔ 65535 < n := by
  unfold ofLength standardLimit
  split
  · rename_i short
    exact iff_of_false nofun (Nat.not_lt.2 short)
  · rename_i long
    exact iff_of_true rfl (Nat.not_le.1 long)

theorem Shape.ofLength_of_le {n : Nat} (h : n ≤ 65535) : ofLength n = .standard := if_pos h

/-- The layouts differ in length. -/
theorem Shape.header_inj {typ : UInt8} {n : Nat} {a b : Shape} {bs cs : Bytes}
    (hl : bs.length = cs.length) (h : a.header typ n ++ bs = b.header typ n ++ cs) : a = b := by
  have hlen := congrArg List.length h
  cases a <;> cases b <;> simp [header] at hlen ⊢ <;> omega

theorem RequestHeader.encode_eq (h : RequestHeader) :
    h.encode = h.shape.header h.typ h.length.toNat := by
  unfold encode
  cases h.shape <;> rfl

theorem lengthField_eq (n : Nat) :
    lengthField n = if n ≤ 2 ^ 32 - 1 then .ok (.ofNat n) else .error (.oversize n) := by
  unfold lengthField UInt32.size
  simp only [show n < 4294967296 ↔ n ≤ 2 ^ 32 - 1 by omega]

theorem toNat_lengthField {n : Nat} (h : n ≤ 2 ^ 32 - 1) : (UInt32.ofNat n).toNat = n :=
  UInt32.toNat_ofNat_of_lt' (by unfold UInt32.size; omega)

/-- A header that is not taken for another is parsed back. -/
theorem RequestHeader.parse?_header {typ : UInt8} {n : Nat} (hn : n ≤ 2 ^ 32 - 1)
    (h : typ ≠ magic ∨ 65535 < n) (rest : Bytes) :
    parse? ((Shape.ofLength n).header typ n ++ rest) = some (⟨typ, .ofNat n⟩, rest) := by
  by_cases hl : 65535 < n
  · rw [(Shape.ofLength_eq_extended_iff n).2 hl]
    show parse? (magic :: typ :: (Bytes.be32 n ++ rest)) = _
    rw [parse?_magic, ← Bytes.length_be32 n, Bytes.cut?_append, Option.map_some,
      Bytes.number_be32, Nat.mod_eq_of_lt (by omega)]
  · rw [Shape.ofLength_of_le (Nat.not_lt.1 hl)]
    show parse? (typ :: (Bytes.be16 n ++ rest)) = _
    rw [parse?_standard (h.resolve_right hl), ← Bytes.length_be16 n, Bytes.cut?_append,
      Option.map_some, Bytes.number_be16, Nat.mod_eq_of_lt (by omega)]

theorem ResponseHeader.parse?_header {typ : UInt8} {n : Nat} (status : UInt16)
    (hn : n ≤ 2 ^ 32 - 1) (h : typ ≠ magic ∨ 65535 < n) (rest : Bytes) :
    parse? ((Shape.ofLength n).header typ n ++ (Bytes.be16 status.toNat ++ rest)) =
      some (⟨typ, .ofNat n, status⟩, rest) := by
  unfold parse?
  rw [RequestHeader.parse?_header hn h, Option.bind_some, ← Bytes.length_be16 status.toNat,
    Bytes.cut?_append, Option.map_some, Bytes.number_be16, Nat.mod_eq_of_lt status.toNat_lt]
  simp

/-! ## What encoding gives -/

theorem encode_request_eq (typ : UInt8) (payload : Bytes) : Request.encode ⟨typ, payload⟩ =
    if payload.length ≤ 2 ^ 32 - 1 then
      .ok ((Shape.ofLength payload.length).header typ payload.length ++ ([] ++ payload))
    else .error (.oversize payload.length) := by
  unfold Request.encode
  rw [lengthField_eq]
  split
  · rename_i h
    show Except.ok (RequestHeader.encode _ ++ _) = _
    rw [RequestHeader.encode_eq, RequestHeader.shape, toNat_lengthField h]
    rfl
  · rfl

theorem encode_response_eq (typ : UInt8) (status : UInt16) (body : Bytes) :
    Response.encode ⟨typ, status, body⟩ = if body.length ≤ 2 ^ 32 - 1 then
      .ok ((Shape.ofLength body.length).header typ body.length ++
        (Bytes.be16 status.toNat ++ body))
    else .error (.oversize body.length) := by
  unfold Response.encode
  rw [lengthField_eq]
  split
  · rename_i h
    show Except.ok (ResponseHeader.encode _ ++ _) = _
    rw [ResponseHeader.encode, RequestHeader.encode_eq, RequestHeader.shape, toNat_lengthField h,
      List.append_assoc]
  · rfl

/-! ## Messages that are read back -/

/-- How a message that is encoded with some bytes between its header and its payload fares on
the way to a reader. -/
structure ReadBack {α : Type} (encoded : Except LinkError Bytes) (read : Nat → Receive α)
    (message : α) (typ : UInt8) (between payload : Bytes) : Prop where
  /-- The only messages that cannot be encoded are those too long for a length of four bytes. -/
  refused_iff : encoded = .error (.oversize payload.length) ↔ 2 ^ 32 - 1 < payload.length
  /-- All others are encoded, with an extended header just when a standard one is too short. -/
  layout_iff : ∀ shape : Shape,
    encoded = .ok (shape.header typ payload.length ++ (between ++ payload)) ↔
      payload.length ≤ 2 ^ 32 - 1 ∧ (shape = .extended ↔ 65535 < payload.length)
  /-- In front of any other bytes on any stream, a message is read back and they are left. -/
  exact_iff : ∀ (limit : Nat) (s : Source) (bs rest : Bytes), payload.length ≤ limit →
    encoded = .ok bs → s.toList = bs ++ rest →
      (Gives (read limit) s (.ok message) rest ↔ typ ≠ magic ∨ 65535 < payload.length)

/-- It is enough that a parser finds the header that was written, and counts the bytes that it
takes for a header. -/
theorem readBack_of_parse {α η : Type} {encoded : Except LinkError Bytes} {read : Nat → Receive α}
    {message : α} {typ : UInt8} {between payload : Bytes} {parse? : Bytes → Option (η × Bytes)}
    {size : η → Nat} {make : η → Bytes → α}
    (hencoded : encoded = if payload.length ≤ 2 ^ 32 - 1 then
      .ok ((Shape.ofLength payload.length).header typ payload.length ++ (between ++ payload))
      else .error (.oversize payload.length))
    (hread : ∀ limit s, Gives (read limit) s
      (outcome parse? size make limit s.ending s.toList).1
      (outcome parse? size make limit s.ending s.toList).2)
    (hfound : payload.length ≤ 2 ^ 32 - 1 → typ ≠ magic ∨ 65535 < payload.length → ∀ rest, ∃ h,
      parse? ((Shape.ofLength payload.length).header typ payload.length ++ (between ++ rest)) =
        some (h, rest) ∧ size h = payload.length ∧ make h payload = message)
    (hlength : ∀ bs h rest, parse? bs = some (h, rest) →
      bs.length = rest.length + (if bs.head? = some magic then 6 else 3) + between.length)
    (hmake : ∀ h body, make h body = message → body = payload) :
    ReadBack encoded read message typ between payload where
  refused_iff := by
    rw [hencoded]
    split
    · rename_i fits
      exact iff_of_false nofun (Nat.not_lt.2 fits)
    · rename_i long
      exact iff_of_true rfl (Nat.not_le.1 long)
  layout_iff shape := by
    rw [hencoded]
    split
    · rename_i h
      rw [← Shape.ofLength_eq_extended_iff]
      simp only [Except.ok.injEq, h, true_and]
      constructor
      · intro heq
        rw [Shape.header_inj rfl heq]
      · intro hiff
        have : shape = Shape.ofLength payload.length := by
          cases shape <;> cases hs : Shape.ofLength payload.length <;> simp [hs] at hiff ⊢
        rw [this]
    · rename_i h
      exact iff_of_false nofun fun both => h both.1
  exact_iff limit s bs rest hlimit hok hs := by
    rw [hencoded] at hok
    split at hok
    · rename_i hfits
      cases hok
      constructor
      · intro hgives
        obtain ⟨hres, hrest⟩ := Receive.gives_unique (hread limit s) hgives
        obtain ⟨h, body, hp, -, -, hm⟩ := outcome_eq_ok_iff.1 (Prod.ext hres hrest)
        refine Decidable.byContradiction fun hc => ?_
        obtain ⟨hmagic, hshort⟩ := not_or.1 hc
        -- Three bytes were written as the header, and six were taken for it.
        have hlen := hlength _ _ _ hp
        rw [hs, Shape.ofLength_of_le (Nat.not_lt.1 hshort), Decidable.not_not.1 hmagic,
          hmake h body hm] at hlen
        simp only [Shape.header, List.cons_append, List.length_cons, List.length_append,
          List.append_assoc, Bytes.length_be16, List.head?_cons, if_true] at hlen
        omega
      · intro hc
        obtain ⟨h, hp, hsize, hm⟩ := hfound hfits hc (payload ++ rest)
        have hok : outcome parse? size make limit s.ending s.toList = (.ok message, rest) := by
          refine outcome_eq_ok_iff.2 ⟨h, payload, ?_, by omega, hsize.symm, hm⟩
          rw [hs, ← hp]
          simp only [List.append_assoc]
        have hgives := hread limit s
        rw [hok] at hgives
        exact hgives
    · cases hok

/-- The messages of the exchange channel that are read back as they were written, whatever comes
after them and in whatever pieces they arrive, are those that do not carry the magic byte as
their type in a standard header. -/
theorem a_message_is_read_back_unless_its_type_is_magic (typ : UInt8) (status : UInt16)
    (payload : Bytes) :
    ReadBack (Request.encode ⟨typ, payload⟩) Request.read ⟨typ, payload⟩ typ [] payload ∧
      ReadBack (Response.encode ⟨typ, status, payload⟩) Response.read ⟨typ, status, payload⟩ typ
        (Bytes.be16 status.toNat) payload := by
  constructor
  · refine readBack_of_parse (encode_request_eq typ payload) Request.gives_read
      (fun hn hc rest => ⟨_, RequestHeader.parse?_header hn hc rest, toNat_lengthField hn, rfl⟩)
      (fun _ _ _ hp => RequestHeader.length_of_parse? hp) fun h body hm => ?_
    cases hm
    rfl
  · refine readBack_of_parse (encode_response_eq typ status payload) Response.gives_read
      (fun hn hc rest =>
        ⟨_, ResponseHeader.parse?_header status hn hc rest, toNat_lengthField hn, rfl⟩)
      (fun _ _ _ hp => ResponseHeader.length_of_parse? hp) fun h body hm => ?_
    cases hm
    rfl

/-- A short request with the magic byte as its type is not read back. -/
theorem a_short_magic_request_is_not_read_back :
    ¬ Gives (Request.read 2) (.ofBytes [0xFE, 0, 2, 104, 105, 7]) (.ok ⟨0xFE, [104, 105]⟩) [7] := by
  rw [(a_message_is_read_back_unless_its_type_is_magic 0xFE 0 [104, 105]).1.exact_iff 2
    (.ofBytes [0xFE, 0, 2, 104, 105, 7]) [0xFE, 0, 2, 104, 105] [7] (by decide) rfl rfl]
  decide

end Exchange

end DeviceLink
