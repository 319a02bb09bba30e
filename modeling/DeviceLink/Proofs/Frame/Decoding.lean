-- Decoding frames from bytes. A frame is found once all of its bytes are there, whatever comes
-- after them, and decoding stops where no frame is complete.
import Mathlib
import DeviceLink.Frame

namespace DeviceLink

namespace Frame

variable {limit : Nat} {bs rest more : Bytes} {f : Frame}

/-! ## One frame -/

/-- The bytes begin with a complete frame: with a header, and as many bytes as it announces. -/
def Whole (bs : Bytes) : Prop :=
  headerSize ≤ bs.length ∧ headerSize + Bytes.number ((bs.drop 1).take 2) ≤ bs.length

theorem decode?_header (limit : Nat) (typ high low : UInt8) (bs : Bytes) :
    decode? limit (typ :: high :: low :: bs) = (Bytes.cut? (Bytes.number [high, low]) bs).map
      fun x => (⟨typ, x.1.take (cap limit), Bytes.number [high, low]⟩, x.2) := by
  rw [Option.map_eq_bind]
  rfl

/-- A frame is decoded from its type, the length of its payload, and the payload, of which as
much is kept as the cap allows. -/
theorem decode?_eq_some_iff : decode? limit bs = some (f, rest) ↔ f.declared ≤ maxPayload ∧
    ∃ payload, bs = f.typ :: (Bytes.be16 f.declared ++ (payload ++ rest)) ∧
      payload.length = f.declared ∧ f.payload = payload.take (cap limit) := by
  constructor
  · intro h
    rcases bs with _ | ⟨typ, _ | ⟨high, _ | ⟨low, tail⟩⟩⟩
    iterate 3 cases h
    rw [decode?_header] at h
    obtain ⟨⟨payload, after⟩, hcut, hx⟩ := Option.map_eq_some_iff.1 h
    obtain ⟨rfl, hl⟩ := Bytes.cut?_eq_some_iff.1 hcut
    cases hx
    refine ⟨Nat.le_of_lt_succ (Bytes.number_two_lt high low), payload, ?_, hl, rfl⟩
    rw [Bytes.be16_number]
    rfl
  · rintro ⟨hle, payload, rfl, hl, hp⟩
    have hnum : Bytes.number (Bytes.be16 f.declared) = f.declared :=
      (Bytes.number_be16 _).trans (Nat.mod_eq_of_lt (Nat.lt_succ_of_le hle))
    have hhead := decode?_header limit f.typ (.ofNat (f.declared / 256)) (.ofNat f.declared)
      (payload ++ rest)
    rw [← Bytes.be16, hnum, ← hl, Bytes.cut?_append, hl, Option.map_some, ← hp] at hhead
    exact hhead

theorem decode?_eq_none_iff : decode? limit bs = none ↔ ¬ Whole bs := by
  rcases bs with _ | ⟨typ, _ | ⟨high, _ | ⟨low, tail⟩⟩⟩
  iterate 3 simp [decode?, Whole, headerSize]
  rw [decode?_header, Option.map_eq_none_iff, Bytes.cut?_eq_none_iff]
  simp only [Whole, headerSize, List.length_cons, Nat.le_add_left, List.drop_succ_cons,
    List.drop_zero, List.take_succ_cons, List.take_zero, true_and, Nat.not_le]
  omega

/-- What comes after a frame is left as it is. -/
theorem decode?_append (more : Bytes) (h : decode? limit bs = some (f, rest)) :
    decode? limit (bs ++ more) = some (f, rest ++ more) := by
  obtain ⟨hle, payload, rfl, hl, hp⟩ := decode?_eq_some_iff.1 h
  exact decode?_eq_some_iff.2 ⟨hle, payload, by simp, hl, hp⟩

/-! ## All frames -/

theorem decodeAll_of_none (h : decode? limit bs = none) : decodeAll limit bs = ([], bs) := by
  unfold decodeAll
  split
  · rfl
  · rename_i hs
    rw [h] at hs
    cases hs

theorem decodeAll_of_some (h : decode? limit bs = some (f, rest)) :
    decodeAll limit bs = (f :: (decodeAll limit rest).1, (decodeAll limit rest).2) := by
  rw [decodeAll]
  split
  · rename_i hn
    rw [h] at hn
    cases hn
  · rename_i hs
    rw [h] at hs
    cases hs
    rfl

/-- Decoding goes on where it stopped when more bytes come. -/
theorem decodeAll_append (limit : Nat) (bs more : Bytes) : decodeAll limit (bs ++ more) =
    ((decodeAll limit bs).1 ++ (decodeAll limit ((decodeAll limit bs).2 ++ more)).1,
      (decodeAll limit ((decodeAll limit bs).2 ++ more)).2) := by
  fun_induction decodeAll limit bs with
  | case1 bs h => rfl
  | case2 bs f rest h fs left hrec ih =>
    rw [decodeAll_of_some (decode?_append more h), ih, hrec]
    rfl

theorem decode?_left (limit : Nat) (bs : Bytes) :
    decode? limit (decodeAll limit bs).2 = none := by
  fun_induction decodeAll limit bs with
  | case1 bs h => exact h
  | case2 bs f rest h fs left hrec ih =>
    rw [hrec] at ih
    exact ih

/-- What is left of the bytes is their end. -/
theorem decodeAll_left_suffix (limit : Nat) (bs : Bytes) : (decodeAll limit bs).2 <:+ bs := by
  fun_induction decodeAll limit bs with
  | case1 bs h => exact List.suffix_rfl
  | case2 bs f rest h fs left hrec ih =>
    obtain ⟨-, payload, rfl, -, -⟩ := decode?_eq_some_iff.1 h
    rw [hrec] at ih
    exact ih.trans ⟨f.typ :: (Bytes.be16 f.declared ++ payload), by simp⟩

/-- Each frame takes a header and as many bytes as it announces. -/
theorem length_decodeAll (limit : Nat) (bs : Bytes) :
    ((decodeAll limit bs).1.map fun f => headerSize + f.declared).sum +
      (decodeAll limit bs).2.length = bs.length := by
  fun_induction decodeAll limit bs with
  | case1 bs h => simp
  | case2 bs f rest h fs left hrec ih =>
    obtain ⟨-, payload, rfl, hl, -⟩ := decode?_eq_some_iff.1 h
    rw [hrec] at ih
    simp only [List.map_cons, List.sum_cons, List.length_cons, List.length_append,
      Bytes.length_be16, headerSize] at ih ⊢
    omega

end Frame

end DeviceLink
