-- Bytes as hexadecimal text and back.
import DeviceLink.Proofs.Results
import DeviceLink.Proofs.Text.Utf8
import DeviceLink.Text.Hex

namespace DeviceLink.Text.Hex

/-- The byte of a digit. -/
def digitByte (n : Nat) : UInt8 := UInt8.ofNat (digit n).toNat

theorem utf8EncodeChar_digit : ∀ n < 16, String.utf8EncodeChar (digit n) = [digitByte n] := by
  decide

theorem value?_digitByte : ∀ n < 16, value? (digitByte n) = some n := by
  decide

theorem encodeChars_pair (b : UInt8) :
    encodeChars (pair b) = [digitByte (b.toNat / 16), digitByte (b.toNat % 16)] := by
  have high : b.toNat / 16 < 16 := by
    have := b.toNat_lt
    omega
  have low : b.toNat % 16 < 16 := Nat.mod_lt _ (by omega)
  unfold encodeChars pair
  simp [utf8EncodeChar_digit _ high, utf8EncodeChar_digit _ low]

theorem utf8_encode_cons (b : UInt8) (bs : Bytes) : utf8 (encode (b :: bs)) =
    digitByte (b.toNat / 16) :: digitByte (b.toNat % 16) :: utf8 (encode bs) := by
  unfold utf8 encode
  rw [String.toList_ofList, String.toList_ofList, List.flatMap_cons, encodeChars_append,
    encodeChars_pair]
  rfl

theorem decodePairs_pair (index : Nat) (done : Bytes) (b : UInt8) (rest : Bytes) :
    decodePairs index done (digitByte (b.toNat / 16) :: digitByte (b.toNat % 16) :: rest) =
      decodePairs (index + 2) (b :: done) rest := by
  have high : b.toNat / 16 < 16 := by
    have := b.toNat_lt
    omega
  have low : b.toNat % 16 < 16 := Nat.mod_lt _ (by omega)
  have whole : UInt8.ofNat (b.toNat / 16 * 16 + b.toNat % 16) = b := by
    rw [Nat.div_add_mod' b.toNat 16]
    exact UInt8.ofNat_toNat
  rw [decodePairs]
  unfold valueAt
  rw [value?_digitByte _ high, value?_digitByte _ low]
  change decodePairs (index + 2) (UInt8.ofNat (b.toNat / 16 * 16 + b.toNat % 16) :: done) rest = _
  rw [whole]

theorem decodePairs_encode (index : Nat) (done bs : Bytes) :
    decodePairs index done (utf8 (encode bs)) = .ok (done.reverse ++ bs) := by
  induction bs generalizing index done with
  | nil =>
    change Except.ok done.reverse = _
    rw [List.append_nil]
  | cons b bs ih =>
    rw [utf8_encode_cons, decodePairs_pair, ih]
    simp

theorem length_utf8_encode (bs : Bytes) : (utf8 (encode bs)).length = 2 * bs.length := by
  induction bs with
  | nil => rfl
  | cons b bs ih =>
    rw [utf8_encode_cons]
    simp only [List.length_cons, ih]
    omega

/-- The bytes that a text spells are those that it was written for. -/
theorem decode_encode (bs : Bytes) : decode (encode bs) = .ok bs := by
  unfold decode
  dsimp only
  rw [length_utf8_encode, decodePairs_encode, if_neg (by omega)]
  rfl

/-! ## Texts that are hexadecimal -/

/-- The digits, in both cases. -/
def digits : List Char := "0123456789abcdefABCDEF".toList

/-- A text that spells bytes: digits, two for each byte. -/
structure Spells (s : String) : Prop where
  even : s.length % 2 = 0
  digits : ∀ c ∈ s.toList, c ∈ Hex.digits

theorem value?_lt {b : UInt8} {n : Nat} (valued : value? b = some n) : n < 16 := by
  unfold value? at valued
  dsimp only at valued
  split at valued
  · cases valued
    omega
  · split at valued
    · cases valued
      omega
    · split at valued
      · cases valued
        omega
      · cases valued

-- The list of digits is gone through here, for to decide it for all `c` is to try all characters.
theorem map_digit_value? {c : Char} (member : c ∈ digits) :
    (value? (UInt8.ofNat c.toNat)).map digit = some c.toLower := by
  have all : digits.all fun c =>
      (value? (UInt8.ofNat c.toNat)).map digit == some c.toLower := by decide
  exact beq_iff_eq.1 (List.all_eq_true.1 all c member)

theorem ascii_of_mem {c : Char} (member : c ∈ digits) : c.toNat < 0x80 := by
  have all : digits.all fun c => c.toNat < 0x80 := by decide
  exact of_decide_eq_true (List.all_eq_true.1 all c member)

/-- A digit in either case has a value, and is written in lower case. -/
theorem digit_of_mem {c : Char} (member : c ∈ digits) : c.toNat < 0x80 ∧
    ∃ n < 16, value? (UInt8.ofNat c.toNat) = some n ∧ digit n = c.toLower := by
  obtain ⟨n, valued, lower⟩ := Option.map_eq_some_iff.1 (map_digit_value? member)
  exact ⟨ascii_of_mem member, n, value?_lt valued, valued, lower⟩

theorem mem_digits_of_ascii :
    ∀ n < 0x80, (value? (UInt8.ofNat n)).isSome = true → Char.ofNat n ∈ digits := by
  decide

theorem value?_of_high {b : UInt8} (high : 0x80 ≤ b.toNat) : value? b = none := by
  unfold value?
  dsimp only
  rw [if_neg (by omega), if_neg (by omega), if_neg (by omega)]

/-- A character beyond ASCII has a byte that is no digit: its last one. -/
theorem exists_high_byte {c : Char} (beyond : ¬ c.toNat < 0x80) :
    ∃ b ∈ String.utf8EncodeChar c, 0x80 ≤ b.toNat := by
  refine ⟨UInt8.ofNat (c.toNat % 64 + 0x80), ?_, ?_⟩
  · unfold String.utf8EncodeChar
    change ¬ c.val.toNat < 0x80 at beyond
    change UInt8.ofNat (c.val.toNat % 64 + 0x80) ∈ _
    generalize c.val.toNat = v at beyond ⊢
    dsimp only
    rw [if_neg (by omega)]
    split
    · simp
    · split
      · simp
      · simp
  · rw [Decoding.toNat_byte (by omega)]
    omega

/-- Only the characters that are digits have bytes that are. -/
theorem mem_digits_of_bytes {c : Char}
    (valued : ∀ b ∈ String.utf8EncodeChar c, (value? b).isSome = true) : c ∈ digits := by
  by_cases ascii : c.toNat < 0x80
  · rw [utf8EncodeChar_ascii ascii] at valued
    have member := mem_digits_of_ascii c.toNat ascii (valued _ (List.mem_singleton_self _))
    rwa [Char.ofNat_toNat] at member
  · obtain ⟨b, member, high⟩ := exists_high_byte ascii
    have digit := valued b member
    rw [value?_of_high high] at digit
    cases digit

theorem valueAt_eq_ok_iff {index n : Nat} {b : UInt8} :
    valueAt index b = .ok n ↔ value? b = some n := by
  unfold valueAt
  cases value? b with
  | some m => simp
  | none => simp

/-- What is decoded has digits only. -/
theorem value?_of_decodePairs {index : Nat} {done bs decoded : Bytes} (even : bs.length % 2 = 0)
    (ok : decodePairs index done bs = .ok decoded) : ∀ b ∈ bs, (value? b).isSome = true := by
  fun_induction decodePairs index done bs with
  | case1 index done high low rest ih =>
    obtain ⟨h, first, ok⟩ := bind_eq_ok_iff.1 ok
    obtain ⟨l, second, ok⟩ := bind_eq_ok_iff.1 ok
    rw [valueAt_eq_ok_iff] at first second
    intro b member
    simp only [List.mem_cons] at member
    rcases member with rfl | rfl | later
    · rw [first]
      rfl
    · rw [second]
      rfl
    · simp only [List.length_cons] at even
      exact ih h l (by omega) ok b later
  | case2 bs index done other =>
    rcases bs with _ | ⟨high, _ | ⟨low, rest⟩⟩
    · nofun
    · cases even
    · exact absurd rfl (other high low rest)

theorem decodePairs_cons {index high low : Nat} {h l : UInt8} (first : value? h = some high)
    (second : value? l = some low) (done rest : Bytes) :
    decodePairs index done (h :: l :: rest) =
      decodePairs (index + 2) (UInt8.ofNat (high * 16 + low) :: done) rest := by
  rw [decodePairs, valueAt_eq_ok_iff.2 first, valueAt_eq_ok_iff.2 second]
  rfl

/-- A byte is written with the digits that it was read from, in lower case. -/
theorem pair_ofNat {high low : Nat} (small : high < 16) (small' : low < 16) :
    pair (UInt8.ofNat (high * 16 + low)) = [digit high, digit low] := by
  unfold pair
  rw [Decoding.toNat_byte (by omega)]
  rw [show (high * 16 + low) / 16 = high by omega, show (high * 16 + low) % 16 = low by omega]

/-- Digits are decoded two by two, to bytes that are written with the same digits. -/
theorem decodePairs_digits (index : Nat) (done : Bytes) : ∀ cs : List Char,
    cs.length % 2 = 0 → (∀ c ∈ cs, c ∈ digits) →
      ∃ bs, decodePairs index done (encodeChars cs) = .ok (done.reverse ++ bs) ∧
        bs.flatMap pair = cs.map Char.toLower
  | [], _, _ => ⟨[], by rw [List.append_nil]; rfl, rfl⟩
  | [_], even, _ => by cases even
  | h :: l :: cs, even, all => by
    obtain ⟨ascii, high, small, first, lower⟩ := digit_of_mem (all h (by simp))
    obtain ⟨ascii', low, small', second, lower'⟩ := digit_of_mem (all l (by simp))
    simp only [List.length_cons] at even
    obtain ⟨bs, decoded, spelled⟩ := decodePairs_digits (index + 2)
      (UInt8.ofNat (high * 16 + low) :: done) cs (by omega)
      fun c member => all c (by simp [member])
    refine ⟨UInt8.ofNat (high * 16 + low) :: bs, ?_, ?_⟩
    · have bytes : encodeChars (h :: l :: cs) =
          UInt8.ofNat h.toNat :: UInt8.ofNat l.toNat :: encodeChars cs := by
        simp [encodeChars, utf8EncodeChar_ascii ascii, utf8EncodeChar_ascii ascii']
      rw [bytes, decodePairs_cons first second, decoded]
      simp
    · rw [List.flatMap_cons, pair_ofNat small small', spelled, lower, lower']
      rfl

theorem length_encodeChars_digits {cs : List Char} (all : ∀ c ∈ cs, c ∈ digits) :
    (encodeChars cs).length = cs.length := by
  induction cs with
  | nil => rfl
  | cons c cs ih =>
    have ascii := ascii_of_mem (all c (by simp))
    have rest := ih fun c member => all c (by simp [member])
    unfold encodeChars at rest ⊢
    rw [List.flatMap_cons, utf8EncodeChar_ascii ascii, List.length_append, rest]
    simp [Nat.add_comm]

/-- Hexadecimal text is decoded, and the bytes are written as the same text in lower case. -/
theorem decode_of_spells {s : String} (spells : Spells s) :
    ∃ bs, decode s = .ok bs ∧ encode bs = s.toLower := by
  obtain ⟨even, all⟩ := spells
  rw [← String.length_toList] at even
  obtain ⟨bs, decoded, spelled⟩ := decodePairs_digits 0 [] s.toList even all
  refine ⟨bs, ?_, ?_⟩
  · unfold decode utf8
    dsimp only
    rw [length_encodeChars_digits all, if_neg (by omega), decoded]
    rfl
  · unfold encode String.toLower
    rw [spelled, ← String.toList_map, String.ofList_toList]

/-- No other text is. -/
theorem spells_of_decode {s : String} {bs : Bytes} (decoded : decode s = .ok bs) : Spells s := by
  unfold decode at decoded
  dsimp only at decoded
  split at decoded
  · cases decoded
  · rename_i even
    have valued := value?_of_decodePairs (by omega) decoded
    have all : ∀ c ∈ s.toList, c ∈ digits := by
      intro c member
      apply mem_digits_of_bytes
      intro b inside
      exact valued b (List.mem_flatMap.2 ⟨c, member, inside⟩)
    refine ⟨?_, all⟩
    unfold utf8 at even
    rw [length_encodeChars_digits all, String.length_toList] at even
    omega

/-- A text is decoded just where it is hexadecimal. -/
theorem exists_decode_iff {s : String} : (∃ bs, decode s = .ok bs) ↔ Spells s := by
  constructor
  · rintro ⟨bs, decoded⟩
    exact spells_of_decode decoded
  · intro spells
    obtain ⟨bs, decoded, -⟩ := decode_of_spells spells
    exact ⟨bs, decoded⟩

theorem encode_of_decode {s : String} {bs : Bytes} (decoded : decode s = .ok bs) :
    encode bs = s.toLower := by
  obtain ⟨bs', decoded', spelled⟩ := decode_of_spells (spells_of_decode decoded)
  rw [decoded] at decoded'
  cases decoded'
  exact spelled

end DeviceLink.Text.Hex
