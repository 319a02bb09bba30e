-- Text as bytes and back. The decoder finds every character where its bytes were written, so the
-- bytes of a text are the text again.
import DeviceLink.Text.Utf8

namespace DeviceLink.Text

namespace Decoding

variable {done : List (Option Char)} {n : Nat}

/-! ## Single bytes, by their numbers -/

theorem toNat_byte (small : n < 256) : (UInt8.ofNat n).toNat = n :=
  UInt8.toNat_ofNat_of_lt' small

theorem byte_eq_iff (small : n < 256) (b : UInt8) : UInt8.ofNat n = b ↔ n = b.toNat := by
  rw [← UInt8.toNat_inj, toNat_byte small]

theorem lead_ascii (low : n < 0x80) :
    lead done (UInt8.ofNat n) = ⟨some (Char.ofNat n) :: done, none⟩ := by
  unfold lead
  rw [if_pos]
  · rw [toNat_byte (by omega)]
  · rw [UInt8.lt_iff_toNat_lt, toNat_byte (by omega)]
    exact low

theorem lead_two (high : 0xC2 ≤ n) (low : n < 0xE0) :
    lead done (UInt8.ofNat n) = ⟨done, some ⟨0, n % 32, 0x80, 0xBF⟩⟩ := by
  have small : n < 256 := by omega
  unfold lead
  simp only [UInt8.lt_iff_toNat_lt, toNat_byte small, UInt8.reduceToNat]
  rw [if_neg (by omega), if_neg (by omega), if_pos low]

theorem lead_three (high : 0xE0 ≤ n) (low : n < 0xF0) : lead done (UInt8.ofNat n) =
    ⟨done, some ⟨1, n % 16, if n = 0xE0 then 0xA0 else 0x80, if n = 0xED then 0x9F else 0xBF⟩⟩ := by
  have small : n < 256 := by omega
  unfold lead
  simp only [UInt8.lt_iff_toNat_lt, byte_eq_iff small, toNat_byte small, UInt8.reduceToNat]
  rw [if_neg (by omega), if_neg (by omega), if_neg (by omega)]
  by_cases first : n = 0xE0
  · simp [first]
  · by_cases surrogates : n = 0xED
    · simp [surrogates]
    · simp [first, surrogates, low]

theorem lead_four (high : 0xF0 ≤ n) (low : n ≤ 0xF4) : lead done (UInt8.ofNat n) =
    ⟨done, some ⟨2, n % 8, if n = 0xF0 then 0x90 else 0x80, if n = 0xF4 then 0x8F else 0xBF⟩⟩ := by
  have small : n < 256 := by omega
  unfold lead
  simp only [UInt8.lt_iff_toNat_lt, byte_eq_iff small, toNat_byte small, UInt8.reduceToNat]
  rw [if_neg (by omega), if_neg (by omega), if_neg (by omega), if_neg (by omega),
    if_neg (by omega), if_neg (by omega)]
  by_cases first : n = 0xF0
  · simp [first]
  · by_cases last : n = 0xF4
    · simp [last]
    · rw [if_neg first, if_pos (by omega)]
      simp [first, last]

/-- A byte that goes on with a character, in the bounds that the bytes before it leave. -/
theorem take_of_begun {p : Begun} (above : p.low.toNat ≤ n) (below : n ≤ p.high.toNat) :
    take ⟨done, some p⟩ (UInt8.ofNat n) = match p.left with
      | 0 => ⟨some (Char.ofNat (p.code * 64 + n % 64)) :: done, none⟩
      | left + 1 => ⟨done, some ⟨left, p.code * 64 + n % 64, 0x80, 0xBF⟩⟩ := by
  have small : n < 256 := by
    have := p.high.toNat_lt
    omega
  unfold take
  cases left : p.left with
  | _ => simp only [UInt8.le_iff_toNat_le, toNat_byte small, above, below, and_self, if_true, left]

/-! ## Characters, by the number of their bytes -/

theorem foldl_take_two {v : Nat} (above : 0x7F < v) (below : v ≤ 0x7FF) :
    [UInt8.ofNat (v / 64 % 32 + 0xC0), UInt8.ofNat (v % 64 + 0x80)].foldl take ⟨done, none⟩ =
      ⟨some (Char.ofNat v) :: done, none⟩ := by
  have code : (v / 64 % 32 + 0xC0) % 32 * 64 + (v % 64 + 0x80) % 64 = v := by omega
  simp only [List.foldl_cons, List.foldl_nil]
  change take (lead done _) _ = _
  rw [lead_two (by omega) (by omega), take_of_begun (by simp) (by simp; omega)]
  dsimp only
  rw [code]

theorem foldl_take_three {v : Nat} (above : 0x7FF < v) (below : v ≤ 0xFFFF)
    (valid : v < 0xD800 ∨ 0xDFFF < v) :
    [UInt8.ofNat (v / 4096 % 16 + 0xE0), UInt8.ofNat (v / 64 % 64 + 0x80),
        UInt8.ofNat (v % 64 + 0x80)].foldl take ⟨done, none⟩ =
      ⟨some (Char.ofNat v) :: done, none⟩ := by
  have code : ((v / 4096 % 16 + 0xE0) % 16 * 64 + (v / 64 % 64 + 0x80) % 64) * 64 +
      (v % 64 + 0x80) % 64 = v := by omega
  simp only [List.foldl_cons, List.foldl_nil]
  change take (take (lead done _) _) _ = _
  rw [lead_three (by omega) (by omega), take_of_begun]
  · dsimp only
    rw [take_of_begun (by simp) (by simp; omega)]
    dsimp only
    rw [code]
  · dsimp only
    split
    · simp
      omega
    · simp
  · dsimp only
    split
    · simp
      omega
    · simp
      omega

theorem foldl_take_four {v : Nat} (above : 0xFFFF < v) (below : v < 0x110000) :
    [UInt8.ofNat (v / 262144 % 8 + 0xF0), UInt8.ofNat (v / 4096 % 64 + 0x80),
        UInt8.ofNat (v / 64 % 64 + 0x80), UInt8.ofNat (v % 64 + 0x80)].foldl take ⟨done, none⟩ =
      ⟨some (Char.ofNat v) :: done, none⟩ := by
  have code : (((v / 262144 % 8 + 0xF0) % 8 * 64 + (v / 4096 % 64 + 0x80) % 64) * 64 +
      (v / 64 % 64 + 0x80) % 64) * 64 + (v % 64 + 0x80) % 64 = v := by omega
  simp only [List.foldl_cons, List.foldl_nil]
  change take (take (take (lead done _) _) _) _ = _
  rw [lead_four (by omega) (by omega), take_of_begun]
  · dsimp only
    rw [take_of_begun (by simp) (by simp; omega)]
    dsimp only
    rw [take_of_begun (by simp) (by simp; omega)]
    dsimp only
    rw [code]
  · dsimp only
    split
    · simp
      omega
    · simp
  · dsimp only
    split
    · simp
      omega
    · simp
      omega

/-- The bytes of a character are taken for that character. -/
theorem foldl_take_char (done : List (Option Char)) (c : Char) :
    (String.utf8EncodeChar c).foldl take ⟨done, none⟩ = ⟨some c :: done, none⟩ := by
  have valid : c.val.toNat < 0xD800 ∨ 0xDFFF < c.val.toNat ∧ c.val.toNat < 0x110000 := c.valid
  have same : Char.ofNat c.val.toNat = c := Char.ofNat_toNat c
  unfold String.utf8EncodeChar
  generalize c.val.toNat = v at valid same
  rw [← same]
  dsimp only
  split
  · exact lead_ascii (by omega)
  · split
    · exact foldl_take_two (by omega) (by omega)
    · split
      · exact foldl_take_three (by omega) (by omega) (by omega)
      · exact foldl_take_four (by omega) (by omega)

theorem foldl_take_encodeChars (done : List (Option Char)) (cs : List Char) :
    (encodeChars cs).foldl take ⟨done, none⟩ = ⟨(cs.map some).reverse ++ done, none⟩ := by
  induction cs generalizing done with
  | nil => rfl
  | cons c cs ih =>
    unfold encodeChars at ih ⊢
    rw [List.flatMap_cons, List.foldl_append, foldl_take_char, ih]
    simp

end Decoding

/-! ## Texts -/

theorem decode_encodeChars (cs : List Char) : decode (encodeChars cs) = cs.map some := by
  unfold decode
  rw [Decoding.foldl_take_encodeChars]
  simp [Decoding.parts]

theorem ofUtf8?_utf8 (s : String) : ofUtf8? (utf8 s) = some s := by
  unfold ofUtf8? utf8
  rw [decode_encodeChars]
  have all : (s.toList.map some).mapM id = some s.toList := by
    induction s.toList with
    | nil => rfl
    | cons c cs ih => simp [ih]
  rw [all, Option.map_some, String.ofList_toList]

theorem encodeChars_append (cs ds : List Char) :
    encodeChars (cs ++ ds) = encodeChars cs ++ encodeChars ds := by
  unfold encodeChars
  rw [List.flatMap_append]

theorem utf8EncodeChar_ascii {c : Char} (ascii : c.toNat < 0x80) :
    String.utf8EncodeChar c = [UInt8.ofNat c.toNat] := by
  unfold String.utf8EncodeChar
  exact if_pos (Nat.le_of_lt_succ ascii)

end DeviceLink.Text
