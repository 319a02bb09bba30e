-- What the decoder makes its characters of. Each one that it finds has just the bytes that were
-- read for it. So bytes that are valid are the bytes of their text, and a text has no character
-- but those that were sent and the one for an invalid part.
import DeviceLink.Proofs.Text.Utf8

namespace DeviceLink.Text

/-! ## Characters, by their numbers -/

section

variable {v : Nat}

theorem toNat_val_ofNat (valid : v.isValidChar) : (Char.ofNat v).val.toNat = v := by
  unfold Char.ofNat
  rw [dif_pos valid]
  rfl

theorem utf8EncodeChar_ofNat_two (above : 0x7F < v) (below : v ≤ 0x7FF) :
    String.utf8EncodeChar (Char.ofNat v) =
      [UInt8.ofNat (v / 64 % 32 + 0xC0), UInt8.ofNat (v % 64 + 0x80)] := by
  unfold String.utf8EncodeChar
  rw [toNat_val_ofNat (.inl (by omega))]
  dsimp only
  rw [if_neg (by omega), if_pos below]

theorem utf8EncodeChar_ofNat_three (above : 0x7FF < v) (below : v ≤ 0xFFFF)
    (valid : v.isValidChar) : String.utf8EncodeChar (Char.ofNat v) =
      [UInt8.ofNat (v / 4096 % 16 + 0xE0), UInt8.ofNat (v / 64 % 64 + 0x80),
        UInt8.ofNat (v % 64 + 0x80)] := by
  unfold String.utf8EncodeChar
  rw [toNat_val_ofNat valid]
  dsimp only
  rw [if_neg (by omega), if_neg (by omega), if_pos below]

theorem utf8EncodeChar_ofNat_four (above : 0xFFFF < v) (below : v < 0x110000) :
    String.utf8EncodeChar (Char.ofNat v) =
      [UInt8.ofNat (v / 262144 % 8 + 0xF0), UInt8.ofNat (v / 4096 % 64 + 0x80),
        UInt8.ofNat (v / 64 % 64 + 0x80), UInt8.ofNat (v % 64 + 0x80)] := by
  unfold String.utf8EncodeChar
  rw [toNat_val_ofNat (.inr (by omega))]
  dsimp only
  rw [if_neg (by omega), if_neg (by omega), if_neg (by omega)]

end

/-! ## Characters that have begun -/

/-- Whatever bytes come within the bounds, they and those already read are the bytes of the
character that the decoder takes them for. -/
def Awaits : Nat → Bytes → Nat → UInt8 → UInt8 → Prop
  | 0, read, code, low, high => ∀ n, low.toNat ≤ n → n ≤ high.toNat →
      read ++ [UInt8.ofNat n] = String.utf8EncodeChar (Char.ofNat (code * 64 + n % 64))
  | left + 1, read, code, low, high => ∀ n, low.toNat ≤ n → n ≤ high.toNat →
      Awaits left (read ++ [UInt8.ofNat n]) (code * 64 + n % 64) 0x80 0xBF

/-- The bytes are those read of a character that has begun. -/
def Begun.Follows (p : Begun) (read : Bytes) : Prop := Awaits p.left read p.code p.low p.high

section

variable {n : Nat}

theorem follows_two (high : 0xC2 ≤ n) (low : n < 0xE0) :
    Begun.Follows ⟨0, n % 32, 0x80, 0xBF⟩ [UInt8.ofNat n] := by
  intro a above below
  dsimp only at above below ⊢
  simp only [UInt8.reduceToNat] at above below
  rw [utf8EncodeChar_ofNat_two (by omega) (by omega)]
  have first : (n % 32 * 64 + a % 64) / 64 % 32 + 0xC0 = n := by omega
  have second : (n % 32 * 64 + a % 64) % 64 + 0x80 = a := by omega
  rw [first, second]
  rfl

theorem follows_three (high : 0xE0 ≤ n) (low : n < 0xF0) :
    Begun.Follows ⟨1, n % 16, if n = 0xE0 then 0xA0 else 0x80, if n = 0xED then 0x9F else 0xBF⟩
      [UInt8.ofNat n] := by
  intro a above below b above' below'
  dsimp only at above below ⊢
  simp only [UInt8.reduceToNat] at above' below'
  have above : 0x80 ≤ a ∧ (n = 0xE0 → 0xA0 ≤ a) := by
    split at above <;> simp only [UInt8.reduceToNat] at above <;> omega
  have below : a ≤ 0xBF ∧ (n = 0xED → a ≤ 0x9F) := by
    split at below <;> simp only [UInt8.reduceToNat] at below <;> omega
  have valid : ((n % 16 * 64 + a % 64) * 64 + b % 64).isValidChar := by
    unfold Nat.isValidChar
    omega
  rw [utf8EncodeChar_ofNat_three (by omega) (by omega) valid]
  have first : ((n % 16 * 64 + a % 64) * 64 + b % 64) / 4096 % 16 + 0xE0 = n := by omega
  have second : ((n % 16 * 64 + a % 64) * 64 + b % 64) / 64 % 64 + 0x80 = a := by omega
  have third : ((n % 16 * 64 + a % 64) * 64 + b % 64) % 64 + 0x80 = b := by omega
  rw [first, second, third]
  rfl

theorem follows_four (high : 0xF0 ≤ n) (low : n ≤ 0xF4) :
    Begun.Follows ⟨2, n % 8, if n = 0xF0 then 0x90 else 0x80, if n = 0xF4 then 0x8F else 0xBF⟩
      [UInt8.ofNat n] := by
  intro a above below b above' below' c above'' below''
  dsimp only at above below ⊢
  simp only [UInt8.reduceToNat] at above' below' above'' below''
  have above : 0x80 ≤ a ∧ (n = 0xF0 → 0x90 ≤ a) := by
    split at above <;> simp only [UInt8.reduceToNat] at above <;> omega
  have below : a ≤ 0xBF ∧ (n = 0xF4 → a ≤ 0x8F) := by
    split at below <;> simp only [UInt8.reduceToNat] at below <;> omega
  generalize hv : ((n % 8 * 64 + a % 64) * 64 + b % 64) * 64 + c % 64 = v
  rw [utf8EncodeChar_ofNat_four (by omega) (by omega)]
  have first : v / 262144 % 8 + 0xF0 = n := by omega
  have second : v / 4096 % 64 + 0x80 = a := by omega
  have third : v / 64 % 64 + 0x80 = b := by omega
  have fourth : v % 64 + 0x80 = c := by omega
  rw [first, second, third, fourth]
  rfl

end

/-! ## Parts -/

/-- The bytes are those of the parts, of which the last stands first. -/
inductive Spells : Bytes → List (Option Char) → Prop
  | nil : Spells [] []
  | char {bs : Bytes} {parts : List (Option Char)} (c : Char) :
      Spells bs parts → Spells (bs ++ String.utf8EncodeChar c) (some c :: parts)
  | invalid {bs : Bytes} {parts : List (Option Char)} (part : Bytes) :
      Spells bs parts → Spells (bs ++ part) (none :: parts)

/-- The decoder has taken the bytes. -/
inductive Took : Bytes → Decoding → Prop
  | whole {bs : Bytes} {done : List (Option Char)} : Spells bs done → Took bs ⟨done, none⟩
  | begun {bs read : Bytes} {done : List (Option Char)} {p : Begun} :
      Spells bs done → p.Follows read → Took (bs ++ read) ⟨done, some p⟩

section

variable {bs : Bytes} {parts : List (Option Char)} {d : Decoding}

/-- A byte that begins no character is a part of its own. -/
theorem Decoding.lead_invalid {n : Nat} (small : n < 256)
    (alone : 0x80 ≤ n ∧ n < 0xC2 ∨ 0xF4 < n) :
    lead parts (UInt8.ofNat n) = ⟨none :: parts, none⟩ := by
  unfold lead
  simp only [UInt8.lt_iff_toNat_lt, byte_eq_iff small, toNat_byte small, UInt8.reduceToNat]
  by_cases early : n < 0xC2
  · rw [if_neg (by omega), if_pos early]
  · rw [if_neg (by omega), if_neg (by omega), if_neg (by omega), if_neg (by omega),
      if_neg (by omega), if_neg (by omega), if_neg (by omega), if_neg (by omega),
      if_neg (by omega)]

theorem took_lead (spells : Spells bs parts) (b : UInt8) :
    Took (bs ++ [b]) (Decoding.lead parts b) := by
  obtain ⟨n, small, rfl⟩ : ∃ n, n < 256 ∧ UInt8.ofNat n = b :=
    ⟨b.toNat, b.toNat_lt, UInt8.ofNat_toNat⟩
  by_cases ascii : n < 0x80
  · rw [Decoding.lead_ascii ascii]
    have number : (Char.ofNat n).toNat = n := toNat_val_ofNat (.inl (by omega))
    have encoded : String.utf8EncodeChar (Char.ofNat n) = [UInt8.ofNat n] := by
      rw [utf8EncodeChar_ascii (by omega), number]
    rw [← encoded]
    exact .whole (.char _ spells)
  · by_cases alone : n < 0xC2 ∨ 0xF4 < n
    · rw [Decoding.lead_invalid small (by omega)]
      exact .whole (.invalid _ spells)
    · by_cases two : n < 0xE0
      · rw [Decoding.lead_two (by omega) two]
        exact .begun spells (follows_two (by omega) two)
      · by_cases three : n < 0xF0
        · rw [Decoding.lead_three (by omega) three]
          exact .begun spells (follows_three (by omega) three)
        · rw [Decoding.lead_four (by omega) (by omega)]
          exact .begun spells (follows_four (by omega) (by omega))

theorem took_take (took : Took bs d) (b : UInt8) : Took (bs ++ [b]) (d.take b) := by
  cases took with
  | whole spells => exact took_lead spells b
  | @begun bs read done p spells follows =>
    by_cases within : p.low ≤ b ∧ b ≤ p.high
    · have above : p.low.toNat ≤ b.toNat := UInt8.le_iff_toNat_le.1 within.1
      have below : b.toNat ≤ p.high.toNat := UInt8.le_iff_toNat_le.1 within.2
      have same : UInt8.ofNat b.toNat = b := UInt8.ofNat_toNat
      have taken : Decoding.take ⟨done, some p⟩ (UInt8.ofNat b.toNat) = _ :=
        Decoding.take_of_begun above below
      rw [same] at taken
      rw [taken, List.append_assoc]
      obtain ⟨left, code, low, high⟩ := p
      cases left with
      | zero =>
        have next : Awaits 0 read code low high := follows
        have whole := next b.toNat above below
        rw [same] at whole
        rw [whole]
        exact .whole (.char _ spells)
      | succ left =>
        have next : Awaits (left + 1) read code low high := follows
        have more := next b.toNat above below
        rw [same] at more
        exact .begun spells more
    · have taken : Decoding.take ⟨done, some p⟩ b = Decoding.lead (none :: done) b := by
        unfold Decoding.take
        simp only [within, if_false]
      rw [taken]
      exact took_lead (.invalid _ spells) b

theorem took_foldl (took : Took bs d) (more : Bytes) :
    Took (bs ++ more) (more.foldl Decoding.take d) := by
  induction more generalizing bs d with
  | nil =>
    rw [List.append_nil]
    exact took
  | cons b more ih =>
    rw [List.append_cons]
    exact ih (took_take took b)

/-- The bytes that were decoded are those of the parts. -/
theorem spells_decode (bs : Bytes) : Spells bs (decode bs).reverse := by
  have took : Took bs (bs.foldl Decoding.take {}) := took_foldl (.whole .nil) bs
  unfold decode
  generalize bs.foldl Decoding.take {} = d at took
  cases took with
  | whole spells =>
    simpa [Decoding.parts] using spells
  | begun spells follows =>
    simpa [Decoding.parts] using Spells.invalid _ spells

theorem eq_encodeChars_of_spells {cs : List Char} (spells : Spells bs (cs.map some)) :
    bs = encodeChars cs.reverse := by
  induction cs generalizing bs with
  | nil =>
    cases spells
    rfl
  | cons c cs ih =>
    cases spells with
    | char _ before =>
      rw [ih before, List.reverse_cons, encodeChars_append]
      simp [encodeChars]

theorem mem_of_spells {c : Char} {b : UInt8} (spells : Spells bs parts) (part : some c ∈ parts)
    (byte : b ∈ String.utf8EncodeChar c) : b ∈ bs := by
  induction spells with
  | nil => cases part
  | char c' _ ih =>
    rw [List.mem_append]
    rcases List.mem_cons.1 part with same | before
    · cases same
      exact .inr byte
    · exact .inl (ih before)
  | invalid _ _ ih =>
    rw [List.mem_append]
    rcases List.mem_cons.1 part with same | before
    · cases same
    · exact .inl (ih before)

end

/-! ## Texts -/

theorem eq_map_some_of_mapM {parts : List (Option Char)} {cs : List Char}
    (all : parts.mapM id = some cs) : parts = cs.map some := by
  induction parts generalizing cs with
  | nil =>
    cases all
    rfl
  | cons part parts ih =>
    simp only [List.mapM_cons, Option.bind_eq_bind, Option.bind_eq_some_iff, Option.pure_def,
      Option.some.injEq, id_eq] at all
    obtain ⟨c, rfl, rest, found, rfl⟩ := all
    rw [ih found, List.map_cons]

/-- Valid bytes are the bytes of just one text. -/
theorem ofUtf8?_eq_some_iff {bs : Bytes} {s : String} : ofUtf8? bs = some s ↔ bs = utf8 s := by
  constructor
  · intro valid
    unfold ofUtf8? at valid
    obtain ⟨cs, all, rfl⟩ := Option.map_eq_some_iff.1 valid
    have parts := eq_map_some_of_mapM all
    have spells := spells_decode bs
    rw [parts, ← List.map_reverse] at spells
    rw [eq_encodeChars_of_spells spells, List.reverse_reverse, utf8, String.toList_ofList]
  · rintro rfl
    exact ofUtf8?_utf8 s

theorem lossy_encodeChars (cs : List Char) : lossy (encodeChars cs) = String.ofList cs := by
  unfold lossy
  rw [decode_encodeChars, List.map_map]
  congr 1
  exact List.map_id cs

/-! ## NULs -/

theorem eq_zero_of_byte {n : Nat} (small : n < 256) (zero : (0 : UInt8) = UInt8.ofNat n) :
    n = 0 := ((Decoding.byte_eq_iff small 0).1 zero.symm)

/-- Only the bytes of NUL have a zero. -/
theorem eq_nul_of_zero_mem {c : Char} (zero : (0 : UInt8) ∈ String.utf8EncodeChar c) :
    c = '\x00' := by
  apply Char.toNat_inj.1
  change c.val.toNat = 0
  unfold String.utf8EncodeChar at zero
  generalize c.val.toNat = v at zero
  dsimp only at zero
  -- The bytes of a longer character are 0x80 at least.
  split at zero
  · exact eq_zero_of_byte (by omega) (List.mem_singleton.1 zero)
  · exfalso
    split at zero
    · simp only [List.mem_cons, List.not_mem_nil, or_false] at zero
      rcases zero with zero | zero <;> have number := eq_zero_of_byte (by omega) zero <;> omega
    · split at zero
      · simp only [List.mem_cons, List.not_mem_nil, or_false] at zero
        rcases zero with zero | zero | zero <;> have number := eq_zero_of_byte (by omega) zero <;>
          omega
      · simp only [List.mem_cons, List.not_mem_nil, or_false] at zero
        rcases zero with zero | zero | zero | zero <;>
          have number := eq_zero_of_byte (by omega) zero <;> omega

theorem takeWhile_encodeChars (cs : List Char) :
    (encodeChars cs).takeWhile (· ≠ 0) = encodeChars (cs.takeWhile (· ≠ '\x00')) := by
  induction cs with
  | nil => rfl
  | cons c cs ih =>
    by_cases nul : c = '\x00'
    · subst nul
      rfl
    · have nonzero : ∀ b ∈ String.utf8EncodeChar c, decide (b ≠ 0) = true := by
        intro b member
        rw [decide_eq_true_iff]
        rintro rfl
        exact nul (eq_nul_of_zero_mem member)
      rw [List.takeWhile_cons_of_pos (by rw [decide_eq_true_iff]; exact nul)]
      unfold encodeChars at ih ⊢
      rw [List.flatMap_cons, List.flatMap_cons, List.takeWhile_append_of_pos nonzero, ih]

/-- A text has no NUL if its bytes have none. -/
theorem nul_not_mem_lossy {bs : Bytes} (free : (0 : UInt8) ∉ bs) : '\x00' ∉ (lossy bs).toList := by
  intro nul
  unfold lossy at nul
  rw [String.toList_ofList, List.mem_map] at nul
  obtain ⟨part, found, same⟩ := nul
  cases part with
  | none => exact absurd same (by decide)
  | some c =>
    obtain rfl : c = '\x00' := same
    exact free (mem_of_spells (spells_decode bs) (List.mem_reverse.2 found) (by decide))

end DeviceLink.Text
