-- The words of JSON, written and read back: string literals and whole numbers, in front of anything
-- that cannot go on with them.
import DeviceLink.Json.Printer
import DeviceLink.Proofs.Text.Hex

namespace DeviceLink.Json

/-! ## Blanks -/

theorem nextByte_of_visible {b : UInt8} (visible : isBlank b = false) (rest : Bytes) :
    nextByte (b :: rest) = .ok (b, rest) := by
  simp [nextByte, visible]

theorem expectByte_of_visible {b : UInt8} (visible : isBlank b = false) (rest : Bytes) :
    expectByte b (b :: rest) = .ok ((), rest) := by
  unfold expectByte
  rw [nextByte_of_visible visible]
  simp [bind, Except.bind]

/-! ## String literals -/

section

variable {done rest : Bytes} {b : UInt8}

theorem literalBytes_plain (quote : b ≠ 0x22) (escape : b ≠ 0x5C) (visible : ¬ b < 0x20) :
    literalBytes done (b :: rest) = literalBytes (b :: done) rest := by
  rw [literalBytes]
  · rw [if_neg visible]
  · simp [quote]
  · simp [escape]
  · simp [escape]
  · simp [escape]
  · simp [escape]

theorem literalBytes_short {e : UInt8} (short : shortEscape? e = some b) :
    literalBytes done (0x5C :: e :: rest) = literalBytes (b :: done) rest := by
  have other : e ≠ 0x75 := by
    rintro rfl
    simp [shortEscape?] at short
  rw [literalBytes]
  · rw [short]
  · simp [other]
  · simp [other]

theorem codePointReversed_low {n : Nat} (low : n < 0x80) :
    codePointReversed n = [UInt8.ofNat n] := by
  have code : (Char.ofNat n).toNat = n := by
    rw [Char.ofNat, dif_pos (.inl (by omega))]
    rfl
  unfold codePointReversed
  rw [Text.utf8EncodeChar_ascii (by omega), code]
  rfl

theorem literalBytes_unit {x y : UInt8} {n : Nat} (unit : unit? 0x30 0x30 x y = some n)
    (low : n < 0x80) : literalBytes done (0x5C :: 0x75 :: 0x30 :: 0x30 :: x :: y :: rest) =
      literalBytes (UInt8.ofNat n :: done) rest := by
  have alone : isLowSurrogate n = false ∧ isHighSurrogate n = false := by
    unfold isLowSurrogate isHighSurrogate
    simp
    omega
  rw [literalBytes]
  simp [unit, alone, codePointReversed_low low]

theorem unit?_pair (b : UInt8) : unit? 0x30 0x30 (Text.Hex.digitByte (b.toNat / 16))
    (Text.Hex.digitByte (b.toNat % 16)) = some b.toNat := by
  have zero : Text.Hex.value? 0x30 = some 0 := rfl
  have high : b.toNat / 16 < 16 := by
    have := b.toNat_lt
    omega
  have low : b.toNat % 16 < 16 := Nat.mod_lt _ (by omega)
  unfold unit?
  rw [zero, Text.Hex.value?_digitByte _ high, Text.Hex.value?_digitByte _ low]
  simp
  omega

/-- An escaped byte is read back, and nothing after it. -/
theorem literalBytes_escapeByte (done rest : Bytes) (b : UInt8) :
    literalBytes done (escapeByte b ++ rest) = literalBytes (b :: done) rest := by
  unfold escapeByte
  split
  · rename_i special
    apply literalBytes_short
    unfold shortEscape?
    rw [if_pos]
    rcases special with rfl | rfl
    · simp
    · simp
  · rename_i plain
    split
    · rename_i backspace
      subst backspace
      exact literalBytes_short rfl
    · split
      · rename_i formFeed
        subst formFeed
        exact literalBytes_short rfl
      · split
        · rename_i lineFeed
          subst lineFeed
          exact literalBytes_short rfl
        · split
          · rename_i carriageReturn
            subst carriageReturn
            exact literalBytes_short rfl
          · split
            · rename_i tab
              subst tab
              exact literalBytes_short rfl
            · split
              · rename_i control
                have low : b.toNat < 0x80 := by
                  rw [UInt8.lt_iff_toNat_lt] at control
                  simp at control
                  omega
                have prefixed : ascii "\\u00" = [0x5C, 0x75, 0x30, 0x30] := by decide
                rw [prefixed, Text.Hex.encodeChars_pair]
                have same : UInt8.ofNat b.toNat = b := UInt8.ofNat_toNat
                refine (literalBytes_unit (unit?_pair b) low).trans ?_
                rw [same]
                rfl
              · rename_i visible
                rw [not_or] at plain
                exact literalBytes_plain plain.1 plain.2 visible

theorem literalBytes_escaped (done bs rest : Bytes) :
    literalBytes done (bs.flatMap escapeByte ++ 0x22 :: rest) = .ok (done.reverse ++ bs, rest) := by
  induction bs generalizing done with
  | nil =>
    change literalBytes done (0x22 :: rest) = _
    rw [literalBytes, List.append_nil]
  | cons b bs ih =>
    rw [List.flatMap_cons, List.append_assoc, literalBytes_escapeByte, ih]
    simp

end

/-- A literal is read back, its opening quote being taken. -/
theorem literal_printString (s : String) (rest : Bytes) :
    ∃ tail, printString s ++ rest = 0x22 :: tail ∧ literal tail = .ok (s, rest) := by
  refine ⟨(Text.utf8 s).flatMap escapeByte ++ 0x22 :: rest, ?_, ?_⟩
  · simp [printString]
  · unfold literal
    rw [literalBytes_escaped]
    simp [bind, Except.bind, Text.ofUtf8?_utf8]

/-! ## Whole numbers -/

/-- What follows a number cannot go on with it. -/
def EndsNumber (rest : Bytes) : Prop :=
  ∀ b, rest.head? = some b → isDigit b = false ∧ opensFraction b = false

/-- The number that digits spell after a number. -/
def spelled (n : Nat) (digits : Bytes) : Nat := digits.foldl (fun n b => n * 10 + digitValue b) n

theorem le_spelled (n : Nat) (digits : Bytes) : n ≤ spelled n digits := by
  induction digits generalizing n with
  | nil => exact Nat.le_refl n
  | cons d ds ih =>
    have := ih (n * 10 + digitValue d)
    unfold spelled at this ⊢
    rw [List.foldl_cons]
    omega

theorem gather_digits {n count : Nat} {digits rest : Bytes} (all : ∀ b ∈ digits, isDigit b = true)
    (fits : spelled n digits < UInt64.size) : gather n count (digits ++ rest) =
      gather (spelled n digits) (count + digits.length) rest := by
  induction digits generalizing n count with
  | nil => rfl
  | cons d ds ih =>
    have digit := all d (by simp)
    have onward : n * 10 + digitValue d < UInt64.size :=
      Nat.lt_of_le_of_lt (le_spelled _ ds) fits
    rw [List.cons_append, gather, if_pos digit]
    dsimp only
    have counted : count + 1 + ds.length = count + (d :: ds).length := by
      simp
      omega
    rw [if_pos onward, ih (fun b member => all b (by simp [member])) fits, counted]
    rfl

theorem gather_end {rest : Bytes} (ends : EndsNumber rest) (n count : Nat) :
    gather n count rest = (n, count, rest) := by
  cases rest with
  | nil => rfl
  | cons b rest =>
    have other := (ends b rfl).1
    simp [gather, other]

/-- The digits of a number: no needless zero in front, and the number is what they spell. -/
structure Digits (n : Nat) (first : UInt8) (more : Bytes) : Prop where
  digit : isDigit first = true
  digits : ∀ b ∈ more, isDigit b = true
  lone : first = 0x30 → more = []
  positive : n ≠ 0 → first ≠ 0x30
  spells : spelled 0 (first :: more) = n

theorem printNat_digit : ∀ n < 10, printNat n = [Text.Hex.digitByte n] ∧
    isDigit (Text.Hex.digitByte n) = true ∧ digitValue (Text.Hex.digitByte n) = n := by
  decide

theorem printNat_of_le {n : Nat} (long : 10 ≤ n) :
    printNat n = printNat (n / 10) ++ printNat (n % 10) := by
  unfold printNat
  rw [Nat.toDigits_of_base_le (by omega) long, Text.encodeChars_append,
    Nat.toDigits_of_lt_base (Nat.mod_lt n (by omega))]

theorem printNat_digits (n : Nat) : ∃ first more, printNat n = first :: more ∧
    Digits n first more := by
  induction n using Nat.strongRecOn with
  | ind n ih =>
    by_cases short : n < 10
    · obtain ⟨text, digit, value⟩ := printNat_digit n short
      refine ⟨_, [], text, digit, by simp, fun _ => rfl, ?_, ?_⟩
      · intro positive zero
        rw [zero] at value
        exact positive value.symm
      · simp [spelled, value]
    · obtain ⟨first, more, text, whole⟩ := ih (n / 10) (by omega)
      obtain ⟨last, digit, value⟩ := printNat_digit (n % 10) (Nat.mod_lt n (by omega))
      have positive := whole.positive (by omega)
      refine ⟨first, more ++ [Text.Hex.digitByte (n % 10)], ?_, whole.digit, ?_,
        fun zero => absurd zero positive, fun _ => positive, ?_⟩
      · rw [printNat_of_le (by omega), text, last]
        rfl
      · intro b member
        rcases List.mem_append.1 member with before | lastly
        · exact whole.digits b before
        · rw [List.mem_singleton.1 lastly]
          exact digit
      · have spells := whole.spells
        unfold spelled at spells ⊢
        rw [← List.cons_append, List.foldl_append, spells]
        simp [value]
        omega

theorem number_digits {n : Nat} {first : UInt8} {more rest : Bytes} (digits : Digits n first more)
    (fits : n < UInt64.size) (ends : EndsNumber rest) (negative : Bool) :
    unsignedNumber negative (first :: more ++ rest) =
      if ¬ negative then .ok (.whole n, rest)
      else if n = 0 ∨ 0x8000000000000000 < n then do .ok (← floatOf true n 0, rest)
      else .ok (.whole (-n), rest) := by
  have all : ∀ b ∈ first :: more, isDigit b = true := by
    intro b member
    rcases List.mem_cons.1 member with rfl | later
    · exact digits.digit
    · exact digits.digits b later
  have noneNext : rest.head?.any isDigit = false := by
    cases rest with
    | nil => rfl
    | cons b rest => simp [(ends b rfl).1]
  have noFraction : rest.head?.any opensFraction = false := by
    cases rest with
    | nil => rfl
    | cons b rest => simp [(ends b rfl).2]
  have noneBeyond : spanDigits rest = ([], rest) := by
    cases rest with
    | nil => rfl
    | cons b rest => simp [spanDigits, (ends b rfl).1]
  have gathered : gather 0 0 (first :: more ++ rest) = (n, (first :: more).length, rest) := by
    rw [gather_digits all (by rw [digits.spells]; exact fits), digits.spells, gather_end ends,
      Nat.zero_add]
  have proper : ¬ (first = 0x30 ∧ ((more ++ rest).head?.any isDigit) = true) := by
    rintro ⟨zero, more⟩
    rw [digits.lone zero, List.nil_append, noneNext] at more
    cases more
  rw [List.cons_append] at gathered ⊢
  unfold unsignedNumber
  simp only [digits.digit, not_true, if_false, proper, gathered, noneBeyond, noFraction,
    List.isEmpty_nil, Bool.false_eq_true, or_self]

theorem visible_of_isDigit {b : UInt8} (digit : isDigit b = true) :
    isBlank b = false ∧ b ≠ 0x2D := by
  constructor
  · cases blank : isBlank b with
    | false => rfl
    | true =>
      simp only [isBlank, Bool.or_eq_true, decide_eq_true_eq] at blank
      rcases blank with ((rfl | rfl) | rfl) | rfl
      all_goals simp [isDigit] at digit
  · rintro rfl
    simp [isDigit] at digit

/-- A whole number that 64 bits hold is read back. -/
theorem number_printInt {i : Int} (low : -0x8000000000000000 ≤ i) (high : i < UInt64.size)
    {rest : Bytes} (ends : EndsNumber rest) : ∃ b tail, printInt i ++ rest = b :: tail ∧
      isBlank b = false ∧ opensNumber b = true ∧ number (b :: tail) = .ok (.whole i, rest) := by
  obtain ⟨first, more, text, digits⟩ := printNat_digits i.natAbs
  have size : UInt64.size = 0x10000000000000000 := rfl
  unfold printInt
  split
  · rename_i negative
    refine ⟨0x2D, first :: more ++ rest, ?_, by decide, by decide, ?_⟩
    · rw [text]
      rfl
    · change unsignedNumber true (first :: more ++ rest) = _
      have back : -(i.natAbs : Int) = i := by omega
      rw [number_digits digits (by omega) ends, if_neg (by simp), if_neg (by omega), back]
  · rename_i positive
    obtain ⟨visible, unsigned⟩ := visible_of_isDigit digits.digit
    refine ⟨first, more ++ rest, ?_, visible, ?_, ?_⟩
    · rw [text]
      rfl
    · simp [opensNumber, digits.digit]
    · have plain : number (first :: (more ++ rest)) =
          unsignedNumber false (first :: (more ++ rest)) := by
        unfold number
        split
        · rename_i same
          simp at same
          exact absurd same.1 unsigned
        · rfl
      rw [plain, ← List.cons_append, number_digits digits (by omega) ends, if_pos (by simp)]
      simp
      omega

end DeviceLink.Json
