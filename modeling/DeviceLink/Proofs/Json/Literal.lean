-- What string literals spell, by a grammar of their own, and that they are read by it.
import DeviceLink.Proofs.Json.Codec
import DeviceLink.Proofs.Results
import DeviceLink.Proofs.Text.Decoding

namespace DeviceLink.Json

variable {bs rest done text : Bytes} {b : UInt8}

/-! ## Blanks -/

/-- Blanks come first, if anything, and then the rest. -/
inductive Blanks : Bytes → Bytes → Prop
  | nil (rest : Bytes) : Blanks rest rest
  | cons {b : UInt8} {bs rest : Bytes} :
      isBlank b = true → Blanks bs rest → Blanks (b :: bs) rest

theorem Blanks.length_le (blanks : Blanks bs rest) : rest.length ≤ bs.length := by
  induction blanks with
  | nil => exact Nat.le_refl _
  | cons _ _ ih => exact Nat.le_succ_of_le ih

theorem Blanks.eq_of_visible (visible : isBlank b = false) (blanks : Blanks (b :: bs) rest) :
    rest = b :: bs := by
  cases blanks with
  | nil => rfl
  | cons blank _ =>
    rw [blank] at visible
    cases visible

theorem nextByte_eq_ok_iff :
    nextByte bs = .ok (b, rest) ↔ isBlank b = false ∧ Blanks bs (b :: rest) := by
  induction bs with
  | nil =>
    refine iff_of_false nofun ?_
    rintro ⟨-, blanks⟩
    cases blanks
  | cons a bs ih =>
    by_cases blank : isBlank a = true
    · have skip : nextByte (a :: bs) = nextByte bs := by
        unfold nextByte
        rw [List.dropWhile_cons_of_pos blank]
      rw [skip, ih]
      refine and_congr_right fun visible => ⟨.cons blank, fun blanks => ?_⟩
      cases blanks with
      | nil =>
        rw [blank] at visible
        cases visible
      | cons _ blanks => exact blanks
    · rw [Bool.not_eq_true] at blank
      rw [nextByte_of_visible blank]
      constructor
      · intro same
        cases same
        exact ⟨blank, .nil _⟩
      · rintro ⟨visible, blanks⟩
        cases blanks.eq_of_visible blank
        rfl

theorem expectByte_eq_ok_iff (visible : isBlank b = false) :
    expectByte b bs = .ok ((), rest) ↔ Blanks bs (b :: rest) := by
  unfold expectByte
  rw [bind_eq_ok_iff]
  constructor
  · rintro ⟨⟨a, after⟩, next, taken⟩
    dsimp only at taken
    split at taken
    · next same =>
      cases taken
      rw [← same]
      exact (nextByte_eq_ok_iff.1 next).2
    · cases taken
  · intro blanks
    refine ⟨_, nextByte_eq_ok_iff.2 ⟨visible, blanks⟩, ?_⟩
    dsimp only
    rw [if_pos rfl]

/-! ## String literals -/

/-- A string literal whose opening quote is taken, the bytes that it spells, and what follows its
closing quote. -/
inductive Literal : Bytes → Bytes → Bytes → Prop
  | close (rest : Bytes) : Literal (0x22 :: rest) [] rest
  | plain {b : UInt8} {bs text rest : Bytes} : b ≠ 0x22 → b ≠ 0x5C → 0x20 ≤ b →
      Literal bs text rest → Literal (b :: bs) (b :: text) rest
  | short {e b : UInt8} {bs text rest : Bytes} : shortEscape? e = some b →
      Literal bs text rest → Literal (0x5C :: e :: bs) (b :: text) rest
  | unit {a b c d : UInt8} {n : Nat} {bs text rest : Bytes} : unit? a b c d = some n →
      isHighSurrogate n = false → isLowSurrogate n = false → Literal bs text rest →
        Literal (0x5C :: 0x75 :: a :: b :: c :: d :: bs)
          (String.utf8EncodeChar (Char.ofNat n) ++ text) rest
  /-- A character beyond the first 65536 is spelled by two surrogates. -/
  | pair {a b c d e f g h : UInt8} {n m : Nat} {bs text rest : Bytes} :
      unit? a b c d = some n → isHighSurrogate n = true →
        unit? e f g h = some m → isLowSurrogate m = true → Literal bs text rest →
          Literal (0x5C :: 0x75 :: a :: b :: c :: d :: 0x5C :: 0x75 :: e :: f :: g :: h :: bs)
            (String.utf8EncodeChar (Char.ofNat (joinSurrogates n m)) ++ text) rest

theorem exists_literal (read : literalBytes done bs = .ok (text, rest)) :
    ∃ more, Literal bs more rest ∧ text = done.reverse ++ more := by
  fun_induction literalBytes done bs with
  | case2 done =>
    cases read
    exact ⟨[], .close _, (List.append_nil _).symm⟩
  | case5 done a b c d bs n unit low high ih =>
    obtain ⟨more, literal, spelled⟩ := ih read
    rw [Bool.not_eq_true] at low high
    refine ⟨_, .unit unit high low literal, ?_⟩
    rw [spelled, codePointReversed, List.reverse_append, List.reverse_reverse, List.append_assoc]
  | case7 done a b c d n unit _ high e f g h bs m unit' low ih =>
    obtain ⟨more, literal, spelled⟩ := ih read
    have high : isHighSurrogate n = true := by simpa using high
    refine ⟨_, .pair unit high unit' low literal, ?_⟩
    rw [spelled, codePointReversed, List.reverse_append, List.reverse_reverse, List.append_assoc]
  | case15 done e bs _ _ b escape ih =>
    obtain ⟨more, literal, spelled⟩ := ih read
    refine ⟨_, .short escape literal, ?_⟩
    rw [spelled, List.reverse_cons, List.append_assoc]
    rfl
  | case19 done b bs quote _ _ escape alone visible ih =>
    have other : b ≠ 0x5C := by
      intro same
      cases bs with
      | nil => exact alone same rfl
      | cons e bs => exact escape e bs same rfl
    obtain ⟨more, literal, spelled⟩ := ih read
    refine ⟨_, .plain quote other (UInt8.not_lt.1 visible) literal, ?_⟩
    rw [spelled, List.reverse_cons, List.append_assoc]
    rfl
  | case1 | case3 | case4 | case6 | case8 | case9 | case10 | case11 | case12 | case13 | case14
  | case16 | case17 | case18 => cases read

theorem literalBytes_of_literal (literal : Literal bs text rest) (done : Bytes) :
    literalBytes done bs = .ok (done.reverse ++ text, rest) := by
  induction literal generalizing done with
  | close rest => rw [literalBytes, List.append_nil]
  | plain quote escape visible _ ih =>
    rw [literalBytes_plain quote escape (UInt8.not_lt.2 visible), ih, List.reverse_cons,
      List.append_assoc]
    rfl
  | short escape _ ih =>
    rw [literalBytes_short escape, ih, List.reverse_cons, List.append_assoc]
    rfl
  | unit unit high low _ ih =>
    rw [literalBytes]
    simp only [unit, high, low, Bool.false_eq_true, if_false, not_false_eq_true, if_true]
    rw [ih, codePointReversed, List.reverse_append, List.reverse_reverse, List.append_assoc]
  | @pair a b c d e f g h n m bs text rest unit high unit' low _ ih =>
    have first : isLowSurrogate n = false := by
      unfold isHighSurrogate isLowSurrogate at *
      simp only [Bool.and_eq_true, decide_eq_true_eq] at high
      simp
      omega
    rw [literalBytes]
    simp only [unit, high, first, unit', low, Bool.false_eq_true, not_true_eq_false, if_false,
      if_true]
    rw [ih, codePointReversed, List.reverse_append, List.reverse_reverse, List.append_assoc]

/-- A string literal is read just where its bytes are the bytes of the text. -/
theorem literal_eq_ok_iff {s : String} :
    literal bs = .ok (s, rest) ↔ Literal bs (Text.utf8 s) rest := by
  unfold literal
  rw [bind_eq_ok_iff]
  constructor
  · rintro ⟨⟨text, rest'⟩, found, valid⟩
    obtain ⟨more, literal, spelled⟩ := exists_literal found
    dsimp only at valid
    split at valid
    · next s' whole =>
      cases valid
      rw [← Text.ofUtf8?_eq_some_iff.1 whole, spelled]
      exact literal
    · cases valid
  · intro literal
    refine ⟨_, literalBytes_of_literal literal [], ?_⟩
    dsimp only
    rw [List.reverse_nil, List.nil_append, Text.ofUtf8?_utf8]

/-! ## Literals whose text does not matter -/

/-- A string literal whose opening quote is taken, and what follows its closing quote. -/
inductive LooseLiteral : Bytes → Bytes → Prop
  | close (rest : Bytes) : LooseLiteral (0x22 :: rest) rest
  | plain {b : UInt8} {bs rest : Bytes} : b ≠ 0x22 → b ≠ 0x5C → 0x20 ≤ b →
      LooseLiteral bs rest → LooseLiteral (b :: bs) rest
  | short {e : UInt8} {bs rest : Bytes} : (shortEscape? e).isSome = true →
      LooseLiteral bs rest → LooseLiteral (0x5C :: e :: bs) rest
  | unit {a b c d : UInt8} {bs rest : Bytes} : (unit? a b c d).isSome = true →
      LooseLiteral bs rest → LooseLiteral (0x5C :: 0x75 :: a :: b :: c :: d :: bs) rest

theorem Literal.loose {text : Bytes} (literal : Literal bs text rest) : LooseLiteral bs rest := by
  induction literal with
  | close rest => exact .close rest
  | plain quote escape visible _ ih => exact .plain quote escape visible ih
  | short escape _ ih => exact .short (by rw [escape]; rfl) ih
  | unit unit _ _ _ ih => exact .unit (by rw [unit]; rfl) ih
  | pair unit _ unit' _ _ ih =>
    exact .unit (by rw [unit]; rfl) (.unit (by rw [unit']; rfl) ih)

theorem looseLiteral_of_skipLiteral (skipped : skipLiteral bs = .ok rest) :
    LooseLiteral bs rest := by
  fun_induction skipLiteral bs with
  | case2 =>
    cases skipped
    exact .close _
  | case3 a b c d bs unit ih => exact .unit unit (ih skipped)
  | case6 e bs _ _ escape ih => exact .short escape (ih skipped)
  | case10 b bs quote _ _ escape alone visible ih =>
    have other : b ≠ 0x5C := by
      intro same
      cases bs with
      | nil => exact alone same rfl
      | cons e bs => exact escape e bs same rfl
    exact .plain quote other (UInt8.not_lt.1 visible) (ih skipped)
  | case1 | case4 | case5 | case7 | case8 | case9 => cases skipped

theorem skipLiteral_eq_ok_iff : skipLiteral bs = .ok rest ↔ LooseLiteral bs rest := by
  refine ⟨looseLiteral_of_skipLiteral, fun literal => ?_⟩
  induction literal with
  | close rest => rw [skipLiteral]
  | plain quote escape visible _ ih =>
    rw [skipLiteral]
    · rw [if_neg (UInt8.not_lt.2 visible), ih]
    · simp [quote]
    · simp [escape]
    · simp [escape]
    · simp [escape]
    · simp [escape]
  | @short e bs rest escape _ ih =>
    have other : e ≠ 0x75 := by
      rintro rfl
      simp [shortEscape?] at escape
    rw [skipLiteral]
    · rw [if_pos escape, ih]
    · simp [other]
    · simp [other]
  | unit unit _ ih =>
    rw [skipLiteral]
    simp only [unit, if_true, ih]

theorem LooseLiteral.length_lt (literal : LooseLiteral bs rest) : rest.length < bs.length := by
  induction literal with
  | close => exact Nat.lt_succ_self _
  | plain _ _ _ _ ih => exact Nat.lt_succ_of_lt ih
  | short _ _ ih =>
    simp only [List.length_cons]
    omega
  | unit _ _ ih =>
    simp only [List.length_cons]
    omega

theorem Literal.length_lt {text : Bytes} (literal : Literal bs text rest) :
    rest.length < bs.length := literal.loose.length_lt

/-! ## Strings -/

/-- Something else than what was wanted is never read. -/
theorem wrongType_ne_ok {α : Type} {wanted : String} {x : α × Bytes} :
    wrongType wanted bs ≠ .ok x := by
  unfold wrongType
  intro read
  obtain ⟨⟨b, rest⟩, -, read⟩ := bind_eq_ok_iff.1 read
  dsimp only at read
  split at read
  · cases read
  · split at read
    · cases read
    · obtain ⟨found, -, read⟩ := bind_eq_ok_iff.1 read
      split at read <;> cases read

/-- A text as a string, after blanks. -/
def Quoted (bs : Bytes) (s : String) (rest : Bytes) : Prop :=
  ∃ inside, Blanks bs (0x22 :: inside) ∧ Literal inside (Text.utf8 s) rest

theorem readString_eq_ok_iff {s : String} : readString bs = .ok (s, rest) ↔ Quoted bs s rest := by
  unfold readString
  rw [bind_eq_ok_iff]
  constructor
  · rintro ⟨⟨b, inside⟩, next, read⟩
    dsimp only at read
    split at read
    · next quote =>
      rw [quote] at next
      exact ⟨inside, (nextByte_eq_ok_iff.1 next).2, literal_eq_ok_iff.1 read⟩
    · exact absurd read wrongType_ne_ok
  · rintro ⟨inside, blanks, literal⟩
    refine ⟨_, nextByte_eq_ok_iff.2 ⟨by decide, blanks⟩, ?_⟩
    dsimp only
    rw [if_pos rfl]
    exact literal_eq_ok_iff.2 literal

theorem Quoted.length_lt (quoted : Quoted bs s rest) : rest.length < bs.length := by
  obtain ⟨inside, blanks, literal⟩ := quoted
  have shorter := literal.length_lt
  have := blanks.length_le
  rw [List.length_cons] at this
  omega

end DeviceLink.Json
