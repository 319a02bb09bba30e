-- Numbers whose value does not matter: which texts spell them, and that these are skipped up to
-- what cannot go on with a number.
import DeviceLink.Proofs.Json.Literal

namespace DeviceLink.Json

variable {bs rest digits text : Bytes} {b : UInt8}

/-! ## The grammar -/

/-- Digits, one at least. -/
structure Run (digits : Bytes) : Prop where
  some_digit : digits ≠ []
  all : ∀ b ∈ digits, isDigit b = true

/-- A point and digits, if anything. -/
inductive Fraction : Bytes → Prop
  | absent : Fraction []
  | present {digits : Bytes} : Run digits → Fraction (0x2E :: digits)

/-- A letter and digits with a sign or without, if anything. -/
inductive Exponent : Bytes → Prop
  | absent : Exponent []
  | present {letter : UInt8} {sign digits : Bytes} : letter = 0x65 ∨ letter = 0x45 →
      sign = [] ∨ sign = [0x2B] ∨ sign = [0x2D] → Run digits → Exponent (letter :: (sign ++ digits))

/-- A number without a sign. No needless zero stands in front. -/
inductive Numeral : Bytes → Prop
  | mk {whole fraction exponent : Bytes} : Run whole → (whole.head? = some 0x30 → whole = [0x30]) →
      Fraction fraction → Exponent exponent → Numeral (whole ++ (fraction ++ exponent))

/-- A number begins with a digit. -/
theorem Numeral.first (numeral : Numeral text) :
    ∃ d ds, text = d :: ds ∧ isDigit d = true := by
  cases numeral with
  | @mk whole fraction exponent run =>
    cases whole with
    | nil => exact absurd rfl run.some_digit
    | cons d ds => exact ⟨d, _, rfl, run.all d List.mem_cons_self⟩

/-! ## What is skipped is just what is in the grammar -/

theorem spanDigits_append (all : ∀ b ∈ digits, isDigit b = true)
    (ends : ∀ b, rest.head? = some b → isDigit b = false) :
    spanDigits (digits ++ rest) = (digits, rest) := by
  have stops : rest.takeWhile isDigit = [] ∧ rest.dropWhile isDigit = rest := by
    cases rest with
    | nil => exact ⟨rfl, rfl⟩
    | cons b rest => simp [ends b rfl]
  unfold spanDigits
  rw [List.takeWhile_append_of_pos all, List.dropWhile_append_of_pos all, stops.1, stops.2,
    List.append_nil]

theorem of_spanDigits (spans : spanDigits bs = (digits, rest)) :
    bs = digits ++ rest ∧ ∀ b ∈ digits, isDigit b = true := by
  unfold spanDigits at spans
  cases spans
  refine ⟨List.takeWhile_append_dropWhile.symm, fun b member => ?_⟩
  exact List.all_eq_true.1 List.all_takeWhile b member

theorem run_of_skipDigits (skipped : skipDigits bs = .ok rest) :
    ∃ digits, Run digits ∧ bs = digits ++ rest := by
  unfold skipDigits at skipped
  cases spans : spanDigits bs with
  | mk digits after =>
    obtain ⟨whole, all⟩ := of_spanDigits spans
    rw [spans] at skipped
    cases digits with
    | nil => cases skipped
    | cons d ds =>
      cases skipped
      exact ⟨_, ⟨List.cons_ne_nil d ds, all⟩, whole⟩

theorem skipDigits_of_run (run : Run digits) (ends : ∀ b, rest.head? = some b → isDigit b = false) :
    skipDigits (digits ++ rest) = .ok rest := by
  unfold skipDigits
  rw [spanDigits_append run.all ends]
  cases digits with
  | nil => exact absurd rfl run.some_digit
  | cons d ds => rfl

theorem run_of_skipWhole (skipped : skipWhole bs = .ok rest) : ∃ whole, Run whole ∧
    (whole.head? = some 0x30 → whole = [0x30]) ∧ bs = whole ++ rest := by
  unfold skipWhole at skipped
  cases spans : spanDigits bs with
  | mk digits after =>
    obtain ⟨whole, all⟩ := of_spanDigits spans
    rw [spans] at skipped
    cases digits with
    | nil => cases skipped
    | cons d ds =>
      dsimp only at skipped
      split at skipped
      · cases skipped
      · next proper =>
        cases skipped
        refine ⟨_, ⟨List.cons_ne_nil d ds, all⟩, fun zero => ?_, whole⟩
        cases zero
        cases ds with
        | nil => rfl
        | cons e es => exact absurd ⟨rfl, nofun⟩ proper

theorem skipWhole_of_run (run : Run digits) (proper : digits.head? = some 0x30 → digits = [0x30])
    (ends : ∀ b, rest.head? = some b → isDigit b = false) :
    skipWhole (digits ++ rest) = .ok rest := by
  unfold skipWhole
  rw [spanDigits_append run.all ends]
  cases digits with
  | nil => exact absurd rfl run.some_digit
  | cons d ds =>
    refine if_neg ?_
    rintro ⟨rfl, more⟩
    cases proper rfl
    exact more rfl

theorem fraction_of_skipFraction (skipped : skipFraction bs = .ok rest) :
    ∃ text, Fraction text ∧ bs = text ++ rest := by
  unfold skipFraction at skipped
  split at skipped
  · obtain ⟨digits, run, rfl⟩ := run_of_skipDigits skipped
    exact ⟨_, .present run, rfl⟩
  · cases skipped
    exact ⟨[], .absent, rfl⟩

theorem skipFraction_of_fraction (fraction : Fraction text)
    (ends : ∀ b, rest.head? = some b → isDigit b = false ∧ b ≠ 0x2E) :
    skipFraction (text ++ rest) = .ok rest := by
  cases fraction with
  | absent =>
    rw [List.nil_append]
    unfold skipFraction
    split
    · exact absurd rfl (ends _ rfl).2
    · rfl
  | present run => exact skipDigits_of_run run fun b first => (ends b first).1

theorem exponent_of_skipExponent (skipped : skipExponent bs = .ok rest) :
    ∃ text, Exponent text ∧ bs = text ++ rest := by
  have signed : ∀ tail, ∃ sign, (sign = [] ∨ sign = [0x2B] ∨ sign = [0x2D]) ∧
      tail = sign ++ skipSign tail := by
    intro tail
    unfold skipSign
    split
    · exact ⟨[0x2B], .inr (.inl rfl), rfl⟩
    · exact ⟨[0x2D], .inr (.inr rfl), rfl⟩
    · exact ⟨[], .inl rfl, rfl⟩
  have spelled : ∀ letter tail, letter = 0x65 ∨ letter = 0x45 →
      skipDigits (skipSign tail) = .ok rest →
        ∃ text, Exponent text ∧ letter :: tail = text ++ rest := by
    intro letter tail known skipped
    obtain ⟨sign, kind, whole⟩ := signed tail
    obtain ⟨digits, run, same⟩ := run_of_skipDigits skipped
    refine ⟨_, .present known kind run, ?_⟩
    rw [whole, same]
    simp
  unfold skipExponent at skipped
  split at skipped
  · exact spelled _ _ (.inl rfl) skipped
  · exact spelled _ _ (.inr rfl) skipped
  · cases skipped
    exact ⟨[], .absent, rfl⟩

theorem skipExponent_of_exponent (exponent : Exponent text) (ends : EndsNumber rest) :
    skipExponent (text ++ rest) = .ok rest := by
  cases exponent with
  | absent =>
    rw [List.nil_append]
    unfold skipExponent
    split
    · exact absurd (ends _ rfl).2 (by decide)
    · exact absurd (ends _ rfl).2 (by decide)
    · rfl
  | @present letter sign digits known kind run =>
    have skipped := skipDigits_of_run run fun b first => (ends b first).1
    have unsigned : skipSign (sign ++ (digits ++ rest)) = digits ++ rest := by
      rcases kind with rfl | rfl | rfl
      · cases digits with
        | nil => exact absurd rfl run.some_digit
        | cons d ds =>
          have digit := run.all d List.mem_cons_self
          rw [List.nil_append, List.cons_append]
          unfold skipSign
          split
          · next same =>
            cases same
            exact absurd digit (by decide)
          · next same =>
            cases same
            exact absurd digit (by decide)
          · rfl
      · rfl
      · rfl
    rw [List.cons_append, List.append_assoc]
    unfold skipExponent
    rcases known with rfl | rfl
    · exact (congrArg skipDigits unsigned).trans skipped
    · exact (congrArg skipDigits unsigned).trans skipped

theorem numeral_of_skipNumber (skipped : skipNumber bs = .ok rest) :
    ∃ text, Numeral text ∧ bs = text ++ rest := by
  unfold skipNumber at skipped
  obtain ⟨after, whole, skipped⟩ := bind_eq_ok_iff.1 skipped
  obtain ⟨after', fraction, exponent⟩ := bind_eq_ok_iff.1 skipped
  obtain ⟨w, run, proper, rfl⟩ := run_of_skipWhole whole
  obtain ⟨f, spelled, rfl⟩ := fraction_of_skipFraction fraction
  obtain ⟨e, spelled', rfl⟩ := exponent_of_skipExponent exponent
  refine ⟨_, .mk run proper spelled spelled', ?_⟩
  rw [List.append_assoc, List.append_assoc]

/-- What follows a whole number or its fraction cannot go on with it. -/
theorem Exponent.ends (exponent : Exponent text) (ends : EndsNumber rest) :
    ∀ b, (text ++ rest).head? = some b → isDigit b = false ∧ b ≠ 0x2E := by
  intro b first
  cases exponent with
  | absent =>
    obtain ⟨digit, opens⟩ := ends b first
    refine ⟨digit, ?_⟩
    rintro rfl
    exact absurd opens (by decide)
  | present known =>
    cases first
    rcases known with rfl | rfl
    · exact ⟨by decide, by decide⟩
    · exact ⟨by decide, by decide⟩

theorem Fraction.ends (fraction : Fraction text)
    (ends : ∀ b, rest.head? = some b → isDigit b = false) :
    ∀ b, (text ++ rest).head? = some b → isDigit b = false := by
  intro b first
  cases fraction with
  | absent => exact ends b first
  | present run =>
    cases first
    decide

theorem skipNumber_of_numeral (numeral : Numeral text) (ends : EndsNumber rest) :
    skipNumber (text ++ rest) = .ok rest := by
  cases numeral with
  | @mk w f e run proper fraction exponent =>
    have ends' := exponent.ends ends
    have ends'' := fraction.ends fun b first => (ends' b first).1
    rw [List.append_assoc, List.append_assoc]
    unfold skipNumber
    rw [skipWhole_of_run run proper ends'', ok_bind, skipFraction_of_fraction fraction ends',
      ok_bind]
    exact skipExponent_of_exponent exponent ends

/-- Blanks do not go on with a number. -/
theorem Blanks.endsNumber (blanks : Blanks bs (b :: rest))
    (ends : isDigit b = false ∧ opensFraction b = false) : EndsNumber bs := by
  intro a first
  cases blanks with
  | nil =>
    cases first
    exact ends
  | cons blank _ =>
    cases first
    simp only [isBlank, Bool.or_eq_true, decide_eq_true_eq] at blank
    rcases blank with ((rfl | rfl) | rfl) | rfl
    all_goals exact ⟨by decide, by decide⟩

end DeviceLink.Json
