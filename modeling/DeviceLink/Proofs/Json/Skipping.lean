-- Which texts are skipped as a value that nobody asked for, by a grammar of their own. The reader
-- keeps the open brackets on a stack; what it skips is what the grammar lets stand in them.
import DeviceLink.Proofs.Json.Numeral

namespace DeviceLink.Json

variable {bs rest tail : Bytes} {b : UInt8}

/-! ## The grammar -/

/-- What stands before a value in a bracket: the name of a member and a colon in an object, and
nothing in an array. -/
inductive Label : Bracket → Bytes → Bytes → Prop
  | array (bs : Bytes) : Label .array bs bs
  | object {bs name after rest : Bytes} : Blanks bs (0x22 :: name) → LooseLiteral name after →
      Blanks after (0x3A :: rest) → Label .object bs rest

/-- A value that is no array and no object. -/
inductive Scalar : Bytes → Bytes → Prop
  | word {word : Bytes} (rest : Bytes) :
      word = ascii "null" ∨ word = ascii "true" ∨ word = ascii "false" → Scalar (word ++ rest) rest
  | text {bs rest : Bytes} : LooseLiteral bs rest → Scalar (0x22 :: bs) rest
  | positive {text : Bytes} (rest : Bytes) : Numeral text → Scalar (text ++ rest) rest
  | negative {text : Bytes} (rest : Bytes) : Numeral text → Scalar (0x2D :: (text ++ rest)) rest

/-- A value of any kind; or, for a bracket that is open and not empty, what stands in it, with the
bracket that closes it. -/
inductive Skipped : Option Bracket → Bytes → Bytes → Prop
  | scalar {bs rest : Bytes} : Scalar bs rest → Skipped none bs rest
  | empty (bracket : Bracket) {bs rest : Bytes} : Blanks bs (bracket.closing :: rest) →
      Skipped none (bracket.opening :: bs) rest
  | full (bracket : Bracket) {bs rest : Bytes} : Skipped (some bracket) bs rest →
      Skipped none (bracket.opening :: bs) rest
  | last (bracket : Bracket) {bs front value after rest : Bytes} : Label bracket bs front →
      Blanks front value → Skipped none value after → Blanks after (bracket.closing :: rest) →
        Skipped (some bracket) bs rest
  | more (bracket : Bracket) {bs front value after next rest : Bytes} : Label bracket bs front →
      Blanks front value → Skipped none value after → Blanks after (0x2C :: next) →
        Skipped (some bracket) next rest → Skipped (some bracket) bs rest

/-- The brackets that are open are closed in turn, after a value. -/
inductive Closes : List Bracket → Bytes → Bytes → Prop
  | done (rest : Bytes) : Closes [] rest rest
  | last (bracket : Bracket) {outer : List Bracket} {bs after rest : Bytes} :
      Blanks bs (bracket.closing :: after) → Closes outer after rest →
        Closes (bracket :: outer) bs rest
  | more (bracket : Bracket) {outer : List Bracket} {bs next after rest : Bytes} :
      Blanks bs (0x2C :: next) → Skipped (some bracket) next after → Closes outer after rest →
        Closes (bracket :: outer) bs rest

/-! ## What is skipped is in the grammar -/

/-- The reader goes on to the rest, which is what the grammar lets follow. -/
def Next.Ends : Next → Bytes → Prop
  | .done bs, rest => bs = rest
  | .value stack bs, rest => ∃ value after,
      Blanks bs value ∧ Skipped none value after ∧ Closes stack after rest

variable {bracket : Bracket} {outer stack : List Bracket} {next : Next}

theorem label_of_enter (entered : bracket.enter bs = .ok rest) : Label bracket bs rest := by
  cases bracket with
  | array =>
    cases entered
    exact .array _
  | object =>
    unfold Bracket.enter skipName at entered
    obtain ⟨⟨quote, name⟩, first, entered⟩ := bind_eq_ok_iff.1 entered
    dsimp only at entered
    split at entered
    · cases entered
    · next same =>
      obtain ⟨after, skipped, entered⟩ := bind_eq_ok_iff.1 entered
      obtain ⟨⟨⟨⟩, rest'⟩, colon, entered⟩ := bind_eq_ok_iff.1 entered
      cases entered
      have quote : quote = 0x22 := by simpa using same
      rw [quote] at first
      exact .object (nextByte_eq_ok_iff.1 first).2 (skipLiteral_eq_ok_iff.1 skipped)
        ((expectByte_eq_ok_iff (by decide)).1 colon)

theorem enter_of_label (label : Label bracket bs rest) : bracket.enter bs = .ok rest := by
  cases label with
  | array => rfl
  | object quote literal colon =>
    change skipName bs = _
    unfold skipName
    refine bind_eq_ok_iff.2 ⟨_, nextByte_eq_ok_iff.2 ⟨by decide, quote⟩, ?_⟩
    dsimp only
    rw [if_neg (by decide)]
    refine bind_eq_ok_iff.2 ⟨_, skipLiteral_eq_ok_iff.2 literal, ?_⟩
    exact bind_eq_ok_iff.2 ⟨_, (expectByte_eq_ok_iff (by decide)).2 colon, rfl⟩

/-- A value and what follows it in its bracket is all that stands there. -/
theorem Closes.with_value {front value after : Bytes} (label : Label bracket bs front)
    (blanks : Blanks front value) (skipped : Skipped none value after)
    (closes : Closes (bracket :: outer) after rest) :
    ∃ outside, Skipped (some bracket) bs outside ∧ Closes outer outside rest := by
  cases closes with
  | last _ closing closes => exact ⟨_, .last bracket label blanks skipped closing, closes⟩
  | more _ comma others closes => exact ⟨_, .more bracket label blanks skipped comma others, closes⟩

theorem closes_of_afterValue (found : afterValue stack bs = .ok next) (ends : next.Ends rest) :
    Closes stack bs rest := by
  induction stack generalizing bs with
  | nil =>
    cases found
    cases ends
    exact .done _
  | cons bracket outer ih =>
    unfold afterValue at found
    obtain ⟨⟨b, tail⟩, first, found⟩ := bind_eq_ok_iff.1 found
    have blanks := (nextByte_eq_ok_iff.1 first).2
    dsimp only at found
    split at found
    · next comma =>
      obtain ⟨front, entered, same⟩ := bind_eq_ok_iff.1 found
      cases same
      obtain ⟨value, after, blanks', skipped, closes⟩ := ends
      obtain ⟨outside, others, closes⟩ :=
        closes.with_value (label_of_enter entered) blanks' skipped
      rw [comma] at blanks
      exact .more bracket blanks others closes
    · split at found
      · next closing =>
        rw [closing] at blanks
        exact .last bracket blanks (ih found)
      · cases found

theorem expectRest_eq_ok_iff {word : Bytes} :
    expectRest word bs = .ok ((), rest) ↔ bs = word ++ rest := by
  induction word generalizing bs with
  | nil =>
    unfold expectRest
    simp
  | cons w ws ih =>
    cases bs with
    | nil =>
      unfold expectRest
      simp
    | cons b bs =>
      unfold expectRest
      by_cases same : w = b
      · rw [if_pos same, ih, same]
        simp
      · rw [if_neg same]
        simp [Ne.symm same]

theorem scalar_of_skipScalar (skipped : skipScalar b tail = .ok rest) :
    Scalar (b :: tail) rest := by
  have spelled : ∀ w, (·.2) <$> expectRest w tail = .ok rest → tail = w ++ rest := by
    intro w found
    obtain ⟨⟨⟨⟩, rest'⟩, taken, same⟩ := map_eq_ok_iff.1 found
    cases same
    exact expectRest_eq_ok_iff.1 taken
  unfold skipScalar at skipped
  split at skipped
  · next quote =>
    rw [quote]
    exact .text (skipLiteral_eq_ok_iff.1 skipped)
  · split at skipped
    · next minus =>
      obtain ⟨text, numeral, rfl⟩ := numeral_of_skipNumber skipped
      rw [minus]
      exact .negative rest numeral
    · split at skipped
      · obtain ⟨text, numeral, whole⟩ := numeral_of_skipNumber skipped
        rw [whole]
        exact .positive rest numeral
      · split at skipped
        · next null =>
          rw [null, spelled _ skipped]
          exact .word rest (.inl rfl)
        · split at skipped
          · next true =>
            rw [true, spelled _ skipped]
            exact .word rest (.inr (.inl rfl))
          · split at skipped
            · next false =>
              rw [false, spelled _ skipped]
              exact .word rest (.inr (.inr rfl))
            · cases skipped

theorem eq_opening_of_ofOpening? (opens : Bracket.ofOpening? b = some bracket) :
    b = bracket.opening := by
  unfold Bracket.ofOpening? at opens
  split at opens
  · next same =>
    cases opens
    exact same
  · split at opens
    · next same =>
      cases opens
      exact same
    · cases opens

theorem skipped_of_skipFirst (found : skipFirst stack b tail = .ok next) (ends : next.Ends rest) :
    ∃ after, Skipped none (b :: tail) after ∧ Closes stack after rest := by
  unfold skipFirst at found
  cases opens : Bracket.ofOpening? b with
  | none =>
    rw [opens] at found
    obtain ⟨after, scalar, found⟩ := bind_eq_ok_iff.1 found
    exact ⟨after, .scalar (scalar_of_skipScalar scalar), closes_of_afterValue found ends⟩
  | some bracket =>
    have same := eq_opening_of_ofOpening? opens
    rw [opens] at found
    obtain ⟨⟨c, inner⟩, first, found⟩ := bind_eq_ok_iff.1 found
    have blanks := (nextByte_eq_ok_iff.1 first).2
    dsimp only at found
    rw [same]
    split at found
    · next closing =>
      rw [closing] at blanks
      exact ⟨inner, .empty bracket blanks, closes_of_afterValue found ends⟩
    · obtain ⟨front, entered, same⟩ := bind_eq_ok_iff.1 found
      cases same
      obtain ⟨value, after, blanks', skipped, closes⟩ := ends
      obtain ⟨outside, others, closes⟩ :=
        closes.with_value (label_of_enter entered) blanks' skipped
      exact ⟨outside, .full bracket others, closes⟩

theorem skipped_of_skipInside {fuel : Nat} (found : skipInside fuel stack bs = .ok rest) :
    ∃ value after, Blanks bs value ∧ Skipped none value after ∧ Closes stack after rest := by
  induction fuel generalizing stack bs with
  | zero => cases found
  | succ fuel ih =>
    unfold skipInside at found
    obtain ⟨⟨b, tail⟩, first, found⟩ := bind_eq_ok_iff.1 found
    obtain ⟨next, skipped, found⟩ := bind_eq_ok_iff.1 found
    have ends : next.Ends rest := by
      cases next with
      | done bs =>
        cases found
        rfl
      | value stack bs => exact ih found
    obtain ⟨after, value, closes⟩ := skipped_of_skipFirst skipped ends
    exact ⟨b :: tail, after, (nextByte_eq_ok_iff.1 first).2, value, closes⟩

/-! ## What is in the grammar is skipped -/

theorem Label.length_le (label : Label bracket bs rest) : rest.length ≤ bs.length := by
  cases label with
  | array => exact Nat.le_refl _
  | object quote literal colon =>
    have first := quote.length_le
    have second := literal.length_lt
    have third := colon.length_le
    simp only [List.length_cons] at first third
    omega

theorem Scalar.first {value : Bytes} (scalar : Scalar value rest) :
    ∃ b tail, value = b :: tail ∧ isBlank b = false ∧ b ≠ 0x5D ∧ Bracket.ofOpening? b = none ∧
      rest.length ≤ tail.length := by
  cases scalar with
  | word _ known =>
    rcases known with rfl | rfl | rfl
    · exact ⟨0x6E, ascii "ull" ++ rest, rfl, rfl, by decide, rfl, by simp⟩
    · exact ⟨0x74, ascii "rue" ++ rest, rfl, rfl, by decide, rfl, by simp⟩
    · exact ⟨0x66, ascii "alse" ++ rest, rfl, rfl, by decide, rfl, by simp⟩
  | text literal => exact ⟨0x22, _, rfl, rfl, by decide, rfl, Nat.le_of_lt literal.length_lt⟩
  | negative => exact ⟨0x2D, _, rfl, rfl, by decide, rfl, by simp⟩
  | positive _ numeral =>
    obtain ⟨d, ds, rfl, digit⟩ := numeral.first
    have others : d ≠ 0x5D ∧ d ≠ 0x5B ∧ d ≠ 0x7B := by
      refine ⟨?_, ?_, ?_⟩ <;> (rintro rfl; exact absurd digit (by decide))
    refine ⟨d, ds ++ rest, rfl, (visible_of_isDigit digit).1, others.1, ?_, by simp⟩
    unfold Bracket.ofOpening? Bracket.opening
    rw [if_neg others.2.1, if_neg others.2.2]

/-- The reader takes a scalar by its first byte. -/
theorem skipScalar_of_scalar (scalar : Scalar (b :: tail) rest) (ends : EndsNumber rest) :
    skipScalar b tail = .ok rest := by
  generalize whole : b :: tail = value at scalar
  cases scalar with
  | word _ known =>
    have taken : ∀ w, (·.2) <$> expectRest w (w ++ rest) = .ok rest := fun w =>
      map_eq_ok_iff.2 ⟨_, expectRest_eq_ok_iff.2 rfl, rfl⟩
    rcases known with rfl | rfl | rfl
    · cases whole
      exact taken (ascii "ull")
    · cases whole
      exact taken (ascii "rue")
    · cases whole
      exact taken (ascii "alse")
  | text literal =>
    cases whole
    exact skipLiteral_eq_ok_iff.2 literal
  | negative _ numeral =>
    cases whole
    exact skipNumber_of_numeral numeral ends
  | positive _ numeral =>
    have skipped := skipNumber_of_numeral numeral ends
    obtain ⟨d, ds, rfl, digit⟩ := numeral.first
    cases whole
    have quote : b ≠ 0x22 := by
      rintro rfl
      exact absurd digit (by decide)
    unfold skipScalar
    rw [if_neg quote, if_neg (visible_of_isDigit digit).2, if_pos digit]
    exact skipped

theorem Skipped.first {value : Bytes} (skipped : Skipped none value rest) :
    ∃ b tail, value = b :: tail ∧ isBlank b = false ∧ b ≠ 0x5D := by
  cases skipped with
  | scalar scalar =>
    obtain ⟨b, tail, whole, visible, other, -⟩ := scalar.first
    exact ⟨b, tail, whole, visible, other⟩
  | empty bracket => cases bracket with
    | _ => exact ⟨_, _, rfl, by decide, by decide⟩
  | full bracket => cases bracket with
    | _ => exact ⟨_, _, rfl, by decide, by decide⟩

theorem Skipped.length_lt {part : Option Bracket} (skipped : Skipped part bs rest) :
    rest.length < bs.length := by
  induction skipped with
  | scalar scalar =>
    obtain ⟨b, tail, rfl, -, -, -, shorter⟩ := scalar.first
    exact Nat.lt_succ_of_le shorter
  | empty _ blanks => exact Nat.lt_succ_of_lt blanks.length_le
  | full _ _ ih => exact Nat.lt_succ_of_lt ih
  | last _ label blanks _ closing ih =>
    have first := label.length_le
    have second := blanks.length_le
    have third := closing.length_le
    simp only [List.length_cons] at third
    omega
  | more _ label blanks _ comma _ ih ih' =>
    have first := label.length_le
    have second := blanks.length_le
    have third := comma.length_le
    simp only [List.length_cons] at third
    omega

/-- What stands in a bracket does not look like its end. -/
theorem Skipped.not_closing (skipped : Skipped (some bracket) bs rest) :
    ∃ b inner, nextByte bs = .ok (b, inner) ∧ b ≠ bracket.closing := by
  obtain ⟨front, value, after, label, blanks, first⟩ : ∃ front value after,
      Label bracket bs front ∧ Blanks front value ∧ Skipped none value after := by
    cases skipped with
    | last _ label blanks skipped => exact ⟨_, _, _, label, blanks, skipped⟩
    | more _ label blanks skipped => exact ⟨_, _, _, label, blanks, skipped⟩
  cases label with
  | array =>
    obtain ⟨b, tail, rfl, visible, other⟩ := first.first
    exact ⟨b, tail, nextByte_eq_ok_iff.2 ⟨visible, blanks⟩, other⟩
  | object quote => exact ⟨0x22, _, nextByte_eq_ok_iff.2 ⟨by decide, quote⟩, by decide⟩

theorem Bracket.visible (bracket : Bracket) :
    isBlank bracket.opening = false ∧ isBlank bracket.closing = false := by
  cases bracket with
  | _ => decide

theorem ofOpening?_opening (bracket : Bracket) :
    Bracket.ofOpening? bracket.opening = some bracket := by
  cases bracket with
  | _ => rfl

/-- Goes on with what comes next. -/
def Next.resume (fuel : Nat) : Next → Except Error Bytes
  | .done rest => .ok rest
  | .value stack bs => skipInside fuel stack bs

/-- Goes on behind a value inside the open brackets. -/
def onward (fuel : Nat) (stack : List Bracket) (bs : Bytes) : Except Error Bytes := do
  (← afterValue stack bs).resume fuel

section

variable {fuel : Nat} {out after : Bytes}

/-- A value is skipped from its first byte on, with what fuel is left behind this byte. -/
theorem skipInside_of_first (visible : isBlank b = false) (blanks : Blanks bs (b :: tail))
    (enough : bs.length < fuel) (goes : ∀ fuel, tail.length < fuel →
      (do (← skipFirst stack b tail).resume fuel) = .ok out) :
    skipInside fuel stack bs = .ok out := by
  have length := blanks.length_le
  rw [List.length_cons] at length
  obtain ⟨fuel, rfl⟩ : ∃ n, fuel = n + 1 := ⟨fuel - 1, by omega⟩
  obtain ⟨next, first, resumed⟩ := bind_eq_ok_iff.1 (goes fuel (by omega))
  unfold skipInside
  refine bind_eq_ok_iff.2 ⟨_, nextByte_eq_ok_iff.2 ⟨visible, blanks⟩, ?_⟩
  dsimp only
  refine bind_eq_ok_iff.2 ⟨next, first, ?_⟩
  cases next with
  | done rest => exact resumed
  | value stack bs => exact resumed

theorem onward_of_closing (closing : Blanks bs (bracket.closing :: after)) (fuel : Nat) :
    onward fuel (bracket :: outer) bs = onward fuel outer after := by
  have other : bracket.closing ≠ 0x2C := by
    cases bracket with
    | _ => decide
  unfold onward
  rw [afterValue, nextByte_eq_ok_iff.2 ⟨bracket.visible.2, closing⟩, ok_bind]
  dsimp only
  rw [if_neg other, if_pos rfl]

theorem onward_of_comma (comma : Blanks bs (0x2C :: after)) (fuel : Nat) :
    onward fuel (bracket :: outer) bs =
      (do skipInside fuel (bracket :: outer) (← bracket.enter after)) := by
  unfold onward
  rw [afterValue, nextByte_eq_ok_iff.2 ⟨by decide, comma⟩, ok_bind]
  dsimp only
  rw [if_pos rfl]
  cases bracket.enter after with
  | error e => rfl
  | ok front => rfl

/-- What the reader makes of a part of the grammar, if it goes on well behind it with what fuel is
left. -/
def Skips (bs rest : Bytes) : Option Bracket → Prop
  | none => ∀ stack fuel front out, Blanks front bs → EndsNumber rest → front.length < fuel →
      (∀ fuel, rest.length < fuel → onward fuel stack rest = .ok out) →
        skipInside fuel stack front = .ok out
  | some bracket => ∀ outer fuel out, bs.length < fuel →
      (∀ fuel, rest.length < fuel → onward fuel outer rest = .ok out) →
        (do skipInside fuel (bracket :: outer) (← bracket.enter bs)) = .ok out

theorem skips_of_skipped {part : Option Bracket} (skipped : Skipped part bs rest) :
    Skips bs rest part := by
  induction skipped with
  | @scalar bs rest scalar =>
    intro stack fuel front out blanks ends enough goes
    obtain ⟨b, tail, rfl, visible, -, opens, shorter⟩ := scalar.first
    apply skipInside_of_first visible blanks enough
    intro fuel enough
    unfold skipFirst
    rw [opens]
    dsimp only
    rw [skipScalar_of_scalar scalar ends, ok_bind]
    exact goes fuel (by omega)
  | @empty bracket bs rest closing =>
    intro stack fuel front out blanks ends enough goes
    have shorter := closing.length_le
    rw [List.length_cons] at shorter
    apply skipInside_of_first bracket.visible.1 blanks enough
    intro fuel enough
    unfold skipFirst
    rw [ofOpening?_opening]
    dsimp only
    rw [nextByte_eq_ok_iff.2 ⟨bracket.visible.2, closing⟩, ok_bind]
    dsimp only
    rw [if_pos rfl]
    exact goes fuel (by omega)
  | @full bracket bs rest inside ih =>
    intro stack fuel front out blanks ends enough goes
    obtain ⟨c, inner, next, other⟩ := inside.not_closing
    apply skipInside_of_first bracket.visible.1 blanks enough
    intro fuel enough
    obtain ⟨front', label, skipped⟩ := bind_eq_ok_iff.1 (ih stack fuel out enough goes)
    unfold skipFirst
    rw [ofOpening?_opening]
    dsimp only
    rw [next, ok_bind]
    dsimp only
    rw [if_neg other, label]
    exact skipped
  | @last bracket bs front value after rest label blanks skipped closing ih =>
    intro outer fuel out enough goes
    have ends : isDigit bracket.closing = false ∧ opensFraction bracket.closing = false := by
      cases bracket with
      | _ => decide
    have length := label.length_le
    have shorter := closing.length_le
    rw [List.length_cons] at shorter
    rw [enter_of_label label, ok_bind]
    refine ih _ fuel front out blanks (closing.endsNumber ends) (by omega) fun fuel' enough' => ?_
    rw [onward_of_closing closing]
    exact goes fuel' (by omega)
  | @more bracket bs front value after next rest label blanks skipped comma others ih ih' =>
    intro outer fuel out enough goes
    have length := label.length_le
    have shorter := comma.length_le
    rw [List.length_cons] at shorter
    rw [enter_of_label label, ok_bind]
    refine ih _ fuel front out blanks (comma.endsNumber (by decide)) (by omega)
      fun fuel' enough' => ?_
    rw [onward_of_comma comma]
    exact ih' outer fuel' out (by omega) goes

end

/-! ## The two are one -/

theorem exists_skipped (skips : skipValue bs = .ok ((), rest)) :
    ∃ value, Blanks bs value ∧ Skipped none value rest := by
  obtain ⟨after, found, same⟩ := bind_eq_ok_iff.1 skips
  cases same
  obtain ⟨value, after, blanks, skipped, closes⟩ := skipped_of_skipInside found
  cases closes
  exact ⟨value, blanks, skipped⟩

/-- A value of the grammar is skipped, if what follows cannot go on with it. -/
theorem skipValue_of_skipped {value : Bytes} (blanks : Blanks bs value)
    (skipped : Skipped none value rest) (ends : EndsNumber rest) :
    skipValue bs = .ok ((), rest) := by
  have found : skipInside (bs.length + 1) [] bs = .ok rest :=
    skips_of_skipped skipped [] _ bs rest blanks ends (Nat.lt_succ_self _) fun _ _ => rfl
  unfold skipValue
  exact bind_eq_ok_iff.2 ⟨rest, found, rfl⟩

end DeviceLink.Json
