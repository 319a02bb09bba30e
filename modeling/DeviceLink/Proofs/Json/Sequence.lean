-- The commas between the parts of an array or an object: what stands before the next part, by a
-- grammar, and that it is read by it.
import DeviceLink.Proofs.Json.Literal

namespace DeviceLink.Json

/-! ## Readers one after the other -/

namespace Read

variable {α β : Type} {m : Read α} {bs rest : Bytes} {y : β}

theorem bind_eq_ok_iff {f : α → Read β} : (m >>= f) bs = .ok (y, rest) ↔
    ∃ x after, m bs = .ok (x, after) ∧ f x after = .ok (y, rest) := by
  change StateT.bind m f bs = _ ↔ _
  unfold StateT.bind
  rw [DeviceLink.bind_eq_ok_iff]
  constructor
  · rintro ⟨⟨x, after⟩, ran, found⟩
    exact ⟨x, after, ran, found⟩
  · rintro ⟨x, after, ran, found⟩
    exact ⟨(x, after), ran, found⟩

theorem pure_eq_ok_iff {x : β} : (pure x : Read β) bs = .ok (y, rest) ↔ x = y ∧ bs = rest := by
  change Except.ok (x, bs) = .ok (y, rest) ↔ _
  rw [Except.ok.injEq, Prod.mk.injEq]

theorem map_eq_ok_iff {f : α → β} : (f <$> m) bs = .ok (y, rest) ↔
    ∃ x, m bs = .ok (x, rest) ∧ f x = y := by
  rw [← bind_pure_comp, bind_eq_ok_iff]
  constructor
  · rintro ⟨x, after, ran, same⟩
    obtain ⟨rfl, rfl⟩ := pure_eq_ok_iff.1 same
    exact ⟨x, ran, rfl⟩
  · rintro ⟨x, ran, rfl⟩
    exact ⟨x, rest, ran, rfl⟩

end Read

variable {bs rest front after inside : Bytes} {first : Bool} {b c bracket : UInt8}

theorem blanks_nil_iff : Blanks bs [] ↔ (bs.dropWhile isBlank).isEmpty = true := by
  induction bs with
  | nil => exact iff_of_true (.nil []) rfl
  | cons b bs ih =>
    by_cases blank : isBlank b = true
    · rw [List.dropWhile_cons_of_pos blank, ← ih]
      constructor
      · intro blanks
        cases blanks with
        | cons _ blanks => exact blanks
      · exact .cons blank
    · rw [List.dropWhile_cons_of_neg blank]
      refine iff_of_false (fun blanks => ?_) nofun
      cases blanks with
      | cons here => exact blank here

/-- A whole text is read where blanks alone follow what is read. -/
theorem readAll_eq_ok_iff {α : Type} {item : Read α} {x : α} :
    readAll item bs = .ok x ↔ ∃ rest, item bs = .ok (x, rest) ∧ Blanks rest [] := by
  unfold readAll
  rw [bind_eq_ok_iff]
  constructor
  · rintro ⟨⟨y, rest⟩, read, whole⟩
    dsimp only at whole
    split at whole
    · next blank =>
      cases whole
      exact ⟨rest, read, blanks_nil_iff.2 blank⟩
    · cases whole
  · rintro ⟨rest, read, blanks⟩
    refine ⟨_, read, ?_⟩
    dsimp only
    rw [if_pos (blanks_nil_iff.1 blanks)]
    rfl

/-! ## Commas -/

/-- A comma comes first, unless nothing has come before. -/
inductive Comma : Bool → Bytes → Bytes → Prop
  | absent (bs : Bytes) : Comma true bs bs
  | present {bs rest : Bytes} : Blanks bs (0x2C :: rest) → Comma false bs rest

theorem Comma.length_le (comma : Comma first bs rest) : rest.length ≤ bs.length := by
  cases comma with
  | absent => exact Nat.le_refl _
  | present blanks => exact Nat.le_of_succ_le blanks.length_le

/-- Goes past the comma, if one has to come first, to the first byte of the next part. -/
def pastComma (first : Bool) (b : UInt8) (rest : Bytes) : Except Error (UInt8 × Bytes) :=
  if first then .ok (b, rest) else if b = 0x2C then nextByte rest else .error .malformed

/-- The next part of a sequence that does not end with its bracket. -/
theorem pastComma_eq_ok_iff (noComma : bracket ≠ 0x2C) (other : c ≠ bracket) :
    (∃ b rest, nextByte bs = .ok (b, rest) ∧ b ≠ bracket ∧
      pastComma first b rest = .ok (c, inside)) ↔
        isBlank c = false ∧ ∃ front, Comma first bs front ∧ Blanks front (c :: inside) := by
  unfold pastComma
  cases first with
  | true =>
    constructor
    · rintro ⟨b, rest, next, -, same⟩
      cases same
      obtain ⟨visible, blanks⟩ := nextByte_eq_ok_iff.1 next
      exact ⟨visible, bs, .absent bs, blanks⟩
    · rintro ⟨visible, front, comma, blanks⟩
      cases comma
      exact ⟨c, inside, nextByte_eq_ok_iff.2 ⟨visible, blanks⟩, other, rfl⟩
  | false =>
    simp only [Bool.false_eq_true, if_false]
    constructor
    · rintro ⟨b, rest, next, -, past⟩
      split at past
      · next comma =>
        rw [comma] at next
        obtain ⟨visible, blanks⟩ := nextByte_eq_ok_iff.1 past
        exact ⟨visible, rest, .present (nextByte_eq_ok_iff.1 next).2, blanks⟩
      · cases past
    · rintro ⟨visible, front, comma, blanks⟩
      cases comma with
      | present comma =>
        refine ⟨0x2C, front, nextByte_eq_ok_iff.2 ⟨by decide, comma⟩, Ne.symm noComma, ?_⟩
        rw [if_pos rfl]
        exact nextByte_eq_ok_iff.2 ⟨visible, blanks⟩

/-! ## Elements -/

theorem hasElement_eq (first : Bool) (bs : Bytes) : hasElement first bs =
    nextByte bs >>= fun (b, rest) =>
      if b = 0x5D then .ok (false, b :: rest)
      else pastComma first b rest >>= fun (c, after) =>
        if c = 0x5D then .error .malformed else .ok (true, c :: after) := by
  unfold hasElement pastComma
  refine bind_congr fun (b, rest) => ?_
  dsimp only
  split
  · rfl
  · split
    · rw [ok_bind]
      dsimp only
      rw [if_neg ‹_›]
      rfl
    · split
      · refine bind_congr fun (c, after) => ?_
        dsimp only
        split
        · rfl
        · rfl
      · rfl

theorem hasElement_false_iff : hasElement first bs = .ok (false, after) ↔
    ∃ rest, after = 0x5D :: rest ∧ Blanks bs (0x5D :: rest) := by
  rw [hasElement_eq, bind_eq_ok_iff]
  constructor
  · rintro ⟨⟨b, rest⟩, next, found⟩
    dsimp only at found
    split at found
    · next ends =>
      cases found
      rw [ends] at next ⊢
      exact ⟨rest, rfl, (nextByte_eq_ok_iff.1 next).2⟩
    · obtain ⟨⟨c, inside⟩, -, found⟩ := bind_eq_ok_iff.1 found
      dsimp only at found
      split at found <;> cases found
  · rintro ⟨rest, rfl, blanks⟩
    exact ⟨_, nextByte_eq_ok_iff.2 ⟨by decide, blanks⟩, if_pos rfl⟩

theorem hasElement_true_iff : hasElement first bs = .ok (true, after) ↔
    ∃ c inside front, after = c :: inside ∧ c ≠ 0x5D ∧ isBlank c = false ∧
      Comma first bs front ∧ Blanks front (c :: inside) := by
  rw [hasElement_eq, bind_eq_ok_iff]
  constructor
  · rintro ⟨⟨b, rest⟩, next, found⟩
    dsimp only at found
    split at found
    · cases found
    · next goes =>
      obtain ⟨⟨c, inside⟩, past, found⟩ := bind_eq_ok_iff.1 found
      dsimp only at found
      split at found
      · cases found
      · next other =>
        cases found
        obtain ⟨visible, front, comma, blanks⟩ :=
          (pastComma_eq_ok_iff (by decide) other).1 ⟨b, rest, next, goes, past⟩
        exact ⟨c, inside, front, rfl, other, visible, comma, blanks⟩
  · rintro ⟨c, inside, front, rfl, other, visible, comma, blanks⟩
    obtain ⟨b, rest, next, goes, past⟩ :=
      (pastComma_eq_ok_iff (by decide) other).2 ⟨visible, front, comma, blanks⟩
    refine ⟨(b, rest), next, ?_⟩
    dsimp only
    rw [if_neg goes, past, ok_bind]
    exact if_neg other

/-! ## Names -/

/-- Reads a name from its first byte. -/
def nameFrom (quote : UInt8) (inside : Bytes) : Except Error (Option String × Bytes) := do
  if quote ≠ 0x22 then throw .malformed
  let (name, after) ← literal inside
  return (some name, after)

theorem nameFrom_eq_ok_iff {quote : UInt8} {found : Option String} :
    nameFrom quote inside = .ok (found, after) ↔
      quote = 0x22 ∧ ∃ name, found = some name ∧ Literal inside (Text.utf8 name) after := by
  unfold nameFrom
  by_cases opens : quote = 0x22
  · rw [if_neg (fun other => other opens), bind_eq_ok_iff]
    constructor
    · rintro ⟨⟨name, after'⟩, read, same⟩
      cases same
      exact ⟨opens, name, rfl, literal_eq_ok_iff.1 read⟩
    · rintro ⟨-, name, rfl, literal⟩
      exact ⟨_, literal_eq_ok_iff.2 literal, rfl⟩
  · rw [if_pos opens]
    exact iff_of_false nofun fun found => opens found.1

theorem nextName?_eq (first : Bool) (bs : Bytes) : nextName? first bs =
    nextByte bs >>= fun (b, rest) =>
      if b = 0x7D then .ok (none, b :: rest)
      else pastComma first b rest >>= fun (quote, inside) => nameFrom quote inside := by
  unfold nextName? pastComma
  refine bind_congr fun (b, rest) => ?_
  dsimp only
  split
  · rfl
  · split
    · rfl
    · split
      · rfl
      · rfl

theorem nextName?_none_iff : nextName? first bs = .ok (none, after) ↔
    ∃ rest, after = 0x7D :: rest ∧ Blanks bs (0x7D :: rest) := by
  rw [nextName?_eq, bind_eq_ok_iff]
  constructor
  · rintro ⟨⟨b, rest⟩, next, found⟩
    dsimp only at found
    split at found
    · next ends =>
      cases found
      rw [ends] at next ⊢
      exact ⟨rest, rfl, (nextByte_eq_ok_iff.1 next).2⟩
    · obtain ⟨_, -, found⟩ := bind_eq_ok_iff.1 found
      obtain ⟨-, _, same, -⟩ := nameFrom_eq_ok_iff.1 found
      cases same
  · rintro ⟨rest, rfl, blanks⟩
    exact ⟨_, nextByte_eq_ok_iff.2 ⟨by decide, blanks⟩, if_pos rfl⟩

theorem nextName?_some_iff {name : String} : nextName? first bs = .ok (some name, after) ↔
    ∃ front, Comma first bs front ∧ Quoted front name after := by
  rw [nextName?_eq, bind_eq_ok_iff]
  constructor
  · rintro ⟨⟨b, rest⟩, next, found⟩
    dsimp only at found
    split at found
    · cases found
    · next goes =>
      obtain ⟨⟨quote, inside⟩, past, found⟩ := bind_eq_ok_iff.1 found
      obtain ⟨rfl, _, same, literal⟩ := nameFrom_eq_ok_iff.1 found
      cases same
      obtain ⟨-, front, comma, blanks⟩ :=
        (pastComma_eq_ok_iff (by decide) (by decide)).1 ⟨b, rest, next, goes, past⟩
      exact ⟨front, comma, inside, blanks, literal⟩
  · rintro ⟨front, comma, inside, blanks, literal⟩
    obtain ⟨b, rest, next, goes, past⟩ :=
      (pastComma_eq_ok_iff (show (0x7D : UInt8) ≠ 0x2C by decide) (by decide)).2
        ⟨by decide, front, comma, blanks⟩
    refine ⟨(b, rest), next, ?_⟩
    dsimp only
    rw [if_neg goes, past, ok_bind]
    exact nameFrom_eq_ok_iff.2 ⟨rfl, name, rfl, literal⟩

end DeviceLink.Json
