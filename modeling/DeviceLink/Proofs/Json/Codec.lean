-- Codecs that read back what they write.
import DeviceLink.Json.Codec
import DeviceLink.Proofs.Json.Lexical

namespace DeviceLink.Json

namespace Read

variable {α β : Type} {m : Read α} {bs rest : Bytes} {x : α}

theorem bind_ok (ran : m bs = .ok (x, rest)) (f : α → Read β) : (m >>= f) bs = f x rest := by
  change StateT.bind m f bs = _
  unfold StateT.bind
  rw [ran]
  rfl

theorem map_ok (ran : m bs = .ok (x, rest)) (f : α → β) : (f <$> m) bs = .ok (f x, rest) := by
  rw [← bind_pure_comp, bind_ok ran]
  rfl

end Read

/-- A codec reads back what it writes, and leaves what follows. -/
def Codec.Lawful {α : Type} (codec : Codec α) : Prop :=
  ∀ x rest, EndsNumber rest → codec.read (codec.write x ++ rest) = .ok (x, rest)

/-- A whole text that a codec wrote is read back. -/
theorem Codec.Lawful.readAll_write {α : Type} {codec : Codec α} (lawful : codec.Lawful) (x : α) :
    readAll codec.read (codec.write x) = .ok x := by
  have read := lawful x [] nofun
  rw [List.append_nil] at read
  unfold readAll
  rw [read]
  rfl

theorem lawful_text : text.Lawful := by
  intro s rest _
  obtain ⟨tail, written, read⟩ := literal_printString s rest
  change readString (printString s ++ rest) = _
  unfold readString
  rw [written, nextByte_of_visible (by decide)]
  exact read

theorem readWhole_printInt {low high i : Int} {wanted : String} {rest : Bytes}
    (lowest : -0x8000000000000000 ≤ low) (highest : high < UInt64.size) (above : low ≤ i)
    (below : i ≤ high) (ends : EndsNumber rest) :
    readWhole low high wanted (printInt i ++ rest) = .ok (i, rest) := by
  obtain ⟨b, tail, written, visible, opens, read⟩ :=
    number_printInt (i := i) (by omega) (by omega) ends
  unfold readWhole
  rw [written, nextByte_of_visible visible]
  simp only [bind, Except.bind, opens, if_true, read, above, below, and_self]
  rfl

theorem lawful_int32 : int32.Lawful := by
  intro i rest ends
  have low := i.le_toInt
  have high := i.toInt_lt
  have read : readWhole (-0x80000000) 0x7FFFFFFF "i32" (printInt i.toInt ++ rest) =
      .ok (i.toInt, rest) :=
    readWhole_printInt (by decide) (by decide) (by omega) (by omega) ends
  change (Int32.ofInt <$> readWhole _ _ _) (printInt i.toInt ++ rest) = _
  rw [Read.map_ok read, Int32.ofInt_toInt]

theorem lawful_int64 : int64.Lawful := by
  intro i rest ends
  have low := i.le_toInt
  have high := i.toInt_lt
  have read : readWhole (-0x8000000000000000) 0x7FFFFFFFFFFFFFFF "i64" (printInt i.toInt ++ rest) =
      .ok (i.toInt, rest) :=
    readWhole_printInt (by decide) (by decide) (by omega) (by omega) ends
  change (Int64.ofInt <$> readWhole _ _ _) (printInt i.toInt ++ rest) = _
  rw [Read.map_ok read, Int64.ofInt_toInt]

/-- Variants are read back by their names, if these tell them apart. -/
theorem lawful_variants {α : Type} {all : List α} {name : α → String}
    (found : ∀ x, (all.map fun y => (name y, y)).lookup (name x) = some x) :
    (variants all name).Lawful := by
  intro x rest _
  obtain ⟨tail, written, read⟩ := literal_printString (name x) rest
  change readUnitVariant _ (printString (name x) ++ rest) = _
  unfold readUnitVariant readVariant
  rw [written, nextByte_of_visible (by decide)]
  simp [bind, Except.bind, read, found, pure, Except.pure]

/-! ## Parts in a row -/

/-- The parts that follow others, with a comma before each of them, up to the bracket. -/
def following (bracket : UInt8) (parts : List Bytes) (rest : Bytes) : Bytes :=
  parts.flatMap (fun p => 0x2C :: p) ++ bracket :: rest

theorem commaSeparated_cons (bracket : UInt8) (p : Bytes) (ps : List Bytes) (rest : Bytes) :
    commaSeparated (p :: ps) ++ bracket :: rest = p ++ following bracket ps rest := by
  induction ps generalizing p with
  | nil => rfl
  | cons q ps ih =>
    unfold commaSeparated
    rw [List.append_assoc, List.cons_append, ih]
    simp [following]

theorem endsNumber_following {bracket : UInt8}
    (ends : isDigit bracket = false ∧ opensFraction bracket = false) (parts : List Bytes)
    (rest : Bytes) : EndsNumber (following bracket parts rest) := by
  intro b first
  cases parts with
  | nil =>
    cases first
    exact ends
  | cons p ps =>
    cases first
    exact ⟨by decide, by decide⟩

theorem length_le_commaSeparated (bracket : UInt8) (parts : List Bytes) (rest : Bytes) :
    parts.length ≤ (commaSeparated parts ++ bracket :: rest).length := by
  cases parts with
  | nil => simp
  | cons p ps =>
    have short : ps.length ≤ (ps.flatMap (fun p => 0x2C :: p)).length := by
      induction ps with
      | nil => simp
      | cons q ps ih =>
        simp at ih ⊢
        omega
    rw [commaSeparated_cons]
    simp only [following, List.length_append, List.length_cons]
    omega

/-! ## Lists -/

theorem hasElement_end (first : Bool) (rest : Bytes) :
    hasElement first (0x5D :: rest) = .ok (false, 0x5D :: rest) := by
  unfold hasElement
  rw [nextByte_of_visible (by decide)]
  rfl

theorem hasElement_element {b : UInt8} (visible : isBlank b = false) (other : b ≠ 0x5D)
    (rest : Bytes) : hasElement true (b :: rest) = .ok (true, b :: rest) ∧
      hasElement false (0x2C :: b :: rest) = .ok (true, b :: rest) := by
  have comma : nextByte (0x2C :: b :: rest) = .ok (0x2C, b :: rest) :=
    nextByte_of_visible (by decide) _
  unfold hasElement
  constructor
  · simp [nextByte_of_visible visible, other, bind, Except.bind, pure, Except.pure]
  · simp [comma, nextByte_of_visible visible, other, bind, Except.bind, pure, Except.pure]

section

variable {α : Type} {codec : Codec α}

/-- What a codec writes does not look like the end of an array. -/
def Codec.Begins (codec : Codec α) : Prop :=
  ∀ x, ∃ b tail, codec.write x = b :: tail ∧ isBlank b = false ∧ b ≠ 0x5D

/-- An element is read after the comma before it, or after the bracket. -/
theorem elementsFrom_element (lawful : codec.Lawful) (begins : codec.Begins) (x : α) {rest : Bytes}
    (ends : EndsNumber rest) (fuel : Nat) :
    elementsFrom codec.read (fuel + 1) [] (codec.write x ++ rest) =
        elementsFrom codec.read fuel [x] rest ∧
      ∀ done ≠ [], elementsFrom codec.read (fuel + 1) done (0x2C :: (codec.write x ++ rest)) =
        elementsFrom codec.read fuel (x :: done) rest := by
  obtain ⟨b, tail, written, visible, other⟩ := begins x
  have read := lawful x rest ends
  have next := hasElement_element visible other (tail ++ rest)
  rw [← List.cons_append, ← written] at next
  constructor
  · rw [elementsFrom, Read.bind_ok (by exact next.1)]
    exact Read.bind_ok read _
  · intro done more
    have comma : hasElement done.isEmpty (0x2C :: (codec.write x ++ rest)) =
        .ok (true, codec.write x ++ rest) := by
      cases done with
      | nil => exact absurd rfl more
      | cons y done => exact next.2
    rw [elementsFrom, Read.bind_ok comma]
    exact Read.bind_ok read _

theorem elementsFrom_end (fuel : Nat) (done : List α) (rest : Bytes) :
    elementsFrom codec.read (fuel + 1) done (0x5D :: rest) = .ok (done.reverse, rest) := by
  have bracket : endArray (0x5D :: rest) = .ok ((), rest) := expectByte_of_visible (by decide) rest
  rw [elementsFrom, Read.bind_ok (hasElement_end done.isEmpty rest)]
  exact Read.bind_ok bracket _

/-- Elements that follow others are read up to the end of the array. -/
theorem elementsFrom_following (lawful : codec.Lawful) (begins : codec.Begins) (xs : List α)
    {done : List α} (more : done ≠ []) (rest : Bytes) {fuel : Nat} (enough : xs.length ≤ fuel) :
    elementsFrom codec.read (fuel + 1) done (following 0x5D (xs.map codec.write) rest) =
      .ok (done.reverse ++ xs, rest) := by
  induction xs generalizing done fuel with
  | nil =>
    rw [List.append_nil]
    exact elementsFrom_end fuel done rest
  | cons x xs ih =>
    rw [List.length_cons] at enough
    obtain ⟨fuel, rfl⟩ : ∃ k, fuel = k + 1 := ⟨fuel - 1, by omega⟩
    have text : following 0x5D ((x :: xs).map codec.write) rest =
        0x2C :: (codec.write x ++ following 0x5D (xs.map codec.write) rest) := by
      simp [following]
    have ends : EndsNumber (following 0x5D (xs.map codec.write) rest) :=
      endsNumber_following (by decide) _ rest
    rw [text, (elementsFrom_element lawful begins x ends _).2 done more,
      ih (List.cons_ne_nil x done) (by omega), List.reverse_cons, List.append_assoc]
    rfl

/-- An array is read back, the bracket that opens it being taken. -/
theorem elements_write (lawful : codec.Lawful) (begins : codec.Begins) (xs : List α)
    (rest : Bytes) :
    elements codec.read (commaSeparated (xs.map codec.write) ++ 0x5D :: rest) = .ok (xs, rest) := by
  have enough := length_le_commaSeparated 0x5D (xs.map codec.write) rest
  rw [List.length_map] at enough
  unfold elements
  cases xs with
  | nil => exact elementsFrom_end _ [] rest
  | cons x xs =>
    have ends : EndsNumber (following 0x5D (xs.map codec.write) rest) :=
      endsNumber_following (by decide) _ rest
    rw [List.map_cons, commaSeparated_cons] at enough ⊢
    rw [List.length_cons] at enough
    rw [(elementsFrom_element lawful begins x ends _).1]
    obtain ⟨fuel, same⟩ : ∃ k,
        (codec.write x ++ following 0x5D (xs.map codec.write) rest).length = k + 1 :=
      ⟨_, (Nat.sub_add_cancel (by omega)).symm⟩
    rw [same] at enough ⊢
    exact elementsFrom_following lawful begins xs (List.cons_ne_nil x []) rest (by omega)

end

theorem begins_text : text.Begins := fun _ => ⟨0x22, _, rfl, by decide, by decide⟩

theorem lawful_texts : texts.Lawful := by
  intro ss rest _
  have written : texts.write ss ++ rest =
      0x5B :: (commaSeparated (ss.map printString) ++ 0x5D :: rest) := by
    simp [texts]
  change readStrings _ = _
  unfold readStrings
  rw [written, nextByte_of_visible (by decide)]
  exact elements_write lawful_text begins_text ss rest

end DeviceLink.Json
