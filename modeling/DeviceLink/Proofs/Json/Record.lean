-- Records that are read back as they were written. The members of an object fill the fields of a
-- draft one after the other, each with the value that was written for it.
import DeviceLink.Json.Record
import DeviceLink.Proofs.Json.Codec

namespace DeviceLink.Json

/-- The fields have different names, and each of them reads back what it writes. -/
structure LawfulFields (fs : List Field) : Prop where
  distinct : (fs.map Field.name).Nodup
  lawful : ∀ f ∈ fs, f.codec.Lawful

theorem LawfulFields.nil : LawfulFields [] := ⟨List.nodup_nil, by simp⟩

theorem LawfulFields.cons {f : Field} {fs : List Field} (lawful : f.codec.Lawful)
    (new : f.name ∉ fs.map Field.name) (laws : LawfulFields fs) : LawfulFields (f :: fs) where
  distinct := List.nodup_cons.2 ⟨new, laws.distinct⟩
  lawful g member := by
    rcases List.mem_cons.1 member with rfl | later
    · exact lawful
    · exact laws.lawful g later

theorem LawfulFields.tail {f : Field} {fs : List Field} (laws : LawfulFields (f :: fs)) :
    LawfulFields fs where
  distinct := (List.nodup_cons.1 laws.distinct).2
  lawful g member := laws.lawful g (List.mem_cons_of_mem f member)

/-! ## Drafts that fill -/

/-- The draft of a record whose first fields are read. -/
def Draft.upTo : Nat → (fs : List Field) → Record fs → Draft fs
  | _, [], _ => ()
  | 0, _ :: fs, (_, rest) => (none, upTo 0 fs rest)
  | n + 1, _ :: fs, (x, rest) => (some x, upTo n fs rest)

theorem Draft.upTo_zero (fs : List Field) (r : Record fs) : upTo 0 fs r = empty fs := by
  induction fs with
  | nil => rfl
  | cons f fs ih => exact congrArg (Prod.mk none) (ih r.2)

theorem Draft.finish_upTo (fs : List Field) (r : Record fs) :
    finish fs (upTo fs.length fs r) = .ok r := by
  induction fs with
  | nil => rfl
  | cons f fs ih =>
    obtain ⟨x, r⟩ := r
    change (do return (x, ← finish fs (upTo fs.length fs r)) : Except Error (Record (f :: fs))) = _
    rw [ih]
    rfl

/-- The next member fills the next field. -/
theorem Draft.readMember?_upTo {fs : List Field} (laws : LawfulFields fs) (r : Record fs) {n : Nat}
    (more : n < fs.length) : ∃ name bytes read,
      (Record.writeMembers fs r).drop n =
        (printString name ++ 0x3A :: bytes) :: (Record.writeMembers fs r).drop (n + 1) ∧
      name ∈ fs.map Field.name ∧ readMember? fs (upTo n fs r) name = some read ∧
      ∀ tail, EndsNumber tail →
        read (0x3A :: (bytes ++ tail)) = .ok (upTo (n + 1) fs r, tail) := by
  induction fs generalizing n with
  | nil => simp at more
  | cons f fs ih =>
    obtain ⟨x, r⟩ := r
    cases n with
    | zero =>
      refine ⟨f.name, f.codec.write x, _, rfl, by simp, if_pos rfl, ?_⟩
      intro tail ends
      have read : f.codec.read (f.codec.write x ++ tail) = .ok (x, tail) :=
        laws.lawful f (by simp) x tail ends
      have colon : colon (0x3A :: (f.codec.write x ++ tail)) =
          .ok ((), f.codec.write x ++ tail) := expectByte_of_visible (by decide) _
      exact (Read.bind_ok colon _).trans (Read.bind_ok read _)
    | succ n =>
      obtain ⟨name, bytes, read, written, member, found, reads⟩ :=
        ih laws.tail r (Nat.lt_of_succ_lt_succ more)
      have other : f.name ≠ name := by
        rintro rfl
        exact (List.nodup_cons.1 laws.distinct).1 member
      refine ⟨name, bytes, do return (some x, ← read), written, List.mem_cons_of_mem _ member, ?_,
        ?_⟩
      · change (if f.name = name then _ else (readMember? fs (upTo n fs r) name).map _) = _
        rw [if_neg other, found]
        rfl
      · intro tail ends
        exact Read.bind_ok (reads tail ends) _

/-! ## Members in a row -/

theorem nextName?_member {name : String} {rest : Bytes} :
    nextName? true (printString name ++ rest) = .ok (some name, rest) ∧
      nextName? false (0x2C :: (printString name ++ rest)) = .ok (some name, rest) := by
  obtain ⟨tail, written, read⟩ := literal_printString name rest
  have quote : nextByte (0x22 :: tail) = .ok (0x22, tail) := nextByte_of_visible (by decide) tail
  have comma : nextByte (0x2C :: 0x22 :: tail) = .ok (0x2C, 0x22 :: tail) :=
    nextByte_of_visible (by decide) _
  unfold nextName?
  rw [written]
  constructor
  · simp [bind, Except.bind, pure, Except.pure, quote, read]
  · simp [bind, Except.bind, pure, Except.pure, comma, quote, read]

theorem nextName?_end (first : Bool) (rest : Bytes) :
    nextName? first (0x7D :: rest) = .ok (none, 0x7D :: rest) := by
  unfold nextName?
  rw [nextByte_of_visible (by decide)]
  rfl

namespace Record

variable {fs : List Field}

theorem readMembers_member {fuel : Nat} {first : Bool} {draft draft' : Draft fs}
    {text after rest : Bytes} {name : String} {read : Read (Draft fs)}
    (named : nextName? first text = .ok (some name, after))
    (found : draft.readMember? fs name = some read) (reads : read after = .ok (draft', rest)) :
    readMembers fs (fuel + 1) first draft text = readMembers fs fuel false draft' rest := by
  rw [readMembers, Read.bind_ok named]
  simp only [found]
  exact Read.bind_ok reads _

theorem readMembers_end (fuel : Nat) (first : Bool) (draft : Draft fs) (rest : Bytes) :
    readMembers fs (fuel + 1) first draft (0x7D :: rest) = .ok (draft, 0x7D :: rest) := by
  rw [readMembers, Read.bind_ok (nextName?_end first rest)]
  rfl

theorem length_writeMembers (fs : List Field) (r : Record fs) :
    (writeMembers fs r).length = fs.length := by
  induction fs with
  | nil => rfl
  | cons f fs ih => exact congrArg (· + 1) (ih r.2)

theorem drop_writeMembers (fs : List Field) (r : Record fs) :
    (writeMembers fs r).drop fs.length = [] := by
  rw [← length_writeMembers fs r, List.drop_length]

/-- Members that follow others fill the rest of a draft. -/
theorem readMembers_following (laws : LawfulFields fs) (r : Record fs) (rest : Bytes) {n fuel : Nat}
    (inside : n ≤ fs.length) (enough : fs.length ≤ n + fuel) :
    readMembers fs (fuel + 1) false (Draft.upTo n fs r)
      (following 0x7D ((writeMembers fs r).drop n) rest) =
        .ok (Draft.upTo fs.length fs r, 0x7D :: rest) := by
  induction fuel generalizing n with
  | zero =>
    obtain rfl : n = fs.length := by omega
    rw [drop_writeMembers]
    exact readMembers_end 0 false _ rest
  | succ fuel ih =>
    by_cases last : n = fs.length
    · subst last
      rw [drop_writeMembers]
      exact readMembers_end _ false _ rest
    · obtain ⟨name, bytes, read, written, -, found, reads⟩ :=
        Draft.readMember?_upTo laws r (n := n) (by omega)
      have text : following 0x7D ((writeMembers fs r).drop n) rest = 0x2C :: (printString name ++
          0x3A :: (bytes ++ following 0x7D ((writeMembers fs r).drop (n + 1)) rest)) := by
        rw [written]
        simp [following]
      rw [text, readMembers_member nextName?_member.2 found
        (reads _ (endsNumber_following (by decide) _ _))]
      exact ih (by omega) (by omega)

/-- The members of an object, the bracket that opens it being taken. -/
theorem readMembers_write (laws : LawfulFields fs) (r : Record fs) (rest : Bytes) {fuel : Nat}
    (enough : fs.length ≤ fuel) : readMembers fs (fuel + 1) true (Draft.empty fs)
      (commaSeparated (writeMembers fs r) ++ 0x7D :: rest) =
        .ok (Draft.upTo fs.length fs r, 0x7D :: rest) := by
  rw [← Draft.upTo_zero fs r]
  cases fs with
  | nil => exact readMembers_end fuel true _ rest
  | cons f fs =>
    obtain ⟨name, bytes, read, written, -, found, reads⟩ :=
      Draft.readMember?_upTo laws r (n := 0) (by simp)
    rw [List.drop_zero] at written
    rw [written, commaSeparated_cons, List.append_assoc, List.cons_append,
      readMembers_member nextName?_member.1 found (reads _ (endsNumber_following (by decide) _ _))]
    rw [List.length_cons] at enough
    obtain ⟨fuel, rfl⟩ : ∃ k, fuel = k + 1 := ⟨fuel - 1, by omega⟩
    exact readMembers_following laws r rest (by simp) (by simp; omega)

/-- A record is read back as it was written, and what follows it is left. -/
theorem read_write (laws : LawfulFields fs) (title : String) (r : Record fs) (rest : Bytes) :
    read title fs (write fs r ++ rest) = .ok (r, rest) := by
  have text : write fs r ++ rest =
      0x7B :: (commaSeparated (writeMembers fs r) ++ 0x7D :: rest) := by
    simp [write]
  have enough := length_le_commaSeparated 0x7D (writeMembers fs r) rest
  rw [length_writeMembers] at enough
  have members := readMembers_write laws r rest enough
  have bracket : endObject (0x7D :: rest) = .ok ((), rest) := expectByte_of_visible (by decide) rest
  unfold read
  rw [text, nextByte_of_visible (by decide)]
  simp only [bind, Except.bind, members, Draft.finish_upTo, bracket]
  rfl

end Record

/-! ## Payloads -/

/-- A payload that is a record of lawful fields. -/
structure LawfulPayload (α : Type) [Payload α] : Prop where
  fields : LawfulFields (Payload.fields α)
  ofRecord_toRecord : ∀ x : α, Payload.ofRecord (Payload.toRecord x) = x

theorem LawfulPayload.parse_print {α : Type} [Payload α] (laws : LawfulPayload α) (x : α) :
    Payload.parse (Payload.print x) = .ok x := by
  have read := Record.read_write laws.fields (Payload.title α) (Payload.toRecord x) []
  rw [List.append_nil] at read
  unfold Payload.parse readAll Payload.print Payload.read
  rw [Read.map_ok read, laws.ofRecord_toRecord]
  rfl

end DeviceLink.Json
