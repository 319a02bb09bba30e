-- The grammar of the exchange channel. A message is a header, in one of two layouts, and as many
-- bytes as it says; the readers take exactly these from a stream, and nothing that follows.
import DeviceLink.Proofs.Exchange.RoundTrip

namespace DeviceLink

open Receive (Gives)

namespace Exchange

/-! ## Headers -/

/-- The bytes that spell the header of a request. Any first byte but the magic one is its type. -/
inductive RequestHeader.Spells : RequestHeader → Shape → Bytes → Prop
  | standard {typ : UInt8} (plain : typ ≠ magic) (a b : UInt8) :
    Spells ⟨typ, .ofNat (Bytes.number [a, b])⟩ .standard [typ, a, b]
  | extended (typ a b c d : UInt8) :
    Spells ⟨typ, .ofNat (Bytes.number [a, b, c, d])⟩ .extended [magic, typ, a, b, c, d]

/-- The bytes that spell the header of a response: those of a request, and a status. -/
inductive ResponseHeader.Spells : ResponseHeader → Shape → Bytes → Prop
  | intro {h : RequestHeader} {shape : Shape} {front : Bytes}
    (spells : RequestHeader.Spells h shape front) (a b : UInt8) :
    Spells ⟨h.typ, h.length, .ofNat (Bytes.number [a, b])⟩ shape (front ++ [a, b])

/-- Parsing finds just the headers of the grammar. -/
theorem RequestHeader.parse?_eq_some_iff {h : RequestHeader} {bs rest : Bytes} :
    parse? bs = some (h, rest) ↔ ∃ shape front, Spells h shape front ∧ bs = front ++ rest := by
  constructor
  · intro found
    rcases bs with _ | ⟨first, bs⟩
    · cases found
    by_cases extended : first = magic
    · subst extended
      rcases bs with _ | ⟨typ, bs⟩
      · cases found
      rw [parse?_magic] at found
      obtain ⟨⟨field, left⟩, cut, same⟩ := Option.map_eq_some_iff.1 found
      obtain ⟨rfl, four⟩ := Bytes.cut?_eq_some_iff.1 cut
      cases same
      match field, four with
      | [a, b, c, d], _ => exact ⟨.extended, _, .extended typ a b c d, rfl⟩
    · rw [parse?_standard extended] at found
      obtain ⟨⟨field, left⟩, cut, same⟩ := Option.map_eq_some_iff.1 found
      obtain ⟨rfl, two⟩ := Bytes.cut?_eq_some_iff.1 cut
      cases same
      match field, two with
      | [a, b], _ => exact ⟨.standard, _, .standard extended a b, rfl⟩
  · rintro ⟨shape, front, spells, rfl⟩
    cases spells with
    | standard plain a b => exact parse?_standard plain _
    | extended typ a b c d => rfl

theorem ResponseHeader.parse?_eq_some_iff {h : ResponseHeader} {bs rest : Bytes} :
    parse? bs = some (h, rest) ↔ ∃ shape front, Spells h shape front ∧ bs = front ++ rest := by
  constructor
  · intro found
    obtain ⟨⟨g, mid⟩, request, after⟩ := Option.bind_eq_some_iff.1 found
    obtain ⟨shape, front, spells, rfl⟩ := RequestHeader.parse?_eq_some_iff.1 request
    obtain ⟨⟨field, left⟩, cut, same⟩ := Option.map_eq_some_iff.1 after
    obtain ⟨rfl, two⟩ := Bytes.cut?_eq_some_iff.1 cut
    cases same
    match field, two with
    | [a, b], _ => exact ⟨shape, _, .intro spells a b, (List.append_assoc ..).symm⟩
  · rintro ⟨shape, _, ⟨spells, a, b⟩, rfl⟩
    have request := RequestHeader.parse?_eq_some_iff.2
      ⟨shape, _, spells, List.append_assoc _ [a, b] rest⟩
    unfold parse?
    rw [request]
    rfl

/-! ## Headers that are written again -/

/-- A header is spelled as its layout has it, and a standard one has no room for a long length. -/
theorem RequestHeader.Spells.front_eq {h : RequestHeader} {shape : Shape} {front : Bytes}
    (spells : Spells h shape front) : front = shape.header h.typ h.length.toNat ∧
      (shape = .standard → h.length.toNat ≤ 65535) := by
  cases spells with
  | standard plain a b =>
    have short := Bytes.number_two_lt a b
    rw [toNat_lengthField (by omega), Shape.header, Bytes.be16_number]
    exact ⟨rfl, fun _ => by omega⟩
  | extended typ a b c d =>
    have fits := Bytes.number_four_lt a b c d
    rw [toNat_lengthField (by omega), Shape.header, Bytes.be32_number]
    refine ⟨rfl, fun other => ?_⟩
    cases other

theorem ResponseHeader.Spells.front_eq {h : ResponseHeader} {shape : Shape} {front : Bytes}
    (spells : Spells h shape front) :
    front = shape.header h.typ h.length.toNat ++ Bytes.be16 h.status.toNat ∧
      (shape = .standard → h.length.toNat ≤ 65535) := by
  obtain ⟨request, a, b⟩ := spells
  obtain ⟨written, short⟩ := request.front_eq
  have fits := Bytes.number_two_lt a b
  refine ⟨?_, short⟩
  rw [written, UInt16.toNat_ofNat_of_lt' fits, Bytes.be16_number]

/-- The layout of a header is the one that its length is given, unless it wastes the extended one
on a short length. -/
theorem Shape.ofLength_eq_iff {shape : Shape} {n : Nat} (short : shape = .standard → n ≤ 65535) :
    ofLength n = shape ↔ ¬ (shape = .extended ∧ n ≤ 65535) := by
  cases shape with
  | standard => simp [ofLength_of_le (short rfl)]
  | extended => simp [ofLength_eq_extended_iff]

/-! ## Readings by a grammar -/

/-- A message reads by a grammar of headers. On a stream that is closed in the end, this decides
what is read and what is left of the stream. -/
structure ReadsBy {η α : Type} (spells : η → Shape → Bytes → Prop) (size : η → Nat)
    (make : η → Bytes → α) (read : Nat → Receive α) (encode : α → Except LinkError Bytes) :
    Prop where
  /-- A message is read just where its header stands in front, and as many bytes as it says, if
  these are within the limit. All that follows is left. -/
  success_iff : ∀ limit chunks message rest,
    Gives (read limit) ⟨chunks, .closed⟩ (.ok message) rest ↔
      ∃ h shape front body, spells h shape front ∧ chunks.flatten = front ++ body ++ rest ∧
        body.length = size h ∧ size h ≤ limit ∧ message = make h body
  /-- A message is too long just where its header says so, and then only the header is taken. -/
  oversize_iff : ∀ limit chunks n rest,
    Gives (read limit) ⟨chunks, .closed⟩ (.error (.oversize n)) rest ↔
      ∃ h shape front, spells h shape front ∧ chunks.flatten = front ++ rest ∧ n = size h ∧
        limit < n
  /-- In all other cases the stream ends too early, and nothing is left of it. -/
  closed_iff : ∀ limit chunks rest,
    Gives (read limit) ⟨chunks, .closed⟩ (.error .closed) rest ↔ rest = [] ∧
      ∀ h shape front left, spells h shape front → chunks.flatten = front ++ left →
        size h ≤ limit ∧ left.length < size h
  /-- There is no other case. -/
  otherwise : ∀ limit chunks,
    (∀ message rest, ¬ Gives (read limit) ⟨chunks, .closed⟩ (.ok message) rest) →
    (∀ n rest, ¬ Gives (read limit) ⟨chunks, .closed⟩ (.error (.oversize n)) rest) →
      Gives (read limit) ⟨chunks, .closed⟩ (.error .closed) []
  /-- A message that is written again has the bytes it was read from, unless the extended layout
  was used for a length that fits the standard one. -/
  encode_iff : ∀ h shape front body, spells h shape front → body.length = size h →
    (encode (make h body) = .ok (front ++ body) ↔ ¬ (shape = .extended ∧ body.length ≤ 65535))

section

variable {η α : Type} {parse? : Bytes → Option (η × Bytes)} {size : η → Nat}
  {make : η → Bytes → α} {limit : Nat} {bs rest : Bytes}

theorem outcome_eq_oversize_iff {n : Nat} :
    outcome parse? size make limit .closed bs = (.error (.oversize n), rest) ↔
      ∃ h, parse? bs = some (h, rest) ∧ n = size h ∧ limit < n := by
  unfold outcome
  constructor
  · intro long
    split at long
    · cases long
    rename_i h left found
    split at long
    · rename_i above
      cases long
      exact ⟨h, found, rfl, above⟩
    · split at long
      · cases long
      · cases long
  · rintro ⟨h, found, rfl, above⟩
    rw [found]
    exact if_pos above

theorem outcome_eq_closed_iff :
    outcome parse? size make limit .closed bs = (.error .closed, rest) ↔ rest = [] ∧
      ∀ h left, parse? bs = some (h, left) → size h ≤ limit ∧ left.length < size h := by
  unfold outcome
  constructor
  · intro early
    split at early
    · rename_i missing
      cases early
      refine ⟨rfl, fun h left found => ?_⟩
      rw [missing] at found
      cases found
    rename_i h left found
    split at early
    · cases early
    rename_i within
    split at early
    · rename_i short
      cases early
      refine ⟨rfl, fun h' left' found' => ?_⟩
      rw [found] at found'
      cases found'
      exact ⟨Nat.not_lt.1 within, Bytes.cut?_eq_none_iff.1 short⟩
    · cases early
  · rintro ⟨rfl, early⟩
    cases found : parse? bs with
    | none => rfl
    | some x =>
      obtain ⟨within, short⟩ := early x.1 x.2 found
      simp only [Nat.not_lt.2 within, if_false, Bytes.cut?_eq_none_iff.2 short]
      rfl

/-- There is no other outcome. -/
theorem outcome_cases (parse? : Bytes → Option (η × Bytes)) (size : η → Nat)
    (make : η → Bytes → α) (limit : Nat) (bs : Bytes) :
    let result := outcome parse? size make limit .closed bs
    (∃ rest, result = (.error .closed, rest)) ∨ (∃ n rest, result = (.error (.oversize n), rest)) ∨
      ∃ a rest, result = (.ok a, rest) := by
  unfold outcome
  split
  · exact .inl ⟨_, rfl⟩
  split
  · exact .inr (.inl ⟨_, _, rfl⟩)
  split
  · exact .inl ⟨_, rfl⟩
  · exact .inr (.inr ⟨_, _, rfl⟩)

/-- A reading gives the outcome of its bytes, and nothing else. -/
theorem gives_iff_outcome {read : Nat → Receive α}
    (hread : ∀ limit s, Gives (read limit) s
      (outcome parse? size make limit s.ending s.toList).1
      (outcome parse? size make limit s.ending s.toList).2)
    (limit : Nat) (s : Source) (result : Except LinkError α) (rest : Bytes) :
    Gives (read limit) s result rest ↔
      outcome parse? size make limit s.ending s.toList = (result, rest) := by
  have gives := hread limit s
  constructor
  · intro other
    obtain ⟨hresult, hrest⟩ := Receive.gives_unique gives other
    exact Prod.ext hresult hrest
  · intro same
    rw [same] at gives
    exact gives

/-- It is enough that a parser finds the headers of the grammar. -/
theorem readsBy_of_parse {spells : η → Shape → Bytes → Prop} {read : Nat → Receive α}
    {encode : α → Except LinkError Bytes}
    (hread : ∀ limit s, Gives (read limit) s
      (outcome parse? size make limit s.ending s.toList).1
      (outcome parse? size make limit s.ending s.toList).2)
    (hparse : ∀ {h bs rest}, parse? bs = some (h, rest) ↔
      ∃ shape front, spells h shape front ∧ bs = front ++ rest)
    (hencode : ∀ h shape front body, spells h shape front → body.length = size h →
      (encode (make h body) = .ok (front ++ body) ↔
        ¬ (shape = .extended ∧ body.length ≤ 65535))) :
    ReadsBy spells size make read encode where
  success_iff limit chunks message rest := by
    refine (gives_iff_outcome hread limit _ _ rest).trans (outcome_eq_ok_iff.trans ?_)
    constructor
    · rintro ⟨h, body, found, within, length, rfl⟩
      obtain ⟨shape, front, spells, whole⟩ := hparse.1 found
      rw [← List.append_assoc] at whole
      exact ⟨h, shape, front, body, spells, whole, length, within, rfl⟩
    · rintro ⟨h, shape, front, body, spells, whole, length, within, rfl⟩
      rw [List.append_assoc] at whole
      exact ⟨h, body, hparse.2 ⟨shape, front, spells, whole⟩, within, length, rfl⟩
  oversize_iff limit chunks n rest := by
    refine (gives_iff_outcome hread limit _ _ rest).trans (outcome_eq_oversize_iff.trans ?_)
    constructor
    · rintro ⟨h, found, rfl, above⟩
      obtain ⟨shape, front, spells, whole⟩ := hparse.1 found
      exact ⟨h, shape, front, spells, whole, rfl, above⟩
    · rintro ⟨h, shape, front, spells, whole, rfl, above⟩
      exact ⟨h, hparse.2 ⟨shape, front, spells, whole⟩, rfl, above⟩
  closed_iff limit chunks rest := by
    refine (gives_iff_outcome hread limit _ _ rest).trans (outcome_eq_closed_iff.trans ?_)
    constructor
    · rintro ⟨nothing, early⟩
      refine ⟨nothing, fun h shape front left spells whole => ?_⟩
      exact early h left (hparse.2 ⟨shape, front, spells, whole⟩)
    · rintro ⟨nothing, early⟩
      refine ⟨nothing, fun h left found => ?_⟩
      obtain ⟨shape, front, spells, whole⟩ := hparse.1 found
      exact early h shape front left spells whole
  otherwise limit chunks noMessage notLong := by
    have gives {result rest} := (gives_iff_outcome hread limit ⟨chunks, .closed⟩ result rest).2
    rcases outcome_cases parse? size make limit chunks.flatten with
      ⟨rest, early⟩ | ⟨n, rest, long⟩ | ⟨message, rest, found⟩
    · obtain ⟨rfl, -⟩ := outcome_eq_closed_iff.1 early
      exact gives early
    · exact absurd (gives long) (notLong n rest)
    · exact absurd (gives found) (noMessage message rest)
  encode_iff := hencode

end

/-! ## The law -/

theorem readsBy_request : ReadsBy RequestHeader.Spells (·.length.toNat)
    (fun h payload => ⟨h.typ, payload⟩) Request.read Request.encode := by
  apply readsBy_of_parse Request.gives_read RequestHeader.parse?_eq_some_iff
  intro h shape front payload spells length
  obtain ⟨rfl, short⟩ := spells.front_eq
  have fits := h.length.toNat_lt
  rw [encode_request_eq, if_pos (by omega), length, ← Shape.ofLength_eq_iff short]
  constructor
  · intro same
    exact Shape.header_inj rfl (Except.ok.inj same)
  · intro same
    rw [same, List.nil_append]

theorem readsBy_response : ReadsBy ResponseHeader.Spells (·.length.toNat)
    (fun h body => ⟨h.typ, h.status, body⟩) Response.read Response.encode := by
  apply readsBy_of_parse Response.gives_read ResponseHeader.parse?_eq_some_iff
  intro h shape front body spells length
  obtain ⟨rfl, short⟩ := spells.front_eq
  have fits := h.length.toNat_lt
  rw [encode_response_eq, if_pos (by omega), length, ← Shape.ofLength_eq_iff short,
    List.append_assoc]
  constructor
  · intro same
    exact Shape.header_inj rfl (Except.ok.inj same)
  · intro same
    rw [same]

/-- Requests and responses are read by the grammar of their headers: what is accepted is a header
and the bytes that it announces, a message that is too long costs its header only, and all else is
a stream that ends too early. -/
theorem messages_are_read_by_their_grammar :
    ReadsBy RequestHeader.Spells (·.length.toNat) (fun h payload => ⟨h.typ, payload⟩) Request.read
        Request.encode ∧
      ReadsBy ResponseHeader.Spells (·.length.toNat) (fun h body => ⟨h.typ, h.status, body⟩)
        Response.read Response.encode :=
  ⟨readsBy_request, readsBy_response⟩

/-- An extended header for a short payload is read, in whatever pieces it comes, and written again
in fewer bytes. -/
theorem a_wasteful_header_is_not_written_again :
    Gives (Request.read 2) ⟨[[0xFE, 0xA1, 0], [0, 0], [2, 104, 105, 7]], .closed⟩
        (.ok ⟨0xA1, [104, 105]⟩) [7] ∧
      Request.encode ⟨0xA1, [104, 105]⟩ ≠ .ok [0xFE, 0xA1, 0, 0, 0, 2, 104, 105] := by
  have law := messages_are_read_by_their_grammar.1
  have spells := RequestHeader.Spells.extended 0xA1 0 0 0 2
  constructor
  · apply (law.success_iff ..).2
    exact ⟨_, _, _, [104, 105], spells, rfl, rfl, by decide, rfl⟩
  · intro same
    have kept := (law.encode_iff _ _ _ [104, 105] spells rfl).1 same
    exact kept ⟨rfl, by decide⟩

end Exchange

end DeviceLink
