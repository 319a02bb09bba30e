-- How headers and messages of the exchange channel are read. Reading a header finds in a stream
-- what a parser finds in its bytes, and a message is its header and as many bytes as it says.
import DeviceLink.Exchange.Message
import DeviceLink.Proofs.Reading

namespace DeviceLink

namespace Exchange

/-! ## Headers in bytes -/

/-- The header of a request at the front of the bytes, once its first byte was taken. -/
def RequestHeader.parseAfter? (first : UInt8) (bs : Bytes) : Option (RequestHeader × Bytes) :=
  if first = magic then
    (Receive.first? bs).bind fun t =>
      (Bytes.cut? 4 t.2).map fun x => (⟨t.1, .ofNat (Bytes.number x.1)⟩, x.2)
  else (Bytes.cut? 2 bs).map fun x => (⟨first, .ofNat (Bytes.number x.1)⟩, x.2)

/-- The header of a request at the front of the bytes, and what follows it. -/
def RequestHeader.parse? (bs : Bytes) : Option (RequestHeader × Bytes) :=
  (Receive.first? bs).bind fun x => parseAfter? x.1 x.2

/-- The header of a response at the front of the bytes, and what follows it. -/
def ResponseHeader.parse? (bs : Bytes) : Option (ResponseHeader × Bytes) :=
  (RequestHeader.parse? bs).bind fun h => (Bytes.cut? 2 h.2).map fun x =>
    (⟨h.1.typ, h.1.length, .ofNat (Bytes.number x.1)⟩, x.2)

theorem RequestHeader.parses_read : Receive.Parses RequestHeader.read RequestHeader.parse? := by
  refine Receive.parses_bind Receive.parses_byte fun first => ?_
  unfold parseAfter?
  by_cases h : first = magic
  · simp only [h, if_true]
    exact Receive.parses_bind Receive.parses_byte fun typ =>
      Receive.parses_field 4 fun n => RequestHeader.mk typ (.ofNat n)
  · simp only [h, if_false]
    exact Receive.parses_field 2 fun n => RequestHeader.mk first (.ofNat n)

theorem ResponseHeader.parses_read : Receive.Parses ResponseHeader.read ResponseHeader.parse? :=
  Receive.parses_bind RequestHeader.parses_read fun h =>
    Receive.parses_field 2 fun n => ResponseHeader.mk h.typ h.length (.ofNat n)

theorem RequestHeader.parse?_magic (typ : UInt8) (bs : Bytes) : parse? (magic :: typ :: bs) =
    (Bytes.cut? 4 bs).map fun x => (⟨typ, .ofNat (Bytes.number x.1)⟩, x.2) := rfl

theorem RequestHeader.parse?_standard {typ : UInt8} (h : typ ≠ magic) (bs : Bytes) :
    parse? (typ :: bs) =
      (Bytes.cut? 2 bs).map fun x => (⟨typ, .ofNat (Bytes.number x.1)⟩, x.2) := if_neg h

/-- A header takes three bytes of a stream, or six after the magic byte. -/
theorem RequestHeader.length_of_parse? {bs rest : Bytes} {h : RequestHeader}
    (hp : parse? bs = some (h, rest)) :
    bs.length = rest.length + if bs.head? = some magic then 6 else 3 := by
  rcases bs with _ | ⟨first, bs⟩
  · cases hp
  by_cases hm : first = magic
  · subst hm
    rcases bs with _ | ⟨typ, bs⟩
    · cases hp
    rw [parse?_magic] at hp
    obtain ⟨⟨field, left⟩, hcut, hx⟩ := Option.map_eq_some_iff.1 hp
    obtain ⟨rfl, hl⟩ := Bytes.cut?_eq_some_iff.1 hcut
    cases hx
    simp only [List.length_cons, List.length_append, hl, List.head?_cons, if_true]
    omega
  · rw [parse?_standard hm] at hp
    obtain ⟨⟨field, left⟩, hcut, hx⟩ := Option.map_eq_some_iff.1 hp
    obtain ⟨rfl, hl⟩ := Bytes.cut?_eq_some_iff.1 hcut
    cases hx
    simp only [List.length_cons, List.length_append, hl, List.head?_cons, Option.some.injEq, hm,
      if_false]
    omega

theorem ResponseHeader.length_of_parse? {bs rest : Bytes} {h : ResponseHeader}
    (hp : parse? bs = some (h, rest)) :
    bs.length = rest.length + (if bs.head? = some magic then 6 else 3) + 2 := by
  obtain ⟨⟨g, mid⟩, hg, hp⟩ := Option.bind_eq_some_iff.1 hp
  obtain ⟨⟨field, left⟩, hcut, hp⟩ := Option.map_eq_some_iff.1 hp
  obtain ⟨hmid, hl⟩ := Bytes.cut?_eq_some_iff.1 hcut
  cases hp
  have hlen := RequestHeader.length_of_parse? hg
  simp only at hmid
  rw [hmid, List.length_append] at hlen
  simp only
  omega

/-! ## Messages -/

variable {η α : Type}

/-- What the bytes of a stream make of a message, and what is left of them: the header says how
long the message is, and one that is longer than the limit is left unread. -/
def outcome (parse? : Bytes → Option (η × Bytes)) (size : η → Nat) (make : η → Bytes → α)
    (limit : Nat) (ending : Ending) (bs : Bytes) : Except LinkError α × Bytes :=
  match parse? bs with
  | none => (.error ending.cutOff, [])
  | some (h, rest) =>
    if limit < size h then (.error (.oversize (size h)), rest)
    else
      match Bytes.cut? (size h) rest with
      | none => (.error ending.cutOff, [])
      | some (body, left) => (.ok (make h body), left)

theorem gives_message {header : Receive η} {parse? : Bytes → Option (η × Bytes)}
    (hh : Receive.Parses header parse?) (size : η → Nat) (make : η → Bytes → α) (limit : Nat)
    (s : Source) :
    Receive.Gives (do
      let h ← header
      if limit < size h then throw (.oversize (size h))
      return make h (← Receive.exactly (size h))) s
      (outcome parse? size make limit s.ending s.toList).1
      (outcome parse? size make limit s.ending s.toList).2 := by
  unfold outcome
  rcases hp : parse? s.toList with _ | ⟨h, rest⟩
  · exact Receive.gives_bind_error (hh.missing hp)
  refine Receive.gives_bind (hh.found hp) fun s' hs' he => ?_
  rw [← hs', ← he]
  dsimp only
  split
  · exact Receive.gives_bind_error (Receive.gives_throw _ s')
  · have hbody := Receive.parses_exactly (size h)
    rcases hc : Bytes.cut? (size h) s'.toList with _ | ⟨body, left⟩
    · exact Receive.gives_bind_error (hbody.missing hc)
    · refine Receive.gives_bind (hbody.found hc) fun t ht _ => ?_
      rw [← ht]
      exact Receive.gives_pure _ t

theorem outcome_eq_ok_iff {parse? : Bytes → Option (η × Bytes)} {size : η → Nat}
    {make : η → Bytes → α} {limit : Nat} {ending : Ending} {bs left : Bytes} {a : α} :
    outcome parse? size make limit ending bs = (.ok a, left) ↔
      ∃ h body, parse? bs = some (h, body ++ left) ∧ size h ≤ limit ∧ body.length = size h ∧
        make h body = a := by
  unfold outcome
  constructor
  · intro ho
    split at ho
    · cases ho
    rename_i h rest hp
    split at ho
    · cases ho
    split at ho
    · cases ho
    rename_i hle _ body left' hcut
    obtain ⟨rfl, hl⟩ := Bytes.cut?_eq_some_iff.1 hcut
    cases ho
    exact ⟨h, body, hp, by omega, hl, rfl⟩
  · rintro ⟨h, body, hp, hle, hl, rfl⟩
    rw [hp]
    simp only
    rw [if_neg (by omega), ← hl, Bytes.cut?_append]

end Exchange

/-- What the bytes of a stream make of a request. -/
def Request.outcome (limit : Nat) (ending : Ending) (bs : Bytes) :
    Except LinkError Request × Bytes :=
  Exchange.outcome Exchange.RequestHeader.parse? (·.length.toNat) (fun h body => ⟨h.typ, body⟩)
    limit ending bs

/-- What the bytes of a stream make of a response. -/
def Response.outcome (limit : Nat) (ending : Ending) (bs : Bytes) :
    Except LinkError Response × Bytes :=
  Exchange.outcome Exchange.ResponseHeader.parse? (·.length.toNat)
    (fun h body => ⟨h.typ, h.status, body⟩) limit ending bs

theorem Request.gives_read (limit : Nat) (s : Source) : Receive.Gives (Request.read limit) s
    (Request.outcome limit s.ending s.toList).1 (Request.outcome limit s.ending s.toList).2 :=
  Exchange.gives_message Exchange.RequestHeader.parses_read _ _ limit s

theorem Response.gives_read (limit : Nat) (s : Source) : Receive.Gives (Response.read limit) s
    (Response.outcome limit s.ending s.toList).1 (Response.outcome limit s.ending s.toList).2 :=
  Exchange.gives_message Exchange.ResponseHeader.parses_read _ _ limit s

end DeviceLink
