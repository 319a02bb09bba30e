-- How the payload of a frame names a device: by the longest part of its text that fits. There is
-- such a part unless there is no text.
import DeviceLink.Proofs.Text.Cutting
import DeviceLink.Proofs.Text.Decoding
import Mathlib.Data.List.DropRight

namespace DeviceLink.DeviceId

variable {payload : Bytes} {sent t : List Char} {d : DeviceId}

/-! ## The text before it is cut -/

/-- The characters are a text without the line ends that come last in it. -/
structure Trims (sent t : List Char) : Prop where
  ends : ∃ lineEnds, sent = t ++ lineEnds ∧ ∀ c ∈ lineEnds, c = '\r' ∨ c = '\n'
  last : ∀ c, t.getLast? = some c → c ≠ '\r' ∧ c ≠ '\n'

theorem isLineEnd_iff {c : Char} : isLineEnd c = true ↔ c = '\r' ∨ c = '\n' := by
  simp [isLineEnd]

theorem trims_rdropWhile (sent : List Char) : Trims sent (sent.rdropWhile isLineEnd) := by
  constructor
  · refine ⟨sent.rtakeWhile isLineEnd, ?_, ?_⟩
    · unfold List.rdropWhile List.rtakeWhile
      rw [← List.reverse_append, List.takeWhile_append_dropWhile, List.reverse_reverse]
    · intro c member
      exact isLineEnd_iff.1 (List.mem_rtakeWhile_imp member)
  · intro c last
    obtain ⟨some_text, rfl⟩ := List.mem_getLast?_eq_getLast last
    have kept := List.rdropWhile_last_not isLineEnd sent some_text
    rw [isLineEnd_iff, not_or] at kept
    exact kept

theorem trims_wireText (payload : Bytes) :
    Trims (Text.lossy (payload.takeWhile (· ≠ 0))).toList (wireText payload) :=
  trims_rdropWhile _

theorem nul_not_mem_wireText (payload : Bytes) : '\x00' ∉ wireText payload := by
  intro nul
  obtain ⟨lineEnds, whole, _⟩ := (trims_wireText payload).ends
  have free : (0 : UInt8) ∉ payload.takeWhile (· ≠ 0) := by
    intro zero
    exact absurd (List.mem_takeWhile_imp zero) (by decide)
  refine Text.nul_not_mem_lossy free ?_
  rw [whole]
  exact List.mem_append_left _ nul

/-! ## Cutting -/

theorem ofText?_eq_some_iff {s : String} : ofText? s = some d ↔ d.text = s := by
  unfold ofText?
  split
  · next fits =>
    rw [Option.some.injEq]
    constructor
    · rintro rfl
      rfl
    · rintro rfl
      rfl
  · next unfit =>
    refine iff_of_false nofun ?_
    rintro rfl
    exact unfit d.fits

theorem ofText?_eq_none_iff {s : String} :
    ofText? s = none ↔ ¬ (s.toList ≠ [] ∧ Text.sizeOf s.toList ≤ limit) := by
  unfold ofText?
  split
  · next fits => exact iff_of_false nofun (not_not_intro fits)
  · next unfit => exact iff_of_true rfl unfit

theorem cutoff?_eq (t : List Char) :
    cutoff? t = some (Text.sizeOf (Text.takeBytes limit t)) := by
  unfold cutoff?
  rw [Text.boundaryBefore?_eq]
  by_cases fits : Text.sizeOf t ≤ limit
  · rw [Nat.min_eq_left fits, Text.takeBytes_eq_self fits, Text.takeBytes_eq_self (Nat.le_refl _)]
  · rw [Nat.min_eq_right (Nat.le_of_not_le fits)]

/-- The identifier is the longest part of the text that fits. -/
theorem ofWire?_eq (payload : Bytes) :
    ofWire? payload = ofText? (String.ofList (Text.takeBytes limit (wireText payload))) := by
  unfold ofWire?
  rw [cutoff?_eq, Option.bind_eq_bind, Option.bind_some,
    Text.takeBytes_sizeOf (Text.takeBytes_isPrefix limit _)]

theorem toList_of_ofWire? (named : ofWire? payload = some d) :
    d.text.toList = Text.takeBytes limit (wireText payload) := by
  rw [ofWire?_eq, ofText?_eq_some_iff] at named
  rw [named, String.toList_ofList]

theorem ofWire?_eq_none_iff : ofWire? payload = none ↔ wireText payload = [] := by
  rw [ofWire?_eq, ofText?_eq_none_iff, String.toList_ofList]
  generalize wireText payload = t
  constructor
  · intro unfit
    have size := Text.sizeOf_takeBytes_le limit t
    have empty : Text.takeBytes limit t = [] := by
      by_contra some_text
      exact unfit ⟨some_text, size⟩
    -- The limit has room for any first character.
    have short : ¬ limit < Text.sizeOf t := by
      intro long
      have cut := Text.lt_sizeOf_takeBytes long
      rw [empty] at cut
      exact absurd cut (by decide)
    rw [Text.takeBytes_eq_self (Nat.le_of_not_lt short)] at empty
    exact empty
  · rintro rfl some_text
    exact some_text.1 rfl

/-! ## The law -/

/-- The identifier is what fits of the text. -/
structure Fits (t : List Char) (d : DeviceId) : Prop where
  part : d.text.toList <+: t
  size : (Text.utf8 d.text).length ≤ 63
  longest : ∀ front, front <+: t → (Text.encodeChars front).length ≤ 63 → front <+: d.text.toList
  some_text : d.text ≠ ""
  no_nul : '\x00' ∉ d.text.toList
  /-- A text that is short enough is the identifier. -/
  whole : (Text.encodeChars t).length ≤ 63 → d.text.toList = t
  /-- Of one that is too long the identifier has as much as the width of a character allows. -/
  nearly : 63 < (Text.encodeChars t).length → 60 ≤ (Text.utf8 d.text).length

theorem fits_of_ofWire? (named : ofWire? payload = some d) : Fits (wireText payload) d := by
  have text := toList_of_ofWire? named
  have part : d.text.toList <+: wireText payload := by
    rw [text]
    exact Text.takeBytes_isPrefix _ _
  refine ⟨part, d.length_utf8_text, ?_, ?_, ?_, ?_, ?_⟩
  · intro front inside short
    rw [Text.length_encodeChars] at short
    rw [text]
    exact Text.isPrefix_takeBytes inside short
  · intro empty
    have some_text := d.fits.1
    rw [empty] at some_text
    exact some_text rfl
  · exact fun nul => nul_not_mem_wireText payload (part.subset nul)
  · intro short
    rw [Text.length_encodeChars] at short
    rw [text]
    exact Text.takeBytes_eq_self short
  · intro long
    rw [Text.length_encodeChars] at long
    rw [Text.length_utf8, text]
    have cut := Text.lt_sizeOf_takeBytes (n := limit) long
    unfold limit at cut ⊢
    omega

/-- A payload names a device by the longest part of its text that fits. Take any bytes, and the text
of those before the first NUL with its last line ends removed. The search for where to cut it ends,
at most three bytes before the limit or the end of the text. There is no identifier if and only if
the text is empty. Otherwise the identifier is the longest part at the front of the text that has at
most 63 bytes; it is not empty and has no NUL, it is all of the text if that has at most 63 bytes,
and it has no less than 60 if the text is longer. -/
theorem an_identifier_is_the_longest_part_that_fits (payload : Bytes) :
    let t := wireText payload
    Trims (Text.lossy (payload.takeWhile (· ≠ 0))).toList t ∧
    (∃ stop, cutoff? t = some stop ∧ stop ≤ min (Text.encodeChars t).length 63 ∧
      min (Text.encodeChars t).length 63 ≤ stop + 3) ∧
    (ofWire? payload = none ↔ t = []) ∧
    ∀ d, ofWire? payload = some d → Fits t d := by
  intro t
  refine ⟨trims_wireText payload, ⟨_, cutoff?_eq t, ?_, ?_⟩, ofWire?_eq_none_iff, ?_⟩
  · have part := Text.takeBytes_isPrefix limit t
    have size := Text.sizeOf_takeBytes_le limit t
    obtain ⟨rest, whole⟩ := part
    have all := congrArg Text.sizeOf whole
    rw [Text.sizeOf_append] at all
    rw [Text.length_encodeChars]
    unfold limit at *
    omega
  · rw [Text.length_encodeChars]
    by_cases fits : Text.sizeOf t ≤ limit
    · rw [Text.takeBytes_eq_self fits]
      omega
    · have cut := Text.lt_sizeOf_takeBytes (Nat.lt_of_not_le fits)
      unfold limit at *
      omega
  · intro d named
    exact fits_of_ofWire? named

-- A character of two bytes that would end beyond the limit is left out whole.
example : (ofWire? (List.replicate 62 97 ++ [0xC3, 0xA9, 10])).map (·.text.toList) =
    some (List.replicate 62 'a') := by
  decide +kernel

end DeviceLink.DeviceId
