-- How a one-way request is acknowledged. The client waits for the connection to be closed, and
-- takes any end of the stream for that: also one in the middle of a response, and a broken
-- connection.
import DeviceLink.Proofs.Exchange.Grammar
import DeviceLink.Proofs.Transfer.Naming

namespace DeviceLink

namespace Exchange

variable {limit n : Nat} {bs : Bytes} {r : Response}

/-! ## What arrives in place of a response -/

/-- The bytes begin with a whole response whose body is within the limit. -/
def Holds (limit : Nat) (bs : Bytes) (r : Response) : Prop :=
  ∃ h shape front body rest, ResponseHeader.Spells h shape front ∧ bs = front ++ body ++ rest ∧
    body.length = h.length.toNat ∧ h.length.toNat ≤ limit ∧ r = ⟨h.typ, h.status, body⟩

/-- The bytes begin with the header of a response that is too long. -/
def Overruns (limit : Nat) (bs : Bytes) (n : Nat) : Prop :=
  ∃ h shape front rest, ResponseHeader.Spells h shape front ∧ bs = front ++ rest ∧
    n = h.length.toNat ∧ limit < n

/-- The bytes end before a response is whole, if it has begun at all. -/
def BreaksOff (limit : Nat) (bs : Bytes) : Prop :=
  ∀ h shape front rest, ResponseHeader.Spells h shape front → bs = front ++ rest →
    h.length.toNat ≤ limit ∧ rest.length < h.length.toNat

/-- A response is whole, or too long, or it breaks off. -/
theorem holds_or_overruns_or_breaksOff (limit : Nat) (bs : Bytes) :
    (∃ r, Holds limit bs r) ∨ (∃ n, Overruns limit bs n) ∨ BreaksOff limit bs := by
  cases parsed : ResponseHeader.parse? bs with
  | none =>
    refine .inr (.inr fun h shape front rest spells whole => ?_)
    rw [ResponseHeader.parse?_eq_some_iff.2 ⟨shape, front, spells, whole⟩] at parsed
    cases parsed
  | some found =>
    obtain ⟨h, rest⟩ := found
    obtain ⟨shape, front, spells, whole⟩ := ResponseHeader.parse?_eq_some_iff.1 parsed
    by_cases within : h.length.toNat ≤ limit
    · cases cut : Bytes.cut? h.length.toNat rest with
      | none =>
        refine .inr (.inr fun h' shape' front' rest' spells' whole' => ?_)
        rw [ResponseHeader.parse?_eq_some_iff.2 ⟨shape', front', spells', whole'⟩] at parsed
        cases parsed
        exact ⟨within, Bytes.cut?_eq_none_iff.1 cut⟩
      | some taken =>
        obtain ⟨body, left⟩ := taken
        obtain ⟨rfl, length⟩ := Bytes.cut?_eq_some_iff.1 cut
        rw [← List.append_assoc] at whole
        exact .inl ⟨_, h, shape, front, body, left, spells, whole, length, within, rfl⟩
    · exact .inr (.inl ⟨_, h, shape, front, rest, spells, whole, rfl, Nat.lt_of_not_le within⟩)

/-! ## What a reader makes of it -/

section

variable {source : Source}

theorem read_of_holds (holds : Holds limit source.toList r) :
    (Response.read limit source).1 = .ok r := by
  obtain ⟨h, shape, front, body, rest, spells, whole, length, within, rfl⟩ := holds
  rw [List.append_assoc] at whole
  have found : Response.outcome limit source.ending source.toList =
      (.ok ⟨h.typ, h.status, body⟩, rest) :=
    outcome_eq_ok_iff.2 ⟨h, body, ResponseHeader.parse?_eq_some_iff.2 ⟨shape, front, spells, whole⟩,
      within, length, rfl⟩
  rw [(Response.gives_read limit source).result_eq, found]

theorem read_of_overruns (overruns : Overruns limit source.toList n) :
    (Response.read limit source).1 = .error (.oversize n) := by
  obtain ⟨h, shape, front, rest, spells, whole, rfl, above⟩ := overruns
  have parsed := ResponseHeader.parse?_eq_some_iff.2 ⟨shape, front, spells, whole⟩
  rw [(Response.gives_read limit source).result_eq]
  unfold Response.outcome outcome
  rw [parsed]
  simp only [above, if_true]

theorem read_of_breaksOff (breaks : BreaksOff limit source.toList) :
    (Response.read limit source).1 = .error source.ending.cutOff := by
  rw [(Response.gives_read limit source).result_eq]
  unfold Response.outcome outcome
  cases parsed : ResponseHeader.parse? source.toList with
  | none => rfl
  | some found =>
    obtain ⟨h, rest⟩ := found
    obtain ⟨shape, front, spells, whole⟩ := ResponseHeader.parse?_eq_some_iff.1 parsed
    obtain ⟨within, short⟩ := breaks h shape front rest spells whole
    simp only [Nat.not_lt.2 within, if_false, Bytes.cut?_eq_none_iff.2 short]

end

/-- A response that was sent breaks off wherever it is cut. -/
theorem breaksOff_of_cut {whole : Bytes} (sent : r.encode = .ok whole)
    (plain : r.typ ≠ magic ∨ 65535 < r.body.length) (wanted : r.body.length ≤ limit)
    (cut : bs <+: whole) (short : bs ≠ whole) : BreaksOff limit bs := by
  obtain ⟨typ, status, body⟩ := r
  rw [encode_response_eq] at sent
  by_cases sayable : body.length ≤ 2 ^ 32 - 1
  · rw [if_pos sayable] at sent
    cases sent
    intro h shape front rest spells same
    obtain ⟨missing, joined⟩ := cut
    -- The header is there already, so that what is missing is missing from the body.
    have parsed := ResponseHeader.parse?_header status sayable plain body
    rw [← joined, same, List.append_assoc,
      ResponseHeader.parse?_eq_some_iff.2 ⟨shape, front, spells, rfl⟩] at parsed
    cases parsed
    have some_missing : missing ≠ [] := by
      rintro rfl
      rw [List.append_nil] at joined
      exact short joined
    rw [toNat_lengthField sayable]
    refine ⟨wanted, ?_⟩
    rw [List.length_append]
    have := List.length_pos_iff.2 some_missing
    omega
  · rw [if_neg sayable] at sent
    cases sent

end Exchange

/-! ## Acknowledgements -/

/-- However a stream ends, a response that it cuts off is a disconnect. -/
theorem Ending.isDisconnect_cutOff (ending : Ending) : ending.cutOff.isDisconnect = true := by
  cases ending with
  | closed => rfl
  | failed kind reason => cases kind with
    | _ => rfl

namespace Caller

open Exchange (Holds Overruns BreaksOff holds_or_overruns_or_breaksOff read_of_holds
  read_of_overruns read_of_breaksOff)

variable {c : Caller} {q : Request} {bs : Bytes} {source : Source}

/-- A one-way call that was sent is decided by what the client reads. -/
theorem callOneWay_stream (encoded : q.encode = .ok bs) (source : Source) :
    c.callOneWay q (.stream source) = match (Response.read c.limit source).1 with
      | .ok r => .ok (some r)
      | .error cause => if cause.isDisconnect then .ok none else .error (.link cause) := by
  unfold callOneWay exchange
  simp only [encoded, read, ok_bind]
  cases (Response.read c.limit source).1 with
  | ok r => rfl
  | error cause => rfl

/-- What a client makes of the stream that comes for a one-way request. -/
structure Decides (c : Caller) (q : Request) (source : Source) : Prop where
  /-- A response is taken if it is whole. -/
  answered_iff : ∀ r, c.callOneWay q (.stream source) = .ok (some r) ↔
    Holds c.limit source.toList r
  /-- Any end before that acknowledges, after however many bytes and for whatever reason. -/
  acknowledged_iff : c.callOneWay q (.stream source) = .ok none ↔ BreaksOff c.limit source.toList
  /-- Nothing but a response that is too long is an error. -/
  failed_iff : ∀ e, c.callOneWay q (.stream source) = .error e ↔
    ∃ n, Overruns c.limit source.toList n ∧ e = .link (.oversize n)

theorem decides (encoded : q.encode = .ok bs) (source : Source) : c.Decides q source := by
  -- The stream is of one of three kinds, each with a result that the other two do not have.
  have call := callOneWay_stream (c := c) encoded source
  have answered : ∀ r, Holds c.limit source.toList r →
      c.callOneWay q (.stream source) = .ok (some r) := by
    intro r holds
    rw [call, read_of_holds holds]
  have failed : ∀ n, Overruns c.limit source.toList n →
      c.callOneWay q (.stream source) = .error (.link (.oversize n)) := by
    intro n overruns
    rw [call, read_of_overruns overruns]
    rfl
  have acknowledged : BreaksOff c.limit source.toList →
      c.callOneWay q (.stream source) = .ok none := by
    intro breaks
    rw [call, read_of_breaksOff breaks]
    simp [source.ending.isDisconnect_cutOff]
  refine ⟨fun r => ⟨fun taken => ?_, answered r⟩, ⟨fun silent => ?_, acknowledged⟩,
    fun e => ⟨fun error => ?_, ?_⟩⟩
  · rcases holds_or_overruns_or_breaksOff c.limit source.toList with
      ⟨r', holds⟩ | ⟨n, overruns⟩ | breaks
    · rw [answered r' holds] at taken
      cases taken
      exact holds
    · rw [failed n overruns] at taken
      cases taken
    · rw [acknowledged breaks] at taken
      cases taken
  · rcases holds_or_overruns_or_breaksOff c.limit source.toList with
      ⟨r', holds⟩ | ⟨n, overruns⟩ | breaks
    · rw [answered r' holds] at silent
      cases silent
    · rw [failed n overruns] at silent
      cases silent
    · exact breaks
  · rcases holds_or_overruns_or_breaksOff c.limit source.toList with
      ⟨r', holds⟩ | ⟨n, overruns⟩ | breaks
    · rw [answered r' holds] at error
      cases error
    · rw [failed n overruns] at error
      cases error
      exact ⟨n, overruns, rfl⟩
    · rw [acknowledged breaks] at error
      cases error
  · rintro ⟨n, overruns, rfl⟩
    exact failed n overruns

end Caller

/-! ## Giving a backup up -/

namespace Transfer.Backup

variable {caller : Caller} {remote : Remote} {b : Backup} {id : String}

/-- A backup that is open is given up just where its one-way request is acknowledged, or is answered
with success. -/
theorem cancelled_iff (sound : b.sequence.Sound .backup) (streaming : b.sequence.phase = .streaming)
    (named : b.sequence.id = some id) {q : Request}
    (hq : q = .ofOperation .backupCancel (⟨id⟩ : TransferIdRequest)) :
    (perform caller remote .cancel b).2.sequence.phase = .cancelled ↔
      caller.callOneWay q (remote q) = .ok none ∨
        ∃ r, caller.callOneWay q (remote q) = .ok (some r) ∧ r.status = Exchange.statusOk := by
  have checked : b.sequence.check .backupCancel = .ok .cancelled := by
    simp [Sequence.check, sound.direction, streaming, Sequence.next?, Operation.direction?]
  have verdict : Action.verdict caller remote b.sequence .cancel =
      (fun _ => .cancelled) <$> caller.notify q (remote q) := by
    simp [Action.verdict, Action.request?, named, Action.judge, hq]
  rw [perform_eq, verdict, ← Caller.notify_eq_ok_iff]
  change (attempt (b.sequence.check .backupCancel) _ _ _ b).2.sequence.phase = _ ↔ _
  rw [checked]
  cases caller.notify q (remote q) with
  | error e =>
    apply iff_of_false
    · change b.sequence.phase ≠ .cancelled
      rw [streaming]
      decide
    · rintro ⟨⟩
  | ok done => exact iff_of_true rfl rfl

end Transfer.Backup

/-! ## The law -/

namespace Transfer

open Exchange (Holds BreaksOff)

/-- A one-way request is acknowledged by any end of the stream before a whole response. Whatever
bytes come, a response that is whole is taken, one that is too long is the only error, and all else
is an acknowledgement: no byte at all, a header or a body that is cut off anywhere, and a connection
that breaks. So a backup that is open, after any run, is given up on any such end as it is on a
response of success. -/
theorem any_end_before_a_whole_response_acknowledges (c : Caller) :
    (∀ q bs, q.encode = .ok bs → ∀ source, c.Decides q source) ∧
    (∀ (r : Response) whole, r.encode = .ok whole →
      r.typ ≠ Exchange.magic ∨ 65535 < r.body.length → r.body.length ≤ c.limit →
        ∀ part, part <+: whole → part ≠ whole → BreaksOff c.limit part) ∧
    ∀ steps, let b := after (Backup.perform c) {} steps
      b.sequence.phase = .streaming → ∃ id, b.sequence.id = some id ∧
        let q := Request.ofOperation .backupCancel (⟨id⟩ : TransferIdRequest)
        ∀ bs, q.encode = .ok bs → ∀ remote source, remote q = .stream source →
          ((Backup.perform c remote .cancel b).2.sequence.phase = .cancelled ↔
            BreaksOff c.limit source.toList ∨
              ∃ r, Holds c.limit source.toList r ∧ r.status = Exchange.statusOk) := by
  refine ⟨fun q bs encoded source => Caller.decides encoded source, ?_, ?_⟩
  · intro r whole sent plain wanted part cut short
    exact Exchange.breaksOff_of_cut sent plain wanted cut short
  · intro steps b streaming
    obtain ⟨id, named⟩ := (Backup.placed_after steps).named (.inl streaming)
    refine ⟨id, named, ?_⟩
    intro q bs encoded remote source reply
    have decided := Caller.decides (c := c) encoded source
    rw [Backup.cancelled_iff (Backup.sound_after steps) streaming named rfl]
    change c.callOneWay q (remote q) = _ ∨ (∃ r, c.callOneWay q (remote q) = _ ∧ _) ↔ _
    rw [reply, decided.acknowledged_iff]
    simp only [decided.answered_iff]

/-- A server begins to refuse a cancel, and the connection breaks in the middle of its answer. The
backup is given up. -/
theorem a_backup_is_given_up_over_half_a_refusal :
    let c : Caller := { address := "guard:7000" }
    let refusal : Response := ⟨0, Exchange.statusUnauthorized, [110, 111]⟩
    let half : Source := ⟨[[0, 0], [2, 1]], .failed .reset "reset"⟩
    let opening : Backup.Action × Remote := (.init ⟨"lamp", "f.txt", "f-1", 9, ""⟩,
      fun _ => .stream (.ofBytes ([0xF2, 0, 5, 0, 200] ++ Json.ascii "[\"t\"]")))
    refusal.encode = .ok (half.toList ++ [0x91, 110, 111]) ∧
      (after (Backup.perform c) {} [opening, (.cancel, fun _ => .stream half)]).sequence.phase =
        .cancelled := by
  intro c refusal half opening
  have encoded : refusal.encode = .ok (half.toList ++ [0x91, 110, 111]) := by decide +kernel
  have streaming : (after (Backup.perform c) {} [opening]).sequence.phase = .streaming := by
    decide +kernel
  have known : (after (Backup.perform c) {} [opening]).sequence.id = some "t" := by
    decide +kernel
  obtain ⟨-, cuts, cancels⟩ := any_end_before_a_whole_response_acknowledges c
  have breaks : BreaksOff c.limit half.toList :=
    cuts refusal _ encoded (.inl (by decide)) (by decide) _ (List.prefix_append _ _) (by decide)
  obtain ⟨id, named, cancelled_iff⟩ := cancels [opening] streaming
  obtain rfl : "t" = id := Option.some.inj (known.symm.trans named)
  have cancelled := (cancelled_iff _ rfl (fun _ => .stream half) half rfl).2 (.inl breaks)
  clear_value opening
  exact ⟨encoded, cancelled⟩

/-- Neither bytes that are no whole response nor a broken connection are told from a clean close,
and a backup is cancelled on them. -/
theorem a_cut_response_and_a_broken_connection_acknowledge :
    let c : Caller := { address := "guard:7000" }
    let q : Request := ⟨0xF7, [120]⟩
    let cut : Source := .ofBytes [0, 0, 5, 0, 200, 111, 107]
    let broken : Source := ⟨[], .failed .reset "reset"⟩
    let b : Backup := { sequence := ⟨.backup, .streaming, some "t", 0⟩ }
    c.callOneWay q (.stream (.ofBytes [])) = .ok none ∧
      c.callOneWay q (.stream cut) = .ok none ∧ c.callOneWay q (.stream broken) = .ok none ∧
      (Backup.perform c (fun _ => .stream cut) .cancel b).2.sequence.phase = .cancelled ∧
      (Backup.perform c (fun _ => .stream broken) .cancel b).2.sequence.phase = .cancelled := by
  decide +kernel

end Transfer

end DeviceLink
