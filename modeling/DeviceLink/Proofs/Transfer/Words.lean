-- The operations that a transfer lets through, as the words of a regular expression. Each phase has
-- an expression for what may still come, and an operation leads from one to its derivative.
import Mathlib.Computability.RegularExpressions
import DeviceLink.Proofs.Transfer.Order

namespace DeviceLink.Transfer

open RegularExpression (char)

/-! ## The operations of a direction -/

namespace Direction

/-- Opens a transfer. -/
def init : Direction → Operation
  | .backup => .backupInit
  | .restore => .restoreInit

/-- Goes on with an earlier transfer. -/
def resume : Direction → Operation
  | .backup => .backupResume
  | .restore => .restoreResume

/-- Moves a part of the file. -/
def chunk : Direction → Operation
  | .backup => .backupChunk
  | .restore => .restoreChunk

/-- Ends a transfer whose file is over. -/
def finish : Direction → Operation
  | .backup => .backupFinish
  | .restore => .restoreFinish

/-- Gives a transfer up, which only a backup can be. -/
def cancel : Direction → RegularExpression Operation
  | .backup => char .backupCancel
  | .restore => 0

/-- What may go on while a transfer is open. -/
def stream (d : Direction) : RegularExpression Operation :=
  (char d.resume + char d.chunk).star

/-- A transfer that was opened and has not ended. -/
def flow (d : Direction) : RegularExpression Operation :=
  (char d.init + char d.resume) * d.stream

/-- The operations of a transfer, from the first on. -/
def words (d : Direction) : RegularExpression Operation :=
  (1 + d.flow * (1 + char d.finish)) + (1 + d.flow) * d.cancel

end Direction

namespace Sequence

variable {s : Sequence} {d : Direction} {op : Operation} {phase : Phase}

/-! ## What may still come -/

/-- What a transfer may still go through from a phase on. -/
def left (d : Direction) : Phase → RegularExpression Operation
  | .idle => d.words
  | .streaming => d.stream * (1 + char d.finish) + d.stream * d.cancel
  | .finished | .cancelled => 1

/-- A transfer may stop in every phase. -/
theorem nil_mem_left (d : Direction) (phase : Phase) : [] ∈ (left d phase).matches' := by
  rw [← RegularExpression.rmatch_iff_matches']
  cases d <;> cases phase <;> rfl

theorem cons_mem_iff_deriv {e : RegularExpression Operation} {word : List Operation} :
    op :: word ∈ e.matches' ↔ word ∈ (e.deriv op).matches' := by
  rw [← RegularExpression.rmatch_iff_matches', ← RegularExpression.rmatch_iff_matches']
  rfl

/-- What may come next is what leads to a phase, and the rest is up to that phase. -/
theorem cons_mem_left_iff {word : List Operation} :
    op :: word ∈ (left s.direction s.phase).matches' ↔
      ∃ phase, s.check op = .ok phase ∧ word ∈ (left s.direction phase).matches' := by
  rw [cons_mem_iff_deriv]
  simp only [check_eq_ok_iff]
  -- Each row of the table of phases is a derivative of the expression of its phase.
  cases s.direction <;> cases s.phase <;> cases op <;>
    simp [next?, Operation.direction?, left, Direction.words, Direction.flow, Direction.stream,
      Direction.cancel, Direction.init, Direction.resume, Direction.chunk, Direction.finish,
      RegularExpression.deriv, RegularExpression.matchEpsilon]

/-! ## Calls on a transfer -/

/-- What may be called on a transfer. Offsets and lengths have 64 bits. -/
inductive Call
  | check (op : Operation)
  | advance (op : Operation)
  | attach (id : String) (offset : UInt64)
  | record (length : UInt64)
deriving Repr, DecidableEq

/-- What comes of a call. -/
inductive Answer
  /-- The phase that an operation would lead to. -/
  | phase (phase : Phase)
  | done
  | refused (cause : LinkError)
  /-- A sum did not fit, and the call panicked. -/
  | overflow
deriving Repr, DecidableEq

/-- What a call answers, and the transfer after it. -/
def perform (overflow : Overflow) (s : Sequence) : Call → Answer × Sequence
  | .check op =>
    match s.check op with
    | .ok phase => (.phase phase, s)
    | .error cause => (.refused cause, s)
  | .advance op =>
    match s.advance op with
    | .ok onward => (.done, onward)
    | .error cause => (.refused cause, s)
  | .attach id offset => (.done, s.attach id offset.toNat)
  | .record length =>
    match s.record? overflow length with
    | some counted => (.done, counted)
    | none => (.overflow, s)

section

variable (overflow : Overflow)

/-- The transfer after some calls. -/
def after (s : Sequence) (calls : List Call) : Sequence :=
  calls.foldl (fun s call => (s.perform overflow call).2) s

/-- The operations among some calls that are let through. -/
def accepted (s : Sequence) : List Call → List Operation
  | [] => []
  | .advance op :: calls =>
    match s.perform overflow (.advance op) with
    | (.done, onward) => op :: onward.accepted calls
    | (_, same) => same.accepted calls
  | call :: calls => (s.perform overflow call).2.accepted calls

end

/-- The operations that some calls try. -/
def tried (calls : List Call) : List Operation :=
  calls.filterMap fun
    | .advance op => some op
    | _ => none

variable {overflow : Overflow} {call : Call} {cause : LinkError} {calls : List Call}

theorem perform_of_check_ok (checked : s.check op = .ok phase) :
    s.perform overflow (.advance op) = (.done, { s with phase }) := by
  have onward : s.advance op = .ok { s with phase } := by
    unfold advance
    rw [checked]
    rfl
  simp only [perform, onward]

theorem perform_of_check_error (checked : s.check op = .error cause) :
    s.perform overflow (.advance op) = (.refused cause, s) := by
  have refused : s.advance op = .error cause := by
    unfold advance
    rw [checked]
    rfl
  simp only [perform, refused]

/-- Counting a chunk, whatever becomes of the sum, touches nothing but the offset. -/
theorem record_touches (s : Sequence) (overflow : Overflow) (length : UInt64) :
    ∃ offset, (s.perform overflow (.record length)).2 = { s with offset } ∧
      (s.offset < UInt64.size → offset < UInt64.size) := by
  simp only [perform, record?]
  by_cases fits : s.offset + length.toNat < UInt64.size
  · rw [if_pos fits]
    exact ⟨_, rfl, fun _ => fits⟩
  · rw [if_neg fits]
    cases overflow with
    | panics => exact ⟨s.offset, rfl, fun before => before⟩
    | wraps => exact ⟨_, rfl, fun _ => Nat.mod_lt _ (by decide)⟩

theorem perform_check (s : Sequence) (overflow : Overflow) (op : Operation) :
    (s.perform overflow (.check op)).2 = s := by
  simp only [perform]
  cases s.check op <;> rfl

/-- A call leaves the direction, and an offset of 64 bits. -/
theorem perform_keeps (s : Sequence) (overflow : Overflow) (call : Call) :
    (s.perform overflow call).2.direction = s.direction ∧
      (s.offset < UInt64.size → (s.perform overflow call).2.offset < UInt64.size) := by
  cases call with
  | check op =>
    rw [perform_check]
    exact ⟨rfl, fun before => before⟩
  | advance op =>
    cases checked : s.check op with
    | ok phase =>
      rw [perform_of_check_ok checked]
      exact ⟨rfl, fun before => before⟩
    | error cause =>
      rw [perform_of_check_error checked]
      exact ⟨rfl, fun before => before⟩
  | attach id offset => exact ⟨rfl, fun _ => offset.toNat_lt_size⟩
  | record length =>
    obtain ⟨offset, counted, fits⟩ := s.record_touches overflow length
    rw [counted]
    exact ⟨rfl, fits⟩

theorem after_keeps (s : Sequence) (calls : List Call) :
    (s.after overflow calls).direction = s.direction ∧
      (s.offset < UInt64.size → (s.after overflow calls).offset < UInt64.size) := by
  induction calls generalizing s with
  | nil => exact ⟨rfl, fun before => before⟩
  | cons call calls ih =>
    obtain ⟨direction, fits⟩ := s.perform_keeps overflow call
    obtain ⟨direction', fits'⟩ := ih (s.perform overflow call).2
    exact ⟨direction'.trans direction, fun before => fits' (fits before)⟩

/-! ## What is let through -/

theorem accepted_of_check_ok (checked : s.check op = .ok phase) (calls : List Call) :
    s.accepted overflow (.advance op :: calls) =
      op :: ({ s with phase } : Sequence).accepted overflow calls := by
  simp only [accepted, perform_of_check_ok checked]

theorem accepted_of_check_error (checked : s.check op = .error cause) (calls : List Call) :
    s.accepted overflow (.advance op :: calls) = s.accepted overflow calls := by
  simp only [accepted, perform_of_check_error checked]

/-- Only an operation is let through. -/
theorem accepted_of_other (s : Sequence) (overflow : Overflow) {call : Call}
    (other : ∀ op, call ≠ .advance op) (calls : List Call) :
    s.accepted overflow (call :: calls) = (s.perform overflow call).2.accepted overflow calls ∧
      tried (call :: calls) = tried calls ∧
      (s.perform overflow call).2.phase = s.phase := by
  cases call with
  | check op => exact ⟨rfl, rfl, by rw [perform_check]⟩
  | advance op => exact absurd rfl (other op)
  | attach id offset => exact ⟨rfl, rfl, rfl⟩
  | record length =>
    obtain ⟨offset, counted, -⟩ := s.record_touches overflow length
    exact ⟨rfl, rfl, by rw [counted]⟩

/-- From every phase, what is let through is what may still come. -/
theorem accepted_mem_left (s : Sequence) (calls : List Call) :
    s.accepted overflow calls ∈ (left s.direction s.phase).matches' := by
  induction calls generalizing s with
  | nil => exact nil_mem_left s.direction s.phase
  | cons call calls ih =>
    by_cases operates : ∃ op, call = .advance op
    · obtain ⟨op, rfl⟩ := operates
      cases checked : s.check op with
      | ok phase =>
        rw [accepted_of_check_ok checked, cons_mem_left_iff]
        exact ⟨phase, checked, ih { s with phase }⟩
      | error cause =>
        rw [accepted_of_check_error checked]
        exact ih s
    · obtain ⟨same, -, phase⟩ := s.accepted_of_other overflow (not_exists.1 operates) calls
      have later := ih (s.perform overflow call).2
      rwa [phase, (s.perform_keeps overflow call).1, ← same] at later

/-- What may still come is let through whole. -/
theorem accepted_of_mem_left (s : Sequence) (calls : List Call)
    (mem : tried calls ∈ (left s.direction s.phase).matches') :
    s.accepted overflow calls = tried calls := by
  induction calls generalizing s with
  | nil => rfl
  | cons call calls ih =>
    by_cases operates : ∃ op, call = .advance op
    · obtain ⟨op, rfl⟩ := operates
      obtain ⟨phase, checked, rest⟩ := cons_mem_left_iff.mp mem
      have later : ({ s with phase } : Sequence).accepted overflow calls = tried calls :=
        ih { s with phase } rest
      rw [accepted_of_check_ok checked, later]
      rfl
    · obtain ⟨same, tries, phase⟩ := s.accepted_of_other overflow (not_exists.1 operates) calls
      rw [tries] at mem ⊢
      rw [same]
      apply ih
      rwa [phase, (s.perform_keeps overflow call).1]

theorem accepted_eq_tried_iff (s : Sequence) (calls : List Call) :
    s.accepted overflow calls = tried calls ↔
      tried calls ∈ (left s.direction s.phase).matches' := by
  constructor
  · intro all
    rw [← all]
    exact accepted_mem_left s calls
  · exact accepted_of_mem_left s calls

/-- Nothing may come after an end. -/
theorem accepted_of_ended (ended : s.phase = .finished ∨ s.phase = .cancelled)
    (calls : List Call) : s.accepted overflow calls = [] := by
  have mem : s.accepted overflow calls ∈ (left s.direction s.phase).matches' :=
    accepted_mem_left s calls
  rcases ended with ended | ended
  · rw [ended] at mem
    exact (Language.mem_one _).mp mem
  · rw [ended] at mem
    exact (Language.mem_one _).mp mem

/-- A finish and a cancel lead to an end. -/
theorem ended_of_next? (ends : op = d.finish ∨ op = .backupCancel) {phase' : Phase}
    (next : next? op phase = some phase') : phase' = .finished ∨ phase' = .cancelled := by
  rcases ends with rfl | rfl
  · cases d <;> cases phase <;> simp_all [next?, Direction.finish]
  · cases phase <;> simp_all [next?]

/-! ## The law -/

theorem check_foreign (foreign : op.direction? ≠ some s.direction) :
    s.check op = .error (.outOfOrder op s.phase) := by
  unfold check
  rw [if_neg foreign]

theorem cause_of_check (checked : s.check op = .error cause) :
    cause = .outOfOrder op s.phase := by
  unfold check at checked
  split at checked
  · cases checked
  · cases checked
    rfl

/-- What a transfer in a direction makes of some calls, and then, as it has become, of one more. -/
structure Orderly (overflow : Overflow) (d : Direction) (calls : List Call) (s : Sequence) :
    Prop where
  /-- All operations are let through if and only if they make a word. -/
  whole_iff : (start d).accepted overflow calls = tried calls ↔ tried calls ∈ d.words.matches'
  /-- Those that are let through make a word in any case. -/
  word : (start d).accepted overflow calls ∈ d.words.matches'
  /-- An operation that is not let through is refused, and changes nothing. -/
  refused : ∀ op, (s.perform overflow (.advance op)).1 ≠ .done →
    s.perform overflow (.advance op) = (.refused (.outOfOrder op s.phase), s)
  /-- An operation that is not of the direction is refused. -/
  foreign : ∀ op, op.direction? ≠ some d →
    (s.perform overflow (.advance op)).1 = .refused (.outOfOrder op s.phase)
  /-- Nothing is let through after an end. -/
  ended : ∀ op later, op = d.finish ∨ op = .backupCancel →
    (s.perform overflow (.advance op)).1 = .done →
      (s.perform overflow (.advance op)).2.accepted overflow later = []
  /-- A check gives the phase that the operation would lead to, and no other. -/
  check_iff : ∀ op phase, (s.perform overflow (.check op)).1 = .phase phase ↔
    s.perform overflow (.advance op) = (.done, { s with phase })
  /-- A check changes nothing. -/
  unchanged : ∀ op, (s.perform overflow (.check op)).2 = s
  /-- The offset has 64 bits. A chunk is added to it if the sum has as many, and touches nothing
  else in any case. -/
  counted : s.offset < UInt64.size ∧ ∀ length : UInt64,
    (s.offset + length.toNat < UInt64.size →
      s.perform overflow (.record length) = (.done, s.record length.toNat)) ∧
    ∃ offset, (s.perform overflow (.record length)).2 = { s with offset }

/-- A transfer lets through the words of its direction, whatever is called in between and whatever
the build makes of sums that do not fit. What is not in its place is refused and leaves no trace. -/
theorem a_transfer_lets_through_the_words_of_its_direction (overflow : Overflow) (d : Direction)
    (calls : List Call) : Orderly overflow d calls ((start d).after overflow calls) where
  whole_iff := accepted_eq_tried_iff (start d) calls
  word := accepted_mem_left (start d) calls
  refused := by
    intro op failed
    cases checked : ((start d).after overflow calls).check op with
    | ok phase =>
      rw [perform_of_check_ok checked] at failed
      exact absurd rfl failed
    | error cause =>
      rw [perform_of_check_error checked, cause_of_check checked]
  foreign := by
    intro op foreign
    have direction : ((start d).after overflow calls).direction = d :=
      (after_keeps (start d) calls).1
    rw [← direction] at foreign
    rw [perform_of_check_error (check_foreign foreign)]
  ended := by
    intro op later ends passed
    cases checked : ((start d).after overflow calls).check op with
    | ok phase =>
      rw [perform_of_check_ok checked]
      exact accepted_of_ended (ended_of_next? ends (next?_of_check checked)) later
    | error cause =>
      rw [perform_of_check_error checked] at passed
      cases passed
  check_iff := by
    intro op phase
    cases checked : ((start d).after overflow calls).check op with
    | ok phase' =>
      rw [perform_of_check_ok checked]
      simp [perform, checked]
    | error cause =>
      rw [perform_of_check_error checked]
      simp [perform, checked]
  unchanged op := perform_check _ _ op
  counted := by
    have fresh : (start d).offset < UInt64.size := show 0 < UInt64.size by decide
    refine ⟨(after_keeps (start d) calls).2 fresh, fun length => ⟨fun fits => ?_, ?_⟩⟩
    · simp only [perform, record?, if_pos fits]
    · obtain ⟨offset, touched, -⟩ := record_touches _ overflow length
      exact ⟨offset, touched⟩

/-- A chunk before the transfer is opened is dropped from the word. -/
example : (start .restore).accepted .panics
    [.advance .restoreChunk, .advance .restoreInit, .attach "a" 0, .advance .restoreChunk,
      .record 2, .advance .backupCancel, .advance .restoreFinish, .advance .restoreResume] =
    [.restoreInit, .restoreChunk, .restoreFinish] := by
  decide

/-- One byte more than 64 bits can count. -/
example : let full := (start .backup).attach "a" (UInt64.size - 1)
    full.record? .panics 1 = none ∧ full.record? .wraps 1 = some { full with offset := 0 } := by
  decide

end Sequence

end DeviceLink.Transfer
