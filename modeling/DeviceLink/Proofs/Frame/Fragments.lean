-- However a stream of frames is cut into pieces, the same frames are decoded from it, and the same
-- bytes are left. Reading the frames off the stream one by one agrees with this.
import DeviceLink.Proofs.Frame.Decoding

namespace DeviceLink.Frame

/-! ## Pieces that are decoded as they come -/

/-- The buffer holds no frame between two pieces, so that each piece goes on where the last one
stopped. -/
theorem decodePieces_frames (limit : Nat) (buffer : Bytes) (cs : List Bytes)
    (h : decode? limit buffer = none) :
    (decodePieces limit buffer cs).flatMap (·.1) = (decodeAll limit (buffer ++ cs.flatten)).1 := by
  induction cs generalizing buffer with
  | nil => simp [decodePieces, decodeAll_of_none h]
  | cons c cs ih =>
    rw [decodePieces, List.flatMap_cons, ih _ (decode?_left limit _), List.flatten_cons,
      ← List.append_assoc, decodeAll_append limit (buffer ++ c)]

theorem decodePieces_left (limit : Nat) (buffer : Bytes) (cs : List Bytes)
    (h : decode? limit buffer = none) :
    ((decodePieces limit buffer cs).map (·.2)).getLastD buffer =
      (decodeAll limit (buffer ++ cs.flatten)).2 := by
  induction cs generalizing buffer with
  | nil => simp [decodePieces, decodeAll_of_none h]
  | cons c cs ih =>
    rw [decodePieces, List.map_cons, List.getLastD_cons, ih _ (decode?_left limit _),
      List.flatten_cons, ← List.append_assoc, decodeAll_append limit (buffer ++ c)]

/-! ## Frames that are read one by one -/

theorem decode?_of_takeNext_some {limit : Nat} {buffer buffer' : Bytes} {cs cs' : List Bytes}
    {f : Frame} (h : takeNext limit buffer cs = (some f, buffer', cs')) :
    decode? limit (buffer ++ cs.flatten) = some (f, buffer' ++ cs'.flatten) := by
  induction cs generalizing buffer with
  | nil =>
    unfold takeNext at h
    split at h
    · rename_i hd
      cases h
      simpa using hd
    · cases h
  | cons c cs ih =>
    unfold takeNext at h
    split at h
    · rename_i hd
      cases h
      exact decode?_append _ hd
    · simpa using ih h

theorem decode?_of_takeNext_none {limit : Nat} {buffer left : Bytes} {cs cs' : List Bytes}
    (h : takeNext limit buffer cs = (none, left, cs')) :
    decode? limit (buffer ++ cs.flatten) = none ∧ left = buffer ++ cs.flatten := by
  induction cs generalizing buffer with
  | nil =>
    unfold takeNext at h
    split at h
    · cases h
    · rename_i hd
      cases h
      simpa using hd
  | cons c cs ih =>
    unfold takeNext at h
    split at h
    · cases h
    · simpa using ih h

/-- Reading frames one after another until none comes: the frames, why there are no more, and the
bytes that are left. -/
inductive Reads (limit : Nat) : Bytes → Source → List Frame → LinkError → Bytes → Prop
  | stop {buffer left : Bytes} {source source' : Source} {e : LinkError} :
      next limit buffer source = (.error e, left, source') → Reads limit buffer source [] e left
  | more {buffer buffer' left : Bytes} {source source' : Source} {f : Frame} {fs : List Frame}
      {e : LinkError} :
      next limit buffer source = (.ok f, buffer', source') →
      Reads limit buffer' source' fs e left → Reads limit buffer source (f :: fs) e left

/-- A call that gives a frame decodes it from what is buffered and still to arrive. -/
theorem next_eq_ok {limit : Nat} {buffer buffer' : Bytes} {source source' : Source} {f : Frame}
    (h : next limit buffer source = (.ok f, buffer', source')) :
    decode? limit (buffer ++ source.toList) = some (f, buffer' ++ source'.toList) ∧
      source'.ending = source.ending := by
  unfold next at h
  split at h
  · rename_i ht
    cases h
    exact ⟨decode?_of_takeNext_some ht, rfl⟩
  · cases h

/-- A call that gives no frame leaves all bytes in the buffer. -/
theorem next_eq_error {limit : Nat} {buffer left : Bytes} {source source' : Source}
    {e : LinkError} (h : next limit buffer source = (.error e, left, source')) :
    decode? limit (buffer ++ source.toList) = none ∧ e = source.ending.error ∧
      left = buffer ++ source.toList := by
  unfold next at h
  split at h
  · cases h
  · rename_i ht
    cases h
    obtain ⟨hd, hl⟩ := decode?_of_takeNext_none ht
    exact ⟨hd, rfl, hl⟩

theorem eq_of_reads {limit : Nat} {buffer left : Bytes} {source : Source} {fs : List Frame}
    {e : LinkError} (h : Reads limit buffer source fs e left) :
    fs = (decodeAll limit (buffer ++ source.toList)).1 ∧ e = source.ending.error ∧
      left = (decodeAll limit (buffer ++ source.toList)).2 := by
  induction h with
  | stop hn =>
    obtain ⟨hd, he, hl⟩ := next_eq_error hn
    rw [decodeAll_of_none hd]
    exact ⟨rfl, he, hl⟩
  | more hn _ ih =>
    obtain ⟨hd, hending⟩ := next_eq_ok hn
    rw [decodeAll_of_some hd, ← hending]
    exact ⟨by rw [ih.1], ih.2⟩

theorem reads_readAll (limit : Nat) (buffer : Bytes) (source : Source) :
    Reads limit buffer source (readAll limit buffer source).1
      (readAll limit buffer source).2.1 (readAll limit buffer source).2.2 := by
  fun_induction readAll limit buffer source with
  | case1 buffer source left cs h =>
    have stopped : next limit buffer source =
        (.error source.ending.error, left, { source with chunks := cs }) := by rw [next, h]
    exact .stop stopped
  | case2 buffer source f rest cs h fs e left hrec ih =>
    rw [hrec] at ih
    exact .more (by rw [next, h]) ih

/-! ## Frames that are taken as bytes come -/

/-- These frames were taken off the front of some bytes, and these bytes are left. -/
def Taken (limit : Nat) (bs : Bytes) (fs : List Frame) (left : Bytes) : Prop :=
  decodeAll limit bs = (fs ++ (decodeAll limit left).1, (decodeAll limit left).2)

section

variable {limit : Nat} {bs left rest : Bytes} {fs : List Frame} {f : Frame}

theorem taken_nil (limit : Nat) (bs : Bytes) : Taken limit bs [] bs := rfl

/-- Bytes may come at any time. -/
theorem Taken.arrive (taken : Taken limit bs fs left) (more : Bytes) :
    Taken limit (bs ++ more) fs (left ++ more) := by
  unfold Taken at *
  rw [decodeAll_append, taken, decodeAll_append limit left more, List.append_assoc]

theorem Taken.take (taken : Taken limit bs fs left) (decoded : decode? limit left = some (f, rest)) :
    Taken limit bs (fs ++ [f]) rest := by
  unfold Taken at *
  rw [taken, decodeAll_of_some decoded, List.append_assoc]
  rfl

theorem Taken.starts (taken : Taken limit bs fs left) : fs <+: (decodeAll limit bs).1 := by
  unfold Taken at taken
  rw [taken]
  exact List.prefix_append _ _

theorem Taken.first (taken : Taken limit bs (f :: fs) left) :
    ∃ rest, decode? limit bs = some (f, rest) := by
  unfold Taken at taken
  cases decoded : decode? limit bs with
  | none =>
    rw [decodeAll_of_none decoded] at taken
    cases taken
  | some x =>
    rw [decodeAll_of_some decoded] at taken
    have same : x.1 = f := (List.cons.inj (congrArg Prod.fst taken)).1
    exact ⟨x.2, by rw [← same]⟩

/-- Where no frame is left, all were taken. -/
theorem Taken.all (taken : Taken limit bs fs left) (nothing : decode? limit left = none) :
    decodeAll limit bs = (fs, left) := by
  unfold Taken at taken
  rw [taken, decodeAll_of_none nothing, List.append_nil]

end

/-! ## The law -/

/-- A stream may be cut anywhere. Its pieces give, one by one, the same frames as the whole of it
and leave the same bytes in the buffer. Decoding never fails: where it finds no frame, none is
complete. Frames that are read one by one are the same again; then comes what ended the stream, and
the same bytes are left: the end of the stream, without a complete frame, and all that is not
accounted for by the frames. -/
theorem the_cut_of_a_stream_changes_nothing (limit : Nat) (cs : List Bytes) (ending : Ending) :
    let whole := decodeAll limit cs.flatten
    let pieces := decodePieces limit [] cs
    pieces.flatMap (·.1) = whole.1 ∧ (pieces.map (·.2)).getLastD [] = whole.2 ∧
      (∀ buffer, decode? limit buffer = none ↔ ¬ Whole buffer) ∧
      (∀ fs e left, Reads limit [] ⟨cs, ending⟩ fs e left ↔ fs = whole.1 ∧
        e = (match ending with | .closed => .closed | .failed _ reason => .broken reason) ∧
        left = whole.2) ∧
      whole.2 <:+ cs.flatten ∧ ¬ Whole whole.2 ∧
      (whole.1.map fun f => headerSize + f.declared).sum + whole.2.length = cs.flatten.length := by
  have hempty : decode? limit [] = none := rfl
  have hreads : ∀ fs e left, Reads limit [] ⟨cs, ending⟩ fs e left ↔
      fs = (decodeAll limit cs.flatten).1 ∧ e = ending.error ∧
        left = (decodeAll limit cs.flatten).2 := by
    intro fs e left
    constructor
    · exact eq_of_reads
    · have hall := reads_readAll limit [] ⟨cs, ending⟩
      obtain ⟨h1, h2, h3⟩ := eq_of_reads hall
      rintro ⟨rfl, rfl, rfl⟩
      rw [h1, h2, h3] at hall
      exact hall
  refine ⟨decodePieces_frames limit [] cs hempty, decodePieces_left limit [] cs hempty,
    fun _ => decode?_eq_none_iff, ?_, decodeAll_left_suffix limit _,
    decode?_eq_none_iff.1 (decode?_left limit _), length_decodeAll limit _⟩
  cases ending
  · exact hreads
  · exact hreads

end DeviceLink.Frame
