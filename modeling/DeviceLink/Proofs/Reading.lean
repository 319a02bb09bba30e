-- What a reading takes from a stream. It depends on the bytes that are still to arrive and on the
-- way the stream ends, and never on the pieces in which the bytes come.
import DeviceLink.Stream

namespace DeviceLink

/-! ## Pieces -/

theorem takeChunks_fst (n : Nat) (cs : List Bytes) : (takeChunks n cs).1 = cs.flatten.take n := by
  induction cs generalizing n with
  | nil => simp [takeChunks]
  | cons c cs ih =>
    unfold takeChunks
    split
    · rename_i h
      rw [List.flatten_cons, List.take_append_of_le_length (by omega)]
    · rename_i h
      rw [List.flatten_cons, List.take_append, List.take_of_length_le (by omega)]
      simp only [ih]

theorem takeChunks_snd (n : Nat) (cs : List Bytes) :
    (takeChunks n cs).2.flatten = cs.flatten.drop n := by
  induction cs generalizing n with
  | nil => simp [takeChunks]
  | cons c cs ih =>
    unfold takeChunks
    split
    · rename_i h
      rw [List.flatten_cons, List.flatten_cons, List.drop_append_of_le_length (by omega)]
    · rename_i h
      rw [List.flatten_cons, List.drop_append, List.drop_of_length_le (by omega)]
      simp only [ih, List.nil_append]

/-! ## Results -/

namespace Receive

variable {α β : Type}

/-- A reading ends with a result and leaves the given bytes, on a stream that ends as before. -/
structure Gives (m : Receive α) (s : Source) (result : Except LinkError α) (rest : Bytes) :
    Prop where
  result_eq : (m s).1 = result
  rest_eq : (m s).2.toList = rest
  ending_eq : (m s).2.ending = s.ending

theorem gives_unique {m : Receive α} {s : Source} {r r' : Except LinkError α} {rest rest' : Bytes}
    (h : Gives m s r rest) (h' : Gives m s r' rest') : r = r' ∧ rest = rest' :=
  ⟨h.result_eq.symm.trans h'.result_eq, h.rest_eq.symm.trans h'.rest_eq⟩

/-- Whatever else is said of a reading is the same. -/
theorem gives_iff {m : Receive α} {s : Source} {r r' : Except LinkError α} {rest rest' : Bytes}
    (h : Gives m s r rest) : Gives m s r' rest' ↔ r = r' ∧ rest = rest' := by
  constructor
  · exact gives_unique h
  · rintro ⟨rfl, rfl⟩
    exact h

theorem gives_pure (a : α) (s : Source) : Gives (pure a) s (.ok a) s.toList := ⟨rfl, rfl, rfl⟩

theorem gives_throw (e : LinkError) (s : Source) :
    Gives (throw e : Receive α) s (.error e) s.toList := ⟨rfl, rfl, rfl⟩

/-- The rest of a reading goes on where its first part stopped. -/
theorem gives_bind {m : Receive α} {f : α → Receive β} {s : Source} {a : α}
    {r : Except LinkError β} {rest left : Bytes} (hm : Gives m s (.ok a) rest)
    (hf : ∀ s', s'.toList = rest → s'.ending = s.ending → Gives (f a) s' r left) :
    Gives (m >>= f) s r left := by
  have hrun : (m >>= f) s = f a (m s).2 := by
    have hok := hm.result_eq
    show ExceptT.bind m f s = _
    rcases hms : m s with ⟨_ | b, s'⟩
    · rw [hms] at hok; cases hok
    · rw [hms] at hok; cases hok
      simp only [ExceptT.bind, ExceptT.mk, bind, StateT.bind, hms]
      rfl
  obtain ⟨h1, h2, h3⟩ := hf _ hm.rest_eq hm.ending_eq
  exact ⟨by rw [hrun, h1], by rw [hrun, h2], by rw [hrun, h3, hm.ending_eq]⟩

theorem gives_bind_error {m : Receive α} {f : α → Receive β} {s : Source} {e : LinkError}
    {rest : Bytes} (hm : Gives m s (.error e) rest) : Gives (m >>= f) s (.error e) rest := by
  have hrun : (m >>= f) s = (.error e, (m s).2) := by
    have herr := hm.result_eq
    show ExceptT.bind m f s = _
    rcases hms : m s with ⟨_ | b, s'⟩
    · rw [hms] at herr; cases herr
      simp only [ExceptT.bind, ExceptT.mk, bind, StateT.bind, hms]
      rfl
    · rw [hms] at herr; cases herr
  exact ⟨by rw [hrun], by rw [hrun, hm.rest_eq], by rw [hrun, hm.ending_eq]⟩

/-! ## Readings that parse -/

/-- A reading takes from a stream what `parse` finds at the front of its bytes. Where that is
nothing, it takes all bytes and fails. -/
structure Parses (m : Receive α) (parse : Bytes → Option (α × Bytes)) : Prop where
  found : ∀ {s a rest}, parse s.toList = some (a, rest) → Gives m s (.ok a) rest
  missing : ∀ {s}, parse s.toList = none → Gives m s (.error s.ending.cutOff) []

theorem parses_congr {m : Receive α} {p q : Bytes → Option (α × Bytes)} (hm : Parses m p)
    (h : ∀ bs, p bs = q bs) : Parses m q := funext h ▸ hm

theorem parses_pure (a : α) : Parses (pure a) fun bs => some (a, bs) where
  found {s b rest} h := by cases h; exact gives_pure a s
  missing h := by cases h

theorem parses_bind {m : Receive α} {f : α → Receive β} {p : Bytes → Option (α × Bytes)}
    {q : α → Bytes → Option (β × Bytes)} (hm : Parses m p) (hf : ∀ a, Parses (f a) (q a)) :
    Parses (m >>= f) fun bs => (p bs).bind fun x => q x.1 x.2 where
  found {s b left} h := by
    obtain ⟨⟨a, rest⟩, hp, hq⟩ := Option.bind_eq_some_iff.1 h
    refine gives_bind (hm.found hp) fun s' hs' _ => (hf a).found ?_
    rw [hs']
    exact hq
  missing {s} h := by
    rcases hp : p s.toList with _ | ⟨a, rest⟩
    · exact gives_bind_error (hm.missing hp)
    · rw [hp, Option.bind_some] at h
      refine gives_bind (hm.found hp) fun s' hs' he => ?_
      rw [← he]
      apply (hf a).missing
      rw [hs']
      exact h

theorem parses_map {m : Receive α} {p : Bytes → Option (α × Bytes)} (f : α → β)
    (hm : Parses m p) : Parses (f <$> m) fun bs => (p bs).map fun x => (f x.1, x.2) := by
  have h := parses_bind hm fun a => parses_pure (f a)
  rw [bind_pure_comp] at h
  simpa only [Option.map_eq_bind, Function.comp_def] using h

/-! ## The readings of a stream -/

theorem gives_upTo (n : Nat) (s : Source) :
    Gives (liftM (upTo n)) s (.ok (s.toList.take n)) (s.toList.drop n) :=
  ⟨congrArg Except.ok (takeChunks_fst n s.chunks), takeChunks_snd n s.chunks, rfl⟩

theorem parses_exactly (n : Nat) : Parses (exactly n) (Bytes.cut? n) where
  found {s bs rest} h := by
    obtain ⟨hs, rfl⟩ := Bytes.cut?_eq_some_iff.1 h
    have htake := gives_upTo bs.length s
    rw [hs, List.take_left, List.drop_left] at htake
    refine gives_bind htake fun s' hs' _ => ?_
    rw [if_pos rfl, ← hs']
    exact gives_pure bs s'
  missing {s} h := by
    have hlt := Bytes.cut?_eq_none_iff.1 h
    have htake := gives_upTo n s
    rw [List.take_of_length_le (by omega), List.drop_of_length_le (by omega)] at htake
    refine gives_bind htake fun s' hs' he => ?_
    rw [if_neg (by omega)]
    exact ⟨by rw [← he]; rfl, hs', rfl⟩

theorem parses_number (n : Nat) :
    Parses (number n) fun bs => (Bytes.cut? n bs).map fun x => (Bytes.number x.1, x.2) :=
  parses_map _ (parses_exactly n)

/-- A value that hangs on a number of `n` bytes. -/
theorem parses_field (n : Nat) (f : Nat → α) : Parses (do return f (← number n)) fun bs =>
    (Bytes.cut? n bs).map fun x => (f (Bytes.number x.1), x.2) := by
  have h := parses_map f (parses_number n)
  rw [← bind_pure_comp] at h
  simpa only [Option.map_map, Function.comp_def] using h

/-- The first byte and those after it. -/
def first? : Bytes → Option (UInt8 × Bytes)
  | [] => none
  | b :: bs => some (b, bs)

theorem parses_byte : Parses byte first? := by
  refine parses_congr (parses_map UInt8.ofNat (parses_number 1)) fun bs => ?_
  cases bs with
  | nil => rfl
  | cons b bs => simp [Bytes.cut?, first?, Bytes.number]

end Receive

end DeviceLink
