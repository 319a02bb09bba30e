-- Byte strings: numbers in big-endian order, and the cut after a fixed number of bytes.
namespace DeviceLink

/-- A byte string, first byte first. -/
abbrev Bytes := List UInt8

namespace Bytes

/-! ## Numbers -/

/-- The two bytes of `n`, high byte first; bits above the sixteenth are dropped. -/
def be16 (n : Nat) : Bytes := [UInt8.ofNat (n / 256), UInt8.ofNat n]

/-- The four bytes of `n`, highest byte first; bits above the thirty-second are dropped. -/
def be32 (n : Nat) : Bytes := be16 (n / 65536) ++ be16 n

/-- The number that the bytes spell, highest byte first. -/
def number (bs : Bytes) : Nat := bs.foldl (fun n b => n * 256 + b.toNat) 0

@[simp] theorem length_be16 (n : Nat) : (be16 n).length = 2 := rfl

@[simp] theorem length_be32 (n : Nat) : (be32 n).length = 4 := rfl

theorem number_be16 (n : Nat) : number (be16 n) = n % 65536 := by
  simp [number, be16, UInt8.toNat_ofNat']
  omega

theorem number_be32 (n : Nat) : number (be32 n) = n % 4294967296 := by
  simp [number, be32, be16, UInt8.toNat_ofNat']
  omega

theorem be16_number (high low : UInt8) : be16 (number [high, low]) = [high, low] := by
  have := high.toNat_lt
  have := low.toNat_lt
  have hdiv : (high.toNat * 256 + low.toNat) / 256 = high.toNat := by omega
  simp [be16, number, hdiv]

theorem be32_number (a b c d : UInt8) : be32 (number [a, b, c, d]) = [a, b, c, d] := by
  have := a.toNat_lt
  have := b.toNat_lt
  have := c.toNat_lt
  have := d.toNat_lt
  simp only [be32, be16, number, List.foldl_cons, List.foldl_nil, List.cons_append,
    List.nil_append, List.cons.injEq, and_true, ← UInt8.toNat_inj, UInt8.toNat_ofNat']
  omega

theorem number_two_lt (high low : UInt8) : number [high, low] < 65536 := by
  have := high.toNat_lt
  have := low.toNat_lt
  simp only [number, List.foldl_cons, List.foldl_nil]
  omega

theorem number_four_lt (a b c d : UInt8) : number [a, b, c, d] < 4294967296 := by
  have := a.toNat_lt
  have := b.toNat_lt
  have := c.toNat_lt
  have := d.toNat_lt
  simp only [number, List.foldl_cons, List.foldl_nil]
  omega

/-! ## Cutting -/

/-- The first `n` bytes and those after them, if there are that many. -/
def cut? (n : Nat) (bs : Bytes) : Option (Bytes × Bytes) :=
  let head := bs.take n
  if head.length = n then some (head, bs.drop n) else none

theorem cut?_eq_some_iff {n : Nat} {bs head rest : Bytes} :
    cut? n bs = some (head, rest) ↔ bs = head ++ rest ∧ head.length = n := by
  unfold cut?
  dsimp only
  constructor
  · intro h
    split at h
    · rename_i hl
      simp only [Option.some.injEq, Prod.mk.injEq] at h
      obtain ⟨rfl, rfl⟩ := h
      exact ⟨(List.take_append_drop n bs).symm, hl⟩
    · simp at h
  · rintro ⟨rfl, rfl⟩
    simp

theorem cut?_eq_none_iff {n : Nat} {bs : Bytes} : cut? n bs = none ↔ bs.length < n := by
  unfold cut?
  dsimp only
  rw [List.length_take]
  constructor
  · intro h
    split at h
    · exact absurd h (Option.some_ne_none _)
    · omega
  · intro h
    exact if_neg (by omega)

theorem cut?_append (head rest : Bytes) : cut? head.length (head ++ rest) = some (head, rest) :=
  cut?_eq_some_iff.2 ⟨rfl, rfl⟩

end Bytes

end DeviceLink
