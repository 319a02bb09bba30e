-- How a text is cut to a number of bytes. The search for the end of a character goes back at most
-- three bytes, never below zero, and stops where the longest part that fits ends.
import DeviceLink.Proofs.DeviceId

namespace DeviceLink.Text

variable {cs front : List Char} {n : Nat}

/-! ## The longest part that fits -/

theorem takeBytes_isPrefix (n : Nat) (cs : List Char) : takeBytes n cs <+: cs := by
  induction cs generalizing n with
  | nil => exact List.prefix_refl _
  | cons c cs ih =>
    unfold takeBytes
    split
    · exact List.cons_prefix_cons.2 ⟨rfl, ih _⟩
    · exact List.nil_prefix

theorem sizeOf_takeBytes_le (n : Nat) (cs : List Char) : sizeOf (takeBytes n cs) ≤ n := by
  induction cs generalizing n with
  | nil => exact Nat.zero_le n
  | cons c cs ih =>
    unfold takeBytes
    split
    · next fits =>
      have rest := ih (n - c.utf8Size)
      unfold sizeOf at rest ⊢
      rw [List.foldr_cons]
      omega
    · exact Nat.zero_le n

theorem isPrefix_takeBytes (part : front <+: cs) (fits : sizeOf front ≤ n) :
    front <+: takeBytes n cs := by
  induction cs generalizing n front with
  | nil =>
    rw [List.prefix_nil.1 part]
    exact List.nil_prefix
  | cons c cs ih =>
    cases front with
    | nil => exact List.nil_prefix
    | cons c' front =>
      obtain ⟨rfl, inside⟩ := List.cons_prefix_cons.1 part
      unfold sizeOf at fits
      rw [List.foldr_cons] at fits
      unfold takeBytes
      rw [if_pos (by omega)]
      refine List.cons_prefix_cons.2 ⟨rfl, ih inside ?_⟩
      unfold sizeOf
      omega

theorem takeBytes_eq_self (fits : sizeOf cs ≤ n) : takeBytes n cs = cs := by
  have whole := isPrefix_takeBytes (List.prefix_refl cs) fits
  exact (takeBytes_isPrefix n cs).eq_of_length_le whole.length_le

/-- What is cut off begins with a character that has no room. -/
theorem lt_sizeOf_takeBytes (long : n < sizeOf cs) : n < sizeOf (takeBytes n cs) + 4 := by
  induction cs generalizing n with
  | nil => exact absurd long (Nat.not_lt_zero n)
  | cons c cs ih =>
    unfold takeBytes
    split
    · next fits =>
      unfold sizeOf at ih long ⊢
      rw [List.foldr_cons] at long ⊢
      have rest := ih (n := n - c.utf8Size) (by omega)
      omega
    · have width := c.utf8Size_le_four
      omega

/-! ## The search -/

theorem isBoundary_iff : isBoundary cs n = true ↔ ∃ front, front <+: cs ∧ sizeOf front = n := by
  induction cs generalizing n with
  | nil => cases n with
    | zero => exact iff_of_true rfl ⟨[], List.prefix_refl _, rfl⟩
    | succ n =>
      refine iff_of_false nofun ?_
      rintro ⟨front, part, size⟩
      rw [List.prefix_nil.1 part] at size
      cases size
  | cons c cs ih => cases n with
    | zero => exact iff_of_true rfl ⟨[], List.nil_prefix, rfl⟩
    | succ n =>
      unfold isBoundary
      rw [Bool.and_eq_true, decide_eq_true_iff, ih]
      constructor
      · rintro ⟨fits, front, part, size⟩
        refine ⟨c :: front, List.cons_prefix_cons.2 ⟨rfl, part⟩, ?_⟩
        unfold sizeOf at size ⊢
        rw [List.foldr_cons]
        omega
      · rintro ⟨front, part, size⟩
        cases front with
        | nil => cases size
        | cons c' front =>
          obtain ⟨rfl, inside⟩ := List.cons_prefix_cons.1 part
          unfold sizeOf at size
          rw [List.foldr_cons] at size
          refine ⟨by omega, front, inside, ?_⟩
          unfold sizeOf
          omega

/-- The search ends, and it ends where the longest part that fits does. -/
theorem boundaryBefore?_eq (cs : List Char) (n : Nat) :
    boundaryBefore? cs n = some (sizeOf (takeBytes n cs)) := by
  have size := sizeOf_takeBytes_le n cs
  induction n with
  | zero =>
    have start : isBoundary cs 0 = true := by
      unfold isBoundary
      rfl
    unfold boundaryBefore?
    rw [if_pos start, Nat.le_zero.1 size]
  | succ n ih =>
    unfold boundaryBefore?
    by_cases stops : isBoundary cs (n + 1) = true
    · obtain ⟨front, part, whole⟩ := isBoundary_iff.1 stops
      obtain ⟨rest, joined⟩ := isPrefix_takeBytes part (Nat.le_of_eq whole)
      rw [← joined, sizeOf_append] at size
      rw [if_pos stops, ← joined, sizeOf_append, whole]
      congr 1
      omega
    · -- No part has this many bytes, so that the longest that fits is the longest in one less.
      have less : sizeOf (takeBytes (n + 1) cs) ≤ n := by
        refine Nat.le_of_lt_succ (Nat.lt_of_le_of_ne size fun same => stops ?_)
        exact isBoundary_iff.2 ⟨_, takeBytes_isPrefix (n + 1) cs, same⟩
      have same : takeBytes (n + 1) cs = takeBytes n cs := by
        refine (isPrefix_takeBytes (takeBytes_isPrefix _ cs) less).eq_of_length_le ?_
        exact (isPrefix_takeBytes (takeBytes_isPrefix n cs)
          (Nat.le_succ_of_le (sizeOf_takeBytes_le n cs))).length_le
      rw [if_neg stops, ih (sizeOf_takeBytes_le n cs), same]

/-- A part that is cut where it ends is whole. -/
theorem takeBytes_sizeOf (part : front <+: cs) : takeBytes (sizeOf front) cs = front := by
  have more := isPrefix_takeBytes part (Nat.le_refl _)
  obtain ⟨rest, joined⟩ := more
  have size := sizeOf_takeBytes_le (sizeOf front) cs
  rw [← joined, sizeOf_append] at size
  have none_left : rest = [] := by
    cases rest with
    | nil => rfl
    | cons c rest =>
      unfold sizeOf at size
      rw [List.foldr_cons] at size
      have width := c.utf8Size_pos
      omega
  rw [← joined, none_left, List.append_nil]

end DeviceLink.Text
