import Mathlib.Data.Fintype.EquivFin
import Mathlib.Tactic.Common

/-!
# Xor-shift stages

A stage of a xor-shift generator replaces a word by its xor with a shift of itself.  A word that
equals its own shift is zero (`eq_zero_of_eq_shiftLeft`), and shifts distribute over xor; so every
stage by at least one place is a bijection of the words of its width (`left_bijective`,
`right_bijective`), whatever the width and the shift.
-/

namespace XorShift

variable {w k : ℕ}

/-- A stage that shifts to the left. -/
def left (k : ℕ) (x : BitVec w) : BitVec w := x ^^^ (x <<< k)

/-- A stage that shifts to the right. -/
def right (k : ℕ) (x : BitVec w) : BitVec w := x ^^^ (x >>> k)

instance finite_bitVec : Finite (BitVec w) :=
  Finite.of_injective BitVec.toFin fun _ _ => BitVec.eq_of_toFin_eq

/-- Each bit of a word that equals its shift to the left is a lower bit of it, or nothing. -/
lemma eq_zero_of_eq_shiftLeft (hk : 0 < k) {x : BitVec w} (h : x = x <<< k) : x = 0#w := by
  have hbit : ∀ i, x.getLsbD i = false := by
    intro i
    induction i using Nat.strongRecOn with
    | ind i ih =>
      rw [h, BitVec.getLsbD_shiftLeft]
      by_cases hlow : i < k
      · simp [hlow]
      · rw [ih (i - k) (by omega), Bool.and_false]
  apply BitVec.eq_of_getLsbD_eq
  intro i _
  rw [hbit i, BitVec.getLsbD_zero]

/-- So it is with a shift to the right, from the highest bit down. -/
lemma eq_zero_of_eq_ushiftRight (hk : 0 < k) {x : BitVec w} (h : x = x >>> k) : x = 0#w := by
  have hbit : ∀ n i, w ≤ i + n → x.getLsbD i = false := by
    intro n
    induction n using Nat.strongRecOn with
    | ind n ih =>
      intro i hi
      by_cases hhigh : w ≤ i
      · exact BitVec.getLsbD_of_ge x i hhigh
      · rw [h, BitVec.getLsbD_ushiftRight]
        exact ih (n - 1) (by omega) (k + i) (by omega)
  apply BitVec.eq_of_getLsbD_eq
  intro i _
  rw [hbit w i (Nat.le_add_left w i), BitVec.getLsbD_zero]

/-- Two sums that agree differ in both parts by the same. -/
lemma xor_eq_xor_of_xor_eq_xor {a b c d : BitVec w} (h : a ^^^ b = c ^^^ d) :
    a ^^^ c = b ^^^ d := by
  calc a ^^^ c = (a ^^^ b) ^^^ (b ^^^ c) := by
        rw [BitVec.xor_assoc, ← BitVec.xor_assoc b b c, BitVec.xor_self, BitVec.zero_xor]
    _ = (c ^^^ d) ^^^ (c ^^^ b) := by rw [h, BitVec.xor_comm b c]
    _ = d ^^^ b := by
        rw [BitVec.xor_comm c d, BitVec.xor_assoc, ← BitVec.xor_assoc c c b, BitVec.xor_self,
          BitVec.zero_xor]
    _ = b ^^^ d := BitVec.xor_comm d b

lemma left_injective (hk : 0 < k) : Function.Injective (left k : BitVec w → BitVec w) := by
  intro x y h
  have hshift : x ^^^ y = (x ^^^ y) <<< k := by
    rw [BitVec.shiftLeft_xor_distrib]
    exact xor_eq_xor_of_xor_eq_xor h
  exact BitVec.xor_eq_zero_iff.mp (eq_zero_of_eq_shiftLeft hk hshift)

lemma right_injective (hk : 0 < k) : Function.Injective (right k : BitVec w → BitVec w) := by
  intro x y h
  have hshift : x ^^^ y = (x ^^^ y) >>> k := by
    rw [BitVec.ushiftRight_xor_distrib]
    exact xor_eq_xor_of_xor_eq_xor h
  exact BitVec.xor_eq_zero_iff.mp (eq_zero_of_eq_ushiftRight hk hshift)

/-- A stage loses nothing. -/
theorem left_bijective (hk : 0 < k) : Function.Bijective (left k : BitVec w → BitVec w) :=
  Finite.injective_iff_bijective.mp (left_injective hk)

theorem right_bijective (hk : 0 < k) : Function.Bijective (right k : BitVec w → BitVec w) :=
  Finite.injective_iff_bijective.mp (right_injective hk)

end XorShift
