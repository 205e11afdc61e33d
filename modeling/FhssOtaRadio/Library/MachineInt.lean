import Mathlib.Algebra.Order.Ring.Int
import Mathlib.Tactic.Common

/-!
# Checked machine integers

Arithmetic of a C program as a computation that may fault.  A value is the exact integer; an
operation of a machine type checks that its exact result is a value of the type, and faults
otherwise: a signed operation overflows, which is undefined, an unsigned one wraps.  A computation
that does not fault computes with exact integers (`signed_eq_ok`, `unsigned_eq_ok`).
-/

namespace MachineInt

/-- What an operation on machine integers can run into. -/
inductive Fault where
  | signedOverflow
  | unsignedWrap
  deriving DecidableEq, Repr

/-- The values of `int64_t`. -/
def FitsInt64 (x : ℤ) : Prop := -0x8000000000000000 ≤ x ∧ x ≤ 0x7FFFFFFFFFFFFFFF

instance (x : ℤ) : Decidable (FitsInt64 x) := inferInstanceAs (Decidable (_ ∧ _))

/-- An operation or conversion of `int64_t` with the exact result `x`. -/
def signed (x : ℤ) : Except Fault ℤ :=
  if FitsInt64 x then .ok x else .error .signedOverflow

/-- An operation or conversion of the unsigned type of `width` bits with the exact result `x`. -/
def unsigned (width : ℕ) (x : ℤ) : Except Fault ℤ :=
  if 0 ≤ x ∧ x < 2 ^ width then .ok x else .error .unsignedWrap

/-- A signed operation whose result fits is exact. -/
lemma signed_eq_ok {x : ℤ} (h : FitsInt64 x) : signed x = .ok x := if_pos h

/-- A signed operation whose result does not fit overflows. -/
lemma signed_eq_error {x : ℤ} (h : ¬ FitsInt64 x) : signed x = .error .signedOverflow := if_neg h

/-- An unsigned operation whose result fits is exact. -/
lemma unsigned_eq_ok {width : ℕ} {x : ℤ} (h : 0 ≤ x ∧ x < 2 ^ width) :
    unsigned width x = .ok x := if_pos h

/-- Every `int64_t` fits. -/
lemma fitsInt64_toInt (x : Int64) : FitsInt64 x.toInt := by
  have hle := Int64.le_toInt x
  have hlt := Int64.toInt_lt x
  unfold FitsInt64
  omega

/-- The division of C, towards zero, does not fall below a lower bound. -/
lemma le_tdiv_of_mul_le {a b c : ℤ} (hpos : 0 < b) (h : c * b ≤ a) : c ≤ a.tdiv b := by
  rcases le_or_gt 0 a with hnonneg | hneg
  · rw [Int.tdiv_eq_ediv_of_nonneg hnonneg]
    exact (Int.le_ediv_iff_mul_le hpos).mpr h
  · have hle : -a / b ≤ -c := by
      refine Int.ediv_le_of_le_mul hpos ?_
      rw [Int.neg_mul]
      omega
    have hdiv : a.tdiv b = -(-a / b) := by
      rw [← Int.tdiv_eq_ediv_of_nonneg (by omega), Int.neg_tdiv, neg_neg]
    omega

/-- Nor does it exceed an upper one. -/
lemma tdiv_le_of_le_mul {a b c : ℤ} (hpos : 0 < b) (h : a ≤ c * b) : a.tdiv b ≤ c := by
  have hneg : -c ≤ (-a).tdiv b := le_tdiv_of_mul_le hpos (by rw [Int.neg_mul]; omega)
  rw [Int.neg_tdiv] at hneg
  omega

@[simp] lemma ok_bind {α β : Type} (a : α) (f : α → Except Fault β) :
    (Except.ok a >>= f) = f a := rfl

end MachineInt
