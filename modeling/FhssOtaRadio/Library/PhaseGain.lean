import Mathlib.Data.Int.Basic
import Mathlib.Data.Int.Order.Lemmas
import Mathlib.Logic.Function.Iterate
import Mathlib.Tactic.Linarith

/-!
# Piecewise phase gains

A clock that follows noisy observations moves by a part of each timing error.  The gain here is
the usual piecewise one: nothing inside a deadband, a slow slope up to a knee, a fast slope
beyond it, at least one unit and at most `maxStep`.  The one fact a follower needs is that the
correction never leaves the interval between no move and the observation (`correction_mem`).

A follower that corrects a constant error keeps the `residual`.  It does not overshoot
(`residual_mem`), it shrinks as long as it exceeds the deadband (`natAbs_residual_lt`), and so it
ends up within the deadband (`natAbs_iterate_residual_le`).

When the knee is not inside the deadband the correction has no jumps: it is odd
(`correction_neg`), and the next error is corrected by as much or by one unit more
(`correction_succ`).  Then a follower also keeps up with a clock that drifts and is observed with
noise (`natAbs_follow_le`).
-/

namespace PhaseGain

/-- The parameters of a gain. -/
structure Gain where
  deadband : ℕ
  knee : ℕ
  slowDivisor : ℕ
  fastDivisor : ℕ
  maxStep : ℕ

variable (g : Gain)

/-- The size of the correction for a timing error of size `magnitude`. -/
def gain (magnitude : ℕ) : ℕ :=
  if magnitude ≤ g.deadband then 0
  else
    min g.maxStep (max 1 ((min magnitude g.knee - g.deadband) / g.slowDivisor +
      (magnitude - g.knee) / g.fastDivisor))

/-- The correction for a signed timing error. -/
def correction (error : ℤ) : ℤ :=
  error.sign * gain g error.natAbs

/-- A correction is at most as large as the error. -/
lemma gain_le (magnitude : ℕ) : gain g magnitude ≤ magnitude := by
  unfold gain
  split_ifs with hdead
  · exact Nat.zero_le _
  · have hslow : (min magnitude g.knee - g.deadband) / g.slowDivisor ≤ min magnitude g.knee :=
      (Nat.div_le_self _ _).trans (Nat.sub_le _ _)
    have hfast : (magnitude - g.knee) / g.fastDivisor ≤ magnitude - g.knee := Nat.div_le_self _ _
    have hsum : min magnitude g.knee + (magnitude - g.knee) = magnitude := by omega
    refine (min_le_right _ _).trans (max_le (by omega) ?_)
    calc (min magnitude g.knee - g.deadband) / g.slowDivisor +
        (magnitude - g.knee) / g.fastDivisor
        ≤ min magnitude g.knee + (magnitude - g.knee) := Nat.add_le_add hslow hfast
      _ = magnitude := hsum

/-- A late observation moves the clock forward, at most to the observation. -/
lemma correction_of_nonneg {error : ℤ} (h : 0 ≤ error) :
    0 ≤ correction g error ∧ correction g error ≤ error := by
  have hgain := gain_le g error.natAbs
  unfold correction
  rcases h.eq_or_lt with rfl | hpos
  · simp
  · rw [Int.sign_eq_one_of_pos hpos, one_mul]
    omega

/-- An early observation moves the clock back, at most to the observation. -/
lemma correction_of_nonpos {error : ℤ} (h : error ≤ 0) :
    error ≤ correction g error ∧ correction g error ≤ 0 := by
  have hgain := gain_le g error.natAbs
  unfold correction
  rcases h.eq_or_lt with rfl | hneg
  · simp
  · rw [Int.sign_eq_neg_one_of_neg hneg]
    omega

/-- A corrected time lies between the predicted and the observed time. -/
lemma correction_mem (error : ℤ) :
    min 0 error ≤ correction g error ∧ correction g error ≤ max 0 error := by
  rcases le_total 0 error with h | h
  · have := correction_of_nonneg g h
    omega
  · have := correction_of_nonpos g h
    omega

/-! ## The closed loop -/

/-- What is left of a timing error after its correction. -/
def residual (error : ℤ) : ℤ := error - correction g error

/-- Beyond the deadband the correction is at least one unit. -/
lemma one_le_gain (hstep : 1 ≤ g.maxStep) {magnitude : ℕ} (hbeyond : g.deadband < magnitude) :
    1 ≤ gain g magnitude := by
  unfold gain
  rw [if_neg (not_le.mpr hbeyond)]
  exact le_min hstep (le_max_left _ _)

/-- The residual is the error, smaller by the gain. -/
lemma natAbs_residual (error : ℤ) :
    (residual g error).natAbs = error.natAbs - gain g error.natAbs := by
  have hgain := gain_le g error.natAbs
  unfold residual correction
  rcases lt_trichotomy error 0 with hneg | rfl | hpos
  · rw [Int.sign_eq_neg_one_of_neg hneg]
    omega
  · simp
  · rw [Int.sign_eq_one_of_pos hpos, one_mul]
    omega

/-- The residual lies between no error and the error: the correction does not overshoot. -/
lemma residual_mem (error : ℤ) :
    min 0 error ≤ residual g error ∧ residual g error ≤ max 0 error := by
  have hmem := correction_mem g error
  unfold residual
  omega

/-- A correction never makes an error larger. -/
lemma natAbs_residual_le (error : ℤ) : (residual g error).natAbs ≤ error.natAbs := by
  rw [natAbs_residual]
  exact Nat.sub_le _ _

/-- Beyond the deadband a correction makes the error smaller. -/
lemma natAbs_residual_lt (hstep : 1 ≤ g.maxStep) {error : ℤ} (hbeyond : g.deadband < error.natAbs) :
    (residual g error).natAbs < error.natAbs := by
  have hone := one_le_gain g hstep hbeyond
  rw [natAbs_residual]
  omega

/-- **The closed loop ends up within the deadband.**  Each round of corrections takes one unit
at least, so `n` rounds suffice for an error that exceeds the deadband by `n`. -/
theorem natAbs_iterate_residual_le (hstep : 1 ≤ g.maxStep) (n : ℕ) {error : ℤ}
    (herror : error.natAbs ≤ g.deadband + n) : ((residual g)^[n] error).natAbs ≤ g.deadband := by
  induction n generalizing error with
  | zero => exact herror
  | succ n ih =>
      rw [Function.iterate_succ_apply]
      apply ih
      rcases le_or_gt error.natAbs g.deadband with hwithin | hbeyond
      · have hle := natAbs_residual_le g error
        omega
      · have hlt := natAbs_residual_lt g hstep hbeyond
        omega

/-! ## The law of the gain -/

/-- A correction is at most the step cap. -/
lemma gain_le_maxStep (magnitude : ℕ) : gain g magnitude ≤ g.maxStep := by
  unfold gain
  split_ifs
  · exact Nat.zero_le _
  · exact min_le_left _ _

/-- Within the deadband, and only there, nothing is corrected. -/
lemma gain_eq_zero_iff (hstep : 1 ≤ g.maxStep) (magnitude : ℕ) :
    gain g magnitude = 0 ↔ magnitude ≤ g.deadband := by
  constructor
  · intro hzero
    by_contra hbeyond
    have hone := one_le_gain g hstep (not_le.mp hbeyond)
    omega
  · intro hwithin
    unfold gain
    rw [if_pos hwithin]

/-- A quotient grows by one at most when its dividend does. -/
lemma succ_div_le (m d : ℕ) : m / d ≤ (m + 1) / d ∧ (m + 1) / d ≤ m / d + 1 := by
  rw [Nat.succ_div]
  split_ifs <;> omega

/-- The sum of the two slopes grows by one at most from one magnitude to the next: below the knee
only the slow quotient moves, above it only the fast one. -/
lemma slopes_succ {magnitude : ℕ} (hbeyond : g.deadband ≤ magnitude) :
    (min magnitude g.knee - g.deadband) / g.slowDivisor + (magnitude - g.knee) / g.fastDivisor ≤
        (min (magnitude + 1) g.knee - g.deadband) / g.slowDivisor +
          (magnitude + 1 - g.knee) / g.fastDivisor ∧
      (min (magnitude + 1) g.knee - g.deadband) / g.slowDivisor +
          (magnitude + 1 - g.knee) / g.fastDivisor ≤
        (min magnitude g.knee - g.deadband) / g.slowDivisor +
          (magnitude - g.knee) / g.fastDivisor + 1 := by
  rcases Nat.lt_or_ge magnitude g.knee with hbelow | habove
  · have hslow := succ_div_le (magnitude - g.deadband) g.slowDivisor
    have hnext : magnitude + 1 ≤ g.knee := hbelow
    rw [min_eq_left hbelow.le, min_eq_left hnext, Nat.sub_eq_zero_of_le hbelow.le,
      Nat.sub_eq_zero_of_le hnext, Nat.sub_add_comm hbeyond]
    omega
  · have hfast := succ_div_le (magnitude - g.knee) g.fastDivisor
    rw [min_eq_right habove, min_eq_right (habove.trans (Nat.le_succ _)),
      Nat.sub_add_comm habove]
    omega

/-- The next magnitude is corrected by as much or by one unit more. -/
lemma gain_succ (hknee : g.deadband ≤ g.knee) (magnitude : ℕ) :
    gain g magnitude ≤ gain g (magnitude + 1) ∧ gain g (magnitude + 1) ≤ gain g magnitude + 1 := by
  rcases Nat.lt_or_ge magnitude g.deadband with hwithin | hbeyond
  · unfold gain
    rw [if_pos hwithin.le, if_pos (Nat.succ_le_of_lt hwithin)]
    omega
  have hslopes := slopes_succ g hbeyond
  rcases hbeyond.eq_or_lt with heq | hlt
  · -- The first magnitude beyond the deadband: both slopes are still at their start.
    subst heq
    rw [min_eq_left hknee, Nat.sub_self, Nat.sub_eq_zero_of_le hknee, Nat.zero_div,
      Nat.zero_div] at hslopes
    unfold gain
    rw [if_pos le_rfl, if_neg (by omega)]
    omega
  · unfold gain
    rw [if_neg (by omega), if_neg (by omega)]
    omega

/-- The correction is odd. -/
lemma correction_neg (error : ℤ) : correction g (-error) = -correction g error := by
  unfold correction
  rw [Int.sign_neg, Int.natAbs_neg, neg_mul]

/-- The size of a correction. -/
lemma natAbs_correction (error : ℤ) : (correction g error).natAbs = gain g error.natAbs := by
  have hgain := gain_le g error.natAbs
  unfold correction
  rcases lt_trichotomy error 0 with hneg | rfl | hpos
  · rw [Int.sign_eq_neg_one_of_neg hneg]
    omega
  · have hzero : gain g 0 ≤ 0 := hgain
    simp only [Int.sign_zero, zero_mul, Int.natAbs_zero]
    omega
  · rw [Int.sign_eq_one_of_pos hpos, one_mul, Int.natAbs_natCast]

/-- The correction of an error that is not negative is its gain. -/
lemma correction_natCast (magnitude : ℕ) : correction g magnitude = gain g magnitude := by
  have hmem := correction_of_nonneg g (Int.natCast_nonneg magnitude)
  have habs := natAbs_correction g magnitude
  rw [Int.natAbs_natCast] at habs
  omega

/-- **The correction has no jumps.**  The next error is corrected by as much or by one unit
more. -/
lemma correction_succ (hknee : g.deadband ≤ g.knee) (error : ℤ) :
    correction g error ≤ correction g (error + 1) ∧
      correction g (error + 1) ≤ correction g error + 1 := by
  rcases le_or_gt 0 error with hnonneg | hneg
  · obtain ⟨magnitude, rfl⟩ := Int.eq_ofNat_of_zero_le hnonneg
    have hgain := gain_succ g hknee magnitude
    rw [correction_natCast, show (magnitude : ℤ) + 1 = (magnitude + 1 : ℕ) by push_cast; rfl,
      correction_natCast]
    omega
  · -- The negative side is the mirror image.
    obtain ⟨magnitude, hmagnitude⟩ := Int.eq_ofNat_of_zero_le (show 0 ≤ -(error + 1) by omega)
    have hgain := gain_succ g hknee magnitude
    have hleft : correction g (error + 1) = -(gain g magnitude : ℤ) := by
      rw [show error + 1 = -(magnitude : ℤ) by omega, correction_neg, correction_natCast]
    have hright : correction g error = -(gain g (magnitude + 1) : ℤ) := by
      rw [show error = -((magnitude + 1 : ℕ) : ℤ) by omega, correction_neg, correction_natCast]
    omega

/-- A later observation is never corrected by less. -/
lemma correction_mono (hknee : g.deadband ≤ g.knee) {error error' : ℤ} (hle : error ≤ error') :
    correction g error ≤ correction g error' := by
  induction error', hle using Int.leInduction with
  | base => exact le_rfl
  | succ error' _ ih => exact ih.trans (correction_succ g hknee error').1

/-! ## Noise and drift -/

/-- A late clock that is observed with some noise is not moved too far, and it is moved by the
drift at least when it is late by more than the bound. -/
lemma follow_of_nonneg (hknee : g.deadband ≤ g.knee) {bound drift jitter : ℕ}
    (hjitter : jitter ≤ bound) (hdrift : drift ≤ gain g (bound - jitter)) {error noise : ℤ}
    (hlate : 0 ≤ error) (herror : error ≤ bound + drift) (hnoise : noise.natAbs ≤ jitter) :
    (error - correction g (error + noise)).natAbs ≤ bound := by
  have hmem := correction_mem g (error + noise)
  rcases le_or_gt error bound with hwithin | hbeyond
  · omega
  · have hmono : correction g ((bound - jitter : ℕ) : ℤ) ≤ correction g (error + noise) := by
      apply correction_mono g hknee
      omega
    rw [correction_natCast] at hmono
    omega

/-- **A drifting clock that is observed with noise is followed.**  Between two observations it
drifts by at most `drift`, and an observation is off by at most `jitter`; when the gain makes up for
the drift where the error exceeds the noise by as much as the bound allows, the error stays within
the bound after every correction. -/
lemma natAbs_follow_le (hknee : g.deadband ≤ g.knee) {bound drift jitter : ℕ}
    (hjitter : jitter ≤ bound) (hdrift : drift ≤ gain g (bound - jitter)) {error noise : ℤ}
    (herror : error.natAbs ≤ bound + drift) (hnoise : noise.natAbs ≤ jitter) :
    (error - correction g (error + noise)).natAbs ≤ bound := by
  rcases le_total 0 error with hlate | hearly
  · exact follow_of_nonneg g hknee hjitter hdrift hlate (by omega) hnoise
  · have hmirror : (-error - correction g (-error + -noise)).natAbs ≤ bound := by
      apply follow_of_nonneg g hknee hjitter hdrift
      · omega
      · omega
      · omega
    rw [← neg_add, correction_neg] at hmirror
    omega

end PhaseGain
