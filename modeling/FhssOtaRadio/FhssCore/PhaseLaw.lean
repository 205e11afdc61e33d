import FhssOtaRadio.FhssCore.SlotProgress
import FhssOtaRadio.Library.MachineInt

/-!
# The phase correction law (`fhss_sync_controller.c`)

`calculate_phase_correction` once more in the machine integers of the source, down to the
magnitude of `INT64_MIN`: for the parameters `fhss_sync_controller_init` accepts no operation
leaves its type (`calculatePhaseCorrectionMachine_eq`).  What it computes is then the law of the
controller's phase gain: nothing inside the deadband, never more than the error or the step cap,
odd, monotone and without jumps.
-/

namespace FhssOtaRadio

open MachineInt PhaseGain

/-- `magnitude_i64`, every operation checked. -/
def magnitudeI64 (value : ℤ) : Except Fault ℤ :=
  if value < 0 then do
    let successor ← signed (value + 1)
    let negated ← signed (-successor)
    let magnitude ← unsigned 64 negated
    unsigned 64 (magnitude + 1)
  else unsigned 64 value

/-- The piecewise gain of `calculate_phase_correction`, before its minimum and its cap, every
operation checked. -/
def piecewiseGainMachine (controller : FhssSyncController) (magnitude : ℤ) : Except Fault ℤ := do
  let slowLimit : ℤ := controller.correctionFastThresholdUs.toNat
  let slowMagnitude := if magnitude < slowLimit then magnitude else slowLimit
  let slowBeyond ← unsigned 64 (slowMagnitude - controller.correctionDeadbandUs.toNat)
  let correctionMagnitude := slowBeyond / controller.correctionSlowDivisor.toNat
  if slowLimit < magnitude then do
    let fastBeyond ← unsigned 64 (magnitude - slowLimit)
    unsigned 64 (correctionMagnitude + fastBeyond / controller.correctionFastDivisor.toNat)
  else .ok correctionMagnitude

/-- `calculate_phase_correction`, every operation checked. -/
def calculatePhaseCorrectionMachine (controller : FhssSyncController) (timingErrorUs : ℤ) :
    Except Fault ℤ := do
  let magnitude ← magnitudeI64 timingErrorUs
  if magnitude ≤ controller.correctionDeadbandUs.toNat then .ok 0
  else do
    let correctionMagnitude ← piecewiseGainMachine controller magnitude
    let correctionMagnitude := if correctionMagnitude = 0 then 1 else correctionMagnitude
    let correctionMagnitude :=
      if (controller.correctionMaxStepUs.toNat : ℤ) < correctionMagnitude then
        (controller.correctionMaxStepUs.toNat : ℤ)
      else correctionMagnitude
    let correctionUs ← signed correctionMagnitude
    if timingErrorUs < 0 then signed (-correctionUs) else .ok correctionUs

/-- The phase correction of a controller: its size, its direction and how it varies. -/
structure PhaseCorrectionLaw (controller : FhssSyncController) : Prop where
  no_overflow : ∀ error : Int64, calculatePhaseCorrectionMachine controller error.toInt =
    .ok (calculatePhaseCorrection controller error.toInt)
  eq_zero_iff : ∀ error, calculatePhaseCorrection controller error = 0 ↔
    error.natAbs ≤ controller.correctionDeadbandUs.toNat
  sign_eq : ∀ error, controller.correctionDeadbandUs.toNat < error.natAbs →
    (calculatePhaseCorrection controller error).sign = error.sign
  natAbs_le : ∀ error, (calculatePhaseCorrection controller error).natAbs ≤
    min error.natAbs controller.correctionMaxStepUs.toNat
  odd : ∀ error, calculatePhaseCorrection controller (-error) =
    -calculatePhaseCorrection controller error
  mono : ∀ error error', error ≤ error' →
    calculatePhaseCorrection controller error ≤ calculatePhaseCorrection controller error'
  adjacent : ∀ error, (calculatePhaseCorrection controller (error + 1) -
    calculatePhaseCorrection controller error).natAbs ≤ 1

/-- The parameters `fhss_sync_controller_init` accepts. -/
structure GainReady (controller : FhssSyncController) : Prop where
  maxStep_pos : 1 ≤ controller.correctionMaxStepUs.toNat
  deadband_le : controller.correctionDeadbandUs.toNat ≤ controller.correctionFastThresholdUs.toNat

/-- A controller that was built has accepted parameters. -/
lemma gainReady_init {config : FhssSyncControllerConfig} {controller : FhssSyncController}
    (h : fhssSyncControllerInit config = .ok controller) : GainReady controller := by
  obtain ⟨hcap, hle, -⟩ := fhssSyncControllerInit_ok h
  have hne : controller.correctionMaxStepUs.toNat ≠ 0 := fun h0 => hcap (UInt32.toNat_inj.mp h0)
  exact ⟨Nat.one_le_iff_ne_zero.mpr hne, UInt32.le_iff_toNat_le.mp hle⟩

/-- The parameters are accepted or not as the gain they make. -/
lemma gainReady_of_gain_eq {controller controller' : FhssSyncController}
    (heq : controller'.gain = controller.gain) (h : GainReady controller) :
    GainReady controller' := by
  have hstep : 1 ≤ controller'.gain.maxStep := by
    rw [heq]
    exact h.maxStep_pos
  have hknee : controller'.gain.deadband ≤ controller'.gain.knee := by
    rw [heq]
    exact h.deadband_le
  exact ⟨hstep, hknee⟩

/-- The magnitude of every `int64_t` is exact. -/
lemma magnitudeI64_eq {value : ℤ} (h : FitsInt64 value) :
    magnitudeI64 value = .ok value.natAbs := by
  unfold FitsInt64 at h
  unfold magnitudeI64
  split_ifs with hneg
  · rw [signed_eq_ok (by unfold FitsInt64; omega), ok_bind,
      signed_eq_ok (by unfold FitsInt64; omega), ok_bind, unsigned_eq_ok (by omega), ok_bind,
      unsigned_eq_ok (by omega)]
    congr 1
    omega
  · rw [unsigned_eq_ok (by omega)]
    congr 1
    omega

/-- The piecewise gain of a magnitude beyond the deadband is exact. -/
lemma piecewiseGainMachine_eq {controller : FhssSyncController} (h : GainReady controller)
    {magnitude : ℕ} (hmagnitude : magnitude ≤ 2 ^ 63)
    (hdead : controller.correctionDeadbandUs.toNat ≤ magnitude) :
    piecewiseGainMachine controller magnitude =
      .ok (((min magnitude controller.correctionFastThresholdUs.toNat -
          controller.correctionDeadbandUs.toNat) / controller.correctionSlowDivisor.toNat +
        (magnitude - controller.correctionFastThresholdUs.toNat) /
          controller.correctionFastDivisor.toNat : ℕ) : ℤ) := by
  have hlimit : controller.correctionFastThresholdUs.toNat < 2 ^ 32 := UInt32.toNat_lt _
  have hdeadband := h.deadband_le
  have hslow : (if (magnitude : ℤ) < controller.correctionFastThresholdUs.toNat then
      (magnitude : ℤ) else controller.correctionFastThresholdUs.toNat) =
      (min magnitude controller.correctionFastThresholdUs.toNat : ℕ) := by
    split_ifs <;> omega
  have hslowDiv : (min magnitude controller.correctionFastThresholdUs.toNat -
      controller.correctionDeadbandUs.toNat) / controller.correctionSlowDivisor.toNat ≤
      min magnitude controller.correctionFastThresholdUs.toNat :=
    (Nat.div_le_self _ _).trans (Nat.sub_le _ _)
  have hslowLe : controller.correctionDeadbandUs.toNat ≤
      min magnitude controller.correctionFastThresholdUs.toNat := le_min hdead hdeadband
  unfold piecewiseGainMachine
  dsimp only
  rw [hslow, unsigned_eq_ok (by omega), ok_bind, ← Nat.cast_sub hslowLe, ← Int.natCast_div]
  generalize (min magnitude controller.correctionFastThresholdUs.toNat -
    controller.correctionDeadbandUs.toNat) / controller.correctionSlowDivisor.toNat = slow
    at hslowDiv ⊢
  by_cases hbeyond : controller.correctionFastThresholdUs.toNat < magnitude
  · have hdiv : (magnitude - controller.correctionFastThresholdUs.toNat) /
        controller.correctionFastDivisor.toNat ≤
        magnitude - controller.correctionFastThresholdUs.toNat := Nat.div_le_self _ _
    rw [if_pos (by exact_mod_cast hbeyond), unsigned_eq_ok (by omega), ok_bind,
      ← Nat.cast_sub hbeyond.le, ← Int.natCast_div, ← Nat.cast_add]
    generalize (magnitude - controller.correctionFastThresholdUs.toNat) /
      controller.correctionFastDivisor.toNat = fast at hdiv ⊢
    exact unsigned_eq_ok (by omega)
  · rw [if_neg (by exact_mod_cast hbeyond), Nat.sub_eq_zero_of_le (not_lt.mp hbeyond),
      Nat.zero_div, add_zero]

/-- No operation of the phase correction leaves its type. -/
lemma calculatePhaseCorrectionMachine_eq {controller : FhssSyncController}
    (h : GainReady controller) {timingErrorUs : ℤ} (hfits : FitsInt64 timingErrorUs) :
    calculatePhaseCorrectionMachine controller timingErrorUs =
      .ok (calculatePhaseCorrection controller timingErrorUs) := by
  have hmaxStep : controller.correctionMaxStepUs.toNat < 2 ^ 32 := UInt32.toNat_lt _
  have hmagnitude : timingErrorUs.natAbs ≤ 2 ^ 63 := by
    unfold FitsInt64 at hfits
    omega
  rw [calculatePhaseCorrection_eq]
  unfold calculatePhaseCorrectionMachine correction PhaseGain.gain FhssSyncController.gain
  rw [magnitudeI64_eq hfits, ok_bind]
  dsimp only
  by_cases hdead : timingErrorUs.natAbs ≤ controller.correctionDeadbandUs.toNat
  · rw [if_pos hdead, if_pos (by exact_mod_cast hdead)]
    simp
  rw [if_neg hdead, if_neg (by exact_mod_cast hdead),
    piecewiseGainMachine_eq h hmagnitude (not_le.mp hdead).le, ok_bind]
  generalize (min timingErrorUs.natAbs controller.correctionFastThresholdUs.toNat -
      controller.correctionDeadbandUs.toNat) / controller.correctionSlowDivisor.toNat +
    (timingErrorUs.natAbs - controller.correctionFastThresholdUs.toNat) /
      controller.correctionFastDivisor.toNat = size
  have hsize : (if (controller.correctionMaxStepUs.toNat : ℤ) <
        (if (size : ℤ) = 0 then 1 else (size : ℤ)) then (controller.correctionMaxStepUs.toNat : ℤ)
      else (if (size : ℤ) = 0 then 1 else (size : ℤ))) =
      (min controller.correctionMaxStepUs.toNat (max 1 size) : ℕ) := by
    split_ifs <;> omega
  have hcap : min controller.correctionMaxStepUs.toNat (max 1 size) < 2 ^ 32 := by omega
  rw [hsize]
  generalize min controller.correctionMaxStepUs.toNat (max 1 size) = capped at hcap ⊢
  rw [signed_eq_ok (by unfold FitsInt64; omega), ok_bind]
  rcases lt_trichotomy timingErrorUs 0 with hneg | rfl | hpos
  · rw [if_pos hneg, signed_eq_ok (by unfold FitsInt64; omega), Int.sign_eq_neg_one_of_neg hneg,
      neg_one_mul]
  · exact absurd (Nat.zero_le _) hdead
  · rw [if_neg (by omega), Int.sign_eq_one_of_pos hpos, one_mul]

/-- A phase correction fits 32 bits. -/
lemma natAbs_calculatePhaseCorrection_lt (controller : FhssSyncController) (timingErrorUs : ℤ) :
    (calculatePhaseCorrection controller timingErrorUs).natAbs < 2 ^ 32 := by
  rw [calculatePhaseCorrection_eq, natAbs_correction]
  exact (gain_le_maxStep _ _).trans_lt (UInt32.toNat_lt controller.correctionMaxStepUs)

/-- **The phase correction law** holds for every controller that was built. -/
theorem phaseCorrectionLaw_init {config : FhssSyncControllerConfig}
    {controller : FhssSyncController} (hinit : fhssSyncControllerInit config = .ok controller) :
    PhaseCorrectionLaw controller := by
  have h := gainReady_init hinit
  have hlaw := calculatePhaseCorrection_eq controller
  have hstep : 1 ≤ controller.gain.maxStep := h.maxStep_pos
  have hknee : controller.gain.deadband ≤ controller.gain.knee := h.deadband_le
  refine ⟨fun error => calculatePhaseCorrectionMachine_eq h (fitsInt64_toInt error), ?_, ?_, ?_,
    ?_, ?_, ?_⟩
  · intro error
    rw [hlaw, ← Int.natAbs_eq_zero, natAbs_correction, gain_eq_zero_iff _ hstep]
    rfl
  · intro error hbeyond
    have hone := one_le_gain controller.gain hstep hbeyond
    rw [hlaw]
    unfold correction
    have hgain : (gain controller.gain error.natAbs : ℤ).sign = 1 :=
      Int.sign_eq_one_of_pos (by exact_mod_cast hone)
    rw [Int.sign_mul, Int.sign_sign, hgain, mul_one]
  · intro error
    rw [hlaw, natAbs_correction]
    exact le_min (gain_le _ _) (gain_le_maxStep _ _)
  · intro error
    rw [hlaw, hlaw, correction_neg]
  · intro error error' hle
    rw [hlaw, hlaw]
    exact correction_mono _ hknee hle
  · intro error
    have hsucc := correction_succ _ hknee error
    rw [hlaw, hlaw]
    omega

/-- The correction of the voice service. -/
theorem phaseCorrectionLaw_sample : PhaseCorrectionLaw sampleController :=
  phaseCorrectionLaw_init fhssSyncControllerInit_sample

end FhssOtaRadio
