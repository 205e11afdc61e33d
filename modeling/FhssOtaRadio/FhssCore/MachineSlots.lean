import FhssOtaRadio.FhssCore.SlotScheduler
import FhssOtaRadio.Library.MachineInt

/-!
# Slots and slot times are inverse (`fhss_slot_scheduler.c`)

The three questions of the scheduler once more, in the machine integers of the source: every
operation and conversion is checked, so an intermediate that does not fit its type is a fault.
None faults (`fhssSlotSchedulerGetSlotMachine_eq` and its companions), so the answers are those of
the slot clock, and "the slot of a time" and "the time of a slot" are inverse to each other up to
the ends of `uint32_t` and `int64_t`.
-/

namespace FhssOtaRadio

open MachineInt SlotClock

/-! ## The scheduler in machine integers -/

/-- `fhss_slot_scheduler_get_slot`, every operation checked. -/
def fhssSlotSchedulerGetSlotMachine (scheduler : FhssSlotScheduler) (nowUs : ℤ) :
    Except Fault (Except FhssSlotStatus UInt32) :=
  match validateScheduler scheduler true with
  | some status => .ok (.error status)
  | none =>
      if nowUs < scheduler.referenceTimeUs then .ok (.error .beforeReference)
      else do
        let sinceReferenceUs ← signed (nowUs - scheduler.referenceTimeUs)
        let elapsedUs ← unsigned 64 sinceReferenceUs
        let elapsedSlots := elapsedUs / scheduler.config.slotDurationUs.toNat
        let slotsLeft ← unsigned 32 (0xFFFFFFFF - scheduler.referenceSlot.toNat)
        if slotsLeft < elapsedSlots then .ok (.error .overflow)
        else do
          let elapsedSlots ← unsigned 32 elapsedSlots
          let slot ← unsigned 32 (scheduler.referenceSlot.toNat + elapsedSlots)
          .ok (.ok (UInt32.ofNat slot.toNat))

/-- `fhss_slot_scheduler_get_slot_start_time`, every operation checked. -/
def fhssSlotSchedulerGetSlotStartTimeMachine (scheduler : FhssSlotScheduler) (slot : UInt32) :
    Except Fault (Except FhssSlotStatus ℤ) :=
  match validateScheduler scheduler true with
  | some status => .ok (.error status)
  | none =>
      if slot < scheduler.referenceSlot then .ok (.error .beforeReference)
      else do
        let slotDelta ← unsigned 32 (slot.toNat - scheduler.referenceSlot.toNat)
        let offsetUs ← unsigned 64 (slotDelta * scheduler.config.slotDurationUs.toNat)
        let timeLeftUs ← signed (int64Max - scheduler.referenceTimeUs)
        let timeLeftUs ← unsigned 64 timeLeftUs
        if timeLeftUs < offsetUs then .ok (.error .overflow)
        else do
          let offsetUs ← signed offsetUs
          let startTimeUs ← signed (scheduler.referenceTimeUs + offsetUs)
          .ok (.ok startTimeUs)

/-- `fhss_slot_scheduler_get_next_switch_time`, every operation checked. -/
def fhssSlotSchedulerGetNextSwitchTimeMachine (scheduler : FhssSlotScheduler) (nowUs : ℤ) :
    Except Fault (Except FhssSlotStatus (UInt32 × ℤ)) := do
  match ← fhssSlotSchedulerGetSlotMachine scheduler nowUs with
  | .error status => .ok (.error status)
  | .ok currentSlot =>
      if currentSlot = 0xFFFFFFFF then .ok (.error .overflow)
      else do
        let nextSlot ← unsigned 32 (currentSlot.toNat + 1)
        let nextSlot := UInt32.ofNat nextSlot.toNat
        match ← fhssSlotSchedulerGetSlotStartTimeMachine scheduler nextSlot with
        | .error status => .ok (.error status)
        | .ok nextSlotStartUs => do
            let switchTimeUs ←
              signed (nextSlotStartUs - scheduler.config.channelSwitchGuardUs.toNat)
            .ok (.ok (nextSlot, switchTimeUs))

/-! ## What the answers promise -/

/-- The number of the slot a time falls into, without the bound of `uint32_t`. -/
def FhssSlotScheduler.slotNumberAt (scheduler : FhssSlotScheduler) (nowUs : ℤ) : ℤ :=
  slotAt scheduler.duration scheduler.anchor nowUs

/-- The time a slot starts, without the bound of `int64_t`. -/
def FhssSlotScheduler.slotTime (scheduler : FhssSlotScheduler) (slot : UInt32) : ℤ :=
  slotStart scheduler.duration scheduler.anchor slot.toNat

/-- Slots and slot times of a scheduler correspond to each other, each question fails only at its
ends, and no operation on the way to an answer leaves its type. -/
structure SlotTimesInverse (scheduler : FhssSlotScheduler) : Prop where
  started : ∀ (now : Int64) slot, fhssSlotSchedulerGetSlot scheduler now.toInt = .ok slot →
    ∃ start, fhssSlotSchedulerGetSlotStartTime scheduler slot = .ok start ∧ start ≤ now.toInt
  not_over : ∀ (now : Int64) slot next nextStart,
    fhssSlotSchedulerGetSlot scheduler now.toInt = .ok slot → next.toNat = slot.toNat + 1 →
    fhssSlotSchedulerGetSlotStartTime scheduler next = .ok nextStart → now.toInt < nextStart
  slot_of_start : ∀ slot start, fhssSlotSchedulerGetSlotStartTime scheduler slot = .ok start →
    fhssSlotSchedulerGetSlot scheduler start = .ok slot
  slot_mono : ∀ (now now' : Int64) slot slot', now ≤ now' →
    fhssSlotSchedulerGetSlot scheduler now.toInt = .ok slot →
    fhssSlotSchedulerGetSlot scheduler now'.toInt = .ok slot' → slot ≤ slot'
  start_mono : ∀ slot slot' start start', slot ≤ slot' →
    fhssSlotSchedulerGetSlotStartTime scheduler slot = .ok start →
    fhssSlotSchedulerGetSlotStartTime scheduler slot' = .ok start' → start ≤ start'
  slot_fails_iff : ∀ now : Int64,
    (∃ status, fhssSlotSchedulerGetSlot scheduler now.toInt = .error status) ↔
      now.toInt < scheduler.referenceTimeUs ∨ 2 ^ 32 - 1 < scheduler.slotNumberAt now.toInt
  start_fails_iff : ∀ slot,
    (∃ status, fhssSlotSchedulerGetSlotStartTime scheduler slot = .error status) ↔
      slot < scheduler.referenceSlot ∨ int64Max < scheduler.slotTime slot
  next_switch : ∀ (now : Int64) next switchTime,
    fhssSlotSchedulerGetNextSwitchTime scheduler now.toInt = .ok (next, switchTime) →
    ∃ slot start nextStart, fhssSlotSchedulerGetSlot scheduler now.toInt = .ok slot ∧
      next.toNat = slot.toNat + 1 ∧
      fhssSlotSchedulerGetSlotStartTime scheduler slot = .ok start ∧
      fhssSlotSchedulerGetSlotStartTime scheduler next = .ok nextStart ∧
      start < switchTime ∧ switchTime ≤ nextStart
  no_overflow : ∀ (now : Int64) slot,
    fhssSlotSchedulerGetSlotMachine scheduler now.toInt =
      .ok (fhssSlotSchedulerGetSlot scheduler now.toInt) ∧
    fhssSlotSchedulerGetSlotStartTimeMachine scheduler slot =
      .ok (fhssSlotSchedulerGetSlotStartTime scheduler slot) ∧
    fhssSlotSchedulerGetNextSwitchTimeMachine scheduler now.toInt =
      .ok (fhssSlotSchedulerGetNextSwitchTime scheduler now.toInt)

/-! ## No intermediate overflows -/

section Ready

variable {scheduler : FhssSlotScheduler}

/-- Looking up a slot runs into no overflow. -/
lemma fhssSlotSchedulerGetSlotMachine_eq (h : SchedulerReady scheduler) {nowUs : ℤ}
    (hnow : FitsInt64 nowUs) :
    fhssSlotSchedulerGetSlotMachine scheduler nowUs =
      .ok (fhssSlotSchedulerGetSlot scheduler nowUs) := by
  have href := h.reference_nonneg
  have hreference : scheduler.referenceSlot.toNat < 2 ^ 32 := scheduler.referenceSlot.toNat_lt
  unfold fhssSlotSchedulerGetSlotMachine fhssSlotSchedulerGetSlot
  cases validateScheduler scheduler true with
  | some status => rfl
  | none =>
    dsimp only
    by_cases hbefore : nowUs < scheduler.referenceTimeUs
    · rw [if_pos hbefore, if_pos hbefore]
    rw [if_neg hbefore, if_neg hbefore]
    unfold FitsInt64 at hnow
    have hslots : (nowUs - scheduler.referenceTimeUs) / scheduler.config.slotDurationUs.toNat =
        ((nowUs - scheduler.referenceTimeUs).toNat / scheduler.config.slotDurationUs.toNat : ℕ) := by
      push_cast
      rw [Int.toNat_of_nonneg (by omega)]
    rw [signed_eq_ok (by unfold FitsInt64; omega), ok_bind, unsigned_eq_ok (by omega), ok_bind,
      unsigned_eq_ok (by omega), ok_bind, hslots]
    generalize (nowUs - scheduler.referenceTimeUs).toNat /
      scheduler.config.slotDurationUs.toNat = elapsedSlots
    by_cases hover : 0xFFFFFFFF - scheduler.referenceSlot.toNat < elapsedSlots
    · rw [if_pos hover, if_pos (by omega)]
    rw [if_neg hover, if_neg (by omega), unsigned_eq_ok (by omega), ok_bind,
      unsigned_eq_ok (by omega), ok_bind]
    congr 2
    rw [← UInt32.toNat_inj, UInt32.toNat_add, UInt32.toNat_ofNat', UInt32.toNat_ofNat']
    omega

/-- Looking up a start runs into no overflow: the product of two 32-bit numbers fits 64 bits. -/
lemma fhssSlotSchedulerGetSlotStartTimeMachine_eq (h : SchedulerReady scheduler)
    (href : scheduler.referenceTimeUs ≤ int64Max) (slot : UInt32) :
    fhssSlotSchedulerGetSlotStartTimeMachine scheduler slot =
      .ok (fhssSlotSchedulerGetSlotStartTime scheduler slot) := by
  have hnonneg := h.reference_nonneg
  have hslot : slot.toNat < 2 ^ 32 := slot.toNat_lt
  have hduration : scheduler.config.slotDurationUs.toNat < 2 ^ 32 := UInt32.toNat_lt _
  unfold fhssSlotSchedulerGetSlotStartTimeMachine fhssSlotSchedulerGetSlotStartTime
  cases validateScheduler scheduler true with
  | some status => rfl
  | none =>
    dsimp only
    by_cases hbefore : slot < scheduler.referenceSlot
    · rw [if_pos hbefore, if_pos hbefore]
    rw [if_neg hbefore, if_neg hbefore]
    have hle := UInt32.not_lt.mp hbefore
    have hleNat := UInt32.le_iff_toNat_le.mp hle
    have hdelta : ((slot - scheduler.referenceSlot).toNat : ℤ) =
        slot.toNat - scheduler.referenceSlot.toNat := by
      rw [UInt32.toNat_sub_of_le _ _ hle]
      omega
    have hdeltaLt : (slot - scheduler.referenceSlot).toNat < 2 ^ 32 := UInt32.toNat_lt _
    have hproduct : 0 ≤ ((slot - scheduler.referenceSlot).toNat *
          scheduler.config.slotDurationUs.toNat : ℤ) ∧
        ((slot - scheduler.referenceSlot).toNat * scheduler.config.slotDurationUs.toNat : ℤ) <
          2 ^ 64 := by
      have hlt := Nat.mul_lt_mul'' hdeltaLt hduration
      exact ⟨mul_nonneg (Int.natCast_nonneg _) (Int.natCast_nonneg _), by exact_mod_cast hlt⟩
    rw [unsigned_eq_ok (by omega), ok_bind, ← hdelta]
    generalize ((slot - scheduler.referenceSlot).toNat *
      scheduler.config.slotDurationUs.toNat : ℤ) = offsetUs at hproduct ⊢
    unfold int64Max at href ⊢
    rw [unsigned_eq_ok (by omega), ok_bind, signed_eq_ok (by unfold FitsInt64; omega), ok_bind,
      unsigned_eq_ok (by omega), ok_bind]
    by_cases hover : 0x7FFFFFFFFFFFFFFF - scheduler.referenceTimeUs < offsetUs
    · rw [if_pos hover, if_pos hover]
    rw [if_neg hover, if_neg hover, signed_eq_ok (by unfold FitsInt64; omega), ok_bind,
      signed_eq_ok (by unfold FitsInt64; omega), ok_bind]

/-- What the next switch is computed from: the current slot and the start of the one after it. -/
lemma fhssSlotSchedulerGetNextSwitchTime_eq (scheduler : FhssSlotScheduler) (nowUs : ℤ) :
    fhssSlotSchedulerGetNextSwitchTime scheduler nowUs =
      match fhssSlotSchedulerGetSlot scheduler nowUs with
      | .error status => .error status
      | .ok currentSlot =>
          if currentSlot = 0xFFFFFFFF then .error .overflow
          else
            match fhssSlotSchedulerGetSlotStartTime scheduler (currentSlot + 1) with
            | .error status => .error status
            | .ok nextSlotStartUs =>
                .ok (currentSlot + 1,
                  nextSlotStartUs - scheduler.config.channelSwitchGuardUs.toNat) := by
  unfold fhssSlotSchedulerGetNextSwitchTime
  cases fhssSlotSchedulerGetSlot scheduler nowUs with
  | error status => rfl
  | ok currentSlot =>
    dsimp only
    split_ifs with hlast
    · change (if currentSlot = 0xFFFFFFFF then _ else _) = _
      rw [if_pos hlast]
    · change (if currentSlot = 0xFFFFFFFF then _ else _) = _
      rw [if_neg hlast]
      cases fhssSlotSchedulerGetSlotStartTime scheduler (currentSlot + 1) <;> rfl

/-- Looking up the next switch runs into no overflow. -/
lemma fhssSlotSchedulerGetNextSwitchTimeMachine_eq (h : SchedulerReady scheduler)
    (hsync : scheduler.synchronized = true) (href : scheduler.referenceTimeUs ≤ int64Max)
    {nowUs : ℤ} (hnow : FitsInt64 nowUs) :
    fhssSlotSchedulerGetNextSwitchTimeMachine scheduler nowUs =
      .ok (fhssSlotSchedulerGetNextSwitchTime scheduler nowUs) := by
  rw [fhssSlotSchedulerGetNextSwitchTime_eq]
  unfold fhssSlotSchedulerGetNextSwitchTimeMachine
  rw [fhssSlotSchedulerGetSlotMachine_eq h hnow, ok_bind]
  cases fhssSlotSchedulerGetSlot scheduler nowUs with
  | error status => rfl
  | ok currentSlot =>
    dsimp only
    by_cases hlast : currentSlot = 0xFFFFFFFF
    · rw [if_pos hlast, if_pos hlast]
    obtain ⟨hsucc, hofNat⟩ := toNat_succ_slot hlast
    have hlt : (currentSlot + 1).toNat < 2 ^ 32 := UInt32.toNat_lt _
    rw [if_neg hlast, if_neg hlast, unsigned_eq_ok (by omega), ok_bind,
      show ((currentSlot.toNat : ℤ) + 1).toNat = currentSlot.toNat + 1 by omega, hofNat,
      fhssSlotSchedulerGetSlotStartTimeMachine_eq h href, ok_bind]
    cases hstart : fhssSlotSchedulerGetSlotStartTime scheduler (currentSlot + 1) with
    | error status => rfl
    | ok nextSlotStartUs =>
      obtain ⟨hle, heq, hmax⟩ :=
        (getSlotStartTime_eq_ok_iff h hsync (currentSlot + 1) nextSlotStartUs).mp hstart
      have hstartLe := referenceTimeUs_le_slotStart h
        (show (scheduler.referenceSlot.toNat : ℤ) ≤ (currentSlot + 1).toNat by exact_mod_cast hle)
      have hnonneg := h.reference_nonneg
      have hguard : scheduler.config.channelSwitchGuardUs.toNat < 2 ^ 32 := UInt32.toNat_lt _
      dsimp only
      unfold int64Max at hmax
      rw [signed_eq_ok (by unfold FitsInt64; omega), ok_bind]

/-! ## Slots and slot times -/

/-- The slot of a time is numbered from the reference slot on. -/
lemma referenceSlot_le_slotNumberAt (h : SchedulerReady scheduler) {nowUs : ℤ}
    (hnow : scheduler.referenceTimeUs ≤ nowUs) :
    (scheduler.referenceSlot.toNat : ℤ) ≤ scheduler.slotNumberAt nowUs := by
  have hnonneg : 0 ≤ (nowUs - scheduler.referenceTimeUs) / scheduler.duration :=
    Int.ediv_nonneg (by omega) h.duration_pos.le
  unfold FhssSlotScheduler.slotNumberAt slotAt FhssSlotScheduler.anchor
  dsimp only
  omega

/-- The slot of a time has started by then. -/
lemma getSlotStartTime_of_getSlot (h : SchedulerReady scheduler)
    (hsync : scheduler.synchronized = true) {nowUs : ℤ} (hmax : nowUs ≤ int64Max) {slot : UInt32}
    (hslot : fhssSlotSchedulerGetSlot scheduler nowUs = .ok slot) :
    fhssSlotSchedulerGetSlotStartTime scheduler slot = .ok (scheduler.slotTime slot) ∧
      scheduler.slotTime slot ≤ nowUs := by
  obtain ⟨hnow, hnumber⟩ := (getSlot_eq_ok_iff h hsync nowUs slot).mp hslot
  have hreference := referenceSlot_le_slotNumberAt h hnow
  have hstart : scheduler.slotTime slot ≤ nowUs :=
    (slotStart_le_iff h.duration_pos _ _).mpr hnumber.le
  unfold FhssSlotScheduler.slotNumberAt at hreference
  exact ⟨(getSlotStartTime_eq_ok_iff h hsync slot _).mpr ⟨by omega, rfl, hstart.trans hmax⟩,
    hstart⟩

/-- A time lies before the start of the slot after its own. -/
lemma lt_of_getSlotStartTime_succ (h : SchedulerReady scheduler)
    (hsync : scheduler.synchronized = true) {nowUs nextStart : ℤ} {slot next : UInt32}
    (hslot : fhssSlotSchedulerGetSlot scheduler nowUs = .ok slot)
    (hnext : next.toNat = slot.toNat + 1)
    (hstart : fhssSlotSchedulerGetSlotStartTime scheduler next = .ok nextStart) :
    nowUs < nextStart := by
  obtain ⟨-, hnumber⟩ := (getSlot_eq_ok_iff h hsync nowUs slot).mp hslot
  obtain ⟨-, rfl, -⟩ := (getSlotStartTime_eq_ok_iff h hsync next nextStart).mp hstart
  have hiff := @slotStart_le_iff scheduler.duration scheduler.anchor h.duration_pos next.toNat nowUs
  by_contra hle
  have := hiff.mp (not_lt.mp hle)
  omega

/-- A start is a time of `int64_t` that is not negative. -/
lemma getSlotStartTime_bounds (h : SchedulerReady scheduler)
    (hsync : scheduler.synchronized = true) {slot : UInt32} {start : ℤ}
    (hstart : fhssSlotSchedulerGetSlotStartTime scheduler slot = .ok start) :
    0 ≤ start ∧ start ≤ int64Max := by
  obtain ⟨hle, rfl, hmax⟩ := (getSlotStartTime_eq_ok_iff h hsync slot start).mp hstart
  exact ⟨h.reference_nonneg.trans (referenceTimeUs_le_slotStart h (by exact_mod_cast hle)), hmax⟩

/-- The start of a slot falls into the slot. -/
lemma getSlot_of_getSlotStartTime (h : SchedulerReady scheduler)
    (hsync : scheduler.synchronized = true) {slot : UInt32} {start : ℤ}
    (hstart : fhssSlotSchedulerGetSlotStartTime scheduler slot = .ok start) :
    fhssSlotSchedulerGetSlot scheduler start = .ok slot := by
  obtain ⟨hle, rfl, -⟩ := (getSlotStartTime_eq_ok_iff h hsync slot start).mp hstart
  refine (getSlot_eq_ok_iff h hsync _ slot).mpr
    ⟨referenceTimeUs_le_slotStart h (by exact_mod_cast hle), ?_⟩
  rw [slotAt_slotStart h.duration_pos]

/-- A later time does not fall into an earlier slot. -/
lemma getSlot_mono (h : SchedulerReady scheduler) (hsync : scheduler.synchronized = true)
    {nowUs nowUs' : ℤ} (hle : nowUs ≤ nowUs') {slot slot' : UInt32}
    (hslot : fhssSlotSchedulerGetSlot scheduler nowUs = .ok slot)
    (hslot' : fhssSlotSchedulerGetSlot scheduler nowUs' = .ok slot') : slot ≤ slot' := by
  obtain ⟨-, hnumber⟩ := (getSlot_eq_ok_iff h hsync nowUs slot).mp hslot
  obtain ⟨-, hnumber'⟩ := (getSlot_eq_ok_iff h hsync nowUs' slot').mp hslot'
  have hmono := slotAt_mono h.duration_pos scheduler.anchor hle
  rw [UInt32.le_iff_toNat_le]
  omega

/-- A later slot does not start earlier. -/
lemma getSlotStartTime_mono (h : SchedulerReady scheduler) (hsync : scheduler.synchronized = true)
    {slot slot' : UInt32} (hle : slot ≤ slot') {start start' : ℤ}
    (hstart : fhssSlotSchedulerGetSlotStartTime scheduler slot = .ok start)
    (hstart' : fhssSlotSchedulerGetSlotStartTime scheduler slot' = .ok start') :
    start ≤ start' := by
  obtain ⟨-, rfl, -⟩ := (getSlotStartTime_eq_ok_iff h hsync slot start).mp hstart
  obtain ⟨-, rfl, -⟩ := (getSlotStartTime_eq_ok_iff h hsync slot' start').mp hstart'
  rw [UInt32.le_iff_toNat_le] at hle
  exact slotStart_mono h.duration_pos scheduler.anchor (by exact_mod_cast hle)

/-- A time has no slot exactly when it lies before the reference or its slot number exceeds
`UINT32_MAX`. -/
lemma getSlot_error_iff (h : SchedulerReady scheduler) (hsync : scheduler.synchronized = true)
    (nowUs : ℤ) :
    (∃ status, fhssSlotSchedulerGetSlot scheduler nowUs = .error status) ↔
      nowUs < scheduler.referenceTimeUs ∨ 2 ^ 32 - 1 < scheduler.slotNumberAt nowUs := by
  cases hslot : fhssSlotSchedulerGetSlot scheduler nowUs with
  | ok slot =>
    obtain ⟨hnow, hnumber⟩ := (getSlot_eq_ok_iff h hsync nowUs slot).mp hslot
    have hlt : slot.toNat < 2 ^ 32 := slot.toNat_lt
    unfold FhssSlotScheduler.slotNumberAt
    refine ⟨fun ⟨_, herror⟩ => (by cases herror), fun hfails => ?_⟩
    omega
  | error status =>
    refine ⟨fun _ => ?_, fun _ => ⟨status, rfl⟩⟩
    by_contra hfits
    rw [not_or, not_lt, not_lt] at hfits
    have hreference := referenceSlot_le_slotNumberAt h hfits.1
    have hok := (getSlot_eq_ok_iff h hsync nowUs
      (UInt32.ofNat (scheduler.slotNumberAt nowUs).toNat)).mpr ⟨hfits.1, by
        rw [UInt32.toNat_ofNat']
        unfold FhssSlotScheduler.slotNumberAt at hreference hfits ⊢
        omega⟩
    rw [hok] at hslot
    cases hslot

/-- A slot has no start exactly when it lies before the reference slot or its start exceeds
`INT64_MAX`. -/
lemma getSlotStartTime_error_iff (h : SchedulerReady scheduler)
    (hsync : scheduler.synchronized = true) (slot : UInt32) :
    (∃ status, fhssSlotSchedulerGetSlotStartTime scheduler slot = .error status) ↔
      slot < scheduler.referenceSlot ∨ int64Max < scheduler.slotTime slot := by
  have hiff := getSlotStartTime_eq_ok_iff h hsync slot
  rw [UInt32.lt_iff_toNat_lt]
  cases hstart : fhssSlotSchedulerGetSlotStartTime scheduler slot with
  | ok start =>
    obtain ⟨hle, rfl, hmax⟩ := (hiff start).mp hstart
    unfold FhssSlotScheduler.slotTime
    refine ⟨fun ⟨_, herror⟩ => (by cases herror), fun hfails => ?_⟩
    omega
  | error status =>
    refine ⟨fun _ => ?_, fun _ => ⟨status, rfl⟩⟩
    by_contra hfits
    rw [not_or, not_lt, not_lt] at hfits
    rw [(hiff _).mpr ⟨hfits.1, rfl, hfits.2⟩] at hstart
    cases hstart

/-- The next switch is due in the current slot, at the latest when the next one starts. -/
lemma getNextSwitchTime_between (h : SchedulerReady scheduler)
    (hsync : scheduler.synchronized = true)
    (hguard : scheduler.config.channelSwitchGuardUs < scheduler.config.slotDurationUs)
    {nowUs : ℤ} (hmax : nowUs ≤ int64Max) {next : UInt32} {switchTime : ℤ}
    (hnext : fhssSlotSchedulerGetNextSwitchTime scheduler nowUs = .ok (next, switchTime)) :
    ∃ slot start nextStart, fhssSlotSchedulerGetSlot scheduler nowUs = .ok slot ∧
      next.toNat = slot.toNat + 1 ∧
      fhssSlotSchedulerGetSlotStartTime scheduler slot = .ok start ∧
      fhssSlotSchedulerGetSlotStartTime scheduler next = .ok nextStart ∧
      start < switchTime ∧ switchTime ≤ nextStart := by
  rw [fhssSlotSchedulerGetNextSwitchTime_eq] at hnext
  cases hslot : fhssSlotSchedulerGetSlot scheduler nowUs with
  | error status =>
    rw [hslot] at hnext
    cases hnext
  | ok slot =>
    rw [hslot] at hnext
    dsimp only at hnext
    split_ifs at hnext with hlast
    cases hnextStart : fhssSlotSchedulerGetSlotStartTime scheduler (slot + 1) with
    | error status =>
      rw [hnextStart] at hnext
      cases hnext
    | ok nextStart =>
      rw [hnextStart] at hnext
      obtain ⟨rfl, rfl⟩ := Prod.mk.inj (Except.ok.inj hnext)
      obtain ⟨hsucc, -⟩ := toNat_succ_slot hlast
      obtain ⟨hstart, -⟩ := getSlotStartTime_of_getSlot h hsync hmax hslot
      obtain ⟨-, heq, -⟩ := (getSlotStartTime_eq_ok_iff h hsync _ _).mp hnextStart
      refine ⟨slot, _, nextStart, rfl, hsucc, hstart, hnextStart, ?_, by omega⟩
      have hslotTime : nextStart = scheduler.slotTime slot + scheduler.duration := by
        rw [heq, hsucc]
        unfold FhssSlotScheduler.slotTime slotStart
        push_cast
        ring
      have hguardLt : (scheduler.config.channelSwitchGuardUs.toNat : ℤ) < scheduler.duration := by
        unfold FhssSlotScheduler.duration
        exact_mod_cast UInt32.lt_iff_toNat_lt.mp hguard
      linarith

end Ready

/-- A scheduler that was built and given a reference keeps its configuration. -/
lemma schedulerReady_setReference {config : FhssSlotSchedulerConfig}
    {fresh scheduler : FhssSlotScheduler} {slot : UInt32} {time : ℤ}
    (hinit : fhssSlotSchedulerInit config = .ok fresh)
    (hset : fhssSlotSchedulerSetReference fresh slot time = .ok scheduler) :
    SchedulerReady scheduler ∧ scheduler.synchronized = true ∧ scheduler.referenceTimeUs = time ∧
      scheduler.config.channelSwitchGuardUs < scheduler.config.slotDurationUs := by
  obtain ⟨hready, -⟩ := schedulerReady_init hinit
  unfold fhssSlotSchedulerInit at hinit
  split_ifs at hinit with hconfig
  rw [not_or, UInt32.not_le] at hconfig
  obtain rfl := Except.ok.inj hinit
  rcases setReference_cases hready slot time with ⟨-, herror⟩ | ⟨-, hok, hready'⟩
  · rw [herror] at hset
    cases hset
  · rw [hok] at hset
    obtain rfl := Except.ok.inj hset
    exact ⟨hready', rfl, rfl, hconfig.2⟩

/-- **Slots and slot times are inverse to each other**, for every scheduler that was built from an
accepted configuration and given a reference. -/
theorem slotTimesInverse_of_setReference {config : FhssSlotSchedulerConfig}
    {fresh scheduler : FhssSlotScheduler} {slot : UInt32} {time : Int64}
    (hinit : fhssSlotSchedulerInit config = .ok fresh)
    (hset : fhssSlotSchedulerSetReference fresh slot time.toInt = .ok scheduler) :
    SlotTimesInverse scheduler := by
  obtain ⟨h, hsync, hreference, hguard⟩ := schedulerReady_setReference hinit hset
  have hfits : ∀ now : Int64, now.toInt ≤ int64Max := fun now => (fitsInt64_toInt now).2
  have href : scheduler.referenceTimeUs ≤ int64Max := hreference ▸ hfits time
  exact
    { started := fun now _ hslot => ⟨_, getSlotStartTime_of_getSlot h hsync (hfits now) hslot⟩
      not_over := fun _ _ _ _ hslot hnext hstart =>
        lt_of_getSlotStartTime_succ h hsync hslot hnext hstart
      slot_of_start := fun _ _ hstart => getSlot_of_getSlotStartTime h hsync hstart
      slot_mono := fun _ _ _ _ hle hslot hslot' =>
        getSlot_mono h hsync (Int64.le_iff_toInt_le.mp hle) hslot hslot'
      start_mono := fun _ _ _ _ hle hstart hstart' =>
        getSlotStartTime_mono h hsync hle hstart hstart'
      slot_fails_iff := fun now => getSlot_error_iff h hsync now.toInt
      start_fails_iff := getSlotStartTime_error_iff h hsync
      next_switch := fun now _ _ hnext => getNextSwitchTime_between h hsync hguard (hfits now) hnext
      no_overflow := fun now slot =>
        ⟨fhssSlotSchedulerGetSlotMachine_eq h (fitsInt64_toInt now),
          fhssSlotSchedulerGetSlotStartTimeMachine_eq h href slot,
          fhssSlotSchedulerGetNextSwitchTimeMachine_eq h hsync href (fitsInt64_toInt now)⟩ }

/-- A slot of 100 ms with a guard of 5 ms, first slot 7 at 1 s. -/
theorem slotTimesInverse_hundredMs :
    SlotTimesInverse ⟨⟨100000, 5000⟩, 7, 1000000, true, true⟩ :=
  @slotTimesInverse_of_setReference ⟨100000, 5000⟩ ⟨⟨100000, 5000⟩, 0, 0, true, false⟩ _ 7 1000000
    (by decide) (by decide)

end FhssOtaRadio
