import FhssOtaRadio.Library.SlotClock

/-!
# The slot scheduler (`fhss_slot_scheduler.c`)

The scheduler is a slot clock in machine integers: slots are `uint32_t`, times are `int64_t`
microseconds, and every result that does not fit is an error.  The last section says that where
it answers it answers as the slot clock anchored at its reference.
-/

namespace FhssOtaRadio

/-- `INT64_MAX`. -/
def int64Max : ℤ := 0x7FFFFFFFFFFFFFFF

/-- `fhss_slot_status_t` without `OK`. -/
inductive FhssSlotStatus where
  | invalidArg
  | invalidConfig
  | notInitialized
  | notSynchronized
  | beforeReference
  | overflow
  deriving DecidableEq, Repr

/-- `fhss_slot_scheduler_config_t`. -/
structure FhssSlotSchedulerConfig where
  slotDurationUs : UInt32
  channelSwitchGuardUs : UInt32
  deriving DecidableEq

/-- `fhss_slot_scheduler_t`. -/
structure FhssSlotScheduler where
  config : FhssSlotSchedulerConfig
  referenceSlot : UInt32
  referenceTimeUs : ℤ
  initialized : Bool
  synchronized : Bool
  deriving DecidableEq

/-- A scheduler of zero bytes. -/
def FhssSlotScheduler.zero : FhssSlotScheduler := ⟨⟨0, 0⟩, 0, 0, false, false⟩

/-- `validate_scheduler`: the error, if there is one. -/
def validateScheduler (scheduler : FhssSlotScheduler) (requireSync : Bool) :
    Option FhssSlotStatus :=
  if scheduler.initialized = false then some .notInitialized
  else if requireSync = true ∧ scheduler.synchronized = false then some .notSynchronized
  else none

/-- `fhss_slot_scheduler_init`. -/
def fhssSlotSchedulerInit (config : FhssSlotSchedulerConfig) :
    Except FhssSlotStatus FhssSlotScheduler :=
  if config.slotDurationUs = 0 ∨ config.slotDurationUs ≤ config.channelSwitchGuardUs then
    .error .invalidConfig
  else .ok ⟨config, 0, 0, true, false⟩

/-- `fhss_slot_scheduler_set_reference`. -/
def fhssSlotSchedulerSetReference (scheduler : FhssSlotScheduler) (referenceSlot : UInt32)
    (referenceTimeUs : ℤ) : Except FhssSlotStatus FhssSlotScheduler :=
  match validateScheduler scheduler false with
  | some status => .error status
  | none =>
      if referenceTimeUs < 0 then .error .invalidArg
      else
        .ok { scheduler with
          referenceSlot := referenceSlot
          referenceTimeUs := referenceTimeUs
          synchronized := true }

/-- `fhss_slot_scheduler_clear_reference`. -/
def fhssSlotSchedulerClearReference (scheduler : FhssSlotScheduler) :
    Except FhssSlotStatus FhssSlotScheduler :=
  match validateScheduler scheduler false with
  | some status => .error status
  | none => .ok { scheduler with referenceSlot := 0, referenceTimeUs := 0, synchronized := false }

/-- `fhss_slot_scheduler_get_slot`. -/
def fhssSlotSchedulerGetSlot (scheduler : FhssSlotScheduler) (nowUs : ℤ) :
    Except FhssSlotStatus UInt32 :=
  match validateScheduler scheduler true with
  | some status => .error status
  | none =>
      if nowUs < scheduler.referenceTimeUs then .error .beforeReference
      else
        let elapsedSlots :=
          (nowUs - scheduler.referenceTimeUs).toNat / scheduler.config.slotDurationUs.toNat
        if 0xFFFFFFFF - scheduler.referenceSlot.toNat < elapsedSlots then .error .overflow
        else .ok (scheduler.referenceSlot + UInt32.ofNat elapsedSlots)

/-- `fhss_slot_scheduler_get_slot_start_time`. -/
def fhssSlotSchedulerGetSlotStartTime (scheduler : FhssSlotScheduler) (slot : UInt32) :
    Except FhssSlotStatus ℤ :=
  match validateScheduler scheduler true with
  | some status => .error status
  | none =>
      if slot < scheduler.referenceSlot then .error .beforeReference
      else
        let offsetUs : ℤ :=
          (slot - scheduler.referenceSlot).toNat * scheduler.config.slotDurationUs.toNat
        if int64Max - scheduler.referenceTimeUs < offsetUs then .error .overflow
        else .ok (scheduler.referenceTimeUs + offsetUs)

/-- `fhss_slot_scheduler_get_next_switch_time`: `*out_next_slot` and `*out_switch_time_us`. -/
def fhssSlotSchedulerGetNextSwitchTime (scheduler : FhssSlotScheduler) (nowUs : ℤ) :
    Except FhssSlotStatus (UInt32 × ℤ) := do
  let currentSlot ← fhssSlotSchedulerGetSlot scheduler nowUs
  if currentSlot = 0xFFFFFFFF then .error .overflow
  else
    let nextSlot := currentSlot + 1
    let nextSlotStartUs ← fhssSlotSchedulerGetSlotStartTime scheduler nextSlot
    .ok (nextSlot, nextSlotStartUs - scheduler.config.channelSwitchGuardUs.toNat)

/-! ## The scheduler as a slot clock -/

open SlotClock

/-- The anchor of a scheduler: its reference. -/
def FhssSlotScheduler.anchor (scheduler : FhssSlotScheduler) : Anchor :=
  ⟨scheduler.referenceSlot.toNat, scheduler.referenceTimeUs⟩

/-- The slot duration of a scheduler. -/
def FhssSlotScheduler.duration (scheduler : FhssSlotScheduler) : ℤ :=
  scheduler.config.slotDurationUs.toNat

/-- A scheduler that can answer: initialized with a positive duration, and with a reference that
is no negative time when it has one. -/
structure SchedulerReady (scheduler : FhssSlotScheduler) : Prop where
  initialized : scheduler.initialized = true
  duration_pos : 0 < scheduler.duration
  reference_nonneg : 0 ≤ scheduler.referenceTimeUs

section Ready

variable {scheduler : FhssSlotScheduler}

/-- A scheduler that was built is ready, and not synchronized. -/
lemma schedulerReady_init {config : FhssSlotSchedulerConfig}
    (h : fhssSlotSchedulerInit config = .ok scheduler) :
    SchedulerReady scheduler ∧ scheduler.synchronized = false := by
  unfold fhssSlotSchedulerInit at h
  split_ifs at h with hconfig
  obtain rfl := Except.ok.inj h
  refine ⟨⟨rfl, ?_, le_refl _⟩, rfl⟩
  have hne : config.slotDurationUs.toNat ≠ 0 := fun h0 =>
    hconfig (.inl (UInt32.toNat_inj.mp h0))
  unfold FhssSlotScheduler.duration
  dsimp only
  omega

/-- Setting the reference of a ready scheduler works for every time that is not negative. -/
lemma setReference_cases (h : SchedulerReady scheduler) (slot : UInt32) (time : ℤ) :
    (time < 0 ∧ fhssSlotSchedulerSetReference scheduler slot time = .error .invalidArg) ∨
    (0 ≤ time ∧ fhssSlotSchedulerSetReference scheduler slot time =
        .ok { scheduler with
          referenceSlot := slot, referenceTimeUs := time, synchronized := true } ∧
      SchedulerReady { scheduler with
        referenceSlot := slot, referenceTimeUs := time, synchronized := true }) := by
  unfold fhssSlotSchedulerSetReference validateScheduler
  rw [if_neg (by simp [h.initialized])]
  by_cases htime : time < 0
  · exact .inl ⟨htime, by simp [htime]⟩
  · exact .inr ⟨not_lt.mp htime, by simp [htime],
      ⟨h.initialized, h.duration_pos, not_lt.mp htime⟩⟩

/-- Clearing the reference of a ready scheduler always works. -/
lemma clearReference_eq (h : SchedulerReady scheduler) :
    fhssSlotSchedulerClearReference scheduler =
        .ok { scheduler with
          referenceSlot := 0, referenceTimeUs := 0, synchronized := false } ∧
      SchedulerReady { scheduler with
        referenceSlot := 0, referenceTimeUs := 0, synchronized := false } := by
  unfold fhssSlotSchedulerClearReference validateScheduler
  rw [if_neg (by simp [h.initialized])]
  exact ⟨by simp, ⟨h.initialized, h.duration_pos, le_refl _⟩⟩

/-- A start time the scheduler returns is the one of its slot clock; it is a valid time of a
slot that does not lie before the reference. -/
lemma getSlotStartTime_eq_ok_iff (h : SchedulerReady scheduler)
    (hsync : scheduler.synchronized = true) (slot : UInt32) (start : ℤ) :
    fhssSlotSchedulerGetSlotStartTime scheduler slot = .ok start ↔
      scheduler.referenceSlot.toNat ≤ slot.toNat ∧
        start = slotStart scheduler.duration scheduler.anchor slot.toNat ∧ start ≤ int64Max := by
  unfold fhssSlotSchedulerGetSlotStartTime validateScheduler
  rw [if_neg (by simp [h.initialized]), if_neg (by simp [hsync])]
  dsimp only
  by_cases hslot : slot < scheduler.referenceSlot
  · rw [if_pos hslot]
    rw [UInt32.lt_iff_toNat_lt] at hslot
    exact ⟨fun hok => (by cases hok), fun hok => by omega⟩
  · rw [if_neg hslot]
    have hle : scheduler.referenceSlot ≤ slot := UInt32.not_lt.mp hslot
    have hleNat := UInt32.le_iff_toNat_le.mp hle
    have hstart : scheduler.referenceTimeUs + ((slot - scheduler.referenceSlot).toNat *
        scheduler.config.slotDurationUs.toNat : ℤ) =
        slotStart scheduler.duration scheduler.anchor slot.toNat := by
      unfold slotStart FhssSlotScheduler.anchor FhssSlotScheduler.duration
      rw [UInt32.toNat_sub_of_le _ _ hle]
      push_cast [hleNat]
      ring
    rw [← hstart]
    split_ifs with hoverflow
    · refine ⟨fun hok => (by cases hok), fun hok => ?_⟩
      obtain ⟨-, rfl, hmax⟩ := hok
      linarith
    · refine ⟨fun hok => ?_, fun hok => ?_⟩
      · obtain rfl := Except.ok.inj hok
        exact ⟨hleNat, rfl, by linarith⟩
      · rw [hok.2.1]

/-- The slot the scheduler returns is the one of its slot clock, if that is not before the
reference and fits 32 bits. -/
lemma getSlot_eq_ok_iff (h : SchedulerReady scheduler) (hsync : scheduler.synchronized = true)
    (nowUs : ℤ) (slot : UInt32) :
    fhssSlotSchedulerGetSlot scheduler nowUs = .ok slot ↔
      scheduler.referenceTimeUs ≤ nowUs ∧
        (slot.toNat : ℤ) = slotAt scheduler.duration scheduler.anchor nowUs := by
  have hslots : scheduler.referenceTimeUs ≤ nowUs →
      ((nowUs - scheduler.referenceTimeUs).toNat /
        scheduler.config.slotDurationUs.toNat : ℕ) =
      (nowUs - scheduler.referenceTimeUs) / scheduler.duration := by
    intro hnow
    unfold FhssSlotScheduler.duration
    push_cast
    rw [Int.toNat_of_nonneg (by omega)]
  unfold fhssSlotSchedulerGetSlot validateScheduler slotAt FhssSlotScheduler.anchor
  rw [if_neg (by simp [h.initialized]), if_neg (by simp [hsync])]
  dsimp only
  by_cases hnow : nowUs < scheduler.referenceTimeUs
  · rw [if_pos hnow]
    exact ⟨fun hok => (by cases hok), fun hok => by omega⟩
  rw [if_neg hnow]
  have hslots := hslots (not_lt.mp hnow)
  rw [← hslots]
  generalize (nowUs - scheduler.referenceTimeUs).toNat /
    scheduler.config.slotDurationUs.toNat = elapsedSlots
  have hreference : scheduler.referenceSlot.toNat < 2 ^ 32 := scheduler.referenceSlot.toNat_lt
  have hslot : slot.toNat < 2 ^ 32 := slot.toNat_lt
  split_ifs with hoverflow
  · exact ⟨fun hok => (by cases hok), fun hok => by omega⟩
  · have hsum : (scheduler.referenceSlot + UInt32.ofNat elapsedSlots).toNat =
        scheduler.referenceSlot.toNat + elapsedSlots := by
      rw [UInt32.toNat_add, UInt32.toNat_ofNat']
      omega
    refine ⟨fun hok => ?_, fun hok => ?_⟩
    · obtain rfl := Except.ok.inj hok
      exact ⟨not_lt.mp hnow, by omega⟩
    · refine congrArg _ (UInt32.toNat_inj.mp ?_)
      omega

/-- The slot after one that is not the last. -/
lemma toNat_succ_slot {slot : UInt32} (hlast : slot ≠ 0xFFFFFFFF) :
    (slot + 1).toNat = slot.toNat + 1 ∧ UInt32.ofNat (slot.toNat + 1) = slot + 1 := by
  have hlt : slot.toNat < 2 ^ 32 := slot.toNat_lt
  have hne : slot.toNat ≠ 0xFFFFFFFF := fun h0 => hlast (UInt32.toNat_inj.mp h0)
  have hsucc : (slot + 1).toNat = slot.toNat + 1 := by
    rw [UInt32.toNat_add, show (1 : UInt32).toNat = 1 from rfl]
    omega
  exact ⟨hsucc, UInt32.toNat_inj.mp (by rw [UInt32.toNat_ofNat', hsucc]; omega)⟩

/-- The next slot the scheduler returns is the one after the current slot of its slot clock; it
is returned when the reference lies behind, the slot fits 32 bits and its start fits 64 bits. -/
lemma getNextSwitchTime_eq_ok_iff (h : SchedulerReady scheduler)
    (hsync : scheduler.synchronized = true) (nowUs : ℤ) (nextSlot : UInt32) :
    (∃ switchTimeUs, fhssSlotSchedulerGetNextSwitchTime scheduler nowUs =
        .ok (nextSlot, switchTimeUs)) ↔
      scheduler.referenceTimeUs ≤ nowUs ∧
        (nextSlot.toNat : ℤ) = slotAt scheduler.duration scheduler.anchor nowUs + 1 ∧
        slotStart scheduler.duration scheduler.anchor nextSlot.toNat ≤ int64Max := by
  have hnext : nextSlot.toNat < 2 ^ 32 := nextSlot.toNat_lt
  unfold fhssSlotSchedulerGetNextSwitchTime
  cases hslot : fhssSlotSchedulerGetSlot scheduler nowUs with
  | error status =>
    refine ⟨fun hok => ?_, fun hok => ?_⟩
    · obtain ⟨_, hok⟩ := hok
      cases hok
    · obtain ⟨hnow, heq, -⟩ := hok
      have hnonneg : 0 ≤ (nowUs - scheduler.referenceTimeUs) / scheduler.duration :=
        Int.ediv_nonneg (by omega) h.duration_pos.le
      have hcurrent : fhssSlotSchedulerGetSlot scheduler nowUs =
          .ok (UInt32.ofNat (nextSlot.toNat - 1)) := by
        refine (getSlot_eq_ok_iff h hsync nowUs _).mpr ⟨hnow, ?_⟩
        rw [UInt32.toNat_ofNat']
        unfold slotAt FhssSlotScheduler.anchor at heq ⊢
        dsimp only at heq ⊢
        omega
      rw [hcurrent] at hslot
      cases hslot
  | ok currentSlot =>
    obtain ⟨hnow, heq⟩ := (getSlot_eq_ok_iff h hsync nowUs currentSlot).mp hslot
    have hcurrent : currentSlot.toNat < 2 ^ 32 := currentSlot.toNat_lt
    have hreference : scheduler.referenceSlot.toNat ≤ currentSlot.toNat := by
      have hnonneg : 0 ≤ (nowUs - scheduler.referenceTimeUs) / scheduler.duration :=
        Int.ediv_nonneg (by omega) h.duration_pos.le
      unfold slotAt FhssSlotScheduler.anchor at heq
      dsimp only at heq
      omega
    change (∃ switchTimeUs, (if currentSlot = 0xFFFFFFFF then _ else _) = _) ↔ _
    rw [← heq]
    by_cases hmax : currentSlot = 0xFFFFFFFF
    · rw [if_pos hmax]
      refine ⟨fun ⟨_, hok⟩ => (by cases hok), fun ⟨_, hsucc, _⟩ => ?_⟩
      have : currentSlot.toNat = 0xFFFFFFFF := by rw [hmax]; rfl
      omega
    rw [if_neg hmax]
    obtain ⟨hsucc, -⟩ := toNat_succ_slot hmax
    have hstart := getSlotStartTime_eq_ok_iff h hsync (currentSlot + 1)
    cases htime : fhssSlotSchedulerGetSlotStartTime scheduler (currentSlot + 1) with
    | error status =>
      refine ⟨fun ⟨_, hok⟩ => ?_, fun ⟨_, hsucc', hmax'⟩ => ?_⟩
      · cases hok
      · have hnextEq : nextSlot.toNat = (currentSlot + 1).toNat := by omega
        rw [hnextEq] at hmax'
        have := (hstart _).mpr ⟨by omega, rfl, hmax'⟩
        rw [htime] at this
        cases this
    | ok start =>
      obtain ⟨-, hstartEq, hstartMax⟩ := (hstart start).mp htime
      refine ⟨fun ⟨_, hok⟩ => ?_, fun ⟨_, hsucc', _⟩ => ?_⟩
      · obtain ⟨rfl, -⟩ := Prod.mk.inj (Except.ok.inj hok)
        exact ⟨hnow, by omega, by rw [← hstartEq]; exact hstartMax⟩
      · have hnextEq : nextSlot = currentSlot + 1 := UInt32.toNat_inj.mp (by omega)
        rw [hnextEq]
        exact ⟨_, rfl⟩

/-- A reference is not after the start of a slot that is not before the reference slot. -/
lemma referenceTimeUs_le_slotStart (h : SchedulerReady scheduler) {slot : ℤ}
    (hslot : (scheduler.referenceSlot.toNat : ℤ) ≤ slot) :
    scheduler.referenceTimeUs ≤ slotStart scheduler.duration scheduler.anchor slot := by
  have hmul : 0 ≤ (slot - scheduler.referenceSlot.toNat) * scheduler.duration :=
    mul_nonneg (by omega) h.duration_pos.le
  unfold slotStart FhssSlotScheduler.anchor
  dsimp only
  linarith

/-- The scheduler returns a slot after `slot` exactly when `slot` has started and the start of the
returned slot fits 64 bits. -/
lemma getNextSwitchTime_after_iff (h : SchedulerReady scheduler)
    (hsync : scheduler.synchronized = true) {slot : UInt32}
    (hslot : scheduler.referenceSlot.toNat ≤ slot.toNat) {nowUs : ℤ}
    (hfits : slotAt scheduler.duration scheduler.anchor nowUs + 1 < 2 ^ 32) :
    (∃ nextSlot switchTimeUs, fhssSlotSchedulerGetNextSwitchTime scheduler nowUs =
        .ok (nextSlot, switchTimeUs) ∧ slot < nextSlot) ↔
      slotStart scheduler.duration scheduler.anchor slot.toNat ≤ nowUs ∧
        slotStart scheduler.duration scheduler.anchor
          (slotAt scheduler.duration scheduler.anchor nowUs + 1) ≤ int64Max := by
  rw [slotStart_le_iff h.duration_pos]
  constructor
  · rintro ⟨nextSlot, switchTimeUs, hok, hlt⟩
    obtain ⟨-, hnext, hmax⟩ :=
      (getNextSwitchTime_eq_ok_iff h hsync nowUs nextSlot).mp ⟨switchTimeUs, hok⟩
    rw [UInt32.lt_iff_toNat_lt] at hlt
    rw [← hnext]
    exact ⟨by omega, hmax⟩
  · rintro ⟨hle, hmax⟩
    have hreference : scheduler.referenceTimeUs ≤ nowUs :=
      (referenceTimeUs_le_slotStart h (by exact_mod_cast hslot)).trans
        ((slotStart_le_iff h.duration_pos _ _).mpr hle)
    have hnext : ((UInt32.ofNat (slotAt scheduler.duration scheduler.anchor nowUs + 1).toNat).toNat
        : ℤ) = slotAt scheduler.duration scheduler.anchor nowUs + 1 := by
      rw [UInt32.toNat_ofNat']
      omega
    obtain ⟨switchTimeUs, hok⟩ := (getNextSwitchTime_eq_ok_iff h hsync nowUs _).mpr
      ⟨hreference, hnext, by rw [hnext]; exact hmax⟩
    refine ⟨_, switchTimeUs, hok, ?_⟩
    rw [UInt32.lt_iff_toNat_lt]
    omega

end Ready

end FhssOtaRadio
