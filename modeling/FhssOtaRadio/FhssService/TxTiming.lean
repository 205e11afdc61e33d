import FhssOtaRadio.FhssService.TxTask
import FhssOtaRadio.Library.Pace

/-!
# The TX task keeps its slots (`tx_task` in `fhss_service.c`)

The slot clock only says when a SYNC packet may be sent.  That it is sent then, and not a slot
later, rests on how long the calls of the task take: `delay_until_us` stops waiting a tick early,
and data is begun only when there is room for it before the next switch of the channel.

With the longest time of each call given (`TxPace`), and room for them in the slot
(`TxPace.FitsSlot`), every SYNC packet is begun within a wake-up and two readings of the clock from
the start of its slot, in every run: the task never falls behind, however many packets the queue
holds and however the radio treats them.
-/

namespace FhssOtaRadio

open Dialogue Machine World

/-- The longest that the calls of the task take, in microseconds. -/
structure TxPace where
  tickUs : ℕ
  /-- From the end of a wait until the task runs again. -/
  wakeUs : ℕ
  tuneUs : ℕ
  sendUs : ℕ
  timestampUs : ℕ
  /-- A call that does not wait. -/
  stepUs : ℕ
  deriving DecidableEq

namespace TxPace

/-- The longest that a call takes. -/
def mostUs (pace : TxPace) : TxCall → ℤ
  | .vTaskDelay ticks => ticks * pace.tickUs + pace.wakeUs
  | .taskYield => pace.wakeUs
  | .rfTransportSetChannel _ => pace.tuneUs
  | .rfTransportSendPacket _ => pace.sendUs
  | .rfTransportWaitRxTimestamp _ => pace.timestampUs
  | .xQueueReceive ticks => ticks * pace.tickUs + pace.wakeUs
  | _ => pace.stepUs

/-- The time that the answer to a call tells. -/
def reading : (c : TxCall) → c.Answer → Option ℤ
  | .espTimerGetTime, nowUs => some nowUs
  | _, _ => none

/-- The task with `esp_timer_get_time` as its clock. -/
def toPace (pace : TxPace) : Pace TxCall TxCall.Answer := ⟨reading, pace.mostUs⟩

/-- How late a SYNC packet can be begun. -/
def lateUs (pace : TxPace) : ℕ := pace.wakeUs + pace.stepUs

/-- The calls fit the slots of a service. -/
structure FitsSlot (pace : TxPace) (pdMsToTicks : UInt32 → ℕ) (service : FhssService) : Prop where
  /-- `pdMS_TO_TICKS` does not round up. -/
  ticks_le : ∀ ms, pdMsToTicks ms * pace.tickUs ≤ ms.toNat * 1000
  /-- The remaining time of `drain_tx_data_until` does not become negative by a millisecond. -/
  step_lt : pace.stepUs < 1000
  /-- The channel is switched within the guard. -/
  tune_le : pace.tuneUs + 3 * pace.stepUs ≤ service.config.channelSwitchGuardUs.toNat
  /-- A wait for data that ends late ends before the switch. -/
  wait_le : 3 * pace.stepUs + pace.tickUs + pace.wakeUs ≤ 20000
  /-- So does data that is begun at the last moment. -/
  data_le : 4 * pace.stepUs + pace.sendUs + pace.timestampUs ≤ 20000
  /-- The SYNC packet leaves time for the switch to the next slot. -/
  sync_le : 2 * pace.stepUs + pace.wakeUs + pace.sendUs + pace.timestampUs +
    service.config.channelSwitchGuardUs.toNat ≤ service.controller.scheduler.duration
  /-- The first slot is far enough ahead. -/
  guard_le : service.config.channelSwitchGuardUs.toNat ≤ 100000

end TxPace

section Punctual

variable (service : FhssService) (anchorUs : ℤ) (pace : TxPace)

/-- A SYNC packet of slot `k` begun in time; slot numbers have 32 bits, so that there are `2 ^ 32`
slots. -/
def BegunInTime (k : ℕ) (startedUs : ℤ) : Prop :=
  k < 2 ^ 32 → slotStartUs service anchorUs k ≤ startedUs ∧
    startedUs ≤ slotStartUs service anchorUs k + pace.lateUs

/-- The SYNC packets of a log are begun in time. -/
def Punctual : List TxSlotLog → Prop
  | [] => True
  | slot :: slots => BegunInTime service anchorUs pace slots.length slot.sync.afterUs ∧
      Punctual slots

/-- The radio could be tuned, if it was asked to. -/
def tuned : (c : TxCall) → c.Answer → Bool
  | .rfTransportSetChannel _, ok => ok
  | _, _ => true

/-- The world in which SYNC packets are only handed to the radio in time; the radio can be tuned. -/
def keepingTime : World TxCall TxCall.Answer TxAir where
  next air e := air.next e.1 e.2
  Allowed air
    | .rfTransportSendPacket _ => air.held = none →
        BegunInTime service anchorUs pace air.slots.length air.nowUs
    | _ => True
  Possible _ e := tuned e.1 e.2 = true

instance decidableKeepingTimePossible (air : TxAir) (e : Event TxCall TxCall.Answer) :
    Decidable ((keepingTime service anchorUs pace).Possible air e) :=
  inferInstanceAs (Decidable (tuned e.1 e.2 = true))

/-- What a part of the task owes when its calls take their time. -/
abbrev MeetsInTime {α : Type} (program : TxProgram α) (s : TxAir × Span)
    (Q : α → TxAir × Span → Prop) : Prop :=
  ((keepingTime service anchorUs pace).timed pace.toPace).Meets True program s Q

variable {service anchorUs pace} {air : TxAir} {span : Span}

lemma inTime_espTimerGetTime {Q : ℤ → TxAir × Span → Prop}
    (h : ∀ nowUs, nowUs ≤ span.latest + pace.stepUs →
      Q nowUs ({ air with nowUs := nowUs }, ⟨nowUs, nowUs⟩)) :
    MeetsInTime service anchorUs pace TxTask.espTimerGetTime (air, span) Q := by
  apply meets_reading trivial
  · intro nowUs time htime _ _ hlate
    obtain rfl := Option.some.inj htime
    exact h nowUs hlate
  · intro nowUs
    exact Option.some_ne_none _

/-- A call that is always allowed and tells no time. -/
lemma inTime_taking {c : TxCall} {Q : c.Answer → TxAir × Span → Prop}
    (hsilent : ∀ b, TxPace.reading c b = none)
    (hallowed : (keepingTime service anchorUs pace).Allowed air c)
    (h : ∀ b, (keepingTime service anchorUs pace).Possible air ⟨c, b⟩ →
      Q b (air.next c b, ⟨span.earliest, span.latest + pace.mostUs c⟩)) :
    MeetsInTime service anchorUs pace (.call c) (air, span) Q :=
  meets_taking hsilent hallowed h

/-! ## Waiting -/

lemma toNat_ofInt_le {value : ℤ} (h : 0 ≤ value) : ((UInt32.ofInt value).toNat : ℤ) ≤ value := by
  unfold UInt32.ofInt
  rw [UInt32.toNat_ofNat']
  omega

/-- The ticks of a remaining time end within it. -/
lemma ticks_le_remaining {pdMsToTicks : UInt32 → ℕ}
    (hticks : ∀ ms, pdMsToTicks ms * pace.tickUs ≤ ms.toNat * 1000) {remainingUs : ℤ}
    (h : 0 ≤ remainingUs) :
    ((pdMsToTicks (UInt32.ofInt (remainingUs.tdiv 1000)) * pace.tickUs : ℕ) : ℤ) ≤
      remainingUs := by
  have hdiv : remainingUs.tdiv 1000 = remainingUs / 1000 := Int.tdiv_eq_ediv_of_nonneg h
  have hms := toNat_ofInt_le (Int.ediv_nonneg h (by omega : (0 : ℤ) ≤ 1000))
  have hfits := hticks (UInt32.ofInt (remainingUs.tdiv 1000))
  rw [hdiv] at hfits ⊢
  omega

/-- `delay_until_us` ends within a wake-up of its target, if it was not over before. -/
lemma delayUntilUs_inTime {pdMsToTicks : UInt32 → ℕ} (rounds : ℕ) (targetUs : ℤ)
    (hticks : ∀ ms, pdMsToTicks ms * pace.tickUs ≤ ms.toNat * 1000) :
    MeetsInTime service anchorUs pace (TxTask.delayUntilUs pdMsToTicks rounds targetUs) (air, span)
      fun _ s => ∃ nowUs, targetUs ≤ nowUs ∧
        nowUs ≤ max span.latest (targetUs + pace.wakeUs) + pace.stepUs ∧
        s = ({ air with nowUs := nowUs }, ⟨nowUs, nowUs⟩) := by
  refine meets_loop (fun s => (∃ nowUs, s.1 = { air with nowUs := nowUs }) ∧
    s.2.latest ≤ max span.latest (targetUs + pace.wakeUs)) ?_ ⟨⟨air.nowUs, rfl⟩, le_max_left ..⟩
    rounds
  rintro ⟨_, span₁⟩ ⟨⟨nowUs₁, rfl⟩, hlatest⟩
  rw [meets_bind]
  refine inTime_espTimerGetTime fun nowUs hnow => ?_
  dsimp only at hlatest
  split
  · exact ⟨nowUs, by omega, hnow.trans (by omega), rfl⟩
  rename_i hwait
  rw [meets_bind, TxTask.letPass]
  split
  · refine inTime_taking (fun _ => rfl) trivial fun _ _ => ⟨⟨nowUs, rfl⟩, le_max_of_le_right ?_⟩
    have hfits := ticks_le_remaining hticks (by omega : 0 ≤ targetUs - nowUs)
    dsimp only [TxPace.mostUs]
    generalize pdMsToTicks (UInt32.ofInt ((targetUs - nowUs).tdiv 1000)) = ticks at hfits ⊢
    have hless : (ticks - 1) * pace.tickUs ≤ ticks * pace.tickUs :=
      Nat.mul_le_mul_right _ (Nat.sub_le _ _)
    have hless' : ((ticks - 1 : ℕ) : ℤ) * pace.tickUs ≤ targetUs - nowUs := by
      rw [← Nat.cast_mul]
      exact (Nat.cast_le.mpr hless).trans hfits
    omega
  · refine inTime_taking (fun _ => rfl) trivial fun _ _ => ⟨⟨nowUs, rfl⟩, le_max_of_le_right ?_⟩
    dsimp only [TxPace.mostUs]
    omega

/-- A wait for data ends within the remaining time, or within a tick. -/
lemma waitTicks_le {pdMsToTicks : UInt32 → ℕ}
    (hticks : ∀ ms, pdMsToTicks ms * pace.tickUs ≤ ms.toNat * 1000) {remainingUs : ℤ}
    (h : -1000 < remainingUs) :
    (TxTask.waitTicks pdMsToTicks remainingUs : ℤ) * pace.tickUs ≤
      max remainingUs pace.tickUs := by
  have hticksUs : ((pdMsToTicks (if 20000 < remainingUs then 20
      else UInt32.ofInt (remainingUs.tdiv 1000)) * pace.tickUs : ℕ) : ℤ) ≤ max remainingUs 0 := by
    split
    · have hfits := hticks 20
      have htwenty : (20 : UInt32).toNat * 1000 = 20000 := rfl
      omega
    by_cases hsign : 0 ≤ remainingUs
    · exact (ticks_le_remaining hticks hsign).trans (le_max_left ..)
    · have hzero : remainingUs.tdiv 1000 = 0 := by
        rw [← neg_neg remainingUs, Int.neg_tdiv, Int.tdiv_eq_zero_of_lt (by omega) (by omega)]
        rfl
      have hfits := hticks (UInt32.ofInt (remainingUs.tdiv 1000))
      have hnone : (UInt32.ofInt 0).toNat * 1000 = 0 := rfl
      rw [hzero] at hfits ⊢
      omega
  unfold TxTask.waitTicks
  generalize pdMsToTicks (if 20000 < remainingUs then 20
    else UInt32.ofInt (remainingUs.tdiv 1000)) = ticks at hticksUs
  by_cases hnone : ticks = 0
  · rw [hnone, if_pos rfl, Nat.cast_one, one_mul]
    exact le_max_right ..
  · rw [if_neg hnone, ← Nat.cast_mul]
    exact hticksUs.trans (max_le_max_left _ (Int.natCast_nonneg _))

/-! ## Sending -/

/-- Data on the air ends the wait for it, and starts no slot. -/
lemma held_transmit {item : Bytes} (h : air.held = some item) (frame : Bytes) (ok : Bool) :
    (air.transmit frame ok).held = none ∧
      (air.transmit frame ok).slots.length = air.slots.length := by
  unfold TxAir.transmit
  rw [h]
  cases air.slots with
  | nil => exact ⟨rfl, rfl⟩
  | cons slot slots => exact ⟨rfl, rfl⟩

/-- A SYNC packet starts a slot. -/
lemma begun_transmit (h : air.held = none) (frame : Bytes) (ok : Bool) :
    (air.transmit frame ok).held = none ∧
      (air.transmit frame ok).slots.length = air.slots.length + 1 := by
  rw [transmit_sync h]
  exact ⟨h, rfl⟩

/-- Sending the packet that was taken out of the queue. -/
lemma sendItem_inTime {item : Bytes} (h : air.held = some item) :
    MeetsInTime service anchorUs pace (TxTask.sendItem item) (air, span) fun _ s =>
      s.1.held = none ∧ s.1.slots.length = air.slots.length ∧
      s.2.latest ≤ span.latest + (3 * pace.stepUs + pace.sendUs + pace.timestampUs) := by
  rw [MeetsInTime, TxTask.sendItem, meets_bind]
  refine inTime_taking (fun _ => rfl) trivial fun _ _ => ?_
  rw [meets_bind]
  have hflagged : (air.next (.setTxInFlight true) ()).held = some item := h
  refine inTime_taking (fun _ => rfl) (fun hnone => ?_) fun ok _ => ?_
  · exact absurd (hflagged.symm.trans hnone) (Option.some_ne_none _)
  obtain ⟨hheld, hlength⟩ := held_transmit hflagged item ok
  cases ok with
  | true =>
    dsimp only
    rw [if_pos rfl, meets_bind]
    refine inTime_taking (fun _ => rfl) trivial fun _ _ => ?_
    refine inTime_taking (fun _ => rfl) trivial fun _ _ => ⟨hheld, hlength, ?_⟩
    dsimp only [TxPace.mostUs]
    omega
  | false =>
    dsimp only
    rw [if_neg Bool.false_ne_true, meets_bind]
    refine inTime_taking (fun _ => rfl) trivial fun _ _ => ?_
    refine inTime_taking (fun _ => rfl) trivial fun _ _ => ⟨hheld, hlength, ?_⟩
    dsimp only [TxPace.mostUs]
    omega

/-- The calls of `drain_tx_data_until` end by its deadline, when there is time for the first one. -/
lemma drainTxDataUntil_inTime {pdMsToTicks : UInt32 → ℕ} (rounds : ℕ) {deadlineUs : ℤ} {n : ℕ}
    (hfits : pace.FitsSlot pdMsToTicks service) (hheld : air.held = none)
    (hlength : air.slots.length = n) {Room : Prop}
    (hroom : Room → span.latest + pace.stepUs ≤ deadlineUs) :
    MeetsInTime service anchorUs pace (TxTask.drainTxDataUntil pdMsToTicks rounds deadlineUs)
      (air, span) fun _ s =>
        s.1.held = none ∧ s.1.slots.length = n ∧ (Room → s.2.latest ≤ deadlineUs) := by
  have hstep := hfits.step_lt
  have hwait := hfits.wait_le
  have hdata := hfits.data_le
  refine meets_loop (fun s => s.1.held = none ∧ s.1.slots.length = n ∧
    (Room → s.2.latest + pace.stepUs ≤ deadlineUs)) ?_ ⟨hheld, hlength, hroom⟩ rounds
  rintro ⟨air₁, span₁⟩ ⟨hheld₁, hlength₁, hroom₁⟩
  dsimp only at hroom₁
  rw [meets_bind]
  refine inTime_espTimerGetTime fun nowUs₁ hnow₁ => ?_
  split
  swap
  · exact ⟨hheld₁, hlength₁, fun room => hnow₁.trans (hroom₁ room)⟩
  rename_i hbefore
  unfold fhssServiceDataTxAirtimeGuardUs at hbefore ⊢
  rw [meets_bind]
  refine inTime_espTimerGetTime fun nowUs₂ hnow₂ => ?_
  dsimp only at hnow₂
  rw [meets_bind]
  refine inTime_taking (fun _ => rfl) trivial fun received _ => ?_
  -- the wait is over a tick after the last moment to begin data
  have hticks := @waitTicks_le pace pdMsToTicks hfits.ticks_le (deadlineUs - 20000 - nowUs₂)
    (by omega)
  have hover : nowUs₂ + pace.mostUs (.xQueueReceive
      (TxTask.waitTicks pdMsToTicks (deadlineUs - 20000 - nowUs₂))) ≤
      deadlineUs - 20000 + (pace.stepUs + pace.tickUs + pace.wakeUs) := by
    dsimp only [TxPace.mostUs]
    omega
  generalize pace.mostUs (.xQueueReceive
    (TxTask.waitTicks pdMsToTicks (deadlineUs - 20000 - nowUs₂))) = waitedUs at hover ⊢
  cases received with
  | none =>
    refine ⟨hheld₁, hlength₁, fun _ => ?_⟩
    dsimp only
    omega
  | some item =>
    dsimp only
    rw [meets_bind]
    refine inTime_espTimerGetTime fun nowUs₃ hnow₃ => ?_
    dsimp only at hnow₃
    split
    · rw [meets_bind]
      refine inTime_taking (fun _ => rfl) trivial fun _ _ => ⟨rfl, hlength₁, fun _ => ?_⟩
      dsimp only [TxPace.mostUs]
      omega
    · rw [meets_bind]
      refine Meets.mono (sendItem_inTime rfl) ?_
      rintro _ s ⟨hheld₂, hlength₂, hlatest⟩
      refine ⟨hheld₂, hlength₂.trans hlength₁, fun _ => ?_⟩
      dsimp only at hlatest
      omega

/-- Selecting the channel of a slot fails only when the slot has none. -/
lemma selectChannel_inTime (slot : UInt32) :
    MeetsInTime service anchorUs pace (TxTask.selectChannel service slot) (air, span) fun ok s =>
      s.1.held = air.held ∧ s.1.slots = air.slots ∧
      s.2.latest ≤ span.latest + (pace.tuneUs + pace.stepUs) ∧
      (ok = true ↔ ∃ channel, fhssCoreGetChannel service.controller.core slot = .ok channel) := by
  unfold TxTask.selectChannel
  split
  · rename_i status hchannel
    refine ⟨rfl, rfl, by dsimp only; omega, nofun, fun ⟨channel, hok⟩ => ?_⟩
    rw [hchannel] at hok
    cases hok
  · rename_i channel hchannel
    rw [MeetsInTime, meets_bind]
    refine inTime_taking (fun _ => rfl) trivial fun ok hok => ?_
    obtain rfl : ok = true := hok
    rw [if_pos rfl, meets_bind]
    refine inTime_taking (fun _ => rfl) trivial fun _ _ =>
      ⟨rfl, rfl, ?_, fun _ => ⟨channel, hchannel⟩, fun _ => rfl⟩
    dsimp only [TxPace.mostUs]
    omega

variable {protocol : OtaProtocol} {encodeFhssSync : OtaFhssSyncFields → Option Bytes}

/-- Sending the SYNC packet of the next slot. -/
lemma sendSync_inTime (slot : UInt32) (sequence : UInt16) (hheld : air.held = none)
    (hbegun : BegunInTime service anchorUs pace air.slots.length air.nowUs) :
    MeetsInTime service anchorUs pace
      (TxTask.sendSync protocol encodeFhssSync service slot sequence) (air, span) fun ok s =>
      ok = true → s.1.held = none ∧ s.1.slots.length = air.slots.length + 1 ∧
        s.2.latest ≤ span.latest + pace.sendUs := by
  unfold TxTask.sendSync
  split
  · exact nofun
  · rename_i frame _
    refine inTime_taking (fun _ => rfl) (fun _ => hbegun) fun ok _ _ => ?_
    obtain ⟨hheld', hlength⟩ := begun_transmit hheld frame ok
    exact ⟨hheld', hlength, le_rfl⟩

/-! ## The whole task -/

/-- Between two slots there is still time to switch to the channel of the next one. -/
structure Ahead (service : FhssService) (s : TxAir × Span) : Prop where
  held : s.1.held = none
  latest_le : ∀ startUs channel,
    fhssSlotSchedulerGetSlotStartTime service.controller.scheduler (nextSlot s.1).1 = .ok startUs →
    fhssCoreGetChannel service.controller.core (nextSlot s.1).1 = .ok channel →
    s.1.slots.length < 2 ^ 32 →
      s.2.latest ≤ startUs - service.config.channelSwitchGuardUs.toNat

/-- The starts of two slots in a row are a slot apart. -/
lemma slotStartUs_succ {k : ℕ} (hk : k + 1 < 2 ^ 32) :
    slotStartUs service anchorUs (k + 1) =
      slotStartUs service anchorUs k + service.controller.scheduler.duration := by
  unfold slotStartUs
  rw [UInt32.toNat_ofNat_of_lt' hk, UInt32.toNat_ofNat_of_lt' (Nat.lt_of_succ_lt hk)]
  push_cast
  ring

/-- A slot without a start keeps the task waiting for good. -/
lemma ahead_of_error {status : FhssSlotStatus} (hheld : air.held = none)
    (hstart : fhssSlotSchedulerGetSlotStartTime service.controller.scheduler (nextSlot air).1 =
      .error status) : Ahead service (air, span) := by
  refine ⟨hheld, fun startUs _ hok => ?_⟩
  rw [hstart] at hok
  cases hok

/-- So does a slot without a channel. -/
lemma ahead_of_unselected (hheld : air.held = none)
    (hnone : ¬∃ channel, fhssCoreGetChannel service.controller.core (nextSlot air).1 =
      .ok channel) : Ahead service (air, span) :=
  ⟨hheld, fun _ channel _ hok => absurd ⟨channel, hok⟩ hnone⟩

/-- Any other slot has to be ahead. -/
lemma ahead_of_start {startUs : ℤ} (hheld : air.held = none)
    (hstart : fhssSlotSchedulerGetSlotStartTime service.controller.scheduler (nextSlot air).1 =
      .ok startUs)
    (hlatest : air.slots.length < 2 ^ 32 →
      span.latest ≤ startUs - service.config.channelSwitchGuardUs.toNat) :
    Ahead service (air, span) := by
  refine ⟨hheld, fun startUs' _ hok _ => ?_⟩
  rw [hstart] at hok
  obtain rfl := Except.ok.inj hok
  exact hlatest

/-- The rest of a slot after its SYNC packet: it ends ahead of the next one. -/
lemma afterSync_inTime {pdMsToTicks : UInt32 → ℕ} (rounds : ℕ) {k : ℕ} {slot : UInt32}
    {sequence : UInt16} (hfits : pace.FitsSlot pdMsToTicks service)
    (hanchored : Anchored service anchorUs) (hheld : air.held = none)
    (hlength : air.slots.length = k + 1) (hnext : nextSlot air = (slot + 1, sequence + 1))
    (hlatest : k + 1 < 2 ^ 32 →
      span.latest ≤ slotStartUs service anchorUs k + pace.lateUs + pace.sendUs) :
    MeetsInTime service anchorUs pace
      (do
        TxTask.rfTransportWaitRxTimestamp 20
        match fhssSlotSchedulerGetSlotStartTime service.controller.scheduler (slot + 1) with
        | .error _ => return .inl (slot + 1, sequence + 1)
        | .ok nextStartUs => do
          TxTask.drainTxDataUntil pdMsToTicks rounds
            (nextStartUs - service.config.channelSwitchGuardUs.toNat)
          return .inl (slot + 1, sequence + 1) : TxProgram ((UInt32 × UInt16) ⊕ Unit))
      (air, span) fun
      | .inl next, s => Ahead service s ∧ next = nextSlot s.1
      | .inr _, _ => True := by
  have hslot : (nextSlot air).1 = slot + 1 := congrArg Prod.fst hnext
  rw [MeetsInTime, meets_bind]
  refine inTime_taking (fun _ => rfl) trivial fun _ _ => ?_
  split
  · rename_i status hstart
    exact ⟨ahead_of_error hheld (hslot ▸ hstart), hnext.symm⟩
  rename_i nextStartUs hstart
  have hstart' : nextStartUs = slotStartUs service anchorUs (k + 1) := by
    rw [hanchored _ _ hstart, slotStartUs, ← hslot, nextSlot, hlength]
  have hroom : k + 1 < 2 ^ 32 → span.latest + pace.timestampUs + pace.stepUs ≤
      nextStartUs - service.config.channelSwitchGuardUs.toNat := by
    intro hk
    have hsync := hfits.sync_le
    have hlatest := hlatest hk
    unfold TxPace.lateUs at hlatest
    rw [hstart', slotStartUs_succ hk]
    omega
  rw [meets_bind]
  apply (drainTxDataUntil_inTime rounds hfits hheld hlength hroom).mono
  rintro _ ⟨air₁, span₁⟩ ⟨hheld₁, hlength₁, hlatest₁⟩
  have hnext₁ : nextSlot air₁ = nextSlot air := nextSlot_congr (hlength₁.trans hlength.symm)
  refine ⟨ahead_of_start hheld₁ (hnext₁ ▸ hslot ▸ hstart) fun hk => ?_, (hnext₁.trans hnext).symm⟩
  exact hlatest₁ (hlength₁ ▸ hk)

/-- **One slot of the task**: its SYNC packet is begun in time, and it ends ahead of the next. -/
lemma txSlot_inTime {pdMsToTicks : UInt32 → ℕ} (rounds : ℕ)
    (hfits : pace.FitsSlot pdMsToTicks service) (hanchored : Anchored service anchorUs)
    (h : Ahead service (air, span)) :
    MeetsInTime service anchorUs pace
      (TxTask.txSlot pdMsToTicks protocol encodeFhssSync service rounds (nextSlot air))
      (air, span) fun
      | .inl next, s => Ahead service s ∧ next = nextSlot s.1
      | .inr _, _ => True := by
  have htune := hfits.tune_le
  unfold TxTask.txSlot
  rw [MeetsInTime, meets_bind]
  refine inTime_taking (fun _ => rfl) trivial fun stopping _ => ?_
  split
  · trivial
  split
  · rename_i status hstart
    rw [meets_bind]
    refine inTime_taking (fun _ => rfl) trivial fun _ _ => ?_
    rw [meets_bind]
    exact inTime_taking (fun _ => rfl) trivial fun _ _ => ⟨ahead_of_error h.held hstart, rfl⟩
  rename_i startUs hstart
  -- the switch
  rw [meets_bind]
  apply (delayUntilUs_inTime rounds _ hfits.ticks_le).mono
  rintro _ _ ⟨switchUs, -, hswitch, rfl⟩
  rw [meets_bind]
  apply (selectChannel_inTime _).mono
  rintro selected ⟨air₁, span₁⟩ ⟨hheld₁, hslots₁, hlatest₁, hselected⟩
  replace hheld₁ : air₁.held = none := hheld₁.trans h.held
  replace hslots₁ : air₁.slots = air.slots := hslots₁
  dsimp only at hlatest₁ hswitch
  have hnext₁ : nextSlot air₁ = nextSlot air := nextSlot_congr (congrArg List.length hslots₁)
  split
  swap
  · rename_i hunselected
    rw [hselected, ← hnext₁] at hunselected
    rw [meets_bind]
    exact inTime_taking (fun _ => rfl) trivial fun _ _ =>
      ⟨ahead_of_unselected hheld₁ hunselected, hnext₁.symm⟩
  rename_i hselected'
  obtain ⟨channel, hchannel⟩ := hselected.mp hselected'
  have hahead : air.slots.length < 2 ^ 32 →
      span.latest ≤ startUs - service.config.channelSwitchGuardUs.toNat :=
    h.latest_le startUs channel hstart hchannel
  have hstart' : startUs = slotStartUs service anchorUs air.slots.length := hanchored _ _ hstart
  -- the SYNC packet
  rw [meets_bind]
  apply (delayUntilUs_inTime rounds _ hfits.ticks_le).mono
  rintro _ _ ⟨nowUs, hstarted, hnow, rfl⟩
  have hbegun : BegunInTime service anchorUs pace air₁.slots.length nowUs := by
    unfold BegunInTime TxPace.lateUs
    rw [hslots₁, ← hstart']
    intro hlength
    have hlatest := hahead hlength
    dsimp only [TxPace.mostUs] at hswitch
    exact ⟨hstarted, by omega⟩
  rw [meets_bind]
  refine Meets.mono (sendSync_inTime _ _ hheld₁ hbegun) ?_
  rintro sent ⟨air₂, span₂⟩ hsent
  split
  swap
  · rw [meets_bind]
    exact inTime_taking (fun _ => rfl) trivial fun _ _ => trivial
  rename_i htrue
  obtain ⟨hheld₂, hlength₂, hlatest₂⟩ := hsent htrue
  replace hlength₂ : air₂.slots.length = air₁.slots.length + 1 := hlength₂
  dsimp only at hlatest₂
  have hnext₂ := nextSlot_succ hlength₂
  rw [hnext₁] at hnext₂
  refine afterSync_inTime rounds hfits hanchored hheld₂ hlength₂ hnext₂ fun hlength => ?_
  have hlate := (hbegun (Nat.lt_of_succ_lt hlength)).2
  omega

/-- The loop of the task, from before the first slot. -/
lemma txSlots_inTime {pdMsToTicks : UInt32 → ℕ} (rounds : ℕ)
    (hfits : pace.FitsSlot pdMsToTicks service) {nowUs : ℤ}
    (hanchored : Anchored service (nowUs + 100000)) :
    MeetsInTime service (nowUs + 100000) pace
      (.iterate (TxTask.txSlot pdMsToTicks protocol encodeFhssSync service rounds) rounds (0, 0))
      (.idle nowUs, ⟨nowUs, nowUs⟩) fun _ _ => True := by
  have hguard := hfits.guard_le
  refine meets_iterate (fun next s => Ahead service s ∧ next = nextSlot s.1) ?_ ?_ rounds
  · rintro next ⟨air, span⟩ ⟨h, rfl⟩
    apply (txSlot_inTime rounds hfits hanchored h).mono
    rintro (next | done) s h'
    · exact h'
    · trivial
  · refine ⟨⟨rfl, fun startUs _ hstart _ _ => ?_⟩, rfl⟩
    have hfirst := hanchored _ _ hstart
    have hzero : ((nextSlot (.idle nowUs)).1.toNat : ℤ) = 0 := rfl
    dsimp only at hfirst ⊢
    rw [hzero, zero_mul] at hfirst
    omega

/-- What is handed to the radio keeps the log punctual. -/
lemma punctual_transmit (frame : Bytes) (ok : Bool)
    (hallowed : air.held = none → BegunInTime service anchorUs pace air.slots.length air.nowUs)
    (h : Punctual service anchorUs pace air.slots) :
    Punctual service anchorUs pace (air.transmit frame ok).slots := by
  cases hheld : air.held with
  | none =>
    rw [transmit_sync hheld]
    exact ⟨hallowed hheld, h⟩
  | some item =>
    unfold TxAir.transmit
    rw [hheld]
    cases hslots : air.slots with
    | nil => trivial
    | cons slot slots =>
      rw [hslots] at h
      exact h

/-- An allowed call keeps the log punctual. -/
lemma punctual_next {c : TxCall} (answer : c.Answer)
    (hallowed : (keepingTime service anchorUs pace).Allowed air c)
    (h : Punctual service anchorUs pace air.slots) :
    Punctual service anchorUs pace (air.next c answer).slots := by
  cases c with
  | rfTransportSendPacket frame => exact punctual_transmit frame answer hallowed h
  | xQueueReceive ticks => exact (slots_receive answer).symm ▸ h
  | _ => exact h

/-- After the calls of a legal run the log is punctual. -/
lemma punctual_of_legal {events : List (Event TxCall TxCall.Answer)}
    (hlegal : (keepingTime service anchorUs pace).Legal air events)
    (h : Punctual service anchorUs pace air.slots) :
    Punctual service anchorUs pace
      ((keepingTime service anchorUs pace).after air events).slots := by
  induction events generalizing air with
  | nil => exact h
  | cons e events ih =>
    obtain ⟨hallowed, hlegal⟩ := hlegal
    exact ih hlegal (punctual_next e.2 hallowed h)

end Punctual

/-- The log of a run, from the reading of the clock that anchors the slots. -/
def txLog (nowUs : ℤ) (events : List (Event TxCall TxCall.Answer)) : TxAir :=
  finalState (fun air (e : Event TxCall TxCall.Answer) => (air.next e.1 e.2, ())) (.idle nowUs)
    events

/-- The log of a run is a schedule. -/
lemma scheduled_txLog {protocol : OtaProtocol} {encodeFhssSync : OtaFhssSyncFields → Option Bytes}
    {service : FhssService} {pdMsToTicks : UInt32 → ℕ} {rounds : ℕ} {nowUs : ℤ}
    {events : List (Event TxCall TxCall.Answer)} {result : Option Unit}
    (hanchored : Anchored service (nowUs + 100000))
    (hrun : Run (Program.iterate (TxTask.txSlot pdMsToTicks protocol encodeFhssSync service
      rounds) rounds (0, 0)) events result) :
    Scheduled protocol encodeFhssSync service (nowUs + 100000) (txLog nowUs events).slots := by
  have hmeets := txSlots_meets protocol encodeFhssSync service (nowUs + 100000) pdMsToTicks rounds
    nowUs hanchored
  obtain ⟨hlegal, -⟩ := hmeets.run hrun (real_of_possible (fun _ _ => trivial) _ _)
  exact (scheduled_of_legal protocol encodeFhssSync service (nowUs + 100000) hlegal trivial rfl).1

/-- The log of a run in which the calls keep to the pace is punctual. -/
lemma punctual_txLog {protocol : OtaProtocol} {encodeFhssSync : OtaFhssSyncFields → Option Bytes}
    {service : FhssService} {pace : TxPace} {pdMsToTicks : UInt32 → ℕ} {rounds : ℕ} {nowUs : ℤ}
    {events : List (Event TxCall TxCall.Answer)} {result : Option Unit}
    (hfits : pace.FitsSlot pdMsToTicks service) (hanchored : Anchored service (nowUs + 100000))
    (hrun : Run (Program.iterate (TxTask.txSlot pdMsToTicks protocol encodeFhssSync service
      rounds) rounds (0, 0)) events result)
    (hreal : ((keepingTime service (nowUs + 100000) pace).timed pace.toPace).Real
      (.idle nowUs, ⟨nowUs, nowUs⟩) events) :
    Punctual service (nowUs + 100000) pace (txLog nowUs events).slots := by
  obtain ⟨hlegal, -⟩ := (txSlots_inTime rounds hfits hanchored).run hrun hreal
  exact punctual_of_legal (legal_timed.mp hlegal) trivial

/-- **The TX task keeps its slots.**  When the calls fit the slots of the service, then in every run
in which they take no longer than that the SYNC packet of each slot is begun after the slot has
started, and no later than a wake-up and a step after that. -/
theorem txTask_punctual {protocol : OtaProtocol}
    {encodeFhssSync : OtaFhssSyncFields → Option Bytes} {service : FhssService} {pace : TxPace}
    {pdMsToTicks : UInt32 → ℕ} {rounds : ℕ} {nowUs : ℤ}
    {events : List (Event TxCall TxCall.Answer)} {result : Option Unit}
    (hinitialized : service.controller.scheduler.initialized = true) (hnow : 0 ≤ nowUs)
    (hfits : pace.FitsSlot pdMsToTicks (TxTask.referenced service nowUs))
    (hrun : Run (TxTask.txTask pdMsToTicks protocol encodeFhssSync service rounds)
      (⟨.espTimerGetTime, nowUs⟩ :: events) result)
    (hreal : ((keepingTime (TxTask.referenced service nowUs) (nowUs + 100000) pace).timed
      pace.toPace).Real (.idle nowUs, ⟨nowUs, nowUs⟩) events) :
    Punctual (TxTask.referenced service nowUs) (nowUs + 100000) pace
      (txLog nowUs events).slots := by
  exact punctual_txLog hfits (anchored_referenced service hinitialized hnow) (run_txSlots hrun)
    hreal

/-- A TX over three channels with slots of 50 ms. -/
def benchTx : FhssService :=
  (resetController { sampleService with
    config := { sampleServiceConfig with role := .tx, hopSeed := 5, slotDurationUs := 50000 } }).1

/-- A tick is a millisecond here, and the radio needs five of them for a packet. -/
def benchTxPace : TxPace := ⟨1000, 2000, 500, 5000, 1000, 50⟩

/-- A slot up to its SYNC packet, which is begun `lateUs` late; when the task comes to wait for the
slot it has `leftUs` left. -/
def benchSlotSync (startUs leftUs : ℤ) (ticks : ℕ) (channel : UInt8) (lateUs : ℤ) (frame : Bytes) :
    List (Event TxCall TxCall.Answer) :=
  [⟨.shouldStop, false⟩, ⟨.espTimerGetTime, (startUs - leftUs : ℤ)⟩, ⟨.vTaskDelay ticks, ()⟩,
    ⟨.espTimerGetTime, (startUs - 6800 : ℤ)⟩, ⟨.taskYield, ()⟩,
    ⟨.espTimerGetTime, (startUs - 4990 : ℤ)⟩, ⟨.rfTransportSetChannel channel, true⟩,
    ⟨.setCurrentChannel channel, ()⟩, ⟨.espTimerGetTime, (startUs - 4600 : ℤ)⟩,
    ⟨.vTaskDelay 3, ()⟩, ⟨.espTimerGetTime, (startUs - 1500 : ℤ)⟩, ⟨.taskYield, ()⟩,
    ⟨.espTimerGetTime, (startUs + lateUs : ℤ)⟩, ⟨.rfTransportSendPacket frame, true⟩,
    ⟨.rfTransportWaitRxTimestamp 20, ()⟩]

/-- The rest of a slot in which no data is queued. -/
def benchSlotIdle (startUs : ℤ) : List (Event TxCall TxCall.Answer) :=
  [⟨.espTimerGetTime, (startUs + 5000 : ℤ)⟩, ⟨.espTimerGetTime, (startUs + 5010 : ℤ)⟩,
    ⟨.xQueueReceive 19, none⟩, ⟨.espTimerGetTime, (startUs + 25200 : ℤ)⟩]

/-- The rest of a slot in which a packet is sent. -/
def benchSlotData (startUs : ℤ) (item : Bytes) : List (Event TxCall TxCall.Answer) :=
  [⟨.espTimerGetTime, (startUs + 5000 : ℤ)⟩, ⟨.espTimerGetTime, (startUs + 5010 : ℤ)⟩,
    ⟨.xQueueReceive 19, some item⟩, ⟨.espTimerGetTime, (startUs + 12000 : ℤ)⟩,
    ⟨.setTxInFlight true, ()⟩, ⟨.rfTransportSendPacket item, true⟩,
    ⟨.rfTransportWaitRxTimestamp 20, ()⟩, ⟨.setTxInFlight false, ()⟩,
    ⟨.espTimerGetTime, (startUs + 18000 : ℤ)⟩, ⟨.espTimerGetTime, (startUs + 18010 : ℤ)⟩,
    ⟨.xQueueReceive 6, none⟩, ⟨.espTimerGetTime, (startUs + 25200 : ℤ)⟩]

/-- A run over four slots, until the task is told to stop; data is sent in the first and in the
third of them. -/
def benchTxSlots : List (Event TxCall TxCall.Answer) :=
  benchSlotSync 100000 99960 93 1 50 [10, 1, 7, 0, 0, 0, 0, 0, 0, 0, 0, 0, 0] ++
  benchSlotData 100000 [0x55] ++
  benchSlotSync 150000 24750 18 2 120 [10, 1, 7, 0, 0, 0, 1, 0, 1, 1, 0, 0, 0] ++
  benchSlotIdle 150000 ++
  benchSlotSync 200000 24750 18 3 500 [10, 1, 7, 0, 0, 0, 2, 0, 2, 2, 0, 0, 0] ++
  benchSlotData 200000 [0x66] ++
  benchSlotSync 250000 24750 18 1 80 [10, 1, 7, 0, 0, 0, 3, 0, 0, 3, 0, 0, 0] ++
  benchSlotIdle 250000 ++ [⟨.shouldStop, true⟩]

lemma run_benchTxSlots :
    Run (TxTask.txTask UInt32.toNat plainProtocol plainEncodeFhssSync benchTx 5)
      (⟨.espTimerGetTime, (0 : ℤ)⟩ :: benchTxSlots) (some ()) := by
  repeat apply Run.ask
  exact .ret _

lemma fitsSlot_benchTxPace :
    benchTxPace.FitsSlot UInt32.toNat (TxTask.referenced benchTx 0) :=
  ⟨fun _ => le_rfl, by decide, by decide, by decide, by decide, by decide, by decide⟩

theorem txTask_punctual_bench :
    (txLog 0 benchTxSlots).slots.length = 4 ∧
      Punctual (TxTask.referenced benchTx 0) (0 + 100000) benchTxPace
        (txLog 0 benchTxSlots).slots :=
  ⟨rfl, txTask_punctual rfl le_rfl fitsSlot_benchTxPace run_benchTxSlots (by decide +kernel)⟩

end FhssOtaRadio
