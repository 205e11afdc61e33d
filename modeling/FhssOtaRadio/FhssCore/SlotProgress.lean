import FhssOtaRadio.FhssCore.SyncController
import FhssOtaRadio.Library.Machine

/-!
# After an accepted SYNC packet

What the slot scheduler answers once a SYNC packet for some slot has been accepted.  The answer
is a slot after that one exactly when the start the controller gave the slot has passed: an early
packet, whose slot start moves back by no more than the step cap, leaves a reference in the
future.
-/

namespace FhssOtaRadio

open Machine SlotClock PhaseGain

/-! ## Runs of a controller -/

/-- The calls that reach a controller: its own functions, the scheduler calls of `rx_task` and
`tx_task`, and the new hop sequence of `fhss_service_apply_public_seed`. -/
inductive ControllerCall where
  | processRx (buffer : Bytes) (rxTimestampUs : Int64)
  | recoverRx (buffer : Bytes) (rxTimestampUs : Int64)
  | handleTimeout
  | clearReference
  | setReference (slot : UInt32) (timeUs : Int64)
  | reinitHopSequence (channels : List UInt8) (seed : UInt32) (reservedChannel : UInt8)

variable (protocol : OtaProtocol)

/-- One call. -/
def controllerStep (controller : FhssSyncController) :
    ControllerCall → FhssSyncController × Option FhssCoreRxResult
  | .processRx buffer rxTimestampUs =>
      let (controller, result) :=
        fhssSyncControllerProcessRx protocol controller buffer rxTimestampUs.toInt
      (controller, result.toOption)
  | .recoverRx buffer rxTimestampUs =>
      let (controller, result) :=
        fhssSyncControllerRecoverRx protocol controller buffer rxTimestampUs.toInt
      (controller, result.toOption)
  | .handleTimeout => ((fhssSyncControllerHandleTimeout controller).1, none)
  | .clearReference =>
      match fhssSlotSchedulerClearReference controller.scheduler with
      | .error _ => (controller, none)
      | .ok scheduler => ({ controller with scheduler := scheduler }, none)
  | .setReference slot timeUs =>
      match fhssSlotSchedulerSetReference controller.scheduler slot timeUs.toInt with
      | .error _ => (controller, none)
      | .ok scheduler => ({ controller with scheduler := scheduler }, none)
  | .reinitHopSequence channels seed reservedChannel =>
      match fhssHopSequenceInitSeeded channels seed reservedChannel with
      | .error _ => (controller, none)
      | .ok hopSequence =>
          ({ controller with core := { controller.core with hopSequence := hopSequence } }, none)

/-- The controllers that `fhss_sync_controller_init` builds, from any configuration it accepts. -/
def BuiltController (controller : FhssSyncController) : Prop :=
  ∃ config, fhssSyncControllerInit config = .ok controller

/-- The two calls that take a SYNC packet. -/
inductive SyncEntry where
  | processRx
  | recoverRx

/-- Hand a SYNC packet to one of the two. -/
def acceptSync (entry : SyncEntry) (controller : FhssSyncController) (buffer : Bytes)
    (rxTimestampUs : ℤ) : FhssSyncController × Except FhssControllerStatus FhssCoreRxResult :=
  match entry with
  | .processRx => fhssSyncControllerProcessRx protocol controller buffer rxTimestampUs
  | .recoverRx => fhssSyncControllerRecoverRx protocol controller buffer rxTimestampUs

/-- The start each of the two gives the slot of an accepted packet. -/
def SyncEntry.startOf (entry : SyncEntry) (controller : FhssSyncController) (slot : UInt32)
    (rxTimestampUs : ℤ) : ℤ :=
  match entry with
  | .processRx => controller.correctedStart slot.toNat rxTimestampUs
  | .recoverRx => rxTimestampUs - controller.offset

/-- The slot clock of a controller after it gave a slot its start. -/
def SyncEntry.anchor (entry : SyncEntry) (controller : FhssSyncController) (slot : UInt32)
    (rxTimestampUs : ℤ) : Anchor :=
  ⟨slot.toNat, entry.startOf controller slot rxTimestampUs⟩

section Ready

variable {controller : FhssSyncController}

/-- Every time of an `int64_t` fits. -/
lemma toInt_le_int64Max (timeUs : Int64) : timeUs.toInt ≤ int64Max := by
  have hlt := Int64.toInt_lt timeUs
  unfold int64Max
  omega

/-- Every call keeps a controller ready. -/
lemma controllerReady_step (h : ControllerReady controller) (call : ControllerCall) :
    ControllerReady (controllerStep protocol controller call).1 := by
  cases call with
  | processRx buffer rxTimestampUs =>
    rcases fhssSyncControllerProcessRx_cases protocol h buffer
      (toInt_le_int64Max rxTimestampUs) with
      ⟨status, hreject, -⟩ | ⟨packet, syncTracker, syncEvent, channel, scheduler, last, accumulated,
        -, -, -, htracker, hscheduler, -, -, -, haccept⟩
    · simpa only [controllerStep, hreject] using h
    · simpa only [controllerStep, haccept] using h.updated htracker hscheduler last accumulated
  | recoverRx buffer rxTimestampUs =>
    rcases fhssSyncControllerRecoverRx_cases protocol h buffer rxTimestampUs.toInt with
      ⟨status, hreject, -⟩ | ⟨packet, syncTracker, syncEvent, channel, scheduler, last, accumulated,
        -, -, htracker, hscheduler, -, -, -, haccept⟩
    · simpa only [controllerStep, hreject] using h
    · simpa only [controllerStep, haccept] using h.updated htracker hscheduler last accumulated
  | handleTimeout =>
    obtain ⟨syncTracker, event, scheduler, -, htracker, hscheduler, -, htimeout⟩ :=
      fhssSyncControllerHandleTimeout_eq h
    simpa only [controllerStep, htimeout] using h.updated htracker hscheduler _ _
  | clearReference =>
    obtain ⟨hclear, hready⟩ := clearReference_eq h.scheduler_ready
    simpa only [controllerStep, hclear] using ⟨h.initialized, h.core_ready, hready⟩
  | setReference slot timeUs =>
    rcases setReference_cases h.scheduler_ready slot timeUs.toInt with
      ⟨-, herror⟩ | ⟨-, hok, hready⟩
    · simpa only [controllerStep, herror] using h
    · simpa only [controllerStep, hok] using ⟨h.initialized, h.core_ready, hready⟩
  | reinitHopSequence channels seed reservedChannel =>
    cases hhop : fhssHopSequenceInitSeeded channels seed reservedChannel with
    | error status => simpa only [controllerStep, hhop] using h
    | ok hopSequence =>
      simpa only [controllerStep, hhop] using ⟨h.initialized, ⟨h.core_ready.initialized,
        initialized_of_fhssHopSequenceInitSeeded hhop, h.core_ready.tracker_ready⟩,
        h.scheduler_ready⟩

/-- Every reachable controller is ready. -/
lemma controllerReady_of_reachable
    (hreach : Reachable (controllerStep protocol) BuiltController controller) :
    ControllerReady controller := by
  obtain ⟨controller₀, calls, ⟨config, hinit⟩, rfl⟩ := hreach
  exact @invariant_run _ _ _ (controllerStep protocol) ControllerReady
    (fun _ call h => controllerReady_step protocol h call) _ (controllerReady_init hinit).1 calls

/-! ## The start of an accepted slot -/

/-- After an accepted packet inside the window the scheduler runs from the start the controller
gave the slot. -/
lemma runsFrom_acceptSync (h : ControllerReady controller) {entry : SyncEntry} {buffer : Bytes}
    {rxTimestampUs : ℤ} (hmax : rxTimestampUs ≤ int64Max) {controller' : FhssSyncController}
    {result : FhssCoreRxResult}
    (haccept : acceptSync protocol entry controller buffer rxTimestampUs =
      (controller', .ok result))
    (hinside : result.timing.result = .insideWindow) :
    SchedulerReady controller'.scheduler ∧
      controller'.scheduler.duration = controller.scheduler.duration ∧
      RunsFrom controller'.scheduler result.packet.slotNumber
        (entry.startOf controller result.packet.slotNumber rxTimestampUs) := by
  have hduration : ∀ {scheduler : FhssSlotScheduler},
      scheduler.config = controller.scheduler.config →
      scheduler.duration = controller.scheduler.duration := by
    intro scheduler hconfig
    unfold FhssSlotScheduler.duration
    rw [hconfig]
  cases entry with
  | processRx =>
    change fhssSyncControllerProcessRx protocol controller buffer rxTimestampUs = _ at haccept
    rcases fhssSyncControllerProcessRx_cases protocol h buffer hmax with
      ⟨status, hreject, -⟩ | ⟨packet, syncTracker, syncEvent, channel, scheduler, last, accumulated,
        -, -, -, -, hscheduler, hconfig, -, heffect, hok⟩
    · rw [hreject] at haccept
      cases haccept
    · rw [hok] at haccept
      obtain ⟨rfl, hresult⟩ := Prod.mk.inj haccept
      obtain rfl := Except.ok.inj hresult
      exact ⟨hscheduler, hduration hconfig, (anchorEffect_inside hinside).mp heffect⟩
  | recoverRx =>
    change fhssSyncControllerRecoverRx protocol controller buffer rxTimestampUs = _ at haccept
    rcases fhssSyncControllerRecoverRx_cases protocol h buffer rxTimestampUs with
      ⟨status, hreject, -⟩ | ⟨packet, syncTracker, syncEvent, channel, scheduler, last, accumulated,
        -, -, -, hscheduler, hconfig, -, hruns, hok⟩
    · rw [hreject] at haccept
      cases haccept
    · rw [hok] at haccept
      obtain ⟨rfl, hresult⟩ := Prod.mk.inj haccept
      obtain rfl := Except.ok.inj hresult
      exact ⟨hscheduler, hduration hconfig, hruns⟩

/-- A recovery sample and the first SYNC packet never give their slot a start in the future. -/
lemma startOf_le_of_observed {entry : SyncEntry} {slot : UInt32} {rxTimestampUs : ℤ}
    (hobserved : entry = .recoverRx ∨ controller.scheduler.synchronized = false) :
    entry.startOf controller slot rxTimestampUs ≤ rxTimestampUs := by
  have hoffset : 0 ≤ controller.offset := Int.natCast_nonneg _
  rcases hobserved with rfl | hsync
  · change rxTimestampUs - controller.offset ≤ rxTimestampUs
    omega
  · cases entry with
    | recoverRx =>
      change rxTimestampUs - controller.offset ≤ rxTimestampUs
      omega
    | processRx =>
      change controller.correctedStart slot.toNat rxTimestampUs ≤ rxTimestampUs
      unfold FhssSyncController.correctedStart
      rw [if_neg (by simp [hsync])]
      omega

/-- A SYNC packet that is not early never gives its slot a start in the future. -/
lemma startOf_le_of_not_early {slot : UInt32} {rxTimestampUs : ℤ}
    (hearly : controller.expectedRxTime slot.toNat rxTimestampUs ≤ rxTimestampUs) :
    SyncEntry.processRx.startOf controller slot rxTimestampUs ≤ rxTimestampUs := by
  have hoffset : 0 ≤ controller.offset := Int.natCast_nonneg _
  by_cases hsync : controller.scheduler.synchronized = false
  · exact startOf_le_of_observed (.inr hsync)
  have hsync : controller.scheduler.synchronized = true := by simpa using hsync
  have hmem := (@correctedStart_mem controller slot.toNat rxTimestampUs hsync).2
  unfold FhssSyncController.expectedRxTime at hearly
  rw [if_pos hsync] at hearly
  change controller.correctedStart slot.toNat rxTimestampUs ≤ rxTimestampUs
  omega

end Ready

/-- **Slot progress.**  After a SYNC packet for a slot was accepted inside the window, the
scheduler returns a slot after it at a later time exactly when the start the controller gave the
slot has passed by then and the start of the returned slot fits 64 bits. -/
theorem fhssSyncController_getNextSwitchTime_iff {controller : FhssSyncController}
    (hreach : Reachable (controllerStep protocol) BuiltController controller)
    (entry : SyncEntry) (buffer : Bytes) (rxTimestampUs nowUs : Int64)
    {controller' : FhssSyncController} {result : FhssCoreRxResult}
    (haccept : acceptSync protocol entry controller buffer rxTimestampUs.toInt =
      (controller', .ok result))
    (hinside : result.timing.result = .insideWindow)
    (hfits : slotAt controller.scheduler.duration
      (entry.anchor controller result.packet.slotNumber rxTimestampUs.toInt) nowUs.toInt + 1 <
        2 ^ 32) :
    (∃ nextSlot switchTimeUs,
      fhssSlotSchedulerGetNextSwitchTime controller'.scheduler nowUs.toInt =
        .ok (nextSlot, switchTimeUs) ∧ result.packet.slotNumber < nextSlot) ↔
      entry.startOf controller result.packet.slotNumber rxTimestampUs.toInt ≤ nowUs.toInt ∧
        slotStart controller.scheduler.duration
          (entry.anchor controller result.packet.slotNumber rxTimestampUs.toInt)
          (slotAt controller.scheduler.duration
            (entry.anchor controller result.packet.slotNumber rxTimestampUs.toInt)
            nowUs.toInt + 1) ≤ int64Max := by
  obtain ⟨hready', hduration, hruns⟩ := runsFrom_acceptSync protocol
    (controllerReady_of_reachable protocol hreach) (toInt_le_int64Max rxTimestampUs) haccept
    hinside
  -- The clock of the scheduler is the one anchored at the start of the accepted slot.
  have hanchor : entry.anchor controller result.packet.slotNumber rxTimestampUs.toInt =
      ⟨result.packet.slotNumber.toNat, slotStart controller'.scheduler.duration
        controller'.scheduler.anchor result.packet.slotNumber.toNat⟩ := by
    rw [hruns.start_eq]
    rfl
  rw [hanchor, ← hduration, slotAt_anchor hready'.duration_pos] at hfits ⊢
  rw [slotStart_anchor, ← hruns.start_eq]
  exact getNextSwitchTime_after_iff hready' hruns.synchronized hruns.reference_le hfits

/-! ## An early packet -/

/-- The controller configuration of the voice service, with three channels. -/
def sampleControllerConfig : FhssSyncControllerConfig where
  core := ⟨[1, 2, 3], 0x1234, 7, 0, ⟨20000, 20000⟩, ⟨3, 5⟩⟩
  scheduler := ⟨300000, 5000⟩
  syncOffsetUs := 0
  correctionDeadbandUs := 500
  correctionFastThresholdUs := 2000
  correctionSlowDivisor := 8
  correctionFastDivisor := 2
  correctionMaxStepUs := 500

/-- The controller built from the sample configuration. -/
def sampleController : FhssSyncController :=
  (fhssSyncControllerInit sampleControllerConfig).toOption.getD .zero

/-- The SYNC packet of a slot of generation 7: the sample seed leaves the three channels in
order. -/
def sampleSync (slot : UInt32) : Bytes :=
  [10, 1] ++ u32LeBytes 7 ++ [0, 0, (slot % 3).toUInt8] ++ u32LeBytes slot

lemma fhssSyncControllerInit_sample :
    fhssSyncControllerInit sampleControllerConfig = .ok sampleController := by
  decide

/-- The sample controller after its first SYNC packet: slot 0 starts at one second. -/
def sampleSynchronized : FhssSyncController :=
  (controllerStep plainProtocol sampleController (.processRx (sampleSync 0) 1000000)).1

lemma reachable_sampleSynchronized :
    Reachable (controllerStep plainProtocol) BuiltController sampleSynchronized :=
  ⟨sampleController, [.processRx (sampleSync 0) 1000000], ⟨_, fhssSyncControllerInit_sample⟩, rfl⟩

/-- What the core reports of an accepted sample packet with a given timing error. -/
def sampleRxResult (timingErrorUs : ℤ) : FhssCoreRxResult :=
  ⟨⟨1, 7, 0, 0, 3⟩, ⟨timingErrorUs, .insideWindow⟩, .none, .searching, 0, 1⟩

/-- The SYNC packet of slot 3 arrives on time, and at that time slot 4 is the next one. -/
theorem fhssSyncController_getNextSwitchTime_on_time :
    ∃ nextSlot switchTimeUs,
      fhssSlotSchedulerGetNextSwitchTime (controllerStep plainProtocol sampleSynchronized
        (.processRx (sampleSync 3) 1900000)).1.scheduler 1900000 =
        .ok (nextSlot, switchTimeUs) ∧ 3 < nextSlot := by
  have haccept : acceptSync plainProtocol .processRx sampleSynchronized (sampleSync 3)
      (1900000 : Int64).toInt = ((controllerStep plainProtocol sampleSynchronized
        (.processRx (sampleSync 3) 1900000)).1, .ok (sampleRxResult 0)) := by
    decide
  exact (fhssSyncController_getNextSwitchTime_iff plainProtocol reachable_sampleSynchronized
    .processRx (sampleSync 3) 1900000 1900000 haccept rfl (by decide)).mpr (by decide)

/-- The SYNC packet of slot 3 arrives 10 ms early, inside the window of 20 ms.  The controller
accepts it, gives its slot a start 9.5 ms in the future, and 1 ms later the scheduler has no
answer, although the slot count is far from 32 bits. -/
theorem fhssSyncController_early_sync_loses_slot :
    Reachable (controllerStep plainProtocol) BuiltController sampleSynchronized ∧
      fhssSyncControllerProcessRx plainProtocol sampleSynchronized (sampleSync 3) 1890000 =
        ((controllerStep plainProtocol sampleSynchronized
          (.processRx (sampleSync 3) 1890000)).1, .ok (sampleRxResult (-10000))) ∧
      slotAt 300000 (SyncEntry.processRx.anchor sampleSynchronized 3 1890000) 1891000 + 1 <
        2 ^ 32 ∧
      fhssSlotSchedulerGetNextSwitchTime (controllerStep plainProtocol sampleSynchronized
        (.processRx (sampleSync 3) 1890000)).1.scheduler 1891000 = .error .beforeReference := by
  refine ⟨reachable_sampleSynchronized, ?_⟩
  decide

end FhssOtaRadio
