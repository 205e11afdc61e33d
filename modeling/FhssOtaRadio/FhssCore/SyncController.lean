import FhssOtaRadio.FhssCore.Core
import FhssOtaRadio.FhssCore.SlotScheduler
import FhssOtaRadio.Library.PhaseGain

/-!
# The sync controller (`fhss_sync_controller.c`)

The controller joins the core to the slot scheduler.  The first SYNC packet it accepts anchors
the scheduler at the time it was observed; every later one that arrives inside the timing window
moves the predicted start of its slot by a bounded correction.  A recovery sample anchors the
scheduler at the observed time again.
-/

namespace FhssOtaRadio

variable (protocol : OtaProtocol)

/-- `fhss_sync_controller_status_t` without `OK`. -/
inductive FhssControllerStatus where
  | invalidArg
  | notInitialized
  | packetError
  | coreError
  | schedulerError
  deriving DecidableEq, Repr

/-- `fhss_sync_controller_config_t`. -/
structure FhssSyncControllerConfig where
  core : FhssCoreConfig
  scheduler : FhssSlotSchedulerConfig
  syncOffsetUs : UInt32
  correctionDeadbandUs : UInt32
  correctionFastThresholdUs : UInt32
  correctionSlowDivisor : UInt32
  correctionFastDivisor : UInt32
  correctionMaxStepUs : UInt32
  deriving DecidableEq

/-- `fhss_sync_controller_t`. -/
structure FhssSyncController where
  core : FhssCore
  scheduler : FhssSlotScheduler
  syncOffsetUs : UInt32
  correctionDeadbandUs : UInt32
  correctionFastThresholdUs : UInt32
  correctionSlowDivisor : UInt32
  correctionFastDivisor : UInt32
  correctionMaxStepUs : UInt32
  lastPhaseCorrectionUs : ℤ
  accumulatedPhaseCorrectionUs : ℤ
  initialized : Bool
  deriving DecidableEq

/-- A controller of zero bytes. -/
def FhssSyncController.zero : FhssSyncController :=
  ⟨.zero, .zero, 0, 0, 0, 0, 0, 0, 0, 0, false⟩

/-- `sync_offset_us` as a time. -/
def FhssSyncController.offset (controller : FhssSyncController) : ℤ :=
  controller.syncOffsetUs.toNat

/-- `calculate_phase_correction`. -/
def calculatePhaseCorrection (controller : FhssSyncController) (timingErrorUs : ℤ) : ℤ :=
  let magnitude := timingErrorUs.natAbs
  if magnitude ≤ controller.correctionDeadbandUs.toNat then 0
  else
    let slowLimit := controller.correctionFastThresholdUs.toNat
    let slowMagnitude := if magnitude < slowLimit then magnitude else slowLimit
    let correctionMagnitude :=
      (slowMagnitude - controller.correctionDeadbandUs.toNat) /
        controller.correctionSlowDivisor.toNat
    let correctionMagnitude :=
      if slowLimit < magnitude then
        correctionMagnitude + (magnitude - slowLimit) / controller.correctionFastDivisor.toNat
      else correctionMagnitude
    let correctionMagnitude := if correctionMagnitude = 0 then 1 else correctionMagnitude
    let correctionMagnitude :=
      if controller.correctionMaxStepUs.toNat < correctionMagnitude then
        controller.correctionMaxStepUs.toNat
      else correctionMagnitude
    if timingErrorUs < 0 then -(correctionMagnitude : ℤ) else correctionMagnitude

/-- `fhss_sync_controller_init`. -/
def fhssSyncControllerInit (config : FhssSyncControllerConfig) :
    Except FhssControllerStatus FhssSyncController :=
  if config.correctionSlowDivisor = 0 ∨ config.correctionFastDivisor = 0 ∨
      config.correctionMaxStepUs = 0 ∨
      config.correctionFastThresholdUs < config.correctionDeadbandUs then .error .invalidArg
  else
    match fhssCoreInit config.core with
    | .error _ => .error .coreError
    | .ok core =>
        match fhssSlotSchedulerInit config.scheduler with
        | .error _ => .error .schedulerError
        | .ok scheduler =>
            .ok
              { core := core
                scheduler := scheduler
                syncOffsetUs := config.syncOffsetUs
                correctionDeadbandUs := config.correctionDeadbandUs
                correctionFastThresholdUs := config.correctionFastThresholdUs
                correctionSlowDivisor := config.correctionSlowDivisor
                correctionFastDivisor := config.correctionFastDivisor
                correctionMaxStepUs := config.correctionMaxStepUs
                lastPhaseCorrectionUs := 0
                accumulatedPhaseCorrectionUs := 0
                initialized := true }

/-- Book a phase correction in the two diagnostic fields. -/
def FhssSyncController.booking (controller : FhssSyncController) (correctionUs : ℤ) :
    FhssSyncController :=
  { controller with
    lastPhaseCorrectionUs := correctionUs
    accumulatedPhaseCorrectionUs := controller.accumulatedPhaseCorrectionUs + correctionUs }

/-- The end of `fhss_sync_controller_process_rx`: the reference a packet gives the scheduler once
the core has accepted it.  `controller` holds the updated core. -/
def fhssSyncControllerAnchor (controller : FhssSyncController) (slotNumber : UInt32)
    (observedSlotStartUs : ℤ) (result : FhssCoreRxResult) :
    FhssSyncController × Except FhssControllerStatus FhssCoreRxResult :=
  if controller.scheduler.synchronized = false then
    match fhssSlotSchedulerSetReference controller.scheduler slotNumber observedSlotStartUs with
    | .error _ => (controller, .error .schedulerError)
    | .ok scheduler =>
        (({ controller with scheduler := scheduler }).booking result.timing.timingErrorUs,
          .ok result)
  else if result.timing.result = .insideWindow then
    match fhssSlotSchedulerGetSlotStartTime controller.scheduler slotNumber with
    | .error _ => (controller, .error .schedulerError)
    | .ok expectedSlotStartUs =>
        let correctionUs := calculatePhaseCorrection controller result.timing.timingErrorUs
        if correctionUs ≠ 0 then
          -- The sum of start and correction must fit `int64_t`.
          if (0 < correctionUs ∧ int64Max - correctionUs < expectedSlotStartUs) ∨
              (correctionUs < 0 ∧ expectedSlotStartUs < -int64Max - 1 - correctionUs) then
            (controller, .error .schedulerError)
          else
            match fhssSlotSchedulerSetReference controller.scheduler slotNumber
                (expectedSlotStartUs + correctionUs) with
            | .error _ => (controller, .error .schedulerError)
            | .ok scheduler =>
                (({ controller with scheduler := scheduler }).booking correctionUs, .ok result)
        else (controller.booking correctionUs, .ok result)
  else (controller, .ok result)

/-- `fhss_sync_controller_process_rx`: the controller afterwards and the result. -/
def fhssSyncControllerProcessRx (controller : FhssSyncController) (buffer : Bytes)
    (rxTimestampUs : ℤ) : FhssSyncController × Except FhssControllerStatus FhssCoreRxResult :=
  if rxTimestampUs < 0 then (controller, .error .invalidArg)
  else if controller.initialized = false then (controller, .error .notInitialized)
  else
    match fhssSyncPacketDecode protocol buffer with
    | .error _ => (controller, .error .packetError)
    | .ok packet =>
        if rxTimestampUs < controller.offset then (controller, .error .invalidArg)
        else
          let observedSlotStartUs := rxTimestampUs - controller.offset
          match if controller.scheduler.synchronized = true then
              (fhssSlotSchedulerGetSlotStartTime controller.scheduler packet.slotNumber).map
                (· + controller.offset)
            else .ok rxTimestampUs with
          | .error _ => (controller, .error .schedulerError)
          | .ok expectedRxTimeUs =>
              match fhssCoreProcessRx protocol controller.core buffer expectedRxTimeUs
                  rxTimestampUs with
              | (core, .error _) => ({ controller with core := core }, .error .coreError)
              | (core, .ok result) =>
                  fhssSyncControllerAnchor { controller with core := core } packet.slotNumber
                    observedSlotStartUs result

/-- `fhss_sync_controller_handle_timeout`: the controller afterwards, `*out_event` and
`*out_state`. -/
def fhssSyncControllerHandleTimeout (controller : FhssSyncController) :
    FhssSyncController × Except FhssControllerStatus (FhssSyncEvent × FhssSyncState) :=
  if controller.initialized = false then (controller, .error .notInitialized)
  else
    match fhssCoreHandleTimeout controller.core with
    | (core, .error _) => ({ controller with core := core }, .error .coreError)
    | (core, .ok (event, state)) =>
        let controller := { controller with core := core }
        if event = .lost then
          match fhssSlotSchedulerClearReference controller.scheduler with
          | .error _ => (controller, .error .schedulerError)
          | .ok scheduler => ({ controller with scheduler := scheduler }, .ok (event, state))
        else (controller, .ok (event, state))

/-- `fhss_sync_controller_recover_rx`: the controller afterwards and the result. -/
def fhssSyncControllerRecoverRx (controller : FhssSyncController) (buffer : Bytes)
    (rxTimestampUs : ℤ) : FhssSyncController × Except FhssControllerStatus FhssCoreRxResult :=
  if rxTimestampUs < controller.offset then (controller, .error .invalidArg)
  else if controller.initialized = false then (controller, .error .notInitialized)
  else
    match fhssCoreProcessRx protocol controller.core buffer rxTimestampUs rxTimestampUs with
    | (core, .error _) => ({ controller with core := core }, .error .coreError)
    | (core, .ok result) =>
        let observedSlotStartUs := rxTimestampUs - controller.offset
        match fhssSlotSchedulerSetReference controller.scheduler result.packet.slotNumber
            observedSlotStartUs with
        | .error _ => ({ controller with core := core }, .error .schedulerError)
        | .ok scheduler =>
            (({ controller with core := core, scheduler := scheduler }).booking
              result.timing.timingErrorUs, .ok result)

/-! ## The correction as a phase gain -/

open PhaseGain

/-- The phase gain of a controller. -/
def FhssSyncController.gain (controller : FhssSyncController) : Gain where
  deadband := controller.correctionDeadbandUs.toNat
  knee := controller.correctionFastThresholdUs.toNat
  slowDivisor := controller.correctionSlowDivisor.toNat
  fastDivisor := controller.correctionFastDivisor.toNat
  maxStep := controller.correctionMaxStepUs.toNat

/-- `calculate_phase_correction` computes the correction of the controller's phase gain. -/
lemma calculatePhaseCorrection_eq (controller : FhssSyncController) (timingErrorUs : ℤ) :
    calculatePhaseCorrection controller timingErrorUs =
      correction controller.gain timingErrorUs := by
  unfold calculatePhaseCorrection correction PhaseGain.gain FhssSyncController.gain
  dsimp only
  by_cases hdead : timingErrorUs.natAbs ≤ controller.correctionDeadbandUs.toNat
  · rw [if_pos hdead, if_pos hdead]
    simp
  rw [if_neg hdead, if_neg hdead]
  have hslow : (if timingErrorUs.natAbs < controller.correctionFastThresholdUs.toNat then
      timingErrorUs.natAbs else controller.correctionFastThresholdUs.toNat) =
      min timingErrorUs.natAbs controller.correctionFastThresholdUs.toNat := by
    split_ifs <;> omega
  rw [hslow]
  generalize (min timingErrorUs.natAbs controller.correctionFastThresholdUs.toNat -
    controller.correctionDeadbandUs.toNat) / controller.correctionSlowDivisor.toNat = slow
  have hfast : (if controller.correctionFastThresholdUs.toNat < timingErrorUs.natAbs then
      slow + (timingErrorUs.natAbs - controller.correctionFastThresholdUs.toNat) /
        controller.correctionFastDivisor.toNat else slow) =
      slow + (timingErrorUs.natAbs - controller.correctionFastThresholdUs.toNat) /
        controller.correctionFastDivisor.toNat := by
    split_ifs with hknee
    · rfl
    · rw [Nat.sub_eq_zero_of_le (not_lt.mp hknee), Nat.zero_div, Nat.add_zero]
  rw [hfast]
  generalize slow + (timingErrorUs.natAbs - controller.correctionFastThresholdUs.toNat) /
    controller.correctionFastDivisor.toNat = size
  have hbound : (if controller.correctionMaxStepUs.toNat < (if size = 0 then 1 else size) then
      controller.correctionMaxStepUs.toNat else (if size = 0 then 1 else size)) =
      min controller.correctionMaxStepUs.toNat (max 1 size) := by
    split_ifs <;> omega
  rw [hbound]
  rcases lt_trichotomy timingErrorUs 0 with hneg | rfl | hpos
  · rw [if_pos hneg, Int.sign_eq_neg_one_of_neg hneg, neg_one_mul]
  · exact absurd (Nat.zero_le _) hdead
  · rw [if_neg (by omega), Int.sign_eq_one_of_pos hpos, one_mul]

/-! ## What the controller accepts -/

open SlotClock

/-- A controller that can answer. -/
structure ControllerReady (controller : FhssSyncController) : Prop where
  initialized : controller.initialized = true
  core_ready : CoreReady controller.core
  scheduler_ready : SchedulerReady controller.scheduler

/-- The start a synchronized controller predicts for a slot. -/
def FhssSyncController.predictedStart (controller : FhssSyncController) (slot : ℤ) : ℤ :=
  slotStart controller.scheduler.duration controller.scheduler.anchor slot

/-- The scheduler of a synchronized controller has no start for the slot of a SYNC packet. -/
def FhssSyncController.LacksStart (controller : FhssSyncController) (buffer : Bytes) : Prop :=
  controller.scheduler.synchronized = true ∧ ∃ packet status,
    fhssSyncPacketDecode protocol buffer = .ok packet ∧
      fhssSlotSchedulerGetSlotStartTime controller.scheduler packet.slotNumber = .error status

/-- The time a controller expects the SYNC packet of a slot that arrives at `rxTimestampUs`: an
unsynchronized controller takes every time as expected. -/
def FhssSyncController.expectedRxTime (controller : FhssSyncController) (slot : ℤ)
    (rxTimestampUs : ℤ) : ℤ :=
  if controller.scheduler.synchronized = true then controller.predictedStart slot + controller.offset
  else rxTimestampUs

/-- The start a controller gives the slot of a SYNC packet: the observed one when it is not
synchronized, else the predicted one moved towards the observation by the phase gain. -/
def FhssSyncController.correctedStart (controller : FhssSyncController) (slot : ℤ)
    (rxTimestampUs : ℤ) : ℤ :=
  if controller.scheduler.synchronized = true then
    controller.predictedStart slot + correction controller.gain
      (rxTimestampUs - (controller.predictedStart slot + controller.offset))
  else rxTimestampUs - controller.offset

/-- A scheduler runs the slot clock that starts slot `slot` at `start`, from a reference that is
not after the slot. -/
structure RunsFrom (scheduler : FhssSlotScheduler) (slot : UInt32) (start : ℤ) : Prop where
  synchronized : scheduler.synchronized = true
  reference_le : scheduler.referenceSlot.toNat ≤ slot.toNat
  start_eq : slotStart scheduler.duration scheduler.anchor slot.toNat = start

/-- What an accepted SYNC packet does to the scheduler, depending on the timing window. -/
def AnchorEffect (controller : FhssSyncController) (slot : UInt32) (rxTimestampUs : ℤ)
    (result : FhssTimingWindowResult) (scheduler : FhssSlotScheduler) : Prop :=
  if result = .insideWindow then
    RunsFrom scheduler slot (controller.correctedStart slot.toNat rxTimestampUs)
  else scheduler = controller.scheduler ∧ scheduler.synchronized = true

lemma anchorEffect_inside {controller : FhssSyncController} {slot : UInt32} {rxTimestampUs : ℤ}
    {result : FhssTimingWindowResult} {scheduler : FhssSlotScheduler}
    (hinside : result = .insideWindow) :
    AnchorEffect controller slot rxTimestampUs result scheduler ↔
      RunsFrom scheduler slot (controller.correctedStart slot.toNat rxTimestampUs) := by
  unfold AnchorEffect
  rw [if_pos hinside]

lemma anchorEffect_outside {controller : FhssSyncController} {slot : UInt32} {rxTimestampUs : ℤ}
    {result : FhssTimingWindowResult} {scheduler : FhssSlotScheduler}
    (houtside : result ≠ .insideWindow) :
    AnchorEffect controller slot rxTimestampUs result scheduler ↔
      scheduler = controller.scheduler ∧ scheduler.synchronized = true := by
  unfold AnchorEffect
  rw [if_neg houtside]

/-- The controller with a new core, scheduler and bookkeeping; the parameters stay. -/
def FhssSyncController.updated (controller : FhssSyncController)
    (syncTracker : FhssSyncStateTracker) (scheduler : FhssSlotScheduler) (last accumulated : ℤ) :
    FhssSyncController :=
  { controller with
    core := { controller.core with syncTracker := syncTracker }
    scheduler := scheduler
    lastPhaseCorrectionUs := last
    accumulatedPhaseCorrectionUs := accumulated }

section Ready

variable {controller : FhssSyncController}

/-- What a controller was built from. -/
lemma fhssSyncControllerInit_ok {config : FhssSyncControllerConfig}
    (h : fhssSyncControllerInit config = .ok controller) :
    controller.correctionMaxStepUs ≠ 0 ∧
      controller.correctionDeadbandUs ≤ controller.correctionFastThresholdUs ∧
      fhssCoreInit config.core = .ok controller.core ∧
      fhssSlotSchedulerInit config.scheduler = .ok controller.scheduler ∧
      controller.initialized = true := by
  unfold fhssSyncControllerInit at h
  split_ifs at h with hconfig
  rw [not_or, not_or, not_or, UInt32.not_lt] at hconfig
  cases hcore : fhssCoreInit config.core with
  | error status =>
    rw [hcore] at h
    cases h
  | ok core =>
    rw [hcore] at h
    dsimp only at h
    cases hscheduler : fhssSlotSchedulerInit config.scheduler with
    | error status =>
      rw [hscheduler] at h
      cases h
    | ok scheduler =>
      rw [hscheduler] at h
      obtain rfl := Except.ok.inj h
      exact ⟨hconfig.2.2.1, hconfig.2.2.2, rfl, rfl, rfl⟩

/-- A controller that was built is ready and not synchronized, and its core comes from the
configuration. -/
lemma controllerReady_init {config : FhssSyncControllerConfig}
    (h : fhssSyncControllerInit config = .ok controller) :
    ControllerReady controller ∧ controller.scheduler.synchronized = false ∧
      fhssCoreInit config.core = .ok controller.core := by
  obtain ⟨-, -, hcore, hscheduler, hinitialized⟩ := fhssSyncControllerInit_ok h
  obtain ⟨hready, hsync⟩ := schedulerReady_init hscheduler
  exact ⟨⟨hinitialized, (coreReady_init hcore).1, hready⟩, hsync, hcore⟩

/-- A ready controller stays ready under updates of its tracker and its scheduler. -/
lemma ControllerReady.updated (h : ControllerReady controller)
    {syncTracker : FhssSyncStateTracker} (htracker : TrackerReady syncTracker)
    {scheduler : FhssSlotScheduler} (hscheduler : SchedulerReady scheduler)
    (last accumulated : ℤ) :
    ControllerReady (controller.updated syncTracker scheduler last accumulated) :=
  ⟨h.initialized, ⟨h.core_ready.initialized, h.core_ready.hop_initialized, htracker⟩, hscheduler⟩

/-- The corrected start of an accepted packet is neither negative nor after the observation by
more than the prediction is: it lies between the predicted and the observed start. -/
lemma correctedStart_mem (slot rxTimestampUs : ℤ)
    (hsync : controller.scheduler.synchronized = true) :
    min (controller.predictedStart slot) (rxTimestampUs - controller.offset) ≤
        controller.correctedStart slot rxTimestampUs ∧
      controller.correctedStart slot rxTimestampUs ≤
        max (controller.predictedStart slot) (rxTimestampUs - controller.offset) := by
  have hmem := correction_mem controller.gain
    (rxTimestampUs - (controller.predictedStart slot + controller.offset))
  unfold FhssSyncController.correctedStart
  rw [if_pos hsync]
  omega

/-- Once the core has accepted a packet, the controller always finds a reference for it. -/
lemma fhssSyncControllerAnchor_eq (hready : SchedulerReady controller.scheduler)
    {slot : UInt32} {rxTimestampUs : ℤ} (hoffset : controller.offset ≤ rxTimestampUs)
    (hmax : rxTimestampUs ≤ int64Max)
    (hstart : controller.scheduler.synchronized = true →
      fhssSlotSchedulerGetSlotStartTime controller.scheduler slot =
        .ok (controller.predictedStart slot.toNat))
    (result : FhssCoreRxResult)
    (herror : result.timing.timingErrorUs =
      rxTimestampUs - controller.expectedRxTime slot.toNat rxTimestampUs)
    (hinside : controller.scheduler.synchronized = false → result.timing.result = .insideWindow) :
    ∃ scheduler last accumulated, SchedulerReady scheduler ∧
      scheduler.config = controller.scheduler.config ∧
      AnchorEffect controller slot rxTimestampUs result.timing.result scheduler ∧
      fhssSyncControllerAnchor controller slot (rxTimestampUs - controller.offset) result =
        (controller.updated controller.core.syncTracker scheduler last accumulated,
          .ok result) := by
  have hoffset_nonneg : 0 ≤ controller.offset := Int.natCast_nonneg _
  unfold fhssSyncControllerAnchor
  by_cases hsync : controller.scheduler.synchronized = false
  · -- The first packet: the observed start becomes the reference.
    rw [if_pos hsync]
    rcases setReference_cases hready slot (rxTimestampUs - controller.offset) with
      ⟨hneg, -⟩ | ⟨-, hok, hset⟩
    · omega
    rw [hok]
    refine ⟨_, _, _, hset, rfl, (anchorEffect_inside (hinside hsync)).mpr ⟨rfl, le_refl _, ?_⟩, rfl⟩
    unfold slotStart FhssSlotScheduler.anchor FhssSyncController.correctedStart
    rw [if_neg (by simp [hsync])]
    simp
  rw [if_neg hsync]
  have hsync : controller.scheduler.synchronized = true := by simpa using hsync
  by_cases hwindow : result.timing.result = .insideWindow
  · rw [if_pos hwindow, hstart hsync]
    have hmem := @correctedStart_mem controller slot.toNat rxTimestampUs hsync
    obtain ⟨href, -, hpredMax⟩ :=
      (getSlotStartTime_eq_ok_iff hready hsync slot _).mp (hstart hsync)
    have hpredNonneg : 0 ≤ controller.predictedStart slot.toNat := by
      have hmul : 0 ≤ ((slot.toNat : ℤ) - controller.scheduler.anchor.slot) *
          controller.scheduler.duration := by
        refine mul_nonneg ?_ hready.duration_pos.le
        unfold FhssSlotScheduler.anchor
        dsimp only
        omega
      have := hready.reference_nonneg
      unfold FhssSyncController.predictedStart slotStart FhssSlotScheduler.anchor
      unfold FhssSlotScheduler.anchor at hmul
      dsimp only at hmul ⊢
      linarith
    have hcorrected : controller.correctedStart slot.toNat rxTimestampUs =
        controller.predictedStart slot.toNat +
          calculatePhaseCorrection controller result.timing.timingErrorUs := by
      rw [calculatePhaseCorrection_eq, herror]
      unfold FhssSyncController.correctedStart FhssSyncController.expectedRxTime
      rw [if_pos hsync, if_pos hsync]
    dsimp only
    rw [hcorrected] at hmem
    generalize calculatePhaseCorrection controller result.timing.timingErrorUs = correctionUs
      at hmem hcorrected ⊢
    by_cases hzero : correctionUs = 0
    · rw [if_neg (by simpa using hzero)]
      refine ⟨_, _, _, hready, rfl, (anchorEffect_inside hwindow).mpr ⟨hsync, href, ?_⟩, rfl⟩
      rw [hcorrected, hzero, add_zero]
      rfl
    · rw [if_pos hzero, if_neg]
      · rcases setReference_cases hready slot
            (controller.predictedStart slot.toNat + correctionUs) with ⟨hneg, -⟩ | ⟨-, hok, hset⟩
        · omega
        rw [hok]
        refine ⟨_, _, _, hset, rfl, (anchorEffect_inside hwindow).mpr ⟨rfl, le_refl _, ?_⟩, rfl⟩
        rw [hcorrected]
        unfold slotStart FhssSlotScheduler.anchor
        simp
      · -- The corrected start lies between two times that fit.
        rintro (⟨-, hover⟩ | ⟨-, hunder⟩)
        · omega
        · unfold int64Max at hunder hpredMax
          omega
  · rw [if_neg hwindow]
    exact ⟨_, _, _, hready, rfl, (anchorEffect_outside hwindow).mpr ⟨rfl, hsync⟩, rfl⟩

/-- A ready controller rejects a SYNC packet and stays as it is, or accepts it: then the tracker
takes it as valid or as a miss, and the scheduler is anchored, as the timing window says.  A
rejection blames the scheduler only when that has no start for the slot; a packet that the core
accepts and that is no earlier than the offset is rejected for no other reason. -/
lemma fhssSyncControllerProcessRx_cases (h : ControllerReady controller) (buffer : Bytes)
    {rxTimestampUs : ℤ} (hmax : rxTimestampUs ≤ int64Max) :
    (∃ status, fhssSyncControllerProcessRx protocol controller buffer rxTimestampUs =
        (controller, .error status) ∧
      (status = .schedulerError → controller.LacksStart protocol buffer) ∧
      ∀ packet, CoreAccepts protocol controller.core buffer packet →
        controller.offset ≤ rxTimestampUs → controller.LacksStart protocol buffer) ∨
    ∃ packet syncTracker syncEvent channel scheduler last accumulated,
      CoreAccepts protocol controller.core buffer packet ∧
      0 ≤ rxTimestampUs ∧ controller.offset ≤ rxTimestampUs ∧
      TrackerReady syncTracker ∧ SchedulerReady scheduler ∧
      scheduler.config = controller.scheduler.config ∧
      (if (fhssTimingWindowEvaluate controller.core.timingConfig
          (controller.expectedRxTime packet.slotNumber.toNat rxTimestampUs)
          rxTimestampUs).result = .insideWindow
        then fhssSyncStateOnValid controller.core.syncTracker
        else fhssSyncStateOnMiss controller.core.syncTracker) = .ok (syncTracker, syncEvent) ∧
      AnchorEffect controller packet.slotNumber rxTimestampUs
        (fhssTimingWindowEvaluate controller.core.timingConfig
          (controller.expectedRxTime packet.slotNumber.toNat rxTimestampUs)
          rxTimestampUs).result scheduler ∧
      fhssSyncControllerProcessRx protocol controller buffer rxTimestampUs =
        (controller.updated syncTracker scheduler last accumulated,
          .ok ⟨packet, fhssTimingWindowEvaluate controller.core.timingConfig
            (controller.expectedRxTime packet.slotNumber.toNat rxTimestampUs) rxTimestampUs,
            syncEvent, syncTracker.state, packet.hopIndex, channel⟩) := by
  unfold fhssSyncControllerProcessRx
  have hoffset_nonneg : 0 ≤ controller.offset := Int.natCast_nonneg _
  by_cases hneg : rxTimestampUs < 0
  · rw [if_pos hneg]
    refine .inl ⟨_, rfl, nofun, ?_⟩
    intro packet _ hoffset
    omega
  rw [if_neg hneg, if_neg (by simp [h.initialized])]
  cases hdecode : fhssSyncPacketDecode protocol buffer with
  | error status =>
    refine .inl ⟨_, rfl, nofun, ?_⟩
    intro packet hpacket
    rw [CoreAccepts, hdecode] at hpacket
    cases hpacket.1
  | ok packet =>
    dsimp only
    by_cases hoffset : rxTimestampUs < controller.offset
    · rw [if_pos hoffset]
      exact .inl ⟨_, rfl, nofun, fun _ _ hle => absurd hoffset (not_lt.mpr hle)⟩
    rw [if_neg hoffset]
    -- The expected time: an error for a slot before the reference or beyond 64 bits.
    have hexpected : (∃ status, (if controller.scheduler.synchronized = true then
          (fhssSlotSchedulerGetSlotStartTime controller.scheduler packet.slotNumber).map
            (· + controller.offset)
        else .ok rxTimestampUs) = .error status ∧ controller.LacksStart protocol buffer) ∨
        ((if controller.scheduler.synchronized = true then
          (fhssSlotSchedulerGetSlotStartTime controller.scheduler packet.slotNumber).map
            (· + controller.offset)
          else .ok rxTimestampUs) =
            .ok (controller.expectedRxTime packet.slotNumber.toNat rxTimestampUs) ∧
          (controller.scheduler.synchronized = true →
            fhssSlotSchedulerGetSlotStartTime controller.scheduler packet.slotNumber =
              .ok (controller.predictedStart packet.slotNumber.toNat))) := by
      unfold FhssSyncController.expectedRxTime
      by_cases hsync : controller.scheduler.synchronized = true
      · rw [if_pos hsync, if_pos hsync]
        cases hstart : fhssSlotSchedulerGetSlotStartTime controller.scheduler
            packet.slotNumber with
        | error status => exact .inl ⟨status, rfl, hsync, packet, status, hdecode, hstart⟩
        | ok start =>
          obtain ⟨-, rfl, -⟩ :=
            (getSlotStartTime_eq_ok_iff h.scheduler_ready hsync packet.slotNumber start).mp hstart
          exact .inr ⟨rfl, fun _ => rfl⟩
      · rw [if_neg hsync, if_neg hsync]
        exact .inr ⟨rfl, fun hsync' => absurd hsync' hsync⟩
    rcases hexpected with ⟨status, hstatus, hlacks⟩ | ⟨hexpected, hstart⟩
    · rw [hstatus]
      exact .inl ⟨_, rfl, fun _ => hlacks, fun _ _ _ => hlacks⟩
    rw [hexpected]
    dsimp only
    rcases fhssCoreProcessRx_cases protocol h.core_ready buffer
      (controller.expectedRxTime packet.slotNumber.toNat rxTimestampUs) rxTimestampUs with
      ⟨status, hreject, hrefuses⟩ | ⟨packet', syncTracker, syncEvent, channel, haccepts, -,
        htracker, hupdate, haccept⟩
    · rw [hreject]
      exact .inl ⟨_, rfl, nofun, fun packet' haccepts => absurd haccepts (hrefuses packet')⟩
    obtain rfl : packet = packet' := Except.ok.inj (hdecode.symm.trans haccepts.1)
    rw [haccept]
    dsimp only
    have hinside : controller.scheduler.synchronized = false →
        (fhssTimingWindowEvaluate controller.core.timingConfig
          (controller.expectedRxTime packet.slotNumber.toNat rxTimestampUs)
          rxTimestampUs).result = .insideWindow := by
      intro hsync
      have hexpectedEq : controller.expectedRxTime packet.slotNumber.toNat rxTimestampUs =
          rxTimestampUs := by simp [FhssSyncController.expectedRxTime, hsync]
      rw [hexpectedEq, fhssTimingWindowEvaluate_self]
    obtain ⟨scheduler, last, accumulated, hscheduler, hconfig, heffect, hanchor⟩ :=
      @fhssSyncControllerAnchor_eq
        { controller with core := { controller.core with syncTracker := syncTracker } }
        h.scheduler_ready _ _ (not_lt.mp hoffset) hmax hstart
        ⟨packet, fhssTimingWindowEvaluate controller.core.timingConfig
          (controller.expectedRxTime packet.slotNumber.toNat rxTimestampUs) rxTimestampUs,
          syncEvent, syncTracker.state, packet.hopIndex, channel⟩
        (timingErrorUs_fhssTimingWindowEvaluate _ _ _) hinside
    exact .inr ⟨packet, syncTracker, syncEvent, channel, scheduler, last, accumulated, haccepts,
      not_lt.mp hneg, not_lt.mp hoffset, htracker, hscheduler, hconfig, hupdate, heffect, hanchor⟩

/-- A ready controller rejects a recovery sample and stays as it is, never because of the
scheduler, or accepts it: then the sample counts as valid and the observed start becomes the
reference. -/
lemma fhssSyncControllerRecoverRx_cases (h : ControllerReady controller) (buffer : Bytes)
    (rxTimestampUs : ℤ) :
    (∃ status, fhssSyncControllerRecoverRx protocol controller buffer rxTimestampUs =
        (controller, .error status) ∧ status ≠ .schedulerError) ∨
    ∃ packet syncTracker syncEvent channel scheduler last accumulated,
      CoreAccepts protocol controller.core buffer packet ∧ controller.offset ≤ rxTimestampUs ∧
      TrackerReady syncTracker ∧ SchedulerReady scheduler ∧
      scheduler.config = controller.scheduler.config ∧
      fhssSyncStateOnValid controller.core.syncTracker = .ok (syncTracker, syncEvent) ∧
      RunsFrom scheduler packet.slotNumber (rxTimestampUs - controller.offset) ∧
      fhssSyncControllerRecoverRx protocol controller buffer rxTimestampUs =
        (controller.updated syncTracker scheduler last accumulated,
          .ok ⟨packet, ⟨0, .insideWindow⟩, syncEvent, syncTracker.state, packet.hopIndex,
            channel⟩) := by
  have hoffset_nonneg : 0 ≤ controller.offset := Int.natCast_nonneg _
  unfold fhssSyncControllerRecoverRx
  by_cases hoffset : rxTimestampUs < controller.offset
  · rw [if_pos hoffset]
    exact .inl ⟨_, rfl, nofun⟩
  rw [if_neg hoffset, if_neg (by simp [h.initialized])]
  rcases fhssCoreProcessRx_cases protocol h.core_ready buffer rxTimestampUs rxTimestampUs with
    ⟨status, hreject, -⟩ | ⟨packet, syncTracker, syncEvent, channel, haccepts, -, htracker,
      hupdate, haccept⟩
  · rw [hreject]
    exact .inl ⟨_, rfl, nofun⟩
  rw [haccept]
  rw [fhssTimingWindowEvaluate_self] at hupdate ⊢
  dsimp only at hupdate ⊢
  rw [if_pos rfl] at hupdate
  rcases setReference_cases h.scheduler_ready packet.slotNumber
    (rxTimestampUs - controller.offset) with ⟨hneg, -⟩ | ⟨-, hok, hset⟩
  · omega
  rw [hok]
  refine .inr ⟨packet, syncTracker, syncEvent, channel, _, _, _, haccepts, not_lt.mp hoffset,
    htracker, hset, rfl, hupdate, ⟨rfl, le_refl _, ?_⟩, rfl⟩
  unfold slotStart FhssSlotScheduler.anchor
  simp

/-- A ready controller takes a timeout as a miss, and drops its reference when it loses the
lock. -/
lemma fhssSyncControllerHandleTimeout_eq (h : ControllerReady controller) :
    ∃ syncTracker event scheduler,
      fhssSyncStateOnMiss controller.core.syncTracker = .ok (syncTracker, event) ∧
      TrackerReady syncTracker ∧ SchedulerReady scheduler ∧
      (if event = .lost then scheduler.synchronized = false
        else scheduler = controller.scheduler) ∧
      fhssSyncControllerHandleTimeout controller =
        (controller.updated syncTracker scheduler controller.lastPhaseCorrectionUs
          controller.accumulatedPhaseCorrectionUs, .ok (event, syncTracker.state)) := by
  obtain ⟨syncTracker, event, hmiss, htracker, htimeout⟩ :=
    fhssCoreHandleTimeout_eq h.core_ready
  unfold fhssSyncControllerHandleTimeout
  rw [if_neg (by simp [h.initialized]), htimeout]
  dsimp only
  by_cases hlost : event = .lost
  · obtain ⟨hclear, hready⟩ := clearReference_eq h.scheduler_ready
    rw [if_pos hlost, hclear]
    exact ⟨syncTracker, event, _, hmiss, htracker, hready, by simp [hlost], rfl⟩
  · rw [if_neg hlost]
    exact ⟨syncTracker, event, _, hmiss, htracker, h.scheduler_ready, by simp [hlost], rfl⟩

end Ready

end FhssOtaRadio
