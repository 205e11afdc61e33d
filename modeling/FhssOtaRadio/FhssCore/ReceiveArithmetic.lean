import FhssOtaRadio.FhssCore.ClockConvergence
import FhssOtaRadio.FhssCore.MachineSlots
import FhssOtaRadio.FhssCore.PhaseLaw

/-!
# The arithmetic of a received SYNC packet (`fhss_sync_controller.c`)

The two calls that take a SYNC packet once more, every signed operation checked; the running sum
`accumulated_phase_correction_us` alone is left exact.  The slot number of a packet is used before
its generation and its hop index are looked at.  The scheduler refuses a start beyond `INT64_MAX`,
but the sync offset is added to the start it returns without a check: that sum is the one operation
that can overflow (`fhssSyncControllerProcessRxMachine_eq`).  A run of a controller overflows
exactly when some packet makes it do so (`controllerRunMachine_overflow_iff`).
-/

namespace FhssOtaRadio

open Machine MachineInt SlotClock PhaseGain

variable (protocol : OtaProtocol)

/-! ## The calls in machine integers -/

/-- `fhss_timing_window_evaluate`, every operation checked. -/
def fhssTimingWindowEvaluateMachine (config : FhssTimingWindowConfig)
    (expectedRxTimeUs actualRxTimeUs : ℤ) : Except Fault FhssTimingWindowEvaluation := do
  let timingErrorUs ← signed (actualRxTimeUs - expectedRxTimeUs)
  let earlyLimitUs ← signed (-config.earlyMarginUs.toNat)
  let lateLimitUs : ℤ := config.lateMarginUs.toNat
  if timingErrorUs < earlyLimitUs then .ok ⟨timingErrorUs, .beforeWindow⟩
  else if lateLimitUs < timingErrorUs then .ok ⟨timingErrorUs, .afterWindow⟩
  else .ok ⟨timingErrorUs, .insideWindow⟩

/-- The end of `fhss_core_process_rx`, behind the timing window: no arithmetic. -/
def fhssCoreTake (core : FhssCore) (packet : FhssSyncPacket)
    (timing : FhssTimingWindowEvaluation) : FhssCore × Except FhssCoreStatus FhssCoreRxResult :=
  match if timing.result = .insideWindow then fhssSyncStateOnValid core.syncTracker
      else fhssSyncStateOnMiss core.syncTracker with
  | .error _ => (core, .error .syncError)
  | .ok (syncTracker, syncEvent) =>
      let core := { core with syncTracker := syncTracker }
      match fhssSyncStateGet core.syncTracker with
      | .error _ => (core, .error .syncError)
      | .ok syncState =>
          match fhssHopSequenceGetIndex core.hopSequence packet.slotNumber,
              fhssHopSequenceGetChannel core.hopSequence packet.slotNumber with
          | .ok hopIndex, .ok channel =>
              (core, .ok ⟨packet, timing, syncEvent, syncState, hopIndex, channel⟩)
          | _, _ => (core, .error .hopError)

/-- `fhss_core_process_rx`, every operation checked. -/
def fhssCoreProcessRxMachine (core : FhssCore) (buffer : Bytes)
    (expectedRxTimeUs actualRxTimeUs : ℤ) :
    Except Fault (FhssCore × Except FhssCoreStatus FhssCoreRxResult) :=
  if core.initialized = false then .ok (core, .error .notInitialized)
  else
    match fhssSyncPacketDecode protocol buffer with
    | .error _ => .ok (core, .error .packetError)
    | .ok packet =>
        if packet.generation ≠ core.generation then .ok (core, .error .packetError)
        else
          match fhssHopSequenceGetIndex core.hopSequence packet.slotNumber with
          | .error _ => .ok (core, .error .hopError)
          | .ok expectedHopIndex =>
              if packet.hopIndex ≠ expectedHopIndex then .ok (core, .error .packetError)
              else do
                let timing ←
                  fhssTimingWindowEvaluateMachine core.timingConfig expectedRxTimeUs actualRxTimeUs
                .ok (fhssCoreTake core packet timing)

/-- Whether the sum of a start and a correction leaves `int64_t`, as the source tests it. -/
def correctionOverflows (expectedSlotStartUs correctionUs : ℤ) : Except Fault Bool :=
  if 0 < correctionUs then do
    let limitUs ← signed (int64Max - correctionUs)
    .ok (decide (limitUs < expectedSlotStartUs))
  else do
    let limitUs ← signed (-int64Max - 1 - correctionUs)
    .ok (decide (expectedSlotStartUs < limitUs))

/-- The end of `fhss_sync_controller_process_rx`, every operation checked. -/
def fhssSyncControllerAnchorMachine (controller : FhssSyncController) (slotNumber : UInt32)
    (observedSlotStartUs : ℤ) (result : FhssCoreRxResult) :
    Except Fault (FhssSyncController × Except FhssControllerStatus FhssCoreRxResult) :=
  if controller.scheduler.synchronized = false then
    match fhssSlotSchedulerSetReference controller.scheduler slotNumber observedSlotStartUs with
    | .error _ => .ok (controller, .error .schedulerError)
    | .ok scheduler =>
        .ok (({ controller with scheduler := scheduler }).booking result.timing.timingErrorUs,
          .ok result)
  else if result.timing.result = .insideWindow then do
    match ← fhssSlotSchedulerGetSlotStartTimeMachine controller.scheduler slotNumber with
    | .error _ => .ok (controller, .error .schedulerError)
    | .ok expectedSlotStartUs => do
        let correctionUs ←
          calculatePhaseCorrectionMachine controller result.timing.timingErrorUs
        if correctionUs ≠ 0 then do
          let overflows ← correctionOverflows expectedSlotStartUs correctionUs
          if overflows then .ok (controller, .error .schedulerError)
          else do
            let correctedSlotStartUs ← signed (expectedSlotStartUs + correctionUs)
            match fhssSlotSchedulerSetReference controller.scheduler slotNumber
                correctedSlotStartUs with
            | .error _ => .ok (controller, .error .schedulerError)
            | .ok scheduler =>
                .ok (({ controller with scheduler := scheduler }).booking correctionUs, .ok result)
        else .ok (controller.booking correctionUs, .ok result)
  else .ok (controller, .ok result)

/-- `expected_rx_time_us` of `fhss_sync_controller_process_rx`, every operation checked: the start
of the slot and the sync offset are added as they come. -/
def expectedRxTimeMachine (controller : FhssSyncController) (slotNumber : UInt32)
    (rxTimestampUs : ℤ) : Except Fault (Except FhssSlotStatus ℤ) :=
  if controller.scheduler.synchronized = true then do
    match ← fhssSlotSchedulerGetSlotStartTimeMachine controller.scheduler slotNumber with
    | .error status => .ok (.error status)
    | .ok expectedSlotStartUs => do
        let expectedRxTimeUs ← signed (expectedSlotStartUs + controller.offset)
        .ok (.ok expectedRxTimeUs)
  else .ok (.ok rxTimestampUs)

/-- `fhss_sync_controller_process_rx`, every operation checked. -/
def fhssSyncControllerProcessRxMachine (controller : FhssSyncController) (buffer : Bytes)
    (rxTimestampUs : ℤ) :
    Except Fault (FhssSyncController × Except FhssControllerStatus FhssCoreRxResult) :=
  if rxTimestampUs < 0 then .ok (controller, .error .invalidArg)
  else if controller.initialized = false then .ok (controller, .error .notInitialized)
  else
    match fhssSyncPacketDecode protocol buffer with
    | .error _ => .ok (controller, .error .packetError)
    | .ok packet =>
        if rxTimestampUs < controller.offset then .ok (controller, .error .invalidArg)
        else do
          let observedSlotStartUs ← signed (rxTimestampUs - controller.offset)
          match ← expectedRxTimeMachine controller packet.slotNumber rxTimestampUs with
          | .error _ => .ok (controller, .error .schedulerError)
          | .ok expectedRxTimeUs => do
              match ← fhssCoreProcessRxMachine protocol controller.core buffer expectedRxTimeUs
                  rxTimestampUs with
              | (core, .error _) => .ok ({ controller with core := core }, .error .coreError)
              | (core, .ok result) =>
                  fhssSyncControllerAnchorMachine { controller with core := core }
                    packet.slotNumber observedSlotStartUs result

/-- `fhss_sync_controller_recover_rx`, every operation checked. -/
def fhssSyncControllerRecoverRxMachine (controller : FhssSyncController) (buffer : Bytes)
    (rxTimestampUs : ℤ) :
    Except Fault (FhssSyncController × Except FhssControllerStatus FhssCoreRxResult) :=
  if rxTimestampUs < controller.offset then .ok (controller, .error .invalidArg)
  else if controller.initialized = false then .ok (controller, .error .notInitialized)
  else do
    match ← fhssCoreProcessRxMachine protocol controller.core buffer rxTimestampUs
        rxTimestampUs with
    | (core, .error _) => .ok ({ controller with core := core }, .error .coreError)
    | (core, .ok result) => do
        let observedSlotStartUs ← signed (rxTimestampUs - controller.offset)
        match fhssSlotSchedulerSetReference controller.scheduler result.packet.slotNumber
            observedSlotStartUs with
        | .error _ => .ok ({ controller with core := core }, .error .schedulerError)
        | .ok scheduler =>
            .ok (({ controller with core := core, scheduler := scheduler }).booking
              result.timing.timingErrorUs, .ok result)

/-- One call in machine integers; only the two that take a SYNC packet have arithmetic. -/
def controllerStepMachine (controller : FhssSyncController) :
    ControllerCall → Except Fault FhssSyncController
  | .processRx buffer rxTimestampUs =>
      (fhssSyncControllerProcessRxMachine protocol controller buffer rxTimestampUs.toInt).map
        Prod.fst
  | .recoverRx buffer rxTimestampUs =>
      (fhssSyncControllerRecoverRxMachine protocol controller buffer rxTimestampUs.toInt).map
        Prod.fst
  | call => .ok (controllerStep protocol controller call).1

/-- A run in machine integers: it ends at the first fault. -/
def controllerRunMachine (controller : FhssSyncController) :
    List ControllerCall → Except Fault FhssSyncController
  | [] => .ok controller
  | call :: calls => do
      let controller ← controllerStepMachine protocol controller call
      controllerRunMachine controller calls

/-- The expected time of a SYNC packet fits `int64_t`: when the scheduler has a start for its slot,
the sync offset does not carry that beyond `INT64_MAX`. -/
def ExpectedTimeFits (controller : FhssSyncController) (buffer : Bytes) (rxTimestampUs : ℤ) :
    Prop :=
  ∀ packet start, fhssSyncPacketDecode protocol buffer = .ok packet →
    controller.offset ≤ rxTimestampUs → controller.scheduler.synchronized = true →
    fhssSlotSchedulerGetSlotStartTime controller.scheduler packet.slotNumber = .ok start →
    start + controller.offset ≤ int64Max

/-- The calls whose arithmetic fits: all but the SYNC packets whose expected time does not. -/
def ArithmeticFits (controller : FhssSyncController) : ControllerCall → Prop
  | .processRx buffer rxTimestampUs =>
      ExpectedTimeFits protocol controller buffer rxTimestampUs.toInt
  | _ => True

/-! ## The calls are exact -/

/-- A controller whose arithmetic can be trusted: ready, with accepted parameters, and with a
reference time of `int64_t`. -/
structure ArithmeticReady (controller : FhssSyncController) : Prop where
  ready : ControllerReady controller
  gain : GainReady controller
  reference_le : controller.scheduler.referenceTimeUs ≤ int64Max

section Ready

variable {controller : FhssSyncController}

/-- The tracker has no part in the arithmetic. -/
lemma ArithmeticReady.withTracker (h : ArithmeticReady controller)
    {syncTracker : FhssSyncStateTracker} (htracker : TrackerReady syncTracker) :
    ArithmeticReady
      { controller with core := { controller.core with syncTracker := syncTracker } } :=
  ⟨h.ready.updated htracker h.ready.scheduler_ready controller.lastPhaseCorrectionUs
    controller.accumulatedPhaseCorrectionUs, ⟨h.gain.maxStep_pos, h.gain.deadband_le⟩,
    h.reference_le⟩

/-- The timing window is exact between two times that are not negative. -/
lemma fhssTimingWindowEvaluateMachine_eq (config : FhssTimingWindowConfig)
    {expectedRxTimeUs actualRxTimeUs : ℤ}
    (hexpected : 0 ≤ expectedRxTimeUs ∧ expectedRxTimeUs ≤ int64Max)
    (hactual : 0 ≤ actualRxTimeUs ∧ actualRxTimeUs ≤ int64Max) :
    fhssTimingWindowEvaluateMachine config expectedRxTimeUs actualRxTimeUs =
      .ok (fhssTimingWindowEvaluate config expectedRxTimeUs actualRxTimeUs) := by
  have hearly : config.earlyMarginUs.toNat < 2 ^ 32 := UInt32.toNat_lt _
  unfold int64Max at hexpected hactual
  unfold fhssTimingWindowEvaluateMachine fhssTimingWindowEvaluate
  rw [signed_eq_ok (by unfold FitsInt64; omega), ok_bind,
    signed_eq_ok (by unfold FitsInt64; omega), ok_bind]
  dsimp only
  split_ifs <;> rfl

/-- `fhss_core_process_rx` takes a packet behind its checks. -/
lemma fhssCoreProcessRx_eq_take (core : FhssCore) (buffer : Bytes)
    (expectedRxTimeUs actualRxTimeUs : ℤ) :
    fhssCoreProcessRx protocol core buffer expectedRxTimeUs actualRxTimeUs =
      if core.initialized = false then (core, .error .notInitialized)
      else
        match fhssSyncPacketDecode protocol buffer with
        | .error _ => (core, .error .packetError)
        | .ok packet =>
            if packet.generation ≠ core.generation then (core, .error .packetError)
            else
              match fhssHopSequenceGetIndex core.hopSequence packet.slotNumber with
              | .error _ => (core, .error .hopError)
              | .ok expectedHopIndex =>
                  if packet.hopIndex ≠ expectedHopIndex then (core, .error .packetError)
                  else
                    fhssCoreTake core packet
                      (fhssTimingWindowEvaluate core.timingConfig expectedRxTimeUs
                        actualRxTimeUs) := rfl

/-- The core is exact between two times that are not negative. -/
lemma fhssCoreProcessRxMachine_eq (core : FhssCore) (buffer : Bytes)
    {expectedRxTimeUs actualRxTimeUs : ℤ}
    (hexpected : 0 ≤ expectedRxTimeUs ∧ expectedRxTimeUs ≤ int64Max)
    (hactual : 0 ≤ actualRxTimeUs ∧ actualRxTimeUs ≤ int64Max) :
    fhssCoreProcessRxMachine protocol core buffer expectedRxTimeUs actualRxTimeUs =
      .ok (fhssCoreProcessRx protocol core buffer expectedRxTimeUs actualRxTimeUs) := by
  rw [fhssCoreProcessRx_eq_take]
  unfold fhssCoreProcessRxMachine
  by_cases hinit : core.initialized = false
  · rw [if_pos hinit, if_pos hinit]
  rw [if_neg hinit, if_neg hinit]
  cases fhssSyncPacketDecode protocol buffer with
  | error status => rfl
  | ok packet =>
    dsimp only
    by_cases hgeneration : packet.generation ≠ core.generation
    · rw [if_pos hgeneration, if_pos hgeneration]
    rw [if_neg hgeneration, if_neg hgeneration]
    cases fhssHopSequenceGetIndex core.hopSequence packet.slotNumber with
    | error status => rfl
    | ok expectedHopIndex =>
      dsimp only
      by_cases hhop : packet.hopIndex ≠ expectedHopIndex
      · rw [if_pos hhop, if_pos hhop]
      rw [if_neg hhop, if_neg hhop, fhssTimingWindowEvaluateMachine_eq _ hexpected hactual,
        ok_bind]

/-- The test of the corrected start is exact. -/
lemma correctionOverflows_eq {expectedSlotStartUs correctionUs : ℤ} (hzero : correctionUs ≠ 0)
    (hcorrection : correctionUs.natAbs < 2 ^ 32) :
    correctionOverflows expectedSlotStartUs correctionUs =
      .ok (decide ((0 < correctionUs ∧ int64Max - correctionUs < expectedSlotStartUs) ∨
        (correctionUs < 0 ∧ expectedSlotStartUs < -int64Max - 1 - correctionUs))) := by
  unfold correctionOverflows int64Max
  split_ifs with hpos
  · rw [signed_eq_ok (by unfold FitsInt64; omega), ok_bind]
    congr 2
    simp only [eq_iff_iff]
    omega
  · rw [signed_eq_ok (by unfold FitsInt64; omega), ok_bind]
    congr 2
    simp only [eq_iff_iff]
    omega

/-- Booking the reference of an accepted packet is exact. -/
lemma fhssSyncControllerAnchorMachine_eq (h : ArithmeticReady controller) (slotNumber : UInt32)
    (observedSlotStartUs : ℤ) {result : FhssCoreRxResult}
    (herror : FitsInt64 result.timing.timingErrorUs) :
    fhssSyncControllerAnchorMachine controller slotNumber observedSlotStartUs result =
      .ok (fhssSyncControllerAnchor controller slotNumber observedSlotStartUs result) := by
  unfold fhssSyncControllerAnchorMachine fhssSyncControllerAnchor
  by_cases hsync : controller.scheduler.synchronized = false
  · rw [if_pos hsync, if_pos hsync]
    cases fhssSlotSchedulerSetReference controller.scheduler slotNumber observedSlotStartUs <;> rfl
  rw [if_neg hsync, if_neg hsync]
  by_cases hwindow : result.timing.result = .insideWindow
  · rw [if_pos hwindow, if_pos hwindow,
      fhssSlotSchedulerGetSlotStartTimeMachine_eq h.ready.scheduler_ready h.reference_le, ok_bind]
    cases hstart : fhssSlotSchedulerGetSlotStartTime controller.scheduler slotNumber with
    | error status => rfl
    | ok expectedSlotStartUs =>
      have hbounds := getSlotStartTime_bounds h.ready.scheduler_ready (by simpa using hsync) hstart
      dsimp only
      rw [calculatePhaseCorrectionMachine_eq h.gain herror, ok_bind]
      have hcorrection := natAbs_calculatePhaseCorrection_lt controller result.timing.timingErrorUs
      generalize calculatePhaseCorrection controller result.timing.timingErrorUs = correctionUs
        at hcorrection ⊢
      by_cases hzero : correctionUs ≠ 0
      · rw [if_pos hzero, if_pos hzero, correctionOverflows_eq hzero hcorrection, ok_bind]
        simp only [decide_eq_true_eq]
        split_ifs with hover
        · rfl
        · unfold int64Max at hover hbounds
          rw [signed_eq_ok (by unfold FitsInt64; omega), ok_bind]
          cases fhssSlotSchedulerSetReference controller.scheduler slotNumber
            (expectedSlotStartUs + correctionUs) <;> rfl
      · rw [if_neg hzero, if_neg hzero]
  · rw [if_neg hwindow, if_neg hwindow]

/-- The expected time is exact when the sync offset does not carry it beyond `INT64_MAX`, and
overflows otherwise. -/
lemma expectedRxTimeMachine_eq (h : ArithmeticReady controller) (slotNumber : UInt32)
    (rxTimestampUs : ℤ) :
    (expectedRxTimeMachine controller slotNumber rxTimestampUs =
        .ok (if controller.scheduler.synchronized = true then
          (fhssSlotSchedulerGetSlotStartTime controller.scheduler slotNumber).map
            (· + controller.offset) else .ok rxTimestampUs) ∧
      (controller.scheduler.synchronized = true → ∀ start,
        fhssSlotSchedulerGetSlotStartTime controller.scheduler slotNumber = .ok start →
          start + controller.offset ≤ int64Max)) ∨
    (expectedRxTimeMachine controller slotNumber rxTimestampUs = .error .signedOverflow ∧
      controller.scheduler.synchronized = true ∧ ∃ start,
        fhssSlotSchedulerGetSlotStartTime controller.scheduler slotNumber = .ok start ∧
          int64Max < start + controller.offset) := by
  have hoffset : 0 ≤ controller.offset := Int.natCast_nonneg _
  unfold expectedRxTimeMachine
  by_cases hsync : controller.scheduler.synchronized = true
  · rw [if_pos hsync, if_pos hsync,
      fhssSlotSchedulerGetSlotStartTimeMachine_eq h.ready.scheduler_ready h.reference_le, ok_bind]
    cases hstart : fhssSlotSchedulerGetSlotStartTime controller.scheduler slotNumber with
    | error status => exact .inl ⟨rfl, nofun⟩
    | ok start =>
      have hbounds := getSlotStartTime_bounds h.ready.scheduler_ready hsync hstart
      dsimp only
      by_cases hfits : start + controller.offset ≤ int64Max
      · refine .inl ⟨?_, fun _ start' hstart' => Except.ok.inj hstart' ▸ hfits⟩
        unfold int64Max at hfits
        rw [signed_eq_ok (by unfold FitsInt64; omega), ok_bind]
        rfl
      · refine .inr ⟨?_, hsync, start, rfl, not_le.mp hfits⟩
        unfold int64Max at hfits
        rw [signed_eq_error (by unfold FitsInt64; omega)]
        rfl
  · rw [if_neg hsync, if_neg hsync]
    exact .inl ⟨rfl, fun hsync' => absurd hsync' hsync⟩

/-- The expected time of an exact computation lies between 0 and `INT64_MAX`. -/
lemma expectedRxTime_bounds (h : ArithmeticReady controller) {slotNumber : UInt32}
    {rxTimestampUs expectedRxTimeUs : ℤ} (hrx : 0 ≤ rxTimestampUs ∧ rxTimestampUs ≤ int64Max)
    (hfits : controller.scheduler.synchronized = true → ∀ start,
      fhssSlotSchedulerGetSlotStartTime controller.scheduler slotNumber = .ok start →
        start + controller.offset ≤ int64Max)
    (hexpected : (if controller.scheduler.synchronized = true then
        (fhssSlotSchedulerGetSlotStartTime controller.scheduler slotNumber).map
          (· + controller.offset) else .ok rxTimestampUs) = .ok expectedRxTimeUs) :
    0 ≤ expectedRxTimeUs ∧ expectedRxTimeUs ≤ int64Max := by
  have hoffset : 0 ≤ controller.offset := Int.natCast_nonneg _
  split_ifs at hexpected with hsync
  · cases hstart : fhssSlotSchedulerGetSlotStartTime controller.scheduler slotNumber with
    | error status =>
      rw [hstart] at hexpected
      cases hexpected
    | ok start =>
      rw [hstart] at hexpected
      obtain rfl : start + controller.offset = expectedRxTimeUs := Except.ok.inj hexpected
      have hbounds := getSlotStartTime_bounds h.ready.scheduler_ready hsync hstart
      exact ⟨by omega, hfits hsync start hstart⟩
  · obtain rfl := Except.ok.inj hexpected
    exact hrx

/-- A SYNC packet handed to `fhss_sync_controller_process_rx` is computed exactly, or its expected
time does not fit and the computation overflows. -/
lemma fhssSyncControllerProcessRxMachine_eq (h : ArithmeticReady controller) (buffer : Bytes)
    {rxTimestampUs : ℤ} (hmax : rxTimestampUs ≤ int64Max) :
    (ExpectedTimeFits protocol controller buffer rxTimestampUs ∧
      fhssSyncControllerProcessRxMachine protocol controller buffer rxTimestampUs =
        .ok (fhssSyncControllerProcessRx protocol controller buffer rxTimestampUs)) ∨
    (¬ ExpectedTimeFits protocol controller buffer rxTimestampUs ∧
      fhssSyncControllerProcessRxMachine protocol controller buffer rxTimestampUs =
        .error .signedOverflow) := by
  have hoffset_nonneg : 0 ≤ controller.offset := Int.natCast_nonneg _
  unfold fhssSyncControllerProcessRxMachine fhssSyncControllerProcessRx ExpectedTimeFits
  by_cases hneg : rxTimestampUs < 0
  · rw [if_pos hneg, if_pos hneg]
    exact .inl ⟨fun _ _ _ hoffset => by omega, rfl⟩
  rw [if_neg hneg, if_neg hneg, if_neg (by simp [h.ready.initialized]),
    if_neg (by simp [h.ready.initialized])]
  cases hdecode : fhssSyncPacketDecode protocol buffer with
  | error status => exact .inl ⟨nofun, rfl⟩
  | ok packet =>
    dsimp only
    by_cases hoffset : rxTimestampUs < controller.offset
    · rw [if_pos hoffset, if_pos hoffset]
      exact .inl ⟨fun _ _ _ hle => by omega, rfl⟩
    rw [if_neg hoffset, if_neg hoffset]
    have hobserved : FitsInt64 (rxTimestampUs - controller.offset) := by
      unfold int64Max at hmax
      unfold FitsInt64
      omega
    rw [signed_eq_ok hobserved, ok_bind]
    rcases expectedRxTimeMachine_eq h packet.slotNumber rxTimestampUs with
      ⟨hmachine, hfits⟩ | ⟨hmachine, hsync, start, hstart, hover⟩
    · rw [hmachine, ok_bind]
      refine .inl ⟨fun packet' start hpacket _ hsync hstart => ?_, ?_⟩
      · obtain rfl := Except.ok.inj hpacket
        exact hfits hsync start hstart
      cases hexpected : (if controller.scheduler.synchronized = true then
          (fhssSlotSchedulerGetSlotStartTime controller.scheduler packet.slotNumber).map
            (· + controller.offset) else .ok rxTimestampUs) with
      | error status => rfl
      | ok expectedRxTimeUs =>
        have hrx : 0 ≤ rxTimestampUs ∧ rxTimestampUs ≤ int64Max := ⟨not_lt.mp hneg, hmax⟩
        have hbounds := expectedRxTime_bounds h hrx hfits hexpected
        dsimp only
        rw [fhssCoreProcessRxMachine_eq protocol _ _ hbounds hrx, ok_bind]
        rcases fhssCoreProcessRx_cases protocol h.ready.core_ready buffer expectedRxTimeUs
          rxTimestampUs with ⟨status, hreject, -⟩ | ⟨_, syncTracker, syncEvent, channel, -, -,
            htracker, -, haccept⟩
        · rw [hreject]
        · rw [haccept]
          refine fhssSyncControllerAnchorMachine_eq (h.withTracker htracker) _ _ ?_
          rw [timingErrorUs_fhssTimingWindowEvaluate]
          unfold int64Max at hbounds hrx
          unfold FitsInt64
          omega
    · rw [hmachine]
      refine .inr ⟨fun hfits => ?_, rfl⟩
      have hle := hfits packet start rfl (not_lt.mp hoffset) hsync hstart
      omega

/-- A recovery sample is computed exactly. -/
lemma fhssSyncControllerRecoverRxMachine_eq (h : ArithmeticReady controller) (buffer : Bytes)
    {rxTimestampUs : ℤ} (hmax : rxTimestampUs ≤ int64Max) :
    fhssSyncControllerRecoverRxMachine protocol controller buffer rxTimestampUs =
      .ok (fhssSyncControllerRecoverRx protocol controller buffer rxTimestampUs) := by
  have hoffset_nonneg : 0 ≤ controller.offset := Int.natCast_nonneg _
  unfold fhssSyncControllerRecoverRxMachine fhssSyncControllerRecoverRx
  by_cases hoffset : rxTimestampUs < controller.offset
  · rw [if_pos hoffset, if_pos hoffset]
  rw [if_neg hoffset, if_neg hoffset, if_neg (by simp [h.ready.initialized]),
    if_neg (by simp [h.ready.initialized])]
  have hrx : 0 ≤ rxTimestampUs ∧ rxTimestampUs ≤ int64Max := ⟨by omega, hmax⟩
  have hobserved : FitsInt64 (rxTimestampUs - controller.offset) := by
    unfold int64Max at hmax
    unfold FitsInt64
    omega
  rw [fhssCoreProcessRxMachine_eq protocol _ _ hrx hrx, ok_bind]
  rcases fhssCoreProcessRx protocol controller.core buffer rxTimestampUs rxTimestampUs with
    ⟨core, status | result⟩
  · rfl
  · dsimp only
    rw [signed_eq_ok hobserved, ok_bind]
    cases fhssSlotSchedulerSetReference controller.scheduler result.packet.slotNumber
      (rxTimestampUs - controller.offset) <;> rfl

/-! ## The reference stays a time of `int64_t` -/

/-- A new reference is the time it was set to. -/
lemma referenceTimeUs_setReference {scheduler scheduler' : FhssSlotScheduler} {slot : UInt32}
    {timeUs : ℤ} (hset : fhssSlotSchedulerSetReference scheduler slot timeUs = .ok scheduler') :
    scheduler'.referenceTimeUs = timeUs := by
  unfold fhssSlotSchedulerSetReference at hset
  cases hvalid : validateScheduler scheduler false with
  | some status =>
    rw [hvalid] at hset
    cases hset
  | none =>
    rw [hvalid] at hset
    dsimp only at hset
    split_ifs at hset
    obtain rfl := Except.ok.inj hset
    rfl

/-- Booking a packet leaves a reference that fits. -/
lemma referenceTimeUs_anchor_le (h : SchedulerReady controller.scheduler)
    (href : controller.scheduler.referenceTimeUs ≤ int64Max) (slotNumber : UInt32)
    {observedSlotStartUs : ℤ} (hobserved : observedSlotStartUs ≤ int64Max) (result : FhssCoreRxResult) :
    (fhssSyncControllerAnchor controller slotNumber observedSlotStartUs
      result).1.scheduler.referenceTimeUs ≤ int64Max := by
  unfold fhssSyncControllerAnchor
  by_cases hsync : controller.scheduler.synchronized = false
  · rw [if_pos hsync]
    cases hset : fhssSlotSchedulerSetReference controller.scheduler slotNumber
        observedSlotStartUs with
    | error status => exact href
    | ok scheduler => exact (referenceTimeUs_setReference hset).trans_le hobserved
  rw [if_neg hsync]
  by_cases hwindow : result.timing.result = .insideWindow
  · rw [if_pos hwindow]
    cases hstart : fhssSlotSchedulerGetSlotStartTime controller.scheduler slotNumber with
    | error status => exact href
    | ok expectedSlotStartUs =>
      have hbounds := getSlotStartTime_bounds h (by simpa using hsync) hstart
      dsimp only
      generalize calculatePhaseCorrection controller result.timing.timingErrorUs = correctionUs
      split_ifs with hzero hover
      · exact href
      · cases hset : fhssSlotSchedulerSetReference controller.scheduler slotNumber
            (expectedSlotStartUs + correctionUs) with
        | error status => exact href
        | ok scheduler =>
          refine (referenceTimeUs_setReference hset).trans_le ?_
          omega
      · exact href
  · rw [if_neg hwindow]
    exact href

/-- A SYNC packet leaves a reference that fits. -/
lemma referenceTimeUs_processRx_le (h : ArithmeticReady controller) (buffer : Bytes)
    {rxTimestampUs : ℤ} (hmax : rxTimestampUs ≤ int64Max) :
    (fhssSyncControllerProcessRx protocol controller buffer
      rxTimestampUs).1.scheduler.referenceTimeUs ≤ int64Max := by
  have hoffset_nonneg : 0 ≤ controller.offset := Int.natCast_nonneg _
  unfold fhssSyncControllerProcessRx
  by_cases hneg : rxTimestampUs < 0
  · rw [if_pos hneg]
    exact h.reference_le
  rw [if_neg hneg, if_neg (by simp [h.ready.initialized])]
  cases fhssSyncPacketDecode protocol buffer with
  | error status => exact h.reference_le
  | ok packet =>
    dsimp only
    by_cases hoffset : rxTimestampUs < controller.offset
    · rw [if_pos hoffset]
      exact h.reference_le
    rw [if_neg hoffset]
    cases (if controller.scheduler.synchronized = true then
        (fhssSlotSchedulerGetSlotStartTime controller.scheduler packet.slotNumber).map
          (· + controller.offset) else .ok rxTimestampUs) with
    | error status => exact h.reference_le
    | ok expectedRxTimeUs =>
      dsimp only
      rcases fhssCoreProcessRx protocol controller.core buffer expectedRxTimeUs rxTimestampUs with
        ⟨core, status | result⟩
      · exact h.reference_le
      · exact @referenceTimeUs_anchor_le { controller with core := core } h.ready.scheduler_ready
          h.reference_le _ _ (by omega) result

/-- A recovery sample leaves a reference that fits. -/
lemma referenceTimeUs_recoverRx_le (h : ArithmeticReady controller) (buffer : Bytes)
    {rxTimestampUs : ℤ} (hmax : rxTimestampUs ≤ int64Max) :
    (fhssSyncControllerRecoverRx protocol controller buffer
      rxTimestampUs).1.scheduler.referenceTimeUs ≤ int64Max := by
  have hoffset_nonneg : 0 ≤ controller.offset := Int.natCast_nonneg _
  unfold fhssSyncControllerRecoverRx
  split_ifs with hoffset hinit
  · exact h.reference_le
  · exact h.reference_le
  rcases fhssCoreProcessRx protocol controller.core buffer rxTimestampUs rxTimestampUs with
    ⟨core, status | result⟩
  · exact h.reference_le
  · dsimp only
    cases hset : fhssSlotSchedulerSetReference controller.scheduler result.packet.slotNumber
        (rxTimestampUs - controller.offset) with
    | error status => exact h.reference_le
    | ok scheduler =>
      have htime := referenceTimeUs_setReference hset
      change scheduler.referenceTimeUs ≤ int64Max
      omega

lemma zero_le_int64Max : 0 ≤ int64Max := by decide

/-- A timeout keeps the reference or clears it. -/
lemma referenceTimeUs_handleTimeout_le (h : ArithmeticReady controller) :
    (fhssSyncControllerHandleTimeout controller).1.scheduler.referenceTimeUs ≤ int64Max := by
  unfold fhssSyncControllerHandleTimeout
  rw [if_neg (by simp [h.ready.initialized])]
  rcases fhssCoreHandleTimeout controller.core with ⟨core, status | ⟨event, state⟩⟩
  · exact h.reference_le
  · dsimp only
    rw [(clearReference_eq h.ready.scheduler_ready).1]
    split_ifs
    · exact zero_le_int64Max
    · exact h.reference_le

/-- Every call keeps the arithmetic of a controller trustworthy. -/
lemma arithmeticReady_step (h : ArithmeticReady controller) (call : ControllerCall) :
    ArithmeticReady (controllerStep protocol controller call).1 := by
  have hgain := gain_controllerStep protocol h.ready call
  refine ⟨controllerReady_step protocol h.ready call, gainReady_of_gain_eq hgain h.gain, ?_⟩
  cases call with
  | processRx buffer rxTimestampUs =>
    exact referenceTimeUs_processRx_le protocol h buffer (toInt_le_int64Max rxTimestampUs)
  | recoverRx buffer rxTimestampUs =>
    exact referenceTimeUs_recoverRx_le protocol h buffer (toInt_le_int64Max rxTimestampUs)
  | handleTimeout =>
    exact referenceTimeUs_handleTimeout_le h
  | clearReference =>
    simp only [controllerStep, (clearReference_eq h.ready.scheduler_ready).1]
    exact zero_le_int64Max
  | setReference slot timeUs =>
    simp only [controllerStep]
    cases hset : fhssSlotSchedulerSetReference controller.scheduler slot timeUs.toInt with
    | error status => exact h.reference_le
    | ok scheduler =>
      exact (referenceTimeUs_setReference hset).trans_le (toInt_le_int64Max timeUs)
  | reinitHopSequence channels seed reservedChannel =>
    simp only [controllerStep]
    split <;> exact h.reference_le

/-- One call in machine integers is exact, or its arithmetic does not fit and it overflows. -/
lemma controllerStepMachine_eq (h : ArithmeticReady controller) (call : ControllerCall) :
    (ArithmeticFits protocol controller call ∧
      controllerStepMachine protocol controller call =
        .ok (controllerStep protocol controller call).1) ∨
    (¬ ArithmeticFits protocol controller call ∧
      controllerStepMachine protocol controller call = .error .signedOverflow) := by
  cases call with
  | processRx buffer rxTimestampUs =>
    rcases fhssSyncControllerProcessRxMachine_eq protocol h buffer
      (toInt_le_int64Max rxTimestampUs) with ⟨hfits, hok⟩ | ⟨hover, herror⟩
    · refine .inl ⟨hfits, ?_⟩
      simp only [controllerStepMachine, hok]
      rfl
    · refine .inr ⟨hover, ?_⟩
      simp only [controllerStepMachine, herror]
      rfl
  | recoverRx buffer rxTimestampUs =>
    refine .inl ⟨trivial, ?_⟩
    simp only [controllerStepMachine, fhssSyncControllerRecoverRxMachine_eq protocol h buffer
      (toInt_le_int64Max rxTimestampUs)]
    rfl
  | handleTimeout => exact .inl ⟨trivial, rfl⟩
  | clearReference => exact .inl ⟨trivial, rfl⟩
  | setReference slot timeUs => exact .inl ⟨trivial, rfl⟩
  | reinitHopSequence channels seed reservedChannel => exact .inl ⟨trivial, rfl⟩

/-- A run in machine integers is exact as long as the arithmetic of its calls fits; otherwise it
overflows. -/
lemma controllerRunMachine_cases (h : ArithmeticReady controller) (calls : List ControllerCall) :
    (Guarded (controllerStep protocol) (ArithmeticFits protocol) controller calls ∧
      controllerRunMachine protocol controller calls =
        .ok (finalState (controllerStep protocol) controller calls)) ∨
    (¬ Guarded (controllerStep protocol) (ArithmeticFits protocol) controller calls ∧
      controllerRunMachine protocol controller calls = .error .signedOverflow) := by
  induction calls generalizing controller with
  | nil => exact .inl ⟨trivial, rfl⟩
  | cons call calls ih =>
    rw [guarded_cons, finalState_cons, controllerRunMachine]
    rcases controllerStepMachine_eq protocol h call with ⟨hfits, hok⟩ | ⟨hover, herror⟩
    · rw [hok, ok_bind]
      rcases ih (arithmeticReady_step protocol h call) with ⟨hguarded, hrun⟩ | ⟨hfault, hrun⟩
      · exact .inl ⟨⟨hfits, hguarded⟩, hrun⟩
      · exact .inr ⟨fun hguarded => hfault hguarded.2, hrun⟩
    · rw [herror]
      exact .inr ⟨fun hguarded => hover hguarded.1, rfl⟩

/-- A controller that was built can be trusted with its arithmetic. -/
lemma arithmeticReady_of_built (hbuilt : BuiltController controller) :
    ArithmeticReady controller := by
  obtain ⟨config, hinit⟩ := hbuilt
  refine ⟨(controllerReady_init hinit).1, gainReady_init hinit, ?_⟩
  obtain ⟨-, -, -, hscheduler, -⟩ := fhssSyncControllerInit_ok hinit
  unfold fhssSlotSchedulerInit at hscheduler
  split_ifs at hscheduler
  rw [← Except.ok.inj hscheduler]
  exact zero_le_int64Max

end Ready

/-- **A run of a controller overflows exactly when the expected time of a SYNC packet does.**  In
every other run all signed operations are exact. -/
theorem controllerRunMachine_overflow_iff {controller : FhssSyncController}
    (hbuilt : BuiltController controller) (calls : List ControllerCall) :
    (controllerRunMachine protocol controller calls ≠ .error .signedOverflow ↔
      Guarded (controllerStep protocol) (ArithmeticFits protocol) controller calls) ∧
    (Guarded (controllerStep protocol) (ArithmeticFits protocol) controller calls →
      controllerRunMachine protocol controller calls =
        .ok (finalState (controllerStep protocol) controller calls)) := by
  rcases controllerRunMachine_cases protocol (arithmeticReady_of_built hbuilt) calls with
    ⟨hguarded, hrun⟩ | ⟨hover, hrun⟩
  · rw [hrun]
    exact ⟨⟨fun _ => hguarded, fun _ => nofun⟩, fun _ => rfl⟩
  · rw [hrun]
    exact ⟨⟨fun hne => absurd rfl hne, fun hguarded => absurd hguarded hover⟩,
      fun hguarded => absurd hguarded hover⟩

/-- The arithmetic of the SYNC packets of slots 0 and 3 of the voice service fits. -/
theorem controllerRunMachine_sample :
    Guarded (controllerStep plainProtocol) (ArithmeticFits plainProtocol) sampleController
      [.processRx (sampleSync 0) 1000000, .processRx (sampleSync 3) 1900000] :=
  (controllerRunMachine_overflow_iff plainProtocol ⟨_, fhssSyncControllerInit_sample⟩ _).1.mp
    (by decide)

/-! ## A start close to `INT64_MAX` -/

/-- A configuration with the longest slots and a sync offset of half a slot. -/
def wideControllerConfig : FhssSyncControllerConfig :=
  { sampleControllerConfig with
    scheduler := ⟨0xFFFFFFFF, 5000⟩
    syncOffsetUs := 0x80000000 }

/-- The controller built from the wide configuration. -/
def wideController : FhssSyncController :=
  (fhssSyncControllerInit wideControllerConfig).toOption.getD .zero

/-- The SYNC packet of a slot of another generation. -/
def foreignSync (slot : UInt32) : Bytes :=
  [10, 1] ++ u32LeBytes 8 ++ [0, 0, 0] ++ u32LeBytes slot

/-- The SYNC packet of slot 0 anchors the slot clock at 0.  Slot 2^31 then starts at
2^63 - 2^31, the last start that fits, and a packet that names this slot makes the sum with the
sync offset overflow; it need not even carry the controller's generation. -/
theorem controllerRunMachine_wide :
    fhssSyncControllerInit wideControllerConfig = .ok wideController ∧
      controllerRunMachine plainProtocol wideController
        [.processRx (sampleSync 0) 0x80000000, .processRx (foreignSync 0x80000000) 0x80000000] =
        .error .signedOverflow := by
  decide

end FhssOtaRadio
