import FhssOtaRadio.FhssCore.LockTrace
import FhssOtaRadio.FhssService.RxCalls
import Mathlib.Algebra.Order.BigOperators.Group.List
import Mathlib.Algebra.Order.Group.Nat

/-!
# The correction statistics (`fhss_diagnostics.c`, `record_receive_result`)

`record_receive_result` notes the field `last_phase_correction_us` of the controller for every
SYNC packet that is accepted.  The controller writes the field when it anchors the scheduler, and
leaves it alone when the packet lies outside the timing window: then the correction of an earlier
packet is noted once more (`RepeatsCorrection`).  The statistics count the corrections that moved
the reference exactly in the runs without such a packet.
-/

namespace FhssOtaRadio

open SlotClock

/-! ## The diagnostics -/

/-- `fhss_diagnostics_channel_t`. -/
structure FhssDiagnosticsChannel where
  channel : UInt8
  rxValidCount : UInt32
  crcFailCount : UInt32
  timeoutCount : UInt32
  deriving DecidableEq

/-- What `record_receive_result` writes of `fhss_diagnostics_t`. -/
structure FhssDiagnostics where
  channels : List FhssDiagnosticsChannel
  rxValidCount : UInt32
  crcFailCount : UInt32
  timeoutCount : UInt32
  timingSampleCount : UInt32
  timingErrorMinUs : ℤ
  timingErrorMaxUs : ℤ
  timingErrorSumUs : ℤ
  lastValidTimestampUs : ℤ
  correctionAppliedCount : UInt32
  correctionAbsSumUs : ℤ
  correctionAbsMaxUs : ℤ
  deriving DecidableEq

/-- `fhss_diagnostics_init`. -/
def fhssDiagnosticsInit (channels : List UInt8) : Option FhssDiagnostics :=
  if channels.length = 0 ∨ fhssDiagnosticsMaxChannels < channels.length then none
  else some ⟨channels.map (⟨·, 0, 0, 0⟩), 0, 0, 0, 0, 0, 0, 0, 0, 0, 0, 0⟩

/-- Update the entry `find_channel` returns, if there is one. -/
def updateChannel (channel : UInt8) (update : FhssDiagnosticsChannel → FhssDiagnosticsChannel) :
    List FhssDiagnosticsChannel → List FhssDiagnosticsChannel
  | [] => []
  | stats :: rest =>
      if stats.channel = channel then update stats :: rest
      else stats :: updateChannel channel update rest

/-- `fhss_diagnostics_record_valid`. -/
def fhssDiagnosticsRecordValid (diagnostics : FhssDiagnostics) (channel : UInt8)
    (timingErrorUs timestampUs : ℤ) : FhssDiagnostics :=
  { diagnostics with
    rxValidCount := diagnostics.rxValidCount + 1
    channels := updateChannel channel
      (fun stats => { stats with rxValidCount := stats.rxValidCount + 1 }) diagnostics.channels
    timingErrorMinUs :=
      if diagnostics.timingSampleCount = 0 ∨ timingErrorUs < diagnostics.timingErrorMinUs then
        timingErrorUs
      else diagnostics.timingErrorMinUs
    timingErrorMaxUs :=
      if diagnostics.timingSampleCount = 0 ∨ diagnostics.timingErrorMaxUs < timingErrorUs then
        timingErrorUs
      else diagnostics.timingErrorMaxUs
    timingErrorSumUs := diagnostics.timingErrorSumUs + timingErrorUs
    timingSampleCount := diagnostics.timingSampleCount + 1
    lastValidTimestampUs := timestampUs }

/-- `fhss_diagnostics_record_crc_fail`. -/
def fhssDiagnosticsRecordCrcFail (diagnostics : FhssDiagnostics) (channel : UInt8) :
    FhssDiagnostics :=
  { diagnostics with
    crcFailCount := diagnostics.crcFailCount + 1
    channels := updateChannel channel
      (fun stats => { stats with crcFailCount := stats.crcFailCount + 1 }) diagnostics.channels }

/-- `fhss_diagnostics_record_timeout`. -/
def fhssDiagnosticsRecordTimeout (diagnostics : FhssDiagnostics) (channel : UInt8) :
    FhssDiagnostics :=
  { diagnostics with
    timeoutCount := diagnostics.timeoutCount + 1
    channels := updateChannel channel
      (fun stats => { stats with timeoutCount := stats.timeoutCount + 1 }) diagnostics.channels }

/-- `fhss_diagnostics_record_correction`. -/
def fhssDiagnosticsRecordCorrection (diagnostics : FhssDiagnostics) (correctionUs : ℤ) :
    FhssDiagnostics :=
  if correctionUs = 0 then diagnostics
  else
    let magnitudeUs : ℤ := correctionUs.natAbs
    { diagnostics with
      correctionAppliedCount := diagnostics.correctionAppliedCount + 1
      correctionAbsSumUs := diagnostics.correctionAbsSumUs + magnitudeUs
      correctionAbsMaxUs :=
        if diagnostics.correctionAbsMaxUs < magnitudeUs then magnitudeUs
        else diagnostics.correctionAbsMaxUs }

/-- `*out_rx_timestamp_us` of a `receive_one` that accepts a SYNC packet. -/
def RadioReceive.timestampUs (receive : RadioReceive) : ℤ :=
  match receive with
  | .packet _ _ rxTimestampUs _ _ => rxTimestampUs.toInt
  | _ => 0

/-- `record_receive_result`. -/
def recordReceiveResult (service : FhssService) (diagnostics : FhssDiagnostics)
    (received : ReceiveResult) (rxTimestampUs : ℤ) : FhssDiagnostics :=
  match received with
  | .ok result =>
      fhssDiagnosticsRecordCorrection
        (fhssDiagnosticsRecordValid diagnostics result.channel result.timing.timingErrorUs
          rxTimestampUs)
        service.controller.lastPhaseCorrectionUs
  | .crcFail => fhssDiagnosticsRecordCrcFail diagnostics service.currentChannel
  | .timeout => fhssDiagnosticsRecordTimeout diagnostics service.currentChannel
  | _ => diagnostics

variable (protocol : OtaProtocol) (deriveHopSeed : Option (UInt32 → UInt32))

/-- A call of `receive_one` and the `record_receive_result` behind it. -/
def recordCall (diagnostics : FhssDiagnostics) (call : RxCall) : FhssDiagnostics :=
  let (service, received) := receiveOne protocol deriveHopSeed call.service call.receive
  recordReceiveResult service diagnostics received call.receive.timestampUs

/-! ## What a call does to the clock and to the tracker -/

/-- What `record_receive_result` notes as the correction of a call. -/
def notedUs (call : RxCall) : ℤ :=
  match receiveOne protocol deriveHopSeed call.service call.receive with
  | (service, .ok _) => service.controller.lastPhaseCorrectionUs
  | _ => 0

/-- By how much `fhss_sync_controller_process_rx` moves the reference of the scheduler in a call:
the predicted start of the slot afterwards against the one before. -/
def movedUs (call : RxCall) : ℤ :=
  match receiveOne protocol deriveHopSeed call.service call.receive with
  | (service, .ok result) =>
      if call.service.fsm ≠ .recovery ∧ call.service.controller.scheduler.synchronized = true then
        service.controller.predictedStart result.packet.slotNumber.toNat -
          call.service.controller.predictedStart result.packet.slotNumber.toNat
      else 0
  | _ => 0

/-- The call accepts a SYNC packet inside the timing window, or one that anchors the scheduler. -/
def anchors (call : RxCall) : Bool :=
  match receiveOne protocol deriveHopSeed call.service call.receive with
  | (_, .ok result) =>
      result.timing.result == .insideWindow || call.service.fsm == .recovery ||
        !call.service.controller.scheduler.synchronized
  | _ => false

/-- The call accepts a SYNC packet, and leaves the tracker that a miss leads to. -/
def countsAsMiss (call : RxCall) : Bool :=
  match receiveOne protocol deriveHopSeed call.service call.receive with
  | (service, .ok result) =>
      decide (fhssSyncStateOnMiss call.service.controller.core.syncTracker =
        .ok (service.controller.core.syncTracker, result.syncEvent))
  | _ => false

/-- The corrections that moved the reference in the calls, oldest first. -/
def corrections (calls : List RxCall) : List ℤ :=
  (calls.map (movedUs protocol deriveHopSeed)).filter (· ≠ 0)

/-- What a run has added to the statistics is what happened in it. -/
structure StatsExact (before after : FhssDiagnostics) (calls : List RxCall) : Prop where
  applied_eq : after.correctionAppliedCount = before.correctionAppliedCount +
    UInt32.ofNat (corrections protocol deriveHopSeed calls).length
  absSum_eq : after.correctionAbsSumUs = before.correctionAbsSumUs +
    (((corrections protocol deriveHopSeed calls).map Int.natAbs).sum : ℕ)
  misses_eq : after.rxValidCount - before.rxValidCount -
      UInt32.ofNat (calls.countP (anchors protocol deriveHopSeed)) =
    UInt32.ofNat (calls.countP (countsAsMiss protocol deriveHopSeed))

/-- A controller accepts a SYNC packet at `rxTimestampUs`. -/
def FhssSyncController.AcceptsSync (controller : FhssSyncController) (buffer : Bytes)
    (rxTimestampUs : ℤ) (packet : FhssSyncPacket) : Prop :=
  CoreAccepts protocol controller.core buffer packet ∧ controller.offset ≤ rxTimestampUs ∧
    ¬ controller.LacksStart protocol buffer

/-- Not recovering, a SYNC packet outside the timing window is accepted while
`last_phase_correction_us` is not zero. -/
def RepeatsCorrection (call : RxCall) : Prop :=
  match call.receive with
  | .packet true payload rxTimestampUs _ _ =>
      let controller := call.service.controller
      call.service.fsm ≠ .recovery ∧ controller.lastPhaseCorrectionUs ≠ 0 ∧
        fhssSyncPacketHasValidMagic protocol payload = true ∧
        ∃ packet, controller.AcceptsSync protocol payload rxTimestampUs.toInt packet ∧
          (fhssTimingWindowEvaluate controller.core.timingConfig
            (controller.expectedRxTime packet.slotNumber.toNat rxTimestampUs.toInt)
            rxTimestampUs.toInt).result ≠ .insideWindow
  | _ => False

/-! ## The noted correction -/

section Controller

variable {controller : FhssSyncController}

/-- The field an accepted packet leaves in the controller. -/
lemma fhssSyncControllerAnchor_last {slotNumber : UInt32} {observedSlotStartUs : ℤ}
    {result result' : FhssCoreRxResult} {controller' : FhssSyncController}
    (h : fhssSyncControllerAnchor controller slotNumber observedSlotStartUs result =
      (controller', .ok result')) :
    result' = result ∧ controller'.lastPhaseCorrectionUs =
      if controller.scheduler.synchronized = false then result.timing.timingErrorUs
      else if result.timing.result = .insideWindow then
        calculatePhaseCorrection controller result.timing.timingErrorUs
      else controller.lastPhaseCorrectionUs := by
  unfold fhssSyncControllerAnchor at h
  by_cases hsync : controller.scheduler.synchronized = false
  · rw [if_pos hsync] at h ⊢
    cases hset : fhssSlotSchedulerSetReference controller.scheduler slotNumber
        observedSlotStartUs with
    | error status =>
      rw [hset] at h
      cases h
    | ok scheduler =>
      rw [hset] at h
      cases h
      exact ⟨rfl, rfl⟩
  rw [if_neg hsync] at h ⊢
  by_cases hinside : result.timing.result = .insideWindow
  · rw [if_pos hinside] at h ⊢
    cases hstart : fhssSlotSchedulerGetSlotStartTime controller.scheduler slotNumber with
    | error status =>
      rw [hstart] at h
      cases h
    | ok expectedSlotStartUs =>
      rw [hstart] at h
      dsimp only at h
      split_ifs at h
      · cases h
      · cases hset : fhssSlotSchedulerSetReference controller.scheduler slotNumber
            (expectedSlotStartUs +
              calculatePhaseCorrection controller result.timing.timingErrorUs) with
        | error status =>
          rw [hset] at h
          cases h
        | ok scheduler =>
          rw [hset] at h
          cases h
          exact ⟨rfl, rfl⟩
      · cases h
        exact ⟨rfl, rfl⟩
  · rw [if_neg hinside] at h ⊢
    cases h
    exact ⟨rfl, rfl⟩

/-- The field `fhss_sync_controller_process_rx` leaves when it accepts a packet. -/
lemma fhssSyncControllerProcessRx_last {buffer : Bytes} {rxTimestampUs : ℤ}
    {controller' : FhssSyncController} {result : FhssCoreRxResult}
    (h : fhssSyncControllerProcessRx protocol controller buffer rxTimestampUs =
      (controller', .ok result)) :
    ¬ controller.LacksStart protocol buffer ∧ controller'.lastPhaseCorrectionUs =
      if controller.scheduler.synchronized = false then result.timing.timingErrorUs
      else if result.timing.result = .insideWindow then
        calculatePhaseCorrection controller result.timing.timingErrorUs
      else controller.lastPhaseCorrectionUs := by
  unfold fhssSyncControllerProcessRx at h
  by_cases hneg : rxTimestampUs < 0
  · rw [if_pos hneg] at h
    cases h
  rw [if_neg hneg] at h
  by_cases hinit : controller.initialized = false
  · rw [if_pos hinit] at h
    cases h
  rw [if_neg hinit] at h
  cases hdecode : fhssSyncPacketDecode protocol buffer with
  | error status =>
    rw [hdecode] at h
    cases h
  | ok packet =>
    rw [hdecode] at h
    dsimp only at h
    by_cases hoffset : rxTimestampUs < controller.offset
    · rw [if_pos hoffset] at h
      cases h
    rw [if_neg hoffset] at h
    by_cases hsync : controller.scheduler.synchronized = true
    · rw [if_pos hsync] at h
      cases hstart : fhssSlotSchedulerGetSlotStartTime controller.scheduler packet.slotNumber with
      | error status =>
        rw [hstart] at h
        cases h
      | ok start =>
        have hlacks : ¬ controller.LacksStart protocol buffer := by
          rintro ⟨-, packet', status, hdecode', hstart'⟩
          obtain rfl := Except.ok.inj (hdecode.symm.trans hdecode')
          rw [hstart] at hstart'
          cases hstart'
        rw [hstart] at h
        dsimp only [Except.map] at h
        generalize fhssCoreProcessRx protocol controller.core buffer (start + controller.offset)
          rxTimestampUs = answer at h
        obtain ⟨core, status | coreResult⟩ := answer
        · cases h
        · obtain ⟨rfl, hlast⟩ := fhssSyncControllerAnchor_last h
          exact ⟨hlacks, hlast⟩
    · rw [if_neg hsync] at h
      dsimp only at h
      generalize fhssCoreProcessRx protocol controller.core buffer rxTimestampUs rxTimestampUs =
        answer at h
      obtain ⟨core, status | coreResult⟩ := answer
      · cases h
      · obtain ⟨rfl, hlast⟩ := fhssSyncControllerAnchor_last h
        exact ⟨fun hlacks => hsync hlacks.1, hlast⟩

/-- Inside the timing window `fhss_sync_controller_process_rx` moves the reference of a
synchronized scheduler by the correction it leaves in the field; outside the window it leaves
both alone.  The first packet leaves no correction. -/
lemma fhssSyncControllerProcessRx_moved (h : ControllerReady controller) {buffer : Bytes}
    {rxTimestampUs : ℤ} (hmax : rxTimestampUs ≤ int64Max) {controller' : FhssSyncController}
    {result : FhssCoreRxResult}
    (haccept : fhssSyncControllerProcessRx protocol controller buffer rxTimestampUs =
      (controller', .ok result)) :
    controller.AcceptsSync protocol buffer rxTimestampUs result.packet ∧
      result.timing = fhssTimingWindowEvaluate controller.core.timingConfig
        (controller.expectedRxTime result.packet.slotNumber.toNat rxTimestampUs) rxTimestampUs ∧
      (controller.scheduler.synchronized = false → controller'.lastPhaseCorrectionUs = 0) ∧
      (controller.scheduler.synchronized = true →
        controller'.predictedStart result.packet.slotNumber.toNat -
            controller.predictedStart result.packet.slotNumber.toNat =
          if result.timing.result = .insideWindow then controller'.lastPhaseCorrectionUs
          else 0) ∧
      (result.timing.result ≠ .insideWindow →
        controller'.lastPhaseCorrectionUs = controller.lastPhaseCorrectionUs) := by
  obtain ⟨hlacks, hlast⟩ := fhssSyncControllerProcessRx_last protocol haccept
  rcases fhssSyncControllerProcessRx_cases protocol h buffer hmax with
    ⟨status, hreject, -⟩ | ⟨packet, syncTracker, syncEvent, channel, scheduler, last, accumulated,
      haccepts, -, hoffset, -, -, -, -, heffect, hok⟩
  · rw [hreject] at haccept
    cases haccept
  rw [hok] at haccept
  cases haccept
  dsimp only at hlast ⊢
  have herror := timingErrorUs_fhssTimingWindowEvaluate controller.core.timingConfig
    (controller.expectedRxTime packet.slotNumber.toNat rxTimestampUs) rxTimestampUs
  have hfirst : controller.scheduler.synchronized = false →
      (fhssTimingWindowEvaluate controller.core.timingConfig
        (controller.expectedRxTime packet.slotNumber.toNat rxTimestampUs)
        rxTimestampUs).result = .insideWindow := by
    intro hsync
    unfold FhssSyncController.expectedRxTime
    rw [if_neg (by simp [hsync]), fhssTimingWindowEvaluate_self]
  generalize fhssTimingWindowEvaluate controller.core.timingConfig
    (controller.expectedRxTime packet.slotNumber.toNat rxTimestampUs) rxTimestampUs = timing
    at hlast heffect herror hfirst ⊢
  refine ⟨⟨haccepts, hoffset, hlacks⟩, rfl, ?_, ?_, ?_⟩
  · intro hsync
    rw [hlast, if_pos hsync, herror]
    simp [FhssSyncController.expectedRxTime, hsync]
  · intro hsync
    by_cases hinside : timing.result = .insideWindow
    · rw [if_pos hinside, hlast, if_neg (by simp [hsync]), if_pos hinside,
        calculatePhaseCorrection_eq, herror]
      have hstart := ((anchorEffect_inside hinside).mp heffect).start_eq
      unfold FhssSyncController.correctedStart at hstart
      rw [if_pos hsync] at hstart
      unfold FhssSyncController.expectedRxTime
      rw [if_pos hsync]
      change slotStart scheduler.duration scheduler.anchor packet.slotNumber.toNat - _ = _
      rw [hstart]
      ring
    · rw [if_neg hinside]
      obtain ⟨rfl, -⟩ := (anchorEffect_outside hinside).mp heffect
      exact sub_self _
  · intro houtside
    have hsync : ¬ controller.scheduler.synchronized = false := fun hsync =>
      houtside (hfirst hsync)
    rw [hlast, if_neg hsync, if_neg houtside]

/-- A recovery sample leaves its timing error in the field. -/
lemma fhssSyncControllerRecoverRx_last (h : ControllerReady controller) {buffer : Bytes}
    {rxTimestampUs : ℤ} {controller' : FhssSyncController} {result : FhssCoreRxResult}
    (haccept : fhssSyncControllerRecoverRx protocol controller buffer rxTimestampUs =
      (controller', .ok result)) : controller'.lastPhaseCorrectionUs = 0 := by
  rcases fhssSyncControllerRecoverRx_cases protocol h buffer rxTimestampUs with
    ⟨status, hreject, -⟩ | ⟨packet, syncTracker, syncEvent, channel, scheduler, last, accumulated,
      -, -, -, -, -, -, -, hok⟩
  · rw [hreject] at haccept
    cases haccept
  have htiming : result.timing.timingErrorUs = 0 := by
    rw [hok] at haccept
    cases haccept
    rfl
  rw [← htiming]
  unfold fhssSyncControllerRecoverRx at haccept
  split_ifs at haccept
  · cases haccept
  · cases haccept
  generalize fhssCoreProcessRx protocol controller.core buffer rxTimestampUs rxTimestampUs = answer
    at haccept
  obtain ⟨core, status | coreResult⟩ := answer
  · cases haccept
  dsimp only at haccept
  generalize fhssSlotSchedulerSetReference controller.scheduler coreResult.packet.slotNumber
    (rxTimestampUs - controller.offset) = set at haccept
  cases set with
  | error status => cases haccept
  | ok scheduler =>
    cases haccept
    rfl

end Controller

/-! ## The calls -/

/-- The call accepts a SYNC packet. -/
def accepts (call : RxCall) : Bool :=
  match receiveOne protocol deriveHopSeed call.service call.receive with
  | (_, .ok _) => true
  | _ => false

/-- What a call adds to the statistics. -/
lemma recordCall_spec (diagnostics : FhssDiagnostics) (call : RxCall) :
    (recordCall protocol deriveHopSeed diagnostics call).rxValidCount =
        diagnostics.rxValidCount + UInt32.ofNat (accepts protocol deriveHopSeed call).toNat ∧
      (recordCall protocol deriveHopSeed diagnostics call).correctionAppliedCount =
        diagnostics.correctionAppliedCount +
          UInt32.ofNat (if notedUs protocol deriveHopSeed call ≠ 0 then 1 else 0) ∧
      (recordCall protocol deriveHopSeed diagnostics call).correctionAbsSumUs =
        diagnostics.correctionAbsSumUs + (notedUs protocol deriveHopSeed call).natAbs := by
  unfold recordCall accepts notedUs
  generalize receiveOne protocol deriveHopSeed call.service call.receive = answer
  obtain ⟨service, received⟩ := answer
  cases received with
  | ok result =>
    by_cases hzero : service.controller.lastPhaseCorrectionUs = 0
    · simp [recordReceiveResult, fhssDiagnosticsRecordCorrection, fhssDiagnosticsRecordValid, hzero]
    · simp [recordReceiveResult, fhssDiagnosticsRecordCorrection, fhssDiagnosticsRecordValid, hzero]
  | timeout => simp [recordReceiveResult, fhssDiagnosticsRecordTimeout]
  | crcFail => simp [recordReceiveResult, fhssDiagnosticsRecordCrcFail]
  | radioError => simp [recordReceiveResult]
  | syncError => simp [recordReceiveResult]
  | data => simp [recordReceiveResult]
  | sessionEnd => simp [recordReceiveResult]

/-- What a run of calls adds to the statistics. -/
lemma recordCalls_spec (calls : List RxCall) : ∀ diagnostics : FhssDiagnostics,
    (calls.foldl (recordCall protocol deriveHopSeed) diagnostics).rxValidCount =
        diagnostics.rxValidCount +
          UInt32.ofNat (calls.countP (accepts protocol deriveHopSeed)) ∧
      (calls.foldl (recordCall protocol deriveHopSeed) diagnostics).correctionAppliedCount =
        diagnostics.correctionAppliedCount +
          UInt32.ofNat ((calls.map (notedUs protocol deriveHopSeed)).filter (· ≠ 0)).length ∧
      (calls.foldl (recordCall protocol deriveHopSeed) diagnostics).correctionAbsSumUs =
        diagnostics.correctionAbsSumUs +
          ((calls.map fun call => (notedUs protocol deriveHopSeed call).natAbs).sum : ℕ) := by
  induction calls with
  | nil => intro diagnostics; simp
  | cons call calls ih =>
    intro diagnostics
    obtain ⟨hvalid, happlied, hsum⟩ := recordCall_spec protocol deriveHopSeed diagnostics call
    obtain ⟨hvalid', happlied', hsum'⟩ :=
      ih (recordCall protocol deriveHopSeed diagnostics call)
    rw [List.foldl_cons, hvalid', happlied', hsum', hvalid, happlied, hsum]
    refine ⟨?_, ?_, ?_⟩
    · rw [List.countP_cons, UInt32.add_assoc, ← UInt32.ofNat_add, Nat.add_comm]
      cases accepts protocol deriveHopSeed call <;> rfl
    · rw [List.map_cons, List.filter_cons, UInt32.add_assoc, ← UInt32.ofNat_add]
      congr 2
      by_cases hzero : notedUs protocol deriveHopSeed call = 0
      · simp [hzero]
      · simp [hzero, Nat.add_comm]
    · rw [List.map_cons, List.sum_cons, Nat.cast_add, add_assoc]

/-- The packet behind an accepted SYNC packet, and the function of the controller it went to. -/
lemma receiveOne_eq_ok {service service' : FhssService} {receive : RadioReceive}
    {result : FhssCoreRxResult}
    (h : receiveOne protocol deriveHopSeed service receive = (service', .ok result)) :
    ∃ payload rxTimestampUs appliedSeed action,
      receive = .packet true payload rxTimestampUs appliedSeed action ∧
      fhssSyncPacketHasValidMagic protocol payload = true ∧
      (if service.fsm = .recovery then
          fhssSyncControllerRecoverRx protocol service.controller payload rxTimestampUs.toInt
        else fhssSyncControllerProcessRx protocol service.controller payload
          rxTimestampUs.toInt) = (service'.controller, .ok result) := by
  have houtcome := receiveOne_outcome protocol deriveHopSeed service receive
  rw [h] at houtcome
  cases houtcome with
  | quiet hok hend => exact absurd rfl (hok result)
  | data appliedSeed hsearching happlied hreceived => split_ifs at hreceived
  | accepted payload rxTimestampUs hmagic hrx =>
    exact ⟨payload, rxTimestampUs, _, _, rfl, hmagic, hrx⟩

section Ready

variable {call : RxCall}

/-- A packet that repeats a correction is noted and moves nothing. -/
lemma moved_of_repeatsCorrection (hready : ControllerReady call.service.controller)
    (hrepeats : RepeatsCorrection protocol call) :
    movedUs protocol deriveHopSeed call = 0 ∧ notedUs protocol deriveHopSeed call ≠ 0 := by
  obtain ⟨service, receive⟩ := call
  unfold RepeatsCorrection at hrepeats
  split at hrepeats
  next payload rxTimestampUs appliedSeed action hreceive =>
    obtain ⟨hfsm, hlast, hmagic, packet, ⟨haccepts, hoffset, hlacks⟩, houtside⟩ := hrepeats
    dsimp only at hready hreceive hfsm hlast haccepts hoffset hlacks houtside
    subst hreceive
    rcases fhssSyncControllerProcessRx_cases protocol hready payload
      (toInt_le_int64Max rxTimestampUs) with
      ⟨status, -, -, hrefuses⟩ | ⟨packet', syncTracker, syncEvent, channel, scheduler, last,
        accumulated, haccepts', -, -, -, -, -, -, -, hok⟩
    · exact absurd (hrefuses packet haccepts hoffset) hlacks
    obtain rfl : packet = packet' := Except.ok.inj (haccepts.1.symm.trans haccepts'.1)
    obtain ⟨-, htiming, hfirst, hmoved, hkept⟩ := fhssSyncControllerProcessRx_moved protocol
      hready (toInt_le_int64Max rxTimestampUs) hok
    have hanswer : receiveOne protocol deriveHopSeed service
        (.packet true payload rxTimestampUs appliedSeed action) =
        ({ service with
          controller := service.controller.updated syncTracker scheduler last accumulated },
          .ok ⟨packet, fhssTimingWindowEvaluate service.controller.core.timingConfig
            (service.controller.expectedRxTime packet.slotNumber.toNat rxTimestampUs.toInt)
            rxTimestampUs.toInt, syncEvent, syncTracker.state, packet.hopIndex, channel⟩) := by
      unfold receiveOne
      dsimp only
      rw [if_neg (by simp), if_neg (by simp [hmagic]), if_neg hfsm, hok]
    unfold movedUs notedUs
    dsimp only
    rw [hanswer]
    dsimp only at htiming hmoved hkept ⊢
    constructor
    · split_ifs with hsync
      · rw [hmoved hsync.2, if_neg houtside]
      · rfl
    · rw [hkept houtside]
      exact hlast
  next => exact absurd hrepeats (by simp)

/-- What every other packet leaves as its correction is what it moved. -/
lemma noted_eq_moved (hready : ControllerReady call.service.controller)
    (hrepeats : ¬ RepeatsCorrection protocol call) :
    notedUs protocol deriveHopSeed call = movedUs protocol deriveHopSeed call := by
  obtain ⟨service, receive⟩ := call
  unfold notedUs movedUs
  dsimp only at hready ⊢
  generalize hanswer : receiveOne protocol deriveHopSeed service receive = answer
  obtain ⟨service', received⟩ := answer
  cases received with
  | ok result =>
    obtain ⟨payload, rxTimestampUs, appliedSeed, action, rfl, hmagic, hcontroller⟩ :=
      receiveOne_eq_ok protocol deriveHopSeed hanswer
    dsimp only
    by_cases hfsm : service.fsm = .recovery
    · rw [if_pos hfsm] at hcontroller
      rw [if_neg (by simp [hfsm])]
      exact fhssSyncControllerRecoverRx_last protocol hready hcontroller
    rw [if_neg hfsm] at hcontroller
    obtain ⟨haccepts, htiming, hfirst, hmoved, hkept⟩ := fhssSyncControllerProcessRx_moved protocol
      hready (toInt_le_int64Max rxTimestampUs) hcontroller
    by_cases hsync : service.controller.scheduler.synchronized = true
    · rw [if_pos ⟨hfsm, hsync⟩, hmoved hsync]
      split_ifs with hinside
      · rfl
      · -- Outside the window, and no repetition: the field holds nothing.
        rw [hkept hinside]
        by_contra hlast
        refine hrepeats ⟨hfsm, hlast, hmagic, result.packet, haccepts, ?_⟩
        rw [← htiming]
        exact hinside
    · rw [if_neg fun h => hsync h.2]
      exact hfirst (by simpa using hsync)
  | timeout => rfl
  | crcFail => rfl
  | radioError => rfl
  | syncError => rfl
  | data => rfl
  | sessionEnd => rfl

/-- A tracker tells a miss from a valid packet. -/
lemma fhssSyncStateOnMiss_ne_onValid {tracker : FhssSyncStateTracker} (h : TrackerReady tracker) :
    fhssSyncStateOnMiss tracker ≠ fhssSyncStateOnValid tracker := by
  -- A count below its limit can be raised by one.
  have hsucc : ∀ count limit : UInt32, count.toNat < limit.toNat → count + 1 ≠ 0 := by
    intro count limit hlt heq
    have hnat := toNat_count_succ hlt
    rw [heq] at hnat
    exact absurd hnat (by simp)
  intro heq
  unfold fhssSyncStateOnMiss fhssSyncStateOnValid at heq
  rw [if_neg (by simp [h.initialized]), if_neg (by simp [h.initialized])] at heq
  cases hstate : tracker.state with
  | searching =>
    rw [hstate] at heq
    dsimp only at heq
    split_ifs at heq
    · simp at heq
    · have hvalid := congrArg FhssSyncStateTracker.consecutiveValid
        (Prod.mk.inj (Except.ok.inj heq)).1
      exact hsucc _ _ h.valid_lt hvalid.symm
  | locked =>
    rw [hstate] at heq
    dsimp only at heq
    split_ifs at heq
    · simp at heq
    · have hmisses := congrArg FhssSyncStateTracker.consecutiveMisses
        (Prod.mk.inj (Except.ok.inj heq)).1
      exact hsucc _ _ h.misses_lt hmisses

/-- An accepted packet anchors or lies inside the window, or counts as a miss. -/
lemma accepts_eq (hready : ControllerReady call.service.controller) :
    (accepts protocol deriveHopSeed call).toNat =
      (anchors protocol deriveHopSeed call).toNat +
        (countsAsMiss protocol deriveHopSeed call).toNat := by
  unfold accepts anchors countsAsMiss
  rcases receiveOne_shape protocol deriveHopSeed hready call.receive with
    ⟨service', received, hreceive, hnotOk, -⟩ | ⟨syncTracker, scheduler, last, accumulated, result,
      hreceive, -, -, -, hupdate, hwindow⟩
  · rw [hreceive]
    cases received with
    | ok result => exact absurd rfl (hnotOk result)
    | timeout => rfl
    | crcFail => rfl
    | radioError => rfl
    | syncError => rfl
    | data => rfl
    | sessionEnd => rfl
  · rw [hreceive]
    dsimp only [FhssSyncController.updated]
    by_cases hinside : result.timing.result = .insideWindow
    · have hne : fhssSyncStateOnMiss call.service.controller.core.syncTracker ≠
          .ok (syncTracker, result.syncEvent) := by
        rw [if_pos hinside] at hupdate
        rw [← hupdate]
        exact fhssSyncStateOnMiss_ne_onValid hready.core_ready.tracker_ready
      rw [decide_eq_false hne, hinside]
      rfl
    · have hfollows : call.service.fsm ≠ .recovery ∧
          call.service.controller.scheduler.synchronized = true := by
        refine ⟨fun hrecovery => hinside (hwindow (.inl hrecovery)), ?_⟩
        by_contra hsync
        exact hinside (hwindow (.inr (by simpa using hsync)))
      rw [if_neg hinside] at hupdate
      rw [decide_eq_true hupdate, hfollows.2]
      simp [hinside, hfollows.1]

end Ready

/-- The accepted packets of a run. -/
lemma countP_accepts (calls : List RxCall)
    (hready : ∀ call ∈ calls, ControllerReady call.service.controller) :
    calls.countP (accepts protocol deriveHopSeed) =
      calls.countP (anchors protocol deriveHopSeed) +
        calls.countP (countsAsMiss protocol deriveHopSeed) := by
  induction calls with
  | nil => rfl
  | cons call calls ih =>
    obtain ⟨hcall, hcalls⟩ := List.forall_mem_cons.mp hready
    have hone : ∀ b : Bool, (if b = true then 1 else 0) = b.toNat := by decide
    have haccepts := accepts_eq protocol deriveHopSeed hcall
    rw [List.countP_cons, List.countP_cons, List.countP_cons, ih hcalls, hone, hone, hone,
      haccepts]
    omega

/-- The magnitudes of the corrections are those of all moves. -/
lemma sum_corrections (calls : List RxCall) :
    ((corrections protocol deriveHopSeed calls).map Int.natAbs).sum =
      (calls.map fun call => (movedUs protocol deriveHopSeed call).natAbs).sum := by
  unfold corrections
  induction calls with
  | nil => rfl
  | cons call calls ih =>
    rw [List.map_cons, List.map_cons, List.sum_cons, List.filter_cons, ← ih]
    by_cases hzero : movedUs protocol deriveHopSeed call = 0
    · simp [hzero]
    · simp [hzero]

/-- **The correction statistics** of a run of `rx_task` are exact if and only if no SYNC packet
outside the timing window is accepted while `last_phase_correction_us` still holds the correction
of an earlier one. -/
theorem statsExact_iff {service : FhssService} (hentry : RxTaskEntry service)
    (turns : List RxTurn) (diagnostics : FhssDiagnostics) :
    let calls := taskCalls protocol deriveHopSeed service turns
    StatsExact protocol deriveHopSeed diagnostics
        (calls.foldl (recordCall protocol deriveHopSeed) diagnostics) calls ↔
      ∀ call ∈ calls, ¬ RepeatsCorrection protocol call := by
  intro calls
  have hready : ∀ call ∈ calls, ControllerReady call.service.controller :=
    controllerReady_taskCalls protocol deriveHopSeed turns
      (controllerReady_init (freshRxSession_of_entry hentry).built).1
  obtain ⟨hvalid, happlied, hsum⟩ := recordCalls_spec protocol deriveHopSeed calls diagnostics
  constructor
  · intro hexact call hcall hrepeats
    -- The repetition is noted and moved nothing, so the sum of magnitudes is too large.
    have hlt : (calls.map fun call => (movedUs protocol deriveHopSeed call).natAbs).sum <
        (calls.map fun call => (notedUs protocol deriveHopSeed call).natAbs).sum := by
      refine List.sum_lt_sum _ _ (fun other hother => ?_) ⟨call, hcall, ?_⟩
      · by_cases hother' : RepeatsCorrection protocol other
        · rw [(moved_of_repeatsCorrection protocol deriveHopSeed (hready other hother) hother').1]
          exact Nat.zero_le _
        · rw [noted_eq_moved protocol deriveHopSeed (hready other hother) hother']
      · obtain ⟨hmoved, hnoted⟩ :=
          moved_of_repeatsCorrection protocol deriveHopSeed (hready call hcall) hrepeats
        rw [hmoved]
        exact Int.natAbs_pos.mpr hnoted
    have habs := hexact.absSum_eq
    rw [hsum, sum_corrections] at habs
    omega
  · intro hquiet
    have hnoted : calls.map (notedUs protocol deriveHopSeed) =
        calls.map (movedUs protocol deriveHopSeed) :=
      List.map_congr_left fun call hcall =>
        noted_eq_moved protocol deriveHopSeed (hready call hcall) (hquiet call hcall)
    refine ⟨?_, ?_, ?_⟩
    · rw [happlied, hnoted]
      rfl
    · rw [hsum, sum_corrections]
      have hmagnitudes : (calls.map fun call => (notedUs protocol deriveHopSeed call).natAbs) =
          calls.map fun call => (movedUs protocol deriveHopSeed call).natAbs :=
        List.map_congr_left fun call hcall => by
          rw [noted_eq_moved protocol deriveHopSeed (hready call hcall) (hquiet call hcall)]
      rw [hmagnitudes]
    · rw [hvalid, countP_accepts protocol deriveHopSeed calls hready, UInt32.ofNat_add,
        UInt32.add_comm diagnostics.rxValidCount, UInt32.add_sub_cancel, UInt32.add_comm,
        UInt32.add_sub_cancel]

/-- The diagnostics of the sample service after `fhss_service_init`. -/
def sampleDiagnostics : FhssDiagnostics :=
  ⟨[⟨1, 0, 0, 0⟩, ⟨2, 0, 0, 0⟩, ⟨3, 0, 0, 0⟩], 0, 0, 0, 0, 0, 0, 0, 0, 0, 0, 0⟩

/-- Two packets on time and one 2 ms late, which moves the reference by 187 us: noted once. -/
theorem statsExact_iff_late :
    let turns := [sampleTurn 900000 0 1000000, sampleTurn 1000100 1 1300000,
      sampleTurn 1300100 2 1602000]
    let calls := taskCalls plainProtocol none sampleService turns
    let after := calls.foldl (recordCall plainProtocol none) sampleDiagnostics
    StatsExact plainProtocol none sampleDiagnostics after calls ∧
      corrections plainProtocol none calls = [187] ∧ after.correctionAppliedCount = 1 ∧
      after.correctionAbsSumUs = 187 := by
  intro turns calls after
  have hfirst : ∀ call ∈ calls, call.service.controller.lastPhaseCorrectionUs = 0 := by
    decide +kernel
  refine ⟨(statsExact_iff plainProtocol none rxTaskEntry_sampleService turns
    sampleDiagnostics).mpr ?_, by decide +kernel, by decide +kernel, by decide +kernel⟩
  intro call hcall hrepeats
  unfold RepeatsCorrection at hrepeats
  split at hrepeats
  · exact hrepeats.2.1 (hfirst call hcall)
  · exact hrepeats

/-- Two packets on time, one 2 ms late, one 30 ms late: the third moves the reference by 187 us,
the fourth lies outside the window and moves nothing, and 187 us are noted twice. -/
theorem stats_repeat_correction :
    let turns := [sampleTurn 900000 0 1000000, sampleTurn 1000100 1 1300000,
      sampleTurn 1300100 2 1602000, sampleTurn 1602100 3 1930000]
    let calls := taskCalls plainProtocol none sampleService turns
    let after := calls.foldl (recordCall plainProtocol none) sampleDiagnostics
    RxTaskEntry sampleService ∧
      fhssDiagnosticsInit sampleService.config.channels = some sampleDiagnostics ∧
      corrections plainProtocol none calls = [187] ∧ after.correctionAppliedCount = 2 ∧
      after.correctionAbsSumUs = 374 ∧
      ¬ StatsExact plainProtocol none sampleDiagnostics after calls := by
  intro turns calls after
  refine ⟨rxTaskEntry_sampleService, by decide +kernel, by decide +kernel, by decide +kernel,
    by decide +kernel, fun hexact => ?_⟩
  exact absurd hexact.applied_eq (by decide +kernel)

end FhssOtaRadio
