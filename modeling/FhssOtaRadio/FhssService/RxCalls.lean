import FhssOtaRadio.FhssService.RxAgreement

/-!
# The receives of the RX task (`rx_task` in `fhss_service.c`)

Every call of `receive_one` a run of the loop makes, with the service it is made in.  Whatever the
radio, the clock and the data callback do, the controller behind such a call can answer
(`controllerReady_taskCalls`): no handler leaves a controller that cannot.
-/

namespace FhssOtaRadio

variable (protocol : OtaProtocol) (deriveHopSeed : Option (UInt32 → UInt32))

/-- A call of `receive_one`: the service it is made in and what the radio answers. -/
structure RxCall where
  service : FhssService
  receive : RadioReceive

/-- The calls of `drain_rx_data_until`. -/
def drainCalls (service : FhssService) : List RadioTurn → List RxCall
  | [] => []
  | turn :: turns =>
      ⟨service, turn.receive⟩ ::
        match receiveOne protocol deriveHopSeed service turn.receive with
        | (service, .data) => drainCalls service turns
        | (service, .ok result) => drainCalls (handleSyncResult service result).1 turns
        | (service, .timeout) => drainCalls service turns
        | (service, .crcFail) => drainCalls service turns
        | _ => []

/-- The calls of a turn of the loop of `rx_task`. -/
def turnCalls (service : FhssService) (turn : RxTurn) : List RxCall :=
  if service.fsm = .searching then
    match selectChannel service 0 turn.selected with
    | (_, false) => []
    | (service, true) => [⟨service, turn.last.receive⟩]
  else
    match fhssSlotSchedulerGetNextSwitchTime service.controller.scheduler turn.nowUs.toInt with
    | .error _ => []
    | .ok (nextSlot, _) =>
        drainCalls protocol deriveHopSeed service turn.drain ++
          match drainRxDataUntil protocol deriveHopSeed service turn.drain with
          | (_, _, true) => []
          | (service, _, false) =>
              let (service, channelSlot) :=
                if service.fsm = .recovery then getRecoveryProbeSlot service nextSlot
                else (service, nextSlot)
              match selectChannel service channelSlot turn.selected with
              | (_, false) => []
              | (service, true) => [⟨service, turn.last.receive⟩]

/-- The calls of a run of `rx_task`, oldest first. -/
def taskCalls (service : FhssService) : List RxTurn → List RxCall
  | [] => []
  | turn :: turns =>
      turnCalls protocol deriveHopSeed service turn ++
        taskCalls (rxTaskTurn protocol deriveHopSeed service turn).1 turns

/-! ## No handler leaves a controller that cannot answer -/

section Ready

variable {service : FhssService}

lemma controllerReady_clearReference (hready : ControllerReady service.controller) :
    ControllerReady service.clearReference.controller := by
  obtain ⟨scheduler, hscheduler, -, hclear⟩ := clearReference_spec hready
  rw [hclear]
  exact ⟨hready.initialized, hready.core_ready, hscheduler⟩

lemma controllerReady_receiveOne (hready : ControllerReady service.controller)
    (receive : RadioReceive) :
    ControllerReady (receiveOne protocol deriveHopSeed service receive).1.controller := by
  rcases receiveOne_shape protocol deriveHopSeed hready receive with
    ⟨service', received, hreceive, -, hsame⟩ | ⟨syncTracker, scheduler, last, accumulated, result,
      hreceive, htracker, hscheduler, -⟩
  · rw [hreceive]
    exact hsame.ready
  · rw [hreceive]
    exact hready.updated htracker hscheduler last accumulated

lemma controllerReady_handleSyncResult (hready : ControllerReady service.controller)
    (result : FhssCoreRxResult) :
    ControllerReady (handleSyncResult service result).1.controller := by
  unfold handleSyncResult
  rw [noteSyncResult_eq]
  dsimp only
  cases result.syncEvent with
  | none => exact hready
  | acquired => exact hready
  | lost => exact @controllerReady_clearReference { service with
      consecutiveSyncMisses := 0, recoveryProbeIndex := 0
      fsm := afterSync service.fsm result.timing.result } hready

lemma controllerReady_handleMiss (hready : ControllerReady service.controller) :
    ControllerReady (handleMiss service).1.controller := by
  obtain ⟨syncTracker, event, scheduler, -, htracker, hscheduler, hcases⟩ :=
    handleMiss_cases hready
  have hready' := hready.updated htracker hscheduler service.controller.lastPhaseCorrectionUs
    service.controller.accumulatedPhaseCorrectionUs
  rcases hcases with ⟨-, -, hmissed⟩ | ⟨-, -, -, hmissed⟩ | ⟨-, -, -, -, hmissed⟩ |
    ⟨-, -, -, -, hmissed⟩ <;>
  · rw [hmissed]
    exact hready'

lemma controllerReady_handleInvalidSync (hready : ControllerReady service.controller) :
    ControllerReady (handleInvalidSync service).1.controller := by
  unfold handleInvalidSync
  split_ifs
  · exact controllerReady_handleMiss hready
  · exact hready

lemma controllerReady_handleSessionEnd (hready : ControllerReady service.controller)
    (selected : Bool) :
    ControllerReady (handleSessionEnd service selected).1.controller := by
  rcases handleSessionEnd_cases service selected with
    ⟨-, hended⟩ | ⟨controller, channel, ok, hbuilt, hended⟩
  · rw [hended]
    exact hready
  · rw [hended]
    exact (controllerReady_init hbuilt).1

lemma controllerReady_handleReceive (hready : ControllerReady service.controller)
    (turn : RadioTurn) :
    ControllerReady (handleReceive protocol deriveHopSeed service turn).1.controller := by
  have hreceive := controllerReady_receiveOne protocol deriveHopSeed hready turn.receive
  unfold handleReceive
  generalize receiveOne protocol deriveHopSeed service turn.receive = answer at hreceive ⊢
  obtain ⟨service', received⟩ := answer
  cases received with
  | ok result => exact controllerReady_handleSyncResult hreceive result
  | timeout => exact controllerReady_handleMiss hreceive
  | crcFail => exact controllerReady_handleMiss hreceive
  | radioError => exact hreceive
  | syncError => exact controllerReady_handleInvalidSync hreceive
  | data => exact hreceive
  | sessionEnd => exact controllerReady_handleSessionEnd hreceive turn.selected

end Ready

/-! ## The calls -/

/-- The controllers behind the calls of a drain can answer, and so can the one it leaves. -/
lemma controllerReady_drainCalls (turns : List RadioTurn) :
    ∀ {service : FhssService}, ControllerReady service.controller →
      (∀ call ∈ drainCalls protocol deriveHopSeed service turns,
          ControllerReady call.service.controller) ∧
        ControllerReady (drainRxDataUntil protocol deriveHopSeed service turns).1.controller := by
  induction turns with
  | nil => exact fun hready => ⟨by simp [drainCalls], hready⟩
  | cons turn turns ih =>
    intro service hready
    have hreceive := controllerReady_receiveOne protocol deriveHopSeed hready turn.receive
    unfold drainCalls drainRxDataUntil
    generalize receiveOne protocol deriveHopSeed service turn.receive = answer at hreceive ⊢
    obtain ⟨service', received⟩ := answer
    dsimp only at hreceive
    cases received with
    | ok result =>
      have hrest := ih (controllerReady_handleSyncResult hreceive result)
      exact ⟨List.forall_mem_cons.mpr ⟨hready, hrest.1⟩, hrest.2⟩
    | timeout => exact ⟨List.forall_mem_cons.mpr ⟨hready, (ih hreceive).1⟩, (ih hreceive).2⟩
    | crcFail => exact ⟨List.forall_mem_cons.mpr ⟨hready, (ih hreceive).1⟩, (ih hreceive).2⟩
    | data => exact ⟨List.forall_mem_cons.mpr ⟨hready, (ih hreceive).1⟩, (ih hreceive).2⟩
    | radioError => exact ⟨by simpa using hready, hreceive⟩
    | syncError => exact ⟨by simpa using hready, hreceive⟩
    | sessionEnd =>
      exact ⟨by simpa using hready, controllerReady_handleSessionEnd hreceive turn.selected⟩

/-- So it is with a turn. -/
lemma controllerReady_turnCalls {service : FhssService}
    (hready : ControllerReady service.controller) (turn : RxTurn) :
    (∀ call ∈ turnCalls protocol deriveHopSeed service turn,
        ControllerReady call.service.controller) ∧
      ControllerReady (rxTaskTurn protocol deriveHopSeed service turn).1.controller := by
  have houtcome := rxTaskTurn_outcome protocol deriveHopSeed service turn
  obtain ⟨hcalls, hdrained⟩ :=
    controllerReady_drainCalls protocol deriveHopSeed turn.drain hready
  unfold turnCalls
  generalize rxTaskTurn protocol deriveHopSeed service turn = outcome at houtcome ⊢
  cases houtcome with
  | searchUnselected hsearching hselect =>
    rw [if_pos hsearching, hselect]
    exact ⟨by simp, hready⟩
  | searched channel hsearching hselect hok hquiet =>
    rw [if_pos hsearching, hselect]
    refine ⟨by simpa using hready, ?_⟩
    have hreceived := @controllerReady_receiveOne protocol deriveHopSeed
      { service with currentChannel := channel } hready turn.last.receive
    cases hreceive : receiveOne protocol deriveHopSeed { service with currentChannel := channel }
        turn.last.receive with
    | mk service' received =>
      rw [hreceive] at hreceived
      cases received with
      | ok result =>
        rw [hok hreceive]
        exact controllerReady_handleSyncResult hreceived result
      | _ =>
        rw [hquiet hreceive (by simp)]
        exact hreceived
  | noNextSlot hnot hswitch =>
    rw [if_neg hnot, hswitch]
    exact ⟨by simp, @controllerReady_clearReference (service.handle .syncLost) hready⟩
  | drained service' hnot hswitch hdrain =>
    rw [if_neg hnot, hswitch]
    dsimp only
    rw [hdrain] at hdrained ⊢
    exact ⟨by simpa using hcalls, hdrained⟩
  | unselected service' events probe channel hnot hswitch hdrain hprobe hselect =>
    rw [if_neg hnot, hswitch]
    dsimp only
    rw [hdrain] at hdrained ⊢
    dsimp only
    rw [hprobe]
    dsimp only
    rw [hselect]
    exact ⟨by simpa using hcalls, hdrained⟩
  | received service' events probe channel hnot hswitch hdrain hprobe hselect =>
    rw [if_neg hnot, hswitch]
    dsimp only
    rw [hdrain] at hdrained ⊢
    dsimp only
    rw [hprobe]
    dsimp only
    rw [hselect]
    have htuned : ControllerReady ({ service' with
        recoveryProbeIndex := probe, currentChannel := channel } : FhssService).controller :=
      hdrained
    refine ⟨fun call hcall => ?_, controllerReady_handleReceive protocol deriveHopSeed htuned
      turn.last⟩
    rcases List.mem_append.mp hcall with hmem | hmem
    · exact hcalls call hmem
    · rw [List.mem_singleton.mp hmem]
      exact htuned

/-- The controller behind every call of a run can answer. -/
lemma controllerReady_taskCalls (turns : List RxTurn) :
    ∀ {service : FhssService}, ControllerReady service.controller →
      ∀ call ∈ taskCalls protocol deriveHopSeed service turns,
        ControllerReady call.service.controller := by
  induction turns with
  | nil => exact fun _ call hcall => absurd hcall (by simp [taskCalls])
  | cons turn turns ih =>
    intro service hready call hcall
    obtain ⟨hcalls, hnext⟩ := controllerReady_turnCalls protocol deriveHopSeed hready turn
    rcases List.mem_append.mp hcall with hmem | hmem
    · exact hcalls call hmem
    · exact ih hnext call hmem

end FhssOtaRadio
