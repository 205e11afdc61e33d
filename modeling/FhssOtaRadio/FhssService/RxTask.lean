import FhssOtaRadio.FhssService.Service

/-!
# The RX task (`rx_task` in `fhss_service.c`)

One turn of the loop of `rx_task`.  While the state machine searches, the task listens on the
rendezvous channel; afterwards it follows the slot scheduler, drains the data of the current slot
and listens for the SYNC packet of the next one.  What the radio, the clock and the data callback
do in a turn is its label; its trace records the handlers that ran and the events they reported.
-/

namespace FhssOtaRadio

/-- `fhss_service_event_t`. -/
inductive FhssServiceEvent where
  | syncAcquired
  | syncLost
  | error
  deriving DecidableEq, Repr

/-- `fhss_service_data_action_t`. -/
inductive FhssServiceDataAction where
  | «continue»
  | sessionEnd
  deriving DecidableEq, Repr

/-- `receive_result_t`, with the result of an accepted SYNC packet. -/
inductive ReceiveResult where
  | ok (result : FhssCoreRxResult)
  | timeout
  | crcFail
  | radioError
  | syncError
  | data
  | sessionEnd
  deriving DecidableEq

/-- What the radio answers to one `receive_one`.  A packet comes with what the data callback does
should it be no SYNC packet: the public seed it applies and the action it returns. -/
inductive RadioReceive where
  | startFailed
  | noTimestamp
  | receiveFailed
  | packet (crcOk : Bool) (payload : Bytes) (rxTimestampUs : Int64)
      (appliedSeed : Option UInt32) (action : FhssServiceDataAction)

/-- What a turn records: a handler that runs, or an event that `report_event` reports. -/
inductive RxEvent where
  | syncResult (window : FhssTimingWindowResult)
  | miss
  | sessionEnd
  | report (event : FhssServiceEvent)
  deriving DecidableEq, Repr

variable (protocol : OtaProtocol) (deriveHopSeed : Option (UInt32 → UInt32))

/-! ## Handlers -/

/-- Feed an event to the state machine of a service. -/
def FhssService.handle (service : FhssService) (event : FhssFsmEvent) : FhssService :=
  { service with fsm := (fhssFsmHandle service.fsm event).1 }

/-- Clear the reference of the scheduler of a service. -/
def FhssService.clearReference (service : FhssService) : FhssService :=
  match fhssSlotSchedulerClearReference service.controller.scheduler with
  | .error _ => service
  | .ok scheduler =>
      { service with controller := { service.controller with scheduler := scheduler } }

/-- `select_channel`; `selected` says that `rf_transport_set_channel` succeeds. -/
def selectChannel (service : FhssService) (slot : UInt32) (selected : Bool) :
    FhssService × Bool :=
  match fhssCoreGetChannel service.controller.core slot with
  | .error _ => (service, false)
  | .ok channel =>
      if selected = false then (service, false)
      else ({ service with currentChannel := channel }, true)

/-- `receive_one`. -/
def receiveOne (service : FhssService) (receive : RadioReceive) : FhssService × ReceiveResult :=
  match receive with
  | .startFailed => (service, .radioError)
  | .noTimestamp => (service, .timeout)
  | .receiveFailed => (service, .radioError)
  | .packet crcOk payload rxTimestampUs appliedSeed action =>
      if crcOk = false then (service, .crcFail)
      else if fhssSyncPacketHasValidMagic protocol payload = false then
        if service.fsm ≠ .searching then
          let service :=
            match appliedSeed with
            | none => service
            | some publicSeed => (fhssServiceApplyPublicSeed deriveHopSeed service publicSeed).1
          if action = .sessionEnd then (service, .sessionEnd) else (service, .data)
        else (service, .data)
      else
        match if service.fsm = .recovery then
            fhssSyncControllerRecoverRx protocol service.controller payload rxTimestampUs.toInt
          else
            fhssSyncControllerProcessRx protocol service.controller payload
              rxTimestampUs.toInt with
        | (controller, .error _) => ({ service with controller := controller }, .syncError)
        | (controller, .ok result) => ({ service with controller := controller }, .ok result)

/-- The first half of `handle_sync_result`: the packet ends a recovery, or begins the
synchronization. -/
def noteSyncResult (service : FhssService) (window : FhssTimingWindowResult) : FhssService :=
  let service := { service with consecutiveSyncMisses := 0, recoveryProbeIndex := 0 }
  let service := if service.fsm = .recovery then service.handle .syncRecovered else service
  if service.fsm = .searching ∧ window = .insideWindow then service.handle .firstSync else service

/-- `handle_sync_result`. -/
def handleSyncResult (service : FhssService) (result : FhssCoreRxResult) :
    FhssService × List RxEvent :=
  let service := noteSyncResult service result.timing.result
  match result.syncEvent with
  | .none => (service, [.syncResult result.timing.result])
  | .acquired =>
      (service.handle .syncAcquired,
        [.syncResult result.timing.result, .report .syncAcquired])
  | .lost =>
      (service.clearReference.handle .syncLost,
        [.syncResult result.timing.result, .report .syncLost])

/-- `handle_miss`. -/
def handleMiss (service : FhssService) : FhssService × List RxEvent :=
  let wasSynchronizing := service.fsm = .synchronizing
  let service := { service with consecutiveSyncMisses := service.consecutiveSyncMisses + 1 }
  match fhssSyncControllerHandleTimeout service.controller with
  | (controller, .error _) =>
      ({ service with controller := controller }, [.miss, .report .error])
  | (controller, .ok (event, _)) =>
      let service := { service with controller := controller }
      if event = .lost then
        ({ service.handle .syncLost with consecutiveSyncMisses := 0, recoveryProbeIndex := 0 },
          [.miss, .report .syncLost])
      else if wasSynchronizing then
        ({ service.clearReference.handle .syncLost with consecutiveSyncMisses := 0 }, [.miss])
      else if service.fsm = .tracking ∧
          service.config.recoveryEntryMissCount ≤ service.consecutiveSyncMisses then
        ({ service.handle .syncDegraded with recoveryProbeIndex := 0 }, [.miss])
      else (service, [.miss])

/-- `handle_invalid_sync`. -/
def handleInvalidSync (service : FhssService) : FhssService × List RxEvent :=
  if service.fsm = .tracking ∨ service.fsm = .recovery then handleMiss service else (service, [])

/-- `get_recovery_probe_slot`: the predicted slot, then the one behind, then the one ahead. -/
def getRecoveryProbeSlot (service : FhssService) (predictedSlot : UInt32) :
    FhssService × UInt32 :=
  let offset := service.recoveryProbeIndex.toNat % 3
  let service := { service with recoveryProbeIndex := service.recoveryProbeIndex + 1 }
  if offset = 1 then
    if predictedSlot = 0 then (service, predictedSlot) else (service, predictedSlot - 1)
  else if offset = 2 then (service, predictedSlot + 1)
  else (service, predictedSlot)

/-- `handle_session_end`: the service, what it records, and whether it succeeded. -/
def handleSessionEnd (service : FhssService) (selected : Bool) :
    FhssService × List RxEvent × Bool :=
  match resetController { service with fsm := fhssFsmInit } with
  | (service, false) => (service, [.sessionEnd, .report .error], false)
  | (service, true) =>
      if (fhssFsmHandle service.fsm .startRx).2 = false then
        (service.handle .startRx, [.sessionEnd, .report .error], false)
      else
        match selectChannel { service.handle .startRx with
            consecutiveSyncMisses := 0, recoveryProbeIndex := 0 } 0 selected with
        | (service, false) => (service, [.sessionEnd, .report .error], false)
        | (service, true) => (service, [.sessionEnd], true)

/-! ## The loop -/

/-- What the radio answers to a receive, and to the channel change should the packet end the
session. -/
structure RadioTurn where
  receive : RadioReceive
  selected : Bool

/-- `drain_rx_data_until`; the list ends when the slot does. -/
def drainRxDataUntil (service : FhssService) : List RadioTurn → FhssService × List RxEvent × Bool
  | [] => (service, [], false)
  | turn :: turns =>
      match receiveOne protocol deriveHopSeed service turn.receive with
      | (service, .data) => drainRxDataUntil service turns
      | (service, .sessionEnd) => handleSessionEnd service turn.selected
      | (service, .ok result) =>
          let (service, events) := handleSyncResult service result
          let (service, events', ended) := drainRxDataUntil service turns
          (service, events ++ events', ended)
      | (service, .timeout) => drainRxDataUntil service turns
      | (service, .crcFail) => drainRxDataUntil service turns
      | (service, .radioError) => (service, [], false)
      | (service, .syncError) => (service, [], false)

/-- What the clock and the radio answer in one turn. -/
structure RxTurn where
  /-- `esp_timer_get_time` at the top of the loop. -/
  nowUs : Int64
  /-- The receives until the slot ends. -/
  drain : List RadioTurn
  /-- The channel change before the last receive succeeds. -/
  selected : Bool
  /-- The last receive. -/
  last : RadioTurn

/-- What `rx_task` does with the last receive of a turn. -/
def handleReceive (service : FhssService) (turn : RadioTurn) : FhssService × List RxEvent :=
  match receiveOne protocol deriveHopSeed service turn.receive with
  | (service, .ok result) => handleSyncResult service result
  | (service, .sessionEnd) =>
      let (service, events, _) := handleSessionEnd service turn.selected
      (service, events)
  | (service, .data) => (service, [])
  | (service, .timeout) => handleMiss service
  | (service, .crcFail) => handleMiss service
  | (service, .syncError) => handleInvalidSync service
  | (service, .radioError) => (service, [.report .error])

/-- A turn of the loop of `rx_task`: the service afterwards and what the turn records. -/
def rxTaskTurn (service : FhssService) (turn : RxTurn) : FhssService × List RxEvent :=
  if service.fsm = .searching then
    match selectChannel service 0 turn.selected with
    | (service, false) => (service, [.report .error])
    | (service, true) =>
        match receiveOne protocol deriveHopSeed service turn.last.receive with
        | (service, .ok result) => handleSyncResult service result
        | (service, _) => (service, [])
  else
    match fhssSlotSchedulerGetNextSwitchTime service.controller.scheduler turn.nowUs.toInt with
    | .error _ => ((service.handle .syncLost).clearReference, [])
    | .ok (nextSlot, _) =>
        match drainRxDataUntil protocol deriveHopSeed service turn.drain with
        | (service, events, true) => (service, events)
        | (service, events, false) =>
            let (service, channelSlot) :=
              if service.fsm = .recovery then getRecoveryProbeSlot service nextSlot
              else (service, nextSlot)
            match selectChannel service channelSlot turn.selected with
            | (service, false) => (service, events ++ [.report .error])
            | (service, true) =>
                let (service, events') := handleReceive protocol deriveHopSeed service turn.last
                (service, events ++ events')

/-! ## The ways through a turn -/

/-- Selecting a channel leaves everything but the channel alone. -/
lemma selectChannel_eq (service : FhssService) (slot : UInt32) (selected : Bool) :
    ∃ channel, (selectChannel service slot selected).1 =
      { service with currentChannel := channel } := by
  unfold selectChannel
  cases fhssCoreGetChannel service.controller.core slot with
  | error status => exact ⟨service.currentChannel, rfl⟩
  | ok channel =>
    dsimp only
    split_ifs
    · exact ⟨service.currentChannel, rfl⟩
    · exact ⟨channel, rfl⟩

/-- `handle_session_end` stops at a configuration that is not accepted, or begins anew: with a new
controller, without a derived seed, searching on the rendezvous channel. -/
lemma handleSessionEnd_cases (service : FhssService) (selected : Bool) :
    (¬ service.config.Accepted ∧ handleSessionEnd service selected =
        ({ service with fsm := fhssFsmInit }, [.sessionEnd, .report .error], false)) ∨
    ∃ controller channel ok,
      fhssSyncControllerInit service.config.controllerConfig = .ok controller ∧
      handleSessionEnd service selected =
        ({ service with
          controller := controller, haveDerivedPublicSeed := false, fsm := .searching
          currentChannel := channel, consecutiveSyncMisses := 0, recoveryProbeIndex := 0 },
          .sessionEnd :: (if ok = true then [] else [.report .error]), ok) := by
  unfold handleSessionEnd
  rcases resetController_cases { service with fsm := fhssFsmInit } with
    ⟨hreset, hrejected⟩ | ⟨controller, hbuilt, hreset⟩
  · rw [hreset]
    exact .inl ⟨hrejected, rfl⟩
  rw [hreset]
  dsimp only
  have hstarted : ¬ (fhssFsmHandle fhssFsmInit .startRx).2 = false := by decide
  rw [if_neg hstarted]
  obtain ⟨channel, hselect⟩ := selectChannel_eq
    { (({ service with
          controller := controller, haveDerivedPublicSeed := false, fsm := fhssFsmInit } :
        FhssService).handle .startRx) with
      consecutiveSyncMisses := 0, recoveryProbeIndex := 0 } 0 selected
  generalize selectChannel _ 0 selected = picked at hselect
  obtain ⟨service', ok⟩ := picked
  obtain rfl : service' = _ := hselect
  refine .inr ⟨controller, channel, ok, hbuilt, ?_⟩
  cases ok with
  | false => rfl
  | true => rfl

/-- A channel is selected only if the radio accepts it. -/
lemma selected_of_selectChannel {service listening : FhssService} {slot : UInt32} {selected : Bool}
    (h : selectChannel service slot selected = (listening, true)) : selected = true := by
  unfold selectChannel at h
  cases hchannel : fhssCoreGetChannel service.controller.core slot with
  | error status =>
    rw [hchannel] at h
    cases (Prod.mk.inj h).2
  | ok channel =>
    rw [hchannel] at h
    dsimp only at h
    split_ifs at h with hfail
    · cases (Prod.mk.inj h).2
    · exact Bool.not_eq_false _ ▸ hfail

/-- How a receive goes: it ends without a packet for the callback or the controller, the callback
answers a data packet, or the controller refuses a SYNC packet, or accepts it. -/
inductive ReceiveOutcome (service : FhssService) :
    RadioReceive → FhssService × ReceiveResult → Prop
  | quiet {receive : RadioReceive} {received : ReceiveResult}
      (hok : ∀ result, received ≠ .ok result) (hend : received ≠ .sessionEnd) :
      ReceiveOutcome service receive (service, received)
  | data (appliedSeed : Option UInt32) {payload : Bytes} {rxTimestampUs : Int64}
      {action : FhssServiceDataAction} {applied : FhssService} {received : ReceiveResult}
      (hsearching : service.fsm ≠ .searching)
      (happlied : applied = match appliedSeed with
        | none => service
        | some publicSeed => (fhssServiceApplyPublicSeed deriveHopSeed service publicSeed).1)
      (hreceived : received = if action = .sessionEnd then .sessionEnd else .data) :
      ReceiveOutcome service (.packet true payload rxTimestampUs appliedSeed action)
        (applied, received)
  | refused (payload : Bytes) (rxTimestampUs : Int64) {appliedSeed : Option UInt32}
      {action : FhssServiceDataAction} {controller : FhssSyncController}
      {status : FhssControllerStatus}
      (hrx : (if service.fsm = .recovery then
          fhssSyncControllerRecoverRx protocol service.controller payload rxTimestampUs.toInt
        else fhssSyncControllerProcessRx protocol service.controller payload
          rxTimestampUs.toInt) = (controller, .error status)) :
      ReceiveOutcome service (.packet true payload rxTimestampUs appliedSeed action)
        ({ service with controller := controller }, .syncError)
  | accepted (payload : Bytes) (rxTimestampUs : Int64) {appliedSeed : Option UInt32}
      {action : FhssServiceDataAction} {controller : FhssSyncController}
      {result : FhssCoreRxResult}
      (hmagic : fhssSyncPacketHasValidMagic protocol payload = true)
      (hrx : (if service.fsm = .recovery then
          fhssSyncControllerRecoverRx protocol service.controller payload rxTimestampUs.toInt
        else fhssSyncControllerProcessRx protocol service.controller payload
          rxTimestampUs.toInt) = (controller, .ok result)) :
      ReceiveOutcome service (.packet true payload rxTimestampUs appliedSeed action)
        ({ service with controller := controller }, .ok result)

/-- Every receive goes one of these ways. -/
lemma receiveOne_outcome (service : FhssService) (receive : RadioReceive) :
    ReceiveOutcome protocol deriveHopSeed service receive
      (receiveOne protocol deriveHopSeed service receive) := by
  cases receive with
  | startFailed => exact .quiet (by simp) (by simp)
  | noTimestamp => exact .quiet (by simp) (by simp)
  | receiveFailed => exact .quiet (by simp) (by simp)
  | packet crcOk payload rxTimestampUs appliedSeed action =>
    unfold receiveOne
    dsimp only
    by_cases hcrc : crcOk = false
    · rw [if_pos hcrc]
      exact .quiet (by simp) (by simp)
    rw [if_neg hcrc]
    obtain rfl : crcOk = true := Bool.eq_true_of_not_eq_false hcrc
    by_cases hmagic : fhssSyncPacketHasValidMagic protocol payload = false
    · rw [if_pos hmagic]
      by_cases hsearching : service.fsm ≠ .searching
      · rw [if_pos hsearching]
        by_cases haction : action = .sessionEnd
        · rw [if_pos haction]
          exact .data _ hsearching rfl (if_pos haction).symm
        · rw [if_neg haction]
          exact .data _ hsearching rfl (if_neg haction).symm
      · rw [if_neg hsearching]
        exact .quiet (by simp) (by simp)
    rw [if_neg hmagic]
    generalize hrx : (if service.fsm = .recovery then
      fhssSyncControllerRecoverRx protocol service.controller payload rxTimestampUs.toInt
      else fhssSyncControllerProcessRx protocol service.controller payload
        rxTimestampUs.toInt) = answer
    obtain ⟨controller, status | result⟩ := answer
    · exact .refused payload _ hrx
    · exact .accepted payload _ (Bool.eq_true_of_not_eq_false hmagic) hrx

/-- How a turn of `rx_task` goes: searching, it selects the rendezvous channel and receives;
otherwise it drains the slot, selects the channel of the next slot or a recovery probe, and
receives. -/
inductive RxTurnOutcome (service : FhssService) (turn : RxTurn) :
    FhssService × List RxEvent → Prop
  | searchUnselected {channel : UInt8} (hsearching : service.fsm = .searching)
      (hselect : selectChannel service 0 turn.selected =
        ({ service with currentChannel := channel }, false)) :
      RxTurnOutcome service turn
        ({ service with currentChannel := channel }, [.report .error])
  | searched (channel : UInt8) {outcome : FhssService × List RxEvent}
      (hsearching : service.fsm = .searching)
      (hselect : selectChannel service 0 turn.selected =
        ({ service with currentChannel := channel }, true))
      (hok : ∀ {service' result},
        receiveOne protocol deriveHopSeed { service with currentChannel := channel }
          turn.last.receive = (service', .ok result) → outcome = handleSyncResult service' result)
      (hquiet : ∀ {service' received},
        receiveOne protocol deriveHopSeed { service with currentChannel := channel }
          turn.last.receive = (service', received) → (∀ result, received ≠ .ok result) →
        outcome = (service', [])) :
      RxTurnOutcome service turn outcome
  | noNextSlot {status : FhssSlotStatus} (hnot : service.fsm ≠ .searching)
      (hswitch : fhssSlotSchedulerGetNextSwitchTime service.controller.scheduler
        turn.nowUs.toInt = .error status) :
      RxTurnOutcome service turn ((service.handle .syncLost).clearReference, [])
  | drained (service' : FhssService) {events : List RxEvent} {next : UInt32 × ℤ}
      (hnot : service.fsm ≠ .searching)
      (hswitch : fhssSlotSchedulerGetNextSwitchTime service.controller.scheduler
        turn.nowUs.toInt = .ok next)
      (hdrain : drainRxDataUntil protocol deriveHopSeed service turn.drain =
        (service', events, true)) :
      RxTurnOutcome service turn (service', events)
  | unselected (service' : FhssService) (events : List RxEvent) (probe channel : UInt8)
      {next : UInt32 × ℤ} {channelSlot : UInt32} (hnot : service.fsm ≠ .searching)
      (hswitch : fhssSlotSchedulerGetNextSwitchTime service.controller.scheduler
        turn.nowUs.toInt = .ok next)
      (hdrain : drainRxDataUntil protocol deriveHopSeed service turn.drain =
        (service', events, false))
      (hprobe : (if service'.fsm = .recovery then getRecoveryProbeSlot service' next.1
        else (service', next.1)) = ({ service' with recoveryProbeIndex := probe }, channelSlot))
      (hselect : selectChannel { service' with recoveryProbeIndex := probe } channelSlot
        turn.selected =
          ({ service' with recoveryProbeIndex := probe, currentChannel := channel }, false)) :
      RxTurnOutcome service turn
        ({ service' with recoveryProbeIndex := probe, currentChannel := channel },
          events ++ [.report .error])
  | received (service' : FhssService) (events : List RxEvent) (probe channel : UInt8)
      {next : UInt32 × ℤ} {channelSlot : UInt32} (hnot : service.fsm ≠ .searching)
      (hswitch : fhssSlotSchedulerGetNextSwitchTime service.controller.scheduler
        turn.nowUs.toInt = .ok next)
      (hdrain : drainRxDataUntil protocol deriveHopSeed service turn.drain =
        (service', events, false))
      (hprobe : (if service'.fsm = .recovery then getRecoveryProbeSlot service' next.1
        else (service', next.1)) = ({ service' with recoveryProbeIndex := probe }, channelSlot))
      (hselect : selectChannel { service' with recoveryProbeIndex := probe } channelSlot
        turn.selected =
          ({ service' with recoveryProbeIndex := probe, currentChannel := channel }, true)) :
      RxTurnOutcome service turn
        ((handleReceive protocol deriveHopSeed
            { service' with recoveryProbeIndex := probe, currentChannel := channel } turn.last).1,
          events ++ (handleReceive protocol deriveHopSeed
            { service' with recoveryProbeIndex := probe, currentChannel := channel } turn.last).2)

/-- Every turn goes one of these ways. -/
lemma rxTaskTurn_outcome (service : FhssService) (turn : RxTurn) :
    RxTurnOutcome protocol deriveHopSeed service turn
      (rxTaskTurn protocol deriveHopSeed service turn) := by
  unfold rxTaskTurn
  by_cases hsearching : service.fsm = .searching
  · rw [if_pos hsearching]
    obtain ⟨channel, hchannel⟩ := selectChannel_eq service 0 turn.selected
    cases hselect : selectChannel service 0 turn.selected with
    | mk service' ok =>
      rw [hselect] at hchannel
      obtain rfl : service' = _ := hchannel
      cases ok with
      | false => exact .searchUnselected hsearching hselect
      | true =>
        refine .searched channel hsearching hselect (fun hreceive => ?_)
          (fun {_ received} hreceive hnotOk => ?_)
        · dsimp only
          rw [hreceive]
        · dsimp only
          rw [hreceive]
          cases received with
          | ok result => exact absurd rfl (hnotOk result)
          | _ => rfl
  rw [if_neg hsearching]
  cases hswitch : fhssSlotSchedulerGetNextSwitchTime service.controller.scheduler
      turn.nowUs.toInt with
  | error status => exact .noNextSlot hsearching hswitch
  | ok next =>
    dsimp only
    cases hdrain : drainRxDataUntil protocol deriveHopSeed service turn.drain with
    | mk service' rest =>
      obtain ⟨events, _ | _⟩ := rest
      · dsimp only
        have hprobe : ∃ probe, (if service'.fsm = .recovery then
            getRecoveryProbeSlot service' next.1 else (service', next.1)).1 =
              { service' with recoveryProbeIndex := probe } := by
          unfold getRecoveryProbeSlot
          dsimp only
          split_ifs <;> exact ⟨_, rfl⟩
        obtain ⟨probe, hprobe⟩ := hprobe
        cases hprobed : (if service'.fsm = .recovery then getRecoveryProbeSlot service' next.1
            else (service', next.1)) with
        | mk probing channelSlot =>
          rw [hprobed] at hprobe
          obtain rfl : probing = _ := hprobe
          obtain ⟨channel, hchannel⟩ :=
            selectChannel_eq { service' with recoveryProbeIndex := probe } channelSlot
              turn.selected
          dsimp only
          cases hselect : selectChannel { service' with recoveryProbeIndex := probe } channelSlot
              turn.selected with
          | mk listening ok =>
            rw [hselect] at hchannel
            obtain rfl : listening = _ := hchannel
            cases ok with
            | false =>
              exact .unselected service' events probe channel hsearching hswitch hdrain hprobed
                hselect
            | true =>
              exact .received service' events probe channel hsearching hswitch hdrain hprobed
                hselect
      · exact .drained service' hsearching hswitch hdrain

/-! ## What a turn leaves alone -/

/-- The configuration, the task and the initialization of a service, which no handler touches. -/
structure SameService (service service' : FhssService) : Prop where
  config_eq : service'.config = service.config
  running_eq : service'.taskRunning = service.taskRunning
  initialized_eq : service'.initialized = service.initialized

lemma SameService.refl (service : FhssService) : SameService service service := ⟨rfl, rfl, rfl⟩

lemma SameService.trans {service service' service'' : FhssService}
    (h : SameService service service') (h' : SameService service' service'') :
    SameService service service'' :=
  ⟨h'.config_eq.trans h.config_eq, h'.running_eq.trans h.running_eq,
    h'.initialized_eq.trans h.initialized_eq⟩

section Same

variable (service : FhssService)

lemma sameService_clearReference : SameService service service.clearReference := by
  unfold FhssService.clearReference
  cases fhssSlotSchedulerClearReference service.controller.scheduler with
  | error status => exact .refl service
  | ok scheduler => exact ⟨rfl, rfl, rfl⟩

/-- The callback that applies a public seed changes the controller and the seed at most. -/
lemma fhssServiceApplyPublicSeed_fst_eq (publicSeed : UInt32) :
    ∃ controller lastSeed haveSeed,
      (fhssServiceApplyPublicSeed deriveHopSeed service publicSeed).1 =
        { service with
          controller := controller
          lastDerivedPublicSeed := lastSeed
          haveDerivedPublicSeed := haveSeed } := by
  unfold fhssServiceApplyPublicSeed
  split
  · exact ⟨_, _, _, rfl⟩
  · split
    · exact ⟨_, _, _, rfl⟩
    · split <;> exact ⟨_, _, _, rfl⟩

/-- A receive leaves all but the controller and the derived public seed alone. -/
lemma receiveOne_fst_eq (receive : RadioReceive) : ∃ controller lastSeed haveSeed,
    (receiveOne protocol deriveHopSeed service receive).1 =
      { service with
        controller := controller
        lastDerivedPublicSeed := lastSeed
        haveDerivedPublicSeed := haveSeed } := by
  have houtcome := receiveOne_outcome protocol deriveHopSeed service receive
  generalize receiveOne protocol deriveHopSeed service receive = outcome at houtcome ⊢
  cases houtcome with
  | quiet hok hend => exact ⟨_, _, _, rfl⟩
  | data appliedSeed hsearching happlied hreceived =>
    rw [happlied]
    cases appliedSeed with
    | none => exact ⟨_, _, _, rfl⟩
    | some publicSeed =>
      exact fhssServiceApplyPublicSeed_fst_eq deriveHopSeed service publicSeed
  | refused payload rxTimestampUs hrx => exact ⟨_, _, _, rfl⟩
  | accepted payload rxTimestampUs hmagic hrx => exact ⟨_, _, _, rfl⟩

lemma sameService_receiveOne (receive : RadioReceive) :
    SameService service (receiveOne protocol deriveHopSeed service receive).1 := by
  obtain ⟨controller, lastSeed, haveSeed, hreceive⟩ :=
    receiveOne_fst_eq protocol deriveHopSeed service receive
  rw [hreceive]
  exact ⟨rfl, rfl, rfl⟩

lemma sameService_handleSyncResult (result : FhssCoreRxResult) :
    SameService service (handleSyncResult service result).1 := by
  have hnote : SameService service (noteSyncResult service result.timing.result) := by
    unfold noteSyncResult
    dsimp only
    split_ifs <;> exact ⟨rfl, rfl, rfl⟩
  unfold handleSyncResult
  dsimp only
  cases result.syncEvent with
  | none => exact hnote
  | acquired => exact hnote.trans ⟨rfl, rfl, rfl⟩
  | lost => exact (hnote.trans (sameService_clearReference _)).trans ⟨rfl, rfl, rfl⟩

lemma sameService_handleMiss : SameService service (handleMiss service).1 := by
  unfold handleMiss
  dsimp only
  generalize fhssSyncControllerHandleTimeout service.controller = answer
  obtain ⟨controller, _ | ⟨event, state⟩⟩ := answer
  · exact ⟨rfl, rfl, rfl⟩
  · dsimp only
    by_cases hlost : event = .lost
    · rw [if_pos hlost]
      exact ⟨rfl, rfl, rfl⟩
    rw [if_neg hlost]
    by_cases hsynchronizing : service.fsm = .synchronizing
    · rw [if_pos hsynchronizing]
      have hclear := sameService_clearReference { service with
        consecutiveSyncMisses := service.consecutiveSyncMisses + 1, controller := controller }
      exact ⟨hclear.config_eq, hclear.running_eq, hclear.initialized_eq⟩
    rw [if_neg hsynchronizing]
    split_ifs <;> exact ⟨rfl, rfl, rfl⟩

lemma sameService_handleInvalidSync : SameService service (handleInvalidSync service).1 := by
  unfold handleInvalidSync
  split_ifs
  · exact sameService_handleMiss service
  · exact .refl service

lemma sameService_handleSessionEnd (selected : Bool) :
    SameService service (handleSessionEnd service selected).1 := by
  rcases handleSessionEnd_cases service selected with
    ⟨-, hended⟩ | ⟨controller, channel, ok, -, hended⟩
  · rw [hended]
    exact ⟨rfl, rfl, rfl⟩
  · rw [hended]
    exact ⟨rfl, rfl, rfl⟩

lemma sameService_handleReceive (turn : RadioTurn) :
    SameService service (handleReceive protocol deriveHopSeed service turn).1 := by
  have hreceive := sameService_receiveOne protocol deriveHopSeed service turn.receive
  unfold handleReceive
  generalize receiveOne protocol deriveHopSeed service turn.receive = answer at hreceive ⊢
  obtain ⟨service', received⟩ := answer
  cases received with
  | ok result => exact hreceive.trans (sameService_handleSyncResult service' result)
  | timeout => exact hreceive.trans (sameService_handleMiss service')
  | crcFail => exact hreceive.trans (sameService_handleMiss service')
  | radioError => exact hreceive
  | syncError => exact hreceive.trans (sameService_handleInvalidSync service')
  | data => exact hreceive
  | sessionEnd => exact hreceive.trans (sameService_handleSessionEnd service' turn.selected)

end Same

lemma sameService_drainRxDataUntil (turns : List RadioTurn) : ∀ service : FhssService,
    SameService service (drainRxDataUntil protocol deriveHopSeed service turns).1 := by
  induction turns with
  | nil => exact SameService.refl
  | cons turn turns ih =>
    intro service
    have hreceive := sameService_receiveOne protocol deriveHopSeed service turn.receive
    unfold drainRxDataUntil
    generalize receiveOne protocol deriveHopSeed service turn.receive = answer at hreceive ⊢
    obtain ⟨service', received⟩ := answer
    cases received with
    | ok result =>
      exact (hreceive.trans (sameService_handleSyncResult service' result)).trans (ih _)
    | timeout => exact hreceive.trans (ih _)
    | crcFail => exact hreceive.trans (ih _)
    | radioError => exact hreceive
    | syncError => exact hreceive
    | data => exact hreceive.trans (ih _)
    | sessionEnd => exact hreceive.trans (sameService_handleSessionEnd service' turn.selected)

/-- A turn leaves the configuration and the task of the service alone. -/
lemma sameService_rxTaskTurn (service : FhssService) (turn : RxTurn) :
    SameService service (rxTaskTurn protocol deriveHopSeed service turn).1 := by
  have houtcome := rxTaskTurn_outcome protocol deriveHopSeed service turn
  have hdrains := sameService_drainRxDataUntil protocol deriveHopSeed turn.drain service
  generalize rxTaskTurn protocol deriveHopSeed service turn = outcome at houtcome ⊢
  cases houtcome with
  | searchUnselected => exact ⟨rfl, rfl, rfl⟩
  | searched channel _ _ hok hquiet =>
    have hselect : SameService service { service with currentChannel := channel } :=
      ⟨rfl, rfl, rfl⟩
    have hreceived := sameService_receiveOne protocol deriveHopSeed
      { service with currentChannel := channel } turn.last.receive
    cases hreceive : receiveOne protocol deriveHopSeed { service with currentChannel := channel }
        turn.last.receive with
    | mk service' received =>
      rw [hreceive] at hreceived
      cases received with
      | ok result =>
        rw [hok hreceive]
        exact (hselect.trans hreceived).trans (sameService_handleSyncResult service' result)
      | _ =>
        rw [hquiet hreceive (by simp)]
        exact hselect.trans hreceived
  | noNextSlot =>
    have hclear := sameService_clearReference (service.handle .syncLost)
    exact ⟨hclear.config_eq, hclear.running_eq, hclear.initialized_eq⟩
  | drained _ _ _ hdrain =>
    rw [hdrain] at hdrains
    exact hdrains
  | unselected service' events probe channel _ _ hdrain =>
    rw [hdrain] at hdrains
    exact ⟨hdrains.config_eq, hdrains.running_eq, hdrains.initialized_eq⟩
  | received service' events probe channel _ _ hdrain =>
    rw [hdrain] at hdrains
    have hselect : SameService service
        { service' with recoveryProbeIndex := probe, currentChannel := channel } :=
      ⟨hdrains.config_eq, hdrains.running_eq, hdrains.initialized_eq⟩
    exact hselect.trans (sameService_handleReceive protocol deriveHopSeed _ turn.last)

end FhssOtaRadio
