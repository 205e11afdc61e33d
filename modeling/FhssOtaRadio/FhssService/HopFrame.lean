import FhssOtaRadio.FhssService.RxTask

/-!
# What the RX task hops by

The hop sequence and the generation of the controller, and the seed they were derived from.  The
handlers of the RX task leave them alone, apart from two: `reset_controller` at the end of a
session builds them anew from the configuration, and the data callback may apply a public seed.
-/

namespace FhssOtaRadio

variable (protocol : OtaProtocol) (deriveHopSeed : Option (UInt32 → UInt32))

/-- The hop sequence that a service follows. -/
def FhssService.hopSequence (service : FhssService) : FhssHopSequence :=
  service.controller.core.hopSequence

/-- Two cores that hop the same way. -/
structure SameCore (core core' : FhssCore) : Prop where
  hopSequence_eq : core'.hopSequence = core.hopSequence
  generation_eq : core'.generation = core.generation

/-- Two services that hop the same way, by the same configuration and the same derived seed. -/
structure SameHops (service service' : FhssService) : Prop extends SameService service service' where
  core : SameCore service.controller.core service'.controller.core
  have_eq : service'.haveDerivedPublicSeed = service.haveDerivedPublicSeed
  last_eq : service'.lastDerivedPublicSeed = service.lastDerivedPublicSeed

lemma SameCore.refl (core : FhssCore) : SameCore core core := ⟨rfl, rfl⟩

lemma SameHops.refl (service : FhssService) : SameHops service service :=
  ⟨.refl service, .refl _, rfl, rfl⟩

lemma SameHops.trans {service service' service'' : FhssService} (h : SameHops service service')
    (h' : SameHops service' service'') : SameHops service service'' :=
  ⟨h.toSameService.trans h'.toSameService,
    ⟨h'.core.hopSequence_eq.trans h.core.hopSequence_eq,
      h'.core.generation_eq.trans h.core.generation_eq⟩,
    h'.have_eq.trans h.have_eq, h'.last_eq.trans h.last_eq⟩

/-! ## Turns without voice data -/

/-- What the voice branch of `on_service_data` does is not done while OTA hops. -/
def RadioReceive.withoutVoice : RadioReceive → RadioReceive
  | .packet crcOk payload rxTimestampUs _ _ => .packet crcOk payload rxTimestampUs none .continue
  | receive => receive

/-- Without voice, the callback applies no seed and goes on. -/
lemma withoutVoice_eq_packet {receive : RadioReceive} {crcOk : Bool} {payload : Bytes}
    {rxTimestampUs : Int64} {appliedSeed : Option UInt32} {action : FhssServiceDataAction}
    (h : receive.withoutVoice = .packet crcOk payload rxTimestampUs appliedSeed action) :
    appliedSeed = none ∧ action = .continue := by
  cases receive with
  | packet crcOk' payload' rxTimestampUs' appliedSeed' action' =>
    cases h
    exact ⟨rfl, rfl⟩
  | startFailed => cases h
  | noTimestamp => cases h
  | receiveFailed => cases h

/-- A turn in which all data goes to OTA. -/
def RxTurn.withoutVoice (turn : RxTurn) : RxTurn where
  nowUs := turn.nowUs
  drain := turn.drain.map fun receive => { receive with receive := receive.receive.withoutVoice }
  selected := turn.selected
  last := { turn.last with receive := turn.last.receive.withoutVoice }

/-! ## The controller -/

section Controller

/-- The core takes a SYNC packet into its tracker only. -/
lemma sameCore_processRx (core : FhssCore) (buffer : Bytes)
    (expectedRxTimeUs actualRxTimeUs : ℤ) :
    SameCore core (fhssCoreProcessRx protocol core buffer expectedRxTimeUs actualRxTimeUs).1 := by
  unfold fhssCoreProcessRx
  dsimp only
  repeat' split
  all_goals exact ⟨rfl, rfl⟩

/-- It takes a timeout into its tracker only. -/
lemma sameCore_handleTimeout (core : FhssCore) :
    SameCore core (fhssCoreHandleTimeout core).1 := by
  unfold fhssCoreHandleTimeout
  dsimp only
  repeat' split
  all_goals exact ⟨rfl, rfl⟩

variable (controller : FhssSyncController)

/-- The controller anchors its scheduler and leaves the core alone. -/
lemma core_fhssSyncControllerAnchor (slotNumber : UInt32) (observedSlotStartUs : ℤ)
    (result : FhssCoreRxResult) :
    (fhssSyncControllerAnchor controller slotNumber observedSlotStartUs result).1.core =
      controller.core := by
  unfold fhssSyncControllerAnchor
  dsimp only
  repeat' split
  all_goals rfl

/-- A SYNC packet changes no hops. -/
lemma sameCore_fhssSyncControllerProcessRx (buffer : Bytes) (rxTimestampUs : ℤ) :
    SameCore controller.core
      (fhssSyncControllerProcessRx protocol controller buffer rxTimestampUs).1.core := by
  unfold fhssSyncControllerProcessRx
  split
  · exact .refl _
  split
  · exact .refl _
  split
  · exact .refl _
  split
  · exact .refl _
  dsimp only
  split
  · exact .refl _
  · rename_i expectedRxTimeUs _
    have hcore := sameCore_processRx protocol controller.core buffer expectedRxTimeUs rxTimestampUs
    generalize fhssCoreProcessRx protocol controller.core buffer expectedRxTimeUs rxTimestampUs =
      answer at hcore ⊢
    obtain ⟨core, _ | result⟩ := answer
    · exact hcore
    · dsimp only at hcore ⊢
      rw [core_fhssSyncControllerAnchor]
      exact hcore

/-- Nor does a SYNC packet that ends a recovery. -/
lemma sameCore_fhssSyncControllerRecoverRx (buffer : Bytes) (rxTimestampUs : ℤ) :
    SameCore controller.core
      (fhssSyncControllerRecoverRx protocol controller buffer rxTimestampUs).1.core := by
  unfold fhssSyncControllerRecoverRx
  split
  · exact .refl _
  split
  · exact .refl _
  have hcore := sameCore_processRx protocol controller.core buffer rxTimestampUs rxTimestampUs
  generalize fhssCoreProcessRx protocol controller.core buffer rxTimestampUs rxTimestampUs =
    answer at hcore ⊢
  obtain ⟨core, _ | result⟩ := answer
  · exact hcore
  · dsimp only
    split <;> exact hcore

/-- Nor does a timeout. -/
lemma sameCore_fhssSyncControllerHandleTimeout :
    SameCore controller.core (fhssSyncControllerHandleTimeout controller).1.core := by
  unfold fhssSyncControllerHandleTimeout
  split
  · exact .refl _
  have hcore := sameCore_handleTimeout controller.core
  generalize fhssCoreHandleTimeout controller.core = answer at hcore ⊢
  obtain ⟨core, _ | ⟨event, state⟩⟩ := answer
  · exact hcore
  · dsimp only
    split
    · split <;> exact hcore
    · exact hcore

/-- A controller that was built hops by its configuration. -/
lemma hops_fhssSyncControllerInit {config : FhssSyncControllerConfig}
    (h : fhssSyncControllerInit config = .ok controller) :
    fhssHopSequenceInitSeeded config.core.channels config.core.hopSeed
        config.core.reservedChannel = .ok controller.core.hopSequence ∧
      controller.core.generation = config.core.generation := by
  obtain ⟨-, -, hcore⟩ := controllerReady_init h
  obtain ⟨-, -, -, hgeneration, hhop⟩ := coreReady_init hcore
  exact ⟨hhop, hgeneration⟩

end Controller

/-! ## The handlers -/

section Handlers

variable (service : FhssService)

lemma sameHops_clearReference : SameHops service service.clearReference := by
  unfold FhssService.clearReference
  cases fhssSlotSchedulerClearReference service.controller.scheduler with
  | error status => exact .refl service
  | ok scheduler => exact ⟨⟨rfl, rfl, rfl⟩, ⟨rfl, rfl⟩, rfl, rfl⟩

lemma sameHops_handle (event : FhssFsmEvent) : SameHops service (service.handle event) :=
  ⟨⟨rfl, rfl, rfl⟩, ⟨rfl, rfl⟩, rfl, rfl⟩

lemma sameHops_selectChannel (slot : UInt32) (selected : Bool) :
    SameHops service (selectChannel service slot selected).1 := by
  unfold selectChannel
  cases fhssCoreGetChannel service.controller.core slot with
  | error status => exact .refl service
  | ok channel =>
    dsimp only
    split_ifs
    · exact .refl service
    · exact ⟨⟨rfl, rfl, rfl⟩, ⟨rfl, rfl⟩, rfl, rfl⟩

lemma sameHops_getRecoveryProbeSlot (slot : UInt32) :
    SameHops service (getRecoveryProbeSlot service slot).1 := by
  unfold getRecoveryProbeSlot
  dsimp only
  split_ifs <;> exact ⟨⟨rfl, rfl, rfl⟩, ⟨rfl, rfl⟩, rfl, rfl⟩

lemma sameHops_handleSyncResult (result : FhssCoreRxResult) :
    SameHops service (handleSyncResult service result).1 := by
  have hnote : SameHops service (noteSyncResult service result.timing.result) := by
    unfold noteSyncResult
    dsimp only
    split_ifs <;> exact ⟨⟨rfl, rfl, rfl⟩, ⟨rfl, rfl⟩, rfl, rfl⟩
  unfold handleSyncResult
  dsimp only
  cases result.syncEvent with
  | none => exact hnote
  | acquired => exact hnote.trans (sameHops_handle _ _)
  | lost => exact (hnote.trans (sameHops_clearReference _)).trans (sameHops_handle _ _)

lemma sameHops_handleMiss : SameHops service (handleMiss service).1 := by
  have hcore := sameCore_fhssSyncControllerHandleTimeout service.controller
  unfold handleMiss
  dsimp only
  generalize fhssSyncControllerHandleTimeout service.controller = answer at hcore ⊢
  obtain ⟨controller, _ | ⟨event, state⟩⟩ := answer
  · exact ⟨⟨rfl, rfl, rfl⟩, hcore, rfl, rfl⟩
  · dsimp only at hcore ⊢
    have hcounted : SameHops service { service with
        consecutiveSyncMisses := service.consecutiveSyncMisses + 1, controller := controller } :=
      ⟨⟨rfl, rfl, rfl⟩, hcore, rfl, rfl⟩
    by_cases hlost : event = .lost
    · rw [if_pos hlost]
      exact ⟨⟨rfl, rfl, rfl⟩, hcore, rfl, rfl⟩
    rw [if_neg hlost]
    by_cases hsynchronizing : service.fsm = .synchronizing
    · rw [if_pos hsynchronizing]
      obtain ⟨⟨hconfig, hrunning, hinit⟩, hclear, hhave, hlast⟩ :=
        hcounted.trans (sameHops_clearReference _)
      exact ⟨⟨hconfig, hrunning, hinit⟩, hclear, hhave, hlast⟩
    rw [if_neg hsynchronizing]
    split_ifs <;> exact ⟨⟨rfl, rfl, rfl⟩, hcore, rfl, rfl⟩

lemma sameHops_handleInvalidSync : SameHops service (handleInvalidSync service).1 := by
  unfold handleInvalidSync
  split_ifs
  · exact sameHops_handleMiss service
  · exact .refl service

/-- A SYNC packet keeps the hops, whichever function of the controller takes it. -/
lemma sameCore_of_rx {payload : Bytes} {rxTimestampUs : Int64} {controller : FhssSyncController}
    {answer : Except FhssControllerStatus FhssCoreRxResult}
    (hrx : (if service.fsm = .recovery then
        fhssSyncControllerRecoverRx protocol service.controller payload rxTimestampUs.toInt
      else fhssSyncControllerProcessRx protocol service.controller payload
        rxTimestampUs.toInt) = (controller, answer)) :
    SameCore service.controller.core controller.core := by
  have hcontroller := congrArg (fun answer => answer.1.core) hrx
  dsimp only at hcontroller
  rw [← hcontroller]
  split_ifs
  · exact sameCore_fhssSyncControllerRecoverRx protocol _ payload _
  · exact sameCore_fhssSyncControllerProcessRx protocol _ payload _

/-- A receive that applies no public seed changes no hops. -/
lemma sameHops_receiveOne {receive : RadioReceive}
    (hnone : ∀ crcOk payload rxTimestampUs appliedSeed action,
      receive = .packet crcOk payload rxTimestampUs appliedSeed action → appliedSeed = none) :
    SameHops service (receiveOne protocol deriveHopSeed service receive).1 := by
  have houtcome := receiveOne_outcome protocol deriveHopSeed service receive
  generalize receiveOne protocol deriveHopSeed service receive = outcome at houtcome ⊢
  cases houtcome with
  | quiet hok hend => exact .refl service
  | data appliedSeed hsearching happlied hreceived =>
    obtain rfl := hnone _ _ _ _ _ rfl
    rw [happlied]
    exact .refl service
  | refused payload rxTimestampUs hrx =>
    exact ⟨⟨rfl, rfl, rfl⟩, sameCore_of_rx protocol service hrx, rfl, rfl⟩
  | accepted payload rxTimestampUs hmagic hrx =>
    exact ⟨⟨rfl, rfl, rfl⟩, sameCore_of_rx protocol service hrx, rfl, rfl⟩

/-! ## A turn while OTA hops -/

/-- A receive without voice data changes no hops and ends no session. -/
lemma receiveOne_withoutVoice (receive : RadioReceive) :
    SameHops service (receiveOne protocol deriveHopSeed service receive.withoutVoice).1 ∧
      (receiveOne protocol deriveHopSeed service receive.withoutVoice).2 ≠ .sessionEnd := by
  constructor
  · refine sameHops_receiveOne protocol deriveHopSeed service ?_
    exact fun crcOk payload rxTimestampUs appliedSeed action hvoice =>
      (withoutVoice_eq_packet hvoice).1
  · have houtcome := receiveOne_outcome protocol deriveHopSeed service receive.withoutVoice
    generalize receiveOne protocol deriveHopSeed service receive.withoutVoice = outcome
      at houtcome ⊢
    generalize hvoice : receive.withoutVoice = silent at houtcome
    cases houtcome with
    | quiet hok hend => exact hend
    | refused payload rxTimestampUs hrx => simp
    | accepted payload rxTimestampUs hmagic hrx => simp
    | data appliedSeed hsearching happlied hreceived =>
      obtain ⟨-, haction⟩ := withoutVoice_eq_packet hvoice
      rw [hreceived, haction]
      simp

/-- Draining the data of a slot without voice changes no hops. -/
lemma sameHops_drainRxDataUntil_withoutVoice (turns : List RadioTurn) :
    SameHops service (drainRxDataUntil protocol deriveHopSeed service (turns.map fun turn =>
      { turn with receive := turn.receive.withoutVoice })).1 := by
  induction turns generalizing service with
  | nil => exact .refl service
  | cons turn turns ih =>
    obtain ⟨hreceive, hnoEnd⟩ :=
      receiveOne_withoutVoice protocol deriveHopSeed service turn.receive
    rw [List.map_cons]
    unfold drainRxDataUntil
    dsimp only
    generalize receiveOne protocol deriveHopSeed service turn.receive.withoutVoice = answer
      at hreceive hnoEnd ⊢
    obtain ⟨service', received⟩ := answer
    cases received with
    | data => exact hreceive.trans (ih service')
    | timeout => exact hreceive.trans (ih service')
    | crcFail => exact hreceive.trans (ih service')
    | radioError => exact hreceive
    | syncError => exact hreceive
    | sessionEnd => exact absurd rfl hnoEnd
    | ok result =>
      have hresult := sameHops_handleSyncResult service' result
      exact (hreceive.trans hresult).trans (ih _)

/-- What is done with the last receive of a turn without voice changes no hops. -/
lemma sameHops_handleReceive_withoutVoice (turn : RadioTurn) :
    SameHops service (handleReceive protocol deriveHopSeed service
      { turn with receive := turn.receive.withoutVoice }).1 := by
  obtain ⟨hreceive, hnoEnd⟩ :=
    receiveOne_withoutVoice protocol deriveHopSeed service turn.receive
  unfold handleReceive
  dsimp only
  generalize receiveOne protocol deriveHopSeed service turn.receive.withoutVoice = answer
    at hreceive hnoEnd ⊢
  obtain ⟨service', received⟩ := answer
  cases received with
  | ok result => exact hreceive.trans (sameHops_handleSyncResult service' result)
  | sessionEnd => exact absurd rfl hnoEnd
  | data => exact hreceive
  | timeout => exact hreceive.trans (sameHops_handleMiss service')
  | crcFail => exact hreceive.trans (sameHops_handleMiss service')
  | syncError => exact hreceive.trans (sameHops_handleInvalidSync service')
  | radioError => exact hreceive

/-- **OTA hops on.**  A turn without voice data changes no hops. -/
theorem sameHops_rxTaskTurn_withoutVoice (turn : RxTurn) :
    SameHops service (rxTaskTurn protocol deriveHopSeed service turn.withoutVoice).1 := by
  have htuned : ∀ (service : FhssService) (probe channel : UInt8), SameHops service
      { service with recoveryProbeIndex := probe, currentChannel := channel } :=
    fun _ _ _ => ⟨⟨rfl, rfl, rfl⟩, ⟨rfl, rfl⟩, rfl, rfl⟩
  have houtcome := rxTaskTurn_outcome protocol deriveHopSeed service turn.withoutVoice
  have hdrains := sameHops_drainRxDataUntil_withoutVoice protocol deriveHopSeed service turn.drain
  generalize rxTaskTurn protocol deriveHopSeed service turn.withoutVoice = outcome at houtcome ⊢
  cases houtcome with
  | searchUnselected => exact htuned service service.recoveryProbeIndex _
  | searched channel _ _ hok hquiet =>
    have hselect := htuned service service.recoveryProbeIndex channel
    have hreceived := (receiveOne_withoutVoice protocol deriveHopSeed
      { service with currentChannel := channel } turn.last.receive).1
    cases hreceive : receiveOne protocol deriveHopSeed { service with currentChannel := channel }
        turn.last.receive.withoutVoice with
    | mk service' received =>
      rw [hreceive] at hreceived
      cases received with
      | ok result =>
        rw [hok hreceive]
        exact (hselect.trans hreceived).trans (sameHops_handleSyncResult service' result)
      | _ =>
        rw [hquiet hreceive (by simp)]
        exact hselect.trans hreceived
  | noNextSlot => exact (sameHops_handle service .syncLost).trans (sameHops_clearReference _)
  | drained service' _ _ hdrain =>
    change drainRxDataUntil protocol deriveHopSeed service (turn.drain.map _) = _ at hdrain
    rw [hdrain] at hdrains
    exact hdrains
  | unselected service' events probe channel _ _ hdrain =>
    change drainRxDataUntil protocol deriveHopSeed service (turn.drain.map _) = _ at hdrain
    rw [hdrain] at hdrains
    exact hdrains.trans (htuned service' probe channel)
  | received service' events probe channel _ _ hdrain =>
    change drainRxDataUntil protocol deriveHopSeed service (turn.drain.map _) = _ at hdrain
    rw [hdrain] at hdrains
    exact (hdrains.trans (htuned service' probe channel)).trans
      (sameHops_handleReceive_withoutVoice protocol deriveHopSeed _ turn.last)

end Handlers

end FhssOtaRadio
