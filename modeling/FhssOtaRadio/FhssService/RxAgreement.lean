import FhssOtaRadio.FhssService.RxTask
import FhssOtaRadio.FhssCore.SlotProgress

/-!
# Agreement of the RX state machines

The state machine of the service, the sync tracker and the slot scheduler are updated by
different handlers.  `RxAgreement` says how the three belong together; every handler keeps it,
and so does a turn of `rx_task`, unless the scheduler has no next slot for it while the state
machine is tracking or recovering.  `Acquires` counts what the handlers do to the acquisition.
-/

namespace FhssOtaRadio

open Machine

/-- How the three state machines of the RX role belong together. -/
structure RxAgreement (service : FhssService) : Prop where
  accepted : service.config.Accepted
  ready : ControllerReady service.controller
  acquire_count : service.controller.core.syncTracker.config.acquireCount =
    service.config.acquireCount
  active : service.fsm ≠ .stopped ∧ service.fsm ≠ .transmitting
  locked_iff : service.controller.core.syncTracker.state = .locked ↔
    service.fsm = .tracking ∨ service.fsm = .recovery
  synchronized_iff : service.controller.scheduler.synchronized = true ↔
    service.fsm = .synchronizing ∨ service.fsm = .tracking ∨ service.fsm = .recovery

/-! ## The acquisition -/

/-- The number of valid SYNC packets the tracker of a service still needs. -/
def FhssService.toLock (service : FhssService) : ℕ :=
  service.controller.core.syncTracker.validsToLock

/-- A record without misses, packets outside the window and session ends. -/
def Undisturbed (events : List RxEvent) : Prop :=
  ∀ event ∈ events, event ≠ .miss ∧ event ≠ .sessionEnd ∧
    ∀ window, event = .syncResult window → window = .insideWindow

instance (events : List RxEvent) : Decidable (Undisturbed events) :=
  decidable_of_iff (∀ event ∈ events, event ≠ .miss ∧ event ≠ .sessionEnd ∧
      event ≠ .syncResult .beforeWindow ∧ event ≠ .syncResult .afterWindow) (by
    refine forall₂_congr fun event _ => and_congr_right fun _ => and_congr_right fun _ => ?_
    constructor
    · rintro ⟨hbefore, hafter⟩ window rfl
      cases window with
      | insideWindow => rfl
      | beforeWindow => exact absurd rfl hbefore
      | afterWindow => exact absurd rfl hafter
    · intro h
      refine ⟨fun heq => ?_, fun heq => ?_⟩
      · cases h _ heq
      · cases h _ heq)

/-- The number of SYNC packets inside the window. -/
def validCount (events : List RxEvent) : ℕ := events.count (.syncResult .insideWindow)

/-- The number of `SYNC_ACQUIRED` events reported. -/
def acquiredCount (events : List RxEvent) : ℕ := events.count (.report .syncAcquired)

/-- What an undisturbed piece of a run does to the acquisition: every valid packet counts, the
one that completes it reports `SYNC_ACQUIRED`, and the state machine does not start to
recover. -/
def Acquires (service : FhssService) (events : List RxEvent) (service' : FhssService) : Prop :=
  Undisturbed events →
    service'.toLock = service.toLock - validCount events ∧
    acquiredCount events = (if 0 < service.toLock ∧ service'.toLock = 0 then 1 else 0) ∧
    (service.fsm ≠ .recovery → service'.fsm ≠ .recovery)

lemma undisturbed_append {events events' : List RxEvent} :
    Undisturbed (events ++ events') ↔ Undisturbed events ∧ Undisturbed events' := by
  unfold Undisturbed
  constructor
  · intro h
    exact ⟨fun event hmem => h event (List.mem_append_left _ hmem),
      fun event hmem => h event (List.mem_append_right _ hmem)⟩
  · rintro ⟨h, h'⟩ event hmem
    rcases List.mem_append.mp hmem with hmem | hmem
    · exact h event hmem
    · exact h' event hmem

/-- A record with a miss is disturbed. -/
lemma not_undisturbed_of_miss {events : List RxEvent} (h : .miss ∈ events) :
    ¬ Undisturbed events :=
  fun hun => (hun _ h).1 rfl

/-- A record with a session end is disturbed. -/
lemma not_undisturbed_of_sessionEnd {events : List RxEvent} (h : .sessionEnd ∈ events) :
    ¬ Undisturbed events :=
  fun hun => (hun _ h).2.1 rfl

/-- Pieces of a run compose. -/
lemma Acquires.trans {service service' service'' : FhssService} {events events' : List RxEvent}
    (h : Acquires service events service') (h' : Acquires service' events' service'') :
    Acquires service (events ++ events') service'' := by
  intro hun
  obtain ⟨hun, hun'⟩ := undisturbed_append.mp hun
  obtain ⟨hlock, hcount, hfsm⟩ := h hun
  obtain ⟨hlock', hcount', hfsm'⟩ := h' hun'
  unfold validCount at hlock hlock' ⊢
  unfold acquiredCount at hcount hcount' ⊢
  rw [List.count_append, List.count_append, hcount, hcount']
  refine ⟨by omega, ?_, fun hne => hfsm' (hfsm hne)⟩
  split_ifs <;> omega

/-- A step that leaves the tracker and the state machine alone and records neither a packet nor
`SYNC_ACQUIRED`. -/
lemma acquires_of_eq {service service' : FhssService} {events : List RxEvent}
    (htracker : service'.controller.core.syncTracker = service.controller.core.syncTracker)
    (hfsm : service'.fsm = service.fsm) (hvalid : validCount events = 0)
    (hacquired : acquiredCount events = 0) : Acquires service events service' := by
  intro _
  have hlock : service'.toLock = service.toLock := by
    unfold FhssService.toLock
    rw [htracker]
  rw [hlock, hvalid, hacquired, hfsm]
  refine ⟨by omega, ?_, id⟩
  rw [if_neg (by omega)]

/-- A disturbed record says nothing. -/
lemma acquires_of_disturbed {service service' : FhssService} {events : List RxEvent}
    (h : ¬ Undisturbed events) : Acquires service events service' :=
  fun hun => absurd hun h

/-! ## The handlers -/

variable (protocol : OtaProtocol) (deriveHopSeed : Option (UInt32 → UInt32))

section Handlers

variable {service : FhssService}

/-- The agreement only reads the tracker, the scheduler, the state and the configuration. -/
lemma RxAgreement.congr (h : RxAgreement service) {service' : FhssService}
    (hconfig : service'.config = service.config)
    (hready : ControllerReady service'.controller)
    (htracker : service'.controller.core.syncTracker = service.controller.core.syncTracker)
    (hscheduler : service'.controller.scheduler = service.controller.scheduler)
    (hfsm : service'.fsm = service.fsm) : RxAgreement service' where
  accepted := by rw [hconfig]; exact h.accepted
  ready := hready
  acquire_count := by rw [htracker, hconfig]; exact h.acquire_count
  active := by rw [hfsm]; exact h.active
  locked_iff := by rw [htracker, hfsm]; exact h.locked_iff
  synchronized_iff := by rw [hscheduler, hfsm]; exact h.synchronized_iff

/-- A fresh session agrees. -/
lemma rxAgreement_of_fresh (h : FreshRxSession service) : RxAgreement service := by
  obtain ⟨hready, -, hcore⟩ := controllerReady_init h.built
  obtain ⟨hsearching, hunsync⟩ := h.unsynchronized
  obtain ⟨-, -, hconfig, -⟩ := coreReady_init hcore
  refine ⟨⟨_, h.built⟩, hready, ?_, ?_, ?_, ?_⟩
  · rw [hconfig]
    rfl
  · rw [h.searching]
    decide
  · rw [hsearching, h.searching]
    decide
  · rw [hunsync, h.searching]
    decide

/-- Clearing the reference of a ready service. -/
lemma clearReference_spec (hready : ControllerReady service.controller) :
    ∃ scheduler, SchedulerReady scheduler ∧ scheduler.synchronized = false ∧
      service.clearReference =
        { service with controller := { service.controller with scheduler := scheduler } } := by
  obtain ⟨hclear, hcleared⟩ := clearReference_eq hready.scheduler_ready
  unfold FhssService.clearReference
  rw [hclear]
  exact ⟨_, hcleared, rfl, rfl⟩

/-- The state machine after `handle_sync_result` has taken note of the packet. -/
def afterSync (state : FhssFsmState) (window : FhssTimingWindowResult) : FhssFsmState :=
  match state, window with
  | .recovery, _ => .tracking
  | .searching, .insideWindow => .synchronizing
  | state, _ => state

/-- Taking note of a packet keeps an RX state, neither locks nor unlocks, ends a recovery, and
leaves the search for a packet inside the window. -/
lemma afterSync_spec (state : FhssFsmState) (window : FhssTimingWindowResult)
    (hactive : state ≠ .stopped ∧ state ≠ .transmitting)
    (hwindow : state = .searching ∨ state = .recovery → window = .insideWindow) :
    (afterSync state window = .synchronizing ∧ (state = .searching ∨ state = .synchronizing)) ∨
      (afterSync state window = .tracking ∧ (state = .tracking ∨ state = .recovery)) := by
  revert hactive hwindow
  cases state <;> cases window <;> decide

lemma noteSyncResult_eq (service : FhssService) (window : FhssTimingWindowResult) :
    noteSyncResult service window =
      { service with
        consecutiveSyncMisses := 0, recoveryProbeIndex := 0
        fsm := afterSync service.fsm window } := by
  unfold noteSyncResult
  cases hfsm : service.fsm <;> cases window <;>
    simp [FhssService.handle, fhssFsmHandle, afterSync]

/-- A SYNC packet the controller has accepted, once `handle_sync_result` has seen it: the three
machines agree again, and the packet counts for the acquisition. -/
lemma handleSyncResult_agreement (h : RxAgreement service)
    {syncTracker : FhssSyncStateTracker} (htracker : TrackerReady syncTracker)
    {scheduler : FhssSlotScheduler} (hscheduler : SchedulerReady scheduler)
    (hsync : scheduler.synchronized = true) (last accumulated : ℤ) (result : FhssCoreRxResult)
    (hupdate : (if result.timing.result = .insideWindow then
        fhssSyncStateOnValid service.controller.core.syncTracker
      else fhssSyncStateOnMiss service.controller.core.syncTracker) =
        .ok (syncTracker, result.syncEvent))
    (hwindow : service.fsm = .searching ∨ service.fsm = .recovery →
      result.timing.result = .insideWindow) :
    RxAgreement (handleSyncResult { service with
        controller := service.controller.updated syncTracker scheduler last accumulated }
        result).1 ∧
      Acquires service (handleSyncResult { service with
        controller := service.controller.updated syncTracker scheduler last accumulated } result).2
        (handleSyncResult { service with
          controller := service.controller.updated syncTracker scheduler last accumulated }
          result).1 := by
  -- What the tracker reports, and what an undisturbed packet does to the acquisition.
  have hreports : syncTracker.config = service.controller.core.syncTracker.config ∧
      EventReports result.syncEvent service.controller.core.syncTracker.state syncTracker.state ∧
      (result.syncEvent = .acquired → result.timing.result = .insideWindow) := by
    by_cases hinside : result.timing.result = .insideWindow
    · rw [if_pos hinside] at hupdate
      obtain ⟨tracker', event', hok, -, hconfig, hreport, -⟩ :=
        fhssSyncStateOnValid_reports h.ready.core_ready.tracker_ready
      obtain ⟨rfl, rfl⟩ := Prod.mk.inj (Except.ok.inj (hok.symm.trans hupdate))
      exact ⟨hconfig, hreport, fun _ => hinside⟩
    · rw [if_neg hinside] at hupdate
      obtain ⟨tracker', event', hok, -, hconfig, hreport, hne⟩ :=
        fhssSyncStateOnMiss_reports h.ready.core_ready.tracker_ready
      obtain ⟨rfl, rfl⟩ := Prod.mk.inj (Except.ok.inj (hok.symm.trans hupdate))
      exact ⟨hconfig, hreport, fun hacquired => absurd hacquired hne⟩
  have hcounts : result.timing.result = .insideWindow →
      syncTracker.validsToLock = service.toLock - 1 ∧
        result.syncEvent = if service.toLock = 1 then .acquired else .none := by
    intro hinside
    rw [if_pos hinside] at hupdate
    obtain ⟨tracker', event', hok, -, -, hlock, hevent⟩ :=
      fhssSyncStateOnValid_spec h.ready.core_ready.tracker_ready
    obtain ⟨rfl, rfl⟩ := Prod.mk.inj (Except.ok.inj (hok.symm.trans hupdate))
    exact ⟨hlock, hevent⟩
  obtain ⟨hconfig, hreport, hacquired⟩ := hreports
  have hready := h.ready.updated htracker hscheduler last accumulated
  have hcount : syncTracker.config.acquireCount = service.config.acquireCount := by
    rw [hconfig]
    exact h.acquire_count
  have hlocked := h.locked_iff
  unfold handleSyncResult
  rw [noteSyncResult_eq]
  dsimp only
  have hfsm := afterSync_spec service.fsm result.timing.result h.active hwindow
  generalize afterSync service.fsm result.timing.result = state at hfsm ⊢
  cases hevent : result.syncEvent with
  | none =>
    rw [hevent] at hreport hcounts
    have hstate : syncTracker.state = service.controller.core.syncTracker.state := hreport
    refine ⟨⟨h.accepted, hready, hcount, ?_, ?_, ?_⟩, fun hun => ?_⟩
    · rcases hfsm with ⟨rfl, -⟩ | ⟨rfl, -⟩ <;> simp
    · change syncTracker.state = .locked ↔ state = .tracking ∨ state = .recovery
      rw [hstate, hlocked]
      rcases hfsm with ⟨rfl, hold | hold⟩ | ⟨rfl, hold | hold⟩ <;> rw [hold] <;> decide
    · change scheduler.synchronized = true ↔
        state = .synchronizing ∨ state = .tracking ∨ state = .recovery
      rw [hsync]
      rcases hfsm with ⟨rfl, -⟩ | ⟨rfl, -⟩ <;> decide
    · have hinside := (hun _ List.mem_cons_self).2.2 _ rfl
      obtain ⟨hlock, hne⟩ := hcounts hinside
      rw [hinside]
      refine ⟨hlock, ?_, fun _ => ?_⟩
      · change 0 = if 0 < service.toLock ∧ syncTracker.validsToLock = 0 then 1 else 0
        split_ifs at hne with hone
        rw [if_neg (by omega)]
      · change state ≠ .recovery
        rcases hfsm with ⟨rfl, -⟩ | ⟨rfl, -⟩ <;> decide
  | acquired =>
    rw [hevent] at hreport hcounts hacquired
    have hinside := hacquired rfl
    have hstate : state = .synchronizing := by
      rw [hreport.1] at hlocked
      rcases hfsm with ⟨rfl, -⟩ | ⟨-, hold⟩
      · rfl
      · exact absurd (hlocked.mpr hold) (by decide)
    rw [hstate]
    refine ⟨⟨h.accepted, hready, hcount, ?_, ?_, ?_⟩, fun _ => ?_⟩
    · simp [FhssService.handle, fhssFsmHandle]
    · simp [FhssService.handle, fhssFsmHandle, FhssSyncController.updated, hreport.2]
    · simp [FhssService.handle, fhssFsmHandle, FhssSyncController.updated, hsync]
    · obtain ⟨hlock, hone⟩ := hcounts hinside
      split_ifs at hone with hlast
      rw [hinside]
      refine ⟨hlock, ?_, fun _ => ?_⟩
      · change 1 = if 0 < service.toLock ∧ syncTracker.validsToLock = 0 then 1 else 0
        rw [if_pos (by omega)]
      · simp [FhssService.handle, fhssFsmHandle]
  | lost =>
    rw [hevent] at hreport hcounts
    have houtside : result.timing.result ≠ .insideWindow := by
      intro hinside
      have hne := (hcounts hinside).2
      split_ifs at hne
    have hstate : state = .tracking := by
      rcases hfsm with ⟨-, hold⟩ | ⟨rfl, -⟩
      · rcases hold with hold | hold <;> rw [hold, hreport.1] at hlocked <;>
          exact absurd (hlocked.mp rfl) (by decide)
      · rfl
    rw [hstate]
    have hready' : ControllerReady ({ service with
        controller := service.controller.updated syncTracker scheduler last accumulated
        consecutiveSyncMisses := 0, recoveryProbeIndex := 0, fsm := .tracking } :
          FhssService).controller := hready
    obtain ⟨cleared, hclearedReady, hunsync, hclear⟩ := clearReference_spec hready'
    rw [hclear]
    refine ⟨⟨h.accepted, ⟨hready.initialized, hready.core_ready, hclearedReady⟩, hcount,
      ?_, ?_, ?_⟩, acquires_of_disturbed fun hun =>
        houtside ((hun _ List.mem_cons_self).2.2 _ rfl)⟩
    · simp [FhssService.handle, fhssFsmHandle]
    · simp [FhssService.handle, fhssFsmHandle, FhssSyncController.updated, hreport.2]
    · simp [FhssService.handle, fhssFsmHandle, hunsync]

/-- A step that leaves the tracker and the state machine alone. -/
structure SameSync (service service' : FhssService) : Prop where
  agreement : RxAgreement service'
  tracker_eq : service'.controller.core.syncTracker = service.controller.core.syncTracker
  fsm_eq : service'.fsm = service.fsm

/-- A step that touches neither the tracker nor the scheduler nor the state machine. -/
structure Untouched (service service' : FhssService) : Prop where
  config_eq : service'.config = service.config
  ready : ControllerReady service'.controller
  tracker_eq : service'.controller.core.syncTracker = service.controller.core.syncTracker
  scheduler_eq : service'.controller.scheduler = service.controller.scheduler
  fsm_eq : service'.fsm = service.fsm
  misses_eq : service'.consecutiveSyncMisses = service.consecutiveSyncMisses

lemma Untouched.refl (hready : ControllerReady service.controller) : Untouched service service :=
  ⟨rfl, hready, rfl, rfl, rfl, rfl⟩

/-- Applying a public seed touches the hop sequence at most. -/
lemma untouched_applyPublicSeed (hready : ControllerReady service.controller)
    (publicSeed : UInt32) :
    Untouched service (fhssServiceApplyPublicSeed deriveHopSeed service publicSeed).1 := by
  unfold fhssServiceApplyPublicSeed
  cases deriveHopSeed with
  | none => exact .refl hready
  | some derive =>
    dsimp only
    by_cases hsame : service.haveDerivedPublicSeed = true ∧
        publicSeed = service.lastDerivedPublicSeed
    · rw [if_pos hsame]
      exact .refl hready
    rw [if_neg hsame]
    cases hhop : fhssHopSequenceInitSeeded service.config.channels (derive publicSeed)
        service.config.reservedChannel with
    | error status => exact .refl hready
    | ok hopSequence =>
      exact ⟨rfl, ⟨hready.initialized, ⟨hready.core_ready.initialized,
        initialized_of_fhssHopSequenceInitSeeded hhop, hready.core_ready.tracker_ready⟩,
        hready.scheduler_ready⟩, rfl, rfl, rfl, rfl⟩

/-- A controller that refuses a packet stays as it is. -/
lemma controller_eq_of_refused (hready : ControllerReady service.controller) {payload : Bytes}
    {rxTimestampUs : Int64} {controller : FhssSyncController} {status : FhssControllerStatus}
    (hrx : (if service.fsm = .recovery then
        fhssSyncControllerRecoverRx protocol service.controller payload rxTimestampUs.toInt
      else fhssSyncControllerProcessRx protocol service.controller payload
        rxTimestampUs.toInt) = (controller, .error status)) :
    controller = service.controller := by
  split_ifs at hrx
  · rcases fhssSyncControllerRecoverRx_cases protocol hready payload rxTimestampUs.toInt with
      ⟨status', hreject, -⟩ | ⟨_, _, _, _, _, _, _, -, -, -, -, -, -, -, haccept⟩
    · exact congrArg Prod.fst (hrx.symm.trans hreject)
    · cases hrx.symm.trans haccept
  · rcases fhssSyncControllerProcessRx_cases protocol hready payload
      (toInt_le_int64Max rxTimestampUs) with
      ⟨status', hreject, -⟩ | ⟨_, _, _, _, _, _, _, -, -, -, -, -, -, -, -, haccept⟩
    · exact congrArg Prod.fst (hrx.symm.trans hreject)
    · cases hrx.symm.trans haccept

/-- A receive touches neither tracker nor scheduler, or accepts a SYNC packet: then the tracker
takes it as valid or as a miss, as the timing window says.  Recovering, or without a reference,
the packet always lies inside the window. -/
lemma receiveOne_shape (hready : ControllerReady service.controller) (receive : RadioReceive) :
    (∃ service' received, receiveOne protocol deriveHopSeed service receive =
        (service', received) ∧ (∀ result, received ≠ .ok result) ∧ Untouched service service') ∨
    ∃ syncTracker scheduler last accumulated result,
      receiveOne protocol deriveHopSeed service receive =
        ({ service with
          controller := service.controller.updated syncTracker scheduler last accumulated },
          .ok result) ∧
      TrackerReady syncTracker ∧ SchedulerReady scheduler ∧ scheduler.synchronized = true ∧
      (if result.timing.result = .insideWindow then
          fhssSyncStateOnValid service.controller.core.syncTracker
        else fhssSyncStateOnMiss service.controller.core.syncTracker) =
          .ok (syncTracker, result.syncEvent) ∧
      (service.fsm = .recovery ∨ service.controller.scheduler.synchronized = false →
        result.timing.result = .insideWindow) := by
  have hsame := Untouched.refl hready
  have houtcome := receiveOne_outcome protocol deriveHopSeed service receive
  generalize receiveOne protocol deriveHopSeed service receive = outcome at houtcome ⊢
  cases houtcome with
  | quiet hok hend => exact .inl ⟨service, _, rfl, hok, hsame⟩
  | data appliedSeed hsearching happlied hreceived =>
    refine .inl ⟨_, _, rfl, fun result => ?_, ?_⟩
    · rw [hreceived]
      split_ifs <;> simp
    · rw [happlied]
      cases appliedSeed with
      | none => exact hsame
      | some publicSeed => exact untouched_applyPublicSeed deriveHopSeed hready publicSeed
  | refused payload rxTimestampUs hrx =>
    have hcontroller := controller_eq_of_refused protocol hready hrx
    rw [hcontroller]
    exact .inl ⟨service, _, rfl, by simp, hsame⟩
  | accepted payload rxTimestampUs hmagic hrx =>
    right
    by_cases hrecovery : service.fsm = .recovery
    · rw [if_pos hrecovery] at hrx
      rcases fhssSyncControllerRecoverRx_cases protocol hready payload rxTimestampUs.toInt with
        ⟨status, hreject, -⟩ | ⟨packet, syncTracker, syncEvent, channel, scheduler, last,
          accumulated, -, -, htracker, hscheduler, -, hupdate, hruns, haccept⟩
      · cases hrx.symm.trans hreject
      · cases hrx.symm.trans haccept
        exact ⟨syncTracker, scheduler, last, accumulated, _, rfl, htracker, hscheduler,
          hruns.synchronized, hupdate, fun _ => rfl⟩
    · rw [if_neg hrecovery] at hrx
      rcases fhssSyncControllerProcessRx_cases protocol hready payload
        (toInt_le_int64Max rxTimestampUs) with
        ⟨status, hreject, -⟩ | ⟨packet, syncTracker, syncEvent, channel, scheduler, last,
          accumulated, -, -, -, htracker, hscheduler, -, hupdate, heffect, haccept⟩
      · cases hrx.symm.trans hreject
      · cases hrx.symm.trans haccept
        have hsync : scheduler.synchronized = true := by
          unfold AnchorEffect at heffect
          split_ifs at heffect with hinside
          · exact heffect.synchronized
          · exact heffect.2
        refine ⟨syncTracker, scheduler, last, accumulated, _, rfl, htracker, hscheduler, hsync,
          hupdate, fun hunsync => ?_⟩
        -- Without a reference every packet comes as expected.
        have hexpected : ¬ service.controller.scheduler.synchronized = true := by
          simp [hunsync.resolve_left hrecovery]
        dsimp only
        unfold FhssSyncController.expectedRxTime
        rw [if_neg hexpected, fhssTimingWindowEvaluate_self]

/-- A receive leaves the tracker and the state machine alone, or accepts a SYNC packet; then they
agree again once `handle_sync_result` has seen it. -/
lemma receiveOne_cases (h : RxAgreement service) (receive : RadioReceive) :
    (∃ service' received, receiveOne protocol deriveHopSeed service receive =
        (service', received) ∧ (∀ result, received ≠ .ok result) ∧ SameSync service service') ∨
    ∃ service' result, receiveOne protocol deriveHopSeed service receive =
        (service', .ok result) ∧ RxAgreement (handleSyncResult service' result).1 ∧
      Acquires service (handleSyncResult service' result).2
        (handleSyncResult service' result).1 := by
  rcases receiveOne_shape protocol deriveHopSeed h.ready receive with
    ⟨service', received, hreceive, hnotOk, hsame⟩ | ⟨syncTracker, scheduler, last, accumulated,
      result, hreceive, htracker, hscheduler, hsync, hupdate, hwindow⟩
  · exact .inl ⟨service', received, hreceive, hnotOk, h.congr hsame.config_eq hsame.ready
      hsame.tracker_eq hsame.scheduler_eq hsame.fsm_eq, hsame.tracker_eq, hsame.fsm_eq⟩
  · refine .inr ⟨_, result, hreceive, handleSyncResult_agreement h htracker hscheduler hsync
      last accumulated result hupdate fun hfsm => hwindow ?_⟩
    rcases hfsm with hsearching | hrecovery
    · -- Searching, the scheduler has no reference.
      have hunsync : ¬ service.controller.scheduler.synchronized = true := by
        rw [h.synchronized_iff, hsearching]
        decide
      exact .inr (by simpa using hunsync)
    · exact .inl hrecovery

/-- The service once the tracker has counted a miss; the rest depends on the case. -/
def FhssService.missed (service : FhssService) (syncTracker : FhssSyncStateTracker)
    (scheduler : FhssSlotScheduler) (state : FhssFsmState) (misses : UInt32) (probe : UInt8) :
    FhssService :=
  { service with
    controller := service.controller.updated syncTracker scheduler
      service.controller.lastPhaseCorrectionUs service.controller.accumulatedPhaseCorrectionUs
    fsm := state, consecutiveSyncMisses := misses, recoveryProbeIndex := probe }

/-- The four ways through `handle_miss`: the lock is lost, the acquisition starts over, the
tracking turns into a recovery, or the miss is only counted. -/
lemma handleMiss_cases (hready : ControllerReady service.controller) :
    ∃ syncTracker event scheduler,
      fhssSyncStateOnMiss service.controller.core.syncTracker = .ok (syncTracker, event) ∧
      TrackerReady syncTracker ∧ SchedulerReady scheduler ∧
      ((event = .lost ∧ scheduler.synchronized = false ∧
          handleMiss service =
            (service.missed syncTracker scheduler (fhssFsmHandle service.fsm .syncLost).1 0 0,
              [.miss, .report .syncLost])) ∨
        (event ≠ .lost ∧ service.fsm = .synchronizing ∧ scheduler.synchronized = false ∧
          handleMiss service =
            (service.missed syncTracker scheduler .searching 0 service.recoveryProbeIndex,
              [.miss])) ∨
        (event ≠ .lost ∧ service.fsm = .tracking ∧
          service.config.recoveryEntryMissCount ≤ service.consecutiveSyncMisses + 1 ∧
          scheduler = service.controller.scheduler ∧
          handleMiss service =
            (service.missed syncTracker scheduler .recovery (service.consecutiveSyncMisses + 1) 0,
              [.miss])) ∨
        (event ≠ .lost ∧ service.fsm ≠ .synchronizing ∧
          (service.fsm = .tracking →
            service.consecutiveSyncMisses + 1 < service.config.recoveryEntryMissCount) ∧
          scheduler = service.controller.scheduler ∧
          handleMiss service =
            (service.missed syncTracker scheduler service.fsm (service.consecutiveSyncMisses + 1)
              service.recoveryProbeIndex, [.miss]))) := by
  obtain ⟨syncTracker, event, scheduler, hmiss, htracker, hscheduler, hclear, htimeout⟩ :=
    fhssSyncControllerHandleTimeout_eq hready
  unfold handleMiss
  dsimp only
  rw [htimeout]
  dsimp only
  by_cases hlost : event = .lost
  · rw [if_pos hlost] at hclear ⊢
    exact ⟨syncTracker, event, scheduler, hmiss, htracker, hscheduler,
      .inl ⟨hlost, hclear, rfl⟩⟩
  rw [if_neg hlost] at hclear ⊢
  by_cases hsynchronizing : service.fsm = .synchronizing
  · -- The acquisition starts over: the reference goes too.
    have hready' : ControllerReady ({ service with
        consecutiveSyncMisses := service.consecutiveSyncMisses + 1
        controller := service.controller.updated syncTracker scheduler
          service.controller.lastPhaseCorrectionUs
          service.controller.accumulatedPhaseCorrectionUs } : FhssService).controller :=
      hready.updated htracker hscheduler _ _
    obtain ⟨cleared, hclearedReady, hunsync, hclearRef⟩ := clearReference_spec hready'
    rw [if_pos hsynchronizing, hclearRef]
    refine ⟨syncTracker, event, cleared, hmiss, htracker, hclearedReady,
      .inr (.inl ⟨hlost, hsynchronizing, hunsync, ?_⟩)⟩
    unfold FhssService.handle FhssService.missed
    rw [hsynchronizing]
    rfl
  rw [if_neg hsynchronizing]
  by_cases hdegraded : service.fsm = .tracking ∧
      service.config.recoveryEntryMissCount ≤ service.consecutiveSyncMisses + 1
  · rw [if_pos hdegraded]
    refine ⟨syncTracker, event, scheduler, hmiss, htracker, hscheduler,
      .inr (.inr (.inl ⟨hlost, hdegraded.1, hdegraded.2, hclear, ?_⟩))⟩
    unfold FhssService.handle FhssService.missed
    rw [hdegraded.1]
    rfl
  · rw [if_neg hdegraded]
    exact ⟨syncTracker, event, scheduler, hmiss, htracker, hscheduler,
      .inr (.inr (.inr ⟨hlost, hsynchronizing,
        fun hfsm => UInt32.not_le.mp fun hle => hdegraded ⟨hfsm, hle⟩, hclear, rfl⟩))⟩

/-- `handle_miss` keeps the agreement, and records a miss. -/
lemma handleMiss_agreement (h : RxAgreement service) :
    RxAgreement (handleMiss service).1 ∧ .miss ∈ (handleMiss service).2 := by
  obtain ⟨syncTracker, event, scheduler, hmiss, htracker, hscheduler, hcases⟩ :=
    handleMiss_cases h.ready
  obtain ⟨tracker', event', hok, -, hconfig, hreport, hne⟩ :=
    fhssSyncStateOnMiss_reports h.ready.core_ready.tracker_ready
  obtain ⟨rfl, rfl⟩ := Prod.mk.inj (Except.ok.inj (hok.symm.trans hmiss))
  have hready := h.ready.updated htracker hscheduler
    service.controller.lastPhaseCorrectionUs service.controller.accumulatedPhaseCorrectionUs
  have hcount : tracker'.config.acquireCount = service.config.acquireCount := by
    rw [hconfig]
    exact h.acquire_count
  -- Only a loss changes the state of the tracker.
  have hstate : event' ≠ .lost →
      (tracker'.state = .locked ↔ service.fsm = .tracking ∨ service.fsm = .recovery) := by
    intro hlost
    rw [← h.locked_iff]
    cases event' with
    | none => exact hreport ▸ Iff.rfl
    | acquired => exact absurd rfl hne
    | lost => exact absurd rfl hlost
  rcases hcases with ⟨rfl, hunsync, hmissed⟩ | ⟨hlost, hfsm, hunsync, hmissed⟩ |
    ⟨hlost, hfsm, -, rfl, hmissed⟩ | ⟨hlost, -, -, rfl, hmissed⟩
  · rw [hmissed]
    obtain ⟨hold, hnew⟩ := hreport
    have hsearching : (fhssFsmHandle service.fsm .syncLost).1 = .searching := by
      rcases h.locked_iff.mp hold with hfsm | hfsm <;> rw [hfsm] <;> rfl
    rw [hsearching]
    exact ⟨⟨h.accepted, hready, hcount, by simp [FhssService.missed],
      by simp [FhssService.missed, FhssSyncController.updated, hnew],
      by simp [FhssService.missed, FhssSyncController.updated, hunsync]⟩, List.mem_cons_self⟩
  · rw [hmissed]
    have hsearch := hstate hlost
    rw [hfsm] at hsearch
    exact ⟨⟨h.accepted, hready, hcount, by simp [FhssService.missed],
      by simp [FhssService.missed, FhssSyncController.updated, hsearch],
      by simp [FhssService.missed, FhssSyncController.updated, hunsync]⟩, List.mem_cons_self⟩
  · rw [hmissed]
    have hlock := hstate hlost
    have hsync := h.synchronized_iff
    rw [hfsm] at hlock hsync
    exact ⟨⟨h.accepted, hready, hcount, by simp [FhssService.missed],
      by simp [FhssService.missed, FhssSyncController.updated, hlock],
      by simp [FhssService.missed, FhssSyncController.updated, hsync]⟩, List.mem_cons_self⟩
  · rw [hmissed]
    exact ⟨⟨h.accepted, hready, hcount, h.active, hstate hlost, h.synchronized_iff⟩,
      List.mem_cons_self⟩

/-- `handle_invalid_sync` is a miss while tracking and recovering, and nothing otherwise. -/
lemma handleInvalidSync_agreement (h : RxAgreement service) :
    RxAgreement (handleInvalidSync service).1 ∧
      Acquires service (handleInvalidSync service).2 (handleInvalidSync service).1 := by
  unfold handleInvalidSync
  split_ifs
  · obtain ⟨hagree, hmiss⟩ := handleMiss_agreement h
    exact ⟨hagree, acquires_of_disturbed (not_undisturbed_of_miss hmiss)⟩
  · exact ⟨h, acquires_of_eq rfl rfl rfl rfl⟩

/-- `handle_session_end` begins the session anew, and records the end. -/
lemma handleSessionEnd_agreement (h : RxAgreement service) (selected : Bool) :
    RxAgreement (handleSessionEnd service selected).1 ∧
      .sessionEnd ∈ (handleSessionEnd service selected).2.1 := by
  rcases handleSessionEnd_cases service selected with
    ⟨hrejected, -⟩ | ⟨controller, channel, ok, hbuilt, hended⟩
  · exact absurd h.accepted hrejected
  obtain ⟨hready, hunsync, hcore⟩ := controllerReady_init hbuilt
  obtain ⟨-, hsearching, hconfig, -⟩ := coreReady_init hcore
  rw [hended]
  refine ⟨⟨h.accepted, hready, ?_, ?_, ?_, ?_⟩, List.mem_cons_self⟩
  · change controller.core.syncTracker.config.acquireCount = _
    rw [hconfig]
    rfl
  · simp
  · simp [hsearching]
  · simp [hunsync]

/-- A quiet step does not disturb an acquisition. -/
lemma SameSync.acquires {service' : FhssService} (h : SameSync service service') :
    Acquires service [] service' :=
  acquires_of_eq h.tracker_eq h.fsm_eq rfl rfl

/-- Draining the data of a slot keeps the agreement. -/
lemma drainRxDataUntil_agreement (turns : List RadioTurn) :
    ∀ {service : FhssService}, RxAgreement service →
      RxAgreement (drainRxDataUntil protocol deriveHopSeed service turns).1 ∧
        Acquires service (drainRxDataUntil protocol deriveHopSeed service turns).2.1
          (drainRxDataUntil protocol deriveHopSeed service turns).1 := by
  induction turns with
  | nil => exact fun h => ⟨h, acquires_of_eq rfl rfl rfl rfl⟩
  | cons turn turns ih =>
    intro service h
    unfold drainRxDataUntil
    rcases receiveOne_cases protocol deriveHopSeed h turn.receive with
      ⟨service', received, hreceive, hnotOk, hsame⟩ | ⟨service', result, hreceive, hagree,
        hacquires⟩
    · rw [hreceive]
      have hrest : RxAgreement (drainRxDataUntil protocol deriveHopSeed service' turns).1 ∧
          Acquires service (drainRxDataUntil protocol deriveHopSeed service' turns).2.1
            (drainRxDataUntil protocol deriveHopSeed service' turns).1 :=
        ⟨(ih hsame.agreement).1, hsame.acquires.trans (ih hsame.agreement).2⟩
      cases received with
      | ok result => exact absurd rfl (hnotOk result)
      | timeout => exact hrest
      | crcFail => exact hrest
      | data => exact hrest
      | radioError => exact ⟨hsame.agreement, hsame.acquires⟩
      | syncError => exact ⟨hsame.agreement, hsame.acquires⟩
      | sessionEnd =>
        obtain ⟨hagree, hend⟩ := handleSessionEnd_agreement hsame.agreement turn.selected
        exact ⟨hagree, acquires_of_disturbed (not_undisturbed_of_sessionEnd hend)⟩
    · rw [hreceive]
      obtain ⟨hagree', hacquires'⟩ := ih hagree
      exact ⟨hagree', hacquires.trans hacquires'⟩

/-- The last receive of a turn keeps the agreement. -/
lemma handleReceive_agreement (h : RxAgreement service) (turn : RadioTurn) :
    RxAgreement (handleReceive protocol deriveHopSeed service turn).1 ∧
      Acquires service (handleReceive protocol deriveHopSeed service turn).2
        (handleReceive protocol deriveHopSeed service turn).1 := by
  unfold handleReceive
  rcases receiveOne_cases protocol deriveHopSeed h turn.receive with
    ⟨service', received, hreceive, hnotOk, hsame⟩ | ⟨service', result, hreceive, hagree,
      hacquires⟩
  · rw [hreceive]
    have hmiss : RxAgreement (handleMiss service').1 ∧
        Acquires service (handleMiss service').2 (handleMiss service').1 := by
      obtain ⟨hagree, hmem⟩ := handleMiss_agreement hsame.agreement
      exact ⟨hagree, acquires_of_disturbed (not_undisturbed_of_miss hmem)⟩
    cases received with
    | ok result => exact absurd rfl (hnotOk result)
    | timeout => exact hmiss
    | crcFail => exact hmiss
    | data => exact ⟨hsame.agreement, hsame.acquires⟩
    | radioError =>
      exact ⟨hsame.agreement, acquires_of_eq hsame.tracker_eq hsame.fsm_eq rfl rfl⟩
    | syncError =>
      obtain ⟨hagree, hacquires⟩ := handleInvalidSync_agreement hsame.agreement
      exact ⟨hagree, hsame.acquires.trans hacquires⟩
    | sessionEnd =>
      obtain ⟨hagree, hend⟩ := handleSessionEnd_agreement hsame.agreement turn.selected
      exact ⟨hagree, acquires_of_disturbed (not_undisturbed_of_sessionEnd hend)⟩
  · rw [hreceive]
    exact ⟨hagree, hacquires⟩

/-- The channel and the probe do not matter to the agreement. -/
lemma sameSync_tuned (h : RxAgreement service) (channel probe : UInt8) :
    SameSync service { service with recoveryProbeIndex := probe, currentChannel := channel } :=
  ⟨h.congr rfl h.ready rfl rfl rfl, rfl, rfl⟩

end Handlers

/-! ## The loop -/

/-- While the state machine tracks or recovers, the scheduler has a next slot at the top of the
loop. -/
def SwitchTimeKnown (service : FhssService) (turn : RxTurn) : Prop :=
  service.fsm = .tracking ∨ service.fsm = .recovery →
    (fhssSlotSchedulerGetNextSwitchTime service.controller.scheduler
      turn.nowUs.toInt).toBool = true

instance (service : FhssService) (turn : RxTurn) : Decidable (SwitchTimeKnown service turn) :=
  inferInstanceAs (Decidable (_ → _))

/-- A turn whose switch time is known keeps the agreement. -/
lemma rxTaskTurn_agreement {service : FhssService} (h : RxAgreement service) {turn : RxTurn}
    (hknown : SwitchTimeKnown service turn) :
    RxAgreement (rxTaskTurn protocol deriveHopSeed service turn).1 ∧
      Acquires service (rxTaskTurn protocol deriveHopSeed service turn).2
        (rxTaskTurn protocol deriveHopSeed service turn).1 := by
  have houtcome := rxTaskTurn_outcome protocol deriveHopSeed service turn
  obtain ⟨hagree, hacquires⟩ := drainRxDataUntil_agreement protocol deriveHopSeed turn.drain h
  generalize rxTaskTurn protocol deriveHopSeed service turn = outcome at houtcome ⊢
  cases houtcome with
  | searchUnselected =>
    exact ⟨h.congr rfl h.ready rfl rfl rfl, acquires_of_eq rfl rfl rfl rfl⟩
  | searched channel _ _ hok hquiet =>
    have hselect := sameSync_tuned h channel service.recoveryProbeIndex
    rcases receiveOne_cases protocol deriveHopSeed hselect.agreement turn.last.receive with
      ⟨service', received, hreceive, hnotOk, hsame⟩ | ⟨service', result, hreceive, hagree',
        hacquires'⟩
    · rw [hquiet hreceive hnotOk]
      exact ⟨hsame.agreement, hselect.acquires.trans hsame.acquires⟩
    · rw [hok hreceive]
      exact ⟨hagree', hselect.acquires.trans hacquires'⟩
  | noNextSlot hsearching hswitch =>
    -- Only the synchronization is given up: tracking, the switch time is known.
    have hsynchronizing : service.fsm = .synchronizing := by
      have hnot : ¬ (service.fsm = .tracking ∨ service.fsm = .recovery) := by
        intro hfsm
        have hok := hknown hfsm
        rw [hswitch] at hok
        cases hok
      have hactive := h.active
      revert hnot hactive hsearching
      cases service.fsm <;> decide
    have hready : ControllerReady (service.handle .syncLost).controller := h.ready
    obtain ⟨cleared, hclearedReady, hunsync, hclear⟩ := clearReference_spec hready
    have hsearch : ¬ service.controller.core.syncTracker.state = .locked := by
      rw [h.locked_iff, hsynchronizing]
      decide
    rw [hclear]
    refine ⟨⟨h.accepted, ⟨h.ready.initialized, h.ready.core_ready, hclearedReady⟩,
      h.acquire_count, ?_, ?_, ?_⟩, fun _ => ⟨rfl, ?_, ?_⟩⟩
    · simp [FhssService.handle, fhssFsmHandle, hsynchronizing]
    · simp [FhssService.handle, fhssFsmHandle, hsynchronizing, hsearch]
    · simp [FhssService.handle, fhssFsmHandle, hsynchronizing, hunsync]
    · change 0 = if 0 < service.toLock ∧ service.toLock = 0 then 1 else 0
      rw [if_neg (by omega)]
    · simp [FhssService.handle, fhssFsmHandle, hsynchronizing]
  | drained service' _ _ hdrain =>
    rw [hdrain] at hagree hacquires
    exact ⟨hagree, hacquires⟩
  | unselected service' events probe channel _ _ hdrain =>
    rw [hdrain] at hagree hacquires
    have htuned := sameSync_tuned hagree channel probe
    exact ⟨htuned.agreement, hacquires.trans (acquires_of_eq rfl rfl rfl rfl)⟩
  | received service' events probe channel _ _ hdrain =>
    rw [hdrain] at hagree hacquires
    have htuned := sameSync_tuned hagree channel probe
    obtain ⟨hagree', hacquires'⟩ :=
      handleReceive_agreement protocol deriveHopSeed htuned.agreement turn.last
    exact ⟨hagree', hacquires.trans (htuned.acquires.trans hacquires')⟩

/-- Guarded runs of the loop keep the agreement, and their packets count for the acquisition. -/
lemma rxTask_agreement (turns : List RxTurn) :
    ∀ {service : FhssService}, RxAgreement service →
      Guarded (rxTaskTurn protocol deriveHopSeed) SwitchTimeKnown service turns →
      RxAgreement (finalState (rxTaskTurn protocol deriveHopSeed) service turns) ∧
        Acquires service (outputs (rxTaskTurn protocol deriveHopSeed) service turns).flatten
          (finalState (rxTaskTurn protocol deriveHopSeed) service turns) := by
  induction turns with
  | nil => exact fun h _ => ⟨h, acquires_of_eq rfl rfl rfl rfl⟩
  | cons turn turns ih =>
    intro service h hguard
    obtain ⟨hagree, hacquires⟩ := rxTaskTurn_agreement protocol deriveHopSeed h hguard.1
    obtain ⟨hagree', hacquires'⟩ := ih hagree hguard.2
    exact ⟨hagree', hacquires.trans hacquires'⟩

/-- The states `rx_task` starts in: a service that was initialized with role RX has been started,
or another session has been replaced by an RX session. -/
def RxTaskEntry (service : FhssService) : Prop :=
  (∃ config hal service₀ taskCreated, fhssServiceInit config hal = some service₀ ∧
    config.role = .rx ∧ fhssServiceStart service₀ taskCreated = (service, true)) ∨
  ∃ service₀ hal, service₀.initialized = true ∧
    ¬ (service₀.config.role = .rx ∧ service₀.taskRunning = true) ∧
    fhssServiceSetRole service₀ .rx hal = (service, true)

/-- `rx_task` starts in a fresh session. -/
lemma freshRxSession_of_entry {service : FhssService} (h : RxTaskEntry service) :
    FreshRxSession service := by
  rcases h with ⟨config, hal, service₀, taskCreated, hinit, hrole, hstart⟩ |
    ⟨service₀, hal, hinit, hnew, hset⟩
  · exact (fhssServiceStart_fresh hinit hrole hstart).1
  · rcases fhssServiceSetRole_rx_cases hinit hal with ⟨hrole, hrunning, -⟩ |
      ⟨-, service', -, -, ⟨hfail, -⟩ | ⟨hok, hfresh, -⟩⟩
    · exact absurd ⟨hrole, hrunning⟩ hnew
    · rw [hset] at hfail
      cases (Prod.mk.inj hfail).2
    · rw [hset] at hok
      obtain ⟨rfl, -⟩ := Prod.mk.inj hok
      exact hfresh

/-- A tracker never needs more valid packets than its acquire count. -/
lemma RxAgreement.toLock_le {service : FhssService} (h : RxAgreement service) :
    service.toLock ≤ service.config.acquireCount.toNat := by
  unfold FhssService.toLock FhssSyncStateTracker.validsToLock
  rw [h.acquire_count]
  cases service.controller.core.syncTracker.state with
  | locked => exact Nat.zero_le _
  | searching => exact Nat.sub_le _ _

/-- The voice configuration with three channels. -/
def sampleServiceConfig : FhssServiceConfig where
  role := .rx
  channels := [1, 2, 3]
  hopSeed := 0x1234
  generation := 7
  publicSeed := 0
  reservedChannel := 0
  slotDurationUs := 300000
  channelSwitchGuardUs := 5000
  timingWindowMarginUs := 20000
  syncOffsetUs := 0
  correctionDeadbandUs := 500
  correctionFastThresholdUs := 2000
  correctionSlowDivisor := 8
  correctionFastDivisor := 2
  correctionMaxStepUs := 500
  searchDwellMs := 400
  receiveTimeoutMs := 80
  acquireCount := 3
  lossCount := 5
  recoveryEntryMissCount := 2

/-- The service of the sample configuration, started. -/
def sampleService : FhssService :=
  ⟨sampleServiceConfig, sampleController, .searching, true, 0, 0, 0, false, 0, true⟩

lemma rxTaskEntry_sampleService : RxTaskEntry sampleService :=
  .inl ⟨sampleServiceConfig, ⟨true, some (0, 20), true, true⟩,
    { sampleService with fsm := .stopped, taskRunning := false }, true, by decide +kernel, rfl,
    by decide +kernel⟩

/-- A turn that begins at `nowUs` and receives the SYNC packet of `slot` at `rxTimestampUs`. -/
def sampleTurn (nowUs : Int64) (slot : UInt32) (rxTimestampUs : Int64) : RxTurn :=
  ⟨nowUs, [], true, ⟨.packet true (sampleSync slot) rxTimestampUs none .continue, true⟩⟩

/-- Three SYNC packets on time. -/
def sampleAcquisition : List RxTurn :=
  [sampleTurn 900000 0 1000000, sampleTurn 1000100 1 1300000, sampleTurn 1300100 2 1600000]

end FhssOtaRadio
