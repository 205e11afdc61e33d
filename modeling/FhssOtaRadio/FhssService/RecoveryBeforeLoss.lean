import FhssOtaRadio.FhssService.RxAgreement

/-!
# Recovery before loss

The service counts the SYNC packets missed in a row, to enter `RECOVERY`, and the tracker counts
them, to give up its lock.  `RECOVERY` comes before the loss only as long as the two counters
agree.  A miss counts in both; a SYNC packet outside the window is a miss for the tracker, while
`handle_sync_result` takes it for a packet and clears the counter of the service.
-/

namespace FhssOtaRadio

open Machine

/-- The limits that `fhss_service_init` demands: `RECOVERY` is entered before the loss. -/
structure FhssServiceConfig.RecoversBeforeLoss (config : FhssServiceConfig) : Prop where
  entry_ne_zero : config.recoveryEntryMissCount ≠ 0
  entry_lt_loss : config.recoveryEntryMissCount < config.lossCount

/-- A configuration that `fhss_service_init` accepts has these limits. -/
lemma recoversBeforeLoss_of_init {config : FhssServiceConfig} {hal : FhssServiceInitHal}
    {service : FhssService} (h : fhssServiceInit config hal = some service) :
    config.RecoversBeforeLoss := by
  unfold fhssServiceInit at h
  split at h
  · cases h
  · rename_i hchecks
    simp only [not_or] at hchecks
    obtain ⟨-, -, -, -, -, -, -, -, hentry, hloss⟩ := hchecks
    exact ⟨hentry, UInt32.not_le.mp hloss⟩

/-! ## The tracker -/

section Tracker

variable {tracker tracker' : FhssSyncStateTracker} {event : FhssSyncEvent}

/-- A valid packet clears the misses, and the tracker that it locks is locked. -/
lemma fhssSyncStateOnValid_misses (h : fhssSyncStateOnValid tracker = .ok (tracker', event)) :
    tracker'.config = tracker.config ∧ tracker'.consecutiveMisses = 0 ∧ event ≠ .lost ∧
      (tracker.state = .locked ∨ event = .acquired → tracker'.state = .locked) := by
  unfold fhssSyncStateOnValid at h
  split at h
  · cases h
  dsimp only at h
  cases hstate : tracker.state with
  | locked =>
    rw [hstate] at h
    obtain ⟨rfl, rfl⟩ := Prod.mk.inj (Except.ok.inj h)
    exact ⟨rfl, rfl, by simp, fun _ => rfl⟩
  | searching =>
    rw [hstate] at h
    dsimp only at h
    split at h
    · obtain ⟨rfl, rfl⟩ := Prod.mk.inj (Except.ok.inj h)
      exact ⟨rfl, rfl, by simp, fun _ => rfl⟩
    · obtain ⟨rfl, rfl⟩ := Prod.mk.inj (Except.ok.inj h)
      exact ⟨rfl, rfl, by simp, by simp⟩

/-- A miss never locks; a locked tracker counts it, and is lost when the count reaches the
limit. -/
lemma fhssSyncStateOnMiss_misses (h : fhssSyncStateOnMiss tracker = .ok (tracker', event)) :
    tracker'.config = tracker.config ∧ event ≠ .acquired ∧
      (event = .lost → tracker.state = .locked) ∧
      (tracker.state = .locked →
        (tracker.config.lossCount ≤ tracker.consecutiveMisses + 1 ∧ event = .lost) ∨
        (tracker.consecutiveMisses + 1 < tracker.config.lossCount ∧ event ≠ .lost ∧
          tracker'.state = .locked ∧
          tracker'.consecutiveMisses = tracker.consecutiveMisses + 1)) := by
  unfold fhssSyncStateOnMiss at h
  split at h
  · cases h
  dsimp only at h
  cases hstate : tracker.state with
  | searching =>
    rw [hstate] at h
    obtain ⟨rfl, rfl⟩ := Prod.mk.inj (Except.ok.inj h)
    exact ⟨rfl, by simp, by simp, by simp⟩
  | locked =>
    rw [hstate] at h
    dsimp only at h
    split at h
    · rename_i hloss
      obtain ⟨rfl, rfl⟩ := Prod.mk.inj (Except.ok.inj h)
      exact ⟨rfl, by simp, fun _ => rfl, fun _ => .inl ⟨hloss, rfl⟩⟩
    · rename_i hloss
      obtain ⟨rfl, rfl⟩ := Prod.mk.inj (Except.ok.inj h)
      exact ⟨rfl, by simp, fun _ => rfl, fun _ => .inr ⟨UInt32.not_le.mp hloss, by simp, rfl, rfl⟩⟩

end Tracker

/-! ## The counters -/

/-- The counters of service and tracker agree while the service follows its peer, and `RECOVERY`
is entered when they reach its limit. -/
structure MissesAgree (service : FhssService) : Prop where
  accepted : service.config.Accepted
  ready : ControllerReady service.controller
  limits : service.config.RecoversBeforeLoss
  loss_count : service.controller.core.syncTracker.config.lossCount = service.config.lossCount
  following : service.fsm = .tracking ∨ service.fsm = .recovery →
    service.controller.core.syncTracker.state = .locked ∧
      service.controller.core.syncTracker.consecutiveMisses = service.consecutiveSyncMisses
  tracking : service.fsm = .tracking →
    service.consecutiveSyncMisses < service.config.recoveryEntryMissCount
  recovery : service.fsm = .recovery →
    service.config.recoveryEntryMissCount ≤ service.consecutiveSyncMisses

section Handlers

variable (protocol : OtaProtocol) (deriveHopSeed : Option (UInt32 → UInt32))
  {service service' : FhssService}

/-- A service that follows no peer has nothing to agree on. -/
lemma missesAgree_of_not_following (haccepted : service.config.Accepted)
    (hready : ControllerReady service.controller) (hlimits : service.config.RecoversBeforeLoss)
    (hloss : service.controller.core.syncTracker.config.lossCount = service.config.lossCount)
    (hfsm : service.fsm ≠ .tracking ∧ service.fsm ≠ .recovery) : MissesAgree service where
  accepted := haccepted
  ready := hready
  limits := hlimits
  loss_count := hloss
  following h := absurd h (not_or.mpr hfsm)
  tracking h := absurd h hfsm.1
  recovery h := absurd h hfsm.2

/-- A fresh session agrees. -/
lemma missesAgree_of_fresh (h : FreshRxSession service)
    (hlimits : service.config.RecoversBeforeLoss) : MissesAgree service := by
  obtain ⟨hready, -, hcore⟩ := controllerReady_init h.built
  obtain ⟨-, -, hconfig, -⟩ := coreReady_init hcore
  refine missesAgree_of_not_following ⟨_, h.built⟩ hready hlimits ?_ ?_
  · rw [hconfig]
    rfl
  · rw [h.searching]
    decide

/-- The agreement only reads the tracker, the counter, the state and the configuration. -/
lemma MissesAgree.congr (h : MissesAgree service) (hsame : Untouched service service') :
    MissesAgree service' where
  accepted := by rw [hsame.config_eq]; exact h.accepted
  ready := hsame.ready
  limits := by rw [hsame.config_eq]; exact h.limits
  loss_count := by rw [hsame.tracker_eq, hsame.config_eq]; exact h.loss_count
  following := by rw [hsame.tracker_eq, hsame.fsm_eq, hsame.misses_eq]; exact h.following
  tracking := by rw [hsame.fsm_eq, hsame.misses_eq, hsame.config_eq]; exact h.tracking
  recovery := by rw [hsame.fsm_eq, hsame.misses_eq, hsame.config_eq]; exact h.recovery

/-- A service that tracks, or whose tracker is not locked, has nothing to lose right now. -/
def CannotLose (service : FhssService) : Prop :=
  service.fsm = .tracking ∨ service.controller.core.syncTracker.state ≠ .locked

/-- A step does not report a loss if there is nothing to lose. -/
def NoDirectLoss (service : FhssService) (events : List RxEvent) : Prop :=
  CannotLose service → .report .syncLost ∉ events

/-- A SYNC packet that the controller has accepted, inside the window if the service tracks: once
`handle_sync_result` has seen it the counters agree again. -/
lemma handleSyncResult_misses (h : MissesAgree service) {syncTracker : FhssSyncStateTracker}
    (htracker : TrackerReady syncTracker) {scheduler : FhssSlotScheduler}
    (hscheduler : SchedulerReady scheduler) (last accumulated : ℤ) (result : FhssCoreRxResult)
    (hupdate : (if result.timing.result = .insideWindow then
        fhssSyncStateOnValid service.controller.core.syncTracker
      else fhssSyncStateOnMiss service.controller.core.syncTracker) =
        .ok (syncTracker, result.syncEvent))
    (hrecovery : service.fsm = .recovery → result.timing.result = .insideWindow)
    (htracking : service.fsm = .tracking → result.timing.result = .insideWindow) :
    let handled := handleSyncResult { service with
      controller := service.controller.updated syncTracker scheduler last accumulated } result
    MissesAgree handled.1 ∧ NoDirectLoss service handled.2 ∧
      (service.fsm = .tracking → handled.1.fsm = .tracking) := by
  have hready := h.ready.updated htracker hscheduler last accumulated
  obtain ⟨hentry, -⟩ := h.limits
  have hpos : (0 : UInt32) < service.config.recoveryEntryMissCount :=
    UInt32.pos_iff_ne_zero.mpr hentry
  unfold handleSyncResult
  rw [noteSyncResult_eq]
  dsimp only
  by_cases hinside : result.timing.result = .insideWindow
  · -- A valid packet: both counters are cleared.
    rw [if_pos hinside] at hupdate
    obtain ⟨hconfig, hmisses, hnotLost, hlocked⟩ := fhssSyncStateOnValid_misses hupdate
    have hloss : syncTracker.config.lossCount = service.config.lossCount := by
      rw [hconfig]
      exact h.loss_count
    have hfollows : ∀ fsm, (fsm = .tracking → syncTracker.state = .locked) → fsm ≠ .recovery →
        MissesAgree { service with
          controller := service.controller.updated syncTracker scheduler last accumulated
          consecutiveSyncMisses := 0, recoveryProbeIndex := 0, fsm := fsm } := by
      intro fsm hlock hne
      refine ⟨h.accepted, hready, h.limits, hloss, ?_, fun _ => hpos, fun hrec => absurd hrec hne⟩
      intro hfollowing
      exact ⟨hlock (hfollowing.resolve_right hne), hmisses⟩
    have hnote : afterSync service.fsm result.timing.result ≠ .recovery := by
      rw [hinside]
      cases service.fsm <;> decide
    have hnoteTracking : afterSync service.fsm result.timing.result = .tracking →
        syncTracker.state = .locked := by
      intro hfsm
      refine hlocked (.inl (h.following ?_).1)
      revert hfsm
      rw [hinside]
      cases service.fsm <;> decide
    have hstays : service.fsm = .tracking →
        afterSync service.fsm result.timing.result = .tracking := by
      intro hfsm
      rw [hfsm]
      cases result.timing.result <;> rfl
    cases hevent : result.syncEvent with
    | none => exact ⟨hfollows _ hnoteTracking hnote, fun _ => by simp, hstays⟩
    | lost => exact absurd hevent hnotLost
    | acquired =>
      dsimp only
      refine ⟨hfollows _ (fun _ => hlocked (.inr hevent)) ?_, fun _ => by simp, fun hfsm => ?_⟩
      · dsimp only
        rw [hinside]
        cases service.fsm <;> decide
      · unfold FhssService.handle
        dsimp only
        rw [hstays hfsm]
        rfl
  · -- Outside the window the service follows no peer yet, and the tracker cannot lock.
    rw [if_neg hinside] at hupdate
    obtain ⟨hconfig, hnotAcquired, hlockedOnly, -⟩ := fhssSyncStateOnMiss_misses hupdate
    have hloss : syncTracker.config.lossCount = service.config.lossCount := by
      rw [hconfig]
      exact h.loss_count
    have hnot : service.fsm ≠ .tracking ∧ service.fsm ≠ .recovery :=
      ⟨fun hfsm => hinside (htracking hfsm), fun hfsm => hinside (hrecovery hfsm)⟩
    have hnote : afterSync service.fsm result.timing.result = service.fsm := by
      revert hinside hnot
      cases service.fsm <;> cases result.timing.result <;> decide
    rw [hnote]
    cases hevent : result.syncEvent with
    | acquired => exact absurd hevent hnotAcquired
    | none =>
      exact ⟨missesAgree_of_not_following h.accepted hready h.limits hloss hnot,
        fun _ => by simp, fun hfsm => absurd hfsm hnot.1⟩
    | lost =>
      dsimp only
      have hready' : ControllerReady ({ service with
          controller := service.controller.updated syncTracker scheduler last accumulated
          consecutiveSyncMisses := 0, recoveryProbeIndex := 0 } : FhssService).controller := hready
      obtain ⟨cleared, hclearedReady, -, hclear⟩ := clearReference_spec hready'
      rw [hclear]
      refine ⟨missesAgree_of_not_following h.accepted
        ⟨hready.initialized, hready.core_ready, hclearedReady⟩ h.limits hloss ?_,
        fun hsafe => absurd (hlockedOnly hevent) (hsafe.resolve_left hnot.1),
        fun hfsm => absurd hfsm hnot.1⟩
      unfold FhssService.handle
      dsimp only
      revert hnot
      cases service.fsm <;> decide

/-- `handle_miss` counts the miss twice: the counters agree, `RECOVERY` is entered at its limit,
and a tracking service does not lose its lock. -/
lemma handleMiss_misses (h : MissesAgree service) :
    MissesAgree (handleMiss service).1 ∧ NoDirectLoss service (handleMiss service).2 := by
  obtain ⟨syncTracker, event, scheduler, hmiss, htracker, hscheduler, hcases⟩ :=
    handleMiss_cases h.ready
  obtain ⟨hconfig, -, hlockedOnly, hcounted⟩ := fhssSyncStateOnMiss_misses hmiss
  have hready := h.ready.updated htracker hscheduler
    service.controller.lastPhaseCorrectionUs service.controller.accumulatedPhaseCorrectionUs
  have hloss : syncTracker.config.lossCount = service.config.lossCount := by
    rw [hconfig]
    exact h.loss_count
  have hsucc : service.fsm = .tracking ∨ service.fsm = .recovery →
      (service.consecutiveSyncMisses + 1).toNat = service.consecutiveSyncMisses.toNat + 1 := by
    intro hfsm
    obtain ⟨-, hequal⟩ := h.following hfsm
    have hbelow := h.ready.core_ready.tracker_ready.misses_lt
    rw [hequal] at hbelow
    exact toNat_count_succ hbelow
  -- A service that follows its peer goes on counting with the tracker.
  have hfollowing : event ≠ .lost → service.fsm = .tracking ∨ service.fsm = .recovery →
      syncTracker.state = .locked ∧
        syncTracker.consecutiveMisses = service.consecutiveSyncMisses + 1 := by
    intro hlost hfsm
    obtain ⟨hlocked, hequal⟩ := h.following hfsm
    rcases hcounted hlocked with ⟨-, hreached⟩ | ⟨-, -, hstill, hcount⟩
    · exact absurd hreached hlost
    · rw [hequal] at hcount
      exact ⟨hstill, hcount⟩
  rcases hcases with ⟨hlost, -, hmissed⟩ | ⟨-, -, -, hmissed⟩ |
    ⟨hlost, hfsm, hentry, -, hmissed⟩ | ⟨hlost, -, hbelow, -, hmissed⟩
  · rw [hmissed]
    -- A tracking service is at least one miss away from the loss.
    have hnot : service.fsm ≠ .tracking := by
      intro hfsm
      obtain ⟨hlocked, hequal⟩ := h.following (.inl hfsm)
      have hbelow := UInt32.lt_iff_toNat_lt.mp (h.tracking hfsm)
      have hentry := UInt32.lt_iff_toNat_lt.mp h.limits.2
      rcases hcounted hlocked with ⟨hreached, -⟩ | ⟨-, hne, -⟩
      · rw [hequal, h.loss_count, UInt32.le_iff_toNat_le, hsucc (.inl hfsm)] at hreached
        omega
      · exact hne hlost
    refine ⟨missesAgree_of_not_following h.accepted hready h.limits hloss ?_,
      fun hsafe => absurd (hlockedOnly hlost) (hsafe.resolve_left hnot)⟩
    unfold FhssService.missed
    dsimp only
    revert hnot
    cases service.fsm <;> decide
  · rw [hmissed]
    exact ⟨missesAgree_of_not_following h.accepted hready h.limits hloss
      (by simp [FhssService.missed]), fun _ => by simp⟩
  · rw [hmissed]
    obtain ⟨hlocked, hcount⟩ := hfollowing hlost (.inl hfsm)
    exact ⟨⟨h.accepted, hready, h.limits, hloss, fun _ => ⟨hlocked, hcount⟩,
      fun htracking => (by cases htracking), fun _ => hentry⟩, fun _ => by simp⟩
  · rw [hmissed]
    refine ⟨⟨h.accepted, hready, h.limits, hloss, hfollowing hlost, hbelow, fun hfsm => ?_⟩,
      fun _ => by simp⟩
    have hge := UInt32.le_iff_toNat_le.mp (h.recovery hfsm)
    rw [UInt32.le_iff_toNat_le]
    change _ ≤ (service.consecutiveSyncMisses + 1).toNat
    rw [hsucc (.inr hfsm)]
    exact hge.trans (Nat.le_succ _)

/-- `handle_session_end` begins the session anew. -/
lemma handleSessionEnd_misses (h : MissesAgree service) (selected : Bool) :
    MissesAgree (handleSessionEnd service selected).1 ∧
      CannotLose (handleSessionEnd service selected).1 ∧
      .report .syncLost ∉ (handleSessionEnd service selected).2.1 := by
  rcases handleSessionEnd_cases service selected with
    ⟨hrejected, -⟩ | ⟨controller, channel, ok, hbuilt, hended⟩
  · exact absurd h.accepted hrejected
  obtain ⟨hready, -, hcore⟩ := controllerReady_init hbuilt
  obtain ⟨-, hsearching, hconfig, -⟩ := coreReady_init hcore
  have hunlocked : controller.core.syncTracker.state ≠ .locked := by
    rw [hsearching]
    decide
  rw [hended]
  refine ⟨missesAgree_of_not_following h.accepted hready h.limits ?_ (by simp),
    .inr hunlocked, ?_⟩
  · change controller.core.syncTracker.config.lossCount = _
    rw [hconfig]
    rfl
  · cases ok <;> simp

end Handlers

/-! ## The loop -/

section Loop

variable (protocol : OtaProtocol) (deriveHopSeed : Option (UInt32 → UInt32))

/-- A SYNC packet that is received while tracking lies inside the window. -/
def receivesInWindow (service : FhssService) (receive : RadioReceive) : Bool :=
  match (receiveOne protocol deriveHopSeed service receive).2 with
  | .ok result => service.fsm != .tracking || result.timing.result == .insideWindow
  | _ => true

/-- So do those of a drain. -/
def drainsInWindow (service : FhssService) : List RadioTurn → Bool
  | [] => true
  | turn :: turns =>
      receivesInWindow protocol deriveHopSeed service turn.receive &&
        match receiveOne protocol deriveHopSeed service turn.receive with
        | (service, .ok result) => drainsInWindow (handleSyncResult service result).1 turns
        | (service, .data) => drainsInWindow service turns
        | (service, .timeout) => drainsInWindow service turns
        | (service, .crcFail) => drainsInWindow service turns
        | _ => true

/-- So do those of a turn: the drain, and the receive on the next channel. -/
def turnsInWindow (service : FhssService) (turn : RxTurn) : Bool :=
  service.fsm == .searching ||
    !(fhssSlotSchedulerGetNextSwitchTime service.controller.scheduler
      turn.nowUs.toInt).toBool ||
    (drainsInWindow protocol deriveHopSeed service turn.drain &&
      ((drainRxDataUntil protocol deriveHopSeed service turn.drain).2.2 || !turn.selected ||
        receivesInWindow protocol deriveHopSeed
          (drainRxDataUntil protocol deriveHopSeed service turn.drain).1 turn.last.receive))

variable {service : FhssService}

/-- The channel and the probe do not matter to a receive. -/
lemma receivesInWindow_congr (service : FhssService) (channel probe : UInt8)
    (receive : RadioReceive) :
    receivesInWindow protocol deriveHopSeed
        { service with currentChannel := channel, recoveryProbeIndex := probe } receive =
      receivesInWindow protocol deriveHopSeed service receive := by
  unfold receivesInWindow receiveOne
  cases receive with
  | startFailed => rfl
  | noTimestamp => rfl
  | receiveFailed => rfl
  | packet crcOk payload rxTimestampUs appliedSeed action =>
    dsimp only
    by_cases hcrc : crcOk = false
    · rw [if_pos hcrc, if_pos hcrc]
    rw [if_neg hcrc, if_neg hcrc]
    by_cases hmagic : fhssSyncPacketHasValidMagic protocol payload = false
    · rw [if_pos hmagic, if_pos hmagic]
      by_cases hsearching : service.fsm ≠ .searching
      · rw [if_pos hsearching, if_pos hsearching]
        by_cases haction : action = .sessionEnd
        · rw [if_pos haction, if_pos haction]
        · rw [if_neg haction, if_neg haction]
      · rw [if_neg hsearching, if_neg hsearching]
    rw [if_neg hmagic, if_neg hmagic]
    generalize (if service.fsm = .recovery then
      fhssSyncControllerRecoverRx protocol service.controller payload rxTimestampUs.toInt
      else fhssSyncControllerProcessRx protocol service.controller payload
        rxTimestampUs.toInt) = answer
    obtain ⟨controller, _ | result⟩ := answer <;> rfl

/-- What one receive does: nothing to the counters, or `handle_sync_result` makes them agree
again. -/
lemma receiveOne_misses (h : MissesAgree service) {receive : RadioReceive}
    (hinside : receivesInWindow protocol deriveHopSeed service receive = true) :
    (∃ service' received, receiveOne protocol deriveHopSeed service receive =
        (service', received) ∧ (∀ result, received ≠ .ok result) ∧ MissesAgree service' ∧
        service'.fsm = service.fsm ∧ (CannotLose service → CannotLose service')) ∨
    ∃ service' result, receiveOne protocol deriveHopSeed service receive =
        (service', .ok result) ∧ MissesAgree (handleSyncResult service' result).1 ∧
      NoDirectLoss service (handleSyncResult service' result).2 ∧
      (service.fsm = .tracking → (handleSyncResult service' result).1.fsm = .tracking) := by
  rcases receiveOne_shape protocol deriveHopSeed h.ready receive with
    ⟨service', received, hreceive, hnotOk, hsame⟩ | ⟨syncTracker, scheduler, last, accumulated,
      result, hreceive, htracker, hscheduler, -, hupdate, hwindow⟩
  · refine .inl ⟨service', received, hreceive, hnotOk, h.congr hsame, hsame.fsm_eq, ?_⟩
    unfold CannotLose
    rw [hsame.fsm_eq, hsame.tracker_eq]
    exact id
  · refine .inr ⟨_, result, hreceive, handleSyncResult_misses h htracker hscheduler last
      accumulated result hupdate (fun hfsm => hwindow (.inl hfsm)) fun hfsm => ?_⟩
    unfold receivesInWindow at hinside
    rw [hreceive, hfsm] at hinside
    simpa using hinside

/-- Draining the data of a slot keeps the agreement, and a tracking service reports no loss. -/
lemma drainRxDataUntil_misses (turns : List RadioTurn) :
    ∀ {service : FhssService}, MissesAgree service →
      drainsInWindow protocol deriveHopSeed service turns = true →
      let drained := drainRxDataUntil protocol deriveHopSeed service turns
      MissesAgree drained.1 ∧
        (service.fsm = .tracking → .report .syncLost ∉ drained.2.1 ∧ CannotLose drained.1) := by
  induction turns with
  | nil => exact fun h _ => ⟨h, fun hfsm => ⟨List.not_mem_nil, .inl hfsm⟩⟩
  | cons turn turns ih =>
    intro service h hinside
    unfold drainsInWindow at hinside
    obtain ⟨hfirst, hrest⟩ := Bool.and_eq_true_iff.mp hinside
    unfold drainRxDataUntil
    rcases receiveOne_misses protocol deriveHopSeed h hfirst with
      ⟨service', received, hreceive, hnotOk, hagree, hfsm, hsafe⟩ | ⟨service', result, hreceive,
        hagree, hloss, hfsm⟩
    · rw [hreceive] at hrest ⊢
      have hgoesOn : drainsInWindow protocol deriveHopSeed service' turns = true →
          let drained := drainRxDataUntil protocol deriveHopSeed service' turns
          MissesAgree drained.1 ∧ (service.fsm = .tracking →
            .report .syncLost ∉ drained.2.1 ∧ CannotLose drained.1) := by
        intro hinside'
        have hdrained := ih hagree hinside'
        rw [hfsm] at hdrained
        exact hdrained
      have hstops : MissesAgree service' ∧ (service.fsm = .tracking →
          .report .syncLost ∉ ([] : List RxEvent) ∧ CannotLose service') :=
        ⟨hagree, fun htracking => ⟨List.not_mem_nil, hsafe (.inl htracking)⟩⟩
      cases received with
      | ok result => exact absurd rfl (hnotOk result)
      | timeout => exact hgoesOn hrest
      | crcFail => exact hgoesOn hrest
      | data => exact hgoesOn hrest
      | radioError => exact hstops
      | syncError => exact hstops
      | sessionEnd =>
        obtain ⟨hagree', hsafe', hquiet⟩ := handleSessionEnd_misses hagree turn.selected
        exact ⟨hagree', fun _ => ⟨hquiet, hsafe'⟩⟩
    · rw [hreceive] at hrest ⊢
      obtain ⟨hagree', htracked⟩ := ih hagree hrest
      refine ⟨hagree', fun htracking => ?_⟩
      obtain ⟨hquiet, hsafe'⟩ := htracked (hfsm htracking)
      refine ⟨fun hmem => ?_, hsafe'⟩
      rcases List.mem_append.mp hmem with hmem | hmem
      · exact hloss (.inl htracking) hmem
      · exact hquiet hmem

/-- Once a drain has the service tracking, it has nothing to lose when it ends, and reports no loss
that it has not reported before. -/
lemma drainRxDataUntil_tracks {before turns : List RadioTurn} :
    ∀ {service : FhssService}, MissesAgree service →
      drainsInWindow protocol deriveHopSeed service turns = true → before <+: turns →
      (drainRxDataUntil protocol deriveHopSeed service before).1.fsm = .tracking →
      CannotLose (drainRxDataUntil protocol deriveHopSeed service turns).1 ∧
        (.report .syncLost ∈ (drainRxDataUntil protocol deriveHopSeed service turns).2.1 →
          .report .syncLost ∈ (drainRxDataUntil protocol deriveHopSeed service before).2.1) := by
  induction before generalizing turns with
  | nil =>
    intro service h hinside _ htracking
    obtain ⟨hquiet, hsafe⟩ :=
      (drainRxDataUntil_misses protocol deriveHopSeed turns h hinside).2 htracking
    exact ⟨hsafe, fun hmem => absurd hmem hquiet⟩
  | cons turn before ih =>
    rintro service h hinside ⟨later, rfl⟩ htracking
    rw [List.cons_append] at hinside ⊢
    unfold drainsInWindow at hinside
    obtain ⟨hfirst, hrest⟩ := Bool.and_eq_true_iff.mp hinside
    unfold drainRxDataUntil at htracking ⊢
    rcases receiveOne_misses protocol deriveHopSeed h hfirst with
      ⟨service', received, hreceive, hnotOk, hagree, -, -⟩ | ⟨service', result, hreceive, hagree,
        -, -⟩
    · rw [hreceive] at hrest htracking ⊢
      cases received with
      | ok result => exact absurd rfl (hnotOk result)
      | timeout => exact ih hagree hrest (List.prefix_append before later) htracking
      | crcFail => exact ih hagree hrest (List.prefix_append before later) htracking
      | data => exact ih hagree hrest (List.prefix_append before later) htracking
      | radioError => exact ⟨.inl htracking, id⟩
      | syncError => exact ⟨.inl htracking, id⟩
      | sessionEnd => exact ⟨.inl htracking, id⟩
    · rw [hreceive] at hrest htracking ⊢
      obtain ⟨hsafe, hlater⟩ := ih hagree hrest (List.prefix_append before later) htracking
      refine ⟨hsafe, fun hmem => ?_⟩
      rcases List.mem_append.mp hmem with hmem | hmem
      · exact List.mem_append_left _ hmem
      · exact List.mem_append_right _ (hlater hmem)

/-- The last receive of a turn keeps the agreement. -/
lemma handleReceive_misses (h : MissesAgree service) {turn : RadioTurn}
    (hinside : receivesInWindow protocol deriveHopSeed service turn.receive = true) :
    MissesAgree (handleReceive protocol deriveHopSeed service turn).1 ∧
      NoDirectLoss service (handleReceive protocol deriveHopSeed service turn).2 := by
  unfold handleReceive
  rcases receiveOne_misses protocol deriveHopSeed h hinside with
    ⟨service', received, hreceive, hnotOk, hagree, hfsm, hsafe⟩ | ⟨service', result, hreceive,
      hagree, hloss, -⟩
  · rw [hreceive]
    obtain ⟨hagreeMiss, hlossMiss⟩ := handleMiss_misses hagree
    have hmiss : MissesAgree (handleMiss service').1 ∧
        NoDirectLoss service (handleMiss service').2 :=
      ⟨hagreeMiss, fun h => hlossMiss (hsafe h)⟩
    cases received with
    | ok result => exact absurd rfl (hnotOk result)
    | timeout => exact hmiss
    | crcFail => exact hmiss
    | data => exact ⟨hagree, fun _ => List.not_mem_nil⟩
    | radioError => exact ⟨hagree, fun _ => by simp⟩
    | syncError =>
      dsimp only
      unfold handleInvalidSync
      split_ifs
      · exact hmiss
      · exact ⟨hagree, fun _ => List.not_mem_nil⟩
    | sessionEnd =>
      obtain ⟨hagree', -, hquiet⟩ := handleSessionEnd_misses hagree turn.selected
      exact ⟨hagree', fun _ => hquiet⟩
  · rw [hreceive]
    exact ⟨hagree, hloss⟩

/-- From the moment in a turn that follows its peer at which the service tracks, the turn reports no
loss. -/
def LosesNotTracking (service : FhssService) (turn : RxTurn) (events : List RxEvent) : Prop :=
  service.fsm ≠ .searching → ∀ before, before <+: turn.drain →
    (drainRxDataUntil protocol deriveHopSeed service before).1.fsm = .tracking →
    .report .syncLost ∈ events →
    .report .syncLost ∈ (drainRxDataUntil protocol deriveHopSeed service before).2.1

/-- A turn whose tracked packets lie inside the window keeps the counters in agreement, and does
not report the loss of a tracking service. -/
lemma rxTaskTurn_misses (h : MissesAgree service) {turn : RxTurn}
    (hinside : turnsInWindow protocol deriveHopSeed service turn = true) :
    MissesAgree (rxTaskTurn protocol deriveHopSeed service turn).1 ∧
      LosesNotTracking protocol deriveHopSeed service turn
        (rxTaskTurn protocol deriveHopSeed service turn).2 := by
  have htuned : ∀ service : FhssService, MissesAgree service → ∀ probe channel,
      MissesAgree { service with recoveryProbeIndex := probe, currentChannel := channel } :=
    fun service h probe channel => h.congr ⟨rfl, h.ready, rfl, rfl, rfl, rfl⟩
  have houtcome := rxTaskTurn_outcome protocol deriveHopSeed service turn
  generalize rxTaskTurn protocol deriveHopSeed service turn = outcome at houtcome ⊢
  -- A drain whose packets lie inside the window, and what is left to receive after it.
  have hdrains : service.fsm ≠ .searching → ∀ next,
      fhssSlotSchedulerGetNextSwitchTime service.controller.scheduler turn.nowUs.toInt = .ok next →
      drainsInWindow protocol deriveHopSeed service turn.drain = true ∧
        ((drainRxDataUntil protocol deriveHopSeed service turn.drain).2.2 = true ∨
          turn.selected = false ∨ receivesInWindow protocol deriveHopSeed
            (drainRxDataUntil protocol deriveHopSeed service turn.drain).1
            turn.last.receive = true) := by
    intro hnot next hswitch
    unfold turnsInWindow at hinside
    rw [hswitch] at hinside
    simpa [Except.toBool, hnot, or_assoc] using hinside
  cases houtcome with
  | searchUnselected hsearching =>
    exact ⟨htuned service h service.recoveryProbeIndex _, fun hnot => absurd hsearching hnot⟩
  | searched channel hsearching _ hok hquiet =>
    have hfirst : receivesInWindow protocol deriveHopSeed
        { service with currentChannel := channel } turn.last.receive = true := by
      unfold receivesInWindow
      split
      · rw [show ({ service with currentChannel := channel } : FhssService).fsm = .searching
          from hsearching]
        rfl
      · rfl
    rcases receiveOne_misses protocol deriveHopSeed
        (htuned service h service.recoveryProbeIndex channel) hfirst with
      ⟨service', received, hreceive, hnotOk, hagree, -⟩ | ⟨service', result, hreceive, hagree, -⟩
    · rw [hquiet hreceive hnotOk]
      exact ⟨hagree, fun hnot => absurd hsearching hnot⟩
    · rw [hok hreceive]
      exact ⟨hagree, fun hnot => absurd hsearching hnot⟩
  | noNextSlot =>
    -- The state machine gives the peer up, the tracker does not: nothing is followed any more.
    have hready : ControllerReady (service.handle .syncLost).controller := h.ready
    obtain ⟨cleared, hclearedReady, -, hclear⟩ := clearReference_spec hready
    rw [hclear]
    refine ⟨missesAgree_of_not_following h.accepted
      ⟨h.ready.initialized, h.ready.core_ready, hclearedReady⟩ h.limits h.loss_count ?_,
      fun _ _ _ _ hmem => absurd hmem List.not_mem_nil⟩
    unfold FhssService.handle
    dsimp only
    cases service.fsm <;> decide
  | drained service' hnot hswitch hdrain =>
    have hinside' := (hdrains hnot _ hswitch).1
    obtain ⟨hagree, -⟩ := drainRxDataUntil_misses protocol deriveHopSeed turn.drain h hinside'
    rw [hdrain] at hagree
    refine ⟨hagree, fun _ before hprefix htracking hmem => ?_⟩
    refine (drainRxDataUntil_tracks protocol deriveHopSeed h hinside' hprefix htracking).2 ?_
    rw [hdrain]
    exact hmem
  | unselected service' events probe channel hnot hswitch hdrain =>
    have hinside' := (hdrains hnot _ hswitch).1
    obtain ⟨hagree, -⟩ := drainRxDataUntil_misses protocol deriveHopSeed turn.drain h hinside'
    rw [hdrain] at hagree
    refine ⟨htuned service' hagree probe channel, fun _ before hprefix htracking hmem => ?_⟩
    refine (drainRxDataUntil_tracks protocol deriveHopSeed h hinside' hprefix htracking).2 ?_
    rw [hdrain]
    rcases List.mem_append.mp hmem with hmem | hmem
    · exact hmem
    · simp at hmem
  | received service' events probe channel hnot hswitch hdrain _ hselect =>
    obtain ⟨hinside', hlast⟩ := hdrains hnot _ hswitch
    obtain ⟨hagree, -⟩ := drainRxDataUntil_misses protocol deriveHopSeed turn.drain h hinside'
    rw [hdrain] at hagree hlast
    have hselected := selected_of_selectChannel hselect
    have hin := (hlast.resolve_left (by simp)).resolve_left (by simp [hselected])
    have hsame := receivesInWindow_congr protocol deriveHopSeed service' channel probe
      turn.last.receive
    obtain ⟨hagree', hloss⟩ := handleReceive_misses protocol deriveHopSeed
      (htuned service' hagree probe channel) (hsame.trans hin)
    refine ⟨hagree', fun _ before hprefix htracking hmem => ?_⟩
    obtain ⟨hsafe, hearlier⟩ :=
      drainRxDataUntil_tracks protocol deriveHopSeed h hinside' hprefix htracking
    rw [hdrain] at hsafe hearlier
    rcases List.mem_append.mp hmem with hmem | hmem
    · exact hearlier hmem
    · exact absurd hmem (hloss hsafe)

/-- **RECOVERY comes before the loss.**  In every run of `rx_task` in which no SYNC packet taken
while tracking lies outside the window: while the service follows its peer the two counters of
missed packets are equal, `RECOVERY` is entered exactly when they reach the limit of the service,
no turn that begins tracking reports the loss of the lock, and a turn that comes to track in its
drain reports none from there on. -/
theorem rxTask_recovery_before_loss (hentry : RxTaskEntry service)
    (haccepted : ∃ hal service₀, fhssServiceInit service.config hal = some service₀)
    {turns : List RxTurn}
    (hinside : Guarded (rxTaskTurn protocol deriveHopSeed)
      (fun service turn => turnsInWindow protocol deriveHopSeed service turn = true)
      service turns) :
    let reached := finalState (rxTaskTurn protocol deriveHopSeed) service turns
    (reached.fsm = .tracking ∨ reached.fsm = .recovery →
      reached.consecutiveSyncMisses = reached.controller.core.syncTracker.consecutiveMisses) ∧
    (reached.fsm = .tracking →
      reached.consecutiveSyncMisses < reached.config.recoveryEntryMissCount) ∧
    (reached.fsm = .recovery →
      reached.config.recoveryEntryMissCount ≤ reached.consecutiveSyncMisses ∧
        reached.consecutiveSyncMisses < reached.config.lossCount) ∧
    ∀ turn, turnsInWindow protocol deriveHopSeed reached turn = true →
      (reached.fsm = .tracking →
        .report .syncLost ∉ (rxTaskTurn protocol deriveHopSeed reached turn).2) ∧
      LosesNotTracking protocol deriveHopSeed reached turn
        (rxTaskTurn protocol deriveHopSeed reached turn).2 := by
  intro reached
  obtain ⟨hal, service₀, hinit⟩ := haccepted
  have hfresh := missesAgree_of_fresh (freshRxSession_of_entry hentry)
    (recoversBeforeLoss_of_init hinit)
  have h : MissesAgree reached :=
    @invariant_finalState _ _ _ (rxTaskTurn protocol deriveHopSeed) MissesAgree _
      (fun service turn hagree hturn =>
        (rxTaskTurn_misses protocol deriveHopSeed hagree hturn).1) service hfresh turns hinside
  refine ⟨fun hfsm => (h.following hfsm).2.symm, h.tracking, fun hfsm => ⟨h.recovery hfsm, ?_⟩,
    fun turn hturn => ?_⟩
  swap
  · have hloses := (rxTaskTurn_misses protocol deriveHopSeed h hturn).2
    refine ⟨fun hfsm hmem => ?_, hloses⟩
    exact absurd (hloses (by rw [hfsm]; decide) [] List.nil_prefix hfsm hmem) List.not_mem_nil
  have hbelow := h.ready.core_ready.tracker_ready.misses_lt
  rw [(h.following (.inr hfsm)).2, h.loss_count] at hbelow
  exact UInt32.lt_iff_toNat_lt.mpr hbelow

end Loop

/-- A turn that hears nothing. -/
def sampleMiss (nowUs : Int64) : RxTurn := ⟨nowUs, [], true, ⟨.noTimestamp, true⟩⟩

/-- Two misses after the acquisition: both counters say 2, and the service recovers. -/
theorem rxTask_recovery_before_loss_two_misses :
    let turns := sampleAcquisition ++ [sampleMiss 1600100, sampleMiss 1900100]
    let reached := finalState (rxTaskTurn plainProtocol none) sampleService turns
    reached.fsm = .recovery ∧ reached.consecutiveSyncMisses = 2 ∧
      reached.consecutiveSyncMisses =
        reached.controller.core.syncTracker.consecutiveMisses := by
  intro turns reached
  have hfsm : reached.fsm = .recovery := by decide +kernel
  exact ⟨hfsm, by decide +kernel,
    (@rxTask_recovery_before_loss plainProtocol none sampleService rxTaskEntry_sampleService
      ⟨⟨true, some (0, 20), true, true⟩, _, rfl⟩ turns (by decide +kernel)).1 (.inr hfsm)⟩

/-- After the acquisition the SYNC packets of slots 3 to 7 all come 30 ms late.  After the first
the counters differ; the last makes the tracking service lose its lock, without `RECOVERY`. -/
theorem rxTask_late_syncs_lose_directly :
    let late := [sampleTurn 1600100 3 1930000, sampleTurn 1930100 4 2230000,
      sampleTurn 2230100 5 2530000, sampleTurn 2530100 6 2830000]
    let first := finalState (rxTaskTurn plainProtocol none) sampleService
      (sampleAcquisition ++ [sampleTurn 1600100 3 1930000])
    let last := finalState (rxTaskTurn plainProtocol none) sampleService
      (sampleAcquisition ++ late)
    RxTaskEntry sampleService ∧
      (∃ hal service₀, fhssServiceInit sampleService.config hal = some service₀) ∧
      first.fsm = .tracking ∧ first.consecutiveSyncMisses = 0 ∧
      first.controller.core.syncTracker.consecutiveMisses = 1 ∧
      last.fsm = .tracking ∧
      .report .syncLost ∈
        (rxTaskTurn plainProtocol none last (sampleTurn 2830100 7 3130000)).2 ∧
      (rxTaskTurn plainProtocol none last (sampleTurn 2830100 7 3130000)).1.fsm =
        .searching := by
  intro late first last
  refine ⟨rxTaskEntry_sampleService, ⟨⟨true, some (0, 20), true, true⟩, _, rfl⟩, ?_⟩
  decide +kernel

end FhssOtaRadio
