import FhssOtaRadio.FhssCore.SlotProgress

/-!
# The clock converges (`fhss_sync_controller.c`)

A peer whose clock differs by a constant phase sends the SYNC packet of slot `slot` so that it
arrives at `t0 + slot * slot_duration_us`.  The timing error is then the same for every slot
(`phaseError`), and each accepted packet leaves the residual of it (`phaseError_step`), so that a
run of SYNC packets iterates `PhaseGain.residual`: with a reference that moves from slot to slot,
and whatever slots are missed.
-/

namespace FhssOtaRadio

open Machine SlotClock PhaseGain

variable (protocol : OtaProtocol)

/-- How late the SYNC packets of a peer with phase `t0` are for a controller. -/
def FhssSyncController.phaseError (controller : FhssSyncController) (t0 : ℤ) : ℤ :=
  t0 - (controller.predictedStart 0 + controller.offset)

/-- A SYNC packet that a core accepts. -/
structure PeerSync (core : FhssCore) where
  buffer : Bytes
  packet : FhssSyncPacket
  accepted : CoreAccepts protocol core buffer packet

/-- The slot of a SYNC packet. -/
def PeerSync.slot {protocol : OtaProtocol} {core : FhssCore} (sync : PeerSync protocol core) :
    UInt32 := sync.packet.slotNumber

/-- The time the SYNC packet of a slot arrives. -/
def FhssSyncController.arrival (controller : FhssSyncController) (t0 : ℤ) (slot : UInt32) : ℤ :=
  t0 + slot.toNat * controller.scheduler.duration

/-- Receive a SYNC packet of the peer. -/
def receivePeerSync {core : FhssCore} (t0 : ℤ) (controller : FhssSyncController)
    (sync : PeerSync protocol core) :
    FhssSyncController × Except FhssControllerStatus FhssCoreRxResult :=
  fhssSyncControllerProcessRx protocol controller sync.buffer (controller.arrival t0 sync.slot)

/-- A peer that a controller can follow: the slots increase from the reference on, the first
error is inside the timing window, and the times fit: none is negative and none leaves
`int64_t`. -/
structure Followable (controller : FhssSyncController) (t0 : ℤ)
    (syncs : List (PeerSync protocol controller.core)) : Prop where
  increasing : (syncs.map PeerSync.slot).Pairwise (· < ·)
  from_reference : ∀ sync ∈ syncs, controller.scheduler.referenceSlot ≤ sync.slot
  early : -(controller.core.timingConfig.earlyMarginUs.toNat : ℤ) ≤ controller.phaseError t0
  late : controller.phaseError t0 ≤ controller.core.timingConfig.lateMarginUs.toNat
  observed_nonneg : ∀ sync ∈ syncs, controller.offset ≤ controller.arrival t0 sync.slot
  arrival_fits : ∀ sync ∈ syncs, controller.arrival t0 sync.slot ≤ int64Max
  expected_fits : ∀ sync ∈ syncs,
    controller.predictedStart sync.slot.toNat + controller.offset ≤ int64Max

/-- What one SYNC packet of the peer does: `before` and `after` are the controllers, `slot` its
slot and `timingErrorUs` its reported timing error. -/
structure PullsIn (t0 : ℤ) (before after : FhssSyncController) (slot : UInt32)
    (timingErrorUs : ℤ) : Prop where
  reported : timingErrorUs = before.phaseError t0
  shifted : ∀ slot' start, slot ≤ slot' →
    fhssSlotSchedulerGetSlotStartTime before.scheduler slot' = .ok start →
    start + calculatePhaseCorrection before timingErrorUs ≤ int64Max →
    fhssSlotSchedulerGetSlotStartTime after.scheduler slot' =
      .ok (start + calculatePhaseCorrection before timingErrorUs)
  remaining : after.phaseError t0 =
    before.phaseError t0 - calculatePhaseCorrection before timingErrorUs
  late_stays : 0 ≤ before.phaseError t0 → 0 ≤ after.phaseError t0
  early_stays : before.phaseError t0 ≤ 0 → after.phaseError t0 ≤ 0
  nonincreasing : (after.phaseError t0).natAbs ≤ (before.phaseError t0).natAbs
  decreases : before.correctionDeadbandUs.toNat < (before.phaseError t0).natAbs →
    (after.phaseError t0).natAbs + 1 ≤ (before.phaseError t0).natAbs

/-! ## The gain of a reachable controller -/

section Ready

variable {controller : FhssSyncController}

/-- No call changes the parameters of the phase gain. -/
lemma gain_controllerStep (h : ControllerReady controller) (call : ControllerCall) :
    (controllerStep protocol controller call).1.gain = controller.gain := by
  cases call with
  | processRx buffer rxTimestampUs =>
    rcases fhssSyncControllerProcessRx_cases protocol h buffer
      (toInt_le_int64Max rxTimestampUs) with
      ⟨status, hreject, -⟩ | ⟨_, _, _, _, _, _, _, -, -, -, -, -, -, -, -, haccept⟩
    · simp only [controllerStep, hreject]
    · simp only [controllerStep, haccept]
      rfl
  | recoverRx buffer rxTimestampUs =>
    rcases fhssSyncControllerRecoverRx_cases protocol h buffer rxTimestampUs.toInt with
      ⟨status, hreject, -⟩ | ⟨_, _, _, _, _, _, _, -, -, -, -, -, -, -, haccept⟩
    · simp only [controllerStep, hreject]
    · simp only [controllerStep, haccept]
      rfl
  | handleTimeout =>
    obtain ⟨_, _, _, -, -, -, -, htimeout⟩ := fhssSyncControllerHandleTimeout_eq h
    simp only [controllerStep, htimeout]
    rfl
  | clearReference =>
    simp only [controllerStep]
    split <;> rfl
  | setReference slot timeUs =>
    simp only [controllerStep]
    split <;> rfl
  | reinitHopSequence channels seed reservedChannel =>
    simp only [controllerStep]
    split <;> rfl

/-- `fhss_sync_controller_init` accepts a positive step cap only. -/
lemma one_le_maxStep_init {config : FhssSyncControllerConfig}
    (h : fhssSyncControllerInit config = .ok controller) : 1 ≤ controller.gain.maxStep := by
  obtain ⟨hcap, -⟩ := fhssSyncControllerInit_ok h
  exact Nat.one_le_iff_ne_zero.mpr fun hzero => hcap (UInt32.toNat_inj.mp hzero)

/-- Every reachable controller moves its clock by at least one microsecond. -/
lemma one_le_maxStep_of_reachable
    (hreach : Reachable (controllerStep protocol) BuiltController controller) :
    1 ≤ controller.gain.maxStep := by
  obtain ⟨controller₀, calls, ⟨config, hinit⟩, rfl⟩ := hreach
  have hkeeps : ∀ controller call, ControllerReady controller ∧ 1 ≤ controller.gain.maxStep →
      ControllerReady (controllerStep protocol controller call).1 ∧
        1 ≤ (controllerStep protocol controller call).1.gain.maxStep := by
    rintro controller call ⟨hready, hstep⟩
    refine ⟨controllerReady_step protocol hready call, ?_⟩
    rw [gain_controllerStep protocol hready call]
    exact hstep
  exact (@invariant_run _ _ _ (controllerStep protocol)
    (fun controller => ControllerReady controller ∧ 1 ≤ controller.gain.maxStep) hkeeps _
    ⟨(controllerReady_init hinit).1, one_le_maxStep_init hinit⟩ calls).2

end Ready

/-! ## One SYNC packet -/

section Step

variable {controller : FhssSyncController} {t0 : ℤ}

/-- Slot starts are a slot duration apart. -/
lemma predictedStart_eq (controller : FhssSyncController) (slot : ℤ) :
    controller.predictedStart slot =
      controller.predictedStart 0 + slot * controller.scheduler.duration := by
  unfold FhssSyncController.predictedStart slotStart
  ring

/-- The timing error of the peer is the same for every slot. -/
lemma arrival_sub_expected (slot : UInt32) :
    controller.arrival t0 slot - (controller.predictedStart slot.toNat + controller.offset) =
      controller.phaseError t0 := by
  have hstart := predictedStart_eq controller slot.toNat
  unfold FhssSyncController.arrival FhssSyncController.phaseError
  rw [hstart]
  ring

/-- What a controller that follows a peer keeps of the first one: all that decides which packets
it accepts, and the parameters of its clock. -/
structure SameFollower (controller₀ controller : FhssSyncController) : Prop where
  accepts_eq : ∀ buffer packet, CoreAccepts protocol controller₀.core buffer packet →
    CoreAccepts protocol controller.core buffer packet
  timing_eq : controller.core.timingConfig = controller₀.core.timingConfig
  gain_eq : controller.gain = controller₀.gain
  offset_eq : controller.offset = controller₀.offset
  duration_eq : controller.scheduler.duration = controller₀.scheduler.duration

lemma SameFollower.refl (controller : FhssSyncController) :
    SameFollower protocol controller controller := ⟨fun _ _ h => h, rfl, rfl, rfl, rfl⟩

/-- A controller ready for the SYNC packet of a slot whose timing error is inside the window. -/
structure ReadyFor (controller : FhssSyncController) (t0 : ℤ) (slot : UInt32) : Prop where
  ready : ControllerReady controller
  synchronized : controller.scheduler.synchronized = true
  reference_le : controller.scheduler.referenceSlot.toNat ≤ slot.toNat
  early : -(controller.core.timingConfig.earlyMarginUs.toNat : ℤ) ≤ controller.phaseError t0
  late : controller.phaseError t0 ≤ controller.core.timingConfig.lateMarginUs.toNat
  observed_nonneg : controller.offset ≤ controller.arrival t0 slot
  arrival_fits : controller.arrival t0 slot ≤ int64Max
  predicted_fits : controller.predictedStart slot.toNat ≤ int64Max

/-- An error between the margins is inside the window. -/
lemma fhssTimingWindowEvaluate_inside {config : FhssTimingWindowConfig}
    {expectedRxTimeUs actualRxTimeUs : ℤ}
    (hearly : -(config.earlyMarginUs.toNat : ℤ) ≤ actualRxTimeUs - expectedRxTimeUs)
    (hlate : actualRxTimeUs - expectedRxTimeUs ≤ config.lateMarginUs.toNat) :
    fhssTimingWindowEvaluate config expectedRxTimeUs actualRxTimeUs =
      ⟨actualRxTimeUs - expectedRxTimeUs, .insideWindow⟩ := by
  unfold fhssTimingWindowEvaluate
  rw [if_neg (not_lt.mpr hearly), if_neg (not_lt.mpr hlate)]

/-- A controller ready for a SYNC packet accepts it inside the window, and afterwards its slot
clock is the old one, moved by the correction. -/
lemma processRx_readyFor {slot : UInt32} (h : ReadyFor controller t0 slot) {buffer : Bytes}
    {packet : FhssSyncPacket} (haccepts : CoreAccepts protocol controller.core buffer packet)
    (hslot : packet.slotNumber = slot) :
    ∃ controller' result,
      fhssSyncControllerProcessRx protocol controller buffer (controller.arrival t0 slot) =
        (controller', .ok result) ∧
      result.timing = ⟨controller.phaseError t0, .insideWindow⟩ ∧
      ControllerReady controller' ∧ SameFollower protocol controller controller' ∧
      controller'.scheduler.synchronized = true ∧
      controller'.scheduler.referenceSlot.toNat ≤ slot.toNat ∧
      ∀ n, controller'.predictedStart n = controller.predictedStart n +
        correction controller.gain (controller.phaseError t0) := by
  have hexpected : controller.expectedRxTime slot.toNat (controller.arrival t0 slot) =
      controller.predictedStart slot.toNat + controller.offset := by
    unfold FhssSyncController.expectedRxTime
    rw [if_pos h.synchronized]
  have herror := @arrival_sub_expected controller t0 slot
  have hwindow : fhssTimingWindowEvaluate controller.core.timingConfig
      (controller.expectedRxTime slot.toNat (controller.arrival t0 slot))
      (controller.arrival t0 slot) = ⟨controller.phaseError t0, .insideWindow⟩ := by
    rw [hexpected, ← herror]
    apply fhssTimingWindowEvaluate_inside
    · rw [herror]
      exact h.early
    · rw [herror]
      exact h.late
  have hstart : fhssSlotSchedulerGetSlotStartTime controller.scheduler slot =
      .ok (controller.predictedStart slot.toNat) :=
    (getSlotStartTime_eq_ok_iff h.ready.scheduler_ready h.synchronized slot _).mpr
      ⟨h.reference_le, rfl, h.predicted_fits⟩
  rcases fhssSyncControllerProcessRx_cases protocol h.ready buffer h.arrival_fits with
    ⟨status, -, -, hlacks⟩ | ⟨packet', syncTracker, syncEvent, channel, scheduler, last,
      accumulated, haccepts', -, -, htracker, hscheduler, hconfig, -, heffect, haccept⟩
  · -- The scheduler has a start for the slot, so there is no reason to reject.
    obtain ⟨-, packet', status', hdecode, hmissing⟩ := hlacks packet haccepts h.observed_nonneg
    obtain rfl : packet = packet' := Except.ok.inj (haccepts.1.symm.trans hdecode)
    rw [hslot, hstart] at hmissing
    cases hmissing
  obtain rfl : packet = packet' := Except.ok.inj (haccepts.1.symm.trans haccepts'.1)
  rw [hslot, hwindow] at haccept heffect
  have hruns := (anchorEffect_inside rfl).mp heffect
  refine ⟨_, _, haccept, rfl, h.ready.updated htracker hscheduler last accumulated, ?_,
    hruns.synchronized, hruns.reference_le, ?_⟩
  · refine ⟨fun _ _ hcore => hcore, rfl, rfl, rfl, ?_⟩
    exact congrArg (fun config => (config.slotDurationUs.toNat : ℤ)) hconfig
  · intro n
    have hduration : scheduler.duration = controller.scheduler.duration :=
      congrArg (fun config => (config.slotDurationUs.toNat : ℤ)) hconfig
    have hcorrected : slotStart scheduler.duration scheduler.anchor slot.toNat =
        controller.predictedStart slot.toNat +
          correction controller.gain (controller.phaseError t0) := by
      rw [hruns.start_eq, ← herror]
      unfold FhssSyncController.correctedStart
      rw [if_pos h.synchronized]
    have hafter := predictedStart_eq (controller.updated syncTracker scheduler last accumulated)
    have hafterSlot := hafter slot.toNat
    have hbefore := predictedStart_eq controller
    change slotStart scheduler.duration scheduler.anchor slot.toNat =
      _ + _ * scheduler.duration at hafterSlot
    have hafterN := hafter n
    change _ = _ + _ * scheduler.duration at hafterN
    rw [hafterN, hbefore n]
    rw [hcorrected, hbefore slot.toNat, hduration] at hafterSlot
    rw [hduration]
    linarith

end Step

/-! ## A run of SYNC packets -/

section Run

variable {controller : FhssSyncController} {t0 : ℤ}

/-- The controller after the SYNC packets of a peer. -/
def afterPeerSyncs (controller : FhssSyncController) (t0 : ℤ)
    (syncs : List (PeerSync protocol controller.core)) : FhssSyncController :=
  finalState (receivePeerSync protocol t0) controller syncs

/-- The start of a slot after some SYNC packets lies between the start predicted at first and
the start the peer gives it. -/
structure Following (controller₀ controller : FhssSyncController) (t0 : ℤ) (n : ℕ) : Prop where
  ready : ControllerReady controller
  same : SameFollower protocol controller₀ controller
  synchronized : controller.scheduler.synchronized = true
  error_eq : controller.phaseError t0 = (residual controller₀.gain)^[n] (controller₀.phaseError t0)
  between : min 0 (controller₀.phaseError t0) ≤ controller.phaseError t0 ∧
    controller.phaseError t0 ≤ max 0 (controller₀.phaseError t0)

lemma Following.refl (hready : ControllerReady controller)
    (hsync : controller.scheduler.synchronized = true) :
    Following protocol controller controller t0 0 :=
  ⟨hready, .refl protocol controller, hsync, rfl, min_le_right _ _, le_max_right _ _⟩

/-- A controller that follows a peer is ready for the peer's next SYNC packet. -/
lemma Following.readyFor {controller₀ : FhssSyncController} {n : ℕ}
    (h : Following protocol controller₀ controller t0 n)
    {syncs : List (PeerSync protocol controller₀.core)}
    (hfollow : Followable protocol controller₀ t0 syncs)
    {sync : PeerSync protocol controller₀.core} (hmem : sync ∈ syncs)
    (hreference : controller.scheduler.referenceSlot.toNat ≤ sync.slot.toNat) :
    ReadyFor controller t0 sync.slot := by
  have harrival : controller.arrival t0 sync.slot = controller₀.arrival t0 sync.slot := by
    unfold FhssSyncController.arrival
    rw [h.same.duration_eq]
  have herror := @arrival_sub_expected controller t0 sync.slot
  have herror₀ := @arrival_sub_expected controller₀ t0 sync.slot
  have hbetween := h.between
  have hobserved := hfollow.observed_nonneg sync hmem
  have hfits := hfollow.arrival_fits sync hmem
  have hexpected := hfollow.expected_fits sync hmem
  have hearly := hfollow.early
  have hlate := hfollow.late
  have hoffset := h.same.offset_eq
  have hoffset_nonneg : 0 ≤ controller.offset := Int.natCast_nonneg _
  refine ⟨h.ready, h.synchronized, hreference, ?_, ?_, ?_, ?_, ?_⟩
  · rw [h.same.timing_eq]
    omega
  · rw [h.same.timing_eq]
    omega
  · omega
  · omega
  · omega

/-- One SYNC packet of the peer. -/
lemma Following.step {controller₀ : FhssSyncController} {n : ℕ}
    (h : Following protocol controller₀ controller t0 n)
    {sync : PeerSync protocol controller₀.core} (hready : ReadyFor controller t0 sync.slot) :
    ∃ controller' result,
      receivePeerSync protocol t0 controller sync = (controller', .ok result) ∧
      result.timing = ⟨controller.phaseError t0, .insideWindow⟩ ∧
      Following protocol controller₀ controller' t0 (n + 1) ∧
      controller'.scheduler.referenceSlot.toNat ≤ sync.slot.toNat ∧
      controller'.phaseError t0 = residual controller.gain (controller.phaseError t0) ∧
      ∀ m, controller'.predictedStart m = controller.predictedStart m +
        correction controller.gain (controller.phaseError t0) := by
  obtain ⟨controller', result, hrun, htiming, hready', hsame, hsync', hreference', hshift⟩ :=
    processRx_readyFor protocol hready (h.same.accepts_eq _ _ sync.accepted) rfl
  have herror : controller'.phaseError t0 =
      residual controller.gain (controller.phaseError t0) := by
    have hzero := hshift 0
    unfold PhaseGain.residual
    unfold FhssSyncController.phaseError at hzero ⊢
    rw [hzero, hsame.offset_eq]
    ring
  refine ⟨controller', result, hrun, htiming, ⟨hready', ?_, hsync', ?_, ?_⟩, hreference', herror,
    hshift⟩
  · refine ⟨fun buffer packet hcore => ?_, ?_, ?_, ?_, ?_⟩
    · exact hsame.accepts_eq _ _ (h.same.accepts_eq _ _ hcore)
    · exact hsame.timing_eq.trans h.same.timing_eq
    · exact hsame.gain_eq.trans h.same.gain_eq
    · exact hsame.offset_eq.trans h.same.offset_eq
    · exact hsame.duration_eq.trans h.same.duration_eq
  · rw [herror, h.same.gain_eq, h.error_eq, Function.iterate_succ_apply']
  · have hmem := residual_mem controller.gain (controller.phaseError t0)
    have hbetween := h.between
    rw [herror]
    omega

/-- A run of SYNC packets from the peer, in the order of their slots. -/
lemma following_run {controller₀ : FhssSyncController} {n : ℕ}
    (h : Following protocol controller₀ controller t0 n)
    {all : List (PeerSync protocol controller₀.core)}
    (hfollow : Followable protocol controller₀ t0 all)
    (syncs : List (PeerSync protocol controller₀.core)) (hsub : ∀ sync ∈ syncs, sync ∈ all)
    (hincreasing : (syncs.map PeerSync.slot).Pairwise (· < ·))
    (hreference : ∀ sync ∈ syncs,
      controller.scheduler.referenceSlot.toNat ≤ sync.slot.toNat) :
    Following protocol controller₀ (finalState (receivePeerSync protocol t0) controller syncs) t0
      (n + syncs.length) ∧
    ∀ slot : UInt32, controller.scheduler.referenceSlot.toNat ≤ slot.toNat →
      (∀ sync ∈ syncs, sync.slot < slot) →
      (finalState (receivePeerSync protocol t0) controller
        syncs).scheduler.referenceSlot.toNat ≤ slot.toNat := by
  induction syncs generalizing controller n with
  | nil => exact ⟨h, fun slot hslot _ => hslot⟩
  | cons sync syncs ih =>
      have hhead : sync ∈ sync :: syncs := List.mem_cons_self
      rw [List.map_cons, List.pairwise_cons] at hincreasing
      have hready := h.readyFor protocol hfollow (hsub sync hhead) (hreference sync hhead)
      obtain ⟨controller', result, hrun, -, hfollowing, hreference', -, -⟩ := h.step protocol hready
      have hnext : (receivePeerSync protocol t0 controller sync).1 = controller' := by rw [hrun]
      obtain ⟨hrest, hlast⟩ := ih hfollowing
        (fun sync' hsync' => hsub sync' (List.mem_cons_of_mem _ hsync')) hincreasing.2 (by
          intro sync' hsync'
          have hlt := hincreasing.1 sync'.slot (List.mem_map_of_mem hsync')
          exact hreference'.trans (UInt32.lt_iff_toNat_lt.mp hlt).le)
      rw [finalState_cons, hnext, List.length_cons]
      refine ⟨?_, ?_⟩
      · have hcount : n + (syncs.length + 1) = n + 1 + syncs.length := by omega
        rw [hcount]
        exact hrest
      · intro slot _ hslots
        refine hlast slot ?_ fun sync' hsync' => hslots sync' (List.mem_cons_of_mem _ hsync')
        exact hreference'.trans (UInt32.lt_iff_toNat_lt.mp (hslots sync hhead)).le

end Run

/-- **The clock converges.**  A synchronized controller receives SYNC packets of a peer with a
constant phase, in the order of their slots and with any gaps.  Each of them is accepted inside
the window and pulls the slot starts in by its correction (`PullsIn`): the error keeps its sign,
never grows, and shrinks while it exceeds the deadband.  Once there have been as many packets as
the first error exceeds the deadband in microseconds, it is within the deadband and stays so. -/
theorem fhssSyncController_converges {controller : FhssSyncController}
    (hreach : Reachable (controllerStep protocol) BuiltController controller)
    (hsync : controller.scheduler.synchronized = true) (t0 : ℤ)
    (before after : List (PeerSync protocol controller.core))
    (sync : PeerSync protocol controller.core)
    (hfollow : Followable protocol controller t0 (before ++ sync :: after)) :
    ∃ controller' result,
      receivePeerSync protocol t0 (afterPeerSyncs protocol controller t0 before) sync =
        (controller', .ok result) ∧
      result.timing.result = .insideWindow ∧
      PullsIn t0 (afterPeerSyncs protocol controller t0 before) controller' sync.slot
        result.timing.timingErrorUs ∧
      ((controller.phaseError t0).natAbs ≤
          controller.correctionDeadbandUs.toNat + before.length + 1 →
        (controller'.phaseError t0).natAbs ≤ controller.correctionDeadbandUs.toNat) := by
  have hready := controllerReady_of_reachable protocol hreach
  have hstep := one_le_maxStep_of_reachable protocol hreach
  have hincreasing := hfollow.increasing
  rw [List.map_append, List.map_cons, List.pairwise_append, List.pairwise_cons] at hincreasing
  obtain ⟨hbefore, hlast⟩ := following_run protocol (Following.refl protocol hready hsync) hfollow
    before (fun sync' hsync' => List.mem_append_left _ hsync') hincreasing.1
    (fun sync' hsync' => UInt32.le_iff_toNat_le.mp
      (hfollow.from_reference sync' (List.mem_append_left _ hsync')))
  have hmem : sync ∈ before ++ sync :: after := by simp
  have hreference := hlast sync.slot (UInt32.le_iff_toNat_le.mp (hfollow.from_reference sync hmem))
    (fun sync' hsync' => hincreasing.2.2 _ (List.mem_map_of_mem hsync') _ List.mem_cons_self)
  change Following protocol controller (afterPeerSyncs protocol controller t0 before) t0 _
    at hbefore
  change (afterPeerSyncs protocol controller t0 before).scheduler.referenceSlot.toNat ≤ _
    at hreference
  generalize afterPeerSyncs protocol controller t0 before = current at hbefore hreference
  have hreadyFor := hbefore.readyFor protocol hfollow hmem hreference
  obtain ⟨controller', result, hrun, htiming, hfollowing, hreference', herror, hshift⟩ :=
    hbefore.step protocol hreadyFor
  have hgain : current.gain = controller.gain := hbefore.same.gain_eq
  refine ⟨controller', result, hrun, by rw [htiming], ?_, ?_⟩
  · rw [htiming]
    dsimp only
    have hcorrection := calculatePhaseCorrection_eq current (current.phaseError t0)
    have hresidual := residual_mem current.gain (current.phaseError t0)
    refine ⟨rfl, ?_, ?_, ?_, ?_, ?_, ?_⟩
    · intro slot' start hslot hstart hfits
      rw [hcorrection] at hfits ⊢
      obtain ⟨-, hstartEq, -⟩ := (getSlotStartTime_eq_ok_iff hbefore.ready.scheduler_ready
        hbefore.synchronized slot' start).mp hstart
      refine (getSlotStartTime_eq_ok_iff hfollowing.ready.scheduler_ready
        hfollowing.synchronized slot' _).mpr ⟨?_, ?_, hfits⟩
      · exact hreference'.trans (UInt32.le_iff_toNat_le.mp hslot)
      · rw [hstartEq]
        exact (hshift slot'.toNat).symm
    · rw [hcorrection, herror]
      rfl
    · intro hlate
      rw [herror]
      omega
    · intro hearly
      rw [herror]
      omega
    · rw [herror]
      exact natAbs_residual_le _ _
    · intro hbeyond
      rw [herror]
      exact natAbs_residual_lt current.gain (hgain ▸ hstep) hbeyond
  · intro hbound
    rw [hfollowing.error_eq]
    apply natAbs_iterate_residual_le _ hstep
    change (controller.phaseError t0).natAbs ≤ controller.correctionDeadbandUs.toNat + _
    omega

/-- The SYNC packets of slots 3 and 7 from a peer that is one millisecond late. -/
def sampleLateSyncs : PeerSync plainProtocol sampleSynchronized.core ×
    PeerSync plainProtocol sampleSynchronized.core :=
  (⟨sampleSync 3, ⟨1, 7, 0, 0, 3⟩, by decide, by decide, by decide⟩,
    ⟨sampleSync 7, ⟨1, 7, 0, 1, 7⟩, by decide, by decide, by decide⟩)

/-- The peer's SYNC packet of slot 7 after that of slot 3, the slots between them missed. -/
theorem fhssSyncController_converges_late :
    ∃ controller' result,
      receivePeerSync plainProtocol 1001000
        (afterPeerSyncs plainProtocol sampleSynchronized 1001000 [sampleLateSyncs.1])
        sampleLateSyncs.2 = (controller', .ok result) ∧
      result.timing.result = .insideWindow ∧
      PullsIn 1001000
        (afterPeerSyncs plainProtocol sampleSynchronized 1001000 [sampleLateSyncs.1]) controller' 7
        result.timing.timingErrorUs ∧
      ((sampleSynchronized.phaseError 1001000).natAbs ≤
          sampleSynchronized.correctionDeadbandUs.toNat + 1 + 1 →
        (controller'.phaseError 1001000).natAbs ≤
          sampleSynchronized.correctionDeadbandUs.toNat) :=
  fhssSyncController_converges plainProtocol reachable_sampleSynchronized (by decide) 1001000
    [sampleLateSyncs.1] [] sampleLateSyncs.2
    ⟨by decide, by decide, by decide, by decide, by decide, by decide, by decide⟩

end FhssOtaRadio
