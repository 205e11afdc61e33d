import FhssOtaRadio.FhssCore.ClockConvergence
import FhssOtaRadio.FhssCore.ReceiveArithmetic

/-!
# Locked in spite of drift and jitter (`fhss_sync_controller.c`)

The clocks of two radios drift apart, SYNC packets are lost, and a timestamp is never exact.  As
long as the drift between two packets that are received is not more than what the controller makes
up for with one correction, the receiver stays locked for good: every SYNC packet it receives is
inside the timing window, and its slots start within a fixed bound of those of the peer.
-/

namespace FhssOtaRadio

open Machine SlotClock PhaseGain

variable (protocol : OtaProtocol)

/-- A SYNC packet of a peer whose clock drifts. -/
structure DriftingSync (core : FhssCore) where
  sync : PeerSync protocol core
  /-- When the peer's slot 0 would have started, counted back from the slot of this packet. -/
  phaseUs : ℤ
  /-- How late the packet is timestamped. -/
  jitterUs : ℤ

/-- Receive a SYNC packet of the peer. -/
def receiveDriftingSync {core : FhssCore} (controller : FhssSyncController)
    (sync : DriftingSync protocol core) :
    FhssSyncController × Except FhssControllerStatus FhssCoreRxResult :=
  receivePeerSync protocol (sync.phaseUs + sync.jitterUs) controller sync.sync

/-- Bounds that fit a controller: `boundUs` for the error of its clock after a correction, `driftUs`
for the drift between two packets, and `jitterUs` for the error of a timestamp. -/
structure DriftBudget (controller : FhssSyncController) (boundUs driftUs jitterUs : ℕ) : Prop where
  jitter_le : jitterUs ≤ boundUs
  drift_le : driftUs ≤ gain controller.gain (boundUs - jitterUs)
  early : boundUs + driftUs + jitterUs ≤ controller.core.timingConfig.earlyMarginUs.toNat
  late : boundUs + driftUs + jitterUs ≤ controller.core.timingConfig.lateMarginUs.toNat

/-- The SYNC packets of a peer whose phase is `phaseUs` at first: the slots increase from the
reference on, drift and jitter are within their bounds, and the times fit. -/
structure Drifting (controller : FhssSyncController) (boundUs driftUs jitterUs : ℕ) (phaseUs : ℤ)
    (syncs : List (DriftingSync protocol controller.core)) : Prop where
  increasing : (syncs.map fun sync => sync.sync.slot).Pairwise (· < ·)
  from_reference : ∀ sync ∈ syncs, controller.scheduler.referenceSlot ≤ sync.sync.slot
  drift : List.IsChain (fun phaseUs nextUs : ℤ => (nextUs - phaseUs).natAbs ≤ driftUs)
    (phaseUs :: syncs.map DriftingSync.phaseUs)
  jitter : ∀ sync ∈ syncs, sync.jitterUs.natAbs ≤ jitterUs
  observed_nonneg : ∀ sync ∈ syncs,
    controller.offset ≤ controller.arrival (sync.phaseUs + sync.jitterUs) sync.sync.slot
  expected_fits : ∀ sync ∈ syncs,
    controller.arrival sync.phaseUs sync.sync.slot + (boundUs + driftUs + jitterUs) ≤ int64Max

/-- The slots of a controller start within `boundUs` of those of a peer. -/
def InStep (controller : FhssSyncController) (boundUs : ℕ) (phaseUs : ℤ) : Prop :=
  ∀ slot : UInt32, (controller.arrival phaseUs slot -
    (controller.predictedStart slot.toNat + controller.offset)).natAbs ≤ boundUs

/-- Every packet is accepted inside the window, found off by the whole budget at most, and leaves
the controller in step with the peer. -/
def StaysLocked {core : FhssCore} (boundUs driftUs jitterUs : ℕ) :
    FhssSyncController → List (DriftingSync protocol core) → Prop
  | _, [] => True
  | controller, sync :: syncs =>
      ∃ controller' result,
        receiveDriftingSync protocol controller sync = (controller', .ok result) ∧
        result.timing.result = .insideWindow ∧
        result.timing.timingErrorUs.natAbs ≤ boundUs + driftUs + jitterUs ∧
        InStep controller (boundUs + driftUs) sync.phaseUs ∧
        InStep controller' boundUs sync.phaseUs ∧
        StaysLocked boundUs driftUs jitterUs controller' syncs

section Drift

variable {controller controller₀ : FhssSyncController} {boundUs driftUs jitterUs : ℕ} {phaseUs : ℤ}

/-- A controller is in step when its phase error is within the bound. -/
lemma inStep_iff :
    InStep controller boundUs phaseUs ↔ (controller.phaseError phaseUs).natAbs ≤ boundUs := by
  unfold InStep
  constructor
  · intro h
    rw [← arrival_sub_expected 0]
    exact h 0
  · intro h slot
    rw [arrival_sub_expected]
    exact h

/-- A later phase is that much later for the controller. -/
lemma phaseError_add (delayUs : ℤ) :
    controller.phaseError (phaseUs + delayUs) = controller.phaseError phaseUs + delayUs := by
  unfold FhssSyncController.phaseError
  ring

/-- A controller that has kept up with a peer so far. -/
structure KeepsUp (controller₀ controller : FhssSyncController) (boundUs : ℕ) (phaseUs : ℤ) :
    Prop where
  ready : ControllerReady controller
  same : SameFollower protocol controller₀ controller
  synchronized : controller.scheduler.synchronized = true
  within : (controller.phaseError phaseUs).natAbs ≤ boundUs

lemma SameFollower.trans {controller₁ : FhssSyncController}
    (h₁ : SameFollower protocol controller₀ controller₁)
    (h₂ : SameFollower protocol controller₁ controller) :
    SameFollower protocol controller₀ controller where
  accepts_eq buffer packet h := h₂.accepts_eq buffer packet (h₁.accepts_eq buffer packet h)
  timing_eq := h₂.timing_eq.trans h₁.timing_eq
  gain_eq := h₂.gain_eq.trans h₁.gain_eq
  offset_eq := h₂.offset_eq.trans h₁.offset_eq
  duration_eq := h₂.duration_eq.trans h₁.duration_eq

/-- Same clocks see a packet arrive at the same time. -/
lemma SameFollower.arrival_eq (h : SameFollower protocol controller₀ controller) (t0 : ℤ)
    (slot : UInt32) : controller.arrival t0 slot = controller₀.arrival t0 slot := by
  unfold FhssSyncController.arrival
  rw [h.duration_eq]

lemma arrival_add (delayUs : ℤ) (slot : UInt32) :
    controller.arrival (phaseUs + delayUs) slot = controller.arrival phaseUs slot + delayUs := by
  unfold FhssSyncController.arrival
  ring

/-- The next packet of a SYNC run is within the budget. -/
structure WithinDriftBudget (controller : FhssSyncController) (boundUs driftUs jitterUs : ℕ)
    (phaseUs : ℤ) (sync : DriftingSync protocol controller.core) : Prop where
  drift : (sync.phaseUs - phaseUs).natAbs ≤ driftUs
  jitter : sync.jitterUs.natAbs ≤ jitterUs
  observed_nonneg :
    controller.offset ≤ controller.arrival (sync.phaseUs + sync.jitterUs) sync.sync.slot
  expected_fits :
    controller.arrival sync.phaseUs sync.sync.slot + (boundUs + driftUs + jitterUs) ≤ int64Max

/-- Such a packet is inside the window. -/
lemma KeepsUp.readyFor (h : KeepsUp protocol controller₀ controller boundUs phaseUs)
    (hbudget : DriftBudget controller₀ boundUs driftUs jitterUs)
    {sync : DriftingSync protocol controller₀.core}
    (hsync : WithinDriftBudget protocol controller₀ boundUs driftUs jitterUs phaseUs sync)
    (hreference : controller.scheduler.referenceSlot.toNat ≤ sync.sync.slot.toNat) :
    ReadyFor controller (sync.phaseUs + sync.jitterUs) sync.sync.slot := by
  have hphase : controller.phaseError sync.phaseUs =
      controller.phaseError phaseUs + (sync.phaseUs - phaseUs) := by
    rw [← phaseError_add]
    congr 1
    ring
  have hwithin := h.within
  have hdrift := hsync.drift
  have hjitter := hsync.jitter
  have hobserved := hsync.observed_nonneg
  have hfits := hsync.expected_fits
  have hearly := hbudget.early
  have hlate := hbudget.late
  have hoffset := h.same.offset_eq
  have hoffset_nonneg : 0 ≤ controller.offset := Int.natCast_nonneg _
  have herror := @arrival_sub_expected controller sync.phaseUs sync.sync.slot
  rw [h.same.arrival_eq protocol] at herror
  refine ⟨h.ready, h.synchronized, hreference, ?_, ?_, ?_, ?_, ?_⟩
  · rw [h.same.timing_eq, phaseError_add]
    omega
  · rw [h.same.timing_eq, phaseError_add]
    omega
  · rw [h.same.arrival_eq protocol, hoffset]
    exact hobserved
  · rw [h.same.arrival_eq protocol, arrival_add]
    omega
  · omega

/-- **One SYNC packet**: it is accepted inside the window, and its correction makes up for the drift
since the last one. -/
lemma KeepsUp.step (h : KeepsUp protocol controller₀ controller boundUs phaseUs)
    (hgain : GainReady controller₀) (hbudget : DriftBudget controller₀ boundUs driftUs jitterUs)
    {sync : DriftingSync protocol controller₀.core}
    (hsync : WithinDriftBudget protocol controller₀ boundUs driftUs jitterUs phaseUs sync)
    (hreference : controller.scheduler.referenceSlot.toNat ≤ sync.sync.slot.toNat) :
    ∃ controller' result,
      receiveDriftingSync protocol controller sync = (controller', .ok result) ∧
      result.timing.result = .insideWindow ∧
      result.timing.timingErrorUs.natAbs ≤ boundUs + driftUs + jitterUs ∧
      InStep controller (boundUs + driftUs) sync.phaseUs ∧
      KeepsUp protocol controller₀ controller' boundUs sync.phaseUs ∧
      controller'.scheduler.referenceSlot.toNat ≤ sync.sync.slot.toNat := by
  have hphase : controller.phaseError sync.phaseUs =
      controller.phaseError phaseUs + (sync.phaseUs - phaseUs) := by
    rw [← phaseError_add]
    congr 1
    ring
  have hbefore : (controller.phaseError sync.phaseUs).natAbs ≤ boundUs + driftUs := by
    have hwithin := h.within
    have hdrift := hsync.drift
    omega
  obtain ⟨controller', result, hrun, htiming, hready, hsame, hsynchronized, hreference', hshift⟩ :=
    processRx_readyFor protocol (h.readyFor protocol hbudget hsync hreference)
      (h.same.accepts_eq _ _ sync.sync.accepted) rfl
  refine ⟨controller', result, hrun, by rw [htiming], ?_, inStep_iff.mpr hbefore,
    ⟨hready, h.same.trans protocol hsame, hsynchronized, ?_⟩, hreference'⟩
  · rw [htiming]
    dsimp only
    rw [phaseError_add]
    have hjitter := hsync.jitter
    omega
  · have hafter : controller'.phaseError sync.phaseUs = controller.phaseError sync.phaseUs -
        correction controller₀.gain (controller.phaseError sync.phaseUs + sync.jitterUs) := by
      have hzero := hshift 0
      rw [phaseError_add, h.same.gain_eq] at hzero
      unfold FhssSyncController.phaseError at hzero ⊢
      rw [hzero, hsame.offset_eq]
      ring
    rw [hafter]
    exact natAbs_follow_le _ hgain.deadband_le hbudget.jitter_le hbudget.drift_le hbefore
      hsync.jitter

/-- A run of SYNC packets. -/
lemma KeepsUp.staysLocked (h : KeepsUp protocol controller₀ controller boundUs phaseUs)
    (hgain : GainReady controller₀) (hbudget : DriftBudget controller₀ boundUs driftUs jitterUs)
    {syncs : List (DriftingSync protocol controller₀.core)}
    (hincreasing : (syncs.map fun sync => sync.sync.slot).Pairwise (· < ·))
    (hreference : ∀ sync ∈ syncs,
      controller.scheduler.referenceSlot.toNat ≤ sync.sync.slot.toNat)
    (hdrift : List.IsChain (fun phaseUs nextUs : ℤ => (nextUs - phaseUs).natAbs ≤ driftUs)
      (phaseUs :: syncs.map DriftingSync.phaseUs))
    (hsyncs : ∀ sync ∈ syncs, ∀ phaseUs, (sync.phaseUs - phaseUs).natAbs ≤ driftUs →
      WithinDriftBudget protocol controller₀ boundUs driftUs jitterUs phaseUs sync) :
    StaysLocked protocol boundUs driftUs jitterUs controller syncs := by
  induction syncs generalizing controller phaseUs with
  | nil => trivial
  | cons sync syncs ih =>
    rw [List.map_cons, List.pairwise_cons] at hincreasing
    rw [List.map_cons, List.isChain_cons_cons] at hdrift
    have hhead : sync ∈ sync :: syncs := List.mem_cons_self
    obtain ⟨controller', result, hrun, hinside, herror, hbefore, hafter, hreference'⟩ :=
      h.step protocol hgain hbudget (hsyncs sync hhead phaseUs hdrift.1) (hreference sync hhead)
    refine ⟨controller', result, hrun, hinside, herror, hbefore, inStep_iff.mpr hafter.within, ?_⟩
    refine ih hafter hincreasing.2 (fun sync' hsync' => ?_) hdrift.2 fun sync' hsync' => ?_
    · have hlt := hincreasing.1 _ (List.mem_map_of_mem hsync')
      exact hreference'.trans (UInt32.lt_iff_toNat_lt.mp hlt).le
    · exact hsyncs sync' (List.mem_cons_of_mem _ hsync')

/-- Every reachable controller has parameters that its initialisation accepts. -/
lemma gainReady_of_reachable
    (hreach : Reachable (controllerStep protocol) BuiltController controller) :
    GainReady controller := by
  obtain ⟨controller₀, calls, hbuilt, rfl⟩ := hreach
  have hready : ArithmeticReady (finalState (controllerStep protocol) controller₀ calls) :=
    @invariant_run _ _ _ (controllerStep protocol) ArithmeticReady
      (fun _ call h => arithmeticReady_step protocol h call) _ (arithmeticReady_of_built hbuilt)
      calls
  exact hready.gain

end Drift

/-- **The receiver stays locked.**  A synchronized controller that is in step with a peer receives
SYNC packets of it, in the order of their slots and with any gaps, while the clocks drift apart and
the timestamps are not exact.  As long as drift and jitter keep within a budget that fits the
controller, every packet is accepted inside the window and leaves the controller in step. -/
theorem fhssSyncController_staysLocked {controller : FhssSyncController}
    (hreach : Reachable (controllerStep protocol) BuiltController controller)
    (hsync : controller.scheduler.synchronized = true) {boundUs driftUs jitterUs : ℕ}
    (hbudget : DriftBudget controller boundUs driftUs jitterUs) {phaseUs : ℤ}
    (hstep : InStep controller boundUs phaseUs)
    {syncs : List (DriftingSync protocol controller.core)}
    (hdrifting : Drifting protocol controller boundUs driftUs jitterUs phaseUs syncs) :
    StaysLocked protocol boundUs driftUs jitterUs controller syncs := by
  have hready := controllerReady_of_reachable protocol hreach
  have hgain := gainReady_of_reachable protocol hreach
  have hkeeps : KeepsUp protocol controller controller boundUs phaseUs :=
    ⟨hready, .refl protocol controller, hsync, inStep_iff.mp hstep⟩
  refine hkeeps.staysLocked protocol hgain hbudget hdrifting.increasing (fun sync hmem => ?_)
    hdrifting.drift fun sync hmem phaseUs hdrift => ⟨hdrift, hdrifting.jitter sync hmem,
      hdrifting.observed_nonneg sync hmem, hdrifting.expected_fits sync hmem⟩
  exact UInt32.le_iff_toNat_le.mp (hdrifting.from_reference sync hmem)

/-- The SYNC packets of slots 3 and 7: the peer is a millisecond late at first, and four tenths more
at the second one, which is timestamped early. -/
def sampleDriftingSyncs : List (DriftingSync plainProtocol sampleSynchronized.core) :=
  [⟨sampleLateSyncs.1, 1001000, 60⟩, ⟨sampleLateSyncs.2, 1001400, -80⟩]

theorem fhssSyncController_staysLocked_drifting :
    StaysLocked plainProtocol 4000 500 100 sampleSynchronized sampleDriftingSyncs :=
  fhssSyncController_staysLocked plainProtocol reachable_sampleSynchronized (by decide)
    ⟨by decide, by decide, by decide, by decide⟩ (inStep_iff.mpr (by decide) :
      InStep sampleSynchronized 4000 1000900)
    ⟨by decide, by decide, by decide, by decide, by decide, by decide⟩

end FhssOtaRadio
