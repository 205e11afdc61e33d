import FhssOtaRadio.FhssCore.LockTrace
import FhssOtaRadio.FhssService.RecoveryBeforeLoss
import FhssOtaRadio.FhssService.RxCalls
import Mathlib.Data.List.Dedup

/-!
# One miss per slot (`rx_task` in `fhss_service.c`)

A turn of the loop waits for the slot behind the current one and listens on its channel from the
switch time on, which lies before the start of that slot.  A receive that fails before the start
leaves the clock in the same current slot, so the next turn waits for the same slot and may count
it as missed again.  The slots that are missed are distinct as long as no turn begins in the slot
before one that was missed (`FollowsClear`).
-/

namespace FhssOtaRadio

open Machine SlotClock

variable (protocol : OtaProtocol) (deriveHopSeed : Option (UInt32 → UInt32))

/-- The slot a turn waits for, when no session ends before it. -/
def waitedSlot (service : FhssService) (turn : RxTurn) : Option UInt32 :=
  if service.fsm = .searching then none
  else
    match fhssSlotSchedulerGetNextSwitchTime service.controller.scheduler turn.nowUs.toInt with
    | .error _ => none
    | .ok (nextSlot, _) =>
        if (drainRxDataUntil protocol deriveHopSeed service turn.drain).2.2 = true then none
        else some nextSlot

/-- A service and the slots it has waited for and counted as missed, oldest first. -/
structure SlotLog where
  service : FhssService
  waited : List UInt32
  missed : List UInt32

/-- A turn of the loop, with the slots. -/
def slotLogTurn (log : SlotLog) (turn : RxTurn) : SlotLog × List RxEvent :=
  let slot := (waitedSlot protocol deriveHopSeed log.service turn).toList
  let (service, events) := rxTaskTurn protocol deriveHopSeed log.service turn
  ({ service := service
     waited := log.waited ++ slot
     missed := log.missed ++ if .miss ∈ events then slot else [] }, events)

/-- An event that feeds a miss to the tracker: `handle_miss`, or a SYNC packet outside the timing
window. -/
def RxEvent.isMiss : RxEvent → Bool
  | .miss => true
  | .syncResult window => window != .insideWindow
  | _ => false

/-- A run against the slots it has waited for: no slot is missed twice, `rx_task` counts no more
misses than it has waited for slots, and beyond the `earlier` misses a loss takes `loss_count`
distinct slots, save the SYNC packets outside the window. -/
structure OneMissPerSlot (lossCount : UInt32) (earlier : ℕ) (log : SlotLog)
    (events : List RxEvent) : Prop where
  nodup : log.missed.Nodup
  subset : log.missed ⊆ log.waited
  misses_le : events.count .miss ≤ log.waited.dedup.length
  lost_le : .report .syncLost ∈ events → lossCount.toNat ≤
    earlier + log.missed.length + events.countP (fun event => event.isMiss && event != .miss)

/-- The service tracks or recovers at the top of the loop, and the turn does not begin in the slot
before one that it has already counted as missed. -/
def FollowsClear (log : SlotLog) (turn : RxTurn) : Prop :=
  (log.service.fsm = .tracking ∨ log.service.fsm = .recovery) ∧
    ∀ slot ∈ log.missed,
      ¬ (log.service.controller.predictedStart (slot.toNat - 1) ≤ turn.nowUs.toInt ∧
        turn.nowUs.toInt < log.service.controller.predictedStart slot.toNat)

-- The slots are taken from the list, not from all of `UInt32`.
instance (log : SlotLog) (turn : RxTurn) : Decidable (FollowsClear log turn) :=
  @instDecidableAnd _ _ inferInstance (List.decidableBAll _ _)

/-! ## The misses of the tracker -/

/-- A miss adds one to the misses in a row at most, and a loss means that they have reached the
limit. -/
lemma fhssSyncStateOnMiss_budget {tracker tracker' : FhssSyncStateTracker} {event : FhssSyncEvent}
    (hready : TrackerReady tracker) (h : fhssSyncStateOnMiss tracker = .ok (tracker', event)) :
    tracker'.config = tracker.config ∧
      tracker'.consecutiveMisses.toNat ≤ tracker.consecutiveMisses.toNat + 1 ∧
      (event = .lost →
        tracker.config.lossCount.toNat ≤ tracker.consecutiveMisses.toNat + 1) := by
  have hsucc := toNat_count_succ hready.misses_lt
  unfold fhssSyncStateOnMiss at h
  rw [if_neg (by simp [hready.initialized])] at h
  cases hstate : tracker.state with
  | searching =>
    rw [hstate] at h
    obtain ⟨rfl, rfl⟩ := Prod.mk.inj (Except.ok.inj h)
    exact ⟨rfl, Nat.le_succ _, by simp⟩
  | locked =>
    rw [hstate] at h
    dsimp only at h
    split_ifs at h with hloss
    · obtain ⟨rfl, rfl⟩ := Prod.mk.inj (Except.ok.inj h)
      rw [UInt32.le_iff_toNat_le, hsucc] at hloss
      exact ⟨rfl, Nat.zero_le _, fun _ => hloss⟩
    · obtain ⟨rfl, rfl⟩ := Prod.mk.inj (Except.ok.inj h)
      exact ⟨rfl, hsucc.le, by simp⟩

/-- The misses in a row of a service lie within a budget. -/
structure Budgeted (lossCount : UInt32) (budget : ℕ) (service : FhssService) : Prop where
  ready : ControllerReady service.controller
  config_eq : service.config.lossCount = lossCount
  tracker_eq : service.controller.core.syncTracker.config.lossCount = lossCount
  misses_le : service.controller.core.syncTracker.consecutiveMisses.toNat ≤ budget

/-- The misses in a row of a service lie within a budget and what the events add to it, and so
does the limit if the events report a loss. -/
structure WithinBudget (lossCount : UInt32) (budget : ℕ) (events : List RxEvent)
    (service : FhssService) : Prop where
  budgeted : Budgeted lossCount (budget + events.countP RxEvent.isMiss) service
  lost_le : .report .syncLost ∈ events →
    lossCount.toNat ≤ budget + events.countP RxEvent.isMiss

lemma WithinBudget.append {lossCount : UInt32} {budget : ℕ} {events events' : List RxEvent}
    {service service' : FhssService} (h : WithinBudget lossCount budget events service)
    (h' : WithinBudget lossCount (budget + events.countP RxEvent.isMiss) events' service') :
    WithinBudget lossCount budget (events ++ events') service' := by
  constructor
  · have hbudgeted := h'.budgeted
    rwa [Nat.add_assoc, ← List.countP_append] at hbudgeted
  · intro hlost
    rw [List.countP_append]
    rcases List.mem_append.mp hlost with hmem | hmem
    · have := h.lost_le hmem
      omega
    · have := h'.lost_le hmem
      omega

section Handlers

variable {lossCount : UInt32} {budget : ℕ} {service service' : FhssService}

/-- A step that touches neither the tracker nor the configuration. -/
lemma Budgeted.congr (h : Budgeted lossCount budget service)
    (hready : ControllerReady service'.controller) (hconfig : service'.config = service.config)
    (htracker : service'.controller.core.syncTracker = service.controller.core.syncTracker) :
    Budgeted lossCount budget service' where
  ready := hready
  config_eq := by rw [hconfig]; exact h.config_eq
  tracker_eq := by rw [htracker]; exact h.tracker_eq
  misses_le := by rw [htracker]; exact h.misses_le

/-- A step that records neither a miss nor a loss. -/
lemma Budgeted.quiet (h : Budgeted lossCount budget service) {events : List RxEvent}
    (hmiss : events.countP RxEvent.isMiss = 0) (hlost : .report .syncLost ∉ events) :
    WithinBudget lossCount budget events service :=
  ⟨by rwa [hmiss], fun hmem => absurd hmem hlost⟩

lemma syncTracker_clearReference (service : FhssService) :
    service.clearReference.controller.core.syncTracker =
        service.controller.core.syncTracker ∧
      service.clearReference.config = service.config := by
  unfold FhssService.clearReference
  cases fhssSlotSchedulerClearReference service.controller.scheduler with
  | error status => exact ⟨rfl, rfl⟩
  | ok scheduler => exact ⟨rfl, rfl⟩

lemma Budgeted.clearReference (h : Budgeted lossCount budget service) :
    Budgeted lossCount budget service.clearReference :=
  h.congr (controllerReady_clearReference h.ready) (syncTracker_clearReference service).2
    (syncTracker_clearReference service).1

/-- A receive that accepts no SYNC packet leaves the tracker alone; an accepted one takes a miss
from the budget when it lies outside the window. -/
lemma receiveOne_budget (h : Budgeted lossCount budget service) (receive : RadioReceive) :
    (∃ service' received, receiveOne protocol deriveHopSeed service receive =
        (service', received) ∧ (∀ result, received ≠ .ok result) ∧
        Budgeted lossCount budget service') ∨
    ∃ service' result, receiveOne protocol deriveHopSeed service receive =
        (service', .ok result) ∧ .miss ∉ (handleSyncResult service' result).2 ∧
      WithinBudget lossCount budget (handleSyncResult service' result).2
        (handleSyncResult service' result).1 := by
  rcases receiveOne_shape protocol deriveHopSeed h.ready receive with
    ⟨service', received, hreceive, hnotOk, hsame⟩ | ⟨syncTracker, scheduler, last, accumulated,
      result, hreceive, htracker, hscheduler, -, hupdate, -⟩
  · exact .inl ⟨service', received, hreceive, hnotOk,
      h.congr hsame.ready hsame.config_eq hsame.tracker_eq⟩
  refine .inr ⟨_, result, hreceive, ?_⟩
  have hready := h.ready.updated htracker hscheduler last accumulated
  -- What the packet takes from the budget.
  have htaken : syncTracker.config = service.controller.core.syncTracker.config ∧
      syncTracker.consecutiveMisses.toNat ≤
        budget + [RxEvent.syncResult result.timing.result].countP RxEvent.isMiss ∧
      (result.syncEvent = .lost → lossCount.toNat ≤
        budget + [RxEvent.syncResult result.timing.result].countP RxEvent.isMiss) := by
    by_cases hinside : result.timing.result = .insideWindow
    · rw [if_pos hinside] at hupdate
      obtain ⟨hconfig, hmisses, hlost, -⟩ := fhssSyncStateOnValid_misses hupdate
      rw [hmisses]
      exact ⟨hconfig, Nat.zero_le _, fun heq => absurd heq hlost⟩
    · rw [if_neg hinside] at hupdate
      obtain ⟨hconfig, hmisses, hlost⟩ :=
        fhssSyncStateOnMiss_budget h.ready.core_ready.tracker_ready hupdate
      have hone : [RxEvent.syncResult result.timing.result].countP RxEvent.isMiss = 1 := by
        simp [RxEvent.isMiss, hinside]
      have hle := h.misses_le
      rw [h.tracker_eq] at hlost
      rw [hone]
      exact ⟨hconfig, by omega, fun heq => by have := hlost heq; omega⟩
  obtain ⟨hconfig, hmisses, hlost⟩ := htaken
  have hbudgeted : Budgeted lossCount
      (budget + [RxEvent.syncResult result.timing.result].countP RxEvent.isMiss)
      { service with
        controller := service.controller.updated syncTracker scheduler last accumulated
        consecutiveSyncMisses := 0, recoveryProbeIndex := 0
        fsm := afterSync service.fsm result.timing.result } :=
    ⟨hready, h.config_eq, by rw [← h.tracker_eq, ← hconfig]; rfl, hmisses⟩
  unfold handleSyncResult
  rw [noteSyncResult_eq]
  dsimp only
  cases hevent : result.syncEvent with
  | none => exact ⟨by simp, hbudgeted, by simp⟩
  | acquired => exact ⟨by simp, hbudgeted.congr hbudgeted.ready rfl rfl, by simp⟩
  | lost =>
    exact ⟨by simp, hbudgeted.clearReference.congr hbudgeted.clearReference.ready rfl rfl,
      fun _ => hlost hevent⟩

/-- The channel and the probe do not matter to the budget. -/
lemma Budgeted.tuned (h : Budgeted lossCount budget service) (probe channel : UInt8) :
    Budgeted lossCount budget
      { service with recoveryProbeIndex := probe, currentChannel := channel } :=
  h.congr h.ready rfl rfl

/-- `handle_miss` takes one miss from the budget. -/
lemma handleMiss_budget (h : Budgeted lossCount budget service) :
    (handleMiss service).2.count .miss = 1 ∧
      WithinBudget lossCount budget (handleMiss service).2 (handleMiss service).1 := by
  obtain ⟨syncTracker, event, scheduler, hmiss, htracker, hscheduler, hcases⟩ :=
    handleMiss_cases h.ready
  obtain ⟨hconfig, hmisses, hlost⟩ :=
    fhssSyncStateOnMiss_budget h.ready.core_ready.tracker_ready hmiss
  have hle := h.misses_le
  rw [h.tracker_eq] at hlost
  have hbudgeted : ∀ state misses probe, Budgeted lossCount (budget + 1)
      (service.missed syncTracker scheduler state misses probe) :=
    fun state misses probe => ⟨h.ready.updated htracker hscheduler _ _, h.config_eq,
      by rw [← h.tracker_eq, ← hconfig]; rfl, hmisses.trans (by omega)⟩
  rcases hcases with ⟨hevent, -, hmissed⟩ | ⟨-, -, -, hmissed⟩ | ⟨-, -, -, -, hmissed⟩ |
    ⟨-, -, -, -, hmissed⟩
  · rw [hmissed]
    refine ⟨rfl, hbudgeted _ _ _, fun _ => ?_⟩
    have := hlost hevent
    change lossCount.toNat ≤ budget + 1
    omega
  · rw [hmissed]
    exact ⟨rfl, hbudgeted _ _ _, by simp⟩
  · rw [hmissed]
    exact ⟨rfl, hbudgeted _ _ _, by simp⟩
  · rw [hmissed]
    exact ⟨rfl, hbudgeted _ _ _, by simp⟩

/-- A core that was built has missed nothing. -/
lemma fhssCoreInit_tracker {config : FhssCoreConfig} {core : FhssCore}
    (h : fhssCoreInit config = .ok core) :
    core.syncTracker.consecutiveMisses = 0 ∧ core.syncTracker.config = config.sync := by
  obtain ⟨-, hsync, -, -⟩ := fhssCoreInit_ok h
  unfold fhssSyncStateInit at hsync
  split_ifs at hsync
  rw [← Except.ok.inj hsync]
  exact ⟨rfl, rfl⟩

/-- The end of a session begins anew with no misses. -/
lemma handleSessionEnd_budget (h : Budgeted lossCount budget service) (selected : Bool) :
    .miss ∉ (handleSessionEnd service selected).2.1 ∧
      WithinBudget lossCount budget (handleSessionEnd service selected).2.1
        (handleSessionEnd service selected).1 := by
  rcases handleSessionEnd_cases service selected with
    ⟨-, hended⟩ | ⟨controller, channel, ok, hbuilt, hended⟩
  · rw [hended]
    have hkept : Budgeted lossCount budget { service with fsm := fhssFsmInit } :=
      h.congr h.ready rfl rfl
    exact ⟨by simp, hkept.quiet rfl (by simp)⟩
  rw [hended]
  obtain ⟨hready, -, hcore⟩ := controllerReady_init hbuilt
  obtain ⟨hmisses, hconfig⟩ := fhssCoreInit_tracker hcore
  have hfresh : Budgeted lossCount budget
      { service with
        controller := controller, haveDerivedPublicSeed := false, fsm := .searching
        currentChannel := channel, consecutiveSyncMisses := 0, recoveryProbeIndex := 0 } :=
    ⟨hready, h.config_eq, by rw [← h.config_eq, hconfig]; rfl, by rw [hmisses]; exact Nat.zero_le _⟩
  cases ok with
  | false => exact ⟨by simp, hfresh.quiet rfl (by simp)⟩
  | true => exact ⟨by simp, hfresh.quiet rfl (by simp)⟩

/-- Draining the data of a slot counts no miss of its own. -/
lemma drainRxDataUntil_budget (turns : List RadioTurn) :
    ∀ {budget : ℕ} {service : FhssService}, Budgeted lossCount budget service →
      .miss ∉ (drainRxDataUntil protocol deriveHopSeed service turns).2.1 ∧
        WithinBudget lossCount budget (drainRxDataUntil protocol deriveHopSeed service turns).2.1
          (drainRxDataUntil protocol deriveHopSeed service turns).1 := by
  induction turns with
  | nil => exact fun h => ⟨List.not_mem_nil, h.quiet rfl List.not_mem_nil⟩
  | cons turn turns ih =>
    intro budget service h
    unfold drainRxDataUntil
    rcases receiveOne_budget protocol deriveHopSeed h turn.receive with
      ⟨service', received, hreceive, hnotOk, hbudgeted⟩ | ⟨service', result, hreceive, hmiss,
        hwithin⟩
    · rw [hreceive]
      cases received with
      | ok result => exact absurd rfl (hnotOk result)
      | timeout => exact ih hbudgeted
      | crcFail => exact ih hbudgeted
      | data => exact ih hbudgeted
      | radioError => exact ⟨List.not_mem_nil, hbudgeted.quiet rfl List.not_mem_nil⟩
      | syncError => exact ⟨List.not_mem_nil, hbudgeted.quiet rfl List.not_mem_nil⟩
      | sessionEnd => exact handleSessionEnd_budget hbudgeted turn.selected
    · rw [hreceive]
      obtain ⟨hmiss', hwithin'⟩ := ih hwithin.budgeted
      exact ⟨List.not_mem_append hmiss hmiss', hwithin.append hwithin'⟩

/-- The last receive of a turn counts one miss at most. -/
lemma handleReceive_budget (h : Budgeted lossCount budget service) (turn : RadioTurn) :
    (handleReceive protocol deriveHopSeed service turn).2.count .miss ≤ 1 ∧
      WithinBudget lossCount budget (handleReceive protocol deriveHopSeed service turn).2
        (handleReceive protocol deriveHopSeed service turn).1 := by
  unfold handleReceive
  rcases receiveOne_budget protocol deriveHopSeed h turn.receive with
    ⟨service', received, hreceive, hnotOk, hbudgeted⟩ | ⟨service', result, hreceive, hmiss,
      hwithin⟩
  · rw [hreceive]
    have hmissed : (handleMiss service').2.count .miss ≤ 1 ∧
        WithinBudget lossCount budget (handleMiss service').2 (handleMiss service').1 :=
      ⟨(handleMiss_budget hbudgeted).1.le, (handleMiss_budget hbudgeted).2⟩
    cases received with
    | ok result => exact absurd rfl (hnotOk result)
    | timeout => exact hmissed
    | crcFail => exact hmissed
    | data => exact ⟨Nat.zero_le _, hbudgeted.quiet rfl List.not_mem_nil⟩
    | radioError => exact ⟨Nat.zero_le _, hbudgeted.quiet rfl (by simp)⟩
    | syncError =>
      change (handleInvalidSync service').2.count .miss ≤ 1 ∧
        WithinBudget lossCount budget (handleInvalidSync service').2 (handleInvalidSync service').1
      unfold handleInvalidSync
      split_ifs
      · exact hmissed
      · exact ⟨Nat.zero_le _, hbudgeted.quiet rfl List.not_mem_nil⟩
    | sessionEnd =>
      obtain ⟨hmiss, hwithin⟩ := handleSessionEnd_budget hbudgeted turn.selected
      exact ⟨(List.count_eq_zero.mpr hmiss).le.trans (Nat.zero_le _), hwithin⟩
  · rw [hreceive]
    exact ⟨(List.count_eq_zero.mpr hmiss).le.trans (Nat.zero_le _), hwithin⟩

/-- A turn counts as many misses as it adds to the missed slots. -/
lemma rxTaskTurn_budget (h : Budgeted lossCount budget service) (turn : RxTurn) :
    (rxTaskTurn protocol deriveHopSeed service turn).2.count .miss =
        (if .miss ∈ (rxTaskTurn protocol deriveHopSeed service turn).2 then
          (waitedSlot protocol deriveHopSeed service turn).toList else []).length ∧
      WithinBudget lossCount budget (rxTaskTurn protocol deriveHopSeed service turn).2
        (rxTaskTurn protocol deriveHopSeed service turn).1 := by
  -- No miss, or one in a turn that waits.
  suffices hturn : ((rxTaskTurn protocol deriveHopSeed service turn).2.count .miss = 0 ∨
      (rxTaskTurn protocol deriveHopSeed service turn).2.count .miss ≤ 1 ∧
        ∃ slot, waitedSlot protocol deriveHopSeed service turn = some slot) ∧
      WithinBudget lossCount budget (rxTaskTurn protocol deriveHopSeed service turn).2
        (rxTaskTurn protocol deriveHopSeed service turn).1 by
    refine ⟨?_, hturn.2⟩
    rcases hturn.1 with hzero | ⟨hone, slot, hslot⟩
    · rw [hzero, if_neg (List.count_eq_zero.mp hzero)]
      rfl
    · rw [hslot]
      split_ifs with hmiss
      · have hpos := List.count_pos_iff.mpr hmiss
        exact le_antisymm hone hpos
      · exact List.count_eq_zero.mpr hmiss
  have houtcome := rxTaskTurn_outcome protocol deriveHopSeed service turn
  obtain ⟨hmiss, hwithin⟩ := drainRxDataUntil_budget protocol deriveHopSeed turn.drain h
  unfold waitedSlot
  generalize rxTaskTurn protocol deriveHopSeed service turn = outcome at houtcome ⊢
  cases houtcome with
  | searchUnselected =>
    have htuned := h.tuned service.recoveryProbeIndex
    exact ⟨.inl rfl, (htuned _).quiet rfl (by simp)⟩
  | searched channel _ _ hok hquiet =>
    have htuned := h.tuned service.recoveryProbeIndex channel
    rcases receiveOne_budget protocol deriveHopSeed htuned turn.last.receive with
      ⟨service', received, hreceive, hnotOk, hbudgeted⟩ | ⟨service', result, hreceive, hmiss,
        hwithin⟩
    · rw [hquiet hreceive hnotOk]
      exact ⟨.inl rfl, hbudgeted.quiet rfl List.not_mem_nil⟩
    · rw [hok hreceive]
      exact ⟨.inl (List.count_eq_zero.mpr hmiss), hwithin⟩
  | noNextSlot =>
    have hlost : Budgeted lossCount budget (service.handle .syncLost) := h.congr h.ready rfl rfl
    exact ⟨.inl rfl, hlost.clearReference.quiet rfl List.not_mem_nil⟩
  | drained service' _ _ hdrain =>
    rw [hdrain] at hmiss hwithin
    exact ⟨.inl (List.count_eq_zero.mpr hmiss), hwithin⟩
  | unselected service' events probe channel _ _ hdrain =>
    rw [hdrain] at hmiss hwithin
    have htuned := hwithin.budgeted.tuned probe channel
    have hdrained : WithinBudget lossCount budget events _ := ⟨htuned, hwithin.lost_le⟩
    refine ⟨.inl ?_, hdrained.append (htuned.quiet rfl (by simp))⟩
    rw [List.count_append, List.count_eq_zero.mpr hmiss]
    rfl
  | received service' events probe channel hnot hswitch hdrain =>
    rw [hdrain] at hmiss hwithin
    have htuned := hwithin.budgeted.tuned probe channel
    have hdrained : WithinBudget lossCount budget events _ := ⟨htuned, hwithin.lost_le⟩
    obtain ⟨hone, hreceived⟩ := handleReceive_budget protocol deriveHopSeed htuned turn.last
    rw [if_neg hnot, hswitch]
    dsimp only
    rw [hdrain]
    refine ⟨.inr ⟨?_, _, if_neg (by simp)⟩, hdrained.append hreceived⟩
    rw [List.count_append, List.count_eq_zero.mpr hmiss, Nat.zero_add]
    exact hone

end Handlers

/-! ## Runs -/

/-- Only a synchronized scheduler has a next slot. -/
lemma synchronized_of_getNextSwitchTime {scheduler : FhssSlotScheduler} {nowUs : ℤ}
    {next : UInt32 × ℤ}
    (h : fhssSlotSchedulerGetNextSwitchTime scheduler nowUs = .ok next) :
    scheduler.synchronized = true := by
  by_contra hsync
  unfold fhssSlotSchedulerGetNextSwitchTime fhssSlotSchedulerGetSlot validateScheduler at h
  by_cases hinit : scheduler.initialized = false
  · rw [if_pos hinit] at h
    cases h
  · rw [if_neg hinit, if_pos (by simpa using hsync)] at h
    cases h

/-- A turn begins in the slot before the one it waits for. -/
lemma waitedSlot_between {service : FhssService} (hready : ControllerReady service.controller)
    {turn : RxTurn} {slot : UInt32}
    (hslot : waitedSlot protocol deriveHopSeed service turn = some slot) :
    service.controller.predictedStart (slot.toNat - 1) ≤ turn.nowUs.toInt ∧
      turn.nowUs.toInt < service.controller.predictedStart slot.toNat := by
  unfold waitedSlot at hslot
  by_cases hsearching : service.fsm = .searching
  · rw [if_pos hsearching] at hslot
    cases hslot
  rw [if_neg hsearching] at hslot
  cases hnext : fhssSlotSchedulerGetNextSwitchTime service.controller.scheduler
      turn.nowUs.toInt with
  | error status =>
    rw [hnext] at hslot
    cases hslot
  | ok next =>
    obtain ⟨nextSlot, switchTimeUs⟩ := next
    rw [hnext] at hslot
    dsimp only at hslot
    split_ifs at hslot
    cases hslot
    have hsync := synchronized_of_getNextSwitchTime hnext
    obtain ⟨-, hsucc, -⟩ := (getNextSwitchTime_eq_ok_iff hready.scheduler_ready hsync
      turn.nowUs.toInt slot).mp ⟨switchTimeUs, hnext⟩
    have hpos := hready.scheduler_ready.duration_pos
    unfold FhssSyncController.predictedStart
    rw [← not_le, slotStart_le_iff hpos, slotStart_le_iff hpos]
    omega

/-- A run up to here, with what it has recorded. -/
structure SlotLogInv (lossCount : UInt32) (earlier : ℕ) (log : SlotLog)
    (events : List RxEvent) : Prop where
  nodup : log.missed.Nodup
  subset : log.missed ⊆ log.waited
  count_eq : events.count .miss = log.missed.length
  within : WithinBudget lossCount earlier events log.service

/-- A turn that begins clear of the missed slots misses another one. -/
lemma slotLogInv_turn {lossCount : UInt32} {earlier : ℕ} {log : SlotLog} {events : List RxEvent}
    (h : SlotLogInv lossCount earlier log events) {turn : RxTurn} (hclear : FollowsClear log turn) :
    SlotLogInv lossCount earlier (slotLogTurn protocol deriveHopSeed log turn).1
      (events ++ (slotLogTurn protocol deriveHopSeed log turn).2) := by
  obtain ⟨hcount, hwithin⟩ :=
    rxTaskTurn_budget protocol deriveHopSeed h.within.budgeted turn
  have hfresh : ∀ slot ∈ (waitedSlot protocol deriveHopSeed log.service turn).toList,
      slot ∉ log.missed := by
    intro slot hslot hmissed
    exact hclear.2 slot hmissed (waitedSlot_between protocol deriveHopSeed
      h.within.budgeted.ready (Option.mem_toList.mp hslot))
  have hnodup : (waitedSlot protocol deriveHopSeed log.service turn).toList.Nodup := by
    cases waitedSlot protocol deriveHopSeed log.service turn with
    | none => exact List.nodup_nil
    | some slot => exact List.nodup_singleton slot
  unfold slotLogTurn
  dsimp only
  generalize (waitedSlot protocol deriveHopSeed log.service turn).toList = slot
    at hcount hfresh hnodup ⊢
  refine ⟨?_, ?_, ?_, h.within.append hwithin⟩
  · split_ifs
    · exact List.nodup_append.mpr ⟨h.nodup, hnodup, fun missed hmissed other hother heq =>
        hfresh other hother (heq ▸ hmissed)⟩
    · rw [List.append_nil]
      exact h.nodup
  · refine List.append_subset.mpr ⟨fun missed hmissed =>
      List.mem_append_left _ (h.subset hmissed), ?_⟩
    split_ifs
    · exact List.subset_append_right _ _
    · exact List.nil_subset _
  · rw [List.count_append, List.length_append, h.count_eq, hcount]

/-- Every guarded run is one miss per slot. -/
lemma slotLogInv_run {lossCount : UInt32} {earlier : ℕ} (turns : List RxTurn) :
    ∀ {log : SlotLog} {events : List RxEvent}, SlotLogInv lossCount earlier log events →
      Guarded (slotLogTurn protocol deriveHopSeed) FollowsClear log turns →
      SlotLogInv lossCount earlier (finalState (slotLogTurn protocol deriveHopSeed) log turns)
        (events ++ (outputs (slotLogTurn protocol deriveHopSeed) log turns).flatten) := by
  induction turns with
  | nil =>
    intro log events h _
    rwa [outputs_nil, List.flatten_nil, List.append_nil]
  | cons turn turns ih =>
    intro log events h hguard
    have hturn := slotLogInv_turn protocol deriveHopSeed h hguard.1
    have hrest := ih hturn hguard.2
    rwa [List.append_assoc] at hrest

/-- The misses of the tracker are those of `handle_miss` and the SYNC packets outside the
window. -/
lemma countP_isMiss (events : List RxEvent) : events.countP RxEvent.isMiss =
    events.count .miss + events.countP (fun event => event.isMiss && event != .miss) := by
  induction events with
  | nil => rfl
  | cons event events ih =>
    rw [List.countP_cons, List.count_cons, List.countP_cons, ih]
    by_cases hmiss : event = .miss
    · rw [hmiss]
      simp [RxEvent.isMiss]
      omega
    · simp [hmiss]
      omega

/-- What a run has recorded is one miss per slot. -/
lemma SlotLogInv.oneMissPerSlot {lossCount : UInt32} {earlier : ℕ} {log : SlotLog}
    {events : List RxEvent} (h : SlotLogInv lossCount earlier log events) :
    OneMissPerSlot lossCount earlier log events := by
  refine ⟨h.nodup, h.subset, ?_, ?_⟩
  · rw [h.count_eq]
    have hsubset : log.missed ⊆ log.waited.dedup := fun slot hslot =>
      List.mem_dedup.mpr (h.subset hslot)
    exact (List.subperm_of_subset h.nodup hsubset).length_le
  · intro hlost
    have hle := h.within.lost_le hlost
    rw [countP_isMiss, h.count_eq] at hle
    omega

/-- Every service `rx_task` reaches has its misses as a budget. -/
lemma budgeted_reached {service : FhssService} (hentry : RxTaskEntry service)
    (turns : List RxTurn) :
    let reached := finalState (rxTaskTurn protocol deriveHopSeed) service turns
    Budgeted reached.config.lossCount reached.controller.core.syncTracker.consecutiveMisses.toNat
      reached := by
  have hfresh := freshRxSession_of_entry hentry
  obtain ⟨hready, -, hcore⟩ := controllerReady_init hfresh.built
  obtain ⟨hmisses, hconfig⟩ := fhssCoreInit_tracker hcore
  have hstart : Budgeted service.config.lossCount 0 service :=
    ⟨hready, rfl, by rw [hconfig]; rfl, by rw [hmisses]; exact le_refl _⟩
  have hstep : ∀ (reached : FhssService) (turn : RxTurn),
      (∃ budget, Budgeted service.config.lossCount budget reached) →
      ∃ budget, Budgeted service.config.lossCount budget
        (rxTaskTurn protocol deriveHopSeed reached turn).1 := by
    rintro reached turn ⟨budget, hbudgeted⟩
    exact ⟨_, (rxTaskTurn_budget protocol deriveHopSeed hbudgeted turn).2.budgeted⟩
  obtain ⟨budget, hreached⟩ :=
    invariant_run (rxTaskTurn protocol deriveHopSeed) hstep ⟨0, hstart⟩ turns
  exact ⟨hreached.ready, rfl, hreached.tracker_eq.trans hreached.config_eq.symm, le_refl _⟩

/-- A packet whose CRC fails. -/
def sampleCrcFail (nowUs : Int64) : RxTurn :=
  ⟨nowUs, [], true, ⟨.packet false [] nowUs none .continue, true⟩⟩

end FhssOtaRadio
