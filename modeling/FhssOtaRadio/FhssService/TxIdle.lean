import FhssOtaRadio.FhssService.TxQueue

/-!
# What an idle TX queue tells (`fhss_service.c`)

`fhss_service_wait_tx_idle` takes an empty queue and a clear `tx_in_flight`, read one after the
other, for the end of all transmissions.  A packet that the task has taken out and not yet flagged
shows in neither, and a packet put back between the two readings shows too late.
-/

namespace FhssOtaRadio

open Machine RetryLog

/-- The places of the task at which `tx_in_flight` is set. -/
def TxTaskPc.flagged : TxTaskPc → Bool
  | .sending _ _ => true
  | .failed _ => true
  | .finishing => true
  | _ => false

/-- The task holds a packet that it has not flagged yet. -/
def TxTaskPc.holdsUnflagged : TxTaskPc → Bool
  | .received _ => true
  | .puttingBack _ => true
  | .starting _ _ => true
  | _ => false

/-- When a poll finds the flag clear, the task holds no unflagged packet and none has been put
back since the poll saw the queue empty; and a packet that is put back finds room. -/
def IdleIsSeen (s : TxQueue) : TxQueueLabel → Prop
  | .pollFlag =>
      match s.waiter with
      | .sawEmpty _ _ putBack =>
          s.txInFlight = false → s.task.holdsUnflagged = false ∧ putBack = false
      | _ => True
  | label => RoomToPutBack s label

instance (s : TxQueue) (label : TxQueueLabel) : Decidable (IdleIsSeen s label) := by
  unfold IdleIsSeen
  split
  · split <;> infer_instance
  · infer_instance

/-- A call that has returned `true` had everything accepted before it transmitted: the radio is
done with those packets, and what is left was accepted later. -/
def IdleMeansTransmitted (s : TxQueue) : Prop :=
  ∀ before, s.waiter = .returned before true →
    s.accepted.take before <+: finished s.attempts ∧
      s.task.held ++ s.queue <:+ s.accepted.drop before

/-- The number of packets the radio is done with. -/
def TxQueue.done (s : TxQueue) : ℕ := (finished s.attempts).length

/-- What a waiter may rely on, from where it is. -/
def WaiterCounts (s : TxQueue) : TxWaiter → Prop
  | .none => True
  | .polling before _ => before ≤ s.accepted.length
  | .sawEmpty before _ putBack =>
      before ≤ s.accepted.length ∧ before ≤ s.done + s.task.held.length + putBack.toNat ∧
        (putBack = true → s.task.held = [])
  | .returned before idle => idle = true → before ≤ s.done

/-- The invariant of guarded runs. -/
structure WaitInv (s : TxQueue) : Prop where
  noLoss : NoLoss s
  flag : s.txInFlight = s.task.flagged
  waiter : WaiterCounts s s.waiter

section

variable {s : TxQueue}

/-- The accepted packets, counted where they are. -/
lemma NoLoss.length_accepted (h : NoLoss s) :
    s.accepted.length = s.done + (s.task.held.length + s.queue.length) := by
  have hlength := Passes.length_eq h
  rwa [List.length_append] at hlength

/-- The invariant gives the result of the wait its meaning. -/
lemma WaitInv.idleMeansTransmitted (h : WaitInv s) : IdleMeansTransmitted s := by
  intro before hreturned
  have hcounts := h.waiter
  rw [hreturned] at hcounts
  have hbefore : before ≤ (finished s.attempts).length := hcounts rfl
  rw [Passes.items_eq h.noLoss]
  constructor
  · rw [List.take_append_of_le_length hbefore]
    exact List.take_prefix _ _
  · rw [List.drop_append_of_le_length hbefore]
    exact List.suffix_append _ _

/-- A waiter that stays where it is may rely on as much when nothing it counts shrinks. -/
lemma WaiterCounts.mono {s' : TxQueue} {waiter : TxWaiter} (h : WaiterCounts s waiter)
    (haccepted : s.accepted.length ≤ s'.accepted.length) (hdone : s.done ≤ s'.done)
    (hheld : s.done + s.task.held.length ≤ s'.done + s'.task.held.length)
    (hempty : s.task.held = [] → s'.task.held = []) : WaiterCounts s' waiter := by
  cases waiter with
  | none => trivial
  | polling before last => exact Nat.le_trans h haccepted
  | sawEmpty before last putBack =>
    obtain ⟨hbefore, hcount, hnone⟩ := h
    exact ⟨by omega, by omega, fun hputBack => hempty (hnone hputBack)⟩
  | returned before idle => exact fun hidle => Nat.le_trans (h hidle) hdone

/-- A guarded step finds room for what it puts back. -/
lemma IdleIsSeen.roomToPutBack {label : TxQueueLabel} (h : IdleIsSeen s label) :
    RoomToPutBack s label := by
  cases label with
  | pollFlag => trivial
  | _ => exact h

/-- The waiter may rely on as much after the task has taken a packet. -/
lemma WaiterCounts.receive {s' : TxQueue} {waiter : TxWaiter} (h : WaiterCounts s waiter)
    (haccepted : s'.accepted = s.accepted) (hdone : s'.done = s.done)
    (hbefore : s.task.held = []) (hheld : s'.task.held.length = 1) :
    WaiterCounts s' waiter.afterReceive := by
  cases waiter with
  | none => trivial
  | polling before last =>
    change before ≤ s'.accepted.length
    rw [haccepted]
    exact h
  | sawEmpty before last putBack =>
    obtain ⟨haccept, hcount, -⟩ := h
    have hle := Bool.toNat_le putBack
    rw [hbefore, List.length_nil] at hcount
    refine ⟨haccepted ▸ haccept, ?_, fun hputBack => by cases hputBack⟩
    rw [hdone, hheld, Bool.toNat_false]
    omega
  | returned before idle => exact fun hidle => hdone ▸ h hidle

/-- The waiter may rely on as much after the task has put a packet back. -/
lemma WaiterCounts.putBack {s' : TxQueue} {waiter : TxWaiter} (h : WaiterCounts s waiter)
    (haccepted : s'.accepted = s.accepted) (hdone : s'.done = s.done)
    (hbefore : s.task.held.length = 1) (hheld : s'.task.held = []) :
    WaiterCounts s' waiter.afterPutBack := by
  cases waiter with
  | none => trivial
  | polling before last =>
    change before ≤ s'.accepted.length
    rw [haccepted]
    exact h
  | sawEmpty before last putBack =>
    obtain ⟨haccept, hcount, hnone⟩ := h
    have hfalse : putBack = false := by
      by_contra hne
      have hempty := hnone (by simpa using hne)
      rw [hempty] at hbefore
      cases hbefore
    rw [hfalse, hbefore, Bool.toNat_false] at hcount
    refine ⟨haccepted ▸ haccept, ?_, fun _ => hheld⟩
    rw [hdone, hheld, Bool.toNat_true, List.length_nil]
    omega
  | returned before idle => exact fun hidle => hdone ▸ h hidle

/-- A step that keeps what the task holds, and the history, keeps what the waiter relies on. -/
lemma WaiterCounts.of_same {s' : TxQueue} {waiter : TxWaiter} (h : WaiterCounts s waiter)
    (haccepted : s'.accepted = s.accepted) (hattempts : s'.attempts = s.attempts)
    (hheld : s'.task.held = s.task.held) : WaiterCounts s' waiter := by
  have hdone : s'.done = s.done := by
    unfold TxQueue.done
    rw [hattempts]
  refine h.mono (le_of_eq ?_) (le_of_eq hdone.symm) (le_of_eq ?_) fun hempty => ?_
  · rw [haccepted]
  · rw [hdone, hheld]
  · rw [hheld]
    exact hempty

/-- A task that holds no unflagged packet while the flag is clear holds none. -/
lemma held_of_clear (hflag : s.txInFlight = s.task.flagged) (hclear : s.txInFlight = false)
    (hunflagged : s.task.holdsUnflagged = false) : s.task.held = [] := by
  rw [hclear] at hflag
  cases htask : s.task with
  | outside => rfl
  | finishing => rfl
  | received item => simp [htask, TxTaskPc.holdsUnflagged] at hunflagged
  | puttingBack item => simp [htask, TxTaskPc.holdsUnflagged] at hunflagged
  | starting item response => simp [htask, TxTaskPc.holdsUnflagged] at hunflagged
  | sending item response => simp [htask, TxTaskPc.flagged] at hflag
  | failed item => simp [htask, TxTaskPc.flagged] at hflag

/-- A guarded poll moves the waiter to where it may rely on as much. -/
lemma WaiterCounts.waited (h : WaitInv s) {label : TxQueueLabel} (hok : IdleIsSeen s label)
    {waiter : TxWaiter} (hwaits : TxWaiterOutcome s label waiter) : WaiterCounts s waiter := by
  have hcounts := h.waiter
  cases hwaits with
  | refused => exact fun hidle => by cases hidle
  | polls => exact le_rfl
  | sawEmpty hwaiter hqueue =>
    rw [hwaiter] at hcounts
    refine ⟨hcounts, ?_, fun hputBack => by cases hputBack⟩
    have hlength := h.noLoss.length_accepted
    rw [hqueue, List.length_nil] at hlength
    exact hcounts.trans (le_of_eq hlength)
  | gaveUp => exact fun hidle => by cases hidle
  | sawIdle hwaiter hclear =>
    rw [hwaiter] at hcounts
    unfold IdleIsSeen at hok
    rw [hwaiter] at hok
    obtain ⟨hunflagged, rfl⟩ := hok hclear
    obtain ⟨-, hcount, -⟩ := hcounts
    rw [held_of_clear h.flag hclear hunflagged] at hcount
    exact fun _ => hcount
  | @sawBusy before last putBack hwaiter hset =>
    rw [hwaiter] at hcounts
    cases last with
    | true => exact fun hidle => by cases hidle
    | false => exact hcounts.1
  | timedOut hwaiter =>
    rw [hwaiter] at hcounts
    exact hcounts

/-- The flag goes with the place of the task. -/
lemma flag_of_outcome (hflag : s.txInFlight = s.task.flagged) {label : TxQueueLabel}
    {s' : TxQueue} (houtcome : TxQueueOutcome s label s') : s'.txInFlight = s'.task.flagged := by
  have hended : s.task = .outside → false = s.task.flagged := by
    intro houtside
    rw [houtside]
    rfl
  cases houtcome with
  | unchanged => exact hflag
  | accepted data => exact hflag
  | received houtside _ htask =>
    rw [houtside] at hflag
    rcases htask with ⟨-, rfl⟩ | ⟨-, rfl⟩ <;> exact hflag
  | guardChecked reached hreceived htask =>
    rw [hreceived] at hflag
    rcases htask with ⟨-, rfl⟩ | ⟨-, rfl⟩ <;> exact hflag
  | putBack htask =>
    rcases htask with ⟨htask, rfl⟩ | ⟨htask, rfl⟩ <;>
    · rw [htask] at hflag
      exact hflag
  | flagSet => rfl
  | kept hsending =>
    rw [hsending] at hflag
    exact hflag
  | done hsending =>
    rw [hsending] at hflag
    exact hflag
  | flagCleared => rfl
  | roleTx houtside => exact hended houtside
  | roleRx houtside => exact hended houtside
  | paused houtside => exact hended houtside
  | waited => exact hflag

/-- After a guarded step the waiter may rely on as much as before, or on what it has just seen. -/
lemma waiterCounts_of_outcome (h : WaitInv s) {label : TxQueueLabel} (hok : IdleIsSeen s label)
    {s' : TxQueue} (houtcome : TxQueueOutcome s label s') : WaiterCounts s' s'.waiter := by
  cases houtcome with
  | unchanged => exact h.waiter
  | accepted data => exact h.waiter.mono (by simp) le_rfl le_rfl id
  | received houtside _ htask =>
    refine h.waiter.receive rfl rfl (by rw [houtside]; rfl) ?_
    rcases htask with ⟨-, rfl⟩ | ⟨-, rfl⟩ <;> rfl
  | guardChecked reached hreceived htask =>
    refine h.waiter.of_same rfl rfl ?_
    rw [hreceived]
    rcases htask with ⟨-, rfl⟩ | ⟨-, rfl⟩ <;> rfl
  | putBack htask =>
    rcases htask with ⟨htask, rfl⟩ | ⟨htask, rfl⟩ <;>
    · exact h.waiter.putBack rfl rfl (by rw [htask]; rfl) rfl
  | flagSet hstarting =>
    refine h.waiter.of_same rfl rfl ?_
    rw [hstarting]
    rfl
  | @kept item hsending =>
    have hheld : s.task.held = [item] := by
      rw [hsending]
      rfl
    refine h.waiter.mono le_rfl ?_ ?_ fun hnone => ?_
    · simp [TxQueue.done]
    · change s.done + s.task.held.length ≤
        (finished (s.attempts ++ [(item, false)])).length + [item].length
      simp [TxQueue.done, hheld]
    · rw [hheld] at hnone
      cases hnone
  | @done item response ok hsending =>
    have hheld : s.task.held = [item] := by
      rw [hsending]
      rfl
    refine h.waiter.mono le_rfl ?_ ?_ fun _ => rfl
    · simp [TxQueue.done]
    · change s.done + s.task.held.length ≤ (finished (s.attempts ++ [(item, true)])).length
      simp [TxQueue.done, hheld]
  | flagCleared hfinishing =>
    refine h.waiter.of_same rfl rfl ?_
    rw [hfinishing]
    rfl
  | roleTx => trivial
  | roleRx => trivial
  | paused => trivial
  | waited hwaits =>
    have hcounts := WaiterCounts.waited h hok hwaits
    exact hcounts.of_same rfl rfl rfl

/-- A guarded step keeps the invariant. -/
lemma waitInv_txQueueStep (h : WaitInv s) {label : TxQueueLabel} (hok : IdleIsSeen s label) :
    WaitInv (txQueueStep s label).1 := by
  have houtcome := txQueueStep_outcome s label
  exact ⟨(noLoss_txQueueStep h.noLoss label).mpr hok.roomToPutBack,
    flag_of_outcome h.flag houtcome, waiterCounts_of_outcome h hok houtcome⟩

end

/-- In every run from an initialized service in which every poll that finds the flag clear does so
while the task holds no unflagged packet and nothing was put back since the queue was seen empty,
and in which every packet put back finds room, a wait that returned `true` had every packet
accepted before it transmitted. -/
theorem fhssServiceWaitTxIdle_transmitted (role : FhssServiceRole) {labels : List TxQueueLabel}
    (h : Guarded txQueueStep IdleIsSeen (txQueueInit role) labels) :
    IdleMeansTransmitted (finalState txQueueStep (txQueueInit role) labels) := by
  have hinit : WaitInv (txQueueInit role) := ⟨rfl, rfl, trivial⟩
  have hinv : WaitInv (finalState txQueueStep (txQueueInit role) labels) :=
    @invariant_finalState _ _ _ txQueueStep WaitInv IdleIsSeen
      (fun s label hs hok => waitInv_txQueueStep hs hok) _ hinit labels h
  exact hinv.idleMeansTransmitted

/-- A packet is accepted and transmitted, and a wait sees the queue empty and the flag clear. -/
def transmittedPacket : List TxQueueLabel :=
  [.sendData [3], .receive, .checkGuard false, .setFlag, .transmit true, .waitTxIdle, .pollQueue,
    .clearFlag, .pollFlag]

/-- Such a wait returns `true`, with the packet transmitted. -/
theorem fhssServiceWaitTxIdle_transmitted_packet :
    (finalState txQueueStep (txQueueInit .tx) transmittedPacket).waiter = .returned 1 true ∧
      IdleMeansTransmitted (finalState txQueueStep (txQueueInit .tx) transmittedPacket) :=
  ⟨by decide, fhssServiceWaitTxIdle_transmitted .tx (by decide +kernel)⟩

/-- The task has taken a packet and not flagged it when the wait looks at both. -/
def unflaggedPacket : List TxQueueLabel :=
  [.sendData [3], .receive, .waitTxIdle, .pollQueue, .pollFlag]

/-- The wait returns `true` before the packet is given to the radio; put back because of the guard,
it is thrown away by the role change that follows. -/
theorem fhssServiceWaitTxIdle_misses_held_packet :
    let s := finalState txQueueStep (txQueueInit .tx) unflaggedPacket
    let later := finalState txQueueStep s [.checkGuard true, .putBack]
    s.waiter = .returned 1 true ∧ s.accepted = [[3]] ∧ s.attempts = [] ∧
      ¬ IdleMeansTransmitted s ∧ later.queue = [[3]] ∧ later.attempts = [] ∧
      (finalState txQueueStep later [.setRole .rx]).queue = [] := by
  have hstate : (finalState txQueueStep (txQueueInit .tx) unflaggedPacket).waiter =
      .returned 1 true := by decide
  refine ⟨hstate, by decide, by decide, fun hidle => ?_, by decide, by decide, by decide⟩
  have hprefix := (hidle 1 hstate).1
  revert hprefix
  decide

end FhssOtaRadio
