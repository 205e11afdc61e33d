import FhssOtaRadio.FhssService.Service
import FhssOtaRadio.Library.Machine
import FhssOtaRadio.Library.RetryLog

/-!
# The TX queue of the service (`fhss_service.c`)

Other tasks queue packets with `fhss_service_send_data`; the task of the service takes them out,
in `drain_tx_data_until` when it transmits and in `send_one_queued_data` when it receives, and a
third task may wait in `fhss_service_wait_tx_idle`.  Every access to the queue and to the flag
`tx_in_flight` is a step of its own, so that the steps of the tasks interleave freely.
-/

namespace FhssOtaRadio

open Machine RetryLog

/-- `FHSS_SERVICE_TX_QUEUE_DEPTH`. -/
def fhssServiceTxQueueDepth : ℕ := 8

/-- `fhss_service_send_data`: the queue afterwards and the result; `free` says that the queue has
room. -/
def fhssServiceSendData (queue : List Bytes) (data : Bytes) (free : Bool) : List Bytes × Bool :=
  if data.length = 0 ∨ rfTransportMaxPacketLength < data.length then (queue, false)
  else if free = false then (queue, false)
  else (queue ++ [data], true)

/-- A packet is refused, or appended. -/
lemma fhssServiceSendData_cases (queue : List Bytes) (data : Bytes) (free : Bool) :
    fhssServiceSendData queue data free = (queue, false) ∨
      (fhssServiceSendData queue data free = (queue ++ [data], true) ∧ free = true) := by
  unfold fhssServiceSendData
  by_cases hlength : data.length = 0 ∨ rfTransportMaxPacketLength < data.length
  · exact .inl (if_pos hlength)
  rw [if_neg hlength]
  cases free with
  | false => exact .inl rfl
  | true => exact .inr ⟨rfl, rfl⟩

/-- Where the task of the service is while it handles a packet. -/
inductive TxTaskPc where
  /-- Outside of both functions, or about to take a packet. -/
  | outside
  /-- `drain_tx_data_until` has taken a packet and looks at the clock again. -/
  | received (item : Bytes)
  /-- It has found the guard reached and puts the packet back. -/
  | puttingBack (item : Bytes)
  /-- A packet is about to be sent, in `send_one_queued_data` if `response`. -/
  | starting (item : Bytes) (response : Bool)
  /-- `tx_in_flight` is set. -/
  | sending (item : Bytes) (response : Bool)
  /-- A response could not be transmitted and is put back. -/
  | failed (item : Bytes)
  /-- `tx_in_flight` is about to be cleared. -/
  | finishing
  deriving DecidableEq

/-- Where a caller of `fhss_service_wait_tx_idle` is; `before` counts the packets accepted before
the call. -/
inductive TxWaiter where
  | none
  /-- About to look at the queue; `last` marks the check behind the loop. -/
  | polling (before : ℕ) (last : Bool)
  /-- The queue was empty, the flag is next.  `putBack` notes whether a packet put back since then
  is still in the queue. -/
  | sawEmpty (before : ℕ) (last : Bool) (putBack : Bool)
  /-- The call has returned. -/
  | returned (before : ℕ) (idle : Bool)
  deriving DecidableEq

/-- The TX queue with everything around it.  `accepted` and `attempts` are the history since the
queue was last reset: the packets for which `fhss_service_send_data` returned `true`, and the
calls of `rf_transport_send_packet`, each with whether the packet is done with then. -/
structure TxQueue where
  role : FhssServiceRole
  queue : List Bytes
  txInFlight : Bool
  task : TxTaskPc
  waiter : TxWaiter
  accepted : List Bytes
  attempts : List (Bytes × Bool)
  deriving DecidableEq

/-- The queue of an initialized service. -/
def txQueueInit (role : FhssServiceRole) : TxQueue :=
  ⟨role, [], false, .outside, .none, [], []⟩

/-- The steps of the tasks. -/
inductive TxQueueLabel where
  /-- A producer calls `fhss_service_send_data`. -/
  | sendData (data : Bytes)
  /-- The task of the service takes a packet. -/
  | receive
  /-- It compares the clock with the deadline again. -/
  | checkGuard (reached : Bool)
  /-- It puts the packet back. -/
  | putBack
  /-- It sets `tx_in_flight`. -/
  | setFlag
  /-- It calls `rf_transport_send_packet`; `ok` is `RF_TRANSPORT_STATUS_OK`. -/
  | transmit (ok : Bool)
  /-- It clears `tx_in_flight`. -/
  | clearFlag
  /-- `fhss_service_set_role`, past its early return. -/
  | setRole (role : FhssServiceRole)
  /-- `fhss_service_pause`. -/
  | pause
  /-- A call of `fhss_service_wait_tx_idle`. -/
  | waitTxIdle
  /-- It reads the length of the queue. -/
  | pollQueue
  /-- It reads `tx_in_flight`. -/
  | pollFlag
  /-- Its time is up. -/
  | waitTimeout

/-- `xQueueSendToFront` without waiting; a full queue drops the packet. -/
def sendToFront (queue : List Bytes) (item : Bytes) : List Bytes :=
  if queue.length < fhssServiceTxQueueDepth then item :: queue else queue

/-- The packet the task holds, until it is done with it. -/
def TxTaskPc.held : TxTaskPc → List Bytes
  | .outside => []
  | .received item => [item]
  | .puttingBack item => [item]
  | .starting item _ => [item]
  | .sending item _ => [item]
  | .failed item => [item]
  | .finishing => []

/-- The waiter after the task has taken the first packet of the queue. -/
def TxWaiter.afterReceive : TxWaiter → TxWaiter
  | .sawEmpty before last _ => .sawEmpty before last false
  | waiter => waiter

/-- The waiter after the task has put a packet back. -/
def TxWaiter.afterPutBack : TxWaiter → TxWaiter
  | .sawEmpty before last _ => .sawEmpty before last true
  | waiter => waiter

/-- A call of `fhss_service_wait_tx_idle` is under way. -/
def TxWaiter.waiting : TxWaiter → Bool
  | .none => false
  | .polling _ _ => true
  | .sawEmpty _ _ _ => true
  | .returned _ _ => false

/-- The queue after a reset: the history starts again. -/
def TxQueue.reset (s : TxQueue) : TxQueue :=
  { s with queue := [], txInFlight := false, waiter := .none, accepted := [], attempts := [] }

/-- One step of one task.  A task that is elsewhere does not take the step; the role changes only
when the task of the service has ended and nobody waits. -/
def txQueueStep (s : TxQueue) : TxQueueLabel → TxQueue × Unit
  | .sendData data =>
      match fhssServiceSendData s.queue data
          (decide (s.queue.length < fhssServiceTxQueueDepth)) with
      | (queue, true) => ({ s with queue := queue, accepted := s.accepted ++ [data] }, ())
      | (_, false) => (s, ())
  | .receive =>
      match s.task, s.queue with
      | .outside, item :: queue =>
          ({ s with
            queue := queue
            task := if s.role = .tx then .received item else .starting item true
            waiter := s.waiter.afterReceive }, ())
      | _, _ => (s, ())
  | .checkGuard reached =>
      match s.task with
      | .received item =>
          ({ s with task := if reached then .puttingBack item else .starting item false }, ())
      | _ => (s, ())
  | .putBack =>
      match s.task with
      | .puttingBack item =>
          ({ s with
            queue := sendToFront s.queue item
            task := .outside
            waiter := s.waiter.afterPutBack }, ())
      | .failed item =>
          ({ s with
            queue := sendToFront s.queue item
            task := .finishing
            waiter := s.waiter.afterPutBack }, ())
      | _ => (s, ())
  | .setFlag =>
      match s.task with
      | .starting item response =>
          ({ s with txInFlight := true, task := .sending item response }, ())
      | _ => (s, ())
  | .transmit ok =>
      match s.task with
      | .sending item response =>
          -- Only a response is kept when the radio fails.
          if response = true ∧ ok = false then
            ({ s with attempts := s.attempts ++ [(item, false)], task := .failed item }, ())
          else ({ s with attempts := s.attempts ++ [(item, true)], task := .finishing }, ())
      | _ => (s, ())
  | .clearFlag =>
      match s.task with
      | .finishing => ({ s with txInFlight := false, task := .outside }, ())
      | _ => (s, ())
  | .setRole role =>
      if s.task = .outside ∧ s.waiter.waiting = false then
        match role with
        | .tx => ({ s with role := .tx, txInFlight := false, waiter := .none }, ())
        | .rx => ({ s.reset with role := .rx }, ())
      else (s, ())
  | .pause =>
      if s.task = .outside ∧ s.waiter.waiting = false then (s.reset, ()) else (s, ())
  | .waitTxIdle =>
      if s.waiter.waiting = true then (s, ())
      else if s.role ≠ .tx then ({ s with waiter := .returned s.accepted.length false }, ())
      else ({ s with waiter := .polling s.accepted.length false }, ())
  | .pollQueue =>
      match s.waiter with
      | .polling before last =>
          if s.queue = [] then ({ s with waiter := .sawEmpty before last false }, ())
          else if last then ({ s with waiter := .returned before false }, ())
          else (s, ())
      | _ => (s, ())
  | .pollFlag =>
      match s.waiter with
      | .sawEmpty before last _ =>
          if s.txInFlight = false then ({ s with waiter := .returned before true }, ())
          else if last then ({ s with waiter := .returned before false }, ())
          else ({ s with waiter := .polling before false }, ())
      | _ => (s, ())
  | .waitTimeout =>
      match s.waiter with
      | .polling before _ => ({ s with waiter := .polling before true }, ())
      | _ => (s, ())

/-! ## What a step does -/

/-- Where a step takes the waiter. -/
inductive TxWaiterOutcome (s : TxQueue) : TxQueueLabel → TxWaiter → Prop
  | refused (hrole : s.role ≠ .tx) :
      TxWaiterOutcome s .waitTxIdle (.returned s.accepted.length false)
  | polls (hrole : s.role = .tx) :
      TxWaiterOutcome s .waitTxIdle (.polling s.accepted.length false)
  | sawEmpty {before : ℕ} {last : Bool} (hwaiter : s.waiter = .polling before last)
      (hqueue : s.queue = []) : TxWaiterOutcome s .pollQueue (.sawEmpty before last false)
  | gaveUp {before : ℕ} (hwaiter : s.waiter = .polling before true) :
      TxWaiterOutcome s .pollQueue (.returned before false)
  | sawIdle {before : ℕ} {last putBack : Bool} (hwaiter : s.waiter = .sawEmpty before last putBack)
      (hclear : s.txInFlight = false) : TxWaiterOutcome s .pollFlag (.returned before true)
  | sawBusy {before : ℕ} {last putBack : Bool} (hwaiter : s.waiter = .sawEmpty before last putBack)
      (hset : s.txInFlight = true) :
      TxWaiterOutcome s .pollFlag (if last then .returned before false else .polling before false)
  | timedOut {before : ℕ} {last : Bool} (hwaiter : s.waiter = .polling before last) :
      TxWaiterOutcome s .waitTimeout (.polling before true)

/-- Where a step takes the queue and the tasks around it. -/
inductive TxQueueOutcome (s : TxQueue) : TxQueueLabel → TxQueue → Prop
  /-- The task is elsewhere, or the step changes nothing. -/
  | unchanged {label : TxQueueLabel}
      (hholds : label = .putBack → ∀ item, s.task ≠ .puttingBack item ∧ s.task ≠ .failed item) :
      TxQueueOutcome s label s
  | accepted (data : Bytes) (hroom : s.queue.length < fhssServiceTxQueueDepth) :
      TxQueueOutcome s (.sendData data)
        { s with queue := s.queue ++ [data], accepted := s.accepted ++ [data] }
  | received {item : Bytes} {queue : List Bytes} {task : TxTaskPc} (houtside : s.task = .outside)
      (hqueue : s.queue = item :: queue)
      (htask : s.role = .tx ∧ task = .received item ∨ s.role ≠ .tx ∧ task = .starting item true) :
      TxQueueOutcome s .receive
        { s with queue := queue, task := task, waiter := s.waiter.afterReceive }
  | guardChecked {item : Bytes} {task : TxTaskPc} (reached : Bool)
      (hreceived : s.task = .received item)
      (htask : reached = true ∧ task = .puttingBack item ∨
        reached = false ∧ task = .starting item false) :
      TxQueueOutcome s (.checkGuard reached) { s with task := task }
  | putBack {item : Bytes} {task : TxTaskPc}
      (htask : s.task = .puttingBack item ∧ task = .outside ∨
        s.task = .failed item ∧ task = .finishing) :
      TxQueueOutcome s .putBack
        { s with
          queue := sendToFront s.queue item
          task := task
          waiter := s.waiter.afterPutBack }
  | flagSet {item : Bytes} {response : Bool} (hstarting : s.task = .starting item response) :
      TxQueueOutcome s .setFlag { s with txInFlight := true, task := .sending item response }
  /-- Only a response is kept when the radio fails. -/
  | kept {item : Bytes} (hsending : s.task = .sending item true) :
      TxQueueOutcome s (.transmit false)
        { s with attempts := s.attempts ++ [(item, false)], task := .failed item }
  | done {item : Bytes} {response ok : Bool} (hsending : s.task = .sending item response)
      (hlast : response = true → ok = true) :
      TxQueueOutcome s (.transmit ok)
        { s with attempts := s.attempts ++ [(item, true)], task := .finishing }
  | flagCleared (hfinishing : s.task = .finishing) :
      TxQueueOutcome s .clearFlag { s with txInFlight := false, task := .outside }
  | roleTx (houtside : s.task = .outside) (hwaiter : s.waiter.waiting = false) :
      TxQueueOutcome s (.setRole .tx) { s with role := .tx, txInFlight := false, waiter := .none }
  | roleRx (houtside : s.task = .outside) (hwaiter : s.waiter.waiting = false) :
      TxQueueOutcome s (.setRole .rx) { s.reset with role := .rx }
  | paused (houtside : s.task = .outside) (hwaiter : s.waiter.waiting = false) :
      TxQueueOutcome s .pause s.reset
  | waited {label : TxQueueLabel} {waiter : TxWaiter} (hwaits : TxWaiterOutcome s label waiter) :
      TxQueueOutcome s label { s with waiter := waiter }

section

variable (s : TxQueue)

/-- A call is queued, or refused. -/
lemma outcome_sendData (data : Bytes) :
    TxQueueOutcome s (.sendData data) (txQueueStep s (.sendData data)).1 := by
  unfold txQueueStep
  dsimp only
  rcases fhssServiceSendData_cases s.queue data
    (decide (s.queue.length < fhssServiceTxQueueDepth)) with hrefused | ⟨haccepted, hfree⟩
  · rw [hrefused]
    exact .unchanged nofun
  · rw [haccepted]
    exact .accepted data (of_decide_eq_true hfree)

/-- The task takes a packet, if it is there to take one and there is one. -/
lemma outcome_receive : TxQueueOutcome s .receive (txQueueStep s .receive).1 := by
  unfold txQueueStep
  cases htask : s.task with
  | outside =>
    cases hqueue : s.queue with
    | nil => exact .unchanged nofun
    | cons item queue =>
      refine .received htask hqueue ?_
      split_ifs with hrole
      · exact .inl ⟨hrole, rfl⟩
      · exact .inr ⟨hrole, rfl⟩
  | _ => exact .unchanged nofun

/-- It compares the clock with the deadline. -/
lemma outcome_checkGuard (reached : Bool) :
    TxQueueOutcome s (.checkGuard reached) (txQueueStep s (.checkGuard reached)).1 := by
  unfold txQueueStep
  cases htask : s.task with
  | received item =>
    refine .guardChecked reached htask ?_
    cases reached with
    | true => exact .inl ⟨rfl, rfl⟩
    | false => exact .inr ⟨rfl, rfl⟩
  | _ => exact .unchanged nofun

/-- It puts back the packet that it holds for this. -/
lemma outcome_putBack : TxQueueOutcome s .putBack (txQueueStep s .putBack).1 := by
  unfold txQueueStep
  cases htask : s.task with
  | puttingBack item => exact .putBack (.inl ⟨htask, rfl⟩)
  | failed item => exact .putBack (.inr ⟨htask, rfl⟩)
  | _ => exact .unchanged fun _ item => ⟨by simp [htask], by simp [htask]⟩

/-- A transmission is the last of its packet, or the task keeps the packet. -/
lemma outcome_transmit (ok : Bool) :
    TxQueueOutcome s (.transmit ok) (txQueueStep s (.transmit ok)).1 := by
  unfold txQueueStep
  cases htask : s.task with
  | sending item response =>
    dsimp only
    by_cases hkept : response = true ∧ ok = false
    · obtain ⟨rfl, rfl⟩ := hkept
      exact .kept htask
    · rw [if_neg hkept]
      refine .done htask fun hresponse => ?_
      simpa [hresponse] using hkept
  | _ => exact .unchanged nofun

/-- The role changes between two sessions only. -/
lemma outcome_setRole (role : FhssServiceRole) :
    TxQueueOutcome s (.setRole role) (txQueueStep s (.setRole role)).1 := by
  unfold txQueueStep
  dsimp only
  by_cases hended : s.task = .outside ∧ s.waiter.waiting = false
  · rw [if_pos hended]
    cases role with
    | tx => exact .roleTx hended.1 hended.2
    | rx => exact .roleRx hended.1 hended.2
  · rw [if_neg hended]
    exact .unchanged nofun

/-- The waiter looks at the queue. -/
lemma outcome_pollQueue : TxQueueOutcome s .pollQueue (txQueueStep s .pollQueue).1 := by
  unfold txQueueStep
  cases hwaiter : s.waiter with
  | polling before last =>
    dsimp only
    by_cases hempty : s.queue = []
    · rw [if_pos hempty]
      exact .waited (.sawEmpty hwaiter hempty)
    rw [if_neg hempty]
    cases last with
    | true => exact .waited (.gaveUp hwaiter)
    | false => exact .unchanged nofun
  | _ => exact .unchanged nofun

/-- The waiter looks at the flag. -/
lemma outcome_pollFlag : TxQueueOutcome s .pollFlag (txQueueStep s .pollFlag).1 := by
  unfold txQueueStep
  cases hwaiter : s.waiter with
  | sawEmpty before last putBack =>
    dsimp only
    by_cases hclear : s.txInFlight = false
    · rw [if_pos hclear]
      exact .waited (.sawIdle hwaiter hclear)
    rw [if_neg hclear]
    have hbusy := TxWaiterOutcome.sawBusy hwaiter (Bool.eq_true_of_not_eq_false hclear)
    cases last with
    | true => exact .waited hbusy
    | false => exact .waited hbusy
  | _ => exact .unchanged nofun

/-- Every step has one of these outcomes. -/
lemma txQueueStep_outcome (label : TxQueueLabel) :
    TxQueueOutcome s label (txQueueStep s label).1 := by
  cases label with
  | sendData data => exact outcome_sendData s data
  | receive => exact outcome_receive s
  | checkGuard reached => exact outcome_checkGuard s reached
  | putBack => exact outcome_putBack s
  | setFlag =>
    unfold txQueueStep
    cases htask : s.task with
    | starting item response => exact .flagSet htask
    | _ => exact .unchanged nofun
  | transmit ok => exact outcome_transmit s ok
  | clearFlag =>
    unfold txQueueStep
    cases htask : s.task with
    | finishing => exact .flagCleared htask
    | _ => exact .unchanged nofun
  | setRole role => exact outcome_setRole s role
  | pause =>
    unfold txQueueStep
    dsimp only
    by_cases hended : s.task = .outside ∧ s.waiter.waiting = false
    · rw [if_pos hended]
      exact .paused hended.1 hended.2
    · rw [if_neg hended]
      exact .unchanged nofun
  | waitTxIdle =>
    unfold txQueueStep
    dsimp only
    by_cases hwaiting : s.waiter.waiting = true
    · rw [if_pos hwaiting]
      exact .unchanged nofun
    rw [if_neg hwaiting]
    by_cases hrole : s.role ≠ .tx
    · rw [if_pos hrole]
      exact .waited (.refused hrole)
    · rw [if_neg hrole]
      exact .waited (.polls (not_not.mp hrole))
  | pollQueue => exact outcome_pollQueue s
  | pollFlag => exact outcome_pollFlag s
  | waitTimeout =>
    unfold txQueueStep
    cases hwaiter : s.waiter with
    | polling before last => exact .waited (.timedOut hwaiter)
    | _ => exact .unchanged nofun

end

/-! ## Nothing lost, nothing overtaken -/

/-- Every accepted packet is done with, held by the task or in the queue, and the radio was given
them in the order they were accepted. -/
def NoLoss (s : TxQueue) : Prop :=
  Passes s.attempts s.accepted (s.task.held ++ s.queue)

/-- A packet that is put back finds room in the queue. -/
def RoomToPutBack (s : TxQueue) : TxQueueLabel → Prop
  | .putBack =>
      match s.task with
      | .puttingBack _ => s.queue.length < fhssServiceTxQueueDepth
      | .failed _ => s.queue.length < fhssServiceTxQueueDepth
      | _ => True
  | _ => True

instance (s : TxQueue) (label : TxQueueLabel) : Decidable (RoomToPutBack s label) := by
  unfold RoomToPutBack
  split
  · split <;> infer_instance
  · infer_instance

section

variable {s : TxQueue}

/-- A put back packet is in front of the queue if it finds room, and gone otherwise. -/
lemma noLoss_sendToFront {attempts : List (Bytes × Bool)} {accepted queue : List Bytes}
    {item : Bytes} (h : Passes attempts accepted (item :: queue)) :
    Passes attempts accepted (sendToFront queue item) ↔
      queue.length < fhssServiceTxQueueDepth := by
  unfold sendToFront
  by_cases hroom : queue.length < fhssServiceTxQueueDepth
  · rw [if_pos hroom]
    exact ⟨fun _ => hroom, fun _ => h⟩
  · rw [if_neg hroom]
    refine ⟨fun hlost => ?_, fun hroom' => absurd hroom' hroom⟩
    have hlength := h.length_eq
    rw [hlost.length_eq, List.length_cons] at hlength
    omega

/-- The steps that handle neither a packet nor the radio leave the packets where they are. -/
lemma noLoss_of_same {s' : TxQueue} (h : NoLoss s) (hattempts : s'.attempts = s.attempts)
    (haccepted : s'.accepted = s.accepted)
    (hleft : s'.task.held ++ s'.queue = s.task.held ++ s.queue) : NoLoss s' := by
  unfold NoLoss
  rw [hattempts, haccepted, hleft]
  exact h

/-- After a reset there is nothing to lose. -/
lemma noLoss_reset (h : s.task = .outside) (role : FhssServiceRole) :
    NoLoss { s.reset with role := role } := by
  unfold NoLoss TxQueue.reset
  dsimp only
  rw [h]
  rfl

/-- The packets while the task holds one. -/
lemma NoLoss.of_held (h : NoLoss s) {item : Bytes} (hheld : s.task.held = [item]) :
    Passes s.attempts s.accepted (item :: s.queue) := by
  have hall := h
  unfold NoLoss at hall
  rwa [hheld] at hall

/-- A step loses a packet exactly if it puts one back into a queue that was filled up again. -/
lemma noLoss_txQueueStep (h : NoLoss s) (label : TxQueueLabel) :
    NoLoss (txQueueStep s label).1 ↔ RoomToPutBack s label := by
  have houtcome := txQueueStep_outcome s label
  generalize (txQueueStep s label).1 = s' at houtcome ⊢
  cases houtcome with
  | putBack htask =>
    unfold RoomToPutBack
    rcases htask with ⟨htask, rfl⟩ | ⟨htask, rfl⟩
    · rw [htask]
      exact noLoss_sendToFront (h.of_held (by rw [htask]; rfl))
    · rw [htask]
      exact noLoss_sendToFront (h.of_held (by rw [htask]; rfl))
  | unchanged hholds =>
    refine ⟨fun _ => ?_, fun _ => h⟩
    cases label with
    | putBack =>
      unfold RoomToPutBack
      cases htask : s.task with
      | puttingBack item => exact absurd htask (hholds rfl item).1
      | failed item => exact absurd htask (hholds rfl item).2
      | _ => trivial
    | _ => trivial
  | accepted data =>
    refine ⟨fun _ => trivial, fun _ => ?_⟩
    have hbehind := h.arrive data
    rw [List.append_assoc] at hbehind
    exact hbehind
  | received houtside hqueue htask =>
    refine ⟨fun _ => trivial, fun _ => noLoss_of_same h rfl rfl ?_⟩
    rw [houtside, hqueue]
    rcases htask with ⟨-, rfl⟩ | ⟨-, rfl⟩ <;> rfl
  | guardChecked reached hreceived htask =>
    refine ⟨fun _ => trivial, fun _ => noLoss_of_same h rfl rfl ?_⟩
    rw [hreceived]
    rcases htask with ⟨-, rfl⟩ | ⟨-, rfl⟩ <;> rfl
  | flagSet hstarting =>
    refine ⟨fun _ => trivial, fun _ => noLoss_of_same h rfl rfl ?_⟩
    rw [hstarting]
    rfl
  | kept hsending => exact ⟨fun _ => trivial, fun _ => (h.of_held (by rw [hsending]; rfl)).retry⟩
  | done hsending => exact ⟨fun _ => trivial, fun _ => (h.of_held (by rw [hsending]; rfl)).last⟩
  | flagCleared hfinishing =>
    refine ⟨fun _ => trivial, fun _ => noLoss_of_same h rfl rfl ?_⟩
    rw [hfinishing]
    rfl
  | roleTx => exact ⟨fun _ => trivial, fun _ => noLoss_of_same h rfl rfl rfl⟩
  | roleRx houtside => exact ⟨fun _ => trivial, fun _ => noLoss_reset houtside .rx⟩
  | paused houtside => exact ⟨fun _ => trivial, fun _ => noLoss_reset houtside s.role⟩
  | waited hwaits =>
    refine ⟨fun _ => ?_, fun _ => noLoss_of_same h rfl rfl rfl⟩
    cases hwaits <;> trivial

end

/-- In every run from an initialized service, no accepted packet is lost or overtaken at any
moment exactly if every packet that is put back, because of the guard or because a response could
not be transmitted, finds room in the queue. -/
theorem txQueue_noLoss_iff (role : FhssServiceRole) (labels : List TxQueueLabel) :
    (∀ run, run <+: labels → NoLoss (finalState txQueueStep (txQueueInit role) run)) ↔
      Guarded txQueueStep RoomToPutBack (txQueueInit role) labels := by
  have hinit : NoLoss (txQueueInit role) := rfl
  exact @forall_prefix_iff_guarded _ _ _ txQueueStep NoLoss RoomToPutBack
    (fun s label h => noLoss_txQueueStep h label) _ hinit labels

/-- Eight packets, of which the task takes the first before a ninth is accepted. -/
def refilledQueue : List TxQueueLabel :=
  (List.range 8).map (fun i => .sendData [UInt8.ofNat i]) ++ [.receive, .sendData [8]]

/-- A queue that starts with the second of nine accepted packets, while the radio is done with
none and the task holds none, has lost the first. -/
lemma not_noLoss_of_tail {s : TxQueue} (haccepted : s.accepted.length = 9)
    (hfinished : finished s.attempts = []) (hheld : s.task.held = [])
    (hqueue : s.queue = s.accepted.tail) : ¬ NoLoss s := by
  intro hall
  have hlength := hall.length_eq
  rw [hfinished, hheld, hqueue, haccepted] at hlength
  have htail : s.accepted.tail.length = 8 := by
    rw [List.length_tail, haccepted]
  rw [List.nil_append, htail] at hlength
  cases hlength

/-- Whether the guard is found reached or a response fails, the first of nine accepted packets is
gone: the radio is done with none of them, the task holds none and the queue starts with the
second. -/
theorem txQueue_put_back_drops :
    let guarded := finalState txQueueStep (txQueueInit .tx)
      (refilledQueue ++ [.checkGuard true, .putBack])
    let failed := finalState txQueueStep (txQueueInit .rx)
      (refilledQueue ++ [.setFlag, .transmit false, .putBack])
    (guarded.accepted.length = 9 ∧ finished guarded.attempts = [] ∧ guarded.task.held = [] ∧
      guarded.queue = guarded.accepted.tail ∧ ¬ NoLoss guarded) ∧
    (failed.accepted.length = 9 ∧ finished failed.attempts = [] ∧ failed.task.held = [] ∧
      failed.queue = failed.accepted.tail ∧ ¬ NoLoss failed) := by
  intro guarded failed
  have hguarded : guarded.accepted.length = 9 ∧ finished guarded.attempts = [] ∧
      guarded.task.held = [] ∧ guarded.queue = guarded.accepted.tail := by decide +kernel
  have hfailed : failed.accepted.length = 9 ∧ finished failed.attempts = [] ∧
      failed.task.held = [] ∧ failed.queue = failed.accepted.tail := by decide +kernel
  obtain ⟨haccepted, hfinished, hheld, hqueue⟩ := hguarded
  obtain ⟨haccepted', hfinished', hheld', hqueue'⟩ := hfailed
  exact ⟨⟨haccepted, hfinished, hheld, hqueue,
      not_noLoss_of_tail haccepted hfinished hheld hqueue⟩,
    ⟨haccepted', hfinished', hheld', hqueue',
      not_noLoss_of_tail haccepted' hfinished' hheld' hqueue'⟩⟩

end FhssOtaRadio
