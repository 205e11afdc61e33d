import FhssOtaRadio.FhssService.TxQueue
import FhssOtaRadio.Product.EndAck

/-!
# The restart after an update (`ota_radio_send_callback` in `main/fsm.c`)

The consumer gives its answers to the send callback, and that to `fhss_audio_adapter_ota_send`.  On
the fixed channel the packet has been transmitted when the call returns; while OTA hops it has
only been put into the TX queue of the service.  Once an image has been verified, the callback
takes a sent ACK of an END as the sign to restart the chip, 250 ms later.
-/

namespace FhssOtaRadio

open Machine

/-- The restart of the chip. -/
inductive RebootPhase where
  /-- Nothing is scheduled. -/
  | none
  /-- The delay has begun, in `ota_reboot_task` or `inline` in the callback, because of a packet
  that has been `queued` or transmitted. -/
  | delaying (packet : Bytes) (queued inline : Bool)
  /-- `esp_restart` has been called. -/
  | restarted (packet : Bytes)
  deriving DecidableEq

/-- The product with its answers on the way to the radio. -/
structure RestartingProduct where
  product : Product
  /-- The packets that the consumer still has to give to the send callback. -/
  outbox : List OtaSend
  /-- The packet that waits for `radio_mutex` in `fhss_audio_adapter_ota_send`. -/
  atMutex : Option Bytes
  /-- `s_ota_ready_to_reboot`. -/
  readyToReboot : Bool
  reboot : RebootPhase
  /-- The TX queue of the service. -/
  txQueue : TxQueue
  /-- The packets for which `rf_transport_send_packet` has returned `RF_TRANSPORT_STATUS_OK`. -/
  transmitted : List Bytes
  /-- The sessions for whose image `esp_ota_set_boot_partition` has returned `ESP_OK`. -/
  selected : List UInt32
  deriving DecidableEq

/-- The product when `fsm_init` has returned. -/
def RestartingProduct.boot (store : FhssConfigStore) : RestartingProduct :=
  ⟨.boot store, [], none, false, .none, txQueueInit .rx, [], []⟩

/-- A step of the consumer task. -/
def ProductInput.isOfConsumer : ProductInput → Bool
  | .consumerTask _ => true
  | _ => false

/-- The consumer is in the send callback, or about to call it. -/
def RestartingProduct.isSending (device : RestartingProduct) : Bool :=
  !device.outbox.isEmpty || device.atMutex.isSome ||
    (match device.reboot with
      | .delaying _ _ inline => inline
      | _ => false)

/-- The task of the service looks into its queue: it transmits, or it receives and has been
synchronized. -/
def FhssService.drainsTxQueue (service : FhssService) : Bool :=
  service.taskRunning && (service.config.role == .tx || service.fsm != .searching)

/-- The packet that a step of the service transmits. -/
def TxQueue.transmits (s : TxQueue) : TxQueueLabel → List Bytes
  | .transmit true =>
      match s.task with
      | .sending item _ => [item]
      | _ => []
  | _ => []

/-- The END ACK that has been put into the queue and begun the delay. -/
def RebootPhase.awaited : RebootPhase → Option Bytes
  | .delaying packet true _ => some packet
  | _ => Option.none

section Step

variable (protocol : OtaProtocol) (sha256 : Bytes → Sha256Digest)
  (deriveSessionHopSeed : UInt32 → UInt32)
  (decodeAck : Bytes → Option (OtaPacketType × OtaAckFields))

/-- `ota_radio_send_callback` behind `fhss_audio_adapter_ota_send`, which has returned `sent`. -/
def RestartingProduct.answered (device : RestartingProduct) (packet : Bytes)
    (sent queued taskCreated : Bool) : RestartingProduct :=
  let finalEndAck := sent && device.readyToReboot && acknowledgesEnd decodeAck packet
  if finalEndAck = true ∧ device.reboot = .none then
    { device with reboot := .delaying packet queued (!taskCreated) }
  else device

/-- `fhss_audio_adapter_ota_send` on the next packet, up to `radio_mutex`; while OTA hops, the whole
call. -/
def RestartingProduct.otaSend (device : RestartingProduct) (taskCreated : Bool) :
    RestartingProduct :=
  match device.atMutex, device.outbox with
  | none, send :: rest =>
      let device := { device with outbox := rest }
      if device.product.adapter.otaActive = false ∨ send.packet.length = 0 ∨
          rfTransportMaxPacketLength < send.packet.length then device
      else if device.product.adapter.otaFhssActive = true then
        let free := decide (device.txQueue.queue.length < fhssServiceTxQueueDepth)
        let queued := (fhssServiceSendData device.txQueue.queue send.packet free).2
        { device with
          txQueue := (txQueueStep device.txQueue (.sendData send.packet)).1 }.answered
            decodeAck send.packet queued true taskCreated
      else { device with atMutex := some send.packet }
  | _, _ => device

/-- `rf_transport_send_packet` and `rf_transport_start_receive` under the mutex. -/
def RestartingProduct.transmit (device : RestartingProduct) (sent armed taskCreated : Bool) :
    RestartingProduct :=
  match device.atMutex with
  | none => device
  | some packet =>
      { device with
        atMutex := none
        transmitted := device.transmitted ++ if sent then [packet] else [] }.answered
          decodeAck packet (sent && armed) false taskCreated

/-- A step of the TX queue. -/
def RestartingProduct.queueStep (device : RestartingProduct) (label : TxQueueLabel) :
    RestartingProduct :=
  { device with
    txQueue := (txQueueStep device.txQueue label).1
    transmitted := device.transmitted ++ device.txQueue.transmits label }

/-- A step of the product; the consumer takes none while it is sending.  What it sends follows the
events of its step, also for CONFIG and ACTIVATE, where the code sends first. -/
def RestartingProduct.productStep (device : RestartingProduct) (input : ProductInput) :
    RestartingProduct :=
  if input.isOfConsumer = true ∧ device.isSending = true then device
  else
    let (product, effects) :=
      FhssOtaRadio.productStep protocol sha256 deriveSessionHopSeed device.product input
    { device with
      product := product
      outbox := device.outbox ++ effects.filterMap ProductEffect.sent
      readyToReboot := device.readyToReboot || effects.contains (.client .completed)
      selected := device.selected ++ device.product.selects sha256 input }

/-- A step of one of the tasks. -/
inductive RestartInput where
  | product (input : ProductInput)
  /-- The consumer gives its next packet to `fhss_audio_adapter_ota_send`. -/
  | otaSend (taskCreated : Bool)
  /-- It has `radio_mutex` and works on the radio. -/
  | transmit (sent armed taskCreated : Bool)
  /-- A step of the service or of another user of its TX queue. -/
  | queue (label : TxQueueLabel)
  /-- The delay is over. -/
  | delayOver

/-- The chip takes a step; the service takes a packet from the queue only when it looks there. -/
def restartStep (device : RestartingProduct) (input : RestartInput) : RestartingProduct × Unit :=
  (match device.reboot with
    | .restarted _ => device
    | _ =>
        match input with
        | .product input => device.productStep protocol sha256 deriveSessionHopSeed input
        | .otaSend taskCreated => device.otaSend decodeAck taskCreated
        | .transmit sent armed taskCreated => device.transmit decodeAck sent armed taskCreated
        | .queue .receive =>
            if device.product.adapter.service.drainsTxQueue = true then device.queueStep .receive
            else device
        | .queue label => device.queueStep label
        | .delayOver =>
            match device.reboot with
            | .delaying packet _ _ => { device with reboot := .restarted packet }
            | _ => device, ())

end Step

/-! ## A queued packet -/

/-- The packets that the service has still to transmit. -/
def TxQueue.left (s : TxQueue) : List Bytes := s.task.held ++ s.queue

/-- A step of the TX queue does not drop a packet: the queue is not reset while the packet is in it,
there is room where it is put back, and its transmission in the TX role, which is not repeated, does
not fail. -/
def KeepsPacket (s : TxQueue) (packet : Bytes) : TxQueueLabel → Prop
  | .putBack =>
      match s.task with
      | .puttingBack item => item = packet → s.queue.length < fhssServiceTxQueueDepth
      | .failed item => item = packet → s.queue.length < fhssServiceTxQueueDepth
      | _ => True
  | .transmit false =>
      match s.task with
      | .sending item response => item = packet → response = true
      | _ => True
  | .setRole .rx => s.task = .outside → s.waiter.waiting = false → packet ∉ s.queue
  | .pause => s.task = .outside → s.waiter.waiting = false → packet ∉ s.queue
  | _ => True

instance (s : TxQueue) (packet : Bytes) (label : TxQueueLabel) :
    Decidable (KeepsPacket s packet label) :=
  match label, s with
  | .putBack, ⟨_, queue, _, task, _, _, _⟩ =>
      match task with
      | .puttingBack item =>
          inferInstanceAs (Decidable (item = packet → queue.length < fhssServiceTxQueueDepth))
      | .failed item =>
          inferInstanceAs (Decidable (item = packet → queue.length < fhssServiceTxQueueDepth))
      | .outside => isTrue trivial
      | .received _ => isTrue trivial
      | .starting _ _ => isTrue trivial
      | .sending _ _ => isTrue trivial
      | .finishing => isTrue trivial
  | .transmit false, ⟨_, _, _, task, _, _, _⟩ =>
      match task with
      | .sending item response => inferInstanceAs (Decidable (item = packet → response = true))
      | .outside => isTrue trivial
      | .received _ => isTrue trivial
      | .puttingBack _ => isTrue trivial
      | .starting _ _ => isTrue trivial
      | .failed _ => isTrue trivial
      | .finishing => isTrue trivial
  | .setRole .rx, s =>
      inferInstanceAs (Decidable
        (s.task = .outside → s.waiter.waiting = false → packet ∉ s.queue))
  | .pause, s =>
      inferInstanceAs (Decidable
        (s.task = .outside → s.waiter.waiting = false → packet ∉ s.queue))
  | .sendData _, _ => isTrue trivial
  | .receive, _ => isTrue trivial
  | .checkGuard _, _ => isTrue trivial
  | .setFlag, _ => isTrue trivial
  | .transmit true, _ => isTrue trivial
  | .clearFlag, _ => isTrue trivial
  | .setRole .tx, _ => isTrue trivial
  | .waitTxIdle, _ => isTrue trivial
  | .pollQueue, _ => isTrue trivial
  | .pollFlag, _ => isTrue trivial
  | .waitTimeout, _ => isTrue trivial

section Queue

variable {s : TxQueue} {packet : Bytes}

/-- A packet that has been accepted is left. -/
lemma mem_left_sendData
    (h : (fhssServiceSendData s.queue packet
      (decide (s.queue.length < fhssServiceTxQueueDepth))).2 = true) :
    packet ∈ (txQueueStep s (.sendData packet)).1.left := by
  unfold txQueueStep
  dsimp only
  rcases fhssServiceSendData_cases s.queue packet
    (decide (s.queue.length < fhssServiceTxQueueDepth)) with hrefused | ⟨haccepted, -⟩
  · rw [hrefused] at h
    cases h
  · rw [haccepted]
    exact List.mem_append_right _ (List.mem_append_right _ (List.mem_singleton_self _))

/-- A packet put back is left, if there is room for it. -/
lemma mem_sendToFront {item : Bytes} (hmem : packet ∈ item :: s.queue)
    (hroom : item = packet → s.queue.length < fhssServiceTxQueueDepth) :
    packet ∈ sendToFront s.queue item := by
  unfold sendToFront
  by_cases hfull : s.queue.length < fhssServiceTxQueueDepth
  · rw [if_pos hfull]
    exact hmem
  · rw [if_neg hfull]
    rcases List.mem_cons.mp hmem with rfl | hqueue
    · exact absurd (hroom rfl) hfull
    · exact hqueue

/-- What the task holds is left. -/
lemma mem_left_of_held (hmem : packet ∈ s.left) {held : List Bytes} (hheld : s.task.held = held) :
    packet ∈ held ++ s.queue := by
  unfold TxQueue.left at hmem
  rwa [hheld] at hmem

/-- A packet that is not dropped is left afterwards, or has been transmitted. -/
lemma mem_left_or_transmits (hmem : packet ∈ s.left) {label : TxQueueLabel}
    (hok : KeepsPacket s packet label) :
    packet ∈ (txQueueStep s label).1.left ∨ packet ∈ s.transmits label := by
  have houtcome := txQueueStep_outcome s label
  generalize (txQueueStep s label).1 = s' at houtcome ⊢
  cases houtcome with
  | unchanged => exact .inl hmem
  | accepted data =>
    refine .inl ?_
    unfold TxQueue.left
    dsimp only
    rw [← List.append_assoc]
    exact List.mem_append_left _ hmem
  | received houtside hqueue htask =>
    have hqueued := mem_left_of_held hmem (congrArg TxTaskPc.held houtside)
    rw [hqueue] at hqueued
    rcases htask with ⟨-, rfl⟩ | ⟨-, rfl⟩ <;> exact .inl hqueued
  | guardChecked reached hreceived htask =>
    have hheld := mem_left_of_held hmem (congrArg TxTaskPc.held hreceived)
    rcases htask with ⟨-, rfl⟩ | ⟨-, rfl⟩ <;> exact .inl hheld
  | putBack htask =>
    unfold KeepsPacket at hok
    rcases htask with ⟨htask, rfl⟩ | ⟨htask, rfl⟩ <;>
    · have hheld := mem_left_of_held hmem (congrArg TxTaskPc.held htask)
      rw [htask] at hok
      exact .inl (mem_sendToFront hheld hok)
  | flagSet hstarting =>
    have hheld := mem_left_of_held hmem (congrArg TxTaskPc.held hstarting)
    exact .inl hheld
  | kept hsending =>
    have hheld := mem_left_of_held hmem (congrArg TxTaskPc.held hsending)
    exact .inl hheld
  | @done item response ok hsending hlast =>
    rcases List.mem_cons.mp (mem_left_of_held hmem (congrArg TxTaskPc.held hsending)) with
      rfl | hqueue
    · -- The radio is done with the packet itself: it has transmitted it, for a response is kept.
      have htransmitted : ok = true := by
        cases ok with
        | true => rfl
        | false =>
          unfold KeepsPacket at hok
          rw [hsending] at hok
          exact hlast (hok rfl)
      refine .inr ?_
      unfold TxQueue.transmits
      rw [htransmitted, hsending]
      exact List.mem_singleton_self _
    · exact .inl hqueue
  | flagCleared hfinishing =>
    have hheld := mem_left_of_held hmem (congrArg TxTaskPc.held hfinishing)
    exact .inl hheld
  | roleTx => exact .inl hmem
  -- In a reset nothing is held, so that the packet would have to be in the queue.
  | roleRx houtside hwaiter =>
    exact absurd (mem_left_of_held hmem (congrArg TxTaskPc.held houtside)) (hok houtside hwaiter)
  | paused houtside hwaiter =>
    exact absurd (mem_left_of_held hmem (congrArg TxTaskPc.held houtside)) (hok houtside hwaiter)
  | waited => exact .inl hmem

end Queue

/-! ## The invariant -/

/-- A step does not make the restart come before the ACK: a queued END ACK is not dropped while the
delay runs, and is not in the queue any more when it is over. -/
def KeepsEndAck (device : RestartingProduct) : RestartInput → Prop
  | .queue label =>
      match device.reboot.awaited with
      | none => True
      | some packet => KeepsPacket device.txQueue packet label
  | .delayOver =>
      match device.reboot.awaited with
      | none => True
      | some packet => packet ∉ device.txQueue.left
  | _ => True

instance (device : RestartingProduct) (input : RestartInput) :
    Decidable (KeepsEndAck device input) :=
  match device, input with
  | ⟨_, _, _, _, .delaying packet true _, txQueue, _, _⟩, .queue label =>
      inferInstanceAs (Decidable (KeepsPacket txQueue packet label))
  | ⟨_, _, _, _, .delaying packet true _, txQueue, _, _⟩, .delayOver =>
      inferInstanceAs (Decidable (packet ∉ txQueue.left))
  | ⟨_, _, _, _, .delaying _ false _, _, _, _⟩, .queue _ => isTrue trivial
  | ⟨_, _, _, _, .delaying _ false _, _, _, _⟩, .delayOver => isTrue trivial
  | ⟨_, _, _, _, .none, _, _, _⟩, .queue _ => isTrue trivial
  | ⟨_, _, _, _, .none, _, _, _⟩, .delayOver => isTrue trivial
  | ⟨_, _, _, _, .restarted _, _, _, _⟩, .queue _ => isTrue trivial
  | ⟨_, _, _, _, .restarted _, _, _, _⟩, .delayOver => isTrue trivial
  | _, .product _ => isTrue trivial
  | _, .otaSend _ => isTrue trivial
  | _, .transmit _ _ _ => isTrue trivial

section Restart

variable (protocol : OtaProtocol) (sha256 : Bytes → Sha256Digest)
  (deriveSessionHopSeed : UInt32 → UInt32)
  (decodeAck : Bytes → Option (OtaPacketType × OtaAckFields))

/-- The packet acknowledges an END, and that of one of the sessions. -/
structure IsEndAck (selected : List UInt32) (packet : Bytes) : Prop where
  acknowledges : acknowledgesEnd decodeAck packet = true
  selected : AcksSelected decodeAck selected packet

/-- The restart is that of an END ACK which has been transmitted, or is still in the TX queue while
the delay runs. -/
def RebootFits (device : RestartingProduct) : Prop :=
  match device.reboot with
  | .none => True
  | .delaying packet queued _ => IsEndAck decodeAck device.selected packet ∧
      (packet ∈ device.transmitted ∨ (queued = true ∧ packet ∈ device.txQueue.left))
  | .restarted packet =>
      IsEndAck decodeAck device.selected packet ∧ packet ∈ device.transmitted

/-- The invariant of the restart. -/
structure RestartInv (device : RestartingProduct) : Prop where
  ends : EndInv device.selected device.product
  outbox : SendsSelected decodeAck device.selected device.outbox
  atMutex : ∀ packet, device.atMutex = some packet →
    AcksSelected decodeAck device.selected packet
  reboot : RebootFits decodeAck device

variable {protocol sha256 deriveSessionHopSeed decodeAck}

lemma AcksSelected.mono {selected selected' : List UInt32} {packet : Bytes}
    (h : AcksSelected decodeAck selected packet)
    (hsub : ∀ sessionId ∈ selected, sessionId ∈ selected') :
    AcksSelected decodeAck selected' packet :=
  fun fields hdecode hend => hsub _ (h fields hdecode hend)

variable {device : RestartingProduct}

/-- The send callback schedules the restart for a packet that the radio or the queue has taken. -/
lemma RestartInv.answered (h : RestartInv decodeAck device) {packet : Bytes}
    (hselected : AcksSelected decodeAck device.selected packet) {sent queued : Bool}
    (htaken : sent = true → packet ∈ device.transmitted ∨
      (queued = true ∧ packet ∈ device.txQueue.left)) (taskCreated : Bool) :
    RestartInv decodeAck (device.answered decodeAck packet sent queued taskCreated) := by
  unfold RestartingProduct.answered
  dsimp only
  by_cases hfinal : (sent && device.readyToReboot && acknowledgesEnd decodeAck packet) = true ∧
      device.reboot = .none
  · rw [if_pos hfinal]
    have hall := hfinal.1
    rw [Bool.and_eq_true, Bool.and_eq_true] at hall
    obtain ⟨⟨hsent, -⟩, hacknowledges⟩ := hall
    exact ⟨h.ends, h.outbox, h.atMutex, ⟨hacknowledges, hselected⟩, htaken hsent⟩
  · rw [if_neg hfinal]
    exact h

/-- The consumer gives a packet to `fhss_audio_adapter_ota_send`. -/
lemma restartInv_otaSend (h : RestartInv decodeAck device) (taskCreated : Bool) :
    RestartInv decodeAck (device.otaSend decodeAck taskCreated) := by
  unfold RestartingProduct.otaSend
  split
  · rename_i send rest hmutex houtbox
    have hsends := h.outbox
    rw [houtbox] at hsends
    have hpacket : AcksSelected decodeAck device.selected send.packet :=
      hsends send List.mem_cons_self
    have hrest : RestartInv decodeAck { device with outbox := rest } :=
      ⟨h.ends, fun other hother => hsends other (List.mem_cons_of_mem _ hother), h.atMutex,
        h.reboot⟩
    dsimp only
    split_ifs
    · exact hrest
    · -- The packet is queued, behind what the queue holds already.
      have hqueued : RestartInv decodeAck { device with
          outbox := rest
          txQueue := (txQueueStep device.txQueue (.sendData send.packet)).1 } := by
        refine ⟨h.ends, hrest.outbox, h.atMutex, ?_⟩
        have hreboot := h.reboot
        unfold RebootFits at hreboot ⊢
        dsimp only
        cases hphase : device.reboot with
        | none => trivial
        | delaying packet queued inline =>
          rw [hphase] at hreboot
          have hkept : KeepsPacket device.txQueue packet (.sendData send.packet) := trivial
          refine ⟨hreboot.1, hreboot.2.imp_right fun hleft => ⟨hleft.1, ?_⟩⟩
          exact (mem_left_or_transmits hleft.2 hkept).resolve_right List.not_mem_nil
        | restarted packet =>
          rw [hphase] at hreboot
          exact hreboot
      exact hqueued.answered hpacket (fun hsent => .inr ⟨rfl, mem_left_sendData hsent⟩)
        taskCreated
    · refine ⟨h.ends, hrest.outbox, fun packet hwaits => ?_, h.reboot⟩
      obtain rfl := Option.some.inj hwaits
      exact hpacket
  · exact h

/-- Having transmitted a packet does no harm. -/
lemma RebootFits.transmitted (h : RebootFits decodeAck device) (packets : List Bytes) :
    RebootFits decodeAck { device with transmitted := device.transmitted ++ packets } := by
  unfold RebootFits at h ⊢
  dsimp only
  cases hphase : device.reboot with
  | none => trivial
  | delaying packet queued inline =>
    rw [hphase] at h
    exact ⟨h.1, h.2.imp_left (List.mem_append_left _)⟩
  | restarted packet =>
    rw [hphase] at h
    exact ⟨h.1, List.mem_append_left _ h.2⟩

/-- The radio transmits a packet on the fixed channel. -/
lemma restartInv_transmit (h : RestartInv decodeAck device) (sent armed taskCreated : Bool) :
    RestartInv decodeAck (device.transmit decodeAck sent armed taskCreated) := by
  unfold RestartingProduct.transmit
  cases hmutex : device.atMutex with
  | none => exact h
  | some packet =>
    have htransmitted : RestartInv decodeAck { device with
        atMutex := none
        transmitted := device.transmitted ++ if sent = true then [packet] else [] } := by
      refine ⟨h.ends, h.outbox, fun other hother => ?_, h.reboot.transmitted _⟩
      cases hother
    refine htransmitted.answered (h.atMutex packet hmutex) (fun hok => .inl ?_) taskCreated
    rw [Bool.and_eq_true] at hok
    dsimp only
    rw [if_pos hok.1]
    exact List.mem_append_right _ (List.mem_singleton_self _)

/-- A step of the TX queue that does not drop the awaited ACK. -/
lemma restartInv_queueStep (h : RestartInv decodeAck device) {label : TxQueueLabel}
    (hok : KeepsEndAck device (.queue label)) :
    RestartInv decodeAck (device.queueStep label) := by
  refine ⟨h.ends, h.outbox, h.atMutex, ?_⟩
  have hreboot := h.reboot
  unfold KeepsEndAck at hok
  unfold RebootFits at hreboot ⊢
  unfold RestartingProduct.queueStep
  dsimp only
  cases hphase : device.reboot with
  | none => trivial
  | delaying packet queued inline =>
    rw [hphase] at hreboot hok
    refine ⟨hreboot.1, ?_⟩
    rcases hreboot.2 with htransmitted | ⟨rfl, hleft⟩
    · exact .inl (List.mem_append_left _ htransmitted)
    · rcases mem_left_or_transmits hleft hok with hleft' | htransmits
      · exact .inr ⟨rfl, hleft'⟩
      · exact .inl (List.mem_append_right _ htransmits)
  | restarted packet =>
    rw [hphase] at hreboot
    exact ⟨hreboot.1, List.mem_append_left _ hreboot.2⟩

/-- A step of the product. -/
lemma restartInv_productStep (codec : AckCodec protocol decodeAck)
    (h : RestartInv decodeAck device) (input : ProductInput) :
    RestartInv decodeAck
      (device.productStep protocol sha256 deriveSessionHopSeed input) := by
  unfold RestartingProduct.productStep
  by_cases hbusy : input.isOfConsumer = true ∧ device.isSending = true
  · rw [if_pos hbusy]
    exact h
  rw [if_neg hbusy]
  have hwell := endsWell_productStep codec sha256 deriveSessionHopSeed h.ends input
  have hsub : ∀ sessionId ∈ device.selected,
      sessionId ∈ device.selected ++ device.product.selects sha256 input :=
    fun _ => List.mem_append_left _
  refine ⟨hwell.inv, fun send hsend => ?_, fun packet hpacket => ?_, ?_⟩
  · rcases List.mem_append.mp hsend with hold | hnew
    · exact (h.outbox send hold).mono hsub
    · exact hwell.sends send hnew
  · exact (h.atMutex packet hpacket).mono hsub
  · have hreboot := h.reboot
    unfold RebootFits at hreboot ⊢
    dsimp only
    cases hphase : device.reboot with
    | none => trivial
    | delaying packet queued inline =>
      rw [hphase] at hreboot
      exact ⟨⟨hreboot.1.acknowledges, hreboot.1.selected.mono hsub⟩, hreboot.2⟩
    | restarted packet =>
      rw [hphase] at hreboot
      exact ⟨⟨hreboot.1.acknowledges, hreboot.1.selected.mono hsub⟩, hreboot.2⟩

/-- The delay is over, and the awaited ACK is not in the queue any more. -/
lemma restartInv_delayOver (h : RestartInv decodeAck device) {packet : Bytes}
    {queued inline : Bool} (hphase : device.reboot = .delaying packet queued inline)
    (hok : KeepsEndAck device .delayOver) :
    RestartInv decodeAck { device with reboot := .restarted packet } := by
  have hreboot := h.reboot
  unfold KeepsEndAck at hok
  unfold RebootFits at hreboot
  rw [hphase] at hreboot hok
  refine ⟨h.ends, h.outbox, h.atMutex, hreboot.1, ?_⟩
  rcases hreboot.2 with htransmitted | ⟨rfl, hleft⟩
  · exact htransmitted
  · exact absurd hleft hok

/-- Every step that meets the condition keeps the invariant. -/
lemma restartInv_restartStep (codec : AckCodec protocol decodeAck)
    (h : RestartInv decodeAck device) (input : RestartInput) (hok : KeepsEndAck device input) :
    RestartInv decodeAck
      (restartStep protocol sha256 deriveSessionHopSeed decodeAck device input).1 := by
  unfold restartStep
  dsimp only
  split
  · exact h
  cases input with
  | product input => exact restartInv_productStep codec h input
  | otaSend taskCreated => exact restartInv_otaSend h taskCreated
  | transmit sent armed taskCreated => exact restartInv_transmit h sent armed taskCreated
  | queue label =>
    cases label with
    | receive =>
      dsimp only
      split_ifs
      · exact restartInv_queueStep h hok
      · exact h
    | _ => exact restartInv_queueStep h hok
  | delayOver =>
    cases hphase : device.reboot with
    | delaying packet queued inline => exact restartInv_delayOver h hphase hok
    | none => exact h
    | restarted packet => exact h

variable (protocol sha256 deriveSessionHopSeed decodeAck)

/-- **The ACK before the restart.**  In a run in which a queued END ACK is not dropped while the
delay runs, and has left the queue when it is over, the chip restarts only when the radio has
transmitted the ACK of an END, and the image of the session it acknowledges has been set as boot
partition. -/
theorem restarts_after_end_ack (codec : AckCodec protocol decodeAck) (store : FhssConfigStore)
    {inputs : List RestartInput}
    (hguarded : Guarded (restartStep protocol sha256 deriveSessionHopSeed decodeAck) KeepsEndAck
      (.boot store) inputs) {packet : Bytes}
    (hrestarted : (finalState (restartStep protocol sha256 deriveSessionHopSeed decodeAck)
      (.boot store) inputs).reboot = .restarted packet) :
    let device := finalState (restartStep protocol sha256 deriveSessionHopSeed decodeAck)
      (.boot store) inputs
    packet ∈ device.transmitted ∧
      ∃ fields, decodeAck packet = some (.ack, fields) ∧ fields.acknowledgedType = .end ∧
        fields.sessionId ∈ device.selected := by
  intro device
  have hboot : RestartInv decodeAck (.boot store) := by
    refine ⟨⟨fun fields hfields => ?_, fun hready => ?_⟩, sendsSelected_nil,
      fun other hother => ?_, trivial⟩
    · cases hfields
    · cases hready
    · cases hother
  have hinv : RestartInv decodeAck device :=
    @invariant_finalState _ _ _ (restartStep protocol sha256 deriveSessionHopSeed decodeAck)
      (RestartInv decodeAck) KeepsEndAck
      (fun _ input h hok => restartInv_restartStep codec h input hok) _ hboot _ hguarded
  have hreboot := hinv.reboot
  unfold RebootFits at hreboot
  change device.reboot = .restarted packet at hrestarted
  rw [hrestarted] at hreboot
  obtain ⟨⟨hacknowledges, hselected⟩, htransmitted⟩ := hreboot
  refine ⟨htransmitted, ?_⟩
  unfold acknowledgesEnd at hacknowledges
  split at hacknowledges
  · rename_i fields hdecode
    have hend : fields.acknowledgedType = .end := by simpa using hacknowledges
    exact ⟨fields, hdecode, hend, hselected fields hdecode hend⟩
  · cases hacknowledges

end Restart

/-! ## An ACK that never leaves -/

/-- The consumer sends at once, and the service transmits as soon as it looks into its queue. -/
def promptly (inputs : List ProductInput) : List RestartInput :=
  inputs.flatMap fun input =>
    [.product input, .otaSend true, .transmit true true true, .queue .receive, .queue .setFlag,
      .queue (.transmit true), .queue .clearFlag]

/-- An update on the fixed channel, to its end. -/
def fixedUpdate : List RestartInput :=
  promptly (sampleMenuOta ++ sampleOpen ++ sampleFinish ++ [sampleConsumerTask]) ++ [.delayOver]

/-- The chip at the end of a run of the sample product. -/
def runRestart (inputs : List RestartInput) : RestartingProduct :=
  finalState (restartStep ackProtocol sampleSha256 sampleDerive plainDecodeAck)
    (.boot sampleStore) inputs

/-- The ACK of the sample END. -/
def sampleEndAck : Bytes := [4, 3, 0] ++ u32LeBytes 7 ++ u32LeBytes 0xFFFFFFFF

/-- At the end of the update on the fixed channel the chip restarts, and the ACK of session 7 has
been transmitted. -/
theorem restarts_after_end_ack_fixed :
    sampleEndAck ∈ (runRestart fixedUpdate).transmitted ∧
      ∃ fields, plainDecodeAck sampleEndAck = some (.ack, fields) ∧
        fields.acknowledgedType = .end ∧
        fields.sessionId ∈ (runRestart fixedUpdate).selected :=
  restarts_after_end_ack ackProtocol sampleSha256 sampleDerive plainDecodeAck
    ackCodec_ackProtocol sampleStore (by decide +kernel) (by decide +kernel)

/-- An update while OTA hops.  Synchronization fades while the image is verified; the END ACK is
queued when the service has just left a slot, the next slot is the fifth without a packet, and
`fsm_task` reacts to the loss before the delay is over. -/
def hoppingUpdate : List RestartInput :=
  promptly (sampleMenuOta ++ sampleHopping 8 ++ sampleAcquire 8 ++
      [sampleCallback, sampleCallback, sampleFsmTask] ++ sampleOpen ++ sampleFinish ++
      [sampleOtaMiss 1400100, sampleOtaMiss 1600100, sampleOtaMiss 1800100,
        sampleOtaMiss 2000100]) ++
    [.product sampleConsumerTask, .otaSend true] ++
    promptly (sampleOtaMiss 2200100 :: sampleCallback :: List.replicate 5 sampleFsmTask) ++
    [.delayOver]

/-- The chip restarts, and the END ACK has not left the queue. -/
theorem restarts_without_end_ack :
    (runRestart hoppingUpdate).reboot = .restarted sampleEndAck ∧
      acknowledgesEnd plainDecodeAck sampleEndAck = true ∧
      (runRestart hoppingUpdate).txQueue.queue = [sampleEndAck] ∧
      ∀ packet ∈ (runRestart hoppingUpdate).transmitted,
        acknowledgesEnd plainDecodeAck packet = false := by
  decide +kernel

end FhssOtaRadio
