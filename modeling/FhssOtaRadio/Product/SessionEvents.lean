import FhssOtaRadio.Product.SessionRefinement

/-!
# When a session begins, ends and fails

The events STARTED, APPLYING, COMPLETED and FAILED of the client mark where a session begins, where
an END is accepted, where the image is found good and where the session fails.  The predicates here
say of a state and an input, by the checks of the client, that the step will do so;
`productStep_raises` says that the step raises the events in no other case.
-/

namespace FhssOtaRadio

variable (protocol : OtaProtocol) (sha256 : Bytes → Sha256Digest)
  (deriveSessionHopSeed : UInt32 → UInt32)

/-- An outcome of the client or the consumer reports a failed session. -/
def reportsFailure (events : List OtaClientEventCall) : Bool :=
  events.any fun call => call.event == .failed

/-- The packet that the waiting consumer takes next, and the client without it. -/
def Product.nextPacket (product : Product) : Option (Bytes × OtaClientContext) :=
  match product.consumer, otaClientReceivePacket product.client with
  | .waiting, (.ok packet, client) => some (packet, client)
  | _, _ => none

/-- The consumer opens a session for the START it has checked. -/
def Product.opensSession (product : Product) : ProductInput → Bool
  | .consumerTask hal =>
      match product.consumer with
      | .starting fields =>
          (otaClientStartSession product.client fields.sessionId fields.imageSize
            fields.totalChunks (some fields.imageSha256) hal.ota hal.now).err == .ok
      | _ => false
  | _ => false

/-- The consumer takes an END that passes the checks of the session. -/
def Product.acceptsEnd (product : Product) : ProductInput → Bool
  | .consumerTask _ =>
      match product.nextPacket with
      | some (packet, client) =>
          protocol.peekType packet == some .end &&
            match otaConsumerEndChecks protocol client packet with
            | .inl _ => false
            | .inr fields =>
                otaClientFinishChecks client fields.sessionId fields.imageSize
                  fields.totalChunks == none
      | none => false
  | _ => false

/-- The consumer cannot begin to write the image, cannot write a chunk, or finds the image bad. -/
def Product.failsSession (product : Product) : ProductInput → Bool
  | .consumerTask hal =>
      match product.consumer with
      | .starting fields =>
          reportsFailure (otaClientStartSession product.client fields.sessionId fields.imageSize
            fields.totalChunks (some fields.imageSha256) hal.ota hal.now).events
      | .verifying _ => (otaClientVerifyImage sha256 product.client hal.ota).err != .ok
      | _ =>
          match product.nextPacket with
          | some (packet, client) =>
              protocol.peekType packet == some .data &&
                reportsFailure (otaConsumerHandleData protocol ⟨client, product.store⟩ packet
                  (hal.env product)).events
          | none => false
  | _ => false

/-- The consumer finds the image good. -/
def Product.completesSession (product : Product) : ProductInput → Bool
  | .consumerTask hal =>
      match product.consumer with
      | .verifying _ => (otaClientVerifyImage sha256 product.client hal.ota).err == .ok
      | _ => false
  | _ => false

/-- What a step that raises an event of the client does. -/
def Product.Raises (product : Product) (input : ProductInput) : OtaClientEvent → Prop
  | .started => product.opensSession input = true
  | .applying => product.acceptsEnd protocol input = true
  | .completed => product.completesSession sha256 input = true
  | .failed => product.failsSession protocol sha256 input = true
  | _ => True

section

variable {product : Product} {input : ProductInput}

/-- An event of the client is an effect when it is raised. -/
lemma client_mem_clientEvents {product : Product} {events : List OtaClientEventCall}
    {event : OtaClientEvent} (hmem : .client event ∈ (product.clientEvents events).2) :
    ∃ call ∈ events, call.event = event := by
  unfold Product.clientEvents at hmem
  obtain ⟨call, hcall, heq⟩ := List.mem_map.mp hmem
  exact ⟨call, hcall, ProductEffect.client.inj heq⟩

/-- Answers are no events. -/
lemma client_not_mem_sends (sends : List OtaSend) (event : OtaClientEvent) :
    .client event ∉ sends.map ProductEffect.send := by
  intro hmem
  obtain ⟨answer, -, heq⟩ := List.mem_map.mp hmem
  cases heq

/-- An emitted event is the one that is emitted. -/
lemma event_of_mem_emit {context : OtaClientContext} {event : OtaClientEvent}
    {percent : UInt32} {err : EspErr} {call : OtaClientEventCall}
    (hcall : call ∈ context.emit event percent err) : call.event = event := by
  unfold OtaClientContext.emit at hcall
  by_cases hset : context.config.eventCallback = true
  · rw [if_pos hset] at hcall
    rw [List.mem_singleton.mp hcall]
  · rw [if_neg hset] at hcall
    cases hcall

/-- Quiet events are no steps of a session. -/
lemma QuietEvents.event_eq {context : OtaClientContext} {events : List OtaClientEventCall}
    (h : QuietEvents context events) {call : OtaClientEventCall} (hcall : call ∈ events) :
    call.event = .progress ∨ call.event = .fhssConfigReady := by
  rcases h with rfl | ⟨event, percent, err, hevent, rfl⟩
  · cases hcall
  · rw [event_of_mem_emit hcall]
    exact hevent

/-- A failure among the events is reported. -/
lemma reportsFailure_of_mem {events : List OtaClientEventCall} {call : OtaClientEventCall}
    (hcall : call ∈ events) (hfailed : call.event = .failed) : reportsFailure events = true :=
  List.any_eq_true.mpr ⟨call, hcall, beq_iff_eq.mpr hfailed⟩

/-- The events of a handler, as effects. -/
lemma client_mem_handled {outcome : OtaConsumerOutcome} {event : OtaClientEvent}
    (hmem : .client event ∈ (product.handled outcome).2) :
    ∃ call ∈ outcome.events, call.event = event := by
  unfold Product.handled at hmem
  rcases List.mem_append.mp hmem with hmem | hmem
  · exact client_mem_clientEvents hmem
  · exact absurd hmem (client_not_mem_sends _ _)

/-- An abort raises no event but ABORTED. -/
lemma raises_abort {hal : OtaHal} {event : OtaClientEvent}
    (hmem : .client event ∈ (product.ran (otaClientAbort product.client hal)).2) :
    event = .aborted := by
  obtain ⟨call, hcall, rfl⟩ := client_mem_clientEvents hmem
  exact (otaClientAbort_state product.client hal).2.2 call hcall

/-- `fsm_task` raises no event but ABORTED. -/
lemma raises_fsmTask {hal : FsmTaskHal} {event : OtaClientEvent}
    (hmem : .client event ∈ (product.fsmTask protocol deriveSessionHopSeed hal).2) :
    event = .aborted := by
  unfold Product.fsmTask at hmem
  cases htask : product.task with
  | nil =>
    rw [htask] at hmem
    cases hevents : product.events with
    | nil =>
      rw [hevents] at hmem
      cases hmem
    | cons first rest =>
      rw [hevents] at hmem
      cases hmem
  | cons action rest =>
    rw [htask] at hmem
    dsimp only at hmem
    by_cases hblocked : product.blocked action = true
    · rw [if_pos hblocked] at hmem
      cases hmem
    rw [if_neg hblocked] at hmem
    unfold Product.act at hmem
    cases action with
    | abort => exact @raises_abort { product with task := rest } hal.ota event hmem
    | abortInterrupted =>
      dsimp only at hmem
      split_ifs at hmem
      · exact @raises_abort { product with task := rest } hal.ota event hmem
      · cases hmem
    | armTimer timer =>
      cases timer with
      | sync => cases hmem
      | resync =>
        dsimp only at hmem
        split_ifs at hmem <;> cases hmem
    | bootInit =>
      dsimp only at hmem
      split_ifs at hmem <;> cases hmem
    | _ => cases hmem

/-- A DISCOVER packet raises no event. -/
lemma events_otaConsumerHandleDiscover (state : OtaConsumerState) (env : OtaConsumerEnv) :
    (otaConsumerHandleDiscover protocol state env).events = [] := by
  unfold otaConsumerHandleDiscover
  split_ifs
  · rfl
  · rfl
  · dsimp only
    split <;> rfl

/-- A CONFIG packet raises FHSS_CONFIG_READY at most. -/
lemma raises_otaConsumerHandleFhssConfig {state : OtaConsumerState} {packet : Bytes}
    {env : OtaConsumerEnv} {call : OtaClientEventCall}
    (hcall : call ∈ (otaConsumerHandleFhssConfig protocol state packet env).events) :
    call.event = .fhssConfigReady := by
  unfold otaConsumerHandleFhssConfig at hcall
  cases hdecode : protocol.decodeFhssConfig packet with
  | none =>
    rw [hdecode] at hcall
    cases hcall
  | some fields =>
    rw [hdecode] at hcall
    dsimp only at hcall
    split_ifs at hcall
    · cases hcall
    · cases hcall
    · cases hcall
    · exact event_of_mem_emit hcall
    · cases hcall

/-- A packet other than START, END and ACTIVATE raises the failure of a chunk at most. -/
lemma raises_otherPacket {state : OtaConsumerState} {packet : Bytes} {env : OtaConsumerEnv}
    {call : OtaClientEventCall} (hstart : protocol.peekType packet ≠ some .start)
    (hend : protocol.peekType packet ≠ some .end)
    (hactivate : protocol.peekType packet ≠ some .fhssActivate)
    (hcall : call ∈ (otaConsumerProcessPacket protocol sha256 state packet env).events) :
    call.event = .progress ∨ call.event = .fhssConfigReady ∨
      (call.event = .failed ∧ protocol.peekType packet = some .data ∧
        call ∈ (otaConsumerHandleData protocol state packet env).events) := by
  have hquiet := otaConsumerProcessPacket_state protocol sha256 state packet env hstart hend
    hactivate
  unfold otaConsumerProcessPacket at hcall
  split at hcall
  · split_ifs at hcall
    · rw [events_otaConsumerHandleDiscover] at hcall
      cases hcall
    · cases hcall
  · contradiction
  · rename_i hdata
    have hsame : otaConsumerProcessPacket protocol sha256 state packet env =
        otaConsumerHandleData protocol state packet env := by
      unfold otaConsumerProcessPacket
      rw [hdata]
    rw [hsame] at hquiet
    obtain ⟨-, ⟨-, hquiet⟩ | ⟨-, -, err, hfailed⟩⟩ := hquiet
    · exact (hquiet.event_eq hcall).imp id .inl
    · refine .inr (.inr ⟨?_, hdata, hcall⟩)
      rw [hfailed] at hcall
      exact event_of_mem_emit hcall
  · contradiction
  · exact .inr (.inl (raises_otaConsumerHandleFhssConfig protocol hcall))
  · contradiction
  · cases hcall

/-- The consumer that takes a packet is waiting. -/
lemma consumer_of_nextPacket {packet : Bytes} {client : OtaClientContext}
    (hnext : product.nextPacket = some (packet, client)) : product.consumer = .waiting := by
  unfold Product.nextPacket at hnext
  split at hnext
  · assumption
  · cases hnext

/-- It takes the packet that it receives. -/
lemma nextPacket_of_receive {packet : Bytes} {client : OtaClientContext}
    (hconsumer : product.consumer = .waiting)
    (hreceive : otaClientReceivePacket product.client = (.ok packet, client)) :
    product.nextPacket = some (packet, client) := by
  unfold Product.nextPacket
  rw [hconsumer, hreceive]

/-- What the waiting consumer raises for a packet. -/
lemma raises_processPacket {client : OtaClientContext} {packet : Bytes} {hal : ConsumerTaskHal}
    {event : OtaClientEvent} (hnext : product.nextPacket = some (packet, client))
    (hmem : .client event ∈
      ({ product with client := client }.processPacket protocol sha256 packet hal).2) :
    product.Raises protocol sha256 (.consumerTask hal) event := by
  have hanswer : ∀ sends, .client event ∉ (product.answer sends).2 :=
    fun sends => client_not_mem_sends sends event
  unfold Product.processPacket at hmem
  dsimp only at hmem
  split at hmem
  · split at hmem
    · exact absurd hmem (hanswer _)
    · cases hmem
  · rename_i hpeek
    cases hend : otaConsumerEndChecks protocol client packet with
    | inl sends =>
      rw [hend] at hmem
      exact absurd hmem (hanswer _)
    | inr fields =>
      rw [hend] at hmem
      dsimp only at hmem
      cases hchecks : otaClientFinishChecks client fields.sessionId fields.imageSize
          fields.totalChunks with
      | some err =>
        rw [hchecks] at hmem
        exact absurd hmem (hanswer _)
      | none =>
        rw [hchecks] at hmem
        obtain ⟨call, hcall, rfl⟩ := client_mem_clientEvents hmem
        rw [event_of_mem_emit hcall]
        change product.acceptsEnd protocol (.consumerTask hal) = true
        unfold Product.acceptsEnd
        dsimp only
        rw [hnext]
        simp [hpeek, hend, hchecks]
  · cases hactivate : otaConsumerActivateChecks protocol ⟨client, product.store⟩ packet hal.send
        hal.nvs with
    | inl sends =>
      rw [hactivate] at hmem
      exact absurd hmem (hanswer _)
    | inr answered =>
      rw [hactivate] at hmem
      rcases List.mem_append.mp hmem with hmem | hmem
      · obtain ⟨call, hcall, rfl⟩ := client_mem_clientEvents hmem
        rw [event_of_mem_emit hcall]
        trivial
      · exact absurd hmem (client_not_mem_sends _ _)
  · rename_i hstart hend hactivate
    obtain ⟨call, hcall, rfl⟩ := client_mem_handled hmem
    rcases raises_otherPacket protocol sha256 hstart hend hactivate hcall with
      hevent | hevent | ⟨hevent, hpeek, hdata⟩
    · rw [hevent]
      trivial
    · rw [hevent]
      trivial
    · rw [hevent]
      change product.failsSession protocol sha256 (.consumerTask hal) = true
      unfold Product.failsSession
      dsimp only
      rw [consumer_of_nextPacket hnext, hnext]
      simp only [hpeek, beq_self_eq_true, Bool.true_and]
      exact reportsFailure_of_mem hdata hevent

/-- What opening a session raises. -/
lemma raises_openSession {hal : ConsumerTaskHal} {fields : OtaStartFields}
    {call : OtaClientEventCall} (hphase : product.consumer = .starting fields)
    (hcall : call ∈ (otaClientStartSession product.client fields.sessionId fields.imageSize
      fields.totalChunks (some fields.imageSha256) hal.ota hal.now).events) :
    product.Raises protocol sha256 (.consumerTask hal) call.event := by
  by_cases hopened : (otaClientStartSession product.client fields.sessionId fields.imageSize
      fields.totalChunks (some fields.imageSha256) hal.ota hal.now).err = .ok
  · obtain ⟨digest, partition, -, -, -, -, heq⟩ := otaClientStartSession_ok hopened
    have hevent : call.event = .started := by
      rw [heq] at hcall
      exact event_of_mem_emit hcall
    rw [hevent]
    change product.opensSession (.consumerTask hal) = true
    unfold Product.opensSession
    dsimp only
    rw [hphase]
    exact beq_iff_eq.mpr hopened
  · have hfailed : call.event = .failed := by
      obtain ⟨-, ⟨-, hnone⟩ | ⟨-, hreceiving, -⟩ | ⟨-, -, err, hevents⟩⟩ :=
        otaClientStartSession_state product.client fields.sessionId fields.imageSize
          fields.totalChunks (some fields.imageSha256) hal.ota hal.now
      · rw [hnone] at hcall
        cases hcall
      · rcases otaClientStartSession_of_err hopened with ⟨err, -, heq⟩ | herror
        · rw [heq] at hcall
          cases hcall
        · rw [hreceiving] at herror
          cases herror
      · rw [hevents] at hcall
        exact event_of_mem_emit hcall
    rw [hfailed]
    change product.failsSession protocol sha256 (.consumerTask hal) = true
    unfold Product.failsSession
    dsimp only
    rw [hphase]
    exact reportsFailure_of_mem hcall hfailed

/-- The verification raises COMPLETED when it succeeds, and FAILED when not. -/
lemma event_otaClientVerifyImage {context : OtaClientContext} {hal : OtaHal}
    {call : OtaClientEventCall} (hcall : call ∈ (otaClientVerifyImage sha256 context hal).events) :
    ((otaClientVerifyImage sha256 context hal).err = .ok ∧ call.event = .completed) ∨
      ((otaClientVerifyImage sha256 context hal).err ≠ .ok ∧ call.event = .failed) := by
  unfold otaClientVerifyImage at hcall ⊢
  dsimp only at hcall ⊢
  split_ifs at hcall ⊢ with hfailed
  · exact .inr ⟨hfailed, event_of_mem_emit hcall⟩
  · exact .inl ⟨rfl, event_of_mem_emit hcall⟩

/-- What verifying an image raises. -/
lemma raises_verify {hal : ConsumerTaskHal} {fields : OtaEndFields} {call : OtaClientEventCall}
    (hphase : product.consumer = .verifying fields)
    (hcall : call ∈ (otaClientVerifyImage sha256 product.client hal.ota).events) :
    product.Raises protocol sha256 (.consumerTask hal) call.event := by
  rcases event_otaClientVerifyImage sha256 hcall with ⟨hverified, hevent⟩ | ⟨hfailed, hevent⟩
  · rw [hevent]
    change product.completesSession sha256 (.consumerTask hal) = true
    unfold Product.completesSession
    dsimp only
    rw [hphase]
    exact beq_iff_eq.mpr hverified
  · rw [hevent]
    change product.failsSession protocol sha256 (.consumerTask hal) = true
    unfold Product.failsSession
    dsimp only
    rw [hphase]
    exact bne_iff_ne.mpr hfailed

/-- What the consumer task raises. -/
lemma raises_consumerTask {hal : ConsumerTaskHal} {event : OtaClientEvent}
    (hmem : .client event ∈
      (product.consumerTask protocol sha256 deriveSessionHopSeed hal).2) :
    product.Raises protocol sha256 (.consumerTask hal) event := by
  unfold Product.consumerTask at hmem
  by_cases htask : product.client.consumerTask = false
  · rw [if_pos htask] at hmem
    cases hmem
  rw [if_neg htask] at hmem
  have hdone : ∀ {product' : Product} {pending err},
      .client event ∈ (product'.activationDone pending err).2 → event = .fhssActivateFailed := by
    intro product' pending err hmem
    unfold Product.activationDone at hmem
    split_ifs at hmem
    · simp at hmem
    · rcases List.mem_cons.mp hmem with heq | hmem
      · cases heq
      · obtain ⟨call, hcall, rfl⟩ := client_mem_clientEvents hmem
        exact event_of_mem_emit hcall
  cases hphase : product.consumer with
  | waiting =>
    rw [hphase] at hmem
    dsimp only at hmem
    rcases hreceived : otaClientReceivePacket product.client with ⟨answer, client⟩
    rw [hreceived] at hmem
    cases answer with
    | ok packet =>
      have hnext := nextPacket_of_receive hphase hreceived
      have hmem' : .client event ∈
          ({ product with client := client }.processPacket protocol sha256 packet hal).2 := by
        rw [hphase]
        exact hmem
      exact raises_processPacket protocol sha256 hnext hmem'
    | error err =>
      obtain ⟨call, hcall, -⟩ := client_mem_handled hmem
      rw [(otaConsumerHandleReceiveTimeout_state protocol ⟨client, product.store⟩
        hal.timeoutTicks hal.now).2.2] at hcall
      cases hcall
  | starting fields =>
    rw [hphase] at hmem
    obtain ⟨call, hcall, rfl⟩ := client_mem_handled hmem
    exact raises_openSession protocol sha256 hphase hcall
  | verifying fields =>
    rw [hphase] at hmem
    rcases List.mem_append.mp hmem with hmem | hmem
    · obtain ⟨call, hcall, rfl⟩ := client_mem_clientEvents hmem
      exact raises_verify protocol sha256 hphase hcall
    · exact absurd hmem (client_not_mem_sends _ _)
  | activating pending =>
    rw [hphase] at hmem
    dsimp only at hmem
    split_ifs at hmem
    · rw [hdone hmem]
      trivial
    · rw [hdone hmem]
      trivial
    · cases hmem
  | enteringFhss pending =>
    rw [hphase] at hmem
    dsimp only at hmem
    split_ifs at hmem
    · cases hmem
    · rw [hdone hmem]
      trivial
  | showingFailure =>
    rw [hphase] at hmem
    cases hmem

/-- **The events of a session.**  STARTED, APPLYING, COMPLETED and FAILED are raised by the steps
that open, close, complete and fail a session, and by no others. -/
theorem productStep_raises {event : OtaClientEvent}
    (hmem : .client event ∈
      (productStep protocol sha256 deriveSessionHopSeed product input).2) :
    product.Raises protocol sha256 input event := by
  cases input with
  | consumerTask hal => exact raises_consumerTask protocol sha256 deriveSessionHopSeed hmem
  | fsmTask hal =>
    rw [raises_fsmTask protocol deriveSessionHopSeed hmem]
    trivial
  | serviceCallback nvs =>
    unfold productStep Product.serviceCallback at hmem
    dsimp only at hmem
    split at hmem
    · cases hmem
    · split at hmem <;> cases hmem
    · cases hmem
    · cases hmem
    · simp at hmem
  | rxDone => cases hmem
  | onPttEvent => cases hmem
  | serviceTurn turn => cases hmem
  | timerCommand =>
    unfold productStep at hmem
    dsimp only at hmem
    split at hmem <;> cases hmem
  | _ =>
    unfold productStep at hmem
    dsimp only at hmem
    split_ifs at hmem <;> cases hmem

end

end FhssOtaRadio
