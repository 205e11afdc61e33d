import FhssOtaRadio.Product.Session

/-!
# Every step of the product is a step of the session

What each operation of the client does to its state and which event it raises, and from it that
`Product.session` maps the steps of the product to steps of the session.
-/

namespace FhssOtaRadio

open EventQueue

/-! ## Steps of the client -/

/-- A client operation leaves the configuration and the consumer task alone. -/
structure SameSettings (context context' : OtaClientContext) : Prop where
  config_eq : context'.config = context.config
  consumerTask_eq : context'.consumerTask = context.consumerTask

section Client

variable {context : OtaClientContext}

lemma SameSettings.refl (context : OtaClientContext) : SameSettings context context := ⟨rfl, rfl⟩

/-- `ota_client_init` sets the client up, or fails and leaves it as it was or zero. -/
lemma otaClientInit_of_some (protocol : OtaProtocol) (context : OtaClientContext)
    (config : OtaClientConfig) (storeErr : EspErr) (queueCreated : Bool) :
    otaClientInit protocol context (some config) storeErr queueCreated =
        (.ok, { OtaClientContext.zero with rxQueue := some [], config := config, state := .idle }) ∨
    ∃ err context', err ≠ .ok ∧
      otaClientInit protocol context (some config) storeErr queueCreated = (err, context') ∧
      (context' = context ∨ context' = .zero) := by
  unfold otaClientInit
  dsimp only
  split_ifs with hsend hid harg hstate hstore hqueue
  · exact .inr ⟨_, _, by decide, rfl, .inl rfl⟩
  · exact .inr ⟨_, _, by decide, rfl, .inl rfl⟩
  · exact .inr ⟨_, _, by decide, rfl, .inl rfl⟩
  · exact .inr ⟨_, _, by decide, rfl, .inl rfl⟩
  · exact .inr ⟨_, _, hstore, rfl, .inl rfl⟩
  · exact .inr ⟨_, _, by decide, rfl, .inr rfl⟩
  · exact .inl rfl

/-- What `ota_client_start_session` does to the state, with the event it raises. -/
lemma otaClientStartSession_state (context : OtaClientContext)
    (sessionId imageSize totalChunks : UInt32) (expectedSha256 : Option Sha256Digest)
    (hal : OtaHal) (now : UInt32) :
    let outcome := otaClientStartSession context sessionId imageSize totalChunks expectedSha256
      hal now
    SameSettings context outcome.context ∧
    ((outcome.context.state = context.state ∧ outcome.events = []) ∨
      (context.state = .idle ∧ outcome.context.state = .receiving ∧
        outcome.events = context.emit .started 0 .ok) ∨
      (context.state = .idle ∧ outcome.context.state = .error ∧
        ∃ err, outcome.events = context.emit .failed 0 err)) := by
  unfold otaClientStartSession
  cases expectedSha256 with
  | none => exact ⟨.refl context, .inl ⟨rfl, rfl⟩⟩
  | some digest =>
    dsimp only
    split_ifs with hzero hsize hstate hbegin
    · exact ⟨.refl context, .inl ⟨rfl, rfl⟩⟩
    · exact ⟨.refl context, .inl ⟨rfl, rfl⟩⟩
    · exact ⟨.refl context, .inl ⟨rfl, rfl⟩⟩
    · exact ⟨⟨rfl, rfl⟩, .inr (.inr ⟨not_ne_iff.mp hstate, rfl, _, rfl⟩)⟩
    · exact ⟨⟨rfl, rfl⟩, .inr (.inl ⟨not_ne_iff.mp hstate, rfl, rfl⟩)⟩

/-- What `ota_client_write_chunk` does to the state, with the event it raises. -/
lemma otaClientWriteChunk_state (context : OtaClientContext) (sessionId sequence : UInt32)
    (data : Option Bytes) (hal : OtaHal) (now : UInt32) :
    let outcome := otaClientWriteChunk context sessionId sequence data hal now
    SameSettings context outcome.context ∧
    ((outcome.context.state = context.state ∧
        (outcome.events = [] ∨ ∃ percent, outcome.events = context.emit .progress percent .ok)) ∨
      (context.state = .receiving ∧ outcome.context.state = .error ∧
        ∃ err, outcome.events = context.emit .failed 0 err)) := by
  obtain ⟨err, -, heq⟩ | ⟨bytes, -, hadm, ⟨-, heq⟩ | ⟨index, -, -, -, -, heq⟩⟩ :=
    otaClientWriteChunk_cases context sessionId sequence data hal now
  · rw [heq]
    exact ⟨.refl context, .inl ⟨rfl, .inl rfl⟩⟩
  · rw [heq]
    exact ⟨.refl context, .inl ⟨rfl, .inl rfl⟩⟩
  · rw [heq]
    by_cases hcomplete :
        otaBatchCacheIsComplete (context.batchCache.fillSlot index bytes) = false
    · rw [if_pos hcomplete]
      exact ⟨⟨rfl, rfl⟩, .inl ⟨rfl, .inl rfl⟩⟩
    · rw [if_neg hcomplete]
      unfold otaClientCommitBatch
      dsimp only
      split
      · exact ⟨⟨rfl, rfl⟩, .inl ⟨rfl, .inr ⟨_, rfl⟩⟩⟩
      · exact ⟨⟨rfl, rfl⟩, .inr ⟨hadm.receiving, rfl, _, rfl⟩⟩

/-- What the verification of an image does to the state, with the event it raises. -/
lemma otaClientVerifyImage_state (sha256 : Bytes → Sha256Digest) (context : OtaClientContext)
    (hal : OtaHal) :
    let outcome := otaClientVerifyImage sha256 context hal
    SameSettings context outcome.context ∧
    ((outcome.context.state = .readyToReboot ∧
        outcome.events = context.emit .completed 100 .ok) ∨
      (outcome.context.state = .error ∧ ∃ err, outcome.events = context.emit .failed 100 err)) := by
  unfold otaClientVerifyImage
  dsimp only
  split_ifs
  · exact ⟨⟨rfl, rfl⟩, .inr ⟨rfl, _, rfl⟩⟩
  · exact ⟨⟨rfl, rfl⟩, .inl ⟨rfl, rfl⟩⟩

/-- What an abort does to the state; its event is only logged. -/
lemma otaClientAbort_state (context : OtaClientContext) (hal : OtaHal) :
    let outcome := otaClientAbort context hal
    SameSettings context outcome.context ∧
      outcome.context.state = abortedState context.state ∧
      ∀ call ∈ outcome.events, call.event = .aborted := by
  unfold otaClientAbort
  by_cases h : context.state ≠ .receiving ∧ context.state ≠ .error
  · rw [if_pos h]
    refine ⟨.refl context, (if_neg ?_).symm, by simp⟩
    exact not_or.mpr h
  · have hopen : context.state = .receiving ∨ context.state = .error := by
      by_contra hnot
      exact h (not_or.mp hnot)
    rw [if_neg h]
    refine ⟨⟨rfl, rfl⟩, (if_pos hopen).symm, fun call hcall => ?_⟩
    unfold OtaClientContext.emit at hcall
    dsimp only at hcall
    by_cases hcallback : context.config.eventCallback = true
    · rw [if_pos hcallback] at hcall
      rw [List.mem_singleton.mp hcall]
    · rw [if_neg hcallback] at hcall
      cases hcall

/-- A packet handed over leaves the settings and the state as they were. -/
lemma otaClientSubmitPacket_state (context : OtaClientContext) (packet : Option Bytes) :
    SameSettings context (otaClientSubmitPacket context packet).2 ∧
      (otaClientSubmitPacket context packet).2.state = context.state := by
  obtain ⟨queue, hqueue⟩ := otaClientSubmitPacket_context context packet
  rw [hqueue]
  exact ⟨⟨rfl, rfl⟩, rfl⟩

/-- So does a packet taken. -/
lemma otaClientReceivePacket_state (context : OtaClientContext) :
    SameSettings context (otaClientReceivePacket context).2 ∧
      (otaClientReceivePacket context).2.state = context.state := by
  obtain ⟨queue, hqueue⟩ := otaClientReceivePacket_context context
  rw [hqueue]
  exact ⟨⟨rfl, rfl⟩, rfl⟩

end Client

/-- Events that do not concern the session. -/
def QuietEvents (context : OtaClientContext) (events : List OtaClientEventCall) : Prop :=
  events = [] ∨ ∃ event percent err, (event = .progress ∨ event = .fhssConfigReady) ∧
    events = context.emit event percent err

/-- What handling a packet other than START, END and ACTIVATE does to the session: nothing, or a
chunk could not be written and the session has failed. -/
lemma otaConsumerProcessPacket_state (protocol : OtaProtocol) (sha256 : Bytes → Sha256Digest)
    (state : OtaConsumerState) (packet : Bytes) (env : OtaConsumerEnv)
    (hstart : protocol.peekType packet ≠ some .start)
    (hend : protocol.peekType packet ≠ some .end)
    (hactivate : protocol.peekType packet ≠ some .fhssActivate) :
    let outcome := otaConsumerProcessPacket protocol sha256 state packet env
    SameSettings state.context outcome.state.context ∧
    ((outcome.state.context.state = state.context.state ∧
        QuietEvents state.context outcome.events) ∨
      (state.context.state = .receiving ∧ outcome.state.context.state = .error ∧
        ∃ err, outcome.events = state.context.emit .failed 0 err)) := by
  have hquiet : ∀ sends,
      SameSettings state.context (state.reply sends).state.context ∧
      (((state.reply sends).state.context.state = state.context.state ∧
          QuietEvents state.context (state.reply sends).events) ∨
        (state.context.state = .receiving ∧ (state.reply sends).state.context.state = .error ∧
          ∃ err, (state.reply sends).events = state.context.emit .failed 0 err)) :=
    fun sends => ⟨.refl _, .inl ⟨rfl, .inl rfl⟩⟩
  unfold otaConsumerProcessPacket
  split
  · split_ifs
    · unfold otaConsumerHandleDiscover
      dsimp only
      split_ifs
      · exact hquiet []
      · exact hquiet []
      · split
        · exact hquiet []
        · exact hquiet _
    · exact hquiet []
  · contradiction
  · -- A DATA packet is answered, or its chunk goes to the client.
    unfold otaConsumerHandleData
    cases otaConsumerDecodeData protocol packet with
    | none =>
      dsimp only
      split_ifs
      · exact hquiet _
      · exact hquiet []
    | some decoded =>
      obtain ⟨header, payload⟩ := decoded
      dsimp only
      split_ifs
      · exact hquiet _
      · exact hquiet _
      · exact hquiet _
      all_goals
        obtain ⟨hsame, ⟨hstate, hevents⟩ | hfailed⟩ := otaClientWriteChunk_state state.context
          header.sessionId header.sequence (some payload) env.hal env.now
        · refine ⟨hsame, .inl ⟨hstate, ?_⟩⟩
          rcases hevents with hnone | ⟨percent, hprogress⟩
          · exact .inl hnone
          · exact .inr ⟨_, _, _, .inl rfl, hprogress⟩
        · exact ⟨hsame, .inr hfailed⟩
  · contradiction
  · unfold otaConsumerHandleFhssConfig
    cases protocol.decodeFhssConfig packet with
    | none => exact hquiet []
    | some fields =>
      dsimp only
      split_ifs
      · exact hquiet []
      · exact hquiet _
      · exact ⟨.refl _, .inl ⟨rfl, .inl rfl⟩⟩
      · exact ⟨.refl _, .inl ⟨rfl, .inr ⟨_, _, _, .inr rfl, rfl⟩⟩⟩
      · exact ⟨.refl _, .inl ⟨rfl, .inl rfl⟩⟩
  · contradiction
  · exact hquiet []

/-- A receive timeout does nothing to the session. -/
lemma otaConsumerHandleReceiveTimeout_state (protocol : OtaProtocol) (state : OtaConsumerState)
    (timeoutTicks now : UInt32) :
    let outcome := otaConsumerHandleReceiveTimeout protocol state timeoutTicks now
    SameSettings state.context outcome.state.context ∧
      outcome.state.context.state = state.context.state ∧ outcome.events = [] := by
  unfold otaConsumerHandleReceiveTimeout
  dsimp only
  split_ifs
  · exact ⟨.refl _, rfl, rfl⟩
  · exact ⟨.refl _, rfl, rfl⟩
  · exact ⟨⟨rfl, rfl⟩, rfl, rfl⟩

/-! ## Steps of the product -/

section Steps

variable (protocol : OtaProtocol) (sha256 : Bytes → Sha256Digest)
  (deriveSessionHopSeed : UInt32 → UInt32)

/-- The consumer task runs with the event callback of the product. -/
def Product.Configured (product : Product) : Prop :=
  product.client.consumerTask = true → product.client.config.eventCallback = true

/-- What shows in the input and the effects of a step that it is of a kind. -/
def SessionKind.Shown (product : Product) (input : ProductInput) (effects : List ProductEffect) :
    SessionKind → Prop
  | .other => True
  | .taken _ => ∃ hal, input = .fsmTask hal
  | .acted action done => ∃ hal, input = .fsmTask hal ∧
      (action = .initClient → (initClient protocol product.client hal).2 = done) ∧
      (action = .armTimer .resync → hal.timerCommand = done)
  | .opened => .client .started ∈ effects
  | .failed => .client .failed ∈ effects
  | .finishing => .client .applying ∈ effects
  | .completed => .client .completed ∈ effects
  | .failureShown => True

section Projections

variable (product : Product)

@[simp] lemma session_post (event : FsmEvent) :
    (product.post event).session = product.session.post event := rfl

@[simp] lemma session_transitionTo (next : FsmState) (hal : FsmTaskHal) :
    (product.transitionTo next hal).session = product.session.transitionTo next := by
  unfold Product.transitionTo SessionState.transitionTo
  by_cases h : next = product.fsm
  · rw [if_pos h]
    exact (if_pos h).symm
  · rw [if_neg h]
    exact (if_neg h).symm

@[simp] lemma session_react (event : FsmEvent) (hal : FsmTaskHal) :
    (product.react event hal).session = product.session.react event := by
  have hfsm : product.session.fsm = product.fsm := rfl
  unfold Product.react SessionState.react
  rw [hfsm]
  cases fsmTaskReaction product.fsm event with
  | transitionTo next => exact session_transitionTo product next hal
  | ignore => rfl
  | stopResyncTimer => rfl
  | armResyncTimer => rfl
  | abortSession => rfl

variable {product}

/-- With the callback set, an emitted event reaches `fsm_ota_event_callback`. -/
lemma clientEvents_emit {context : OtaClientContext} (h : context.config.eventCallback = true)
    (event : OtaClientEvent) (percent : UInt32) (err : EspErr) :
    product.clientEvents (context.emit event percent err) =
      (product.clientEvent event, [.client event]) := by
  unfold OtaClientContext.emit
  rw [if_pos h]
  rfl

/-- Events of an abort change nothing. -/
lemma clientEvents_aborted {events : List OtaClientEventCall}
    (h : ∀ call ∈ events, call.event = .aborted) : (product.clientEvents events).1 = product := by
  unfold Product.clientEvents
  induction events with
  | nil => rfl
  | cons call events ih =>
    have hcall : product.clientEvent call.event = product := by
      rw [h call List.mem_cons_self]
      rfl
    rw [List.foldl_cons, hcall]
    exact ih fun other hother => h other (List.mem_cons_of_mem _ hother)

end Projections

/-- An action that posts `ERROR` when it fails. -/
lemma session_orError (answer : Product × Bool) :
    (Product.orError answer).session =
      if answer.2 then answer.1.session else answer.1.session.post .error := by
  obtain ⟨product, _ | _⟩ := answer <;> rfl

/-- Starting the OTA radio changes the adapter and the task of the radio. -/
lemma startOtaRadio_eq (product : Product) (hal : FsmTaskHal) : ∃ adapter radioTask,
    (product.startOtaRadio hal).1 =
      { product with adapter := adapter, radioTask := radioTask } := by
  unfold Product.startOtaRadio
  by_cases hrunning : product.radioTask = true
  · rw [if_pos hrunning]
    exact ⟨_, _, rfl⟩
  rw [if_neg hrunning]
  obtain ⟨adapter, _ | _⟩ := fhssAudioAdapterBeginOta product.adapter hal.beginOta
  · exact ⟨_, _, rfl⟩
  · dsimp only
    split_ifs <;> exact ⟨_, _, rfl⟩

/-- It does not concern the session. -/
lemma session_startOtaRadio (product : Product) (hal : FsmTaskHal) :
    (product.startOtaRadio hal).1.session = product.session := by
  obtain ⟨adapter, radioTask, heq⟩ := startOtaRadio_eq product hal
  rw [heq]
  rfl

/-- The initialization of the client succeeds with an idle client that runs with the settings of
the product, or fails with one that is idle, not initialized, or as before. -/
lemma initClient_cases (client : OtaClientContext) (hal : FsmTaskHal) :
    (∃ client', initClient protocol client hal = (client', true) ∧ client'.state = .idle ∧
        client'.consumerTask = true ∧ client'.config = productClientConfig hal.deviceId) ∨
    ∃ client', initClient protocol client hal = (client', false) ∧
      (client' = client ∨ client'.consumerTask = false) ∧
      (client'.state = client.state ∨ client'.state = .uninitialized ∨
        client'.state = .idle) := by
  unfold initClient
  rcases otaClientInit_of_some protocol client (productClientConfig hal.deviceId)
    (fhssConfigStoreInit hal.adapterInit.flashInit) hal.clientQueue with
    hinit | ⟨err, client', herr, hinit, hclient⟩
  · rw [hinit]
    cases hal.taskCreated with
    | true => exact .inl ⟨_, rfl, rfl, rfl, rfl⟩
    | false => exact .inr ⟨_, rfl, .inr rfl, .inr (.inr rfl)⟩
  · rw [hinit]
    refine .inr ⟨client', ?_, ?_⟩
    · cases err <;> first | rfl | exact absurd rfl herr
    · rcases hclient with rfl | rfl
      · exact ⟨.inl rfl, .inl rfl⟩
      · exact ⟨.inr rfl, .inr (.inl rfl)⟩

/-- What running an abort does to the session. -/
lemma session_abort (product : Product) (hal : OtaHal) :
    (product.ran (otaClientAbort product.client hal)).1.session =
      { product.session with client := abortedState product.session.client } := by
  obtain ⟨-, hstate, hevents⟩ := otaClientAbort_state product.client hal
  unfold Product.ran
  rw [clientEvents_aborted hevents]
  unfold Product.session
  dsimp only
  rw [hstate]

/-- An action of `fsm_task` is the action on the session. -/
lemma session_act (product : Product) (action : FsmAction) (hal : FsmTaskHal)
    (hinit : action ≠ .initClient) :
    ∃ done, (product.act protocol deriveSessionHopSeed action hal).1.session =
        product.session.act done action ∧
      (action = .armTimer .resync → hal.timerCommand = done) := by
  cases action with
  | transitionTo next => exact ⟨true, session_transitionTo product next hal, by simp⟩
  | abort => exact ⟨true, session_abort product hal.ota, by simp⟩
  | abortInterrupted =>
    refine ⟨true, ?_, by simp⟩
    unfold Product.act SessionState.act
    dsimp only
    by_cases hopen : product.client.state = .receiving ∨ product.client.state = .error
    · rw [if_pos hopen]
      exact session_abort product hal.ota
    · rw [if_neg hopen]
      have hkept : abortedState product.session.client = product.session.client := if_neg hopen
      rw [hkept]
  | armTimer timer =>
    refine ⟨hal.timerCommand, ?_, fun _ => rfl⟩
    cases timer with
    | sync => exact session_orError (_, hal.timerCommand)
    | resync =>
      unfold Product.act SessionState.act
      dsimp only
      split_ifs <;> rfl
  | stopRadioTask => exact ⟨true, rfl, by simp⟩
  | endOta => exact ⟨true, rfl, by simp⟩
  | startOtaRadio =>
    refine ⟨(product.startOtaRadio hal).2, ?_, by simp⟩
    refine (session_orError (product.startOtaRadio hal)).trans ?_
    rw [session_startOtaRadio]
    rfl
  | beginTx =>
    exact ⟨_, session_orError ({ product with adapter := (fhssAudioAdapterBeginTx
      deriveSessionHopSeed product.adapter hal.random hal.txRole).1 }, _), by simp⟩
  | endTx => exact ⟨true, rfl, by simp⟩
  | startRxAudio => exact ⟨_, session_orError (product, hal.taskCreated), by simp⟩
  | bootInit =>
    refine ⟨true, ?_, by simp⟩
    unfold Product.act SessionState.act
    dsimp only
    by_cases hdone : product.bootInitDone = true
    · rw [if_pos hdone]
      exact (if_pos hdone).symm
    · rw [if_neg hdone]
      exact (if_neg hdone).symm
  | initAdapter =>
    exact ⟨_, session_orError ({ product with adapter := (fhssAudioAdapterInit protocol
      product.store hal.adapterInit).1 }, _), by simp⟩
  | initClient => exact absurd rfl hinit

/-- A step of `fsm_task` is a step of the session. -/
lemma session_fsmTask (product : Product) (hal : FsmTaskHal) :
    ∃ kind, SessionStep product.session kind
        (product.fsmTask protocol deriveSessionHopSeed hal).1.session ∧
      kind.Shown protocol product (.fsmTask hal)
        (product.fsmTask protocol deriveSessionHopSeed hal).2 := by
  unfold Product.fsmTask
  cases htask : product.task with
  | nil =>
    cases hevents : product.events with
    | nil => exact ⟨.other, .idle _, trivial⟩
    | cons event rest =>
      refine ⟨.taken event, ?_, hal, rfl⟩
      have hstep := SessionStep.taken product.session event rest htask hevents
      rw [session_react]
      simp only [Product.session, htask] at hstep ⊢
      exact hstep
  | cons action rest =>
    dsimp only
    by_cases hblocked : product.blocked action = true
    · rw [if_pos hblocked]
      exact ⟨.other, .idle _, trivial⟩
    rw [if_neg hblocked]
    by_cases hinit : action = .initClient
    · subst hinit
      rcases initClient_cases protocol product.client hal with
        ⟨client', hready, hidle, -⟩ | ⟨client', hfailed, -, hstate⟩
      · refine ⟨.acted .initClient true, ?_, hal, rfl, fun _ => by rw [hready], by simp⟩
        have hstep := SessionStep.acted product.session .initClient rest true htask
        unfold Product.act
        dsimp only
        rw [hready]
        unfold Product.orError Product.session
        dsimp only
        rw [hidle]
        exact hstep
      · refine ⟨.acted .initClient false, ?_, hal, rfl, fun _ => by rw [hfailed], by simp⟩
        have hstep := SessionStep.initFailed product.session rest client'.state htask hstate
        unfold Product.act
        dsimp only
        rw [hfailed]
        exact hstep
    · obtain ⟨done, hact, harm⟩ :=
        session_act protocol deriveSessionHopSeed { product with task := rest } action hal hinit
      refine ⟨.acted action done, ?_, hal, rfl, fun h => absurd h hinit, harm⟩
      rw [hact]
      exact .acted product.session action rest done htask

/-- A result is reached by a step of the session that its effects show. -/
structure Advances (product : Product) (result : Product × List ProductEffect) : Prop where
  step : ∃ kind, SessionStep product.session kind result.1.session ∧
    ∀ product' input, kind.Shown protocol product' input result.2
  settings : SameSettings product.client result.1.client

/-- The session and the client are all that counts. -/
lemma Advances.congr {product product' : Product} {result : Product × List ProductEffect}
    (h : Advances protocol product' result) (hs : product'.session = product.session)
    (hclient : product'.client = product.client) : Advances protocol product result := by
  obtain ⟨hstep, hsettings⟩ := h
  rw [hs] at hstep
  rw [hclient] at hsettings
  exact ⟨hstep, hsettings⟩

section Consumer

variable {product : Product}

/-- The session stays as it is, but for the phase of the consumer. -/
lemma advances_of_session_eq {result : Product × List ProductEffect} (phase : ConsumerPhase)
    (hfrom : product.consumer.isOrdinary = true) (hto : phase.isOrdinary = true)
    (hs : result.1.session = { product.session with consumer := phase })
    (hsettings : SameSettings product.client result.1.client) :
    Advances protocol product result :=
  ⟨⟨.other, hs ▸ .moved product.session phase hfrom hto, fun _ _ => trivial⟩, hsettings⟩

/-- The session stays as it is, but for the phase of the consumer and a posted event. -/
lemma advances_of_session_eq_post {result : Product × List ProductEffect}
    (phase : ConsumerPhase) (event : FsmEvent) (hfrom : product.consumer.isOrdinary = true)
    (hto : phase.isOrdinary = true) (hevent : event.isOfSession = false)
    (hs : result.1.session =
      ({ product.session with consumer := phase } : SessionState).post event)
    (hsettings : SameSettings product.client result.1.client) :
    Advances protocol product result :=
  ⟨⟨.other, hs ▸ .movedPosted product.session phase event hfrom hto hevent, fun _ _ => trivial⟩,
    hsettings⟩

/-- The event callback does not touch the client. -/
@[simp] lemma client_clientEvent (product : Product) (event : OtaClientEvent) :
    (product.clientEvent event).client = product.client := by
  unfold Product.clientEvent
  split <;> rfl

/-- The event callback on the failure of a session. -/
lemma session_clientEvent_failed {client : OtaClientContext} (hstate : client.state = .error)
    (product : Product) :
    ({ product with client := client, consumer := .waiting }.clientEvent .failed).session =
      product.session.fail := by
  unfold Product.clientEvent fsmOtaEventCallback SessionState.fail
  dsimp only
  by_cases happlying : product.fsm = .otaApplying
  · rw [if_pos happlying]
    refine Eq.trans ?_ (if_pos happlying).symm
    unfold Product.session
    dsimp only
    rw [hstate]
  · rw [if_neg happlying]
    refine Eq.trans ?_ (if_neg happlying).symm
    rw [session_post]
    unfold Product.session
    dsimp only
    rw [hstate]

/-- A failed operation of the client is a failed session. -/
lemma advances_of_failed (product : Product) {client : OtaClientContext}
    {result : Product × List ProductEffect}
    (hphase : product.consumer ≠ .showingFailure)
    (hclient : product.consumer.isOrdinary = true →
      product.client.state = .idle ∨ product.client.state = .receiving)
    (hsettings : SameSettings product.client client) (hstate : client.state = .error)
    (hmem : .client .failed ∈ result.2)
    (hresult : result.1 =
      { product with client := client, consumer := .waiting }.clientEvent .failed) :
    Advances protocol product result := by
  refine ⟨⟨.failed, ?_, fun _ _ => hmem⟩, ?_⟩
  · rw [hresult, session_clientEvent_failed hstate product]
    exact .failed product.session hphase hclient
  · rw [hresult, client_clientEvent]
    exact hsettings

/-- A handler that leaves the session alone, or fails it. -/
lemma advances_handled {outcome : OtaConsumerOutcome}
    (hordinary : product.consumer.isOrdinary = true)
    (hcallback : product.client.config.eventCallback = true)
    (hsettings : SameSettings product.client outcome.state.context)
    (houtcome : (outcome.state.context.state = product.client.state ∧
        QuietEvents product.client outcome.events) ∨
      (product.client.state = .receiving ∧ outcome.state.context.state = .error ∧
        ∃ err, outcome.events = product.client.emit .failed 0 err)) :
    Advances protocol product
      ({ product with consumer := .waiting }.handled outcome) := by
  unfold Product.handled
  rcases houtcome with ⟨hstate, hnone | ⟨event, percent, err, hevent, hquiet⟩⟩ |
    ⟨hreceiving, herror, err, hfailed⟩
  · rw [hnone]
    refine advances_of_session_eq protocol .waiting hordinary rfl ?_ hsettings
    unfold Product.session
    dsimp only
    rw [← hstate]
    rfl
  · rw [hquiet, clientEvents_emit hcallback]
    rcases hevent with rfl | rfl
    · refine advances_of_session_eq protocol .waiting hordinary rfl ?_ hsettings
      unfold Product.session
      dsimp only
      rw [← hstate]
      rfl
    · refine advances_of_session_eq_post protocol .waiting .fhssConfigReady
        hordinary rfl rfl ?_ hsettings
      unfold Product.session
      dsimp only
      rw [← hstate]
      rfl
  · rw [hfailed, clientEvents_emit hcallback]
    have hphase : product.consumer ≠ .showingFailure := by
      intro h
      rw [h] at hordinary
      cases hordinary
    have hadvances := @advances_of_failed protocol { product with store := outcome.state.store }
      outcome.state.context (({ product with
        store := outcome.state.store, client := outcome.state.context,
        consumer := .waiting }.clientEvent .failed),
        [.client .failed] ++ outcome.sends.map .send) hphase (fun _ => .inr hreceiving) hsettings
      herror (List.mem_append_left _ (List.mem_singleton.mpr rfl)) rfl
    exact hadvances.congr protocol rfl rfl

/-- Opening a session. -/
lemma advances_openSession (fields : OtaStartFields) (hal : OtaHal) (now : UInt32)
    (hordinary : product.consumer.isOrdinary = true)
    (hcallback : product.client.config.eventCallback = true) :
    Advances protocol product ({ product with consumer := .waiting }.handled
      (otaConsumerOpenSession protocol ⟨product.client, product.store⟩ fields hal now)) := by
  have hphase : product.consumer ≠ .showingFailure := by
    intro h
    rw [h] at hordinary
    cases hordinary
  obtain ⟨hsettings, ⟨hstate, hnone⟩ | ⟨hidle, hreceiving, hstarted⟩ |
      ⟨hidle, herror, err, hfailed⟩⟩ :=
    otaClientStartSession_state product.client fields.sessionId fields.imageSize
      fields.totalChunks (some fields.imageSha256) hal now
  · exact advances_handled protocol hordinary hcallback hsettings (.inl ⟨hstate, .inl hnone⟩)
  · have hevents : (otaConsumerOpenSession protocol ⟨product.client, product.store⟩ fields hal
        now).events = product.client.emit .started 0 .ok := hstarted
    unfold Product.handled
    rw [hevents, clientEvents_emit hcallback]
    refine ⟨⟨.opened, ?_, fun _ _ => List.mem_append_left _ (List.mem_singleton.mpr rfl)⟩,
      hsettings⟩
    have hstep := SessionStep.opened product.session hordinary hidle
    rw [← hreceiving] at hstep
    exact hstep
  · have hevents : (otaConsumerOpenSession protocol ⟨product.client, product.store⟩ fields hal
        now).events = product.client.emit .failed 0 err := hfailed
    unfold Product.handled
    rw [hevents, clientEvents_emit hcallback]
    exact advances_of_failed protocol product hphase (fun _ => .inl hidle) hsettings herror
      (List.mem_append_left _ (List.mem_singleton.mpr rfl)) rfl

/-- Verifying an image. -/
lemma advances_verify {fields : OtaEndFields} (hal : OtaHal) (sends : List ProductEffect)
    (hphase : product.consumer = .verifying fields)
    (hcallback : product.client.config.eventCallback = true) :
    let ran := { product with consumer := .waiting }.ran
      (otaClientVerifyImage sha256 product.client hal)
    Advances protocol product (ran.1, ran.2 ++ sends) := by
  obtain ⟨hsettings, ⟨hready, hcompleted⟩ | ⟨herror, err, hfailed⟩⟩ :=
    otaClientVerifyImage_state sha256 product.client hal
  · unfold Product.ran
    rw [hcompleted, clientEvents_emit hcallback]
    refine ⟨⟨.completed, ?_, fun _ _ => List.mem_append_left _ (List.mem_singleton.mpr rfl)⟩,
      hsettings⟩
    have hstep := SessionStep.completed product.session fields hphase
    rw [← hready] at hstep
    exact hstep
  · unfold Product.ran
    rw [hfailed, clientEvents_emit hcallback]
    refine advances_of_failed protocol product (by simp [hphase]) (fun hordinary => ?_) hsettings
      herror (List.mem_append_left _ (List.mem_singleton.mpr rfl)) rfl
    rw [hphase] at hordinary
    cases hordinary

/-- An activation that has returned. -/
lemma advances_activationDone (pending : OtaFhssConfigFields) (err : EspErr)
    (hordinary : product.consumer.isOrdinary = true)
    (hcallback : product.client.config.eventCallback = true) :
    Advances protocol product
      ({ product with consumer := .waiting }.activationDone pending err) := by
  unfold Product.activationDone
  by_cases hok : err = .ok
  · rw [if_pos hok]
    exact advances_of_session_eq protocol .waiting hordinary rfl rfl (.refl _)
  · rw [if_neg hok]
    unfold otaConsumerEmitEvent
    dsimp only
    rw [clientEvents_emit hcallback]
    exact advances_of_session_eq_post protocol .waiting .fhssSyncTimeout hordinary rfl rfl rfl
      (.refl _)

/-- A packet taken by the waiting consumer. -/
lemma advances_processPacket (packet : Bytes) (hal : ConsumerTaskHal)
    (hwaiting : product.consumer = .waiting)
    (hcallback : product.client.config.eventCallback = true) :
    Advances protocol product
      (product.processPacket protocol sha256 packet hal) := by
  have hordinary : product.consumer.isOrdinary = true := by rw [hwaiting]; rfl
  have hsame : ({ product with consumer := .waiting } : Product) = product := by rw [← hwaiting]
  have hanswer : ∀ sends, Advances protocol product (product.answer sends) :=
    fun sends => ⟨⟨.other, .idle _, fun _ _ => trivial⟩, .refl _⟩
  unfold Product.processPacket
  dsimp only
  split
  · cases otaConsumerStartChecks protocol product.client packet
        (hal.env product).otaMode with
    | inl sends => exact hanswer sends
    | inr fields =>
      exact advances_of_session_eq protocol (.starting fields) hordinary rfl rfl (.refl _)
  · cases hend : otaConsumerEndChecks protocol product.client packet with
    | inl sends => exact hanswer sends
    | inr fields =>
      dsimp only
      cases hchecks : otaClientFinishChecks product.client fields.sessionId fields.imageSize
          fields.totalChunks with
      | some err => exact hanswer _
      | none =>
        -- The session is closed: APPLYING is raised before the image is verified.
        dsimp only
        rw [clientEvents_emit hcallback]
        have hreceiving := (otaClientFinishChecks_eq_none_iff.mp hchecks).1
        exact ⟨⟨.finishing, .finishing product.session fields hordinary hreceiving,
          fun _ _ => List.mem_singleton.mpr rfl⟩, ⟨rfl, rfl⟩⟩
  · cases otaConsumerActivateChecks protocol ⟨product.client, product.store⟩ packet hal.send
        hal.nvs with
    | inl sends => exact hanswer sends
    | inr answered =>
      obtain ⟨sends, pending⟩ := answered
      unfold otaConsumerEmitEvent
      dsimp only
      rw [clientEvents_emit hcallback]
      exact advances_of_session_eq_post protocol (.activating pending) .fhssActivate hordinary
        rfl rfl rfl (.refl _)
  · rename_i hstart hend hactivate
    obtain ⟨hsettings, houtcome⟩ := otaConsumerProcessPacket_state protocol sha256
      ⟨product.client, product.store⟩ packet (hal.env product) hstart hend hactivate
    have hadvances := advances_handled protocol hordinary hcallback hsettings houtcome
    rwa [hsame] at hadvances

/-- A step of the consumer task is a step of the session. -/
lemma advances_consumerTask (hal : ConsumerTaskHal) (hconfigured : product.Configured) :
    Advances protocol product
      (product.consumerTask protocol sha256 deriveSessionHopSeed hal) := by
  unfold Product.consumerTask
  by_cases htask : product.client.consumerTask = false
  · rw [if_pos htask]
    exact ⟨⟨.other, .idle _, fun _ _ => trivial⟩, .refl _⟩
  rw [if_neg htask]
  have hcallback := hconfigured (by simpa using htask)
  cases hphase : product.consumer with
  | waiting =>
    obtain ⟨hsettings, hstate⟩ := otaClientReceivePacket_state product.client
    generalize otaClientReceivePacket product.client = received at hsettings hstate
    obtain ⟨answer, client⟩ := received
    have hsession : ({ product with client := client, consumer := .waiting } : Product).session =
        product.session := by
      unfold Product.session
      dsimp only at hstate ⊢
      rw [hstate, hphase]
    have hcallback' : client.config.eventCallback = true := by
      rw [hsettings.config_eq]
      exact hcallback
    have hreached : ∀ {result : Product × List ProductEffect},
        Advances protocol { product with client := client, consumer := .waiting } result →
        Advances protocol product result := fun ⟨hstep, hkept⟩ =>
      ⟨by rwa [hsession] at hstep, ⟨hkept.config_eq.trans hsettings.config_eq,
        hkept.consumerTask_eq.trans hsettings.consumerTask_eq⟩⟩
    refine hreached ?_
    cases answer with
    | ok packet =>
      exact @advances_processPacket protocol sha256
        { product with client := client, consumer := .waiting } packet hal rfl hcallback'
    | error err =>
      obtain ⟨hkept, hstate', hnone⟩ := otaConsumerHandleReceiveTimeout_state protocol
        ⟨client, product.store⟩ hal.timeoutTicks hal.now
      exact @advances_handled protocol
        { product with client := client, consumer := .waiting } _ rfl hcallback' hkept
        (.inl ⟨hstate', .inl hnone⟩)
  | starting fields =>
    exact advances_openSession protocol fields hal.ota hal.now (by rw [hphase]; rfl) hcallback
  | verifying fields =>
    exact advances_verify protocol sha256 hal.ota _ hphase hcallback
  | activating pending =>
    have hordinary : product.consumer.isOrdinary = true := by rw [hphase]; rfl
    dsimp only
    split_ifs
    · exact advances_activationDone protocol pending .fail hordinary hcallback
    · exact advances_activationDone protocol pending .invalidArg hordinary hcallback
    · exact advances_of_session_eq protocol (.enteringFhss pending) hordinary rfl rfl (.refl _)
  | enteringFhss pending =>
    have hordinary : product.consumer.isOrdinary = true := by rw [hphase]; rfl
    dsimp only
    split_ifs
    · exact ⟨⟨.other, .idle _, fun _ _ => trivial⟩, .refl _⟩
    · have hdone := @advances_activationDone protocol { product with
        adapter := (fhssAudioAdapterEnterOtaFhss deriveSessionHopSeed product.adapter pending
          hal.role).1 } pending (fhssAudioAdapterEnterOtaFhss deriveSessionHopSeed
          product.adapter pending hal.role).2 hordinary hcallback
      exact hdone.congr protocol rfl rfl
  | showingFailure =>
    exact ⟨⟨.failureShown, .failureShown product.session hphase, fun _ _ => trivial⟩, .refl _⟩

end Consumer

/-- A step that only posts an event which no session posts. -/
lemma advances_post {product product' : Product} {event : FsmEvent}
    {effects : List ProductEffect} (hs : product'.session = product.session)
    (hclient : product'.client = product.client) (hevent : event.isOfSession = false) :
    Advances protocol product (product'.post event, effects) :=
  ⟨⟨.other, hs ▸ .posted product'.session event hevent, fun _ _ => trivial⟩,
    hclient ▸ .refl _⟩

/-- A step that leaves the session as it is. -/
lemma advances_of_same {product : Product} {result : Product × List ProductEffect}
    (hs : result.1.session = product.session)
    (hsettings : SameSettings product.client result.1.client) : Advances protocol product result :=
  ⟨⟨.other, hs ▸ .idle _, fun _ _ => trivial⟩, hsettings⟩

/-- A turn of the service does not concern the session. -/
lemma advances_serviceTurn (product : Product) (turn : RxTurn) :
    Advances protocol product (product.serviceTurn protocol deriveSessionHopSeed turn, []) := by
  unfold Product.serviceTurn
  split_ifs
  · exact advances_of_same protocol rfl (.refl _)
  · exact advances_of_same protocol rfl (.refl _)

/-- A callback of the service only posts events. -/
lemma advances_serviceCallback (product : Product) (nvs : NvsHal) :
    Advances protocol product (product.serviceCallback protocol nvs) := by
  unfold Product.serviceCallback
  cases hcallbacks : product.callbacks with
  | nil => exact advances_of_same protocol rfl (.refl _)
  | cons callback rest =>
    cases callback with
    | report event raisedBy =>
      cases event with
      | syncAcquired =>
        dsimp only
        cases fhssAudioAdapterGetOtaFhssGeneration product.adapter with
        | none => exact advances_of_same protocol rfl (.refl _)
        | some generation => exact advances_of_same protocol rfl (.refl _)
      | syncLost => exact advances_post protocol rfl rfl rfl
      | error => exact advances_post protocol rfl rfl rfl
    | promote generation raisedBy =>
      refine advances_post protocol rfl rfl ?_
      split_ifs <;> rfl

/-- Every step but those of `fsm_task` advances the session. -/
lemma productStep_advances {product : Product} (hconfigured : product.Configured)
    {input : ProductInput} (hinput : ∀ hal, input ≠ .fsmTask hal) :
    Advances protocol product
      (productStep protocol sha256 deriveSessionHopSeed product input) := by
  cases input with
  | fsmTask hal => exact absurd rfl (hinput hal)
  | consumerTask hal =>
    exact advances_consumerTask protocol sha256 deriveSessionHopSeed hal hconfigured
  | serviceTurn turn => exact advances_serviceTurn protocol deriveSessionHopSeed product turn
  | serviceCallback nvs => exact advances_serviceCallback protocol product nvs
  | timerCommand =>
    unfold productStep
    dsimp only
    split <;> exact advances_of_same protocol rfl (.refl _)
  | radioPacket packet =>
    unfold productStep
    dsimp only
    split_ifs
    · obtain ⟨hsettings, hstate⟩ := otaClientSubmitPacket_state product.client (some packet)
      refine advances_of_same protocol ?_ hsettings
      unfold Product.session
      dsimp only
      rw [hstate]
    · exact advances_of_same protocol rfl (.refl _)
  | appMain =>
    unfold productStep
    dsimp only
    split_ifs
    · exact advances_of_same protocol rfl (.refl _)
    · exact advances_post protocol rfl rfl rfl
  | timerExpires timer =>
    unfold productStep
    dsimp only
    split_ifs
    · refine advances_post protocol rfl rfl ?_
      cases timer <;> rfl
    · exact advances_of_same protocol rfl (.refl _)
  | menuSelect selected =>
    unfold productStep
    dsimp only
    split_ifs
    · refine advances_post protocol rfl rfl ?_
      unfold onMenuSelect
      cases selected <;> split_ifs <;> rfl
    · exact advances_of_same protocol rfl (.refl _)
  | pttEvent pressed =>
    unfold productStep
    dsimp only
    split_ifs <;> exact advances_of_same protocol rfl (.refl _)
  | onPttEvent =>
    unfold productStep
    dsimp only
    obtain hsame | ⟨pressed, hposted⟩ := onPttEvent_cases product
    · rw [hsame]
      exact advances_of_same protocol rfl (.refl _)
    · rw [hposted]
      refine advances_post protocol rfl rfl ?_
      cases pressed <;> rfl
  | rxFrame =>
    unfold productStep
    dsimp only
    split_ifs
    · exact advances_post protocol rfl rfl rfl
    · exact advances_of_same protocol rfl (.refl _)
  | rxDone => exact advances_post protocol rfl rfl rfl
  | radioError =>
    unfold productStep
    dsimp only
    split_ifs
    · exact advances_post protocol rfl rfl rfl
    · exact advances_of_same protocol rfl (.refl _)
  | txError taskEnds =>
    unfold productStep
    dsimp only
    split_ifs
    · exact advances_post protocol rfl rfl rfl
    · exact advances_of_same protocol rfl (.refl _)

/-- **The session is an abstraction of the product.**  Every step of the product is a step of the
session, of a kind that the input and the effects show. -/
theorem productStep_session {product : Product} (hconfigured : product.Configured)
    (input : ProductInput) :
    ∃ kind, SessionStep product.session kind
        (productStep protocol sha256 deriveSessionHopSeed product input).1.session ∧
      kind.Shown protocol product input
        (productStep protocol sha256 deriveSessionHopSeed product input).2 := by
  by_cases htask : ∃ hal, input = .fsmTask hal
  · obtain ⟨hal, rfl⟩ := htask
    exact session_fsmTask protocol deriveSessionHopSeed product hal
  · obtain ⟨kind, hstep, hshown⟩ := (productStep_advances protocol sha256 deriveSessionHopSeed
      hconfigured fun hal h => htask ⟨hal, h⟩).step
    exact ⟨kind, hstep, hshown product input⟩

/-- Changing the state does not touch the client. -/
lemma client_transitionTo (product : Product) (next : FsmState) (hal : FsmTaskHal) :
    (product.transitionTo next hal).client = product.client := by
  unfold Product.transitionTo
  split_ifs <;> rfl

/-- Nor does the reaction to an event. -/
lemma client_react (product : Product) (event : FsmEvent) (hal : FsmTaskHal) :
    (product.react event hal).client = product.client := by
  unfold Product.react
  split
  · rfl
  · exact client_transitionTo product _ hal
  · rfl
  · rfl
  · rfl

/-- An operation that posts `ERROR` when it fails touches no more of the client. -/
lemma client_orError (answer : Product × Bool) :
    (Product.orError answer).client = answer.1.client := by
  obtain ⟨product, _ | _⟩ := answer <;> rfl

/-- Settings that are kept keep the product configured. -/
lemma Product.Configured.of_same {product product' : Product} (h : product.Configured)
    (hsettings : SameSettings product.client product'.client) : product'.Configured := by
  unfold Product.Configured
  rw [hsettings.config_eq, hsettings.consumerTask_eq]
  exact h

/-- An abort keeps the settings. -/
lemma sameSettings_abort (product : Product) (hal : OtaHal) :
    SameSettings product.client
      (product.ran (otaClientAbort product.client hal)).1.client := by
  obtain ⟨hsettings, -, hevents⟩ := otaClientAbort_state product.client hal
  unfold Product.ran
  rw [clientEvents_aborted hevents]
  exact hsettings

/-- An action of `fsm_task` other than the initialization keeps the settings. -/
lemma sameSettings_act (product : Product) {action : FsmAction} (hal : FsmTaskHal)
    (hinit : action ≠ .initClient) :
    SameSettings product.client
      (product.act protocol deriveSessionHopSeed action hal).1.client := by
  have hsame : ∀ {client : OtaClientContext}, client = product.client →
      SameSettings product.client client := fun heq => heq ▸ .refl _
  cases action with
  | transitionTo next => exact hsame (client_transitionTo product next hal)
  | abort => exact sameSettings_abort product hal.ota
  | abortInterrupted =>
    unfold Product.act
    dsimp only
    split_ifs
    · exact sameSettings_abort product hal.ota
    · exact .refl _
  | armTimer timer =>
    cases timer with
    | sync => exact hsame (client_orError _)
    | resync =>
      unfold Product.act
      dsimp only
      split_ifs
      · exact .refl _
      · exact .refl _
  | stopRadioTask => exact .refl _
  | endOta => exact .refl _
  | startOtaRadio =>
    refine hsame ((client_orError (product.startOtaRadio hal)).trans ?_)
    obtain ⟨adapter, radioTask, heq⟩ := startOtaRadio_eq product hal
    rw [heq]
  | beginTx => exact hsame (client_orError _)
  | endTx => exact .refl _
  | startRxAudio => exact hsame (client_orError _)
  | bootInit =>
    unfold Product.act
    dsimp only
    split_ifs
    · exact .refl _
    · exact .refl _
  | initAdapter => exact hsame (client_orError _)
  | initClient => exact absurd rfl hinit

/-- A step keeps the settings of the client, unless it initializes the client. -/
lemma sameSettings_productStep {product : Product} (h : product.Configured)
    (input : ProductInput) :
    SameSettings product.client
        (productStep protocol sha256 deriveSessionHopSeed product input).1.client ∨
      ∃ hal rest, input = .fsmTask hal ∧ product.task = .initClient :: rest ∧
        (productStep protocol sha256 deriveSessionHopSeed product input).1.client =
          (initClient protocol product.client hal).1 := by
  by_cases htask : ∃ hal, input = .fsmTask hal
  · obtain ⟨hal, rfl⟩ := htask
    unfold productStep Product.fsmTask
    dsimp only
    cases product.task with
    | cons action rest =>
      dsimp only
      by_cases hblocked : product.blocked action = true
      · rw [if_pos hblocked]
        exact .inl (.refl _)
      rw [if_neg hblocked]
      by_cases hinit : action = .initClient
      · subst hinit
        exact .inr ⟨hal, rest, rfl, rfl, client_orError _⟩
      · exact .inl (sameSettings_act protocol deriveSessionHopSeed { product with task := rest } hal
          hinit)
    | nil =>
      cases product.events with
      | nil => exact .inl (.refl _)
      | cons event rest =>
        dsimp only
        rw [client_react]
        exact .inl (.refl _)
  · exact .inl (productStep_advances protocol sha256 deriveSessionHopSeed h
      fun hal heq => htask ⟨hal, heq⟩).settings

/-- Every step keeps the product configured. -/
lemma configured_productStep {product : Product} (h : product.Configured)
    (input : ProductInput) :
    (productStep protocol sha256 deriveSessionHopSeed product input).1.Configured := by
  rcases sameSettings_productStep protocol sha256 deriveSessionHopSeed h input with
    hsettings | ⟨hal, rest, -, -, hclient⟩
  · exact h.of_same hsettings
  · unfold Product.Configured
    rw [hclient]
    rcases initClient_cases protocol product.client hal with
      ⟨client', hready, -, -, hconfig⟩ | ⟨client', hfailed, rfl | hstopped, -⟩
    · rw [hready]
      intro _
      exact hconfig ▸ rfl
    · rw [hfailed]
      exact h
    · rw [hfailed]
      intro hrunning
      rw [hstopped] at hrunning
      cases hrunning

end Steps

end FhssOtaRadio
