import FhssOtaRadio.AudioAdapter.VoiceRestore
import FhssOtaRadio.AudioAdapter.VoiceSession
import FhssOtaRadio.FhssService.HopFrame
import FhssOtaRadio.Library.EventQueue
import FhssOtaRadio.Library.Machine
import FhssOtaRadio.OtaClient.AckSoundness
import FhssOtaRadio.OtaClient.Consumer
import FhssOtaRadio.Product.Fsm

/-!
# The product (`main/fsm.c` with everything it drives)

One state for the product FSM, its event queue and timers, the OTA client with its consumer task,
the configuration store, the audio adapter and the task of the FHSS service, and one machine whose
inputs are the steps of the tasks, in any order, with what the hardware answers.

A step is what a task does between two points at which the other tasks matter: taking an event
and leaving the old state; one action of entering a state; the checks of a packet; a client
operation with the event it raises; one turn of the RX task; one half of a callback of the service
or of the button.  A task that waits for another one (`fhss_service_pause` and
`fhss_service_set_role` wait until the service task has left its loop) does nothing until its turn
comes.
-/

namespace FhssOtaRadio

open EventQueue

/-! ## The state -/

/-- A command to the timer task. -/
inductive TimerCommand where
  | reset (timer : FsmTimer)
  | stop (timer : FsmTimer)
  deriving DecidableEq, Repr

/-- The timers of the FSM: which are running, and the commands the timer task has not handled. -/
structure FsmTimers where
  running : List FsmTimer
  commands : List TimerCommand
  deriving DecidableEq

/-- The timer task handles a command. -/
def FsmTimers.handle (timers : FsmTimers) : TimerCommand → FsmTimers
  | .reset timer => { timers with running := timer :: timers.running.filter (· ≠ timer) }
  | .stop timer => { timers with running := timers.running.filter (· ≠ timer) }

/-- `xTimerReset` or `xTimerStop` with no wait; `sent` says that the command queue has room. -/
def FsmTimers.send (timers : FsmTimers) (command : TimerCommand) (sent : Bool) : FsmTimers :=
  if sent then { timers with commands := timers.commands ++ [command] } else timers

/-- Where the consumer task is. -/
inductive ConsumerPhase where
  /-- It waits for a packet. -/
  | waiting
  /-- A START has passed its checks; the session is to be opened. -/
  | starting (fields : OtaStartFields)
  /-- An END has been accepted; the image is being verified. -/
  | verifying (fields : OtaEndFields)
  /-- An ACTIVATE has been acknowledged; the adapter is to be called. -/
  | activating (pending : OtaFhssConfigFields)
  /-- The adapter has accepted the configuration and waits for the radio. -/
  | enteringFhss (pending : OtaFhssConfigFields)
  /-- The event callback shows a failure for three seconds. -/
  | showingFailure
  deriving DecidableEq

/-- What the service task still has to do for the events of its last turn, with the controller
that raised them. -/
inductive ServiceCallback where
  /-- `on_service_event` is to be called. -/
  | report (event : FhssServiceEvent) (raisedBy : FhssSyncController)
  /-- `on_fhss_audio_event` has read the generation it is going to promote. -/
  | promote (generation : UInt32) (raisedBy : FhssSyncController)
  deriving DecidableEq

/-- The state of the product. -/
structure Product where
  /-- `s_state`. -/
  fsm : FsmState
  /-- `s_event_queue`. -/
  events : List FsmEvent
  /-- What `fsm_task` still has to do. -/
  task : List FsmAction
  /-- `s_boot_init_done`. -/
  bootInitDone : Bool
  /-- `app_main` has returned. -/
  appMainDone : Bool
  timers : FsmTimers
  /-- `s_ota_radio_task` is not `NULL`. -/
  radioTask : Bool
  client : OtaClientContext
  consumer : ConsumerPhase
  store : FhssConfigStore
  adapter : FhssAudioAdapter
  callbacks : List ServiceCallback
  /-- `on_ptt_event` between its reading of the state and its effect. -/
  ptt : Option (Bool × FsmState)
  deriving DecidableEq

/-- The product when `fsm_init` has returned; only NVS is left from before. -/
def Product.boot (store : FhssConfigStore) : Product where
  fsm := .bootInit
  events := []
  task := sEnterActions .bootInit
  bootInitDone := false
  appMainDone := false
  timers := ⟨[], []⟩
  radioTask := false
  client := .zero
  consumer := .waiting
  store := store
  adapter := .zero
  callbacks := []
  ptt := none

/-- The depth of `s_event_queue`. -/
def fsmEventQueueDepth : ℕ := 16

/-- `fsm_post_event`. -/
def Product.post (product : Product) (event : FsmEvent) : Product :=
  { product with events := EventQueue.post fsmEventQueueDepth product.events event }

/-- What a step lets the outside see. -/
inductive ProductEffect where
  /-- An event of the OTA client. -/
  | client (event : OtaClientEvent)
  /-- A packet given to the send callback. -/
  | send (send : OtaSend)
  /-- `fhss_audio_adapter_activate_ota_fhss` has returned. -/
  | activated (config : OtaFhssConfigFields) (err : EspErr)
  /-- `fhss_config_store_activate` has returned. -/
  | promoted (generation : UInt32) (err : EspErr)
  deriving DecidableEq

/-- `fsm_ota_event_callback` on one event. -/
def Product.clientEvent (product : Product) (event : OtaClientEvent) : Product :=
  match fsmOtaEventCallback product.fsm event with
  | .nothing => product
  | .post event => product.post event
  | .showFailure => { product with consumer := .showingFailure }

/-- `fsm_ota_event_callback` on the events of a client operation. -/
def Product.clientEvents (product : Product) (events : List OtaClientEventCall) :
    Product × List ProductEffect :=
  (events.foldl (fun product call => product.clientEvent call.event) product,
    events.map fun call => .client call.event)

/-- A client operation: the context it leaves and the events it raises. -/
def Product.ran (product : Product) (outcome : OtaClientOutcome) :
    Product × List ProductEffect :=
  { product with client := outcome.context }.clientEvents outcome.events

/-- A role change has to wait for the service task to leave its loop. -/
def Product.mustWait (product : Product) (role : FhssServiceRole) : Bool :=
  decide (product.callbacks ≠ [] ∧
    ¬ (product.adapter.service.config.role = role ∧
      product.adapter.service.taskRunning = true))

/-! ## `fsm_task` -/

/-- What the hardware and the operating system answer to one step of `fsm_task`. -/
structure FsmTaskHal where
  /-- The timer command queue has room. -/
  timerCommand : Bool
  /-- A task can be created. -/
  taskCreated : Bool
  ota : OtaHal
  beginOta : BeginOtaHal
  endOta : OtaRoleHal
  txRole : FhssRoleHal
  /-- `esp_random`. -/
  random : UInt32
  adapterInit : FhssAudioAdapterInitHal
  /-- `device_id_get`. -/
  deviceId : Vector UInt8 3
  /-- The packet queue of the client can be created. -/
  clientQueue : Bool

/-- The client configuration of `on_enter_boot_init`. -/
def productClientConfig (id : Vector UInt8 3) : OtaClientConfig where
  deviceId := (id.get 0).toUInt32 <<< 16 ||| (id.get 1).toUInt32 <<< 8 ||| (id.get 2).toUInt32
  firmwareVersion := #v[0, 1, 0]
  receiveTimeoutMs := 3000
  discoverBackoffMaxMs := 100
  sendCallback := true
  eventCallback := true
  otaModeCallback := true
  randomCallback := true
  fhssActivateCallback := true

section Step

variable (protocol : OtaProtocol) (sha256 : Bytes → Sha256Digest)
  (deriveSessionHopSeed : UInt32 → UInt32)

/-- `fsm_transition_to`, up to the actions of the new state. -/
def Product.transitionTo (product : Product) (next : FsmState) (hal : FsmTaskHal) : Product :=
  if next = product.fsm then product
  else
    let timers := if product.fsm = .otaFhssSyncing then
        product.timers.send (.stop .sync) hal.timerCommand
      else product.timers
    let timers := if product.fsm = .otaReceiving then
        timers.send (.stop .resync) hal.timerCommand
      else timers
    { product with timers := timers, fsm := next, task := sEnterActions next ++ product.task }

/-- `fsm_task` reacts to an event. -/
def Product.react (product : Product) (event : FsmEvent) (hal : FsmTaskHal) : Product :=
  match fsmTaskReaction product.fsm event with
  | .ignore => product
  | .transitionTo next => product.transitionTo next hal
  | .stopResyncTimer =>
      { product with timers := product.timers.send (.stop .resync) hal.timerCommand }
  | .armResyncTimer => { product with task := [.armTimer .resync] }
  | .abortSession => { product with task := [.abort, .transitionTo .menuOta] }

/-- The adapter is in voice mode and does not transmit. -/
def FhssAudioAdapter.isListening (adapter : FhssAudioAdapter) : Bool :=
  adapter.initialized && !adapter.txActive && !adapter.otaActive

/-- The actions that wait until the service task has left its loop. -/
def Product.blocked (product : Product) : FsmAction → Bool
  | .endOta => product.adapter.otaActive && product.mustWait .rx
  | .startOtaRadio =>
      !product.radioTask && product.adapter.isListening && decide (product.callbacks ≠ [])
  | .beginTx => product.adapter.isListening && product.mustWait .tx
  | .endTx => product.adapter.txActive && product.mustWait .rx
  | _ => false

/-- `ota_client_init` and `ota_client_start_consumer`: the client, and whether both succeed. -/
def initClient (client : OtaClientContext) (hal : FsmTaskHal) : OtaClientContext × Bool :=
  match otaClientInit protocol client (some (productClientConfig hal.deviceId))
      (fhssConfigStoreInit hal.adapterInit.flashInit) hal.clientQueue with
  | (.ok, client) => ({ client with consumerTask := hal.taskCreated }, hal.taskCreated)
  | (_, client) => (client, false)

/-- `start_ota_radio`. -/
def Product.startOtaRadio (product : Product) (hal : FsmTaskHal) : Product × Bool :=
  if product.radioTask = true then (product, true)
  else
    match fhssAudioAdapterBeginOta product.adapter hal.beginOta with
    | (adapter, false) => ({ product with adapter := adapter }, false)
    | (adapter, true) =>
        if hal.taskCreated = false then
          ({ product with adapter := (fhssAudioAdapterEndOta adapter hal.endOta).1 }, false)
        else ({ product with adapter := adapter, radioTask := true }, true)

/-- An operation that posts `ERROR` when it fails. -/
def Product.orError : Product × Bool → Product
  | (product, true) => product
  | (product, false) => product.post .error

/-- One action of `fsm_task`. -/
def Product.act (product : Product) (action : FsmAction) (hal : FsmTaskHal) :
    Product × List ProductEffect :=
  match action with
  | .transitionTo next => (product.transitionTo next hal, [])
  | .abort => product.ran (otaClientAbort product.client hal.ota)
  | .abortInterrupted =>
      if product.client.state = .receiving ∨ product.client.state = .error then
        product.ran (otaClientAbort product.client hal.ota)
      else (product, [])
  | .armTimer .sync =>
      (.orError ({ product with
        timers := product.timers.send (.reset .sync) hal.timerCommand }, hal.timerCommand), [])
  | .armTimer .resync =>
      if hal.timerCommand = true then
        ({ product with timers := product.timers.send (.reset .resync) true }, [])
      else ({ product with task := .abort :: .transitionTo .menuOta :: product.task }, [])
  | .stopRadioTask => ({ product with radioTask := false }, [])
  | .endOta =>
      ({ product with adapter := (fhssAudioAdapterEndOta product.adapter hal.endOta).1 }, [])
  | .startOtaRadio => (.orError (product.startOtaRadio hal), [])
  | .beginTx =>
      let (adapter, begun) :=
        fhssAudioAdapterBeginTx deriveSessionHopSeed product.adapter hal.random hal.txRole
      (.orError ({ product with adapter := adapter }, begun), [])
  | .endTx =>
      ({ product with adapter := fhssAudioAdapterEndTx product.adapter hal.txRole }, [])
  | .startRxAudio => (.orError (product, hal.taskCreated), [])
  | .bootInit =>
      if product.bootInitDone = true then (product.post .initDone, [])
      else
        ({ product with
          bootInitDone := true, task := .initAdapter :: .initClient :: product.task }, [])
  | .initAdapter =>
      let (adapter, ready) := fhssAudioAdapterInit protocol product.store hal.adapterInit
      (.orError ({ product with adapter := adapter }, ready), [])
  | .initClient =>
      let (client, ready) := initClient protocol product.client hal
      (.orError ({ product with client := client }, ready), [])

/-- One step of `fsm_task`: the next action, or else the next event. -/
def Product.fsmTask (product : Product) (hal : FsmTaskHal) : Product × List ProductEffect :=
  match product.task with
  | action :: rest =>
      if product.blocked action = true then (product, [])
      else { product with task := rest }.act protocol deriveSessionHopSeed action hal
  | [] =>
      match product.events with
      | [] => (product, [])
      | event :: rest => ({ product with events := rest }.react event hal, [])

/-! ## The consumer task -/

/-- What the surroundings answer to one step of the consumer task. -/
structure ConsumerTaskHal where
  /-- The mode callback asked again after a DISCOVER backoff. -/
  otaModeAfterBackoff : Bool
  /-- The code of the send callback. -/
  send : EspErr
  nvs : NvsHal
  ota : OtaHal
  now : UInt32
  /-- `pdMS_TO_TICKS(receive_timeout_ms)`. -/
  timeoutTicks : UInt32
  role : OtaRoleHal

/-- The surroundings of the handlers in a state of the product. -/
def ConsumerTaskHal.env (hal : ConsumerTaskHal) (product : Product) : OtaConsumerEnv where
  otaMode := fsmOtaModeCallback product.fsm
  otaModeAfterBackoff := hal.otaModeAfterBackoff
  send := hal.send
  activate := .ok
  nvs := hal.nvs
  hal := hal.ota
  now := hal.now

/-- The consumer answers without doing anything else. -/
def Product.answer (product : Product) (sends : List OtaSend) : Product × List ProductEffect :=
  (product, sends.map .send)

/-- The consumer has run a handler to its end. -/
def Product.handled (product : Product) (outcome : OtaConsumerOutcome) :
    Product × List ProductEffect :=
  let (product, effects) := { product with
    client := outcome.state.context, store := outcome.state.store }.clientEvents outcome.events
  (product, effects ++ outcome.sends.map .send)

/-- `ota_consumer_process_packet`, up to the point where other tasks matter. -/
def Product.processPacket (product : Product) (packet : Bytes) (hal : ConsumerTaskHal) :
    Product × List ProductEffect :=
  let env := hal.env product
  match protocol.peekType packet with
  | some .start =>
      match otaConsumerStartChecks protocol product.client packet env.otaMode with
      | .inl sends => product.answer sends
      | .inr fields => ({ product with consumer := .starting fields }, [])
  | some .end =>
      match otaConsumerEndChecks protocol product.client packet with
      | .inl sends => product.answer sends
      | .inr fields =>
          match otaClientFinishChecks product.client fields.sessionId fields.imageSize
              fields.totalChunks with
          | some err => product.answer (otaConsumerEndReply protocol fields.sessionId err)
          | none =>
              { product with
                client := product.client.applying
                consumer := .verifying fields }.clientEvents
                  (product.client.emit .applying 100 .ok)
  | some .fhssActivate =>
      match otaConsumerActivateChecks protocol ⟨product.client, product.store⟩ packet hal.send
          hal.nvs with
      | .inl sends => product.answer sends
      | .inr (sends, pending) =>
          let (product, effects) := { product with consumer := .activating pending }.clientEvents
            (otaConsumerEmitEvent product.client .fhssActivating .ok)
          (product, effects ++ sends.map .send)
  | _ =>
      product.handled
        (otaConsumerProcessPacket protocol sha256 ⟨product.client, product.store⟩ packet env)

/-- An activation has returned. -/
def Product.activationDone (product : Product) (pending : OtaFhssConfigFields) (err : EspErr) :
    Product × List ProductEffect :=
  if err = .ok then (product, [.activated pending err])
  else
    let (product, effects) := product.clientEvents
      (otaConsumerEmitEvent product.client .fhssActivateFailed .fail)
    (product, .activated pending err :: effects)

/-- One step of the consumer task. -/
def Product.consumerTask (product : Product) (hal : ConsumerTaskHal) :
    Product × List ProductEffect :=
  if product.client.consumerTask = false then (product, [])
  else
    match product.consumer with
    | .waiting =>
        match otaClientReceivePacket product.client with
        | (.ok packet, client) =>
            { product with client := client }.processPacket protocol sha256 packet hal
        | (.error _, client) =>
            { product with client := client }.handled
              (otaConsumerHandleReceiveTimeout protocol ⟨client, product.store⟩
                hal.timeoutTicks hal.now)
    | .starting fields =>
        { product with consumer := .waiting }.handled
          (otaConsumerOpenSession protocol ⟨product.client, product.store⟩ fields hal.ota
            hal.now)
    | .verifying fields =>
        let verified := otaClientVerifyImage sha256 product.client hal.ota
        let (product, effects) := { product with consumer := .waiting }.ran verified
        (product, effects ++
          (otaConsumerEndReply protocol fields.sessionId verified.err).map .send)
    | .activating pending =>
        if product.client.config.fhssActivateCallback = false then
          { product with consumer := .waiting }.activationDone pending .fail
        else if activationIsAccepted protocol product.adapter pending = false then
          { product with consumer := .waiting }.activationDone pending .invalidArg
        else ({ product with consumer := .enteringFhss pending }, [])
    | .enteringFhss pending =>
        if product.mustWait .rx = true then (product, [])
        else
          let (adapter, err) :=
            fhssAudioAdapterEnterOtaFhss deriveSessionHopSeed product.adapter pending hal.role
          { product with adapter := adapter, consumer := .waiting }.activationDone pending err
    | .showingFailure => ({ product with consumer := .waiting }.post .otaVerifyFail, [])

/-! ## The other tasks -/

/-- The turn as the adapter answers it. -/
def FhssAudioAdapter.answered (adapter : FhssAudioAdapter) (turn : RxTurn) : RxTurn :=
  if adapter.otaFhssActive = true then turn.withoutVoice else turn

/-- The events of a turn that are to be reported. -/
def reports (events : List RxEvent) (raisedBy : FhssSyncController) : List ServiceCallback :=
  events.filterMap fun event =>
    match event with
    | .report event => some (.report event raisedBy)
    | _ => none

/-- A turn of the service task in the RX role. -/
def Product.serviceTurn (product : Product) (turn : RxTurn) : Product :=
  if product.callbacks = [] ∧ product.adapter.service.taskRunning = true ∧
      product.adapter.service.config.role = .rx then
    let (service, events) := rxTaskTurn protocol (some deriveSessionHopSeed)
      product.adapter.service (product.adapter.answered turn)
    { product with
      adapter := { product.adapter with service := service }
      callbacks := reports events service.controller }
  else product

/-- The service task goes on with its callbacks: `on_fhss_audio_event`, which for `SYNC_ACQUIRED`
first reads the generation and then promotes it. -/
def Product.serviceCallback (product : Product) (nvs : NvsHal) :
    Product × List ProductEffect :=
  match product.callbacks with
  | [] => (product, [])
  | .report .syncAcquired raisedBy :: rest =>
      match fhssAudioAdapterGetOtaFhssGeneration product.adapter with
      | none => ({ product with callbacks := rest }, [])
      | some generation =>
          ({ product with callbacks := .promote generation raisedBy :: rest }, [])
  | .report .syncLost _ :: rest => ({ product with callbacks := rest }.post .syncLost, [])
  | .report .error _ :: rest => ({ product with callbacks := rest }.post .error, [])
  | .promote generation _ :: rest =>
      let (err, store) := fhssConfigStoreActivate protocol product.store generation nvs
      ({ product with callbacks := rest, store := store }.post
        (if err = EspErr.ok then .syncAcquired else .error), [.promoted generation err])

/-- `on_ptt_event` goes on, after it has read the state. -/
def Product.onPttEvent (product : Product) : Product :=
  match product.ptt with
  | none => product
  | some (pressed, state) =>
      match FhssOtaRadio.onPttEvent state pressed with
      | none => { product with ptt := none }
      | some event => { product with ptt := none }.post event

/-- `on_ptt_event` posts an event of the button, or nothing. -/
lemma onPttEvent_cases (product : Product) :
    product.onPttEvent = { product with ptt := none } ∨
      ∃ pressed, product.onPttEvent = { product with ptt := none }.post (pttEvent pressed) := by
  unfold Product.onPttEvent
  cases hptt : product.ptt with
  | none =>
    have hsame : { product with ptt := none } = product := by rw [← hptt]
    exact .inl hsame.symm
  | some report =>
    dsimp only
    unfold FhssOtaRadio.onPttEvent
    split_ifs
    · exact .inl rfl
    · exact .inr ⟨report.1, rfl⟩

/-- One step of the product. -/
inductive ProductInput where
  /-- `app_main` posts `INIT_DONE` and returns. -/
  | appMain
  | fsmTask (hal : FsmTaskHal)
  /-- The timer task handles its next command. -/
  | timerCommand
  /-- A timer expires. -/
  | timerExpires (timer : FsmTimer)
  | menuSelect (selected : MenuItem)
  /-- The button is reported, and `on_ptt_event` reads the state. -/
  | pttEvent (pressed : Bool)
  /-- `on_ptt_event` goes on. -/
  | onPttEvent
  /-- A voice frame is received. -/
  | rxFrame
  /-- A talkspurt has ended. -/
  | rxDone
  /-- The OTA radio task hands a packet over. -/
  | radioPacket (packet : Bytes)
  /-- The OTA radio task gives up. -/
  | radioError
  | consumerTask (hal : ConsumerTaskHal)
  | serviceTurn (turn : RxTurn)
  /-- The service task reports an error in the TX role; it ends when SYNC was not transmitted. -/
  | txError (taskEnds : Bool)
  | serviceCallback (nvs : NvsHal)

/-- The product takes a step. -/
def productStep (product : Product) : ProductInput → Product × List ProductEffect
  | .appMain =>
      if product.appMainDone = true then (product, [])
      else ({ product with appMainDone := true }.post .initDone, [])
  | .fsmTask hal => product.fsmTask protocol deriveSessionHopSeed hal
  | .timerCommand =>
      match product.timers.commands with
      | [] => (product, [])
      | command :: rest =>
          ({ product with timers := { product.timers with commands := rest }.handle command }, [])
  | .timerExpires timer =>
      if timer ∈ product.timers.running then
        ({ product with timers := product.timers.handle (.stop timer) }.post
          (match timer with
          | .sync => .fhssSyncTimeout
          | .resync => .otaFhssResyncTimeout), [])
      else (product, [])
  | .menuSelect selected =>
      if product.bootInitDone = true then (product.post (onMenuSelect product.fsm selected), [])
      else (product, [])
  | .pttEvent pressed =>
      if product.bootInitDone = true ∧ product.ptt = none then
        ({ product with ptt := some (pressed, product.fsm) }, [])
      else (product, [])
  | .onPttEvent => (product.onPttEvent, [])
  | .rxFrame =>
      if product.adapter.otaFhssActive = false then (product.post .rxFrame, [])
      else (product, [])
  | .rxDone => (product.post .rxDone, [])
  | .radioPacket packet =>
      if product.radioTask = true then
        ({ product with client := (otaClientSubmitPacket product.client (some packet)).2 }, [])
      else (product, [])
  | .radioError =>
      if product.radioTask = true then ({ product with radioTask := false }.post .error, [])
      else (product, [])
  | .consumerTask hal => product.consumerTask protocol sha256 deriveSessionHopSeed hal
  | .serviceTurn turn => (product.serviceTurn protocol deriveSessionHopSeed turn, [])
  | .txError taskEnds =>
      if product.adapter.service.taskRunning = true ∧
          product.adapter.service.config.role = .tx then
        ({ product with
          adapter := { product.adapter with
            service := { product.adapter.service with taskRunning := !taskEnds } } }.post
          .error, [])
      else (product, [])
  | .serviceCallback nvs => product.serviceCallback protocol nvs

end Step

/-! ## A sample product -/

/-- The hardware and the operating system answer `fsm_task` as they should. -/
def FsmTaskHal.succeeding : FsmTaskHal where
  timerCommand := true
  taskCreated := true
  ota := .succeeding 0x100000
  beginOta := .succeeding
  endOta := .succeeding
  txRole := ⟨true, true⟩
  random := 0
  adapterInit := ⟨true, .ok, .succeeding, ⟨true, some (0, 20), true, true⟩, true⟩
  deviceId := #v[0, 0, 3]
  clientQueue := true

/-- The surroundings answer the consumer task as they should. -/
def ConsumerTaskHal.succeeding : ConsumerTaskHal :=
  ⟨true, .ok, .succeeding, .succeeding 0x100000, 0, 30, .succeeding⟩

/-- A step of `fsm_task` with good answers. -/
def sampleFsmTask : ProductInput := .fsmTask .succeeding

/-- The steps until the product has booted into `MENU_COMM`. -/
def sampleBoot : List ProductInput :=
  List.replicate 3 sampleFsmTask ++ [.appMain] ++ List.replicate 4 sampleFsmTask

/-- A digest that every image has. -/
def sampleSha256 (_ : Bytes) : Sha256Digest := Vector.replicate 32 0

/-- The button is reported, and `on_ptt_event` runs to its end at once. -/
def samplePttEvent (pressed : Bool) : List ProductInput := [.pttEvent pressed, .onPttEvent]

/-- After booting, the button is pressed and released, and the queue has room both times. -/
def samplePtt : List ProductInput :=
  sampleBoot ++ samplePttEvent true ++ [sampleFsmTask, sampleFsmTask] ++ samplePttEvent false ++
    List.replicate 5 sampleFsmTask

/-! ## A sample update -/

/-- A step of the consumer task with good answers. -/
def sampleConsumerTask : ProductInput := .consumerTask .succeeding

/-- A step of the callbacks of the service with good answers. -/
def sampleCallback : ProductInput := .serviceCallback .succeeding

/-- The steps until the product has begun OTA in `MENU_OTA`. -/
def sampleMenuOta : List ProductInput :=
  sampleBoot ++ [.menuSelect .ota] ++ List.replicate 4 sampleFsmTask

/-- A hop configuration for device 3, with three channels and slots of 200 ms. -/
def sampleHopFields (generation : UInt32) : OtaFhssConfigFields :=
  { sampleOtaFields with targetDeviceId := 3, generation := generation }

/-- The packet that carries it. -/
def sampleFhssConfig (generation : UInt32) : Bytes :=
  let fields := sampleHopFields generation
  8 :: (u32LeBytes fields.sessionId ++ u32LeBytes fields.targetDeviceId ++
    u32LeBytes fields.generation ++ u32LeBytes fields.seed ++
    [fields.algorithmVersion, fields.rendezvousChannel, fields.firstChannel,
      fields.channelCount, fields.reservedChannel] ++
    u32LeBytes fields.slotDurationUs ++ u32LeBytes fields.channelSwitchGuardUs)

/-- The packet that activates it. -/
def sampleFhssActivate (generation : UInt32) : Bytes :=
  let fields := sampleHopFields generation
  9 :: (u32LeBytes fields.sessionId ++ u32LeBytes fields.targetDeviceId ++
    u32LeBytes fields.generation)

/-- The gateway configures a generation and activates it. -/
def sampleHopping (generation : UInt32) : List ProductInput :=
  [.radioPacket (sampleFhssConfig generation), sampleConsumerTask, sampleFsmTask,
    .radioPacket (sampleFhssActivate generation), sampleConsumerTask, sampleFsmTask,
    sampleFsmTask, sampleConsumerTask, sampleConsumerTask]

/-- A turn of the service that begins at `nowUs` and receives the SYNC packet of a slot. -/
def sampleOtaSync (generation : UInt32) (nowUs : Int64) (slot : UInt32) (rxTimestampUs : Int64) :
    ProductInput :=
  let packet := [10, 1] ++ u32LeBytes generation ++ [0, 0, (slot % 3).toUInt8] ++ u32LeBytes slot
  .serviceTurn ⟨nowUs, [], true, ⟨.packet true packet rxTimestampUs none .continue, true⟩⟩

/-- A turn that hears nothing. -/
def sampleOtaMiss (nowUs : Int64) : ProductInput :=
  .serviceTurn ⟨nowUs, [], true, ⟨.noTimestamp, true⟩⟩

/-- Three SYNC packets of a generation on time, the last of which locks. -/
def sampleAcquire (generation : UInt32) : List ProductInput :=
  [sampleOtaSync generation 900000 0 1000000, sampleOtaSync generation 1000100 1 1200000,
    sampleOtaSync generation 1200100 2 1400000]

/-- START opens a session. -/
def sampleOpen : List ProductInput :=
  [.radioPacket sampleStart, sampleConsumerTask, sampleConsumerTask, sampleFsmTask]

/-- END of session 7. -/
def sampleEnd : Bytes := 3 :: (u32LeBytes 7 ++ u32LeBytes 2 ++ u32LeBytes 1)

/-- The image arrives, and its verification begins. -/
def sampleFinish : List ProductInput :=
  [.radioPacket sampleData, sampleConsumerTask, .radioPacket sampleEnd, sampleConsumerTask,
    sampleFsmTask]

end FhssOtaRadio
