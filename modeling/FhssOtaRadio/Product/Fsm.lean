import FhssOtaRadio.OtaClient.Client

/-!
# The product FSM (`main/fsm.c`)

The state machine behind menu, voice and OTA: its transition table, what `fsm_task` does with an
event, what entering a state sets off, and which events the callbacks of the OTA client post.
`fsm_task` works through its consequences one after the other while the other tasks go on, so
they are a list of actions here; `Product.System` runs them.
-/

namespace FhssOtaRadio

/-- `fsm_state_t`. -/
inductive FsmState where
  | bootInit
  | menuComm
  | menuIdle
  | menuOta
  | otaFhssConfigured
  | otaFhssSyncing
  | otaFhssReady
  | txAudio
  | rxAudio
  | otaReceiving
  | otaApplying
  | error
  deriving DecidableEq, Repr

/-- `fsm_event_t`. -/
inductive FsmEvent where
  | initDone
  | syncLost
  | menuSelectComm
  | menuSelectIdle
  | menuSelectOta
  | fhssConfigReady
  | fhssActivate
  | syncAcquired
  | fhssSyncTimeout
  | otaFhssResyncTimeout
  | pttPress
  | pttRelease
  | rxFrame
  | rxDone
  | otaStart
  | otaChunk
  | otaComplete
  | otaVerifyOk
  | otaVerifyFail
  | error
  | retry
  deriving DecidableEq, Repr

/-! ## Transitions -/

/-- `s_transitions`. -/
def sTransitions : List (FsmState × FsmEvent × FsmState) :=
  [(.bootInit, .initDone, .menuComm),
    (.menuComm, .pttPress, .txAudio),
    (.menuComm, .rxFrame, .rxAudio),
    (.menuComm, .menuSelectIdle, .menuIdle),
    (.menuComm, .menuSelectOta, .menuOta),
    (.menuIdle, .menuSelectComm, .menuComm),
    (.menuIdle, .menuSelectOta, .menuOta),
    (.menuOta, .menuSelectComm, .menuComm),
    (.menuOta, .menuSelectIdle, .menuIdle),
    (.menuOta, .fhssConfigReady, .otaFhssConfigured),
    (.otaFhssConfigured, .fhssConfigReady, .otaFhssConfigured),
    (.otaFhssConfigured, .fhssActivate, .otaFhssSyncing),
    (.otaFhssConfigured, .menuSelectComm, .menuComm),
    (.otaFhssConfigured, .menuSelectIdle, .menuIdle),
    (.otaFhssSyncing, .syncAcquired, .otaFhssReady),
    (.otaFhssSyncing, .fhssSyncTimeout, .menuOta),
    (.otaFhssReady, .otaStart, .otaReceiving),
    (.otaFhssReady, .syncLost, .menuOta),
    (.otaFhssReady, .menuSelectComm, .menuComm),
    (.otaFhssReady, .menuSelectIdle, .menuIdle),
    (.txAudio, .pttRelease, .menuComm),
    (.rxAudio, .rxFrame, .rxAudio),
    (.rxAudio, .rxDone, .menuComm),
    (.otaReceiving, .otaChunk, .otaReceiving),
    (.otaReceiving, .otaComplete, .otaApplying),
    (.otaApplying, .otaVerifyFail, .menuOta),
    (.error, .retry, .bootInit)]

/-- The first row of the table for a state and an event. -/
def findTransition (state : FsmState) (event : FsmEvent) : Option FsmState :=
  (sTransitions.find? fun row => row.1 = state ∧ row.2.1 = event).map fun row => row.2.2

/-- `ota_fhss_state` in `fsm_task`. -/
def isOtaFhssState (state : FsmState) : Bool :=
  state == .otaFhssConfigured || state == .otaFhssSyncing || state == .otaFhssReady ||
    state == .otaReceiving

/-- What the body of `fsm_task`'s loop does with an event. -/
inductive FsmReaction where
  /-- The event is not handled, or has no effect. -/
  | ignore
  /-- `fsm_transition_to`. -/
  | transitionTo (next : FsmState)
  /-- Stop the timer of the resync grace. -/
  | stopResyncTimer
  /-- Start the timer of the resync grace; when that fails, abort the session. -/
  | armResyncTimer
  /-- Abort the session and return to `MENU_OTA`. -/
  | abortSession
  deriving DecidableEq, Repr

/-- The body of `fsm_task`'s loop: the global transitions, then the table. -/
def fsmTaskReaction (state : FsmState) (event : FsmEvent) : FsmReaction :=
  if event = .error ∧ state ≠ .error then .transitionTo .error
  else if event = .syncAcquired ∧ state = .otaReceiving then .stopResyncTimer
  else if event = .otaFhssResyncTimeout then
    if state = .otaReceiving then .abortSession else .ignore
  else if event = .syncLost ∧ state ≠ .bootInit ∧ state ≠ .error then
    if state = .otaReceiving then .armResyncTimer
    else .transitionTo (if isOtaFhssState state then .menuOta else .menuComm)
  else
    match findTransition state event with
    | some next => .transitionTo next
    | none => .ignore

/-- The state that an event leads to, if the timers can be started. -/
def fsmNext (state : FsmState) (event : FsmEvent) : FsmState :=
  match fsmTaskReaction state event with
  | .transitionTo next => next
  | .abortSession => .menuOta
  | _ => state

/-! ## Entering a state -/

/-- The two one-shot timers of the FSM. -/
inductive FsmTimer where
  /-- `s_ota_fhss_sync_timer`. -/
  | sync
  /-- `s_ota_fhss_resync_timer`. -/
  | resync
  deriving DecidableEq, Repr

/-- What `fsm_task` still has to do, one step each. -/
inductive FsmAction where
  /-- `fsm_transition_to`. -/
  | transitionTo (next : FsmState)
  /-- `ota_client_abort`. -/
  | abort
  /-- The abort in `on_enter_error`, made if a session is open or has failed. -/
  | abortInterrupted
  /-- `xTimerReset`. -/
  | armTimer (timer : FsmTimer)
  /-- The first half of `stop_ota_radio`: end the OTA radio task. -/
  | stopRadioTask
  /-- The second half of `stop_ota_radio`: `fhss_audio_adapter_end_ota`. -/
  | endOta
  /-- `start_ota_radio`. -/
  | startOtaRadio
  /-- `fhss_audio_adapter_begin_tx`. -/
  | beginTx
  /-- `fhss_audio_adapter_end_tx`. -/
  | endTx
  /-- The creation of the RX audio task. -/
  | startRxAudio
  /-- `on_enter_boot_init`. -/
  | bootInit
  /-- `fhss_audio_adapter_init`, at the first boot. -/
  | initAdapter
  /-- `ota_client_init` and `ota_client_start_consumer`, at the first boot. -/
  | initClient
  deriving DecidableEq, Repr

/-- `stop_ota_radio`. -/
def stopOtaRadio : List FsmAction := [.stopRadioTask, .endOta]

/-- `s_enter_actions`; what only concerns the display, the LED and the audio tasks is left out. -/
def sEnterActions : FsmState → List FsmAction
  | .bootInit => [.bootInit]
  | .menuComm => stopOtaRadio ++ [.endTx]
  | .menuIdle => stopOtaRadio
  | .menuOta => stopOtaRadio ++ [.startOtaRadio]
  | .otaFhssSyncing => [.armTimer .sync]
  | .txAudio => [.beginTx]
  | .rxAudio => [.startRxAudio]
  | .error => stopOtaRadio ++ [.abortInterrupted, .endTx]
  | .otaFhssConfigured => []
  | .otaFhssReady => []
  | .otaReceiving => []
  | .otaApplying => []

/-! ## Callbacks -/

/-- `fsm_ota_mode_callback`. -/
def fsmOtaModeCallback (state : FsmState) : Bool :=
  state == .menuOta || state == .otaFhssConfigured || state == .otaFhssSyncing ||
    state == .otaFhssReady

/-- What `fsm_ota_event_callback` does with an event of the client. -/
inductive OtaEventReaction where
  | nothing
  | post (event : FsmEvent)
  /-- Show the failure for three seconds, then post `OTA_VERIFY_FAIL`. -/
  | showFailure
  deriving DecidableEq, Repr

/-- `fsm_ota_event_callback`, over the state that `fsm_get_state` returns. -/
def fsmOtaEventCallback (state : FsmState) : OtaClientEvent → OtaEventReaction
  | .fhssConfigReady => .post .fhssConfigReady
  | .fhssActivating => .post .fhssActivate
  | .fhssActivateFailed => .post .fhssSyncTimeout
  | .started => .post .otaStart
  | .progress => .nothing
  | .applying => .post .otaComplete
  | .completed => .nothing
  | .failed => if state = .otaApplying then .showFailure else .post .error
  | .aborted => .nothing

/-- The menu entries of the rotary encoder. -/
inductive MenuItem where
  | comm
  | idle
  | ota
  deriving DecidableEq, Repr

/-- `on_menu_select`: the event that a selection posts. -/
def onMenuSelect (state : FsmState) (selected : MenuItem) : FsmEvent :=
  if state = .error then .retry
  else
    match selected with
    | .comm => .menuSelectComm
    | .ota => .menuSelectOta
    | .idle => .menuSelectIdle

/-- The event of the button. -/
def pttEvent (pressed : Bool) : FsmEvent := if pressed then .pttPress else .pttRelease

/-- `on_ptt_event`: the event that it posts, over the state that it has read.  `LOOPBACK_ENABLE` is
defined, so in `MENU_IDLE` the button works the loopback test of the microphone instead. -/
def onPttEvent (state : FsmState) (pressed : Bool) : Option FsmEvent :=
  if state = .menuIdle then none else some (pttEvent pressed)

/-! ## What the reactions are -/

/-- Only the resync timeout makes `fsm_task` give a session up. -/
lemma fsmTaskReaction_eq_abortSession_iff (state : FsmState) (event : FsmEvent) :
    fsmTaskReaction state event = .abortSession ↔
      state = .otaReceiving ∧ event = .otaFhssResyncTimeout := by
  cases state <;> cases event <;> decide

/-- Only a loss of synchronization starts the grace. -/
lemma fsmTaskReaction_eq_armResyncTimer_iff (state : FsmState) (event : FsmEvent) :
    fsmTaskReaction state event = .armResyncTimer ↔
      state = .otaReceiving ∧ event = .syncLost := by
  cases state <;> cases event <;> decide

/-- `ERROR` is left by a retry alone. -/
lemma fsmNext_error (event : FsmEvent) :
    fsmNext .error event = if event = .retry then .bootInit else .error := by
  cases event <;> rfl

/-- An error event leads to `ERROR` from everywhere. -/
@[simp] lemma fsmNext_of_error (state : FsmState) : fsmNext state .error = .error := by
  cases state <;> rfl

end FhssOtaRadio
