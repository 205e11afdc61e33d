import FhssOtaRadio.AudioAdapter.Talkspurt
import FhssOtaRadio.Library.TaskSlot
import FhssOtaRadio.Product.System

/-!
# The audio tasks (`main/fsm.c`)

`fsm_task` creates the task that plays what is received in `RX_AUDIO` and the task that captures in
`TX_AUDIO`, and ends them by raising a flag and waiting until they have cleared their handles.  The
two tasks, the loopback test of the microphone, the button and `fsm_task` itself run interleaved
here, one access to a shared variable, queue or channel at a time; entering a state is a list of
actions that `fsm_task` works off while the others go on.  The radio side of the actions, and the
OTA radio task that it ends, are in `sEnterActions`.
-/

namespace FhssOtaRadio

/-! ## The tasks -/

/-- Where `rx_audio_task` stands, with its `idle_ms`, its frame and its `timed_out`. -/
inductive RxAudioPoint where
  | test (idleMs : ℕ)
  | receive (idleMs : ℕ)
  | play (frame : Bytes)
  | silence (idleMs : ℕ)
  | disableSpeaker (timedOut : Bool)
  | clearHandle (timedOut : Bool)
  | check (timedOut : Bool)
  | postRxDone
  | deleted
  deriving DecidableEq

/-- Where `tx_audio_task` stands. -/
inductive TxAudioPoint where
  | test
  | capture
  | submit
  | clearHandle
  | deleted
  deriving DecidableEq

/-- Where `mic_test_task` stands, with the number of frames it has captured or has still to play. -/
inductive MicTestPoint where
  | test (frameCount : ℕ)
  | capture (frameCount : ℕ)
  | enableSpeaker (frameCount : ℕ)
  | play (left : ℕ)
  | clearHandle
  | deleted
  deriving DecidableEq

/-- What the tasks do to the speaker and to the queue of received frames. -/
inductive AudioCall where
  | speakerEnable
  | speakerDisable
  /-- Samples that are no received frame are written to the channel. -/
  | speakerWrite
  /-- A received frame is decoded and written to the channel. -/
  | play (frame : Bytes)
  /-- A received frame is put into the queue. -/
  | accept (frame : Bytes)
  /-- The queue is emptied. -/
  | reset
  deriving DecidableEq

/-- `FSM_RX_AUDIO_QUEUE_DEPTH`. -/
def fsmRxAudioQueueDepth : ℕ := 32

/-- `FSM_RX_AUDIO_IDLE_TIMEOUT_MS`. -/
def fsmRxAudioIdleTimeoutMs : ℕ := 1000

/-- `FSM_RX_AUDIO_POLL_MS`. -/
def fsmRxAudioPollMs : ℕ := 20

/-- `MIC_TEST_MAX_FRAMES`. -/
def micTestMaxFrames : ℕ := 250

/-- One step of `rx_audio_task`, with what it leaves in the queue of received frames. -/
def RxAudioPoint.next (shouldStop : Bool) (queue : List Bytes) :
    RxAudioPoint → RxAudioPoint × List Bytes × List AudioCall
  | .test idleMs => (if shouldStop then .disableSpeaker false else .receive idleMs, queue, [])
  | .receive idleMs =>
      match queue with
      | frame :: queue => (.play frame, queue, [])
      | [] => (.silence idleMs, [], [])
  | .play frame => (.test 0, queue, [.play frame])
  | .silence idleMs =>
      (if fsmRxAudioIdleTimeoutMs ≤ idleMs + fsmRxAudioPollMs then .disableSpeaker true
        else .test (idleMs + fsmRxAudioPollMs), queue, [.speakerWrite])
  | .disableSpeaker timedOut => (.clearHandle timedOut, queue, [.speakerDisable])
  | .clearHandle timedOut => (.check timedOut, queue, [])
  | .check timedOut => (if timedOut && !shouldStop then .postRxDone else .deleted, queue, [])
  | .postRxDone => (.deleted, queue, [])
  | .deleted => (.deleted, queue, [])

/-- The step that sets `s_rx_audio_task` to `NULL`. -/
def RxAudioPoint.clearsHandle : RxAudioPoint → Bool
  | .clearHandle _ => true
  | _ => false

/-- One step of `tx_audio_task`; `captured` says whether a frame could be captured. -/
def TxAudioPoint.next (shouldStop captured : Bool) : TxAudioPoint → TxAudioPoint
  | .test => if shouldStop then .clearHandle else .capture
  | .capture => if captured then .submit else .test
  | .submit => .test
  | .clearHandle => .deleted
  | .deleted => .deleted

/-- The step that sets `s_tx_audio_task` to `NULL`. -/
def TxAudioPoint.clearsHandle (point : TxAudioPoint) : Bool := point == .clearHandle

/-- One step of `mic_test_task`; `captured` says whether a frame could be captured. -/
def MicTestPoint.next (recording captured : Bool) : MicTestPoint → MicTestPoint × List AudioCall
  | .test frameCount =>
      (if recording && decide (frameCount < micTestMaxFrames) then .capture frameCount
        else .enableSpeaker frameCount, [])
  | .capture frameCount => (.test (if captured then frameCount + 1 else frameCount), [])
  | .enableSpeaker frameCount => (.play frameCount, [.speakerEnable])
  | .play 0 => (.clearHandle, [.speakerDisable])
  | .play (left + 1) => (.play left, [.speakerWrite])
  | .clearHandle => (.deleted, [])
  | .deleted => (.deleted, [])

/-- The step that sets `s_mic_test_task` to `NULL`. -/
def MicTestPoint.clearsHandle (point : MicTestPoint) : Bool := point == .clearHandle

/-- The task is still the one its handle names. -/
def RxAudioPoint.hasHandle : RxAudioPoint → Bool
  | .check _ | .postRxDone | .deleted => false
  | _ => true

/-- The task is still the one its handle names. -/
def TxAudioPoint.hasHandle (point : TxAudioPoint) : Bool := point != .deleted

/-- The task is still the one its handle names. -/
def MicTestPoint.hasHandle (point : MicTestPoint) : Bool := point != .deleted

/-- The task has the speaker channel, and has to disable it. -/
def RxAudioPoint.hasSpeaker : RxAudioPoint → Bool
  | .test _ | .receive _ | .play _ | .silence _ | .disableSpeaker _ => true
  | _ => false

/-- The task has the speaker channel, and has to disable it. -/
def MicTestPoint.hasSpeaker : MicTestPoint → Bool
  | .play _ => true
  | _ => false

/-- The frame that the task has taken out of the queue. -/
def RxAudioPoint.inHand : RxAudioPoint → List Bytes
  | .play frame => [frame]
  | _ => []

/-! ## What `fsm_task` does to the audio -/

/-- The two audio tasks of the FSM. -/
inductive AudioTask where
  | tx
  | rx
  deriving DecidableEq

/-- The state in which the task is created. -/
def AudioTask.state : AudioTask → FsmState
  | .tx => .txAudio
  | .rx => .rxAudio

/-- What entering a state does to the audio. -/
inductive AudioAction where
  /-- `audio_io_speaker_enable`. -/
  | speakerEnable
  /-- A chunk of the beep is written to the channel. -/
  | speakerWrite (samples : ℕ)
  /-- `audio_io_speaker_disable`. -/
  | speakerDisable
  /-- `fhss_audio_adapter_begin_tx`; a failure is posted and ends the entry. -/
  | beginTx
  /-- The creation of the TX task. -/
  | createTxAudioTask
  /-- The creation of the RX task, which ends the entry unless it fails. -/
  | createRxAudioTask
  /-- `s_rx_audio_task = NULL`. -/
  | clearRxHandle
  | postError
  /-- The test of `s_tx_audio_task` in `on_enter_menu_comm`, around the next action. -/
  | ifTxAudioTask
  /-- `stop_tx_audio_task` and `stop_rx_audio_task`. -/
  | stopAudioTask (task : AudioTask)
  /-- `xQueueReset(s_rx_audio_queue)`. -/
  | resetRxAudioQueue
  deriving DecidableEq

/-- The chunks in which `play_tone` writes its samples. -/
def playTone (durationMs : ℕ) : List AudioAction :=
  let totalSamples := 8000 * durationMs / 1000
  List.replicate (totalSamples / 160) (.speakerWrite 160) ++
    if totalSamples % 160 = 0 then [] else [.speakerWrite (totalSamples % 160)]

/-- `audio_io_play_beep`. -/
def audioIoPlayBeep : List AudioAction := playTone 80 ++ playTone 30 ++ playTone 100

/-- What entering a state does to the audio.  The radio side, with the wait of `stop_ota_radio`, is
in `sEnterActions`. -/
def enterAudio : FsmState → List AudioAction
  | .menuComm =>
      [.ifTxAudioTask, .stopAudioTask .tx, .stopAudioTask .rx, .resetRxAudioQueue]
  | .txAudio =>
      .speakerEnable :: audioIoPlayBeep ++ [.speakerDisable, .beginTx, .createTxAudioTask]
  | .rxAudio =>
      [.speakerEnable, .createRxAudioTask, .speakerDisable, .clearRxHandle, .postError]
  | .error => [.stopAudioTask .tx, .stopAudioTask .rx]
  | _ => []

/-- How far `stop_tx_audio_task` or `stop_rx_audio_task` has come. -/
inductive StopStage where
  /-- Before the test for `NULL`. -/
  | start
  /-- Before the flag is raised. -/
  | raise
  /-- In the loop that waits for the handle to be cleared. -/
  | await
  /-- Before the flag is lowered. -/
  | lower
  deriving DecidableEq

/-- The state that the tasks share. -/
structure AudioSystem where
  /-- `s_state`. -/
  fsm : FsmState
  /-- What `fsm_task` still has to do of the entry into `fsm`. -/
  todo : List AudioAction
  /-- How far it has come with the first of these. -/
  stage : StopStage
  /-- `s_event_queue`. -/
  events : List FsmEvent
  /-- `s_rx_audio_queue`. -/
  rxAudioQueue : List Bytes
  /-- `s_rx_audio_task`. -/
  rx : TaskSlot RxAudioPoint
  /-- `s_tx_audio_task`. -/
  tx : TaskSlot TxAudioPoint
  /-- `s_mic_test_task`. -/
  micTest : TaskSlot MicTestPoint
  /-- `s_rx_audio_should_stop`. -/
  rxShouldStop : Bool
  /-- `s_tx_audio_should_stop`. -/
  txShouldStop : Bool
  /-- `s_mic_test_recording`. -/
  micTestRecording : Bool
  /-- `on_ptt_event` between its reading of the state and its effect. -/
  ptt : Option (Bool × FsmState)

namespace AudioSystem

/-- The state in which `fsm_task` starts. -/
def boot : AudioSystem where
  fsm := .bootInit
  todo := enterAudio .bootInit
  stage := .start
  events := []
  rxAudioQueue := []
  rx := .empty
  tx := .empty
  micTest := .empty
  rxShouldStop := false
  txShouldStop := false
  micTestRecording := false
  ptt := none

/-- The handle of the task is not `NULL`. -/
def running (s : AudioSystem) : AudioTask → Bool
  | .tx => s.tx.current.isSome
  | .rx => s.rx.current.isSome

/-- The flag that asks the task to end. -/
def shouldStop (s : AudioSystem) : AudioTask → Bool
  | .tx => s.txShouldStop
  | .rx => s.rxShouldStop

def setShouldStop (s : AudioSystem) (task : AudioTask) (value : Bool) : AudioSystem :=
  match task with
  | .tx => { s with txShouldStop := value }
  | .rx => { s with rxShouldStop := value }

/-- `fsm_post_event`. -/
def post (s : AudioSystem) (event : FsmEvent) : AudioSystem :=
  { s with events := EventQueue.post fsmEventQueueDepth s.events event }

/-- The entry into a state. -/
def enter (s : AudioSystem) (next : FsmState) : AudioSystem :=
  { s with fsm := next, todo := enterAudio next, stage := .start }

/-- `fsm_transition_to`. -/
def transitionTo (s : AudioSystem) (next : FsmState) : AudioSystem :=
  if next = s.fsm then s else s.enter next

end AudioSystem

namespace AudioSystem

/-- The body of `fsm_task`'s loop; `ok` says whether the timer of the grace could be started. -/
def react (s : AudioSystem) (ok : Bool) (event : FsmEvent) : AudioSystem :=
  match fsmTaskReaction s.fsm event with
  | .transitionTo next => s.transitionTo next
  | .abortSession => s.transitionTo .menuOta
  | .armResyncTimer => if ok then s else s.transitionTo .menuOta
  | .ignore | .stopResyncTimer => s

/-- One step of `stop_tx_audio_task` or `stop_rx_audio_task`. -/
def stopAudioTask (s : AudioSystem) (task : AudioTask) (rest : List AudioAction) : AudioSystem :=
  match s.stage with
  | .start => if s.running task then { s with stage := .raise } else { s with todo := rest }
  | .raise => { s.setShouldStop task true with stage := .await }
  | .await => if s.running task then s else { s with stage := .lower }
  | .lower => { s.setShouldStop task false with stage := .start, todo := rest }

/-- One action of an entry; `ok` is the answer of the call, where it has one. -/
def perform (s : AudioSystem) (ok : Bool) (action : AudioAction) (rest : List AudioAction) :
    AudioSystem × List AudioCall :=
  match action with
  | .speakerEnable => ({ s with todo := rest }, [.speakerEnable])
  | .speakerWrite _ => ({ s with todo := rest }, [.speakerWrite])
  | .speakerDisable => ({ s with todo := rest }, [.speakerDisable])
  | .beginTx => (if ok then { s with todo := rest } else { s.post .error with todo := [] }, [])
  | .createTxAudioTask =>
      (if ok then { s with todo := rest, tx := s.tx.create .test } else { s with todo := rest }, [])
  | .createRxAudioTask =>
      (if ok then { s with todo := [], rx := s.rx.create (.test 0) } else { s with todo := rest },
        [])
  | .clearRxHandle => ({ s with todo := rest, rx := s.rx.forget }, [])
  | .postError => ({ s.post .error with todo := rest }, [])
  | .ifTxAudioTask => ({ s with todo := if s.running .tx then rest else rest.tail }, [])
  | .stopAudioTask task => (s.stopAudioTask task rest, [])
  | .resetRxAudioQueue => ({ s with todo := rest, rxAudioQueue := [] }, [.reset])

/-- One step of `fsm_task`: an action of the entry, or the next event. -/
def fsmTask (s : AudioSystem) (ok : Bool) : AudioSystem × List AudioCall :=
  match s.todo, s.events with
  | action :: rest, _ => s.perform ok action rest
  | [], event :: events => ({ s with events := events }.react ok event, [])
  | [], [] => (s, [])

/-- One step of an `rx_audio_task`. -/
def rxAudioTask (s : AudioSystem) (which : Option ℕ) : AudioSystem × List AudioCall :=
  match s.rx.point which with
  | none => (s, [])
  | some point =>
      let (point', queue, calls) := point.next s.rxShouldStop s.rxAudioQueue
      let s := { s with rx := s.rx.advance which point' point.clearsHandle, rxAudioQueue := queue }
      (if point = .postRxDone then s.post .rxDone else s, calls)

/-- One step of a `tx_audio_task`. -/
def txAudioTask (s : AudioSystem) (which : Option ℕ) (captured : Bool) : AudioSystem :=
  match s.tx.point which with
  | none => s
  | some point =>
      { s with tx := s.tx.advance which (point.next s.txShouldStop captured) point.clearsHandle }

/-- One step of a `mic_test_task`. -/
def micTestTask (s : AudioSystem) (which : Option ℕ) (captured : Bool) :
    AudioSystem × List AudioCall :=
  match s.micTest.point which with
  | none => (s, [])
  | some point =>
      let (point', calls) := point.next s.micTestRecording captured
      ({ s with micTest := s.micTest.advance which point' point.clearsHandle }, calls)

/-- The second half of `on_ptt_event`, after it has read the state. -/
def onPttEvent (s : AudioSystem) (created : Bool) : AudioSystem :=
  match s.ptt with
  | none => s
  | some (pressed, .menuIdle) =>
      if pressed then
        if s.micTest.current.isSome then { s with ptt := none }
        else
          { s with
            ptt := none
            micTestRecording := true
            micTest := if created then s.micTest.create (.test 0) else s.micTest }
      else { s with ptt := none, micTestRecording := false }
  | some (pressed, _) =>
      { s.post (FhssOtaRadio.pttEvent pressed) with ptt := none }

/-- The first half of `fsm_post_rx_audio_frame`; the second posts `RX_FRAME`. -/
def fsmPostRxAudioFrame (s : AudioSystem) (data : Bytes) : AudioSystem × List AudioCall :=
  if data.length = 0 ∨ audioCodecMaxEncodedBytes < data.length then (s, [])
  else if s.rxAudioQueue.length < fsmRxAudioQueueDepth then
    ({ s with rxAudioQueue := s.rxAudioQueue ++ [data] }, [.accept data])
  else (s, [])

end AudioSystem

/-- Who makes the next step, and what the calls of the step answer. -/
inductive AudioStep where
  | fsmTask (ok : Bool)
  | rxAudioTask (which : Option ℕ)
  | txAudioTask (which : Option ℕ) (captured : Bool)
  | micTestTask (which : Option ℕ) (captured : Bool)
  /-- The button is reported, and `on_ptt_event` reads the state. -/
  | pttEvent (pressed : Bool)
  /-- `on_ptt_event` goes on. -/
  | onPttEvent (created : Bool)
  /-- A task of another component posts an event. -/
  | postEvent (event : FsmEvent)
  /-- The adapter hands over a received frame. -/
  | postRxAudioFrame (data : Bytes)
  deriving DecidableEq

/-- One step of one of the tasks. -/
def audioStep (s : AudioSystem) : AudioStep → AudioSystem × List AudioCall
  | .fsmTask ok => s.fsmTask ok
  | .rxAudioTask which => s.rxAudioTask which
  | .txAudioTask which captured => (s.txAudioTask which captured, [])
  | .micTestTask which captured => s.micTestTask which captured
  | .pttEvent pressed =>
      (if s.ptt = none then { s with ptt := some (pressed, s.fsm) } else s, [])
  | .onPttEvent created => (s.onPttEvent created, [])
  | .postEvent event => (s.post event, [])
  | .postRxAudioFrame data => s.fsmPostRxAudioFrame data

/-! ## What one step of a task does to its handle -/

/-- The handle is cleared by the task that it names. -/
lemma RxAudioPoint.hasHandle_of_clearsHandle (point : RxAudioPoint)
    (h : point.clearsHandle = true) : point.hasHandle = true := by
  cases point with
  | clearHandle => rfl
  | _ => cases h

/-- The handle is given back in the step that clears it. -/
lemma RxAudioPoint.hasHandle_next (point : RxAudioPoint) (shouldStop : Bool)
    (queue : List Bytes) :
    (point.next shouldStop queue).1.hasHandle = (point.hasHandle && !point.clearsHandle) := by
  cases point with
  | test => cases shouldStop <;> rfl
  | receive => cases queue <;> rfl
  | silence => dsimp only [next]; split <;> rfl
  | check timedOut => cases timedOut <;> cases shouldStop <;> rfl
  | _ => rfl

lemma TxAudioPoint.hasHandle_of_clearsHandle (point : TxAudioPoint)
    (h : point.clearsHandle = true) : point.hasHandle = true := by
  cases point with
  | clearHandle => rfl
  | _ => cases h

lemma TxAudioPoint.hasHandle_next (point : TxAudioPoint) (shouldStop captured : Bool) :
    (point.next shouldStop captured).hasHandle = (point.hasHandle && !point.clearsHandle) := by
  cases point <;> cases shouldStop <;> cases captured <;> rfl

lemma MicTestPoint.hasHandle_of_clearsHandle (point : MicTestPoint)
    (h : point.clearsHandle = true) : point.hasHandle = true := by
  cases point with
  | clearHandle => rfl
  | _ => cases h

lemma MicTestPoint.hasHandle_next (point : MicTestPoint) (recording captured : Bool) :
    (point.next recording captured).1.hasHandle = (point.hasHandle && !point.clearsHandle) := by
  cases point with
  | test => dsimp only [next]; split <;> rfl
  | play left => cases left <;> rfl
  | _ => rfl

end FhssOtaRadio
