import FhssOtaRadio.AudioAdapter.Talkspurt
import FhssOtaRadio.FhssService.HopFrame
import FhssOtaRadio.Library.EventQueue

/-!
# Following a talker (`on_service_data` in `fhss_audio_adapter.c`)

A talker announces the public seed of its talkspurt, and a receiver that hears the announcement
derives the hop sequence from it.  Two caches stand in between: the service remembers the seed it
derived last, the adapter the session it heard announced last.  The first is forgotten whenever
the controller is rebuilt; the second never is, and every talker numbers its sessions from 1.
-/

namespace FhssOtaRadio

open Machine

/-- `FHSS_OTA_RX_QUEUE_DEPTH`. -/
def fhssOtaRxQueueDepth : ℕ := 16

/-- The adapter with all that `fhss_audio_adapter_state_t` keeps of the talkspurts it sends and
receives. -/
structure VoiceAdapter where
  sender : VoiceSender
  expectedRxSequence : UInt16
  rxPacketCount : UInt32
  haveRxSequence : Bool
  haveLastRxEnd : Bool
  lastRxEndSessionId : UInt16
  lastRxEndSequence : UInt16
  haveLastRxSeedAnnounce : Bool
  lastRxSeedAnnounceSessionId : UInt16
  deriving DecidableEq

/-- An adapter that has just come up. -/
def VoiceAdapter.start (adapter : FhssAudioAdapter) : VoiceAdapter where
  sender := ⟨adapter, [], 0, 0, 0, []⟩
  expectedRxSequence := 0
  rxPacketCount := 0
  haveRxSequence := false
  haveLastRxEnd := false
  lastRxEndSessionId := 0
  lastRxEndSequence := 0
  haveLastRxSeedAnnounce := false
  lastRxSeedAnnounceSessionId := 0

/-- The adapter below. -/
def VoiceAdapter.adapter (voice : VoiceAdapter) : FhssAudioAdapter := voice.sender.adapter

/-- Replace the adapter below. -/
def VoiceAdapter.withAdapter (voice : VoiceAdapter) (adapter : FhssAudioAdapter) : VoiceAdapter :=
  { voice with sender := { voice.sender with adapter := adapter } }

/-- Replace the service. -/
def VoiceAdapter.withService (voice : VoiceAdapter) (service : FhssService) : VoiceAdapter :=
  voice.withAdapter { voice.adapter with service := service }

/-- What `on_service_data` hands to the application. -/
inductive VoiceRxEvent where
  /-- `FHSS_AUDIO_ADAPTER_EVENT_TALKSPURT_ENDED`. -/
  | talkspurtEnded
  /-- A frame for the RX frame callback. -/
  | frame (frame : Bytes)
  deriving DecidableEq

/-- `duplicate` of an announcement. -/
def VoiceAdapter.repeatsAnnounce (voice : VoiceAdapter) (announce : FhssAudioSeedAnnouncePacket) :
    Bool :=
  voice.haveLastRxSeedAnnounce && announce.sessionId == voice.lastRxSeedAnnounceSessionId

/-- `duplicate` of an END packet. -/
def VoiceAdapter.repeatsEnd (voice : VoiceAdapter) (packetEnd : FhssAudioEndPacket) : Bool :=
  voice.haveLastRxEnd && packetEnd.sessionId == voice.lastRxEndSessionId &&
    packetEnd.finalSequence == voice.lastRxEndSequence

variable (protocol : OtaProtocol) (deriveSessionHopSeed : UInt32 → UInt32)

/-- `on_service_data`: the adapter afterwards, what the service is to do, and what the application
gets. -/
def onServiceData (voice : VoiceAdapter) (data : Bytes) :
    VoiceAdapter × FhssServiceDataAction × List VoiceRxEvent :=
  if voice.adapter.otaFhssActive = true then
    if 0 < data.length ∧ data.length ≤ rfTransportMaxPacketLength then
      (voice.withAdapter { voice.adapter with
        otaRxQueue := EventQueue.post fhssOtaRxQueueDepth voice.adapter.otaRxQueue data },
        .continue, [])
    else (voice, .continue, [])
  else
    match fhssAudioSeedAnnouncePacketUnpack data with
    | some announce =>
        if voice.repeatsAnnounce announce = true then (voice, .continue, [])
        else
          let voice := { voice with
            haveLastRxSeedAnnounce := true
            lastRxSeedAnnounceSessionId := announce.sessionId }
          (voice.withService (fhssServiceApplyPublicSeed (some deriveSessionHopSeed)
            voice.adapter.service announce.publicSeed).1, .continue, [])
    | none =>
        match fhssAudioEndPacketUnpack data with
        | some packetEnd =>
            if voice.repeatsEnd packetEnd = true then (voice, .sessionEnd, [])
            else
              ({ voice with
                haveLastRxEnd := true
                lastRxEndSessionId := packetEnd.sessionId
                lastRxEndSequence := packetEnd.finalSequence
                haveRxSequence := false }, .sessionEnd, [.talkspurtEnded])
        | none =>
            match fhssAudioPacketUnpack data with
            | none => (voice, .continue, [])
            | some packet =>
                ({ voice with
                  expectedRxSequence := packet.sequence + 1
                  haveRxSequence := true
                  rxPacketCount := voice.rxPacketCount + 1 }, .continue,
                  packet.frames.map .frame)

/-! ## What an adapter does -/

/-- `receive_one` with `on_service_data` as its callback. -/
def VoiceAdapter.receiveOne (voice : VoiceAdapter) (receive : RadioReceive) :
    VoiceAdapter × ReceiveResult × List VoiceRxEvent :=
  match receive with
  | .packet true payload rxTimestampUs _ _ =>
      if fhssSyncPacketHasValidMagic protocol payload = false ∧
          voice.adapter.service.fsm ≠ .searching then
        let (voice, action, events) := onServiceData deriveSessionHopSeed voice payload
        (voice, if action = .sessionEnd then .sessionEnd else .data, events)
      else
        let (service, received) := FhssOtaRadio.receiveOne protocol (some deriveSessionHopSeed)
          voice.adapter.service (.packet true payload rxTimestampUs none .continue)
        (voice.withService service, received, [])
  | receive =>
      let (service, received) := FhssOtaRadio.receiveOne protocol (some deriveSessionHopSeed)
        voice.adapter.service receive
      (voice.withService service, received, [])

/-- What the RX task does with the result of a receive; `counts` says that it follows the slots
and the receive was the last one of a slot, so that a miss is a miss. -/
def handleReceived (service : FhssService) (received : ReceiveResult) (counts selected : Bool) :
    FhssService :=
  match received with
  | .ok result => (handleSyncResult service result).1
  | .sessionEnd => (handleSessionEnd service selected).1
  | .timeout => if counts then (handleMiss service).1 else service
  | .crcFail => if counts then (handleMiss service).1 else service
  | .syncError => if counts then (handleInvalidSync service).1 else service
  | .data => service
  | .radioError => service

/-- The RX task, one answer of the clock or the radio at a time. -/
inductive RxPiece where
  /-- `select_channel`. -/
  | select (slot : UInt32) (selected : Bool)
  /-- `get_recovery_probe_slot`. -/
  | probe (predictedSlot : UInt32)
  /-- The scheduler has no next slot. -/
  | noNextSlot
  /-- `receive_one`, and what follows. -/
  | receive (receive : RadioReceive) (counts selected : Bool)

/-- The RX task takes a step. -/
def VoiceAdapter.rx (voice : VoiceAdapter) : RxPiece → VoiceAdapter × List VoiceRxEvent
  | .select slot selected =>
      (voice.withService (selectChannel voice.adapter.service slot selected).1, [])
  | .probe predictedSlot =>
      (voice.withService (getRecoveryProbeSlot voice.adapter.service predictedSlot).1, [])
  | .noNextSlot =>
      (voice.withService (voice.adapter.service.handle .syncLost).clearReference, [])
  | .receive receive counts selected =>
      let (voice, received, events) := voice.receiveOne protocol deriveSessionHopSeed receive
      (voice.withService (handleReceived voice.adapter.service received counts selected), events)

/-- `fhss_audio_adapter_end_tx`. -/
def VoiceAdapter.endTx (voice : VoiceAdapter) (hal : EndTxHal) : VoiceAdapter :=
  if voice.adapter.initialized = false ∨ voice.adapter.txActive = false then voice
  else { voice with sender := (voice.sender.endTx hal).1, haveRxSequence := false }

/-- What the tasks call on the adapter. -/
inductive VoiceInput where
  | beginTx (publicSeed : UInt32) (hal : FhssRoleHal)
      (free : Vector Bool fhssAudioSeedAnnounceRepeatCount)
  | submit (submit : Submit)
  | endTx (hal : EndTxHal)
  | beginOta (hal : BeginOtaHal)
  /-- An activation has passed its checks, if only some time ago. -/
  | enterOtaFhss (config : OtaFhssConfigFields) (hal : OtaRoleHal)
  | endOta (hal : OtaRoleHal)
  | rx (piece : RxPiece)

/-- The adapter takes a step; the RX task takes one when it runs. -/
def voiceStep (voice : VoiceAdapter) : VoiceInput → VoiceAdapter × List VoiceRxEvent
  | .beginTx publicSeed hal free =>
      ({ voice with
        sender := (voice.sender.beginTx deriveSessionHopSeed publicSeed hal free).1 }, [])
  | .submit submit => ({ voice with sender := (submitStep voice.sender submit).1 }, [])
  | .endTx hal => (voice.endTx hal, [])
  | .beginOta hal => (voice.withAdapter (fhssAudioAdapterBeginOta voice.adapter hal).1, [])
  | .enterOtaFhss config hal =>
      (voice.withAdapter
        (fhssAudioAdapterEnterOtaFhss deriveSessionHopSeed voice.adapter config hal).1, [])
  | .endOta hal => (voice.withAdapter (fhssAudioAdapterEndOta voice.adapter hal).1, [])
  | .rx piece =>
      if voice.adapter.service.taskRunning = true ∧ voice.adapter.service.config.role = .rx then
        voice.rx protocol deriveSessionHopSeed piece
      else (voice, [])

/-! ## The RX task in pieces -/

section Pieces

variable (voice : VoiceAdapter)

/-- `on_service_data` leaves the service alone or applies a public seed. -/
lemma service_onServiceData (data : Bytes) :
    ∃ appliedSeed, (onServiceData deriveSessionHopSeed voice data).1.adapter.service =
      match appliedSeed with
      | none => voice.adapter.service
      | some publicSeed => (fhssServiceApplyPublicSeed (some deriveSessionHopSeed)
          voice.adapter.service publicSeed).1 := by
  unfold onServiceData
  by_cases hfhss : voice.adapter.otaFhssActive = true
  · rw [if_pos hfhss]
    split_ifs <;> exact ⟨none, rfl⟩
  rw [if_neg hfhss]
  cases fhssAudioSeedAnnouncePacketUnpack data with
  | some announce =>
    dsimp only
    by_cases hrepeat : voice.repeatsAnnounce announce = true
    · rw [if_pos hrepeat]
      exact ⟨none, rfl⟩
    · rw [if_neg hrepeat]
      exact ⟨some announce.publicSeed, rfl⟩
  | none =>
    dsimp only
    cases fhssAudioEndPacketUnpack data with
    | some packetEnd =>
      dsimp only
      split_ifs <;> exact ⟨none, rfl⟩
    | none =>
      dsimp only
      cases fhssAudioPacketUnpack data <;> exact ⟨none, rfl⟩

/-- A receive is the `receive_one` of the service, with the seed and the action that
`on_service_data` answers with. -/
lemma receiveOne_eq (receive : RadioReceive) :
    ∃ answered : RadioReceive, answered.withoutVoice = receive.withoutVoice ∧
      receiveOne protocol (some deriveSessionHopSeed) voice.adapter.service answered =
        ((voice.receiveOne protocol deriveSessionHopSeed receive).1.adapter.service,
          (voice.receiveOne protocol deriveSessionHopSeed receive).2.1) := by
  unfold VoiceAdapter.receiveOne
  cases receive with
  | startFailed => exact ⟨.startFailed, rfl, rfl⟩
  | noTimestamp => exact ⟨.noTimestamp, rfl, rfl⟩
  | receiveFailed => exact ⟨.receiveFailed, rfl, rfl⟩
  | packet crcOk data rxTimestampUs appliedSeed action =>
    cases crcOk with
    | false => exact ⟨.packet false data rxTimestampUs appliedSeed action, rfl, rfl⟩
    | true =>
      dsimp only
      by_cases hdata : fhssSyncPacketHasValidMagic protocol data = false ∧
          voice.adapter.service.fsm ≠ .searching
      · rw [if_pos hdata]
        obtain ⟨seed, hservice⟩ := service_onServiceData deriveSessionHopSeed voice data
        refine ⟨.packet true data rxTimestampUs seed
          (onServiceData deriveSessionHopSeed voice data).2.1, rfl, ?_⟩
        dsimp only
        rw [hservice]
        unfold receiveOne
        dsimp only
        rw [if_neg (by decide), if_pos hdata.1, if_pos hdata.2]
        split_ifs <;> rfl
      · rw [if_neg hdata]
        exact ⟨.packet true data rxTimestampUs none .continue, rfl, rfl⟩

/-- The same answers of the radio, whatever the data callback does. -/
def SameAnswers (turns turns' : List RadioTurn) : Prop :=
  turns'.map (fun turn => { turn with receive := turn.receive.withoutVoice }) =
    turns.map (fun turn => { turn with receive := turn.receive.withoutVoice })

/-- The drain of a slot, with the answers of `on_service_data`, is a run of pieces. -/
def DrainIsRun (turns : List RadioTurn) (voice : VoiceAdapter) : Prop :=
  ∃ pieces answered, SameAnswers turns answered ∧
    (drainRxDataUntil protocol (some deriveSessionHopSeed) voice.adapter.service answered).1 =
      (finalState (VoiceAdapter.rx protocol deriveSessionHopSeed) voice pieces).adapter.service

/-- It always is. -/
lemma drainIsRun (turns : List RadioTurn) : ∀ voice : VoiceAdapter,
    DrainIsRun protocol deriveSessionHopSeed turns voice := by
  induction turns with
  | nil => exact fun voice => ⟨[], [], rfl, rfl⟩
  | cons turn turns ih =>
    intro voice
    obtain ⟨receive, hsame, hreceive⟩ :=
      receiveOne_eq protocol deriveSessionHopSeed voice turn.receive
    have hcons : ∀ {answered}, SameAnswers turns answered →
        SameAnswers (turn :: turns) (⟨receive, turn.selected⟩ :: answered) := by
      intro answered hrest
      unfold SameAnswers at hrest ⊢
      rw [List.map_cons, List.map_cons, hrest, hsame]
    have hservice : (voice.rx protocol deriveSessionHopSeed (.receive turn.receive false
        turn.selected)).1.adapter.service = handleReceived
          (voice.receiveOne protocol deriveSessionHopSeed turn.receive).1.adapter.service
          (voice.receiveOne protocol deriveSessionHopSeed turn.receive).2.1 false
          turn.selected := rfl
    obtain ⟨pieces, answered, hrest, hrun⟩ := ih (voice.rx protocol deriveSessionHopSeed
      (.receive turn.receive false turn.selected)).1
    -- The drain goes on after data, a timeout, a bad checksum and a SYNC packet.
    have hgo : (drainRxDataUntil protocol (some deriveSessionHopSeed) voice.adapter.service
        (⟨receive, turn.selected⟩ :: answered)).1 =
          (drainRxDataUntil protocol (some deriveSessionHopSeed) (voice.rx protocol
            deriveSessionHopSeed (.receive turn.receive false
              turn.selected)).1.adapter.service answered).1 →
        DrainIsRun protocol deriveSessionHopSeed (turn :: turns) voice := fun h =>
      ⟨_ :: pieces, _, hcons hrest, h.trans hrun⟩
    -- It stops at the end of a session, a radio error and a bad SYNC packet.
    have hstop : (drainRxDataUntil protocol (some deriveSessionHopSeed) voice.adapter.service
        (⟨receive, turn.selected⟩ :: answered)).1 = (voice.rx protocol deriveSessionHopSeed
          (.receive turn.receive false turn.selected)).1.adapter.service →
        DrainIsRun protocol deriveSessionHopSeed (turn :: turns) voice := fun h =>
      ⟨[_], _, hcons hrest, h⟩
    rw [drainRxDataUntil, hreceive, hservice] at hgo hstop
    cases hreceived : (voice.receiveOne protocol deriveSessionHopSeed turn.receive).2.1 with
    | ok result =>
      rw [hreceived] at hgo
      exact hgo rfl
    | data =>
      rw [hreceived] at hgo
      exact hgo rfl
    | timeout =>
      rw [hreceived] at hgo
      exact hgo rfl
    | crcFail =>
      rw [hreceived] at hgo
      exact hgo rfl
    | sessionEnd =>
      rw [hreceived] at hstop
      exact hstop rfl
    | radioError =>
      rw [hreceived] at hstop
      exact hstop rfl
    | syncError =>
      rw [hreceived] at hstop
      exact hstop rfl

/-- While the service searches, no session ends. -/
lemma receiveOne_ne_sessionEnd (h : voice.adapter.service.fsm = .searching)
    (receive : RadioReceive) :
    (voice.receiveOne protocol deriveSessionHopSeed receive).2.1 ≠ .sessionEnd := by
  unfold VoiceAdapter.receiveOne
  cases receive with
  | startFailed => simp [receiveOne]
  | noTimestamp => simp [receiveOne]
  | receiveFailed => simp [receiveOne]
  | packet crcOk data rxTimestampUs appliedSeed action =>
    cases crcOk with
    | false => simp [receiveOne]
    | true =>
      dsimp only
      rw [if_neg (by simp [h])]
      have houtcome := @receiveOne_outcome protocol (some deriveSessionHopSeed)
        voice.adapter.service (.packet true data rxTimestampUs none .continue)
      generalize receiveOne protocol _ voice.adapter.service _ = outcome at houtcome ⊢
      cases houtcome with
      | quiet hok hend => exact hend
      | data appliedSeed' hsearching happlied hreceived => exact absurd h hsearching
      | refused payload' rxTimestampUs' hrx => simp
      | accepted payload' rxTimestampUs' hmagic hrx => simp

/-- The last receive of a turn that follows the slots is a piece. -/
lemma handleReceive_isPiece (turn : RadioTurn) :
    ∃ receive : RadioReceive, receive.withoutVoice = turn.receive.withoutVoice ∧
      (handleReceive protocol (some deriveSessionHopSeed) voice.adapter.service
          ⟨receive, turn.selected⟩).1 =
        (voice.rx protocol deriveSessionHopSeed
          (.receive turn.receive true turn.selected)).1.adapter.service := by
  obtain ⟨receive, hsame, hreceive⟩ :=
    receiveOne_eq protocol deriveSessionHopSeed voice turn.receive
  refine ⟨receive, hsame, ?_⟩
  have hservice : (voice.rx protocol deriveSessionHopSeed (.receive turn.receive true
      turn.selected)).1.adapter.service = handleReceived
        (voice.receiveOne protocol deriveSessionHopSeed turn.receive).1.adapter.service
        (voice.receiveOne protocol deriveSessionHopSeed turn.receive).2.1 true
        turn.selected := rfl
  unfold handleReceive
  rw [hservice, hreceive]
  cases (voice.receiveOne protocol deriveSessionHopSeed turn.receive).2.1 <;> rfl

/-- So is the receive of a turn that searches. -/
lemma searchReceive_isPiece (h : voice.adapter.service.fsm = .searching) (turn : RadioTurn) :
    ∃ receive : RadioReceive, receive.withoutVoice = turn.receive.withoutVoice ∧
      (match receiveOne protocol (some deriveSessionHopSeed) voice.adapter.service receive with
        | (service, .ok result) => handleSyncResult service result
        | (service, _) => (service, [])).1 =
        (voice.rx protocol deriveSessionHopSeed
          (.receive turn.receive false turn.selected)).1.adapter.service := by
  obtain ⟨receive, hsame, hreceive⟩ :=
    receiveOne_eq protocol deriveSessionHopSeed voice turn.receive
  refine ⟨receive, hsame, ?_⟩
  have hservice : (voice.rx protocol deriveSessionHopSeed (.receive turn.receive false
      turn.selected)).1.adapter.service = handleReceived
        (voice.receiveOne protocol deriveSessionHopSeed turn.receive).1.adapter.service
        (voice.receiveOne protocol deriveSessionHopSeed turn.receive).2.1 false
        turn.selected := rfl
  have hgoesOn := receiveOne_ne_sessionEnd protocol deriveSessionHopSeed voice h turn.receive
  rw [hservice, hreceive]
  cases hreceived : (voice.receiveOne protocol deriveSessionHopSeed turn.receive).2.1 with
  | sessionEnd => exact absurd hreceived hgoesOn
  | _ => rfl

/-- Choosing a channel leaves the state machine alone. -/
lemma fsm_selectChannel (service : FhssService) (slot : UInt32) (selected : Bool) :
    (selectChannel service slot selected).1.fsm = service.fsm := by
  unfold selectChannel
  cases fhssCoreGetChannel service.controller.core slot with
  | error status => rfl
  | ok channel =>
    dsimp only
    split_ifs <;> rfl

/-- The choice of a probe slot is a piece, if it is made. -/
lemma probe_isRun (nextSlot : UInt32) :
    ∃ pieces slot, (if voice.adapter.service.fsm = .recovery then
        getRecoveryProbeSlot voice.adapter.service nextSlot
        else (voice.adapter.service, nextSlot)) =
      ((finalState (VoiceAdapter.rx protocol deriveSessionHopSeed) voice pieces).adapter.service,
        slot) := by
  by_cases hrecovery : voice.adapter.service.fsm = .recovery
  · rw [if_pos hrecovery]
    exact ⟨[.probe nextSlot], _, rfl⟩
  · rw [if_neg hrecovery]
    exact ⟨[], nextSlot, rfl⟩

/-- The RX task does nothing but these pieces: every turn of its loop, with the answers of
`on_service_data`, is a run of them. -/
theorem rxTaskTurn_isRun (turn : RxTurn) :
    ∃ pieces, ∃ answered : RxTurn, answered.withoutVoice = turn.withoutVoice ∧
      (rxTaskTurn protocol (some deriveSessionHopSeed) voice.adapter.service answered).1 =
        (finalState (VoiceAdapter.rx protocol deriveSessionHopSeed) voice
          pieces).adapter.service := by
  by_cases hsearching : voice.adapter.service.fsm = .searching
  · have hfsm := fsm_selectChannel voice.adapter.service 0 turn.selected
    have hsearch := searchReceive_isPiece protocol deriveSessionHopSeed
      (voice.rx protocol deriveSessionHopSeed (.select 0 turn.selected)).1
      (hfsm.trans hsearching) turn.last
    obtain ⟨receive, hsame, hreceive⟩ := hsearch
    have hservice : (voice.rx protocol deriveSessionHopSeed
        (.select 0 turn.selected)).1.adapter.service =
          (selectChannel voice.adapter.service 0 turn.selected).1 := rfl
    cases hselect : selectChannel voice.adapter.service 0 turn.selected with
    | mk service ok =>
      rw [hselect] at hservice
      cases ok with
      | false =>
        refine ⟨[.select 0 turn.selected], turn, rfl, ?_⟩
        unfold rxTaskTurn
        rw [if_pos hsearching, hselect]
        exact hservice.symm
      | true =>
        rw [hservice] at hreceive
        refine ⟨[.select 0 turn.selected, .receive turn.last.receive false turn.last.selected],
          { turn with last := ⟨receive, turn.last.selected⟩ }, ?_, ?_⟩
        · unfold RxTurn.withoutVoice
          dsimp only
          rw [hsame]
        · unfold rxTaskTurn
          rw [if_pos hsearching]
          dsimp only
          rw [hselect]
          exact hreceive
  cases hnext : fhssSlotSchedulerGetNextSwitchTime voice.adapter.service.controller.scheduler
      turn.nowUs.toInt with
  | error status =>
    refine ⟨[.noNextSlot], turn, rfl, ?_⟩
    unfold rxTaskTurn
    rw [if_neg hsearching, hnext]
    rfl
  | ok next =>
    obtain ⟨nextSlot, switchTimeUs⟩ := next
    obtain ⟨pieces, answered, hsameDrain, hdrain⟩ :=
      drainIsRun protocol deriveSessionHopSeed turn.drain voice
    have hdrained : ∀ last, last.receive.withoutVoice = turn.last.receive.withoutVoice →
        last.selected = turn.last.selected →
        ({ turn with drain := answered, last := last } : RxTurn).withoutVoice =
          turn.withoutVoice := by
      intro last hreceive hselected
      unfold RxTurn.withoutVoice
      unfold SameAnswers at hsameDrain
      dsimp only
      rw [hsameDrain, hreceive, hselected]
    obtain ⟨probes, slot, hprobe⟩ := probe_isRun protocol deriveSessionHopSeed
      (finalState (VoiceAdapter.rx protocol deriveSessionHopSeed) voice pieces) nextSlot
    have hprobed := finalState_append (VoiceAdapter.rx protocol deriveSessionHopSeed) voice pieces
      probes
    cases hanswer : drainRxDataUntil protocol (some deriveSessionHopSeed) voice.adapter.service
        answered with
    | mk service rest =>
      obtain ⟨events, ended⟩ := rest
      rw [hanswer] at hdrain
      dsimp only at hdrain
      rw [← hdrain, ← hprobed] at hprobe
      have hturn : ∀ last, (rxTaskTurn protocol (some deriveSessionHopSeed) voice.adapter.service
          { turn with drain := answered, last := last }).1 =
          (if ended = true then service
          else
            let picked := selectChannel (finalState (VoiceAdapter.rx protocol
              deriveSessionHopSeed) voice (pieces ++ probes)).adapter.service slot turn.selected
            if picked.2 = true then
              (handleReceive protocol (some deriveSessionHopSeed) picked.1 last).1
            else picked.1) := by
        intro last
        unfold rxTaskTurn
        rw [if_neg hsearching]
        dsimp only
        rw [hnext]
        dsimp only
        rw [hanswer]
        cases ended with
        | true => rfl
        | false =>
          dsimp only
          rw [hprobe, if_neg (by decide)]
          dsimp only
          generalize selectChannel _ slot turn.selected = picked
          obtain ⟨service', _ | _⟩ := picked <;> rfl
      cases ended with
      | true =>
        exact ⟨pieces, { turn with drain := answered }, hdrained _ rfl rfl,
          (hturn turn.last).trans hdrain⟩
      | false =>
        have hafter := finalState_append (VoiceAdapter.rx protocol deriveSessionHopSeed) voice
          (pieces ++ probes)
        generalize finalState (VoiceAdapter.rx protocol deriveSessionHopSeed) voice
          (pieces ++ probes) = probed at hturn hafter
        obtain ⟨receive, hsame, hreceive⟩ := handleReceive_isPiece protocol deriveSessionHopSeed
          (probed.rx protocol deriveSessionHopSeed (.select slot turn.selected)).1 turn.last
        have hservice : (probed.rx protocol deriveSessionHopSeed
            (.select slot turn.selected)).1.adapter.service =
              (selectChannel probed.adapter.service slot turn.selected).1 := rfl
        cases hselect : selectChannel probed.adapter.service slot turn.selected with
        | mk listening ok =>
          rw [hselect] at hturn hservice
          cases ok with
          | false =>
            refine ⟨pieces ++ probes ++ [.select slot turn.selected],
              { turn with drain := answered }, hdrained _ rfl rfl, (hturn turn.last).trans ?_⟩
            rw [hafter]
            exact hservice.symm
          | true =>
            rw [hservice] at hreceive
            refine ⟨pieces ++ probes ++ [.select slot turn.selected,
              .receive turn.last.receive true turn.last.selected],
              { turn with drain := answered, last := ⟨receive, turn.last.selected⟩ },
              hdrained _ hsame rfl, (hturn _).trans ?_⟩
            rw [hafter]
            exact hreceive

end Pieces

/-! ## The derived seed is the seed in use -/

/-- A service hops by a public seed: its sequence is the one `reset_controller` would build from
the hop seed derived from it. -/
def HopsBy (service : FhssService) (publicSeed : UInt32) : Prop :=
  fhssHopSequenceInitSeeded service.config.channels (deriveSessionHopSeed publicSeed)
    service.config.reservedChannel = .ok service.hopSequence

/-- The invariant of the adapter: as long as voice has the RX task, the seed remembered as derived
last is the one the service hops by. -/
structure HopInv (adapter : FhssAudioAdapter) : Prop where
  initialized : adapter.service.initialized = true
  derived : adapter.service.taskRunning = true → adapter.otaFhssActive = false →
    adapter.service.haveDerivedPublicSeed = true →
      HopsBy deriveSessionHopSeed adapter.service adapter.service.lastDerivedPublicSeed
  ota : adapter.otaActive = true → adapter.service.taskRunning = true →
    adapter.otaFhssActive = true ∧ adapter.service.haveDerivedPublicSeed = false
  tx : adapter.service.taskRunning = true → adapter.service.config.role = .tx →
    adapter.txActive = true
  exclusive : adapter.txActive = true → adapter.otaActive = false

section Invariant

variable {deriveSessionHopSeed} {adapter adapter' : FhssAudioAdapter}

/-- Without a running task there is nothing to hold. -/
lemma hopInv_of_stopped (hinit : adapter.service.initialized = true)
    (hstopped : adapter.service.taskRunning = false)
    (hexclusive : adapter.txActive = true → adapter.otaActive = false) :
    HopInv deriveSessionHopSeed adapter := by
  have hnot : adapter.service.taskRunning ≠ true := by simp [hstopped]
  exact ⟨hinit, fun hrunning => absurd hrunning hnot, fun _ hrunning => absurd hrunning hnot,
    fun hrunning => absurd hrunning hnot, hexclusive⟩

/-- A service that hops the same way is as good, under the same flags. -/
lemma HopInv.of_sameHops (h : HopInv deriveSessionHopSeed adapter) {service : FhssService}
    (hsame : SameHops adapter.service service) :
    HopInv deriveSessionHopSeed { adapter with service := service } := by
  obtain ⟨⟨hconfig, hrunning, hinit⟩, ⟨hhop, -⟩, hhave, hlast⟩ := hsame
  refine ⟨hinit.trans h.initialized, fun hruns hvoice hderived => ?_, fun hota hruns => ?_,
    fun hruns hrole => ?_, h.exclusive⟩
  · have hhops := h.derived (hrunning.symm.trans hruns) hvoice (hhave.symm.trans hderived)
    unfold HopsBy FhssService.hopSequence at hhops ⊢
    dsimp only
    rw [hconfig, hlast, hhop]
    exact hhops
  · obtain ⟨hfhss, hnone⟩ := h.ota hota (hrunning.symm.trans hruns)
    exact ⟨hfhss, hhave.trans hnone⟩
  · dsimp only at hruns hrole
    rw [hconfig] at hrole
    exact h.tx (hrunning.symm.trans hruns) hrole

/-- Forgetting the derived seed is always right. -/
lemma hopInv_of_forgotten (hinit : adapter.service.initialized = true)
    (hnone : adapter.service.haveDerivedPublicSeed = false)
    (hota : adapter.otaActive = true → adapter.otaFhssActive = true)
    (htx : adapter.service.config.role = .tx → adapter.txActive = true)
    (hexclusive : adapter.txActive = true → adapter.otaActive = false) :
    HopInv deriveSessionHopSeed adapter :=
  ⟨hinit, fun _ _ hderived => absurd (hnone.symm.trans hderived) (by decide),
    fun hactive _ => ⟨hota hactive, hnone⟩, fun _ => htx, hexclusive⟩

/-- The end of a session forgets the derived seed, or fails before it changes anything. -/
lemma HopInv.handleSessionEnd (h : HopInv deriveSessionHopSeed adapter) (selected : Bool) :
    HopInv deriveSessionHopSeed
      { adapter with service := (FhssOtaRadio.handleSessionEnd adapter.service selected).1 } := by
  rcases handleSessionEnd_cases adapter.service selected with
    ⟨-, hended⟩ | ⟨controller, channel, ok, -, hended⟩
  · rw [hended]
    exact h.of_sameHops ⟨⟨rfl, rfl, rfl⟩, ⟨rfl, rfl⟩, rfl, rfl⟩
  · rw [hended]
    exact ⟨h.initialized, fun _ _ hderived => absurd hderived Bool.false_ne_true,
      fun hactive hrunning => ⟨(h.ota hactive hrunning).1, rfl⟩, h.tx, h.exclusive⟩

/-! ### Role changes -/

/-- The begin of a talkspurt. -/
lemma HopInv.beginTx (h : HopInv deriveSessionHopSeed adapter) (publicSeed : UInt32)
    (hal : FhssRoleHal) :
    HopInv deriveSessionHopSeed
      (fhssAudioAdapterBeginTx deriveSessionHopSeed adapter publicSeed hal).1 := by
  unfold fhssAudioAdapterBeginTx
  by_cases hrefused : adapter.initialized = false ∨ adapter.txActive = true ∨
      adapter.otaActive = true
  · rw [if_pos hrefused]
    exact h
  rw [if_neg hrefused]
  push Not at hrefused
  obtain ⟨-, htx, hota⟩ := hrefused
  dsimp only
  have hinit : ({ adapter.service with
      config := { adapter.service.config with
        publicSeed := publicSeed, hopSeed := deriveSessionHopSeed publicSeed } } :
          FhssService).initialized = true := h.initialized
  rcases fhssServiceSetRole_cases hinit .tx hal with ⟨hrole, hrunning, -⟩ |
    ⟨-, service, hinit', -, ⟨hset, hstopped⟩ | ⟨hset, -, -, hnone, -⟩⟩
  · exact absurd (h.tx hrunning hrole) htx
  · rw [hset]
    exact hopInv_of_stopped hinit' hstopped h.exclusive
  · rw [hset]
    exact hopInv_of_forgotten hinit' hnone (fun hactive => absurd hactive hota) (fun _ => rfl)
      fun _ => by simpa using hota

/-- The end of a talkspurt. -/
lemma HopInv.endTx (h : HopInv deriveSessionHopSeed adapter) (hal : FhssRoleHal) :
    HopInv deriveSessionHopSeed (fhssAudioAdapterEndTx adapter hal) := by
  unfold fhssAudioAdapterEndTx
  by_cases hrefused : adapter.initialized = false ∨ adapter.txActive = false
  · rw [if_pos hrefused]
    exact h
  rw [if_neg hrefused]
  push Not at hrefused
  have hota : adapter.otaActive = false := h.exclusive (by simpa using hrefused.2)
  rcases fhssServiceSetRole_cases h.initialized .rx hal with ⟨hrole, hrunning, hset⟩ |
    ⟨-, service, hinit', -, ⟨hset, hstopped⟩ | ⟨hset, hrole, hrunning, hnone, -⟩⟩
  · rw [hset]
    exact ⟨h.initialized, h.derived, h.ota,
      fun _ htx => absurd (hrole.symm.trans htx) (by decide), fun _ => hota⟩
  · rw [hset]
    exact hopInv_of_stopped hinit' hstopped fun _ => hota
  · rw [hset]
    exact hopInv_of_forgotten hinit' hnone
      (fun hactive => absurd (hota.symm.trans hactive) (by decide))
      (fun htx => absurd (hrole.symm.trans htx) (by decide)) fun _ => hota

/-- The begin of OTA. -/
lemma HopInv.beginOta (h : HopInv deriveSessionHopSeed adapter) (hal : BeginOtaHal) :
    HopInv deriveSessionHopSeed (fhssAudioAdapterBeginOta adapter hal).1 := by
  unfold fhssAudioAdapterBeginOta
  by_cases hrefused : adapter.initialized = false ∨ adapter.txActive = true ∨
      adapter.otaActive = true
  · rw [if_pos hrefused]
    exact h
  rw [if_neg hrefused]
  push Not at hrefused
  obtain ⟨-, htx, -⟩ := hrefused
  by_cases hmutex : hal.mutexTaken = false
  · rw [if_pos hmutex]
    exact h
  rw [if_neg hmutex]
  have hpause : fhssServicePause adapter.service hal.recovered =
      ({ adapter.service with
        taskRunning := false, fsm := (fhssFsmHandle adapter.service.fsm .stop).1 },
        hal.recovered) := by
    unfold fhssServicePause
    rw [if_neg (by simp [h.initialized])]
  rw [hpause]
  dsimp only
  have hinit : ({ adapter.service with
      taskRunning := false, fsm := (fhssFsmHandle adapter.service.fsm .stop).1 } :
        FhssService).initialized = true := h.initialized
  have hnoTx : ∀ {ota : Bool}, adapter.txActive = true → ota = false := fun hactive =>
    absurd hactive htx
  by_cases hfixed : (hal.recovered && hal.channelSet && hal.receiveStarted) = false
  · rw [if_pos hfixed]
    rcases fhssServiceSetRole_cases hinit .rx hal.fallback with ⟨-, hrunning, -⟩ |
      ⟨-, service, hinit', -, ⟨hset, hstopped⟩ | ⟨hset, hrole, -, hnone, -⟩⟩
    · cases hrunning
    · rw [hset]
      exact hopInv_of_stopped hinit' hstopped hnoTx
    · rw [hset]
      exact hopInv_of_forgotten hinit' hnone
        (fun hactive => absurd (hfixed.symm.trans hactive) (by decide))
        (fun hrole' => absurd (hrole.symm.trans hrole') (by decide)) hnoTx
  · rw [if_neg hfixed]
    exact hopInv_of_stopped hinit rfl hnoTx

/-- An activation: either it leaves OTA hopping, or no task runs. -/
lemma HopInv.enterOtaFhss (h : HopInv deriveSessionHopSeed adapter) (config : OtaFhssConfigFields)
    (hal : OtaRoleHal) :
    HopInv deriveSessionHopSeed
      (fhssAudioAdapterEnterOtaFhss deriveSessionHopSeed adapter config hal).1 := by
  unfold fhssAudioAdapterEnterOtaFhss
  by_cases hmutex : hal.mutexTaken = false
  · rw [if_pos hmutex]
    exact h
  rw [if_neg hmutex]
  dsimp only
  have hinit : ({ adapter.service with
      config := adapter.service.config.withOta deriveSessionHopSeed config } :
        FhssService).initialized = true := h.initialized
  rcases fhssServiceSetRole_cases hinit .rx hal.role with ⟨hrole, hrunning, hset⟩ |
    ⟨-, service, hinit', -, ⟨hset, hstopped⟩ | ⟨hset, hrole, -, hnone, -⟩⟩
  · rw [hset]
    exact ⟨h.initialized, fun _ hvoice => absurd hvoice.symm Bool.false_ne_true,
      fun hactive _ => ⟨rfl, (h.ota hactive hrunning).2⟩,
      fun _ htx => absurd (hrole.symm.trans htx) (by decide), h.exclusive⟩
  · rw [hset]
    exact hopInv_of_stopped hinit' hstopped h.exclusive
  · rw [hset]
    exact hopInv_of_forgotten hinit' hnone (fun _ => rfl)
      (fun hrole' => absurd (hrole.symm.trans hrole') (by decide)) h.exclusive

/-- The end of OTA: a task that runs has not derived anything. -/
lemma HopInv.endOta (h : HopInv deriveSessionHopSeed adapter) (hal : OtaRoleHal) :
    HopInv deriveSessionHopSeed (fhssAudioAdapterEndOta adapter hal).1 := by
  unfold fhssAudioAdapterEndOta
  by_cases hrefused : adapter.initialized = false ∨ adapter.otaActive = false
  · rw [if_pos hrefused]
    exact h
  rw [if_neg hrefused]
  push Not at hrefused
  have hota : adapter.otaActive = true := by simpa using hrefused.2
  by_cases hmutex : hal.mutexTaken = false
  · rw [if_pos hmutex]
    exact h
  rw [if_neg hmutex]
  dsimp only
  rcases fhssServiceSetRole_cases h.initialized .rx hal.role with ⟨hrole, hrunning, hset⟩ |
    ⟨-, service, hinit', -, ⟨hset, hstopped⟩ | ⟨hset, hrole, -, hnone, -⟩⟩
  · rw [hset]
    exact hopInv_of_forgotten h.initialized (h.ota hota hrunning).2
      (fun hactive => absurd hactive Bool.false_ne_true)
      (fun htx => absurd (hrole.symm.trans htx) (by decide)) fun _ => rfl
  · rw [hset]
    exact hopInv_of_stopped hinit' hstopped fun _ => rfl
  · rw [hset]
    exact hopInv_of_forgotten hinit' hnone (fun hactive => absurd hactive Bool.false_ne_true)
      (fun htx => absurd (hrole.symm.trans htx) (by decide)) fun _ => rfl

/-! ### The RX task -/

/-- A public seed that is applied is remembered. -/
lemma HopInv.applyPublicSeed (h : HopInv deriveSessionHopSeed adapter)
    (hvoice : adapter.otaFhssActive = false) (publicSeed : UInt32) :
    HopInv deriveSessionHopSeed { adapter with
      service := (fhssServiceApplyPublicSeed (some deriveSessionHopSeed) adapter.service
        publicSeed).1 } := by
  unfold fhssServiceApplyPublicSeed
  dsimp only
  by_cases hsame : adapter.service.haveDerivedPublicSeed = true ∧
      publicSeed = adapter.service.lastDerivedPublicSeed
  · rw [if_pos hsame]
    exact h
  rw [if_neg hsame]
  cases hhop : fhssHopSequenceInitSeeded adapter.service.config.channels
      (deriveSessionHopSeed publicSeed) adapter.service.config.reservedChannel with
  | error status => exact h
  | ok hopSequence =>
    refine ⟨h.initialized, fun _ _ _ => hhop, fun hactive hrunning => ?_, h.tx, h.exclusive⟩
    have hfhss := (h.ota hactive hrunning).1
    exact absurd (hvoice.symm.trans hfhss) (by decide)

/-- `on_service_data` keeps the invariant. -/
lemma hopInv_onServiceData {voice : VoiceAdapter} (h : HopInv deriveSessionHopSeed voice.adapter)
    (data : Bytes) :
    HopInv deriveSessionHopSeed (onServiceData deriveSessionHopSeed voice data).1.adapter := by
  unfold onServiceData
  by_cases hfhss : voice.adapter.otaFhssActive = true
  · rw [if_pos hfhss]
    split_ifs
    · exact ⟨h.initialized, h.derived, h.ota, h.tx, h.exclusive⟩
    · exact h
  rw [if_neg hfhss]
  cases fhssAudioSeedAnnouncePacketUnpack data with
  | some announce =>
    dsimp only
    by_cases hrepeat : voice.repeatsAnnounce announce = true
    · rw [if_pos hrepeat]
      exact h
    · rw [if_neg hrepeat]
      exact h.applyPublicSeed (by simpa using hfhss) announce.publicSeed
  | none =>
    dsimp only
    cases fhssAudioEndPacketUnpack data with
    | some packetEnd =>
      dsimp only
      split_ifs <;> exact h
    | none =>
      dsimp only
      cases fhssAudioPacketUnpack data <;> exact h

/-- A receive keeps the invariant. -/
lemma hopInv_receiveOne {voice : VoiceAdapter} (h : HopInv deriveSessionHopSeed voice.adapter)
    (receive : RadioReceive) :
    HopInv deriveSessionHopSeed
      (voice.receiveOne protocol deriveSessionHopSeed receive).1.adapter := by
  unfold VoiceAdapter.receiveOne
  cases receive with
  | startFailed => exact h
  | noTimestamp => exact h
  | receiveFailed => exact h
  | packet crcOk data rxTimestampUs appliedSeed action =>
    cases crcOk with
    | false => exact h
    | true =>
      dsimp only
      by_cases hdata : fhssSyncPacketHasValidMagic protocol data = false ∧
          voice.adapter.service.fsm ≠ .searching
      · rw [if_pos hdata]
        exact hopInv_onServiceData h data
      · rw [if_neg hdata]
        refine h.of_sameHops (sameHops_receiveOne protocol _ _ ?_)
        intro crcOk payload rxTimestampUs appliedSeed action hpacket
        cases hpacket
        rfl

/-- So does what follows. -/
lemma HopInv.handleReceived (h : HopInv deriveSessionHopSeed adapter) (received : ReceiveResult)
    (counts selected : Bool) :
    HopInv deriveSessionHopSeed { adapter with
      service := FhssOtaRadio.handleReceived adapter.service received counts selected } := by
  unfold FhssOtaRadio.handleReceived
  cases received with
  | ok result => exact h.of_sameHops (sameHops_handleSyncResult _ result)
  | sessionEnd => exact h.handleSessionEnd selected
  | timeout =>
    cases counts with
    | false => exact h
    | true => exact h.of_sameHops (sameHops_handleMiss _)
  | crcFail =>
    cases counts with
    | false => exact h
    | true => exact h.of_sameHops (sameHops_handleMiss _)
  | syncError =>
    cases counts with
    | false => exact h
    | true => exact h.of_sameHops (sameHops_handleInvalidSync _)
  | data => exact h
  | radioError => exact h

/-- Every step keeps the invariant. -/
lemma hopInv_voiceStep {voice : VoiceAdapter} (h : HopInv deriveSessionHopSeed voice.adapter)
    (input : VoiceInput) :
    HopInv deriveSessionHopSeed
      (voiceStep protocol deriveSessionHopSeed voice input).1.adapter := by
  unfold voiceStep
  cases input with
  | beginTx publicSeed hal free =>
    have hadapter := (@adapter_beginTx deriveSessionHopSeed voice.sender publicSeed hal free).1
    unfold VoiceAdapter.adapter
    dsimp only
    rw [hadapter]
    exact HopInv.beginTx h publicSeed hal
  | submit submit =>
    have hadapter : (submitStep voice.sender submit).1.adapter = voice.sender.adapter := by
      unfold submitStep fhssAudioAdapterSubmitEncodedFrame
      dsimp only
      split_ifs
      · rfl
      · rfl
      · exact adapter_sendBufferedFrames 0 submit.free
    unfold VoiceAdapter.adapter
    dsimp only
    rw [hadapter]
    exact h
  | endTx hal =>
    unfold VoiceAdapter.endTx
    dsimp only
    split_ifs
    · exact h
    · have hadapter := @adapter_endTx voice.sender hal
      unfold VoiceAdapter.adapter
      dsimp only
      rw [hadapter]
      exact HopInv.endTx h hal.role
  | beginOta hal => exact h.beginOta hal
  | enterOtaFhss config hal => exact h.enterOtaFhss config hal
  | endOta hal => exact h.endOta hal
  | rx piece =>
    dsimp only
    split_ifs
    · unfold VoiceAdapter.rx
      cases piece with
      | select slot selected => exact h.of_sameHops (sameHops_selectChannel _ slot selected)
      | probe predictedSlot => exact h.of_sameHops (sameHops_getRecoveryProbeSlot _ predictedSlot)
      | noNextSlot =>
        exact h.of_sameHops ((sameHops_handle _ _).trans (sameHops_clearReference _))
      | receive receive counts selected =>
        exact (hopInv_receiveOne protocol h receive).handleReceived _ counts selected
    · exact h

/-- A service that has been initialized has derived nothing. -/
lemma haveDerivedPublicSeed_fhssServiceInit {config : FhssServiceConfig}
    {hal : FhssServiceInitHal} {service : FhssService}
    (h : fhssServiceInit config hal = some service) : service.haveDerivedPublicSeed = false := by
  unfold fhssServiceInit at h
  dsimp only at h
  -- The checks of the configuration, the channel count, the radio and the chip.
  repeat' split at h
  all_goals try cases h
  rename_i service' hreset _
  rcases resetController_cases ⟨config, .zero, fhssFsmInit, false, 0, 0, 0, false, 0, false⟩ with
    ⟨hfailed, -⟩ | ⟨controller, -, hbuilt⟩
  · rw [hfailed] at hreset
    cases hreset
  · rw [hbuilt] at hreset
    obtain ⟨rfl, -⟩ := Prod.mk.inj hreset
    rfl

/-- An adapter that has come up meets the invariant. -/
lemma hopInv_fhssAudioAdapterInit {store : FhssConfigStore} {hal : FhssAudioAdapterInitHal}
    (hinit : fhssAudioAdapterInit protocol store hal = (adapter, true)) :
    HopInv deriveSessionHopSeed adapter := by
  obtain ⟨service, service', hservice, hstarted, hready, hfresh, rfl⟩ :=
    fhssAudioAdapterInit_started protocol hinit
  have hnone := haveDerivedPublicSeed_fhssServiceInit hservice
  have hforgotten := (sameDerived_fhssServiceStart service hal.taskCreated).2
  rw [hstarted] at hforgotten
  exact hopInv_of_forgotten hready (hforgotten.trans hnone)
    (fun hactive => absurd hactive Bool.false_ne_true)
    (fun htx => absurd (hfresh.role.symm.trans htx) (by decide)) fun _ => rfl

end Invariant

/-! ## Agreement -/

/-- A state that a device reaches after a boot, whatever its tasks do. -/
def VoiceReachable (voice : VoiceAdapter) : Prop :=
  ∃ store hal adapter inputs, fhssAudioAdapterInit protocol store hal = (adapter, true) ∧
    voice = finalState (voiceStep protocol deriveSessionHopSeed) (.start adapter) inputs

section Agreement

variable {protocol deriveSessionHopSeed} {voice talker : VoiceAdapter}

/-- Every reachable state meets the invariant. -/
lemma VoiceReachable.hopInv (h : VoiceReachable protocol deriveSessionHopSeed voice) :
    HopInv deriveSessionHopSeed voice.adapter := by
  obtain ⟨store, hal, adapter, inputs, hinit, rfl⟩ := h
  have hstart : HopInv deriveSessionHopSeed (VoiceAdapter.start adapter).adapter :=
    hopInv_fhssAudioAdapterInit protocol hinit
  exact @invariant_run _ _ _ (voiceStep protocol deriveSessionHopSeed)
    (fun voice => HopInv deriveSessionHopSeed voice.adapter)
    (fun _ input hinv => hopInv_voiceStep protocol hinv input) _ hstart inputs

/-- A talker that has begun a talkspurt hops by the public seed it has drawn. -/
lemma HopInv.hopsBy_beginTx (h : HopInv deriveSessionHopSeed voice.adapter) {publicSeed : UInt32}
    {hal : FhssRoleHal} {free : Vector Bool fhssAudioSeedAnnounceRepeatCount}
    (hbegun : (voice.sender.beginTx deriveSessionHopSeed publicSeed hal free).2 = true) :
    HopsBy deriveSessionHopSeed
      (voice.sender.beginTx deriveSessionHopSeed publicSeed hal free).1.adapter.service
      publicSeed := by
  obtain ⟨hadapter, hresult⟩ :=
    @adapter_beginTx deriveSessionHopSeed voice.sender publicSeed hal free
  rw [hresult] at hbegun
  rw [hadapter]
  change (fhssAudioAdapterBeginTx deriveSessionHopSeed voice.adapter publicSeed hal).2 = true
    at hbegun
  change HopsBy deriveSessionHopSeed
    (fhssAudioAdapterBeginTx deriveSessionHopSeed voice.adapter publicSeed hal).1.service publicSeed
  unfold fhssAudioAdapterBeginTx at hbegun ⊢
  by_cases hrefused : voice.adapter.initialized = false ∨ voice.adapter.txActive = true ∨
      voice.adapter.otaActive = true
  · rw [if_pos hrefused] at hbegun
    cases hbegun
  rw [if_neg hrefused] at hbegun ⊢
  push Not at hrefused
  dsimp only at hbegun ⊢
  have hinit : ({ voice.adapter.service with
      config := { voice.adapter.service.config with
        publicSeed := publicSeed, hopSeed := deriveSessionHopSeed publicSeed } } :
          FhssService).initialized = true := h.initialized
  rcases fhssServiceSetRole_cases hinit .tx hal with ⟨hrole, hrunning, -⟩ |
    ⟨-, service, -, hconfig, ⟨hset, -⟩ | ⟨hset, -, -, -, hbuilt⟩⟩
  · exact absurd (h.tx hrunning hrole) hrefused.2.1
  · rw [hset] at hbegun
    cases hbegun
  · rw [hset]
    unfold HopsBy
    dsimp only
    rw [hconfig]
    exact (hops_fhssSyncControllerInit service.controller hbuilt).1

/-- What an announcement does to the sequence in use: nothing if it is taken for a repetition, and
else the announced seed decides, if a sequence can be built from it. -/
lemma hopSequence_onServiceData {data : Bytes} {announce : FhssAudioSeedAnnouncePacket}
    (h : HopInv deriveSessionHopSeed voice.adapter)
    (hrunning : voice.adapter.service.taskRunning = true)
    (hvoice : voice.adapter.otaFhssActive = false)
    (hdata : fhssAudioSeedAnnouncePacketUnpack data = some announce)
    {hopSequence : FhssHopSequence}
    (hannounced : fhssHopSequenceInitSeeded voice.adapter.service.config.channels
      (deriveSessionHopSeed announce.publicSeed) voice.adapter.service.config.reservedChannel =
        .ok hopSequence) :
    (onServiceData deriveSessionHopSeed voice data).1.adapter.service.hopSequence =
      if voice.repeatsAnnounce announce = true then voice.adapter.service.hopSequence
      else hopSequence := by
  unfold onServiceData
  rw [if_neg (by simp [hvoice]), hdata]
  dsimp only
  by_cases hrepeat : voice.repeatsAnnounce announce = true
  · rw [if_pos hrepeat, if_pos hrepeat]
  rw [if_neg hrepeat, if_neg hrepeat]
  change ((fhssServiceApplyPublicSeed (some deriveSessionHopSeed) voice.adapter.service
    announce.publicSeed).1).hopSequence = hopSequence
  unfold fhssServiceApplyPublicSeed
  dsimp only
  by_cases hsame : voice.adapter.service.haveDerivedPublicSeed = true ∧
      announce.publicSeed = voice.adapter.service.lastDerivedPublicSeed
  · -- The seed derived last is the announced one, and it is the one in use.
    rw [if_pos hsame]
    have hhops := h.derived hrunning hvoice hsame.1
    unfold HopsBy at hhops
    rw [← hsame.2, hannounced] at hhops
    exact (Except.ok.inj hhops).symm
  · rw [if_neg hsame, hannounced]
    rfl

/-- **Following a talker.**  For every receiver and every talker, reached from any boots by any
calls of their tasks, and every public seed that the talker announces as it begins a talkspurt on
the channels of the receiver: the announcement leaves the receiver on the talker's sequence
exactly if it is not taken for a repetition of an earlier one, or the receiver has been on that
sequence before. -/
theorem onServiceData_follows_talker_iff
    (hvoice : VoiceReachable protocol deriveSessionHopSeed voice)
    (htalker : VoiceReachable protocol deriveSessionHopSeed talker)
    (hrunning : voice.adapter.service.taskRunning = true)
    (hmode : voice.adapter.otaFhssActive = false)
    {data : Bytes} {announce : FhssAudioSeedAnnouncePacket}
    (hdata : fhssAudioSeedAnnouncePacketUnpack data = some announce)
    {hal : FhssRoleHal} {free : Vector Bool fhssAudioSeedAnnounceRepeatCount}
    (hbegun : (talker.sender.beginTx deriveSessionHopSeed announce.publicSeed hal free).2 = true)
    (hchannels : (talker.sender.beginTx deriveSessionHopSeed announce.publicSeed hal
      free).1.adapter.service.config.channels = voice.adapter.service.config.channels)
    (hreserved : (talker.sender.beginTx deriveSessionHopSeed announce.publicSeed hal
      free).1.adapter.service.config.reservedChannel =
        voice.adapter.service.config.reservedChannel) :
    let talking := (talker.sender.beginTx deriveSessionHopSeed announce.publicSeed hal free).1
    (onServiceData deriveSessionHopSeed voice data).1.adapter.service.hopSequence =
        talking.adapter.service.hopSequence ↔
      voice.repeatsAnnounce announce = false ∨
        voice.adapter.service.hopSequence = talking.adapter.service.hopSequence := by
  intro talking
  have hhops : HopsBy deriveSessionHopSeed talking.adapter.service announce.publicSeed :=
    htalker.hopInv.hopsBy_beginTx hbegun
  unfold HopsBy at hhops
  rw [hchannels, hreserved] at hhops
  rw [hopSequence_onServiceData hvoice.hopInv hrunning hmode hdata hhops]
  cases voice.repeatsAnnounce announce with
  | true =>
    rw [if_pos rfl]
    exact ⟨.inr, fun h => h.resolve_left (by decide)⟩
  | false =>
    rw [if_neg (by decide)]
    exact ⟨fun _ => .inl rfl, fun _ => rfl⟩

end Agreement

/-! ## Two talkers that have just booted -/

/-- A device with nothing in NVS that has just booted. -/
def sampleVoice : VoiceAdapter :=
  .start (fhssAudioAdapterInit plainProtocol ⟨none, none⟩ .succeeding).1

/-- Its first talkspurt. -/
def sampleTalking (publicSeed : UInt32) : VoiceSender :=
  (sampleVoice.sender.beginTx sampleDerive publicSeed ⟨true, true⟩ (.replicate 3 true)).1

/-- The RX task receives a packet. -/
def sampleHear (packet : Bytes) : VoiceInput :=
  .rx (.receive (.packet true packet 1000000 none .continue) false true)

/-- The SYNC packet of slot 0. -/
def sampleSlotZero : Bytes := [10, 1] ++ u32LeBytes 0 ++ [0, 0, 0] ++ u32LeBytes 0

/-- Whatever a sample device hears, it is reachable. -/
lemma voiceReachable_sample (inputs : List VoiceInput) :
    VoiceReachable plainProtocol sampleDerive
      (finalState (voiceStep plainProtocol sampleDerive) sampleVoice inputs) :=
  ⟨⟨none, none⟩, .succeeding, _, inputs, by decide +kernel, rfl⟩

/-- The first announcement that a device hears after a SYNC packet is followed. -/
theorem onServiceData_follows_first_talker :
    (onServiceData sampleDerive
        (finalState (voiceStep plainProtocol sampleDerive) sampleVoice [sampleHear sampleSlotZero])
        (fhssAudioSeedAnnouncePacketPack ⟨1, 7⟩)).1.adapter.service.hopSequence =
      (sampleTalking 7).adapter.service.hopSequence := by
  -- One evaluation of the two devices for all the conditions.
  obtain ⟨hrunning, hmode, hbegun, hchannels, hreserved, hfirst⟩ :
      let heard := finalState (voiceStep plainProtocol sampleDerive) sampleVoice
        [sampleHear sampleSlotZero]
      let talking := sampleVoice.sender.beginTx sampleDerive
        (FhssAudioSeedAnnouncePacket.mk 1 7).publicSeed ⟨true, true⟩ (.replicate 3 true)
      heard.adapter.service.taskRunning = true ∧ heard.adapter.otaFhssActive = false ∧
        talking.2 = true ∧
        talking.1.adapter.service.config.channels = heard.adapter.service.config.channels ∧
        talking.1.adapter.service.config.reservedChannel =
          heard.adapter.service.config.reservedChannel ∧
        heard.repeatsAnnounce ⟨1, 7⟩ = false := by
    decide +kernel
  have htalker : VoiceReachable plainProtocol sampleDerive sampleVoice := voiceReachable_sample []
  have htalking : sampleTalking 7 = (sampleVoice.sender.beginTx sampleDerive
      (FhssAudioSeedAnnouncePacket.mk 1 7).publicSeed ⟨true, true⟩ (.replicate 3 true)).1 := rfl
  rw [htalking]
  exact (onServiceData_follows_talker_iff (voiceReachable_sample [sampleHear sampleSlotZero])
    htalker hrunning hmode (fhssAudioSeedAnnouncePacketUnpack_pack ⟨1, 7⟩) hbegun hchannels
    hreserved).mpr (.inl hfirst)

/-- A device hears the first talkspurt of one talker, to its end, and then the SYNC packet of
another. -/
def sampleHeard : VoiceAdapter :=
  finalState (voiceStep plainProtocol sampleDerive) sampleVoice
    [sampleHear sampleSlotZero, sampleHear (fhssAudioSeedAnnouncePacketPack ⟨1, 7⟩),
      sampleHear (fhssAudioEndPacketPack ⟨1, fhssAudioEndNoAudioSequence⟩),
      sampleHear sampleSlotZero]

/-- The second talker has just booted as well, so that its first talkspurt carries the number of
the one heard before; its announcement is dropped, and the device expects slot 1 on another
channel than the talker sends it on. -/
theorem onServiceData_drops_second_talker :
    VoiceReachable plainProtocol sampleDerive sampleHeard ∧
      sampleHeard.adapter.service.taskRunning = true ∧
      sampleHeard.adapter.otaFhssActive = false ∧
      fhssAudioSeedAnnouncePacketPack ⟨1, 7⟩ ∈ (sampleTalking 7).queued ∧
      fhssAudioSeedAnnouncePacketPack ⟨1, 9⟩ ∈ (sampleTalking 9).queued ∧
      (sampleTalking 9).adapter.service.config.channels =
        sampleHeard.adapter.service.config.channels ∧
      fhssHopSequenceGetChannel (onServiceData sampleDerive sampleHeard
          (fhssAudioSeedAnnouncePacketPack ⟨1, 9⟩)).1.adapter.service.hopSequence 1 ≠
        fhssHopSequenceGetChannel (sampleTalking 9).adapter.service.hopSequence 1 :=
  ⟨voiceReachable_sample _, by decide +kernel⟩

end FhssOtaRadio
