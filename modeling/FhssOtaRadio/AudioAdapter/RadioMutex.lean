import FhssOtaRadio.AudioAdapter.VoiceRestore
import FhssOtaRadio.AudioAdapter.VoiceSession

/-!
# Who may touch the radio in OTA mode (`radio_mutex` in `fhss_audio_adapter.c`)

Three tasks use the radio in OTA mode: the OTA radio task receives, the consumer sends and
activates hopping, and `fsm_task` begins and ends OTA.  Each call checks the mode, takes the mutex,
works on the radio and gives the mutex back.  The mode is checked before the mutex is taken, and
another task may change it while the call waits.
-/

namespace FhssOtaRadio

open Machine

/-- The tasks that take `radio_mutex`. -/
inductive RadioTask where
  | otaRadio
  | consumer
  | fsm
  deriving DecidableEq, Repr

/-- Where the OTA radio task is in `fhss_audio_adapter_ota_receive`. -/
inductive ReceivePhase where
  | idle
  /-- The flags have been checked. -/
  | waiting
  /-- `rf_transport_receive_packet`, under the mutex. -/
  | receiving
  deriving DecidableEq, Repr

/-- Where the consumer is in `fhss_audio_adapter_ota_send` or
`fhss_audio_adapter_activate_ota_fhss`. -/
inductive ConsumerRadioPhase where
  | idle
  /-- The flags of `ota_send` have been checked. -/
  | sendWaiting
  /-- `rf_transport_send_packet`, under the mutex. -/
  | sending
  /-- `rf_transport_start_receive` behind it. -/
  | rearming
  /-- The arguments and the flags of the activation have been checked. -/
  | activateWaiting (config : OtaFhssConfigFields)
  /-- The activation has the mutex. -/
  | activating (config : OtaFhssConfigFields)
  /-- The configuration is written, the role change is under way. -/
  | switching
  /-- The role change has failed: `rf_transport_set_channel` and `rf_transport_start_receive`. -/
  | restoring
  /-- The mutex is to be given back. -/
  | leaving
  deriving DecidableEq

/-- Where `fsm_task` is in `fhss_audio_adapter_begin_ota` or `fhss_audio_adapter_end_ota`. -/
inductive FsmRadioPhase where
  | idle
  /-- The flags of `begin_ota` have been checked. -/
  | beginWaiting
  /-- `fhss_service_pause`, under the mutex. -/
  | pausing
  /-- `rf_transport_set_channel`. -/
  | tuning
  /-- `rf_transport_start_receive`. -/
  | starting
  /-- The flags are to be set. -/
  | closing (ok : Bool)
  /-- The mutex is to be given back. -/
  | leaving (ok : Bool)
  /-- `begin_ota` has failed: the role change, without the mutex. -/
  | fallback
  /-- The flags of `end_ota` have been checked. -/
  | endWaiting
  /-- `end_ota` has the mutex. -/
  | ending
  /-- The flags are cleared, the role change is under way. -/
  | resuming
  deriving DecidableEq, Repr

/-- The adapter, the mutex and the tasks that use it. -/
structure RadioShare where
  adapter : FhssAudioAdapter
  /-- The owner of `radio_mutex`. -/
  radioMutex : Option RadioTask
  receive : ReceivePhase
  consumer : ConsumerRadioPhase
  fsm : FsmRadioPhase
  deriving DecidableEq

/-- An adapter that has just come up. -/
def RadioShare.start (adapter : FhssAudioAdapter) : RadioShare :=
  ⟨adapter, none, .idle, .idle, .idle⟩

/-- Replace the service. -/
def RadioShare.withService (share : RadioShare) (service : FhssService) : RadioShare :=
  { share with adapter := { share.adapter with service := service } }

/-- OTA is on, on the fixed channel: the check of `ota_receive` and `ota_send`. -/
def FhssAudioAdapter.onFixedChannel (adapter : FhssAudioAdapter) : Bool :=
  adapter.otaActive && !adapter.otaFhssActive

/-! ## The calls, step by step -/

/-- The OTA radio task calls `fhss_audio_adapter_ota_receive`; while OTA hops, it takes a packet
from the queue. -/
def RadioShare.otaReceive (share : RadioShare) : RadioShare :=
  if share.receive ≠ .idle then share
  else if share.adapter.onFixedChannel = true then { share with receive := .waiting }
  else if share.adapter.otaActive = true then
    { share with adapter := { share.adapter with otaRxQueue := share.adapter.otaRxQueue.tail } }
  else share

/-- The call goes on. -/
def RadioShare.receiveGoesOn (share : RadioShare) : RadioShare :=
  match share.receive with
  | .idle => share
  | .waiting =>
      if share.radioMutex = none then
        { share with radioMutex := some .otaRadio, receive := .receiving }
      else share
  | .receiving => { share with radioMutex := none, receive := .idle }

/-- The consumer calls `fhss_audio_adapter_ota_send`; while OTA hops, the packet goes to the TX
queue of the service. -/
def RadioShare.otaSend (share : RadioShare) : RadioShare :=
  if share.consumer ≠ .idle then share
  else if share.adapter.onFixedChannel = true then { share with consumer := .sendWaiting }
  else share

variable (protocol : OtaProtocol) (deriveSessionHopSeed : UInt32 → UInt32)

/-- The consumer calls `fhss_audio_adapter_activate_ota_fhss`. -/
def RadioShare.activateOtaFhss (share : RadioShare) (config : OtaFhssConfigFields) : RadioShare :=
  if share.consumer ≠ .idle then share
  else if activationIsAccepted protocol share.adapter config = true then
    { share with consumer := .activateWaiting config }
  else share

/-- The call goes on; `role` answers the role change. -/
def RadioShare.consumerGoesOn (share : RadioShare) (role : FhssRoleHal) : RadioShare :=
  match share.consumer with
  | .idle => share
  | .sendWaiting =>
      if share.radioMutex = none then
        { share with radioMutex := some .consumer, consumer := .sending }
      else share
  | .sending => { share with consumer := .rearming }
  | .rearming => { share with consumer := .leaving }
  | .activateWaiting config =>
      if share.radioMutex = none then
        { share with radioMutex := some .consumer, consumer := .activating config }
      else share
  | .activating config =>
      { share with
        adapter := { share.adapter with
          service := { share.adapter.service with
            config := share.adapter.service.config.withOta deriveSessionHopSeed config }
          otaRxQueue := []
          otaFhssActive := true }
        consumer := .switching }
  | .switching =>
      match fhssServiceSetRole share.adapter.service .rx role with
      | (service, true) => { share.withService service with consumer := .leaving }
      | (service, false) =>
          { share with
            adapter := { share.adapter with service := service, otaFhssActive := false }
            consumer := .restoring }
  | .restoring => { share with consumer := .leaving }
  | .leaving => { share with radioMutex := none, consumer := .idle }

/-- `fsm_task` calls `fhss_audio_adapter_begin_ota`. -/
def RadioShare.beginOta (share : RadioShare) : RadioShare :=
  if share.fsm ≠ .idle then share
  else if share.adapter.initialized = false ∨ share.adapter.txActive = true ∨
      share.adapter.otaActive = true then share
  else { share with fsm := .beginWaiting }

/-- `fsm_task` calls `fhss_audio_adapter_end_ota`. -/
def RadioShare.endOta (share : RadioShare) : RadioShare :=
  if share.fsm ≠ .idle then share
  else if share.adapter.initialized = false ∨ share.adapter.otaActive = false then share
  else { share with fsm := .endWaiting }

/-- The call goes on; `ok` answers the operation of the radio, `role` the role change. -/
def RadioShare.fsmGoesOn (share : RadioShare) (ok : Bool) (role : FhssRoleHal) : RadioShare :=
  match share.fsm with
  | .idle => share
  | .beginWaiting =>
      if share.radioMutex = none then
        { share with radioMutex := some .fsm, fsm := .pausing }
      else share
  | .pausing =>
      let (service, paused) := fhssServicePause share.adapter.service ok
      { share.withService service with fsm := if paused = true then .tuning else .closing false }
  | .tuning => { share with fsm := if ok = true then .starting else .closing false }
  | .starting => { share with fsm := .closing ok }
  | .closing ok =>
      { share with
        adapter := { share.adapter with
          otaActive := ok, otaFhssActive := false, otaRxQueue := [] }
        fsm := .leaving ok }
  | .leaving ok =>
      { share with radioMutex := none, fsm := if ok = true then .idle else .fallback }
  | .fallback =>
      { share.withService (fhssServiceSetRole share.adapter.service .rx role).1 with fsm := .idle }
  | .endWaiting =>
      if share.radioMutex = none then
        { share with radioMutex := some .fsm, fsm := .ending }
      else share
  | .ending =>
      { share with
        adapter := { share.adapter with otaActive := false, otaFhssActive := false }
        fsm := .resuming }
  | .resuming =>
      { share.withService (fhssServiceSetRole share.adapter.service .rx role).1 with
        fsm := .leaving true }

/-- A step of one of the tasks. -/
inductive RadioShareInput where
  | otaReceive
  | receiveGoesOn
  | otaSend
  | activateOtaFhss (config : OtaFhssConfigFields)
  | consumerGoesOn (role : FhssRoleHal)
  | beginOta
  | endOta
  | fsmGoesOn (ok : Bool) (role : FhssRoleHal)
  /-- `fsm_task` begins a talkspurt. -/
  | beginTx (publicSeed : UInt32) (hal : FhssRoleHal)
  /-- `fsm_task` ends it. -/
  | endTx (hal : FhssRoleHal)
  /-- A turn of the task of the service in the RX role. -/
  | rxTurn (turn : RxTurn)
  /-- The task of the service ends by itself in the TX role. -/
  | txEnds

/-- A task takes a step. -/
def radioShareStep (share : RadioShare) (input : RadioShareInput) : RadioShare × Unit :=
  (match input with
    | .otaReceive => share.otaReceive
    | .receiveGoesOn => share.receiveGoesOn
    | .otaSend => share.otaSend
    | .activateOtaFhss config => share.activateOtaFhss protocol config
    | .consumerGoesOn role => share.consumerGoesOn deriveSessionHopSeed role
    | .beginOta => share.beginOta
    | .endOta => share.endOta
    | .fsmGoesOn ok role => share.fsmGoesOn ok role
    | .beginTx publicSeed hal =>
        if share.fsm = .idle then
          { share with
            adapter :=
              (fhssAudioAdapterBeginTx deriveSessionHopSeed share.adapter publicSeed hal).1 }
        else share
    | .endTx hal =>
        if share.fsm = .idle then
          { share with adapter := fhssAudioAdapterEndTx share.adapter hal }
        else share
    | .rxTurn turn =>
        if share.adapter.service.taskRunning = true ∧
            share.adapter.service.config.role = .rx then
          share.withService (rxTaskTurn protocol (some deriveSessionHopSeed)
            share.adapter.service turn).1
        else share
    | .txEnds =>
        if share.adapter.service.config.role = .tx then
          share.withService { share.adapter.service with taskRunning := false }
        else share, ())

/-- A task works on the radio on the fixed channel. -/
def RadioShare.fixedAccess (share : RadioShare) : Bool :=
  share.receive == .receiving || share.consumer == .sending || share.consumer == .rearming ||
    share.consumer == .restoring || share.fsm == .tuning || share.fsm == .starting

/-- The mode that a call has checked still holds when it gets the mutex. -/
def ModeHolds (share : RadioShare) : RadioShareInput → Prop
  | .receiveGoesOn =>
      share.receive = .waiting → share.radioMutex = none → share.adapter.onFixedChannel = true
  | .consumerGoesOn _ =>
      match share.consumer with
      | .sendWaiting => share.radioMutex = none → share.adapter.onFixedChannel = true
      | .activateWaiting _ => share.radioMutex = none → share.adapter.otaActive = true
      | _ => True
  | _ => True

instance (share : RadioShare) (input : RadioShareInput) : Decidable (ModeHolds share input) := by
  unfold ModeHolds
  split
  · infer_instance
  · split <;> infer_instance
  · infer_instance

/-! ## Calls without interruption -/

section Calls

variable {share : RadioShare}

/-- `fhss_audio_adapter_begin_ota` is a run of its steps when nobody interrupts it. -/
lemma fhssAudioAdapterBeginOta_isRun (hfree : share.radioMutex = none) (hidle : share.fsm = .idle)
    {hal : BeginOtaHal} (htaken : hal.mutexTaken = true) :
    ∃ inputs, finalState (radioShareStep protocol deriveSessionHopSeed) share inputs =
      { share with adapter := (fhssAudioAdapterBeginOta share.adapter hal).1 } := by
  obtain ⟨adapter, radioMutex, receive, consumer, fsm⟩ := share
  obtain rfl : radioMutex = none := hfree
  obtain rfl : fsm = .idle := hidle
  unfold fhssAudioAdapterBeginOta
  by_cases hrefused : adapter.initialized = false ∨ adapter.txActive = true ∨
      adapter.otaActive = true
  · exact ⟨[], by simp [hrefused]⟩
  rw [if_neg hrefused, if_neg (by simp [htaken])]
  -- The steps up to the pause, then those that its answer and the radio leave.
  cases hpause : fhssServicePause adapter.service hal.recovered with
  | mk service paused =>
    cases paused with
    | false =>
      refine ⟨[.beginOta, .fsmGoesOn true hal.fallback, .fsmGoesOn hal.recovered hal.fallback,
        .fsmGoesOn true hal.fallback, .fsmGoesOn true hal.fallback,
        .fsmGoesOn true hal.fallback], ?_⟩
      simp [radioShareStep, RadioShare.beginOta, RadioShare.fsmGoesOn, RadioShare.withService,
        hrefused, hpause]
    | true =>
      cases hset : hal.channelSet with
      | false =>
        refine ⟨[.beginOta, .fsmGoesOn true hal.fallback, .fsmGoesOn hal.recovered hal.fallback,
          .fsmGoesOn false hal.fallback, .fsmGoesOn true hal.fallback,
          .fsmGoesOn true hal.fallback, .fsmGoesOn true hal.fallback], ?_⟩
        simp [radioShareStep, RadioShare.beginOta, RadioShare.fsmGoesOn, RadioShare.withService,
          hrefused, hpause]
      | true =>
        refine ⟨[.beginOta, .fsmGoesOn true hal.fallback, .fsmGoesOn hal.recovered hal.fallback,
          .fsmGoesOn true hal.fallback, .fsmGoesOn hal.receiveStarted hal.fallback,
          .fsmGoesOn true hal.fallback, .fsmGoesOn true hal.fallback] ++
          (if hal.receiveStarted = true then [] else [.fsmGoesOn true hal.fallback]), ?_⟩
        cases hstarted : hal.receiveStarted <;>
          simp [radioShareStep, RadioShare.beginOta, RadioShare.fsmGoesOn,
            RadioShare.withService, hrefused, hpause]

/-- So is `fhss_audio_adapter_end_ota`. -/
lemma fhssAudioAdapterEndOta_isRun (hfree : share.radioMutex = none) (hidle : share.fsm = .idle)
    {hal : OtaRoleHal} (htaken : hal.mutexTaken = true) :
    ∃ inputs, finalState (radioShareStep protocol deriveSessionHopSeed) share inputs =
      { share with adapter := (fhssAudioAdapterEndOta share.adapter hal).1 } := by
  obtain ⟨adapter, radioMutex, receive, consumer, fsm⟩ := share
  obtain rfl : radioMutex = none := hfree
  obtain rfl : fsm = .idle := hidle
  unfold fhssAudioAdapterEndOta
  by_cases hrefused : adapter.initialized = false ∨ adapter.otaActive = false
  · exact ⟨[], by simp [hrefused]⟩
  rw [if_neg hrefused, if_neg (by simp [htaken])]
  refine ⟨[.endOta, .fsmGoesOn true hal.role, .fsmGoesOn true hal.role, .fsmGoesOn true hal.role,
    .fsmGoesOn true hal.role], ?_⟩
  simp [radioShareStep, RadioShare.endOta, RadioShare.fsmGoesOn, RadioShare.withService, hrefused]

/-- So is `fhss_audio_adapter_activate_ota_fhss`. -/
lemma fhssAudioAdapterActivateOtaFhss_isRun (hfree : share.radioMutex = none)
    (hidle : share.consumer = .idle) (config : OtaFhssConfigFields) {hal : OtaRoleHal}
    (htaken : hal.mutexTaken = true) :
    ∃ inputs, finalState (radioShareStep protocol deriveSessionHopSeed) share inputs =
      { share with
        adapter := (fhssAudioAdapterActivateOtaFhss protocol deriveSessionHopSeed share.adapter
          config hal).1 } := by
  obtain ⟨adapter, radioMutex, receive, consumer, fsm⟩ := share
  obtain rfl : radioMutex = none := hfree
  obtain rfl : consumer = .idle := hidle
  unfold fhssAudioAdapterActivateOtaFhss
  by_cases haccepted : activationIsAccepted protocol adapter config = false
  · exact ⟨[], by simp [haccepted]⟩
  rw [if_neg haccepted, if_neg (by simp [htaken])]
  dsimp only
  cases hset : fhssServiceSetRole { adapter.service with
      config := adapter.service.config.withOta deriveSessionHopSeed config } .rx hal.role with
  | mk service ok =>
    have hfirst : ∀ inputs : List RadioShareInput, finalState
        (radioShareStep protocol deriveSessionHopSeed) ⟨adapter, none, receive, .idle, fsm⟩
        (.activateOtaFhss config :: .consumerGoesOn hal.role :: inputs) =
      finalState (radioShareStep protocol deriveSessionHopSeed)
        ⟨adapter, some .consumer, receive, .activating config, fsm⟩ inputs := by
      intro inputs
      simp [radioShareStep, RadioShare.activateOtaFhss, RadioShare.consumerGoesOn, haccepted]
    refine ⟨.activateOtaFhss config :: .consumerGoesOn hal.role ::
      ([.consumerGoesOn hal.role, .consumerGoesOn hal.role, .consumerGoesOn hal.role] ++
        (if ok = true then [] else [.consumerGoesOn hal.role])), ?_⟩
    rw [hfirst]
    cases ok <;>
      simp [radioShareStep, RadioShare.consumerGoesOn, RadioShare.withService, hset]

end Calls

/-! ## Who is where -/

/-- The consumer has the mutex. -/
def ConsumerRadioPhase.inSection : ConsumerRadioPhase → Bool
  | .idle => false
  | .sendWaiting => false
  | .activateWaiting _ => false
  | _ => true

/-- The consumer works on the fixed channel. -/
def ConsumerRadioPhase.onFixed : ConsumerRadioPhase → Bool
  | .sending => true
  | .rearming => true
  | .restoring => true
  | _ => false

/-- `fsm_task` has the mutex. -/
def FsmRadioPhase.inSection : FsmRadioPhase → Bool
  | .idle => false
  | .beginWaiting => false
  | .fallback => false
  | .endWaiting => false
  | _ => true

/-- `fsm_task` has found or made OTA off. -/
def FsmRadioPhase.modeOff : FsmRadioPhase → Bool
  | .beginWaiting => true
  | .pausing => true
  | .tuning => true
  | .starting => true
  | .closing _ => true
  | .leaving ok => !ok
  | .fallback => true
  | .resuming => true
  | _ => false

/-- `fsm_task` is about to begin OTA. -/
def FsmRadioPhase.begins : FsmRadioPhase → Bool
  | .beginWaiting => true
  | .pausing => true
  | .tuning => true
  | .starting => true
  | .closing _ => true
  | _ => false

/-- `fsm_task` has paused the service. -/
def FsmRadioPhase.hasPaused : FsmRadioPhase → Bool
  | .tuning => true
  | .starting => true
  | .closing _ => true
  | _ => false

/-- A receive under the mutex goes on in the mode it has checked. -/
def ReceiveFits (phase : ReceivePhase) (radioMutex : Option RadioTask)
    (adapter : FhssAudioAdapter) : Prop :=
  phase = .receiving → radioMutex = some .otaRadio ∧ adapter.onFixedChannel = true

/-- So does what the consumer does under the mutex. -/
structure ConsumerFits (phase : ConsumerRadioPhase) (radioMutex : Option RadioTask)
    (adapter : FhssAudioAdapter) : Prop where
  owns : phase.inSection = true → radioMutex = some .consumer ∧ adapter.otaActive = true
  fixed : phase.onFixed = true → adapter.otaFhssActive = false
  hops : phase = .switching → adapter.otaFhssActive = true

/-- `fsm_task` has the mutex while it changes the mode, and until it has, OTA is off and nothing is
transmitted. -/
structure FsmFits (phase : FsmRadioPhase) (radioMutex : Option RadioTask)
    (adapter : FhssAudioAdapter) : Prop where
  owns : phase.inSection = true → radioMutex = some .fsm
  off : phase.modeOff = true → adapter.otaActive = false
  noTx : phase.begins = true → adapter.txActive = false
  paused : phase.hasPaused = true → adapter.service.taskRunning = false

/-- The invariant: on the fixed channel no task of the service runs. -/
structure ShareInv (share : RadioShare) : Prop where
  initialized : share.adapter.service.initialized = true
  quiet : share.adapter.onFixedChannel = true → share.adapter.service.taskRunning = false
  exclusive : share.adapter.txActive = true → share.adapter.otaActive = false
  receive : ReceiveFits share.receive share.radioMutex share.adapter
  consumer : ConsumerFits share.consumer share.radioMutex share.adapter
  fsm : FsmFits share.fsm share.radioMutex share.adapter

section Fits

variable {radioMutex : Option RadioTask} {adapter : FhssAudioAdapter}

/-- On the fixed channel means in OTA mode and not hopping. -/
lemma onFixedChannel_iff : adapter.onFixedChannel = true ↔
    adapter.otaActive = true ∧ adapter.otaFhssActive = false := by
  unfold FhssAudioAdapter.onFixedChannel
  cases adapter.otaActive <;> cases adapter.otaFhssActive <;> decide

/-- Without the mutex the OTA radio task does not care. -/
lemma ReceiveFits.outside {phase : ReceivePhase} (h : ReceiveFits phase radioMutex adapter)
    (hnot : radioMutex ≠ some .otaRadio) (radioMutex' : Option RadioTask)
    (adapter' : FhssAudioAdapter) : ReceiveFits phase radioMutex' adapter' :=
  fun hreceiving => absurd (h hreceiving).1 hnot

/-- Nor does the consumer. -/
lemma ConsumerFits.outside {phase : ConsumerRadioPhase}
    (h : ConsumerFits phase radioMutex adapter) (hnot : radioMutex ≠ some .consumer)
    (radioMutex' : Option RadioTask) (adapter' : FhssAudioAdapter) :
    ConsumerFits phase radioMutex' adapter' := by
  have hout : phase.inSection ≠ true := fun hin => hnot (h.owns hin).1
  refine ⟨fun hin => absurd hin hout, fun hfixed => absurd ?_ hout, fun hhops => absurd ?_ hout⟩
  · revert hfixed
    cases phase <;> simp [ConsumerRadioPhase.onFixed, ConsumerRadioPhase.inSection]
  · rw [hhops]
    rfl

/-- Without the mutex `fsm_task` cares about OTA and talkspurts only. -/
lemma FsmFits.outside {phase : FsmRadioPhase} (h : FsmFits phase radioMutex adapter)
    (hnot : radioMutex ≠ some .fsm) (radioMutex' : Option RadioTask)
    {adapter' : FhssAudioAdapter}
    (hoff : adapter.otaActive = false → adapter'.otaActive = false)
    (htx : adapter.txActive = false → adapter'.txActive = false) :
    FsmFits phase radioMutex' adapter' := by
  have hout : phase.inSection ≠ true := fun hin => hnot (h.owns hin)
  refine ⟨fun hin => absurd hin hout, fun hmode => hoff (h.off hmode),
    fun hbegins => htx (h.noTx hbegins), fun hpaused => absurd ?_ hout⟩
  revert hpaused
  cases phase <;> simp [FsmRadioPhase.hasPaused, FsmRadioPhase.inSection]

end Fits

section Step

variable {share : RadioShare}

/-- A step of the OTA radio task. -/
lemma shareInv_receiveGoesOn (h : ShareInv share) (hok : ModeHolds share .receiveGoesOn) :
    ShareInv share.receiveGoesOn := by
  unfold RadioShare.receiveGoesOn
  cases hphase : share.receive with
  | idle => exact h
  | waiting =>
    dsimp only
    by_cases hfree : share.radioMutex = none
    · rw [if_pos hfree]
      have hne : ∀ task, share.radioMutex ≠ some task := by simp [hfree]
      exact ⟨h.initialized, h.quiet, h.exclusive, fun _ => ⟨rfl, hok hphase hfree⟩,
        h.consumer.outside (hne _) _ _, h.fsm.outside (hne _) _ id id⟩
    · rw [if_neg hfree]
      exact h
  | receiving =>
    have howner := (h.receive hphase).1
    have hne : ∀ task, task ≠ .otaRadio → share.radioMutex ≠ some task := by
      intro task htask
      simpa [howner] using htask.symm
    refine ⟨h.initialized, h.quiet, h.exclusive, fun hreceiving => ?_,
      h.consumer.outside (hne _ (by decide)) _ _, h.fsm.outside (hne _ (by decide)) _ id id⟩
    cases hreceiving

/-- The calls of the OTA radio task and of the consumer only check the mode. -/
lemma shareInv_calls (h : ShareInv share) (config : OtaFhssConfigFields) :
    ShareInv share.otaReceive ∧ ShareInv share.otaSend ∧
      ShareInv (share.activateOtaFhss protocol config) := by
  have hconsumer : ∀ phase : ConsumerRadioPhase, phase.inSection = false →
      phase.onFixed = false → phase ≠ .switching →
      ShareInv { share with consumer := phase } := fun phase hin hfixed hhops =>
    ⟨h.initialized, h.quiet, h.exclusive, h.receive,
      ⟨fun hin' => absurd (hin.symm.trans hin') (by decide),
        fun hfixed' => absurd (hfixed.symm.trans hfixed') (by decide),
        fun hhops' => absurd hhops' hhops⟩, h.fsm⟩
  refine ⟨?_, ?_, ?_⟩
  · unfold RadioShare.otaReceive
    split_ifs
    · exact h
    · refine ⟨h.initialized, h.quiet, h.exclusive, fun hreceiving => ?_, h.consumer, h.fsm⟩
      cases hreceiving
    · exact ⟨h.initialized, h.quiet, h.exclusive, h.receive,
        ⟨h.consumer.owns, h.consumer.fixed, h.consumer.hops⟩,
        ⟨h.fsm.owns, h.fsm.off, h.fsm.noTx, h.fsm.paused⟩⟩
    · exact h
  · unfold RadioShare.otaSend
    split_ifs
    · exact h
    · exact hconsumer .sendWaiting rfl rfl (by decide)
    · exact h
  · unfold RadioShare.activateOtaFhss
    split_ifs
    · exact h
    · exact hconsumer (.activateWaiting config) rfl rfl (by simp)
    · exact h

/-- A step of the consumer. -/
lemma shareInv_consumerGoesOn (h : ShareInv share) {role : FhssRoleHal}
    (hok : ModeHolds share (.consumerGoesOn role)) :
    ShareInv (share.consumerGoesOn deriveSessionHopSeed role) := by
  -- What the other tasks are doing stays right, whether the consumer has the mutex or takes it.
  have hreceive : share.consumer.inSection = true → ∀ radioMutex adapter,
      ReceiveFits share.receive radioMutex adapter := fun hin radioMutex adapter =>
    h.receive.outside (by simp [(h.consumer.owns hin).1]) radioMutex adapter
  have hfsm : share.consumer.inSection = true → ∀ radioMutex (adapter : FhssAudioAdapter),
      adapter.otaActive = share.adapter.otaActive →
      adapter.txActive = share.adapter.txActive → FsmFits share.fsm radioMutex adapter :=
    fun hin radioMutex adapter hmode htx =>
      h.fsm.outside (by simp [(h.consumer.owns hin).1]) radioMutex hmode.trans htx.trans
  have hreceive' : share.radioMutex = none → ∀ radioMutex,
      ReceiveFits share.receive radioMutex share.adapter := fun hnone radioMutex =>
    h.receive.outside (by simp [hnone]) radioMutex share.adapter
  have hfsm' : share.radioMutex = none → ∀ radioMutex,
      FsmFits share.fsm radioMutex share.adapter := fun hnone radioMutex =>
    h.fsm.outside (by simp [hnone]) radioMutex id id
  unfold ModeHolds at hok
  unfold RadioShare.consumerGoesOn
  cases hphase : share.consumer with
  | idle => exact h
  | sendWaiting =>
    rw [hphase] at hok
    dsimp only at hok ⊢
    by_cases hnone : share.radioMutex = none
    · rw [if_pos hnone]
      obtain ⟨hota, hfhss⟩ := onFixedChannel_iff.mp (hok hnone)
      refine ⟨h.initialized, h.quiet, h.exclusive, hreceive' hnone _,
        ⟨fun _ => ⟨rfl, hota⟩, fun _ => hfhss, fun hhops => ?_⟩, hfsm' hnone _⟩
      cases hhops
    · rw [if_neg hnone]
      exact h
  | activateWaiting config =>
    rw [hphase] at hok
    dsimp only at hok ⊢
    by_cases hnone : share.radioMutex = none
    · rw [if_pos hnone]
      refine ⟨h.initialized, h.quiet, h.exclusive, hreceive' hnone _,
        ⟨fun _ => ⟨rfl, hok hnone⟩, fun hfixed => ?_, fun hhops => ?_⟩, hfsm' hnone _⟩
      · cases hfixed
      · cases hhops
    · rw [if_neg hnone]
      exact h
  | sending =>
    have hin : share.consumer.inSection = true := by rw [hphase]; rfl
    have hfixed : share.adapter.otaFhssActive = false := h.consumer.fixed (by rw [hphase]; rfl)
    refine ⟨h.initialized, h.quiet, h.exclusive, h.receive,
      ⟨fun _ => h.consumer.owns hin, fun _ => hfixed, fun hhops => ?_⟩, h.fsm⟩
    cases hhops
  | rearming =>
    have hin : share.consumer.inSection = true := by rw [hphase]; rfl
    refine ⟨h.initialized, h.quiet, h.exclusive, h.receive,
      ⟨fun _ => h.consumer.owns hin, fun hfixed => ?_, fun hhops => ?_⟩, h.fsm⟩
    · cases hfixed
    · cases hhops
  | restoring =>
    have hin : share.consumer.inSection = true := by rw [hphase]; rfl
    refine ⟨h.initialized, h.quiet, h.exclusive, h.receive,
      ⟨fun _ => h.consumer.owns hin, fun hfixed => ?_, fun hhops => ?_⟩, h.fsm⟩
    · cases hfixed
    · cases hhops
  | leaving =>
    have hin : share.consumer.inSection = true := by rw [hphase]; rfl
    refine ⟨h.initialized, h.quiet, h.exclusive, hreceive hin _ _,
      ⟨fun hin' => ?_, fun hfixed => ?_, fun hhops => ?_⟩, hfsm hin _ _ rfl rfl⟩
    · cases hin'
    · cases hfixed
    · cases hhops
  | activating config =>
    have hin : share.consumer.inSection = true := by rw [hphase]; rfl
    obtain ⟨howner, hota⟩ := h.consumer.owns hin
    refine ⟨h.initialized, fun hfixed => ?_, h.exclusive, hreceive hin _ _,
      ⟨fun _ => ⟨howner, hota⟩, fun hfixed => ?_, fun _ => rfl⟩, hfsm hin _ _ rfl rfl⟩
    · have hfhss := (onFixedChannel_iff.mp hfixed).2
      cases hfhss
    · cases hfixed
  | switching =>
    have hin : share.consumer.inSection = true := by rw [hphase]; rfl
    obtain ⟨howner, hota⟩ := h.consumer.owns hin
    have hfhss : share.adapter.otaFhssActive = true := h.consumer.hops hphase
    have hswitched : ∀ service : FhssService, service.initialized = true →
        ShareInv { share.withService service with consumer := .leaving } := by
      intro service hinit
      refine ⟨hinit, fun hfixed => ?_, h.exclusive, hreceive hin _ _,
        ⟨fun _ => ⟨howner, hota⟩, fun hfixed => ?_, fun hhops => ?_⟩, hfsm hin _ _ rfl rfl⟩
      · exact absurd (hfhss.symm.trans (onFixedChannel_iff.mp hfixed).2) (by decide)
      · cases hfixed
      · cases hhops
    dsimp only
    rcases fhssServiceSetRole_cases h.initialized .rx role with ⟨-, -, hset⟩ |
      ⟨-, service, hinit, -, ⟨hset, hstopped⟩ | ⟨hset, -⟩⟩
    · rw [hset]
      exact hswitched _ h.initialized
    · rw [hset]
      refine ⟨hinit, fun _ => hstopped, h.exclusive, hreceive hin _ _,
        ⟨fun _ => ⟨howner, hota⟩, fun _ => rfl, fun hhops => ?_⟩, hfsm hin _ _ rfl rfl⟩
      cases hhops
    · rw [hset]
      exact hswitched service hinit

/-- `fsm_task` only checks the mode when it calls. -/
lemma shareInv_fsmCalls (h : ShareInv share) :
    ShareInv share.beginOta ∧ ShareInv share.endOta := by
  constructor
  · unfold RadioShare.beginOta
    split_ifs with _ hrefused
    · exact h
    · exact h
    · push Not at hrefused
      refine ⟨h.initialized, h.quiet, h.exclusive, h.receive, h.consumer,
        ⟨fun hin => ?_, fun _ => by simpa using hrefused.2.2, fun _ => by simpa using hrefused.2.1,
          fun hpaused => ?_⟩⟩
      · cases hin
      · cases hpaused
  · unfold RadioShare.endOta
    split_ifs
    · exact h
    · exact h
    · refine ⟨h.initialized, h.quiet, h.exclusive, h.receive, h.consumer,
        ⟨fun hin => ?_, fun hoff => ?_, fun hbegins => ?_, fun hpaused => ?_⟩⟩
      · cases hin
      · cases hoff
      · cases hbegins
      · cases hpaused

/-- A role change leaves the service initialized. -/
lemma initialized_fhssServiceSetRole {service : FhssService} (h : service.initialized = true)
    (role : FhssServiceRole) (hal : FhssRoleHal) :
    (fhssServiceSetRole service role hal).1.initialized = true := by
  rcases fhssServiceSetRole_cases h role hal with ⟨-, -, hset⟩ |
    ⟨-, service', hinit, -, ⟨hset, -⟩ | ⟨hset, -⟩⟩
  · rw [hset]
    exact h
  · rw [hset]
    exact hinit
  · rw [hset]
    exact hinit

/-- While OTA is off, a role change of `fsm_task` does not disturb anyone. -/
lemma ShareInv.roleChanged (h : ShareInv share) (hoff : share.adapter.otaActive = false)
    {service : FhssService} (hinit : service.initialized = true) {phase : FsmRadioPhase}
    (howns : phase.inSection = true → share.radioMutex = some .fsm)
    (hbegins : phase.begins = true → share.fsm.begins = true)
    (hpaused : phase.hasPaused = true → service.taskRunning = false) :
    ShareInv { share.withService service with fsm := phase } := by
  refine ⟨hinit, fun hfixed => ?_, h.exclusive, fun hreceiving => ?_,
    ⟨h.consumer.owns, h.consumer.fixed, h.consumer.hops⟩,
    ⟨howns, fun _ => hoff, fun hbegin => h.fsm.noTx (hbegins hbegin), hpaused⟩⟩
  · exact absurd (hoff.symm.trans (onFixedChannel_iff.mp hfixed).1) (by decide)
  · have hfixed := onFixedChannel_iff.mp (h.receive hreceiving).2
    exact absurd (hoff.symm.trans hfixed.1) (by decide)

/-- A step of `fsm_task` in its calls. -/
lemma shareInv_fsmGoesOn (h : ShareInv share) (ok : Bool) (role : FhssRoleHal) :
    ShareInv (share.fsmGoesOn ok role) := by
  -- What the other tasks are doing stays right, whether `fsm_task` has the mutex or takes it.
  have hreceive : share.fsm.inSection = true → ∀ radioMutex adapter,
      ReceiveFits share.receive radioMutex adapter := fun hin radioMutex adapter =>
    h.receive.outside (by simp [h.fsm.owns hin]) radioMutex adapter
  have hconsumer : share.fsm.inSection = true → ∀ radioMutex adapter,
      ConsumerFits share.consumer radioMutex adapter := fun hin radioMutex adapter =>
    h.consumer.outside (by simp [h.fsm.owns hin]) radioMutex adapter
  have htaken : share.radioMutex = none → ∀ phase : FsmRadioPhase,
      (phase.modeOff = true → share.adapter.otaActive = false) →
      (phase.begins = true → share.fsm.begins = true) → phase.hasPaused = false →
      ShareInv { share with radioMutex := some .fsm, fsm := phase } := by
    intro hnone phase hoff hbegins hpaused
    exact ⟨h.initialized, h.quiet, h.exclusive, h.receive.outside (by simp [hnone]) _ _,
      h.consumer.outside (by simp [hnone]) _ _,
      ⟨fun _ => rfl, hoff, fun hbegin => h.fsm.noTx (hbegins hbegin),
        fun hpaused' => absurd (hpaused.symm.trans hpaused') (by decide)⟩⟩
  have hoff : share.fsm.modeOff = true → share.adapter.otaActive = false := h.fsm.off
  have howns : share.fsm.inSection = true → share.radioMutex = some .fsm := h.fsm.owns
  have hpaused : share.fsm.hasPaused = true → share.adapter.service.taskRunning = false :=
    h.fsm.paused
  unfold RadioShare.fsmGoesOn
  cases hphase : share.fsm with
  | idle => exact h
  | beginWaiting =>
    rw [hphase] at hoff
    dsimp only
    by_cases hnone : share.radioMutex = none
    · rw [if_pos hnone]
      exact htaken hnone .pausing (fun _ => hoff rfl) (fun _ => by rw [hphase]; rfl) rfl
    · rw [if_neg hnone]
      exact h
  | endWaiting =>
    dsimp only
    by_cases hnone : share.radioMutex = none
    · rw [if_pos hnone]
      refine htaken hnone .ending (fun hmode => ?_) (fun hbegins => ?_) rfl
      · cases hmode
      · cases hbegins
    · rw [if_neg hnone]
      exact h
  | pausing =>
    rw [hphase] at hoff howns
    have hpause : fhssServicePause share.adapter.service ok =
        ({ share.adapter.service with
          taskRunning := false, fsm := (fhssFsmHandle share.adapter.service.fsm .stop).1 },
          ok) := by
      unfold fhssServicePause
      rw [if_neg (by simp [h.initialized])]
    dsimp only
    rw [hpause]
    refine h.roleChanged (hoff rfl) ?_ ?_ ?_ ?_
    · exact h.initialized
    · exact fun _ => howns rfl
    · exact fun _ => by rw [hphase]; rfl
    · exact fun _ => rfl
  | tuning =>
    rw [hphase] at hoff howns hpaused
    exact h.roleChanged (hoff rfl) h.initialized (fun _ => howns rfl)
      (fun _ => by rw [hphase]; rfl) fun _ => hpaused rfl
  | starting =>
    rw [hphase] at hoff howns hpaused
    exact h.roleChanged (hoff rfl) h.initialized (fun _ => howns rfl)
      (fun _ => by rw [hphase]; rfl) fun _ => hpaused rfl
  | closing begun =>
    have htx : share.adapter.txActive = false := h.fsm.noTx (by rw [hphase]; rfl)
    have hin : share.fsm.inSection = true := by rw [hphase]; rfl
    rw [hphase] at hpaused
    refine ⟨h.initialized, fun _ => hpaused rfl, fun htalk => ?_, hreceive hin _ _,
      hconsumer hin _ _, ⟨fun _ => howns hin, fun hmode => ?_, fun hbegins => ?_,
        fun hpaused' => ?_⟩⟩
    · exact absurd (htx.symm.trans htalk) (by decide)
    · simpa [FsmRadioPhase.modeOff] using hmode
    · cases hbegins
    · cases hpaused'
  | leaving begun =>
    have hin : share.fsm.inSection = true := by rw [hphase]; rfl
    rw [hphase] at hoff
    refine ⟨h.initialized, h.quiet, h.exclusive, hreceive hin _ _, hconsumer hin _ _,
      ⟨fun hin' => ?_, fun hmode => hoff ?_, fun hbegins => ?_, fun hpaused' => ?_⟩⟩
    · cases begun <;> cases hin'
    · cases begun with
      | true => cases hmode
      | false => rfl
    · cases begun <;> cases hbegins
    · cases begun <;> cases hpaused'
  | fallback =>
    rw [hphase] at hoff
    refine h.roleChanged (hoff rfl) (initialized_fhssServiceSetRole h.initialized .rx role)
      (fun hin => ?_) (fun hbegins => ?_) fun hpaused' => ?_
    · cases hin
    · cases hbegins
    · cases hpaused'
  | ending =>
    have hin : share.fsm.inSection = true := by rw [hphase]; rfl
    refine ⟨h.initialized, fun hfixed => ?_, fun _ => rfl, hreceive hin _ _, hconsumer hin _ _,
      ⟨fun _ => howns hin, fun _ => rfl, fun hbegins => ?_, fun hpaused' => ?_⟩⟩
    · cases (onFixedChannel_iff.mp hfixed).1
    · cases hbegins
    · cases hpaused'
  | resuming =>
    rw [hphase] at hoff howns
    refine h.roleChanged (hoff rfl) (initialized_fhssServiceSetRole h.initialized .rx role)
      (fun _ => howns rfl) (fun hbegins => ?_) fun hpaused' => ?_
    · cases hbegins
    · cases hpaused'

/-- While OTA is off and `fsm_task` is in none of its calls, a talkspurt does not disturb anyone. -/
lemma ShareInv.talked (h : ShareInv share) (hoff : share.adapter.otaActive = false)
    (hidle : share.fsm = .idle) {service : FhssService} (hinit : service.initialized = true)
    (txActive : Bool) :
    ShareInv { share with
      adapter := { share.adapter with service := service, txActive := txActive } } := by
  refine ⟨hinit, fun hfixed => ?_, fun _ => hoff, fun hreceiving => ?_,
    ⟨h.consumer.owns, h.consumer.fixed, h.consumer.hops⟩, ?_⟩
  · exact absurd (hoff.symm.trans (onFixedChannel_iff.mp hfixed).1) (by decide)
  · have hfixed := onFixedChannel_iff.mp (h.receive hreceiving).2
    exact absurd (hoff.symm.trans hfixed.1) (by decide)
  · dsimp only
    rw [hidle]
    refine ⟨fun hin => ?_, fun hmode => ?_, fun hbegins => ?_, fun hpaused => ?_⟩
    · cases hin
    · cases hmode
    · cases hbegins
    · cases hpaused

/-- The begin of a talkspurt. -/
lemma shareInv_beginTx (h : ShareInv share) (hidle : share.fsm = .idle) (publicSeed : UInt32)
    (hal : FhssRoleHal) :
    ShareInv { share with
      adapter :=
        (fhssAudioAdapterBeginTx deriveSessionHopSeed share.adapter publicSeed hal).1 } := by
  unfold fhssAudioAdapterBeginTx
  by_cases hrefused : share.adapter.initialized = false ∨ share.adapter.txActive = true ∨
      share.adapter.otaActive = true
  · rw [if_pos hrefused]
    exact h
  rw [if_neg hrefused]
  push Not at hrefused
  have hoff : share.adapter.otaActive = false := by simpa using hrefused.2.2
  dsimp only
  cases hset : fhssServiceSetRole { share.adapter.service with
      config := { share.adapter.service.config with
        publicSeed := publicSeed, hopSeed := deriveSessionHopSeed publicSeed } } .tx hal with
  | mk service ok =>
    have hinit : service.initialized = true := by
      have hkept := @initialized_fhssServiceSetRole { share.adapter.service with
        config := { share.adapter.service.config with
          publicSeed := publicSeed, hopSeed := deriveSessionHopSeed publicSeed } }
        h.initialized .tx hal
      rw [hset] at hkept
      exact hkept
    cases ok with
    | false => exact h.talked hoff hidle hinit share.adapter.txActive
    | true => exact h.talked hoff hidle hinit true

/-- The end of a talkspurt: OTA is off, because a talkspurt was on. -/
lemma shareInv_endTx (h : ShareInv share) (hidle : share.fsm = .idle) (hal : FhssRoleHal) :
    ShareInv { share with adapter := fhssAudioAdapterEndTx share.adapter hal } := by
  unfold fhssAudioAdapterEndTx
  by_cases hnone : share.adapter.initialized = false ∨ share.adapter.txActive = false
  · rw [if_pos hnone]
    exact h
  rw [if_neg hnone]
  push Not at hnone
  have htx : share.adapter.txActive = true := by simpa using hnone.2
  exact h.talked (h.exclusive htx) hidle
    (initialized_fhssServiceSetRole h.initialized .rx hal) false

/-- What the task of the service does by itself does not start it. -/
lemma ShareInv.served (h : ShareInv share) {service : FhssService}
    (hinit : service.initialized = true)
    (hstopped : share.adapter.service.taskRunning = false → service.taskRunning = false) :
    ShareInv (share.withService service) :=
  ⟨hinit, fun hfixed => hstopped (h.quiet hfixed), h.exclusive, h.receive,
    ⟨h.consumer.owns, h.consumer.fixed, h.consumer.hops⟩,
    ⟨h.fsm.owns, h.fsm.off, h.fsm.noTx, fun hpaused => hstopped (h.fsm.paused hpaused)⟩⟩

/-- A step in which the mode that has been checked still holds keeps the invariant. -/
lemma shareInv_step (h : ShareInv share) (input : RadioShareInput) (hok : ModeHolds share input) :
    ShareInv (radioShareStep protocol deriveSessionHopSeed share input).1 := by
  unfold radioShareStep
  cases input with
  | otaReceive => exact (shareInv_calls protocol h sampleOtaFields).1
  | receiveGoesOn => exact shareInv_receiveGoesOn h hok
  | otaSend => exact (shareInv_calls protocol h sampleOtaFields).2.1
  | activateOtaFhss config => exact (shareInv_calls protocol h config).2.2
  | consumerGoesOn role => exact shareInv_consumerGoesOn deriveSessionHopSeed h hok
  | beginOta => exact (shareInv_fsmCalls h).1
  | endOta => exact (shareInv_fsmCalls h).2
  | fsmGoesOn ok role => exact shareInv_fsmGoesOn h ok role
  | beginTx publicSeed hal =>
    dsimp only
    split_ifs with hidle
    · exact shareInv_beginTx deriveSessionHopSeed h hidle publicSeed hal
    · exact h
  | endTx hal =>
    dsimp only
    split_ifs with hidle
    · exact shareInv_endTx h hidle hal
    · exact h
  | rxTurn turn =>
    dsimp only
    split_ifs
    · obtain ⟨-, hrunning, hinit⟩ :=
        sameService_rxTaskTurn protocol (some deriveSessionHopSeed) share.adapter.service turn
      exact h.served (hinit.trans h.initialized) hrunning.trans
    · exact h
  | txEnds =>
    dsimp only
    split_ifs
    · exact h.served h.initialized fun _ => rfl
    · exact h

/-- An adapter that has just come up meets the invariant. -/
lemma shareInv_start {store : FhssConfigStore} {hal : FhssAudioAdapterInitHal}
    {adapter : FhssAudioAdapter}
    (hinit : fhssAudioAdapterInit protocol store hal = (adapter, true)) :
    ShareInv (.start adapter) := by
  obtain ⟨service, service', -, -, hready, -, rfl⟩ := fhssAudioAdapterInit_started protocol hinit
  refine ⟨hready, fun hfixed => ?_, fun _ => rfl, fun hreceiving => ?_,
    ⟨fun hin => ?_, fun hfixed => ?_, fun hhops => ?_⟩,
    ⟨fun hin => ?_, fun hmode => ?_, fun hbegins => ?_, fun hpaused => ?_⟩⟩
  · cases (onFixedChannel_iff.mp hfixed).1
  · cases hreceiving
  · cases hin
  · cases hfixed
  · cases hhops
  · cases hin
  · cases hmode
  · cases hbegins
  · cases hpaused

/-- Who works on the radio on the fixed channel has the mutex, and the task of the service does not
run. -/
lemma ShareInv.alone (h : ShareInv share) (haccess : share.fixedAccess = true) :
    share.radioMutex ≠ none ∧ share.adapter.service.taskRunning = false := by
  have hconsumer : share.consumer.onFixed = true → share.radioMutex ≠ none ∧
      share.adapter.service.taskRunning = false := by
    intro hfixed
    have hin : share.consumer.inSection = true := by
      revert hfixed
      cases share.consumer <;> simp [ConsumerRadioPhase.onFixed, ConsumerRadioPhase.inSection]
    obtain ⟨howner, hota⟩ := h.consumer.owns hin
    exact ⟨by simp [howner], h.quiet (onFixedChannel_iff.mpr ⟨hota, h.consumer.fixed hfixed⟩)⟩
  have hfsm : share.fsm.hasPaused = true → share.radioMutex ≠ none ∧
      share.adapter.service.taskRunning = false := by
    intro hpaused
    have hin : share.fsm.inSection = true := by
      revert hpaused
      cases share.fsm <;> simp [FsmRadioPhase.hasPaused, FsmRadioPhase.inSection]
    exact ⟨by simp [h.fsm.owns hin], h.fsm.paused hpaused⟩
  unfold RadioShare.fixedAccess at haccess
  simp only [Bool.or_eq_true, beq_iff_eq] at haccess
  rcases haccess with ((((hreceiving | hsending) | hrearming) | hrestoring) | htuning) | hstarting
  · obtain ⟨howner, hfixed⟩ := h.receive hreceiving
    exact ⟨by simp [howner], h.quiet hfixed⟩
  · exact hconsumer (by rw [hsending]; rfl)
  · exact hconsumer (by rw [hrearming]; rfl)
  · exact hconsumer (by rw [hrestoring]; rfl)
  · exact hfsm (by rw [htuning]; rfl)
  · exact hfsm (by rw [hstarting]; rfl)

end Step

/-- **The fixed channel is exclusive.**  In a run of the three tasks in which the mode that a call
has checked still holds when the call gets the mutex, no task works on the radio on the fixed
channel while the task of the service runs. -/
theorem fixedAccess_excludes_service {store : FhssConfigStore} {hal : FhssAudioAdapterInitHal}
    {adapter : FhssAudioAdapter}
    (hinit : fhssAudioAdapterInit protocol store hal = (adapter, true))
    {inputs : List RadioShareInput}
    (hguarded : Guarded (radioShareStep protocol deriveSessionHopSeed) ModeHolds (.start adapter)
      inputs)
    (haccess : (finalState (radioShareStep protocol deriveSessionHopSeed) (.start adapter)
      inputs).fixedAccess = true) :
    (finalState (radioShareStep protocol deriveSessionHopSeed) (.start adapter)
      inputs).adapter.service.taskRunning = false := by
  have hinv : ShareInv (finalState (radioShareStep protocol deriveSessionHopSeed)
      (.start adapter) inputs) :=
    @invariant_finalState _ _ _ (radioShareStep protocol deriveSessionHopSeed) ShareInv ModeHolds
      (fun _ input h hok => shareInv_step protocol deriveSessionHopSeed h input hok) _
      (shareInv_start protocol hinit) _ hguarded
  exact (hinv.alone haccess).2

/-! ## A stale check -/

/-- `fsm_task` begins OTA without interruption. -/
def sampleBeginOta : List RadioShareInput :=
  .beginOta :: .replicate 6 (.fsmGoesOn true ⟨true, true⟩)

/-- An adapter that has just come up. -/
def sampleStarted : FhssAudioAdapter :=
  (fhssAudioAdapterInit plainProtocol sampleStore .succeeding).1

/-- The OTA radio task receives on the fixed channel after OTA has begun. -/
theorem fixedAccess_excludes_service_after_begin :
    (finalState (radioShareStep plainProtocol sampleDerive) (.start sampleStarted)
      (sampleBeginOta ++ [.otaReceive, .receiveGoesOn])).adapter.service.taskRunning = false :=
  have hstarted : fhssAudioAdapterInit plainProtocol sampleStore .succeeding =
      (sampleStarted, true) := by decide +kernel
  fixedAccess_excludes_service plainProtocol sampleDerive hstarted (by decide +kernel)
    (by decide +kernel)

/-- The OTA radio task has checked the mode when an activation takes the mutex: when it gets the
mutex, it receives on the radio that the task of the service has been started on. -/
theorem fixedAccess_meets_service :
    fhssAudioAdapterInit plainProtocol sampleStore .succeeding = (sampleStarted, true) ∧
      let share := finalState (radioShareStep plainProtocol sampleDerive) (.start sampleStarted)
        (sampleBeginOta ++ [.otaReceive, .activateOtaFhss sampleOtaFields] ++
          .replicate 4 (.consumerGoesOn ⟨true, true⟩) ++ [.receiveGoesOn])
      share.fixedAccess = true ∧ share.receive = .receiving ∧
        share.adapter.service.taskRunning = true := by
  decide +kernel

end FhssOtaRadio
