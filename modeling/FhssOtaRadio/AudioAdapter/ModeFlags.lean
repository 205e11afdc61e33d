import FhssOtaRadio.AudioAdapter.RadioMutex
import FhssOtaRadio.AudioAdapter.SeedAnnounce

/-!
# The mode flags (`tx_active`, `ota_active`, `ota_fhss_active` in `fhss_audio_adapter.c`)

`fsm_task` begins and ends talkspurts and OTA, the consumer activates hopping.  Talkspurts take no
mutex: `begin_tx` and `end_tx` check the flags, work on the service and set `tx_active` at the
end, and the other tasks run in between.  An activation checks `ota_active` before it waits for
the mutex, and not again when it has it.
-/

namespace FhssOtaRadio

open Machine

/-- Where `fsm_task` is in `fhss_audio_adapter_begin_tx` or `fhss_audio_adapter_end_tx`. -/
inductive TxPhase where
  | idle
  /-- The flags of `begin_tx` have been checked and the seed of the talkspurt is written. -/
  | keying
  /-- The role is changed: the announcements, then `tx_active` is to be set. -/
  | announcing
  /-- The flags of `end_tx` have been checked: the last packets, the wait, the role change. -/
  | draining
  /-- `tx_active` is to be cleared. -/
  | unkeying
  deriving DecidableEq, Repr

/-- The adapter and the tasks, with `fsm_task` inside of a talkspurt call. -/
structure ModeShare where
  share : RadioShare
  tx : TxPhase
  deriving DecidableEq

/-- An adapter that has just come up. -/
def ModeShare.start (adapter : FhssAudioAdapter) : ModeShare := ⟨.start adapter, .idle⟩

/-- No task is inside of a call that sets a flag. -/
def ModeShare.quiet (mode : ModeShare) : Bool :=
  mode.share.consumer == .idle && mode.share.fsm == .idle && mode.tx == .idle

/-- A step of one of the tasks. -/
inductive ModeInput where
  /-- A step outside of the talkspurt calls, or a talkspurt call that nobody interrupts. -/
  | share (input : RadioShareInput)
  /-- `fsm_task` calls `fhss_audio_adapter_begin_tx`. -/
  | beginTx (publicSeed : UInt32)
  /-- `fsm_task` calls `fhss_audio_adapter_end_tx`. -/
  | endTx
  /-- The talkspurt call goes on; `role` answers the role change. -/
  | txGoesOn (role : FhssRoleHal)

/-- A call that `fsm_task` makes. -/
def RadioShareInput.isFsmCall : RadioShareInput → Bool
  | .beginOta => true
  | .endOta => true
  | .beginTx _ _ => true
  | .endTx _ => true
  | _ => false

variable (protocol : OtaProtocol) (deriveSessionHopSeed : UInt32 → UInt32)

/-- `fsm_task` calls `fhss_audio_adapter_begin_tx`: the flags are checked, the seed is written. -/
def ModeShare.beginTx (mode : ModeShare) (publicSeed : UInt32) : ModeShare :=
  let adapter := mode.share.adapter
  if mode.share.fsm ≠ .idle ∨ mode.tx ≠ .idle then mode
  else if adapter.initialized = false ∨ adapter.txActive = true ∨ adapter.otaActive = true then mode
  else
    { share := mode.share.withService { adapter.service with
        config := { adapter.service.config with
          publicSeed := publicSeed, hopSeed := deriveSessionHopSeed publicSeed } }
      tx := .keying }

/-- `fsm_task` calls `fhss_audio_adapter_end_tx`: the flags are checked. -/
def ModeShare.endTx (mode : ModeShare) : ModeShare :=
  if mode.share.fsm ≠ .idle ∨ mode.tx ≠ .idle then mode
  else if mode.share.adapter.initialized = false ∨ mode.share.adapter.txActive = false then mode
  else { mode with tx := .draining }

/-- The talkspurt call goes on. -/
def ModeShare.txGoesOn (mode : ModeShare) (role : FhssRoleHal) : ModeShare :=
  match mode.tx with
  | .idle => mode
  | .keying =>
      let (service, ok) := fhssServiceSetRole mode.share.adapter.service .tx role
      { share := mode.share.withService service
        tx := if ok = true then .announcing else .idle }
  | .announcing =>
      { share := { mode.share with adapter := { mode.share.adapter with txActive := true } }
        tx := .idle }
  | .draining =>
      { share := mode.share.withService
          (fhssServiceSetRole mode.share.adapter.service .rx role).1
        tx := .unkeying }
  | .unkeying =>
      { share := { mode.share with adapter := { mode.share.adapter with txActive := false } }
        tx := .idle }

/-- A task takes a step; inside of a talkspurt call `fsm_task` makes no other call. -/
def modeStep (mode : ModeShare) (input : ModeInput) : ModeShare × Unit :=
  (match input with
    | .share input =>
        if input.isFsmCall = true ∧ mode.tx ≠ .idle then mode
        else
          { mode with
            share := (radioShareStep protocol deriveSessionHopSeed mode.share input).1 }
    | .beginTx publicSeed => mode.beginTx deriveSessionHopSeed publicSeed
    | .endTx => mode.endTx
    | .txGoesOn role => mode.txGoesOn role, ())

/-- OTA is still on when the role change of an activation succeeds. -/
def OtaStillOn (mode : ModeShare) : ModeInput → Prop
  | .share (.consumerGoesOn role) =>
      mode.share.consumer = .switching →
        (fhssServiceSetRole mode.share.adapter.service .rx role).2 = true →
        mode.share.adapter.otaActive = true
  | _ => True

instance (mode : ModeShare) (input : ModeInput) : Decidable (OtaStillOn mode input) := by
  unfold OtaStillOn
  split
  · infer_instance
  · infer_instance

/-! ## Who may set the flags -/

/-- Who is under the mutex has it, and the flags are as the tasks have checked them. -/
structure RadioFlagsFit (share : RadioShare) : Prop where
  receiveOwns : share.receive = .receiving → share.radioMutex = some .otaRadio
  consumerOwns : share.consumer.inSection = true → share.radioMutex = some .consumer
  fsmOwns : share.fsm.inSection = true → share.radioMutex = some .fsm
  exclusive : share.adapter.txActive = true → share.adapter.otaActive = false
  begins : share.fsm.begins = true → share.adapter.txActive = false
  switches : share.consumer = .switching → share.adapter.otaFhssActive = true

section Share

variable {share : RadioShare}

/-- A free mutex leaves nobody under it. -/
lemma RadioFlagsFit.nobody (h : RadioFlagsFit share) (hfree : share.radioMutex = none) :
    share.receive ≠ .receiving ∧ share.consumer.inSection = false ∧
      share.fsm.inSection = false := by
  refine ⟨fun hreceive => ?_, ?_, ?_⟩
  · simpa [hfree] using h.receiveOwns hreceive
  · by_contra hin
    simpa [hfree] using h.consumerOwns (by simpa using hin)
  · by_contra hin
    simpa [hfree] using h.fsmOwns (by simpa using hin)

/-- Nothing here depends on the service or the queue. -/
lemma RadioFlagsFit.served (h : RadioFlagsFit share) (service : FhssService)
    (otaRxQueue : List Bytes) :
    RadioFlagsFit { share with
      adapter := { share.adapter with service := service, otaRxQueue := otaRxQueue } } :=
  ⟨h.receiveOwns, h.consumerOwns, h.fsmOwns, h.exclusive, h.begins, h.switches⟩

/-- A step of the OTA radio task. -/
lemma radioFlagsFit_receiveGoesOn (h : RadioFlagsFit share) :
    RadioFlagsFit share.receiveGoesOn := by
  unfold RadioShare.receiveGoesOn
  cases hphase : share.receive with
  | idle => exact h
  | waiting =>
    dsimp only
    split_ifs with hfree
    · obtain ⟨-, hconsumer, hfsm⟩ := h.nobody hfree
      exact ⟨fun _ => rfl, fun hin => absurd (hconsumer.symm.trans hin) (by decide),
        fun hin => absurd (hfsm.symm.trans hin) (by decide), h.exclusive, h.begins, h.switches⟩
    · exact h
  | receiving =>
    have howner := h.receiveOwns hphase
    refine ⟨fun hreceiving => ?_, fun hin => ?_, fun hin => ?_, h.exclusive, h.begins, h.switches⟩
    · cases hreceiving
    · exact absurd (howner.symm.trans (h.consumerOwns hin)) (by decide)
    · exact absurd (howner.symm.trans (h.fsmOwns hin)) (by decide)

/-- A step of the consumer. -/
lemma radioFlagsFit_consumerGoesOn (h : RadioFlagsFit share) (role : FhssRoleHal) :
    RadioFlagsFit (share.consumerGoesOn deriveSessionHopSeed role) := by
  -- a phase under the mutex that the consumer goes on to
  have hstays : share.consumer.inSection = true → ∀ phase service otaRxQueue fhss,
      (phase = .switching → fhss = true) → RadioFlagsFit { share with
        adapter := { share.adapter with
          service := service, otaRxQueue := otaRxQueue, otaFhssActive := fhss }
        consumer := phase } := by
    intro hin phase service otaRxQueue fhss hswitch
    have howner := h.consumerOwns hin
    exact ⟨h.receiveOwns, fun _ => howner, h.fsmOwns, h.exclusive, h.begins, hswitch⟩
  -- the consumer takes the mutex
  have htakes : share.radioMutex = none → ∀ phase, phase ≠ .switching →
      RadioFlagsFit { share with radioMutex := some .consumer, consumer := phase } := by
    intro hfree phase hphase
    obtain ⟨hreceive, -, hfsm⟩ := h.nobody hfree
    exact ⟨fun hreceiving => absurd hreceiving hreceive, fun _ => rfl,
      fun hin => absurd (hfsm.symm.trans hin) (by decide), h.exclusive, h.begins,
      fun hswitch => absurd hswitch hphase⟩
  unfold RadioShare.consumerGoesOn
  cases hphase : share.consumer with
  | idle => exact h
  | sendWaiting =>
    dsimp only
    split_ifs with hfree
    · exact htakes hfree .sending (by simp)
    · exact h
  | activateWaiting config =>
    dsimp only
    split_ifs with hfree
    · exact htakes hfree (.activating config) (by simp)
    · exact h
  | sending => exact hstays (by rw [hphase]; rfl) .rearming _ _ _ (by simp)
  | rearming => exact hstays (by rw [hphase]; rfl) .leaving _ _ _ (by simp)
  | restoring => exact hstays (by rw [hphase]; rfl) .leaving _ _ _ (by simp)
  | activating config => exact hstays (by rw [hphase]; rfl) .switching _ _ _ (fun _ => rfl)
  | switching =>
    dsimp only
    cases hset : fhssServiceSetRole share.adapter.service .rx role with
    | mk service ok =>
      cases ok with
      | true => exact hstays (by rw [hphase]; rfl) .leaving service _ _ (by simp)
      | false => exact hstays (by rw [hphase]; rfl) .restoring service _ _ (by simp)
  | leaving =>
    have howner := h.consumerOwns (by rw [hphase]; rfl)
    refine ⟨fun hreceiving => ?_, fun hin => ?_, fun hin => ?_, h.exclusive, h.begins,
      fun hswitch => ?_⟩
    · exact absurd (howner.symm.trans (h.receiveOwns hreceiving)) (by decide)
    · cases hin
    · exact absurd (howner.symm.trans (h.fsmOwns hin)) (by decide)
    · cases hswitch

/-- A step of `fsm_task` in one of its OTA calls. -/
lemma radioFlagsFit_fsmGoesOn (h : RadioFlagsFit share) (ok : Bool) (role : FhssRoleHal) :
    RadioFlagsFit (share.fsmGoesOn ok role) := by
  -- a phase under the mutex that `fsm_task` goes on to
  have hstays : share.fsm.inSection = true → ∀ phase service,
      (phase.begins = true → share.fsm.begins = true) → RadioFlagsFit { share with
        adapter := { share.adapter with service := service }
        fsm := phase } := by
    intro hin phase service hbegins
    have howner := h.fsmOwns hin
    exact ⟨h.receiveOwns, h.consumerOwns, fun _ => howner, h.exclusive,
      fun hbegin => h.begins (hbegins hbegin), h.switches⟩
  -- `fsm_task` takes the mutex
  have htakes : share.radioMutex = none → ∀ phase,
      (phase.begins = true → share.fsm.begins = true) →
      RadioFlagsFit { share with radioMutex := some .fsm, fsm := phase } := by
    intro hfree phase hbegins
    obtain ⟨hreceive, hconsumer, -⟩ := h.nobody hfree
    exact ⟨fun hreceiving => absurd hreceiving hreceive,
      fun hin => absurd (hconsumer.symm.trans hin) (by decide), fun _ => rfl, h.exclusive,
      fun hbegin => h.begins (hbegins hbegin), h.switches⟩
  -- and the consumer is in no role change
  have halone : share.fsm.inSection = true → share.consumer ≠ .switching := by
    intro hin hswitch
    have howner := h.consumerOwns (by rw [hswitch]; rfl)
    exact absurd (howner.symm.trans (h.fsmOwns hin)) (by decide)
  unfold RadioShare.fsmGoesOn
  cases hphase : share.fsm with
  | idle => exact h
  | beginWaiting =>
    dsimp only
    split_ifs with hfree
    · exact htakes hfree .pausing (fun _ => by rw [hphase]; rfl)
    · exact h
  | endWaiting =>
    dsimp only
    split_ifs with hfree
    · exact htakes hfree .ending (fun hbegin => by cases hbegin)
    · exact h
  | pausing =>
    exact hstays (by rw [hphase]; rfl) _ _ fun _ => by rw [hphase]; rfl
  | tuning =>
    exact hstays (by rw [hphase]; rfl) _ _ fun _ => by rw [hphase]; rfl
  | starting =>
    exact hstays (by rw [hphase]; rfl) (.closing ok) _ fun _ => by rw [hphase]; rfl
  | closing begun =>
    have hin : share.fsm.inSection = true := by rw [hphase]; rfl
    have hnoTx : share.adapter.txActive = false := h.begins (by rw [hphase]; rfl)
    refine ⟨h.receiveOwns, h.consumerOwns, fun _ => h.fsmOwns hin, fun htx => ?_,
      fun hbegins => ?_, fun hswitch => absurd hswitch (halone hin)⟩
    · exact absurd (hnoTx.symm.trans htx) (by decide)
    · cases hbegins
  | leaving begun =>
    have howner := h.fsmOwns (by rw [hphase]; rfl)
    refine ⟨fun hreceiving => ?_, fun hin => ?_, fun hin => ?_, h.exclusive, fun hbegins => ?_,
      h.switches⟩
    · exact absurd (howner.symm.trans (h.receiveOwns hreceiving)) (by decide)
    · exact absurd (howner.symm.trans (h.consumerOwns hin)) (by decide)
    · cases begun <;> cases hin
    · cases begun <;> cases hbegins
  | fallback =>
    refine ⟨h.receiveOwns, h.consumerOwns, fun hin => ?_, h.exclusive, fun hbegins => ?_,
      h.switches⟩
    · cases hin
    · cases hbegins
  | ending =>
    have hin : share.fsm.inSection = true := by rw [hphase]; rfl
    refine ⟨h.receiveOwns, h.consumerOwns, fun _ => h.fsmOwns hin, fun _ => rfl,
      fun hbegins => ?_, fun hswitch => absurd hswitch (halone hin)⟩
    cases hbegins
  | resuming =>
    exact hstays (by rw [hphase]; rfl) (.leaving true) _ fun hbegins => by cases hbegins

/-- The calls of `fsm_task` only check the flags. -/
lemma radioFlagsFit_fsmCalls (h : RadioFlagsFit share) :
    RadioFlagsFit share.beginOta ∧ RadioFlagsFit share.endOta := by
  constructor
  · unfold RadioShare.beginOta
    split_ifs with hidle hrefused
    · exact h
    · exact h
    · push Not at hrefused
      have hnoTx : share.adapter.txActive = false := by simpa using hrefused.2.1
      refine ⟨h.receiveOwns, h.consumerOwns, fun hin => ?_, h.exclusive, fun _ => hnoTx,
        h.switches⟩
      cases hin
  · unfold RadioShare.endOta
    split_ifs
    · exact h
    · exact h
    · refine ⟨h.receiveOwns, h.consumerOwns, fun hin => ?_, h.exclusive, fun hbegins => ?_,
        h.switches⟩
      · cases hin
      · cases hbegins

/-- The calls of the OTA radio task and of the consumer only check the flags. -/
lemma radioFlagsFit_calls (h : RadioFlagsFit share) (config : OtaFhssConfigFields) :
    RadioFlagsFit share.otaReceive ∧ RadioFlagsFit share.otaSend ∧
      RadioFlagsFit (share.activateOtaFhss protocol config) := by
  -- the consumer has made the checks of a call
  have hchecked : ∀ phase : ConsumerRadioPhase, phase.inSection = false →
      RadioFlagsFit { share with consumer := phase } := by
    intro phase hout
    refine ⟨h.receiveOwns, fun hin => ?_, h.fsmOwns, h.exclusive, h.begins, fun hswitch => ?_⟩
    · exact absurd (hout.symm.trans hin) (by decide)
    · have hphase : phase = .switching := hswitch
      rw [hphase] at hout
      cases hout
  refine ⟨?_, ?_, ?_⟩
  · unfold RadioShare.otaReceive
    split_ifs
    · exact h
    · refine ⟨fun hreceiving => ?_, h.consumerOwns, h.fsmOwns, h.exclusive, h.begins, h.switches⟩
      cases hreceiving
    · exact h.served share.adapter.service share.adapter.otaRxQueue.tail
    · exact h
  · unfold RadioShare.otaSend
    split_ifs
    · exact h
    · exact hchecked .sendWaiting rfl
    · exact h
  · unfold RadioShare.activateOtaFhss
    split_ifs
    · exact h
    · exact hchecked (.activateWaiting config) rfl
    · exact h

/-- A talkspurt that begins or ends while `fsm_task` is in no OTA call. -/
lemma RadioFlagsFit.talked (h : RadioFlagsFit share) (hidle : share.fsm = .idle)
    {service : FhssService} {txActive : Bool}
    (hoff : txActive = true → share.adapter.otaActive = false) :
    RadioFlagsFit { share with
      adapter := { share.adapter with service := service, txActive := txActive } } := by
  refine ⟨h.receiveOwns, h.consumerOwns, h.fsmOwns, hoff, fun hbegins => ?_, h.switches⟩
  have hbegins' : share.fsm.begins = true := hbegins
  rw [hidle] at hbegins'
  cases hbegins'

/-- Every step keeps the flags in order. -/
lemma radioFlagsFit_step (h : RadioFlagsFit share) (input : RadioShareInput) :
    RadioFlagsFit (radioShareStep protocol deriveSessionHopSeed share input).1 := by
  unfold radioShareStep
  cases input with
  | otaReceive => exact (radioFlagsFit_calls protocol h sampleOtaFields).1
  | receiveGoesOn => exact radioFlagsFit_receiveGoesOn h
  | otaSend => exact (radioFlagsFit_calls protocol h sampleOtaFields).2.1
  | activateOtaFhss config => exact (radioFlagsFit_calls protocol h config).2.2
  | consumerGoesOn role => exact radioFlagsFit_consumerGoesOn deriveSessionHopSeed h role
  | beginOta => exact (radioFlagsFit_fsmCalls h).1
  | endOta => exact (radioFlagsFit_fsmCalls h).2
  | fsmGoesOn ok role => exact radioFlagsFit_fsmGoesOn h ok role
  | beginTx publicSeed hal =>
    dsimp only
    split_ifs with hidle
    · unfold fhssAudioAdapterBeginTx
      split_ifs with hrefused
      · exact h
      push Not at hrefused
      have hoff : share.adapter.otaActive = false := by simpa using hrefused.2.2
      dsimp only
      split
      · exact h.talked hidle fun _ => hoff
      · exact h.talked hidle fun _ => hoff
    · exact h
  | endTx hal =>
    dsimp only
    split_ifs with hidle
    · unfold fhssAudioAdapterEndTx
      split_ifs
      · exact h
      · exact h.talked hidle fun htx => by cases htx
    · exact h
  | rxTurn turn =>
    dsimp only
    split_ifs
    · exact h.served _ _
    · exact h
  | txEnds =>
    dsimp only
    split_ifs
    · exact h.served _ _
    · exact h

/-- While `fsm_task` is in no OTA call and makes no call, `ota_active` stays. -/
lemma otaActive_step (hidle : share.fsm = .idle) {input : RadioShareInput}
    (hcall : input.isFsmCall = false) :
    (radioShareStep protocol deriveSessionHopSeed share input).1.fsm = .idle ∧
      (radioShareStep protocol deriveSessionHopSeed share input).1.adapter.otaActive =
        share.adapter.otaActive := by
  unfold radioShareStep
  cases input with
  | otaReceive =>
    dsimp only [RadioShare.otaReceive]
    split_ifs <;> exact ⟨hidle, rfl⟩
  | receiveGoesOn =>
    dsimp only [RadioShare.receiveGoesOn]
    split
    · exact ⟨hidle, rfl⟩
    · split_ifs <;> exact ⟨hidle, rfl⟩
    · exact ⟨hidle, rfl⟩
  | otaSend =>
    dsimp only [RadioShare.otaSend]
    split_ifs <;> exact ⟨hidle, rfl⟩
  | activateOtaFhss config =>
    dsimp only [RadioShare.activateOtaFhss]
    split_ifs <;> exact ⟨hidle, rfl⟩
  | consumerGoesOn role =>
    dsimp only [RadioShare.consumerGoesOn]
    cases share.consumer with
    | sendWaiting =>
      dsimp only
      split_ifs <;> exact ⟨hidle, rfl⟩
    | activateWaiting config =>
      dsimp only
      split_ifs <;> exact ⟨hidle, rfl⟩
    | switching =>
      dsimp only
      split <;> exact ⟨hidle, rfl⟩
    | _ => exact ⟨hidle, rfl⟩
  | fsmGoesOn ok role =>
    dsimp only [RadioShare.fsmGoesOn]
    rw [hidle]
    exact ⟨hidle, rfl⟩
  | rxTurn turn =>
    dsimp only
    split_ifs <;> exact ⟨hidle, rfl⟩
  | txEnds =>
    dsimp only
    split_ifs <;> exact ⟨hidle, rfl⟩
  | beginOta => cases hcall
  | endOta => cases hcall
  | beginTx publicSeed hal => cases hcall
  | endTx hal => cases hcall

/-! ## Hopping is part of OTA -/

/-- OTA hops only while it is on, or while an activation changes the role. -/
def HopsInOta (share : RadioShare) : Prop :=
  share.adapter.otaFhssActive = true →
    share.adapter.otaActive = true ∨ share.consumer = .switching

/-- What leaves both flags and the consumer alone does not matter. -/
lemma HopsInOta.of_eq (h : HopsInOta share) {share' : RadioShare}
    (hota : share'.adapter.otaActive = share.adapter.otaActive)
    (hfhss : share'.adapter.otaFhssActive = share.adapter.otaFhssActive)
    (hconsumer : share'.consumer = share.consumer) : HopsInOta share' := by
  unfold HopsInOta
  rw [hota, hfhss, hconsumer]
  exact h

/-- Outside of a role change the consumer may be anywhere. -/
lemma HopsInOta.moved (h : HopsInOta share) (hout : share.consumer ≠ .switching)
    (radioMutex : Option RadioTask) (phase : ConsumerRadioPhase) :
    HopsInOta { share with radioMutex := radioMutex, consumer := phase } :=
  fun hfhss => .inl ((h hfhss).resolve_right hout)

/-- A step of the consumer, in which a role change succeeds only while OTA is on. -/
lemma hopsInOta_consumerGoesOn (h : HopsInOta share) {role : FhssRoleHal}
    (hok : share.consumer = .switching →
      (fhssServiceSetRole share.adapter.service .rx role).2 = true →
      share.adapter.otaActive = true) :
    HopsInOta (share.consumerGoesOn deriveSessionHopSeed role) := by
  unfold RadioShare.consumerGoesOn
  cases hphase : share.consumer with
  | idle => exact h
  | sendWaiting =>
    dsimp only
    split_ifs
    · exact h.moved (by simp [hphase]) _ _
    · exact h
  | sending => exact h.moved (by simp [hphase]) _ _
  | rearming => exact h.moved (by simp [hphase]) _ _
  | activateWaiting config =>
    dsimp only
    split_ifs
    · exact h.moved (by simp [hphase]) _ _
    · exact h
  | activating config => exact fun _ => .inr rfl
  | switching =>
    have hota := hok hphase
    dsimp only
    cases hset : fhssServiceSetRole share.adapter.service .rx role with
    | mk service ok =>
      rw [hset] at hota
      cases ok with
      | true => exact fun _ => .inl (hota rfl)
      | false => exact fun hfhss => by cases hfhss
  | restoring => exact h.moved (by simp [hphase]) _ _
  | leaving => exact h.moved (by simp [hphase]) _ _

/-- A step of `fsm_task` in one of its OTA calls. -/
lemma hopsInOta_fsmGoesOn (h : HopsInOta share) (ok : Bool) (role : FhssRoleHal) :
    HopsInOta (share.fsmGoesOn ok role) := by
  unfold RadioShare.fsmGoesOn
  cases share.fsm with
  | idle => exact h
  | beginWaiting =>
    dsimp only
    split_ifs
    · exact h.of_eq rfl rfl rfl
    · exact h
  | pausing => exact h.of_eq rfl rfl rfl
  | tuning => exact h.of_eq rfl rfl rfl
  | starting => exact h.of_eq rfl rfl rfl
  | closing begun => exact fun hfhss => by cases hfhss
  | leaving begun => exact h.of_eq rfl rfl rfl
  | fallback => exact h.of_eq rfl rfl rfl
  | endWaiting =>
    dsimp only
    split_ifs
    · exact h.of_eq rfl rfl rfl
    · exact h
  | ending => exact fun hfhss => by cases hfhss
  | resuming => exact h.of_eq rfl rfl rfl

/-- A step in which OTA is still on when a role change succeeds. -/
lemma hopsInOta_step (h : HopsInOta share) {input : RadioShareInput}
    (hok : ∀ role, input = .consumerGoesOn role → share.consumer = .switching →
      (fhssServiceSetRole share.adapter.service .rx role).2 = true →
      share.adapter.otaActive = true) :
    HopsInOta (radioShareStep protocol deriveSessionHopSeed share input).1 := by
  have hcalled : share.consumer = .idle → ∀ phase,
      HopsInOta { share with consumer := phase } := fun hidle phase =>
    h.moved (by simp [hidle]) share.radioMutex phase
  unfold radioShareStep
  cases input with
  | otaReceive =>
    dsimp only [RadioShare.otaReceive]
    split_ifs <;> exact h.of_eq rfl rfl rfl
  | receiveGoesOn =>
    dsimp only [RadioShare.receiveGoesOn]
    split
    · exact h
    · split_ifs <;> exact h.of_eq rfl rfl rfl
    · exact h.of_eq rfl rfl rfl
  | otaSend =>
    dsimp only [RadioShare.otaSend]
    split_ifs with hbusy hfixed
    · exact h
    · exact hcalled (not_ne_iff.mp hbusy) .sendWaiting
    · exact h
  | activateOtaFhss config =>
    dsimp only [RadioShare.activateOtaFhss]
    split_ifs with hbusy haccepted
    · exact h
    · exact hcalled (not_ne_iff.mp hbusy) (.activateWaiting config)
    · exact h
  | consumerGoesOn role => exact hopsInOta_consumerGoesOn deriveSessionHopSeed h (hok role rfl)
  | beginOta =>
    dsimp only [RadioShare.beginOta]
    split_ifs <;> exact h.of_eq rfl rfl rfl
  | endOta =>
    dsimp only [RadioShare.endOta]
    split_ifs <;> exact h.of_eq rfl rfl rfl
  | fsmGoesOn ok role => exact hopsInOta_fsmGoesOn h ok role
  | beginTx publicSeed hal =>
    dsimp only [fhssAudioAdapterBeginTx]
    split_ifs
    · exact h
    · split <;> exact h.of_eq rfl rfl rfl
    · exact h
  | endTx hal =>
    dsimp only [fhssAudioAdapterEndTx]
    split_ifs <;> exact h.of_eq rfl rfl rfl
  | rxTurn turn =>
    dsimp only
    split_ifs <;> exact h.of_eq rfl rfl rfl
  | txEnds =>
    dsimp only
    split_ifs <;> exact h.of_eq rfl rfl rfl

end Share

/-! ## Talkspurts in between -/

/-- The flags, with `fsm_task` inside of a talkspurt call: it is in no OTA call, and OTA is off
until `tx_active` is set. -/
structure ModeFit (mode : ModeShare) : Prop where
  flags : RadioFlagsFit mode.share
  alone : mode.tx ≠ .idle → mode.share.fsm = .idle
  keys : mode.tx = .keying ∨ mode.tx = .announcing → mode.share.adapter.otaActive = false

section Mode

variable {mode : ModeShare}

/-- Every step keeps the flags in order, whatever fails. -/
lemma modeFit_step (h : ModeFit mode) (input : ModeInput) :
    ModeFit (modeStep protocol deriveSessionHopSeed mode input).1 := by
  unfold modeStep
  cases input with
  | share input =>
    dsimp only
    split_ifs with hbusy
    · exact h
    have hflags := radioFlagsFit_step protocol deriveSessionHopSeed h.flags input
    have hcall : mode.tx ≠ .idle → input.isFsmCall = false := by
      intro htx
      by_contra hcall
      exact hbusy ⟨by simpa using hcall, htx⟩
    refine ⟨hflags, fun htx => ?_, fun hkeys => ?_⟩
    · exact (otaActive_step protocol deriveSessionHopSeed (h.alone htx) (hcall htx)).1
    · have htx : mode.tx ≠ .idle := by
        rcases hkeys with hkeying | hannouncing
        · exact fun hidle => by simp [hidle] at hkeying
        · exact fun hidle => by simp [hidle] at hannouncing
      rw [(otaActive_step protocol deriveSessionHopSeed (h.alone htx) (hcall htx)).2]
      exact h.keys hkeys
  | beginTx publicSeed =>
    dsimp only [ModeShare.beginTx]
    split_ifs with hbusy hrefused
    · exact h
    · exact h
    push Not at hbusy hrefused
    have hoff : mode.share.adapter.otaActive = false := by simpa using hrefused.2.2
    exact ⟨h.flags.served _ _, fun _ => hbusy.1, fun _ => hoff⟩
  | endTx =>
    dsimp only [ModeShare.endTx]
    split_ifs with hbusy hnone
    · exact h
    · exact h
    push Not at hbusy
    refine ⟨h.flags, fun _ => hbusy.1, fun hkeys => ?_⟩
    rcases hkeys with hkeying | hannouncing
    · cases hkeying
    · cases hannouncing
  | txGoesOn role =>
    have hdone : ∀ share, RadioFlagsFit share → ModeFit ⟨share, .idle⟩ := by
      intro share hflags
      refine ⟨hflags, fun htx => absurd rfl htx, fun hkeys => ?_⟩
      rcases hkeys with hkeying | hannouncing
      · cases hkeying
      · cases hannouncing
    dsimp only [ModeShare.txGoesOn]
    cases hphase : mode.tx with
    | idle => exact h
    | keying =>
      have hidle : mode.share.fsm = .idle := h.alone (by simp [hphase])
      have hoff : mode.share.adapter.otaActive = false := h.keys (.inl hphase)
      dsimp only
      cases hset : fhssServiceSetRole mode.share.adapter.service .tx role with
      | mk service ok =>
        cases ok with
        | true => exact ⟨h.flags.served _ _, fun _ => hidle, fun _ => hoff⟩
        | false => exact hdone _ (h.flags.served _ _)
    | announcing =>
      have hidle : mode.share.fsm = .idle := h.alone (by simp [hphase])
      exact hdone _ (h.flags.talked hidle fun _ => h.keys (.inr hphase))
    | draining =>
      have hidle : mode.share.fsm = .idle := h.alone (by simp [hphase])
      refine ⟨h.flags.served _ _, fun _ => hidle, fun hkeys => ?_⟩
      rcases hkeys with hkeying | hannouncing
      · cases hkeying
      · cases hannouncing
    | unkeying =>
      have hidle : mode.share.fsm = .idle := h.alone (by simp [hphase])
      exact hdone _ (h.flags.talked hidle fun htx => by cases htx)

/-- A step in which OTA is still on when a role change succeeds keeps hopping a part of OTA. -/
lemma hopsInOta_modeStep (h : HopsInOta mode.share) {input : ModeInput}
    (hok : OtaStillOn mode input) :
    HopsInOta (modeStep protocol deriveSessionHopSeed mode input).1.share := by
  unfold modeStep
  cases input with
  | share input =>
    dsimp only
    split_ifs
    · exact h
    · refine hopsInOta_step protocol deriveSessionHopSeed h ?_
      rintro role rfl
      exact hok
  | beginTx publicSeed =>
    dsimp only [ModeShare.beginTx]
    split_ifs <;> exact h.of_eq rfl rfl rfl
  | endTx =>
    dsimp only [ModeShare.endTx]
    split_ifs <;> exact h
  | txGoesOn role =>
    dsimp only [ModeShare.txGoesOn]
    split <;> exact h.of_eq rfl rfl rfl

/-- A role change that succeeds after OTA has ended leaves OTA hopping although it is off. -/
lemma hops_of_not_otaStillOn (h : ModeFit mode) {input : ModeInput}
    (hnot : ¬ OtaStillOn mode input) :
    (modeStep protocol deriveSessionHopSeed mode input).1.share.adapter.otaFhssActive = true ∧
      (modeStep protocol deriveSessionHopSeed mode input).1.share.adapter.otaActive = false := by
  unfold OtaStillOn at hnot
  split at hnot
  · rename_i role
    push Not at hnot
    obtain ⟨hphase, hset, hoff⟩ := hnot
    have hfhss := h.flags.switches hphase
    have hcall : ¬ (RadioShareInput.isFsmCall (.consumerGoesOn role) = true ∧ mode.tx ≠ .idle) :=
      fun hbusy => by cases hbusy.1
    dsimp only [modeStep]
    rw [if_neg hcall]
    dsimp only [radioShareStep, RadioShare.consumerGoesOn]
    rw [hphase]
    cases hrole : fhssServiceSetRole mode.share.adapter.service .rx role with
    | mk service ok =>
      rw [hrole] at hset
      obtain rfl : ok = true := hset
      exact ⟨hfhss, by simpa [RadioShare.withService] using hoff⟩
  · exact absurd trivial hnot

end Mode

/-- While OTA does not hop, `on_service_data` leaves the OTA queue alone. -/
lemma otaRxQueue_onServiceData {voice : VoiceAdapter}
    (hfhss : voice.adapter.otaFhssActive = false) (data : Bytes) :
    (onServiceData deriveSessionHopSeed voice data).1.adapter.otaRxQueue =
      voice.adapter.otaRxQueue := by
  unfold onServiceData
  rw [if_neg (by simp [hfhss])]
  cases fhssAudioSeedAnnouncePacketUnpack data with
  | some announce =>
    dsimp only
    split_ifs <;> rfl
  | none =>
    dsimp only
    cases fhssAudioEndPacketUnpack data with
    | some packetEnd =>
      dsimp only
      split_ifs <;> rfl
    | none =>
      dsimp only
      cases fhssAudioPacketUnpack data <;> rfl

/-- An adapter that comes up, or fails to, has no flag set. -/
lemma flags_fhssAudioAdapterInit (store : FhssConfigStore) (hal : FhssAudioAdapterInitHal) :
    (fhssAudioAdapterInit protocol store hal).1.txActive = false ∧
      (fhssAudioAdapterInit protocol store hal).1.otaActive = false ∧
      (fhssAudioAdapterInit protocol store hal).1.otaFhssActive = false := by
  unfold fhssAudioAdapterInit
  split_ifs
  · exact ⟨rfl, rfl, rfl⟩
  split
  · exact ⟨rfl, rfl, rfl⟩
  · split <;> exact ⟨rfl, rfl, rfl⟩

/-- An adapter that has just come up meets both invariants. -/
lemma modeFit_start {adapter : FhssAudioAdapter} (htx : adapter.txActive = false)
    (hfhss : adapter.otaFhssActive = false) :
    ModeFit (.start adapter) ∧ HopsInOta (ModeShare.start adapter).share := by
  refine ⟨⟨⟨fun hreceiving => ?_, fun hin => ?_, fun hin => ?_, fun htalk => ?_,
    fun hbegins => ?_, fun hswitch => ?_⟩, fun hbusy => absurd rfl hbusy, fun hkeys => ?_⟩, ?_⟩
  · cases hreceiving
  · cases hin
  · cases hin
  · exact absurd (htx.symm.trans htalk) (by decide)
  · cases hbegins
  · cases hswitch
  · rcases hkeys with hkeying | hannouncing
    · cases hkeying
    · cases hannouncing
  · exact fun hhops => absurd (hfhss.symm.trans hhops) (by decide)

/-- **The mode flags are consistent while no activation outlives OTA.**  In every run of the
tasks, whatever fails, `tx_active` and `ota_active` are never both set.  If in addition OTA is
still on whenever the role change of an activation succeeds, then in every state in which no call
is in progress `ota_fhss_active` implies `ota_active`, and outside of OTA `on_service_data`
diverts nothing into the OTA queue.  A role change that succeeds when OTA is off leaves
`ota_fhss_active` set without `ota_active`. -/
theorem modeFlags_consistent (store : FhssConfigStore) (hal : FhssAudioAdapterInitHal)
    (inputs : List ModeInput) :
    let start := ModeShare.start (fhssAudioAdapterInit protocol store hal).1
    let mode := finalState (modeStep protocol deriveSessionHopSeed) start inputs
    let adapter := mode.share.adapter
    (adapter.txActive = true → adapter.otaActive = false) ∧
    (Guarded (modeStep protocol deriveSessionHopSeed) OtaStillOn start inputs →
      mode.quiet = true →
        (adapter.otaFhssActive = true → adapter.otaActive = true) ∧
        (adapter.otaActive = false → ∀ voice : VoiceAdapter, voice.adapter = adapter → ∀ data,
          (onServiceData deriveSessionHopSeed voice data).1.adapter.otaRxQueue =
            adapter.otaRxQueue)) ∧
    ∀ input, ¬ OtaStillOn mode input →
      let next := (modeStep protocol deriveSessionHopSeed mode input).1.share.adapter
      next.otaFhssActive = true ∧ next.otaActive = false := by
  intro start mode adapter
  obtain ⟨htx, -, hfhss⟩ := flags_fhssAudioAdapterInit protocol store hal
  obtain ⟨hfit₀, hhops₀⟩ := modeFit_start htx hfhss
  have hfit : ModeFit mode :=
    @invariant_run _ _ _ (modeStep protocol deriveSessionHopSeed) ModeFit
      (fun _ input h => modeFit_step protocol deriveSessionHopSeed h input) _ hfit₀ inputs
  refine ⟨hfit.flags.exclusive, fun hguarded hquiet => ?_, fun input hnot =>
    hops_of_not_otaStillOn protocol deriveSessionHopSeed hfit hnot⟩
  have hhops : HopsInOta mode.share :=
    @invariant_finalState _ _ _ (modeStep protocol deriveSessionHopSeed)
      (fun mode => HopsInOta mode.share) OtaStillOn
      (fun _ _ h hok => hopsInOta_modeStep protocol deriveSessionHopSeed h hok) _ hhops₀ _ hguarded
  have hconsumer : mode.share.consumer ≠ .switching := by
    simp only [ModeShare.quiet, Bool.and_eq_true, beq_iff_eq] at hquiet
    simp [hquiet.1.1]
  have hflags : adapter.otaFhssActive = true → adapter.otaActive = true :=
    fun hfhss => (hhops hfhss).resolve_right hconsumer
  refine ⟨hflags, fun hoff voice hvoice data => ?_⟩
  have hstill : voice.adapter.otaFhssActive = false := by
    rw [hvoice]
    by_contra hhopping
    have hon : adapter.otaActive = true := hflags (by simpa using hhopping)
    exact absurd (hoff.symm.trans hon) (by decide)
  rw [otaRxQueue_onServiceData deriveSessionHopSeed hstill data, hvoice]

/-- OTA begins, an activation goes through, and OTA ends. -/
def sampleUninterrupted : List ModeInput :=
  sampleBeginOta.map .share ++ .share (.activateOtaFhss sampleOtaFields) ::
    (.replicate 4 (.share (.consumerGoesOn ⟨true, true⟩)) ++
      .share .endOta :: .replicate 4 (.share (.fsmGoesOn true ⟨true, true⟩)))

/-- After such a session the device listens to voice again. -/
theorem modeFlags_consistent_session :
    let mode := finalState (modeStep plainProtocol sampleDerive) (.start sampleStarted)
      sampleUninterrupted
    mode.share.adapter.otaFhssActive = true → mode.share.adapter.otaActive = true :=
  ((modeFlags_consistent plainProtocol sampleDerive sampleStore .succeeding
    sampleUninterrupted).2.1 (by decide +kernel) (by decide +kernel)).1

/-- A voice packet with one frame. -/
def sampleVoicePacket : Bytes := fhssAudioPacketHeader 0 0 [[0x55, 0x55]] ++ [0x55, 0x55]

/-- The consumer has checked `ota_active` when OTA ends; it gets the mutex afterwards and sets
`ota_fhss_active`.  No call is in progress then, OTA is off, and the voice packets that the device
hears go to the OTA queue. -/
theorem modeFlags_stale_activation :
    let mode := finalState (modeStep plainProtocol sampleDerive) (.start sampleStarted)
      (sampleBeginOta.map .share ++ [.share (.activateOtaFhss sampleOtaFields), .share .endOta] ++
        .replicate 4 (.share (.fsmGoesOn true ⟨true, true⟩)) ++
        .replicate 4 (.share (.consumerGoesOn ⟨true, true⟩)))
    mode.quiet = true ∧ mode.share.adapter.otaFhssActive = true ∧
      mode.share.adapter.otaActive = false ∧
      (fhssAudioPacketUnpack sampleVoicePacket).isSome = true ∧
      (onServiceData sampleDerive (.start mode.share.adapter)
        sampleVoicePacket).1.adapter.otaRxQueue = [sampleVoicePacket] := by
  decide +kernel

end FhssOtaRadio
