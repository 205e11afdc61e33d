import FhssOtaRadio.AudioAdapter.OtaMode
import FhssOtaRadio.FhssService.RxAgreement

/-!
# Voice mode after OTA

What is left of the voice configuration when OTA ends.  Activations overwrite the service
configuration and nothing writes the voice values back, so the last activation that was accepted
decides about the configuration; the end of OTA begins a new session only when no RX task runs.
-/

namespace FhssOtaRadio

open Machine

/-- The part of the service configuration that voice shares with its peers. -/
structure VoiceConfig where
  channels : List UInt8
  generation : UInt32
  reservedChannel : UInt8
  slotDurationUs : UInt32
  channelSwitchGuardUs : UInt32
  deriving DecidableEq

/-- The voice part of a service configuration. -/
def FhssServiceConfig.voice (config : FhssServiceConfig) : VoiceConfig :=
  ⟨config.channels, config.generation, config.reservedChannel, config.slotDurationUs,
    config.channelSwitchGuardUs⟩

/-- The voice part that an OTA hop configuration writes. -/
def OtaFhssConfigFields.voice (config : OtaFhssConfigFields) : VoiceConfig :=
  ⟨hopChannels config, config.generation, config.reservedChannel, config.slotDurationUs,
    config.channelSwitchGuardUs⟩

/-- An adapter in voice mode that is not transmitting. -/
structure VoiceMode (adapter : FhssAudioAdapter) : Prop where
  initialized : adapter.initialized = true
  receiving : adapter.txActive = false
  voice : adapter.otaActive = false
  service_initialized : adapter.service.initialized = true

/-- What happens between the begin and the end of OTA: activations, and turns of the RX task. -/
inductive OtaModeCall where
  | activate (config : OtaFhssConfigFields) (hal : OtaRoleHal)
  | rxTurn (turn : RxTurn)

variable (protocol : OtaProtocol) (deriveSessionHopSeed : UInt32 → UInt32)

/-- One of them; a turn needs a running RX task. -/
def otaModeStep (adapter : FhssAudioAdapter) : OtaModeCall → FhssAudioAdapter × Option EspErr
  | .activate config hal =>
      let (adapter, err) :=
        fhssAudioAdapterActivateOtaFhss protocol deriveSessionHopSeed adapter config hal
      (adapter, some err)
  | .rxTurn turn =>
      if adapter.service.taskRunning = true then
        ({ adapter with
          service := (rxTaskTurn protocol (some deriveSessionHopSeed) adapter.service turn).1 },
          none)
      else (adapter, none)

/-- The configuration a call writes: that of an activation that passes the check. -/
def OtaModeCall.written (adapter : FhssAudioAdapter) : OtaModeCall → Option OtaFhssConfigFields
  | .activate config hal =>
      if (activationIsAccepted protocol adapter config && hal.mutexTaken) = true then some config
      else none
  | .rxTurn _ => none

/-- The last configuration that a list of calls writes. -/
def lastWritten (adapter : FhssAudioAdapter) (calls : List OtaModeCall) :
    Option OtaFhssConfigFields :=
  (calls.filterMap (OtaModeCall.written protocol adapter)).getLast?

/-- Voice is intact: the voice part of the configuration is the one from before, and the service
is in a fresh RX session of it. -/
structure VoiceIntact (before : VoiceConfig) (service : FhssService) : Prop where
  voice_eq : service.config.voice = before
  fresh : FreshRxSession service

/-! ## The configuration during OTA -/

/-- The flags of the adapter that the calls leave alone. -/
structure SameMode (adapter adapter' : FhssAudioAdapter) : Prop where
  initialized_eq : adapter'.initialized = adapter.initialized
  otaActive_eq : adapter'.otaActive = adapter.otaActive

section

variable {adapter : FhssAudioAdapter}

/-- A role change to RX leaves the voice part of the configuration alone. -/
lemma voice_fhssServiceSetRole {service : FhssService} (hinit : service.initialized = true)
    (hal : FhssRoleHal) :
    (fhssServiceSetRole service .rx hal).1.config.voice = service.config.voice ∧
      (fhssServiceSetRole service .rx hal).1.initialized = true := by
  rcases fhssServiceSetRole_rx_cases hinit hal with ⟨-, -, hset⟩ |
    ⟨-, service', hinit', hconfig, ⟨hset, -⟩ | ⟨hset, -⟩⟩
  · rw [hset]
    exact ⟨rfl, hinit⟩
  · rw [hset]
    refine ⟨?_, hinit'⟩
    dsimp only
    rw [hconfig]
    rfl
  · rw [hset]
    refine ⟨?_, hinit'⟩
    dsimp only
    rw [hconfig]
    rfl

/-- A call leaves the mode alone, and writes the voice part of the configuration it carries, if it
passes the check. -/
lemma otaModeStep_spec (hinit : adapter.service.initialized = true) (call : OtaModeCall) :
    SameMode adapter (otaModeStep protocol deriveSessionHopSeed adapter call).1 ∧
      (otaModeStep protocol deriveSessionHopSeed adapter call).1.service.initialized = true ∧
      (otaModeStep protocol deriveSessionHopSeed adapter call).1.service.config.voice =
        (match call.written protocol adapter with
        | none => adapter.service.config.voice
        | some config => config.voice) := by
  cases call with
  | activate config hal =>
    unfold otaModeStep OtaModeCall.written
    dsimp only
    rcases @fhssAudioAdapterActivateOtaFhss_cases protocol deriveSessionHopSeed adapter config
      hal with ⟨hsame, -, hrejected⟩ | ⟨haccepted, hmutex, service, ok, active, hset,
        hactivate, -⟩
    · have hcond : ¬ (activationIsAccepted protocol adapter config && hal.mutexTaken) = true := by
        rcases hrejected with h | h <;> simp [h]
      rw [hsame, if_neg hcond]
      exact ⟨⟨rfl, rfl⟩, hinit, rfl⟩
    · have hcond : (activationIsAccepted protocol adapter config && hal.mutexTaken) = true := by
        simp [haccepted, hmutex]
      have hinit' : ({ adapter.service with
          config := adapter.service.config.withOta deriveSessionHopSeed config } :
            FhssService).initialized = true := hinit
      have hvoice := voice_fhssServiceSetRole hinit' hal.role
      rw [hset] at hvoice
      rw [hactivate, if_pos hcond]
      exact ⟨⟨rfl, rfl⟩, hvoice.2, hvoice.1⟩
  | rxTurn turn =>
    unfold otaModeStep OtaModeCall.written
    dsimp only
    split_ifs
    · obtain ⟨hconfig, -, hinit'⟩ :=
        sameService_rxTaskTurn protocol (some deriveSessionHopSeed) adapter.service turn
      refine ⟨⟨rfl, rfl⟩, hinit'.trans hinit, ?_⟩
      dsimp only
      rw [hconfig]
    · exact ⟨⟨rfl, rfl⟩, hinit, rfl⟩

/-- A configuration is checked against the mode of the adapter only. -/
lemma written_congr {adapter' : FhssAudioAdapter} (h : SameMode adapter adapter')
    (call : OtaModeCall) : call.written protocol adapter' = call.written protocol adapter := by
  unfold OtaModeCall.written activationIsAccepted
  rw [h.initialized_eq, h.otaActive_eq]

/-- After any calls the voice part of the configuration is the last one written. -/
lemma voice_finalState (hinit : adapter.service.initialized = true) (calls : List OtaModeCall) :
    SameMode adapter (finalState (otaModeStep protocol deriveSessionHopSeed) adapter calls) ∧
      (finalState (otaModeStep protocol deriveSessionHopSeed) adapter
        calls).service.initialized = true ∧
      (finalState (otaModeStep protocol deriveSessionHopSeed) adapter
        calls).service.config.voice =
        (match lastWritten protocol adapter calls with
        | none => adapter.service.config.voice
        | some config => config.voice) := by
  unfold lastWritten
  induction calls using List.reverseRecOn with
  | nil => exact ⟨⟨rfl, rfl⟩, hinit, rfl⟩
  | append_singleton calls call ih =>
    obtain ⟨hmode, hinit', hvoice⟩ := ih
    obtain ⟨hmode', hinit'', hvoice'⟩ :=
      otaModeStep_spec protocol deriveSessionHopSeed hinit' call
    rw [finalState_append]
    refine ⟨⟨hmode'.initialized_eq.trans hmode.initialized_eq,
      hmode'.otaActive_eq.trans hmode.otaActive_eq⟩, hinit'', ?_⟩
    rw [written_congr protocol hmode] at hvoice'
    rw [List.filterMap_append]
    change (otaModeStep protocol deriveSessionHopSeed
      (finalState (otaModeStep protocol deriveSessionHopSeed) adapter calls)
      call).1.service.config.voice = _
    rw [hvoice']
    cases hwritten : call.written protocol adapter with
    | none => simpa [hwritten] using hvoice
    | some config => simp [hwritten]

/-- The begin of OTA leaves the voice part of the configuration alone. -/
lemma fhssAudioAdapterBeginOta_spec (h : VoiceMode adapter) (hal : BeginOtaHal) :
    (fhssAudioAdapterBeginOta adapter hal).1.initialized = true ∧
      (fhssAudioAdapterBeginOta adapter hal).1.service.initialized = true ∧
      (fhssAudioAdapterBeginOta adapter hal).1.service.config.voice =
        adapter.service.config.voice := by
  unfold fhssAudioAdapterBeginOta fhssServicePause
  rw [if_neg (by simp [h.initialized, h.receiving, h.voice])]
  by_cases hmutex : hal.mutexTaken = false
  · rw [if_pos hmutex]
    exact ⟨h.initialized, h.service_initialized, rfl⟩
  rw [if_neg hmutex, if_neg (by simp [h.service_initialized])]
  dsimp only
  split_ifs
  · have hinit : ({ adapter.service with
        taskRunning := false, fsm := (fhssFsmHandle adapter.service.fsm .stop).1 } :
          FhssService).initialized = true := h.service_initialized
    obtain ⟨hvoice, hinit⟩ := voice_fhssServiceSetRole hinit hal.fallback
    exact ⟨h.initialized, hinit, hvoice⟩
  · exact ⟨h.initialized, h.service_initialized, rfl⟩

/-- The end of OTA does nothing outside OTA mode and while an RX task runs, and begins a fresh
session otherwise. -/
lemma fhssAudioAdapterEndOta_cases (hinitialized : adapter.initialized = true)
    (hinit : adapter.service.initialized = true) {hal : OtaRoleHal} {final : FhssAudioAdapter}
    (hend : fhssAudioAdapterEndOta adapter hal = (final, true)) :
    (final.service = adapter.service ∧
      ¬ (adapter.otaActive = true ∧
        ¬ (adapter.service.config.role = .rx ∧ adapter.service.taskRunning = true))) ∨
    ((adapter.otaActive = true ∧
        ¬ (adapter.service.config.role = .rx ∧ adapter.service.taskRunning = true)) ∧
      FreshRxSession final.service ∧
      final.service.config.voice = adapter.service.config.voice) := by
  unfold fhssAudioAdapterEndOta at hend
  by_cases hmode : adapter.otaActive = false
  · rw [if_pos (.inr hmode)] at hend
    obtain ⟨rfl, -⟩ := Prod.mk.inj hend
    exact .inl ⟨rfl, by simp [hmode]⟩
  rw [if_neg (by simp [hinitialized, hmode])] at hend
  by_cases hmutex : hal.mutexTaken = false
  · rw [if_pos hmutex] at hend
    cases (Prod.mk.inj hend).2
  rw [if_neg hmutex] at hend
  dsimp only at hend
  obtain ⟨hfinal, hok⟩ := Prod.mk.inj hend
  obtain ⟨hvoice, -⟩ := voice_fhssServiceSetRole hinit hal.role
  subst hfinal
  rcases fhssServiceSetRole_rx_cases hinit hal.role with ⟨hrole, hrunning, hset⟩ |
    ⟨hnot, service', -, -, ⟨hset, -⟩ | ⟨hset, hfresh, -⟩⟩
  · rw [hset]
    exact .inl ⟨rfl, fun hnot => hnot.2 ⟨hrole, hrunning⟩⟩
  · rw [hset] at hok
    cases hok
  · refine .inr ⟨⟨by simpa using hmode, hnot⟩, ?_, hvoice⟩
    rw [hset]
    exact hfresh

/-- **Voice after OTA.**  After a run of OTA mode that ends successfully, voice is intact exactly
when the last configuration written carries the voice values, if any was written, and the end of
OTA either finds OTA mode without a running RX task or a session that is still fresh. -/
theorem fhssAudioAdapterEndOta_voiceIntact_iff (hvoice : VoiceMode adapter)
    (beginHal : BeginOtaHal) (calls : List OtaModeCall) (endHal : OtaRoleHal)
    {final : FhssAudioAdapter}
    (hend : fhssAudioAdapterEndOta (finalState (otaModeStep protocol deriveSessionHopSeed)
      (fhssAudioAdapterBeginOta adapter beginHal).1 calls) endHal = (final, true)) :
    let begun := (fhssAudioAdapterBeginOta adapter beginHal).1
    let reached := finalState (otaModeStep protocol deriveSessionHopSeed) begun calls
    VoiceIntact adapter.service.config.voice final.service ↔
      (∀ config, lastWritten protocol begun calls = some config →
        config.voice = adapter.service.config.voice) ∧
      ((reached.otaActive = true ∧
          ¬ (reached.service.config.role = .rx ∧ reached.service.taskRunning = true)) ∨
        FreshRxSession reached.service) := by
  intro begun reached
  obtain ⟨hinitialized, hinit, hbegun⟩ := fhssAudioAdapterBeginOta_spec hvoice beginHal
  obtain ⟨hmode, hinit', hreached⟩ :=
    voice_finalState protocol deriveSessionHopSeed hinit calls
  have hwritten : reached.service.config.voice = adapter.service.config.voice ↔
      ∀ config, lastWritten protocol begun calls = some config →
        config.voice = adapter.service.config.voice := by
    change reached.service.config.voice = _ at hreached
    rw [hreached]
    change (match lastWritten protocol begun calls with
      | none => begun.service.config.voice
      | some config => config.voice) = _ ↔ _
    cases lastWritten protocol begun calls with
    | none => simpa using hbegun
    | some config => simp
  rw [← hwritten]
  rcases fhssAudioAdapterEndOta_cases (hmode.initialized_eq.trans hinitialized) hinit' hend with
    ⟨hsame, hnot⟩ | ⟨hstopped, hfresh, hsame⟩
  · -- The service is as the end of OTA found it.
    constructor
    · rintro ⟨hvoiceEq, hfresh⟩
      rw [hsame] at hvoiceEq hfresh
      exact ⟨hvoiceEq, .inr hfresh⟩
    · rintro ⟨hvoiceEq, hstate⟩
      have hfresh := hstate.resolve_left hnot
      exact ⟨by rw [hsame]; exact hvoiceEq, by rw [hsame]; exact hfresh⟩
  · -- The end of OTA has begun a session of the configuration it found.
    constructor
    · rintro ⟨hvoiceEq, -⟩
      exact ⟨hsame.symm.trans hvoiceEq, .inl hstopped⟩
    · rintro ⟨hvoiceEq, -⟩
      exact ⟨hsame.trans hvoiceEq, hfresh⟩

end

/-! ## An abandoned OTA -/

/-- The adapter in voice mode, on the sample service. -/
def sampleAdapter : FhssAudioAdapter := ⟨true, false, false, false, [], sampleService⟩

/-- A stand-in for the secret derivation of hop seeds. -/
def sampleDerive (publicSeed : UInt32) : UInt32 := publicSeed ^^^ 0x4B434349

/-- An OTA hop configuration of generation 8, with shorter slots. -/
def sampleOtaFields : OtaFhssConfigFields :=
  ⟨1, 2, 8, 0x5678, 1, 1, 1, 3, 0, 200000, 5000⟩

/-- The radio and the operating system succeed throughout. -/
def OtaRoleHal.succeeding : OtaRoleHal := ⟨true, ⟨true, true⟩⟩

def BeginOtaHal.succeeding : BeginOtaHal := ⟨true, true, true, true, ⟨true, true⟩⟩

/-- The radio fails in the role change. -/
def OtaRoleHal.failing : OtaRoleHal := ⟨true, ⟨false, true⟩⟩

lemma voiceMode_sampleAdapter : VoiceMode sampleAdapter := ⟨rfl, rfl, rfl, rfl⟩

/-- OTA without an activation leaves voice intact. -/
theorem fhssAudioAdapterEndOta_voiceIntact_without_activation :
    VoiceIntact sampleServiceConfig.voice
      (fhssAudioAdapterEndOta (fhssAudioAdapterBeginOta sampleAdapter .succeeding).1
        .succeeding).1.service :=
  (fhssAudioAdapterEndOta_voiceIntact_iff plainProtocol sampleDerive voiceMode_sampleAdapter
    .succeeding [] .succeeding (by rfl)).mpr ⟨by simp [lastWritten], .inl (by decide +kernel)⟩

/-- OTA with one activation, answered so, and its end. -/
def sampleOtaSession (hal : OtaRoleHal) : FhssAudioAdapter × Bool :=
  fhssAudioAdapterEndOta
    (finalState (otaModeStep plainProtocol sampleDerive)
      (fhssAudioAdapterBeginOta sampleAdapter .succeeding).1
      [.activate sampleOtaFields hal]) .succeeding

/-- A service with the voice values of the sample activation is not as voice left it. -/
lemma not_voiceIntact_of_voice_eq {service : FhssService}
    (h : service.config.voice = sampleOtaFields.voice) :
    ¬ VoiceIntact sampleAdapter.service.config.voice service := by
  intro hintact
  have hne : sampleOtaFields.voice ≠ sampleAdapter.service.config.voice := by decide +kernel
  exact hne (h.symm.trans hintact.voice_eq)

/-- One activation, and the end of OTA succeeds: the service keeps the OTA configuration, whether
the activation succeeded, so that its session simply goes on, or failed at the radio. -/
theorem fhssAudioAdapterEndOta_keeps_ota_config :
    let gone := sampleOtaSession .succeeding
    let failed := sampleOtaSession .failing
    (gone.2 = true ∧ gone.1.service.config.voice = sampleOtaFields.voice ∧
      ¬ VoiceIntact sampleAdapter.service.config.voice gone.1.service) ∧
    (failed.2 = true ∧ failed.1.service.config.voice = sampleOtaFields.voice ∧
      ¬ VoiceIntact sampleAdapter.service.config.voice failed.1.service) := by
  intro gone failed
  have hgone : gone.1.service.config.voice = sampleOtaFields.voice := by decide +kernel
  have hfailed : failed.1.service.config.voice = sampleOtaFields.voice := by decide +kernel
  exact ⟨⟨by decide +kernel, hgone, not_voiceIntact_of_voice_eq hgone⟩,
    ⟨by decide +kernel, hfailed, not_voiceIntact_of_voice_eq hfailed⟩⟩

end FhssOtaRadio
