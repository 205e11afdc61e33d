import FhssOtaRadio.AudioAdapter.OtaMode

/-!
# Voice sessions of the audio adapter (`fhss_audio_adapter.c`)

How the adapter comes up, with the active hop configuration if NVS holds one and the factory
values otherwise, and how a talkspurt begins and ends.  Of the frames sent only the role changes
around them are modelled.
-/

namespace FhssOtaRadio

/-- `OTA_FHSS_DEFAULT_SEED`. -/
def otaFhssDefaultSeed : UInt32 := 0x46485353

/-- The service configuration of `fhss_audio_adapter_init`; `active` is the configuration loaded
from NVS, if it has one that fits. -/
def voiceServiceConfig (active : Option OtaFhssConfigFields) : FhssServiceConfig where
  role := .rx
  channels :=
    match active with
    | some active => hopChannels active
    | none => (List.range fhssAudioHopChannelCount.toNat).map fun i => 1 + UInt8.ofNat i
  hopSeed := (active.map OtaFhssConfigFields.seed).getD otaFhssDefaultSeed
  generation := (active.map OtaFhssConfigFields.generation).getD 0
  publicSeed := 0
  reservedChannel := (active.map OtaFhssConfigFields.reservedChannel).getD 0
  slotDurationUs := (active.map OtaFhssConfigFields.slotDurationUs).getD 300000
  channelSwitchGuardUs := (active.map OtaFhssConfigFields.channelSwitchGuardUs).getD 5000
  timingWindowMarginUs := 20000
  syncOffsetUs := 0
  correctionDeadbandUs := 500
  correctionFastThresholdUs := 2000
  correctionSlowDivisor := 8
  correctionFastDivisor := 2
  correctionMaxStepUs := 500
  searchDwellMs := 400
  receiveTimeoutMs := 80
  acquireCount := 3
  lossCount := 5
  recoveryEntryMissCount := 2

/-- A service of zero bytes. -/
def FhssService.zero : FhssService where
  config := ⟨.tx, [], 0, 0, 0, 0, 0, 0, 0, 0, 0, 0, 0, 0, 0, 0, 0, 0, 0, 0⟩
  controller := .zero
  fsm := fhssFsmInit
  taskRunning := false
  currentChannel := 0
  consecutiveSyncMisses := 0
  lastDerivedPublicSeed := 0
  haveDerivedPublicSeed := false
  recoveryProbeIndex := 0
  initialized := false

/-- The adapter of zero bytes, as it is before `fhss_audio_adapter_init`. -/
def FhssAudioAdapter.zero : FhssAudioAdapter := ⟨false, false, false, false, [], .zero⟩

/-- What the radio and the operating system answer while the adapter comes up. -/
structure FhssAudioAdapterInitHal where
  /-- The mutex and the queue are created. -/
  rtosObjects : Bool
  /-- The code of `nvs_flash_init`. -/
  flashInit : EspErr
  nvs : NvsHal
  service : FhssServiceInitHal
  /-- `xTaskCreate` succeeds. -/
  taskCreated : Bool

/-- NVS holds the hop configuration that the device boots with. -/
def sampleStore : FhssConfigStore :=
  ⟨none, some (storedBlob plainProtocol
    ⟨1, 3, 7, 0x1234, 1, 1, 1, 3, 0, 300000, 5000⟩)⟩

/-- The radio and the operating system answer while an adapter comes up. -/
def FhssAudioAdapterInitHal.succeeding : FhssAudioAdapterInitHal :=
  ⟨true, .ok, .succeeding, ⟨true, some (0, 20), true, true⟩, true⟩

variable (protocol : OtaProtocol) (deriveSessionHopSeed : UInt32 → UInt32)

/-- The active configuration that `fhss_audio_adapter_init` uses. -/
def activeConfig (store : FhssConfigStore) (hal : FhssAudioAdapterInitHal) :
    Option OtaFhssConfigFields :=
  if fhssConfigStoreInit hal.flashInit ≠ .ok then none
  else
    match fhssConfigStoreLoadActive protocol store hal.nvs with
    | .error _ => none
    | .ok active => if active.channelCount ≤ fhssAudioHopChannelCount then some active else none

/-- `fhss_audio_adapter_init`, with both callbacks set. -/
def fhssAudioAdapterInit (store : FhssConfigStore) (hal : FhssAudioAdapterInitHal) :
    FhssAudioAdapter × Bool :=
  if hal.rtosObjects = false then (.zero, false)
  else
    match fhssServiceInit (voiceServiceConfig (activeConfig protocol store hal)) hal.service with
    | none => (.zero, false)
    | some service =>
        match fhssServiceStart service hal.taskCreated with
        | (service, false) => ({ FhssAudioAdapter.zero with service := service }, false)
        | (service, true) =>
            ({ FhssAudioAdapter.zero with service := service, initialized := true }, true)

/-- An adapter that comes up is in voice mode, in a fresh RX session of its service. -/
lemma fhssAudioAdapterInit_started {store : FhssConfigStore} {hal : FhssAudioAdapterInitHal}
    {adapter : FhssAudioAdapter}
    (h : fhssAudioAdapterInit protocol store hal = (adapter, true)) :
    ∃ service service',
      fhssServiceInit (voiceServiceConfig (activeConfig protocol store hal)) hal.service =
        some service ∧
      fhssServiceStart service hal.taskCreated = (service', true) ∧
      service'.initialized = true ∧ FreshRxSession service' ∧
      adapter = { FhssAudioAdapter.zero with service := service', initialized := true } := by
  unfold fhssAudioAdapterInit at h
  by_cases hobjects : hal.rtosObjects = false
  · rw [if_pos hobjects] at h
    cases h
  rw [if_neg hobjects] at h
  cases hservice : fhssServiceInit (voiceServiceConfig (activeConfig protocol store hal))
      hal.service with
  | none =>
    rw [hservice] at h
    cases h
  | some service =>
    rw [hservice] at h
    dsimp only at h
    have hready := (fhssServiceInit_accepted hservice).2.2.1
    have hkept := (sameDerived_fhssServiceStart service hal.taskCreated).1
    cases hstarted : fhssServiceStart service hal.taskCreated with
    | mk service' ok =>
      rw [hstarted] at h hkept
      cases ok with
      | false => cases h
      | true =>
        obtain ⟨rfl, -⟩ := Prod.mk.inj h
        exact ⟨service, service', rfl, hstarted, hkept.trans hready,
          (fhssServiceStart_fresh hservice rfl hstarted).1, rfl⟩

/-- `fhss_audio_adapter_begin_tx`; `publicSeed` is the random number drawn. -/
def fhssAudioAdapterBeginTx (adapter : FhssAudioAdapter) (publicSeed : UInt32)
    (hal : FhssRoleHal) : FhssAudioAdapter × Bool :=
  if adapter.initialized = false ∨ adapter.txActive = true ∨ adapter.otaActive = true then
    (adapter, false)
  else
    let config := { adapter.service.config with
      publicSeed := publicSeed, hopSeed := deriveSessionHopSeed publicSeed }
    match fhssServiceSetRole { adapter.service with config := config } .tx hal with
    | (service, false) => ({ adapter with service := service }, false)
    | (service, true) => ({ adapter with service := service, txActive := true }, true)

/-- `fhss_audio_adapter_end_tx`; its result, which also tells whether everything was sent, is only
logged. -/
def fhssAudioAdapterEndTx (adapter : FhssAudioAdapter) (hal : FhssRoleHal) : FhssAudioAdapter :=
  if adapter.initialized = false ∨ adapter.txActive = false then adapter
  else
    { adapter with
      service := (fhssServiceSetRole adapter.service .rx hal).1, txActive := false }

/-! ## An activation in two steps -/

/-- `fhss_audio_adapter_activate_ota_fhss` from the point where it asks for the radio mutex. -/
def fhssAudioAdapterEnterOtaFhss (adapter : FhssAudioAdapter) (config : OtaFhssConfigFields)
    (hal : OtaRoleHal) : FhssAudioAdapter × EspErr :=
  if hal.mutexTaken = false then (adapter, .timeout)
  else
    let adapter := { adapter with
      service := { adapter.service with
        config := adapter.service.config.withOta deriveSessionHopSeed config }
      otaRxQueue := []
      otaFhssActive := true }
    match fhssServiceSetRole adapter.service .rx hal.role with
    | (service, true) => ({ adapter with service := service }, .ok)
    | (service, false) => ({ adapter with service := service, otaFhssActive := false }, .fail)

end FhssOtaRadio
