import FhssOtaRadio.ConfigStore
import FhssOtaRadio.FhssService.RxTask

/-!
# OTA mode of the audio adapter (`fhss_audio_adapter.c`)

The adapter shares the radio between voice and OTA.  OTA begins on the fixed channel with the
service paused; an activation writes the OTA hop configuration into the service configuration and
asks for the RX role; the end of OTA asks for the RX role once more.
-/

namespace FhssOtaRadio

/-- `FHSS_AUDIO_HOP_CHANNEL_COUNT`. -/
def fhssAudioHopChannelCount : UInt8 := 100

/-- `fhss_audio_adapter_state_t`, as far as OTA mode reads it. -/
structure FhssAudioAdapter where
  initialized : Bool
  txActive : Bool
  otaActive : Bool
  otaFhssActive : Bool
  otaRxQueue : List Bytes
  service : FhssService
  deriving DecidableEq

variable (protocol : OtaProtocol) (deriveSessionHopSeed : UInt32 → UInt32)

/-- What the radio and the operating system answer while OTA begins. -/
structure BeginOtaHal where
  /-- `xSemaphoreTake` returns `pdTRUE`. -/
  mutexTaken : Bool
  /-- `rf_transport_recover_433mhz` succeeds in `fhss_service_pause`. -/
  recovered : Bool
  /-- `rf_transport_set_channel` succeeds. -/
  channelSet : Bool
  /-- `rf_transport_start_receive` succeeds. -/
  receiveStarted : Bool
  /-- The answers to the role change of the error path. -/
  fallback : FhssRoleHal
  deriving DecidableEq

/-- `fhss_audio_adapter_begin_ota`. -/
def fhssAudioAdapterBeginOta (adapter : FhssAudioAdapter) (hal : BeginOtaHal) :
    FhssAudioAdapter × Bool :=
  if adapter.initialized = false ∨ adapter.txActive = true ∨ adapter.otaActive = true then
    (adapter, false)
  else if hal.mutexTaken = false then (adapter, false)
  else
    let (service, paused) := fhssServicePause adapter.service hal.recovered
    let ok := paused && hal.channelSet && hal.receiveStarted
    let adapter := { adapter with
      service := service, otaActive := ok, otaFhssActive := false, otaRxQueue := [] }
    if ok = false then
      ({ adapter with
        service := (fhssServiceSetRole adapter.service .rx hal.fallback).1 }, false)
    else (adapter, true)

/-- The check of `fhss_audio_adapter_activate_ota_fhss`. -/
def activationIsAccepted (adapter : FhssAudioAdapter) (config : OtaFhssConfigFields) : Bool :=
  adapter.initialized && adapter.otaActive && protocol.fhssConfigIsValid config &&
    config.firstChannel == 1 && config.rendezvousChannel == 1 && config.reservedChannel == 0 &&
    decide (config.channelCount ≤ fhssAudioHopChannelCount)

/-- The channel table that `fhss_audio_adapter_activate_ota_fhss` writes. -/
def hopChannels (config : OtaFhssConfigFields) : List UInt8 :=
  (List.range config.channelCount.toNat).map fun i => config.firstChannel + UInt8.ofNat i

/-- The service configuration with an OTA hop configuration written into it. -/
def FhssServiceConfig.withOta (serviceConfig : FhssServiceConfig) (config : OtaFhssConfigFields) :
    FhssServiceConfig :=
  { serviceConfig with
    channels := hopChannels config
    hopSeed := deriveSessionHopSeed config.seed
    publicSeed := config.seed
    generation := config.generation
    reservedChannel := config.reservedChannel
    slotDurationUs := config.slotDurationUs
    channelSwitchGuardUs := config.channelSwitchGuardUs }

/-- What the radio and the operating system answer to an activation and to the end of OTA. -/
structure OtaRoleHal where
  /-- `xSemaphoreTake` returns `pdTRUE`. -/
  mutexTaken : Bool
  /-- The answers to the role change. -/
  role : FhssRoleHal
  deriving DecidableEq

/-- `fhss_audio_adapter_activate_ota_fhss`. -/
def fhssAudioAdapterActivateOtaFhss (adapter : FhssAudioAdapter) (config : OtaFhssConfigFields)
    (hal : OtaRoleHal) : FhssAudioAdapter × EspErr :=
  if activationIsAccepted protocol adapter config = false then (adapter, .invalidArg)
  else if hal.mutexTaken = false then (adapter, .timeout)
  else
    let adapter := { adapter with
      service := { adapter.service with
        config := adapter.service.config.withOta deriveSessionHopSeed config }
      otaRxQueue := []
      otaFhssActive := true }
    match fhssServiceSetRole adapter.service .rx hal.role with
    | (service, true) => ({ adapter with service := service }, .ok)
    | (service, false) => ({ adapter with service := service, otaFhssActive := false }, .fail)

/-- `fhss_audio_adapter_get_ota_fhss_generation`. -/
def fhssAudioAdapterGetOtaFhssGeneration (adapter : FhssAudioAdapter) : Option UInt32 :=
  if adapter.otaFhssActive = false then none else some adapter.service.config.generation

/-- `fhss_audio_adapter_end_ota`. -/
def fhssAudioAdapterEndOta (adapter : FhssAudioAdapter) (hal : OtaRoleHal) :
    FhssAudioAdapter × Bool :=
  if adapter.initialized = false ∨ adapter.otaActive = false then (adapter, true)
  else if hal.mutexTaken = false then (adapter, false)
  else
    let (service, ok) := fhssServiceSetRole adapter.service .rx hal.role
    ({ adapter with otaActive := false, otaFhssActive := false, service := service }, ok)

/-! ## Activations -/

section

variable {adapter : FhssAudioAdapter}

/-- An activation is rejected before it changes anything, or it has written the configuration
when it asks for the RX role. -/
lemma fhssAudioAdapterActivateOtaFhss_cases (config : OtaFhssConfigFields) (hal : OtaRoleHal) :
    ((fhssAudioAdapterActivateOtaFhss protocol deriveSessionHopSeed adapter config hal).1 =
        adapter ∧
      (fhssAudioAdapterActivateOtaFhss protocol deriveSessionHopSeed adapter config hal).2 ≠ .ok ∧
      (activationIsAccepted protocol adapter config = false ∨ hal.mutexTaken = false)) ∨
    (activationIsAccepted protocol adapter config = true ∧ hal.mutexTaken = true ∧
      ∃ service ok active, fhssServiceSetRole { adapter.service with
          config := adapter.service.config.withOta deriveSessionHopSeed config } .rx hal.role =
            (service, ok) ∧
        fhssAudioAdapterActivateOtaFhss protocol deriveSessionHopSeed adapter config hal =
          ({ adapter with service := service, otaRxQueue := [], otaFhssActive := active },
            if ok = true then .ok else .fail) ∧ active = ok) := by
  unfold fhssAudioAdapterActivateOtaFhss
  by_cases haccepted : activationIsAccepted protocol adapter config = false
  · rw [if_pos haccepted]
    exact .inl ⟨rfl, by simp, .inl haccepted⟩
  rw [if_neg haccepted]
  by_cases hmutex : hal.mutexTaken = false
  · rw [if_pos hmutex]
    exact .inl ⟨rfl, by simp, .inr hmutex⟩
  rw [if_neg hmutex]
  refine .inr ⟨by simpa using haccepted, by simpa using hmutex, ?_⟩
  dsimp only
  cases hset : fhssServiceSetRole { adapter.service with
      config := adapter.service.config.withOta deriveSessionHopSeed config } .rx hal.role with
  | mk service ok => cases ok <;> exact ⟨service, _, _, rfl, rfl, rfl⟩

end

end FhssOtaRadio
