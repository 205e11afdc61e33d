import FhssOtaRadio.FhssCore.SyncController

/-!
# The FHSS service (`fhss_fsm.c`, `fhss_service.c`)

The service owns the radio.  It holds its configuration and the sync controller built from it:
`reset_controller` rebuilds the controller, and a role change is the only way to a new session.
The task of the service is a flag here: `fhss_service_pause` and `fhss_service_set_role` wait
until the running task has left its loop.
-/

namespace FhssOtaRadio

/-! ## The state machine -/

/-- `fhss_fsm_state_t`. -/
inductive FhssFsmState where
  | stopped
  | searching
  | synchronizing
  | tracking
  | recovery
  | transmitting
  deriving DecidableEq, Repr

/-- `fhss_fsm_event_t`. -/
inductive FhssFsmEvent where
  | startRx
  | startTx
  | firstSync
  | syncAcquired
  | syncDegraded
  | syncRecovered
  | syncLost
  | stop
  deriving DecidableEq, Repr

/-- `fhss_fsm_init`. -/
def fhssFsmInit : FhssFsmState := .stopped

/-- `fhss_fsm_handle`: the state afterwards, and whether the event was handled. -/
def fhssFsmHandle (state : FhssFsmState) (event : FhssFsmEvent) : FhssFsmState × Bool :=
  match event, state with
  | .stop, _ => (.stopped, true)
  | .startRx, .stopped => (.searching, true)
  | .startTx, .stopped => (.transmitting, true)
  | .firstSync, .searching => (.synchronizing, true)
  | .syncAcquired, .synchronizing => (.tracking, true)
  | .syncLost, .synchronizing => (.searching, true)
  | .syncDegraded, .tracking => (.recovery, true)
  | .syncLost, .tracking => (.searching, true)
  | .syncRecovered, .recovery => (.tracking, true)
  | .syncLost, .recovery => (.searching, true)
  | _, state => (state, false)

/-! ## The service -/

/-- `fhss_service_role_t`. -/
inductive FhssServiceRole where
  | tx
  | rx
  deriving DecidableEq, Repr

/-- `fhss_service_config_t` without the radio pins and the callbacks. -/
structure FhssServiceConfig where
  role : FhssServiceRole
  channels : List UInt8
  hopSeed : UInt32
  generation : UInt32
  publicSeed : UInt32
  reservedChannel : UInt8
  slotDurationUs : UInt32
  channelSwitchGuardUs : UInt32
  timingWindowMarginUs : UInt32
  syncOffsetUs : UInt32
  correctionDeadbandUs : UInt32
  correctionFastThresholdUs : UInt32
  correctionSlowDivisor : UInt32
  correctionFastDivisor : UInt32
  correctionMaxStepUs : UInt32
  searchDwellMs : UInt32
  receiveTimeoutMs : UInt32
  acquireCount : UInt32
  lossCount : UInt32
  recoveryEntryMissCount : UInt32
  deriving DecidableEq

/-- `fhss_service_t`; `taskRunning` says that `task_handle` is not `NULL`. -/
structure FhssService where
  config : FhssServiceConfig
  controller : FhssSyncController
  fsm : FhssFsmState
  taskRunning : Bool
  currentChannel : UInt8
  consecutiveSyncMisses : UInt32
  lastDerivedPublicSeed : UInt32
  haveDerivedPublicSeed : Bool
  recoveryProbeIndex : UInt8
  initialized : Bool
  deriving DecidableEq

/-- The controller configuration that `reset_controller` makes of a service configuration. -/
def FhssServiceConfig.controllerConfig (config : FhssServiceConfig) : FhssSyncControllerConfig where
  core :=
    { channels := config.channels
      hopSeed := config.hopSeed
      generation := config.generation
      reservedChannel := config.reservedChannel
      timing := ⟨config.timingWindowMarginUs, config.timingWindowMarginUs⟩
      sync := ⟨config.acquireCount, config.lossCount⟩ }
  scheduler := ⟨config.slotDurationUs, config.channelSwitchGuardUs⟩
  syncOffsetUs := config.syncOffsetUs
  correctionDeadbandUs := config.correctionDeadbandUs
  correctionFastThresholdUs := config.correctionFastThresholdUs
  correctionSlowDivisor := config.correctionSlowDivisor
  correctionFastDivisor := config.correctionFastDivisor
  correctionMaxStepUs := config.correctionMaxStepUs

/-- `reset_controller`: the service afterwards, and whether the controller was built. -/
def resetController (service : FhssService) : FhssService × Bool :=
  match fhssSyncControllerInit service.config.controllerConfig with
  | .error _ => (service, false)
  | .ok controller =>
      ({ service with controller := controller, haveDerivedPublicSeed := false }, true)

/-- `FHSS_DIAGNOSTICS_MAX_CHANNELS`. -/
def fhssDiagnosticsMaxChannels : ℕ := 160

/-- What the radio and the operating system answer while a service is initialized. -/
structure FhssServiceInitHal where
  /-- `rf_transport_init` succeeds. -/
  radioInit : Bool
  /-- `rf_transport_read_chip_info`: `PARTNUM` and `VERSION`. -/
  chipInfo : Option (UInt8 × UInt8)
  /-- `rf_transport_configure_433mhz` succeeds. -/
  configure : Bool
  /-- The mutex and the queue are created. -/
  rtosObjects : Bool

/-- `fhss_service_init`: the service, if the configuration and the radio are accepted. -/
def fhssServiceInit (config : FhssServiceConfig) (hal : FhssServiceInitHal) : Option FhssService :=
  if config.channels.length = 0 ∨ config.slotDurationUs = 0 ∨ config.searchDwellMs = 0 ∨
      config.receiveTimeoutMs = 0 ∨ config.correctionSlowDivisor = 0 ∨
      config.correctionFastDivisor = 0 ∨ config.correctionMaxStepUs = 0 ∨
      config.correctionFastThresholdUs < config.correctionDeadbandUs ∨
      config.recoveryEntryMissCount = 0 ∨
      config.lossCount ≤ config.recoveryEntryMissCount then none
  else if fhssDiagnosticsMaxChannels < config.channels.length then none
  else if hal.radioInit = false then none
  else
    match hal.chipInfo with
    | none => none
    | some (partnum, version) =>
        if partnum ≠ 0 ∨ version = 0xFF then none
        else if hal.configure = false then none
        else
          let service : FhssService :=
            ⟨config, .zero, fhssFsmInit, false, 0, 0, 0, false, 0, false⟩
          match resetController service with
          | (_, false) => none
          | (service, true) =>
              if hal.rtosObjects = false then none
              else some { service with initialized := true }

/-- `fhss_service_start`; `taskCreated` says that `xTaskCreate` succeeds. -/
def fhssServiceStart (service : FhssService) (taskCreated : Bool) : FhssService × Bool :=
  if service.initialized = false ∨ service.taskRunning = true then (service, false)
  else
    let event := if service.config.role = .tx then FhssFsmEvent.startTx else .startRx
    let service := { service with fsm := (fhssFsmHandle service.fsm event).1 }
    if taskCreated = false then
      ({ service with fsm := (fhssFsmHandle service.fsm .stop).1 }, false)
    else ({ service with taskRunning := true }, true)

/-- `fhss_service_pause`; `recovered` says that `rf_transport_recover_433mhz` succeeds. -/
def fhssServicePause (service : FhssService) (recovered : Bool) : FhssService × Bool :=
  if service.initialized = false then (service, false)
  else
    let service := { service with
      taskRunning := false
      fsm := (fhssFsmHandle service.fsm .stop).1 }
    (service, recovered)

/-- What the radio and the operating system answer to a role change. -/
structure FhssRoleHal where
  /-- `rf_transport_recover_433mhz` succeeds. -/
  recovered : Bool
  /-- `xTaskCreate` succeeds. -/
  taskCreated : Bool
  deriving DecidableEq

/-- `fhss_service_set_role`. -/
def fhssServiceSetRole (service : FhssService) (role : FhssServiceRole) (hal : FhssRoleHal) :
    FhssService × Bool :=
  if service.initialized = false then (service, false)
  else if service.config.role = role ∧ service.taskRunning = true then (service, true)
  else
    let service := { service with taskRunning := false }
    if hal.recovered = false then (service, false)
    else
      match resetController { service with fsm := fhssFsmInit } with
      | (service, false) => (service, false)
      | (service, true) =>
          fhssServiceStart
            { service with
              config := { service.config with role := role }
              consecutiveSyncMisses := 0
              recoveryProbeIndex := 0 } hal.taskCreated

/-- `fhss_service_apply_public_seed`; `deriveHopSeed` is the callback of the configuration. -/
def fhssServiceApplyPublicSeed (deriveHopSeed : Option (UInt32 → UInt32)) (service : FhssService)
    (publicSeed : UInt32) : FhssService × Bool :=
  match deriveHopSeed with
  | none => (service, false)
  | some deriveHopSeed =>
      if service.haveDerivedPublicSeed = true ∧ publicSeed = service.lastDerivedPublicSeed then
        (service, true)
      else
        match fhssHopSequenceInitSeeded service.config.channels (deriveHopSeed publicSeed)
            service.config.reservedChannel with
        | .error _ => (service, false)
        | .ok hopSequence =>
            ({ service with
              controller := { service.controller with
                core := { service.controller.core with hopSequence := hopSequence } }
              lastDerivedPublicSeed := publicSeed
              haveDerivedPublicSeed := true }, true)

/-! ## Sessions -/

/-- A configuration a session can start from: the controller accepts it. -/
def FhssServiceConfig.Accepted (config : FhssServiceConfig) : Prop :=
  ∃ controller, fhssSyncControllerInit config.controllerConfig = .ok controller

/-- A fresh RX session: the task runs, searching, with a controller built from the
configuration. -/
structure FreshRxSession (service : FhssService) : Prop where
  role : service.config.role = .rx
  running : service.taskRunning = true
  searching : service.fsm = .searching
  built : fhssSyncControllerInit service.config.controllerConfig = .ok service.controller

section

variable {service : FhssService}

/-- In a fresh session nothing has been received: the tracker searches and the scheduler has no
reference. -/
lemma FreshRxSession.unsynchronized (h : FreshRxSession service) :
    service.controller.core.syncTracker.state = .searching ∧
      service.controller.scheduler.synchronized = false := by
  obtain ⟨-, hsync, hcore⟩ := controllerReady_init h.built
  exact ⟨(coreReady_init hcore).2.1, hsync⟩

/-- `reset_controller` fails, or builds the controller of the configuration. -/
lemma resetController_cases (service : FhssService) :
    (resetController service = (service, false) ∧ ¬ service.config.Accepted) ∨
    ∃ controller, fhssSyncControllerInit service.config.controllerConfig = .ok controller ∧
      resetController service =
        ({ service with controller := controller, haveDerivedPublicSeed := false }, true) := by
  unfold resetController FhssServiceConfig.Accepted
  cases hinit : fhssSyncControllerInit service.config.controllerConfig with
  | error status => exact .inl ⟨rfl, fun ⟨controller, h⟩ => by cases h⟩
  | ok controller => exact .inr ⟨controller, rfl, rfl⟩

/-- The configuration of an initialized service is accepted, and no task runs yet. -/
lemma fhssServiceInit_accepted {config : FhssServiceConfig} {hal : FhssServiceInitHal}
    (h : fhssServiceInit config hal = some service) :
    service.config = config ∧ config.Accepted ∧ service.initialized = true ∧
      service.taskRunning = false ∧ service.fsm = .stopped ∧
      fhssSyncControllerInit config.controllerConfig = .ok service.controller := by
  unfold fhssServiceInit at h
  -- The checks of the configuration, the channel count, the radio and the chip, one by one.
  split at h
  · cases h
  split at h
  · cases h
  split at h
  · cases h
  split at h
  · cases h
  split at h
  · cases h
  split at h
  · cases h
  dsimp only at h
  rcases resetController_cases ⟨config, .zero, fhssFsmInit, false, 0, 0, 0, false, 0, false⟩ with
    ⟨hreset, -⟩ | ⟨controller, hbuilt, hreset⟩
  · rw [hreset] at h
    cases h
  · rw [hreset] at h
    dsimp only at h
    split at h
    · cases h
    · obtain rfl := Option.some.inj h
      exact ⟨rfl, ⟨controller, hbuilt⟩, rfl, rfl, rfl, hbuilt⟩

/-- Starting the task initializes and derives nothing. -/
lemma sameDerived_fhssServiceStart (service : FhssService) (taskCreated : Bool) :
    (fhssServiceStart service taskCreated).1.initialized = service.initialized ∧
      (fhssServiceStart service taskCreated).1.haveDerivedPublicSeed =
        service.haveDerivedPublicSeed := by
  unfold fhssServiceStart
  by_cases hready : service.initialized = false ∨ service.taskRunning = true
  · rw [if_pos hready]
    exact ⟨rfl, rfl⟩
  · rw [if_neg hready]
    cases taskCreated <;> exact ⟨rfl, rfl⟩

/-- Starting a service that was initialized for RX begins a fresh session. -/
lemma fhssServiceStart_fresh {config : FhssServiceConfig} {hal : FhssServiceInitHal}
    (hinit : fhssServiceInit config hal = some service) (hrole : config.role = .rx)
    {taskCreated : Bool} {service' : FhssService}
    (hstart : fhssServiceStart service taskCreated = (service', true)) :
    FreshRxSession service' ∧ service'.config = config := by
  obtain ⟨hconfig, -, hinitialized, hstopped, hfsm, hbuilt⟩ :=
    fhssServiceInit_accepted hinit
  unfold fhssServiceStart at hstart
  rw [if_neg (by simp [hinitialized, hstopped])] at hstart
  dsimp only at hstart
  cases taskCreated with
  | false => exact absurd (congrArg Prod.snd hstart) (by simp)
  | true =>
    obtain ⟨rfl, -⟩ := Prod.mk.inj hstart
    exact ⟨⟨hconfig ▸ hrole, rfl, by simp [hfsm, hconfig, hrole, fhssFsmHandle],
      by rw [hconfig]; exact hbuilt⟩, hconfig⟩

/-- A role change returns at once when the role is the one the task runs in; otherwise the old task
ends, and the change fails or the task runs in the new role with a controller built from the
configuration. -/
lemma fhssServiceSetRole_cases (hinit : service.initialized = true) (role : FhssServiceRole)
    (hal : FhssRoleHal) :
    (service.config.role = role ∧ service.taskRunning = true ∧
      fhssServiceSetRole service role hal = (service, true)) ∨
    (¬ (service.config.role = role ∧ service.taskRunning = true) ∧
      ∃ service', service'.initialized = true ∧
        service'.config = { service.config with role := service'.config.role } ∧
        ((fhssServiceSetRole service role hal = (service', false) ∧
            service'.taskRunning = false) ∨
          (fhssServiceSetRole service role hal = (service', true) ∧
            service'.config.role = role ∧ service'.taskRunning = true ∧
            service'.haveDerivedPublicSeed = false ∧
            fhssSyncControllerInit service.config.controllerConfig =
              .ok service'.controller))) := by
  unfold fhssServiceSetRole
  rw [if_neg (by simp [hinit])]
  by_cases hsame : service.config.role = role ∧ service.taskRunning = true
  · rw [if_pos hsame]
    exact .inl ⟨hsame.1, hsame.2, rfl⟩
  rw [if_neg hsame]
  refine .inr ⟨hsame, ?_⟩
  dsimp only
  by_cases hrecovered : hal.recovered = false
  · rw [if_pos hrecovered]
    exact ⟨{ service with taskRunning := false }, hinit, rfl, .inl ⟨rfl, rfl⟩⟩
  rw [if_neg hrecovered]
  rcases resetController_cases { service with taskRunning := false, fsm := fhssFsmInit } with
    ⟨hreset, -⟩ | ⟨controller, hbuilt, hreset⟩
  · rw [hreset]
    exact ⟨{ service with taskRunning := false, fsm := fhssFsmInit }, hinit, rfl,
      .inl ⟨rfl, rfl⟩⟩
  rw [hreset]
  unfold fhssServiceStart
  dsimp only
  rw [if_neg (by simp [hinit])]
  cases hal.taskCreated with
  | false =>
    refine ⟨_, ?_, ?_, .inl ⟨rfl, rfl⟩⟩
    exacts [hinit, rfl]
  | true =>
    refine ⟨_, ?_, ?_, .inr ⟨rfl, rfl, rfl, rfl, hbuilt⟩⟩
    exacts [hinit, rfl]

/-- A role change to RX returns at once when RX is the role and the task runs; otherwise the old
task ends, and the change fails or begins a fresh session. -/
lemma fhssServiceSetRole_rx_cases (hinit : service.initialized = true) (hal : FhssRoleHal) :
    (service.config.role = .rx ∧ service.taskRunning = true ∧
      fhssServiceSetRole service .rx hal = (service, true)) ∨
    (¬ (service.config.role = .rx ∧ service.taskRunning = true) ∧
      ∃ service', service'.initialized = true ∧
        service'.config = { service.config with role := service'.config.role } ∧
        ((fhssServiceSetRole service .rx hal = (service', false) ∧
            service'.taskRunning = false ∧
            (hal.recovered = false ∨ ¬ service.config.Accepted ∨ hal.taskCreated = false)) ∨
          (fhssServiceSetRole service .rx hal = (service', true) ∧ FreshRxSession service' ∧
            hal.recovered = true ∧ service.config.Accepted ∧ hal.taskCreated = true))) := by
  unfold fhssServiceSetRole
  rw [if_neg (by simp [hinit])]
  by_cases hsame : service.config.role = .rx ∧ service.taskRunning = true
  · rw [if_pos hsame]
    exact .inl ⟨hsame.1, hsame.2, rfl⟩
  rw [if_neg hsame]
  refine .inr ⟨hsame, ?_⟩
  dsimp only
  by_cases hrecovered : hal.recovered = false
  · rw [if_pos hrecovered]
    refine ⟨_, ?_, ?_, .inl ⟨rfl, rfl, .inl hrecovered⟩⟩
    exacts [hinit, rfl]
  rw [if_neg hrecovered]
  rcases resetController_cases { service with taskRunning := false, fsm := fhssFsmInit } with
    ⟨hreset, hrejected⟩ | ⟨controller, hbuilt, hreset⟩
  · rw [hreset]
    refine ⟨_, ?_, ?_, .inl ⟨rfl, rfl, .inr (.inl hrejected)⟩⟩
    exacts [hinit, rfl]
  rw [hreset]
  have haccepted : service.config.Accepted := ⟨controller, hbuilt⟩
  unfold fhssServiceStart
  dsimp only
  rw [if_neg (by simp [hinit])]
  cases hcreated : hal.taskCreated with
  | false =>
    refine ⟨_, ?_, ?_, .inl ⟨rfl, rfl, .inr (.inr rfl)⟩⟩
    exacts [hinit, rfl]
  | true =>
    refine ⟨_, ?_, ?_, .inr ⟨rfl, ⟨rfl, rfl, rfl, hbuilt⟩, by simpa using hrecovered,
      haccepted, rfl⟩⟩
    exacts [hinit, rfl]

end

end FhssOtaRadio
