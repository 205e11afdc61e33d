import FhssOtaRadio.RfTransport.Radio

/-!
# Setting the driver up

`rf_transport_init` acquires a queue, the SPI bus, a device on it and an interrupt handler, one
after the other, and each step can fail.  A ledger of what is held shows that nothing is released
that is not held, nothing is released while something else still needs it, and that an
initialisation either keeps everything, recorded in the driver's state, or holds nothing of its own
when it returns.  The GPIO interrupt service, which the whole chip shares, is installed on the way
to the handler and never uninstalled, so it is what a failed initialisation may leave behind.
-/

namespace FhssOtaRadio

open Dialogue World

/-- `rf_transport_config_t`. -/
structure RfTransportConfig where
  spiHost : ℕ
  sclkGpio : ℤ
  mosiGpio : ℤ
  misoGpio : ℤ
  csGpio : ℤ
  gdo0Gpio : ℤ
  spiClockHz : ℤ
  enableGdo0Interrupt : Bool
  deriving DecidableEq, Repr

/-- What the initialisation asks of the system. -/
inductive InitCall where
  /-- `xQueueCreate(1, sizeof(int64_t))`. -/
  | xQueueCreate
  | vQueueDelete (queue : ℕ)
  | spiBusInitialize (host : ℕ)
  | spiBusFree (host : ℕ)
  | spiBusAddDevice (host : ℕ)
  | spiBusRemoveDevice (device : ℕ)
  | gpioConfig (gpio : ℤ)
  | gpioSetLevel (gpio : ℤ) (level : Bool)
  | gpioInstallIsrService
  /-- `gpio_isr_handler_add(gpio, cc1101_gdo0_isr, transport)`. -/
  | gpioIsrHandlerAdd (gpio : ℤ)
  deriving DecidableEq, Repr

/-- The answer to each call; the results of the releases are not looked at. -/
def InitCall.Answer : InitCall → Type
  | .xQueueCreate => Option ℕ
  | .vQueueDelete _ => Unit
  | .spiBusInitialize _ => EspErr
  | .spiBusFree _ => Unit
  | .spiBusAddDevice _ => Except EspErr ℕ
  | .spiBusRemoveDevice _ => Unit
  | .gpioConfig _ => EspErr
  | .gpioSetLevel _ _ => Unit
  | .gpioInstallIsrService => EspErr
  | .gpioIsrHandlerAdd _ => EspErr

/-- A part of the initialisation. -/
abbrev InitProgram := Program InitCall InitCall.Answer

namespace Init

def xQueueCreate : InitProgram (Option ℕ) := .call InitCall.xQueueCreate

def vQueueDelete (queue : ℕ) : InitProgram Unit := .call (InitCall.vQueueDelete queue)

def spiBusInitialize (host : ℕ) : InitProgram EspErr := .call (InitCall.spiBusInitialize host)

def spiBusFree (host : ℕ) : InitProgram Unit := .call (InitCall.spiBusFree host)

def spiBusAddDevice (host : ℕ) : InitProgram (Except EspErr ℕ) :=
  .call (InitCall.spiBusAddDevice host)

def spiBusRemoveDevice (device : ℕ) : InitProgram Unit :=
  .call (InitCall.spiBusRemoveDevice device)

def gpioConfig (gpio : ℤ) : InitProgram EspErr := .call (InitCall.gpioConfig gpio)

def gpioSetLevel (gpio : ℤ) (level : Bool) : InitProgram Unit :=
  .call (InitCall.gpioSetLevel gpio level)

def gpioInstallIsrService : InitProgram EspErr := .call InitCall.gpioInstallIsrService

def gpioIsrHandlerAdd (gpio : ℤ) : InitProgram EspErr := .call (InitCall.gpioIsrHandlerAdd gpio)

/-- `if (rx_timestamp_queue != NULL) vQueueDelete(rx_timestamp_queue)`. -/
def deleteQueue : Option ℕ → InitProgram Unit
  | some queue => vQueueDelete queue
  | none => return ()

end Init

open Init

/-- `memset(transport, 0, sizeof(*transport))`. -/
def RfTransport.cleared : RfTransport where
  spiDevice := none
  spiHost := 0
  csGpio := 0
  misoGpio := 0
  gdo0Gpio := 0
  rxTimestampQueue := none
  initialized := false
  gdo0InterruptEnabled := false

/-- The last part of `rf_transport_init`: with everything else in place, the handler of the GDO0
interrupt is registered. -/
def attachInterrupt (config : RfTransportConfig) (transport : RfTransport) (spiDevice : ℕ)
    (rxTimestampQueue : Option ℕ) : InitProgram (Option RfTransportError × RfTransport) := do
  let status ← gpioInstallIsrService
  if status ≠ .ok ∧ status ≠ .invalidState then do
    spiBusRemoveDevice spiDevice
    spiBusFree config.spiHost
    deleteQueue rxTimestampQueue
    return (some .spiError, .cleared)
  else do
    let status ← gpioIsrHandlerAdd config.gdo0Gpio
    if status ≠ .ok then do
      spiBusRemoveDevice spiDevice
      spiBusFree config.spiHost
      deleteQueue rxTimestampQueue
      return (some .spiError, .cleared)
    else return (none, { transport with gdo0InterruptEnabled := true })

/-- The part of `rf_transport_init` that runs with the device on the bus. -/
def completeInit (transport : RfTransport) (config : RfTransportConfig) (spiDevice : ℕ)
    (rxTimestampQueue : Option ℕ) : InitProgram (Option RfTransportError × RfTransport) := do
  let initializedTransport : RfTransport := {
    spiDevice := some spiDevice
    spiHost := config.spiHost
    csGpio := config.csGpio
    misoGpio := config.misoGpio
    gdo0Gpio := config.gdo0Gpio
    rxTimestampQueue := rxTimestampQueue
    initialized := true
    gdo0InterruptEnabled := false }
  if config.enableGdo0Interrupt then do
    let status ← gpioConfig config.gdo0Gpio
    if status ≠ .ok then do
      spiBusRemoveDevice spiDevice
      spiBusFree config.spiHost
      deleteQueue rxTimestampQueue
      return (some .spiError, transport)
    else attachInterrupt config initializedTransport spiDevice rxTimestampQueue
  else return (none, initializedTransport)

/-- The part of `rf_transport_init` that runs once there is a queue, if one is wanted. -/
def initBus (transport : RfTransport) (config : RfTransportConfig)
    (rxTimestampQueue : Option ℕ) : InitProgram (Option RfTransportError × RfTransport) := do
  let status ← spiBusInitialize config.spiHost
  if status ≠ .ok then do
    deleteQueue rxTimestampQueue
    return (some .spiError, transport)
  else do
    let status ← gpioConfig config.csGpio
    if status ≠ .ok then do
      spiBusFree config.spiHost
      deleteQueue rxTimestampQueue
      return (some .spiError, transport)
    else do
      gpioSetLevel config.csGpio true
      match ← spiBusAddDevice config.spiHost with
      | .error _ => do
        spiBusFree config.spiHost
        deleteQueue rxTimestampQueue
        return (some .spiError, transport)
      | .ok spiDevice => completeInit transport config spiDevice rxTimestampQueue

/-- `rf_transport_init`: the status (`none` for `RF_TRANSPORT_STATUS_OK`) and what `*transport`
holds afterwards. -/
def rfTransportInit (transport : RfTransport) (config : RfTransportConfig) :
    InitProgram (Option RfTransportError × RfTransport) :=
  if config.sclkGpio < 0 ∨ config.mosiGpio < 0 ∨ config.misoGpio < 0 ∨ config.csGpio < 0 ∨
      config.spiClockHz ≤ 0 then return (some .invalidArg, transport)
  else if config.enableGdo0Interrupt ∧ config.gdo0Gpio < 0 then
    return (some .invalidArg, transport)
  else if config.enableGdo0Interrupt then do
    match ← xQueueCreate with
    | none => return (some .spiError, transport)
    | some queue => initBus transport config (some queue)
  else initBus transport config none

/-! ## The ledger -/

/-- What the initialisation holds. -/
structure InitLedger where
  queue : Option ℕ
  bus : Option ℕ
  device : Option ℕ
  handler : Bool
  /-- The GPIO interrupt service is installed, by this initialisation or before it. -/
  isrService : Bool
  deriving DecidableEq, Repr

namespace InitLedger

/-- Nothing is held; the interrupt service may be there. -/
def empty (isrService : Bool) : InitLedger where
  queue := none
  bus := none
  device := none
  handler := false
  isrService := isrService

/-- The ledger after `spi_bus_initialize`. -/
def takeBus (ledger : InitLedger) (host : ℕ) (status : EspErr) : InitLedger :=
  if status = .ok then { ledger with bus := some host } else ledger

/-- The ledger after `gpio_install_isr_service`, which answers `ESP_ERR_INVALID_STATE` when the
service is there. -/
def installService (ledger : InitLedger) (status : EspErr) : InitLedger :=
  if status = .ok ∨ status = .invalidState then { ledger with isrService := true } else ledger

/-- The ledger after `gpio_isr_handler_add`. -/
def addHandler (ledger : InitLedger) (status : EspErr) : InitLedger :=
  if status = .ok then { ledger with handler := true } else ledger

/-- The ledger after a call. -/
def next (ledger : InitLedger) : (c : InitCall) → c.Answer → InitLedger
  | .xQueueCreate, queue => { ledger with queue }
  | .vQueueDelete _, _ => { ledger with queue := none }
  | .spiBusInitialize host, status => ledger.takeBus host status
  | .spiBusFree _, _ => { ledger with bus := none }
  | .spiBusAddDevice _, device => { ledger with device := Except.toOption device }
  | .spiBusRemoveDevice _, _ => { ledger with device := none }
  | .gpioConfig _, _ => ledger
  | .gpioSetLevel _ _, _ => ledger
  | .gpioInstallIsrService, status => ledger.installService status
  | .gpioIsrHandlerAdd _, status => ledger.addHandler status

/-- Nothing is acquired twice, nothing is released that is not held or that is still needed: the
handler uses the queue, and a device is on a bus.  A handler needs the interrupt service. -/
def Allowed (ledger : InitLedger) : InitCall → Prop
  | .xQueueCreate => ledger.queue = none
  | .vQueueDelete queue => ledger.queue = some queue ∧ ledger.handler = false
  | .spiBusInitialize _ => ledger.bus = none
  | .spiBusFree host => ledger.bus = some host ∧ ledger.device = none
  | .spiBusAddDevice host => ledger.bus = some host ∧ ledger.device = none
  | .spiBusRemoveDevice device => ledger.device = some device
  | .gpioConfig _ => True
  | .gpioSetLevel _ _ => True
  | .gpioInstallIsrService => True
  | .gpioIsrHandlerAdd _ =>
      ledger.queue.isSome ∧ ledger.handler = false ∧ ledger.isrService = true

end InitLedger

/-- The system that the driver's resources come from. -/
def acquiring : World InitCall InitCall.Answer InitLedger where
  next ledger e := ledger.next e.1 e.2
  Allowed := InitLedger.Allowed
  Possible _ _ := True

/-- How an initialisation may end: with an error it holds nothing but the interrupt service, and the
driver's state is as it was or cleared; without one it holds everything, and the driver's state says
so.  The service is only brought in for the interrupt, and a service that was there stays. -/
def InitEnds (isrService : Bool) (transport : RfTransport) (config : RfTransportConfig)
    (outcome : Option RfTransportError × RfTransport) (ledger : InitLedger) : Prop :=
  (isrService = true → ledger.isrService = true) ∧
  (config.enableGdo0Interrupt = false → ledger.isrService = isrService) ∧
  match outcome.1 with
  | some _ =>
      ledger = .empty ledger.isrService ∧ (outcome.2 = transport ∨ outcome.2 = .cleared)
  | none =>
      outcome.2.initialized = true ∧ ledger.bus = some outcome.2.spiHost ∧
        ledger.device = outcome.2.spiDevice ∧ ledger.device.isSome ∧
        ledger.queue = outcome.2.rxTimestampQueue ∧
        ledger.queue.isSome = config.enableGdo0Interrupt ∧
        ledger.handler = config.enableGdo0Interrupt ∧
        (config.enableGdo0Interrupt = true → ledger.isrService = true) ∧
        outcome.2.gdo0InterruptEnabled = config.enableGdo0Interrupt ∧
        outcome.2.csGpio = config.csGpio ∧ outcome.2.misoGpio = config.misoGpio

section Ledger

variable {ledger : InitLedger} {Q : Unit → InitLedger → Prop}

lemma meets_xQueueCreate {Q : Option ℕ → InitLedger → Prop} :
    acquiring.Meets True xQueueCreate ledger Q ↔
      ledger.queue = none ∧ ∀ queue, Q queue { ledger with queue } :=
  and_congr Iff.rfl ⟨fun h queue => h queue trivial, fun h queue _ => h queue⟩

lemma meets_vQueueDelete {queue : ℕ} :
    acquiring.Meets True (vQueueDelete queue) ledger Q ↔
      (ledger.queue = some queue ∧ ledger.handler = false) ∧ Q () { ledger with queue := none } :=
  and_congr Iff.rfl ⟨fun h => h () trivial, fun h _ _ => h⟩

lemma meets_spiBusInitialize {host : ℕ} {Q : EspErr → InitLedger → Prop} :
    acquiring.Meets True (spiBusInitialize host) ledger Q ↔
      ledger.bus = none ∧ ∀ status, Q status (ledger.takeBus host status) :=
  and_congr Iff.rfl ⟨fun h status => h status trivial, fun h status _ => h status⟩

lemma meets_spiBusFree {host : ℕ} :
    acquiring.Meets True (spiBusFree host) ledger Q ↔
      (ledger.bus = some host ∧ ledger.device = none) ∧ Q () { ledger with bus := none } :=
  and_congr Iff.rfl ⟨fun h => h () trivial, fun h _ _ => h⟩

lemma meets_spiBusAddDevice {host : ℕ} {Q : Except EspErr ℕ → InitLedger → Prop} :
    acquiring.Meets True (spiBusAddDevice host) ledger Q ↔
      (ledger.bus = some host ∧ ledger.device = none) ∧
        ∀ device, Q device { ledger with device := device.toOption } :=
  and_congr Iff.rfl ⟨fun h device => h device trivial, fun h device _ => h device⟩

lemma meets_spiBusRemoveDevice {device : ℕ} :
    acquiring.Meets True (spiBusRemoveDevice device) ledger Q ↔
      ledger.device = some device ∧ Q () { ledger with device := none } :=
  and_congr Iff.rfl ⟨fun h => h () trivial, fun h _ _ => h⟩

lemma meets_gpioConfig {gpio : ℤ} {Q : EspErr → InitLedger → Prop} :
    acquiring.Meets True (gpioConfig gpio) ledger Q ↔ ∀ status, Q status ledger :=
  ⟨fun h status => h.2 status trivial, fun h => ⟨trivial, fun status _ => h status⟩⟩

lemma meets_gpioSetLevel {gpio : ℤ} {level : Bool} :
    acquiring.Meets True (gpioSetLevel gpio level) ledger Q ↔ Q () ledger :=
  ⟨fun h => h.2 () trivial, fun h => ⟨trivial, fun _ _ => h⟩⟩

lemma meets_gpioInstallIsrService {Q : EspErr → InitLedger → Prop} :
    acquiring.Meets True gpioInstallIsrService ledger Q ↔
      ∀ status, Q status (ledger.installService status) :=
  ⟨fun h status => h.2 status trivial, fun h => ⟨trivial, fun status _ => h status⟩⟩

lemma meets_gpioIsrHandlerAdd {gpio : ℤ} {Q : EspErr → InitLedger → Prop} :
    acquiring.Meets True (gpioIsrHandlerAdd gpio) ledger Q ↔
      (ledger.queue.isSome = true ∧ ledger.handler = false ∧ ledger.isrService = true) ∧
        ∀ status, Q status (ledger.addHandler status) :=
  and_congr Iff.rfl ⟨fun h status => h status trivial, fun h status _ => h status⟩

variable {transport : RfTransport} {config : RfTransportConfig} {queue : Option ℕ}
  {spiDevice : ℕ} {isrService : Bool}

/-- Deleting the queue, if there is one. -/
lemma deleteQueue_meets (hqueue : ledger.queue = queue) (hhandler : ledger.handler = false)
    (h : Q () { ledger with queue := none }) :
    acquiring.Meets True (deleteQueue queue) ledger Q := by
  cases queue with
  | some queue =>
    rw [deleteQueue, meets_vQueueDelete]
    exact ⟨⟨hqueue, hhandler⟩, h⟩
  | none =>
    have hsame : { ledger with queue := none } = ledger := by rw [← hqueue]
    rw [hsame] at h
    exact h

/-- What is held once the device is on the bus. -/
def InitLedger.onBus (queue : Option ℕ) (host device : ℕ) (isrService : Bool) : InitLedger where
  queue := queue
  bus := some host
  device := some device
  handler := false
  isrService := isrService

/-- With everything held but the handler, a failure releases it all. -/
lemma releaseAll_meets {installed : Bool} {outcome : Option RfTransportError × RfTransport}
    (h : InitEnds isrService transport config outcome (.empty installed)) :
    acquiring.Meets True (do
      spiBusRemoveDevice spiDevice
      spiBusFree config.spiHost
      deleteQueue queue
      return outcome : InitProgram (Option RfTransportError × RfTransport))
      (.onBus queue config.spiHost spiDevice installed) (InitEnds isrService transport config) := by
  rw [meets_bind, meets_spiBusRemoveDevice]
  refine ⟨rfl, ?_⟩
  rw [meets_bind, meets_spiBusFree]
  refine ⟨⟨rfl, rfl⟩, ?_⟩
  rw [meets_bind]
  exact deleteQueue_meets rfl rfl h

/-- The driver's state once everything but the handler is in place. -/
structure Assembled (transport : RfTransport) (config : RfTransportConfig) (spiDevice : ℕ)
    (queue : Option ℕ) : Prop where
  initialized : transport.initialized = true
  spiHost : transport.spiHost = config.spiHost
  spiDevice : transport.spiDevice = some spiDevice
  rxTimestampQueue : transport.rxTimestampQueue = queue
  gdo0InterruptEnabled : transport.gdo0InterruptEnabled = false
  csGpio : transport.csGpio = config.csGpio
  misoGpio : transport.misoGpio = config.misoGpio

lemma attachInterrupt_meets {assembled : RfTransport} (h : config.enableGdo0Interrupt = true)
    (hassembled : Assembled assembled config spiDevice queue) (hqueue : queue.isSome = true) :
    acquiring.Meets True (attachInterrupt config assembled spiDevice queue)
      (.onBus queue config.spiHost spiDevice isrService)
      (InitEnds isrService transport config) := by
  have hwanted {P : Prop} (hdisabled : config.enableGdo0Interrupt = false) : P := by
    rw [h] at hdisabled
    cases hdisabled
  rw [attachInterrupt, meets_bind, meets_gpioInstallIsrService]
  intro status
  by_cases hinstalled : status = .ok ∨ status = .invalidState
  swap
  · rw [if_pos (not_or.mp hinstalled), InitLedger.installService, if_neg hinstalled]
    exact releaseAll_meets ⟨id, fun _ => rfl, rfl, .inr rfl⟩
  rw [if_neg fun hneither => not_or.mpr hneither hinstalled, InitLedger.installService,
    if_pos hinstalled, meets_bind, meets_gpioIsrHandlerAdd]
  refine ⟨⟨hqueue, rfl, rfl⟩, fun status => ?_⟩
  split
  · rename_i hstatus
    rw [InitLedger.addHandler, if_neg hstatus]
    exact releaseAll_meets ⟨fun _ => rfl, hwanted, rfl, .inr rfl⟩
  · rename_i hstatus
    rw [InitLedger.addHandler, if_pos (not_not.mp hstatus)]
    exact ⟨fun _ => rfl, hwanted, hassembled.initialized, congrArg some hassembled.spiHost.symm,
      hassembled.spiDevice.symm, rfl, hassembled.rxTimestampQueue.symm, hqueue.trans h.symm,
      h.symm, fun _ => rfl, h.symm, hassembled.csGpio, hassembled.misoGpio⟩

lemma completeInit_meets (hqueue : queue.isSome = config.enableGdo0Interrupt) :
    acquiring.Meets True (completeInit transport config spiDevice queue)
      (.onBus queue config.spiHost spiDevice isrService)
      (InitEnds isrService transport config) := by
  rw [completeInit]
  split
  · rename_i henable
    rw [meets_bind, meets_gpioConfig]
    intro status
    split
    · exact releaseAll_meets ⟨id, fun _ => rfl, rfl, .inl rfl⟩
    · exact attachInterrupt_meets henable ⟨rfl, rfl, rfl, rfl, rfl, rfl, rfl⟩
        (hqueue.trans henable)
  · rename_i henable
    have hdisabled : config.enableGdo0Interrupt = false := Bool.not_eq_true _ ▸ henable
    exact ⟨id, fun _ => rfl, rfl, rfl, rfl, rfl, rfl, hqueue, hdisabled.symm,
      fun hwanted => absurd hwanted henable, hdisabled.symm, rfl, rfl⟩

lemma initBus_meets (hqueue : queue.isSome = config.enableGdo0Interrupt) :
    acquiring.Meets True (initBus transport config queue)
      { InitLedger.empty isrService with queue } (InitEnds isrService transport config) := by
  rw [initBus, meets_bind, meets_spiBusInitialize]
  refine ⟨rfl, fun status => ?_⟩
  split
  · rename_i hstatus
    rw [InitLedger.takeBus, if_neg hstatus, meets_bind]
    exact deleteQueue_meets rfl rfl ⟨id, fun _ => rfl, rfl, .inl rfl⟩
  rename_i hstatus
  rw [InitLedger.takeBus, if_pos (not_not.mp hstatus), meets_bind, meets_gpioConfig]
  intro status
  split
  · rw [meets_bind, meets_spiBusFree]
    refine ⟨⟨rfl, rfl⟩, ?_⟩
    rw [meets_bind]
    exact deleteQueue_meets rfl rfl ⟨id, fun _ => rfl, rfl, .inl rfl⟩
  rw [meets_bind, meets_gpioSetLevel, meets_bind, meets_spiBusAddDevice]
  refine ⟨⟨rfl, rfl⟩, fun device => ?_⟩
  cases device with
  | error e =>
    rw [meets_bind, meets_spiBusFree]
    refine ⟨⟨rfl, rfl⟩, ?_⟩
    rw [meets_bind]
    exact deleteQueue_meets rfl rfl ⟨id, fun _ => rfl, rfl, .inl rfl⟩
  | ok spiDevice => exact completeInit_meets hqueue

/-- **Setting the driver up keeps its books**, whatever fails: every release is of something held
that nothing needs any more, and the handler is only registered with the interrupt service there; an
initialisation that fails holds nothing when it returns but the interrupt service, which may have
come with it to stay; and one that succeeds holds exactly what the driver's state records. -/
theorem rfTransportInit_run {events : List (Event InitCall InitCall.Answer)}
    {result : Option (Option RfTransportError × RfTransport)}
    (h : Run (rfTransportInit transport config) events result) :
    acquiring.Legal (.empty isrService) events ∧
      ∀ outcome, result = some outcome →
        InitEnds isrService transport config outcome
          (acquiring.after (.empty isrService) events) := by
  have hmeets : acquiring.Meets True (rfTransportInit transport config) (.empty isrService)
      (InitEnds isrService transport config) := by
    unfold rfTransportInit
    split
    · exact ⟨id, fun _ => rfl, rfl, .inl rfl⟩
    split
    · exact ⟨id, fun _ => rfl, rfl, .inl rfl⟩
    split
    · rename_i henable
      rw [meets_bind, meets_xQueueCreate]
      refine ⟨rfl, fun queue => ?_⟩
      cases queue with
      | none => exact ⟨id, fun _ => rfl, rfl, .inl rfl⟩
      | some queue => exact initBus_meets henable.symm
    · rename_i henable
      have hdisabled : config.enableGdo0Interrupt = false := Bool.not_eq_true _ ▸ henable
      exact initBus_meets hdisabled.symm
  exact hmeets.run h (real_of_possible (fun _ _ => trivial) _ _)

/-- A wiring with the GDO0 interrupt. -/
def benchConfig : RfTransportConfig where
  spiHost := 1
  sclkGpio := 12
  mosiGpio := 11
  misoGpio := 13
  csGpio := 10
  gdo0Gpio := 14
  spiClockHz := 1000000
  enableGdo0Interrupt := true

/-- An initialisation that installs the interrupt service and then fails at its last step. -/
def benchInitEvents : List (Event InitCall InitCall.Answer) :=
  [⟨.xQueueCreate, some 1⟩, ⟨.spiBusInitialize 1, EspErr.ok⟩, ⟨.gpioConfig 10, EspErr.ok⟩,
    ⟨.gpioSetLevel 10 true, ()⟩, ⟨.spiBusAddDevice 1, Except.ok 2⟩, ⟨.gpioConfig 14, EspErr.ok⟩,
    ⟨.gpioInstallIsrService, EspErr.ok⟩, ⟨.gpioIsrHandlerAdd 14, EspErr.noMem⟩,
    ⟨.spiBusRemoveDevice 2, ()⟩, ⟨.spiBusFree 1, ()⟩, ⟨.vQueueDelete 1, ()⟩]

theorem rfTransportInit_run_handler_fails :
    acquiring.Legal (.empty false) benchInitEvents ∧
      acquiring.after (.empty false) benchInitEvents = .empty true := by
  have hrun : Run (rfTransportInit .cleared benchConfig) benchInitEvents
      (some (some .spiError, .cleared)) :=
    .ask (.ask (.ask (.ask (.ask (.ask (.ask (.ask (.ask (.ask (.ask (.ret _)))))))))))
  obtain ⟨hlegal, hends⟩ := @rfTransportInit_run _ _ false _ _ hrun
  exact ⟨hlegal, (hends _ rfl).2.2.1⟩

end Ledger

end FhssOtaRadio
