import FhssOtaRadio.FhssService.Rendezvous
import FhssOtaRadio.Library.Dialogue

/-!
# The TX task (`tx_task` in `fhss_service.c`)

The task that transmits is a dialogue with the clock, the radio, the TX queue and the fields of the
service that other tasks read.  In each slot it selects the channel, waits for the start of the
slot, sends the SYNC packet, and then sends queued data until the guard before the next channel
switch.

What has been on the air is followed through the calls: the SYNC packet of each slot, and the data
sent after it.  In every run, however the clock jumps and whatever the radio answers, this log is a
schedule (`Scheduled`): the SYNC packets are those of the slots 0, 1, 2, ..., each on the channel of
its slot and not before the slot starts, and data is sent on the channel of the slot only, and only
when the guard has not been reached.
-/

namespace FhssOtaRadio

open Dialogue World

/-- `FHSS_SERVICE_DATA_TX_AIRTIME_GUARD_US`. -/
def fhssServiceDataTxAirtimeGuardUs : ℤ := 20000

/-- What the task asks of the rest of the system. -/
inductive TxCall where
  | espTimerGetTime
  | vTaskDelay (ticks : ℕ)
  | taskYield
  /-- Reading `should_stop`. -/
  | shouldStop
  | rfTransportSetChannel (channel : UInt8)
  | rfTransportSendPacket (data : Bytes)
  | rfTransportWaitRxTimestamp (timeoutMs : ℕ)
  | xQueueReceive (ticks : ℕ)
  | xQueueSendToFront (item : Bytes)
  /-- Writing `current_channel`. -/
  | setCurrentChannel (channel : UInt8)
  /-- Writing `tx_in_flight`. -/
  | setTxInFlight (value : Bool)
  | reportEvent (event : FhssServiceEvent)
  deriving DecidableEq

/-- The answer to each call; what the task does not look at is `Unit`. -/
def TxCall.Answer : TxCall → Type
  | .espTimerGetTime => ℤ
  | .shouldStop => Bool
  | .rfTransportSetChannel _ => Bool
  | .rfTransportSendPacket _ => Bool
  | .xQueueReceive _ => Option Bytes
  | _ => Unit

/-- A part of the task. -/
abbrev TxProgram := Program TxCall TxCall.Answer

namespace TxTask

def espTimerGetTime : TxProgram ℤ := .call TxCall.espTimerGetTime

def vTaskDelay (ticks : ℕ) : TxProgram Unit := .call (TxCall.vTaskDelay ticks)

def taskYield : TxProgram Unit := .call TxCall.taskYield

def shouldStop : TxProgram Bool := .call TxCall.shouldStop

def rfTransportSetChannel (channel : UInt8) : TxProgram Bool :=
  .call (TxCall.rfTransportSetChannel channel)

def rfTransportSendPacket (data : Bytes) : TxProgram Bool :=
  .call (TxCall.rfTransportSendPacket data)

def rfTransportWaitRxTimestamp (timeoutMs : ℕ) : TxProgram Unit :=
  .call (TxCall.rfTransportWaitRxTimestamp timeoutMs)

def xQueueReceive (ticks : ℕ) : TxProgram (Option Bytes) := .call (TxCall.xQueueReceive ticks)

def xQueueSendToFront (item : Bytes) : TxProgram Unit := .call (TxCall.xQueueSendToFront item)

def setCurrentChannel (channel : UInt8) : TxProgram Unit :=
  .call (TxCall.setCurrentChannel channel)

def setTxInFlight (value : Bool) : TxProgram Unit := .call (TxCall.setTxInFlight value)

def reportEvent (event : FhssServiceEvent) : TxProgram Unit := .call (TxCall.reportEvent event)

variable (pdMsToTicks : UInt32 → ℕ)

/-- How `delay_until_us` lets `remainingUs` pass; `pdMsToTicks` is `pdMS_TO_TICKS`. -/
def letPass (remainingUs : ℤ) : TxProgram Unit :=
  let ticks := pdMsToTicks (UInt32.ofInt (remainingUs.tdiv 1000))
  if 2000 < remainingUs ∧ 1 < ticks then vTaskDelay (ticks - 1) else taskYield

/-- `delay_until_us`. -/
def delayUntilUs (rounds : ℕ) (targetUs : ℤ) : TxProgram Unit :=
  .loop (do
    let nowUs ← espTimerGetTime
    if targetUs - nowUs ≤ 0 then return some ()
    else do
      letPass pdMsToTicks (targetUs - nowUs)
      return none) rounds

/-- `select_channel`. -/
def selectChannel (service : FhssService) (slot : UInt32) : TxProgram Bool :=
  match fhssCoreGetChannel service.controller.core slot with
  | .error _ => return false
  | .ok channel => do
    if ← rfTransportSetChannel channel then do
      setCurrentChannel channel
      return true
    else return false

/-- The wait for a packet in `drain_tx_data_until`: the ticks until the last moment at which data
may be started, at most 20, and at least one. -/
def waitTicks (remainingUs : ℤ) : ℕ :=
  let ticks := pdMsToTicks
    (if 20000 < remainingUs then 20 else UInt32.ofInt (remainingUs.tdiv 1000))
  if ticks = 0 then 1 else ticks

/-- How `drain_tx_data_until` sends a packet. -/
def sendItem (item : Bytes) : TxProgram Unit := do
  setTxInFlight true
  if ← rfTransportSendPacket item then do
    rfTransportWaitRxTimestamp 20
    setTxInFlight false
  else do
    setTxInFlight false
    reportEvent .error

/-- `drain_tx_data_until`. -/
def drainTxDataUntil (rounds : ℕ) (deadlineUs : ℤ) : TxProgram Unit :=
  let latestDataStartUs := deadlineUs - fhssServiceDataTxAirtimeGuardUs
  .loop (do
    let nowUs ← espTimerGetTime
    if nowUs < latestDataStartUs then do
      let nowUs ← espTimerGetTime
      match ← xQueueReceive (waitTicks pdMsToTicks (latestDataStartUs - nowUs)) with
      | none => return none
      | some item => do
        let nowUs ← espTimerGetTime
        if latestDataStartUs ≤ nowUs then do
          xQueueSendToFront item
          return some ()
        else do
          sendItem item
          return none
    else return some ()) rounds

variable (protocol : OtaProtocol) (encodeFhssSync : OtaFhssSyncFields → Option Bytes)

/-- `send_sync`. -/
def sendSync (service : FhssService) (slot : UInt32) (sequence : UInt16) : TxProgram Bool :=
  match FhssOtaRadio.sendSync protocol encodeFhssSync service slot sequence with
  | none => return false
  | some buffer => rfTransportSendPacket buffer

/-- The loop body of `tx_task`: the slot and the sequence number to go on with, or nothing when the
task ends. -/
def txSlot (service : FhssService) (rounds : ℕ) (next : UInt32 × UInt16) :
    TxProgram ((UInt32 × UInt16) ⊕ Unit) := do
  if ← shouldStop then return .inr ()
  else
    match fhssSlotSchedulerGetSlotStartTime service.controller.scheduler next.1 with
    | .error _ => do
      reportEvent .error
      vTaskDelay (pdMsToTicks 100)
      return .inl next
    | .ok startUs => do
      delayUntilUs pdMsToTicks rounds (startUs - service.config.channelSwitchGuardUs.toNat)
      if ← selectChannel service next.1 then do
        delayUntilUs pdMsToTicks rounds startUs
        if ← sendSync protocol encodeFhssSync service next.1 next.2 then do
          rfTransportWaitRxTimestamp 20
          match fhssSlotSchedulerGetSlotStartTime service.controller.scheduler (next.1 + 1) with
          | .error _ => return .inl (next.1 + 1, next.2 + 1)
          | .ok nextStartUs => do
            drainTxDataUntil pdMsToTicks rounds
              (nextStartUs - service.config.channelSwitchGuardUs.toNat)
            return .inl (next.1 + 1, next.2 + 1)
        else do
          reportEvent .error
          return .inr ()
      else do
        reportEvent .error
        return .inl next

/-- The service once `tx_task` has set the reference of the scheduler. -/
def referenced (service : FhssService) (nowUs : ℤ) : FhssService :=
  match fhssSlotSchedulerSetReference service.controller.scheduler 0 (nowUs + 100000) with
  | .error _ => service
  | .ok scheduler =>
      { service with controller := { service.controller with scheduler := scheduler } }

/-- `tx_task`, watched for at most `rounds` rounds of each of its loops. -/
def txTask (service : FhssService) (rounds : ℕ) : TxProgram Unit := do
  let nowUs ← espTimerGetTime
  .iterate (txSlot pdMsToTicks protocol encodeFhssSync (referenced service nowUs) rounds) rounds
    (0, 0)

end TxTask

/-! ## The log of what was on the air -/

/-- A packet handed to the radio. -/
structure Transmission where
  frame : Bytes
  /-- The channel that was selected, `none` after a selection that failed. -/
  channel : Option UInt8
  /-- The last reading of the clock before. -/
  afterUs : ℤ
  /-- The radio returned `RF_TRANSPORT_STATUS_OK`. -/
  ok : Bool
  deriving DecidableEq

/-- A slot on the air: its SYNC packet and the data after it, oldest first. -/
structure TxSlotLog where
  sync : Transmission
  data : List Transmission
  deriving DecidableEq

/-- What the calls of the task have led to. -/
structure TxAir where
  /-- The last reading of the clock. -/
  nowUs : ℤ
  channel : Option UInt8
  inFlight : Bool
  /-- The packet taken out of the queue and neither handed to the radio nor put back. -/
  held : Option Bytes
  /-- The slots on the air, the latest first. -/
  slots : List TxSlotLog
  /-- The packets taken out of the queue and not put back, oldest first. -/
  taken : List Bytes
  /-- The task has read `should_stop` as set. -/
  stopping : Bool
  deriving DecidableEq

namespace TxAir

/-- Before the first slot. -/
def idle (nowUs : ℤ) : TxAir := ⟨nowUs, none, false, none, [], [], false⟩

/-- A packet is handed to the radio: the one taken out of the queue is data of the slot, any other
is the SYNC packet of the next slot. -/
def transmit (air : TxAir) (frame : Bytes) (ok : Bool) : TxAir :=
  let transmission : Transmission := ⟨frame, air.channel, air.nowUs, ok⟩
  match air.held, air.slots with
  | none, slots => { air with slots := ⟨transmission, []⟩ :: slots }
  | some _, [] => { air with held := none }
  | some _, slot :: slots =>
      { air with held := none, slots := { slot with data := slot.data ++ [transmission] } :: slots }

/-- A channel is selected. -/
def select (air : TxAir) (channel : UInt8) (ok : Bool) : TxAir :=
  { air with channel := if ok then some channel else none }

/-- The queue is asked for a packet. -/
def receive (air : TxAir) : Option Bytes → TxAir
  | none => air
  | some item => { air with held := some item, taken := air.taken ++ [item] }

/-- The log after a call. -/
def next (air : TxAir) : (c : TxCall) → c.Answer → TxAir
  | .espTimerGetTime, nowUs => { air with nowUs := nowUs }
  | .vTaskDelay _, _ => air
  | .taskYield, _ => air
  | .shouldStop, stopping => { air with stopping := stopping }
  | .rfTransportSetChannel channel, ok => air.select channel ok
  | .rfTransportSendPacket data, ok => air.transmit data ok
  | .rfTransportWaitRxTimestamp _, _ => air
  | .xQueueReceive _, received => air.receive received
  | .xQueueSendToFront _, _ => { air with held := none, taken := air.taken.dropLast }
  | .setCurrentChannel _, _ => air
  | .setTxInFlight value, _ => { air with inFlight := value }
  | .reportEvent _, _ => air

end TxAir

/-- The data of some slots, oldest first. -/
def dataFrames : List TxSlotLog → List Bytes
  | [] => []
  | slot :: slots => dataFrames slots ++ slot.data.map Transmission.frame

section Schedule

variable (protocol : OtaProtocol) (encodeFhssSync : OtaFhssSyncFields → Option Bytes)
  (service : FhssService) (anchorUs : ℤ)

/-- The start of slot `k` when slot 0 starts at `anchorUs`; slot numbers have 32 bits. -/
def slotStartUs (k : ℕ) : ℤ :=
  anchorUs + (UInt32.ofNat k).toNat * service.controller.scheduler.duration

/-- A transmission is on the channel of slot `k`. -/
def OnSlotChannel (k : ℕ) (transmission : Transmission) : Prop :=
  ∃ channel, fhssCoreGetChannel service.controller.core (UInt32.ofNat k) = .ok channel ∧
    transmission.channel = some channel

/-- The SYNC packet of slot `k`: it announces the slot, on its channel and not before it starts. -/
structure SyncDue (k : ℕ) (transmission : Transmission) : Prop where
  frame : sendSync protocol encodeFhssSync service (UInt32.ofNat k) (UInt16.ofNat k) =
    some transmission.frame
  channel : OnSlotChannel service k transmission
  started : slotStartUs service anchorUs k ≤ transmission.afterUs

/-- Data in slot `k`: it is on the channel of the slot, and it was begun before the guard. -/
structure DataDue (k : ℕ) (transmission : Transmission) : Prop where
  channel : OnSlotChannel service k transmission
  begun : transmission.afterUs < slotStartUs service anchorUs (k + 1) -
    service.config.channelSwitchGuardUs.toNat - fhssServiceDataTxAirtimeGuardUs

/-- The slots on the air are the slots 0, 1, 2, ...; after a SYNC packet that failed there is
nothing more. -/
def Scheduled : List TxSlotLog → Prop
  | [] => True
  | slot :: slots =>
      SyncDue protocol encodeFhssSync service anchorUs slots.length slot.sync ∧
      (∀ transmission ∈ slot.data,
        slot.sync.ok = true ∧ DataDue service anchorUs slots.length transmission) ∧
      (∀ earlier ∈ slots, earlier.sync.ok = true) ∧ Scheduled slots

/-- The world in which the schedule is kept: a packet is only handed to the radio when the log
stays a schedule, data only in a slot, when it is the packet taken out of the queue and flagged; and
no second packet is taken out. -/
def airing : World TxCall TxCall.Answer TxAir where
  next air e := air.next e.1 e.2
  Allowed air
    | .rfTransportSendPacket data =>
        (∀ item ∈ air.held, item = data ∧ air.inFlight = true ∧ air.slots ≠ []) ∧
          ∀ ok, Scheduled protocol encodeFhssSync service anchorUs (air.transmit data ok).slots
    | .xQueueReceive _ => air.held = none
    | .xQueueSendToFront item => air.held = some item
    | _ => True
  Possible _ _ := True

/-- Between two packets. -/
structure BetweenPackets (air : TxAir) : Prop where
  held : air.held = none
  inFlight : air.inFlight = false
  scheduled : Scheduled protocol encodeFhssSync service anchorUs air.slots
  sent : ∀ slot ∈ air.slots, slot.sync.ok = true

/-- Why the task may end: it was told to, or a SYNC packet was not sent. -/
def MayEnd (air : TxAir) : Prop :=
  air.stopping = true ∨ (∃ slot ∈ air.slots.head?, slot.sync.ok = false) ∨
    sendSync protocol encodeFhssSync service (UInt32.ofNat air.slots.length)
      (UInt16.ofNat air.slots.length) = none

/-! ## The parts of the task -/

variable {air : TxAir} {Owed : Prop}

lemma transmit_sync (h : air.held = none) (frame : Bytes) (ok : Bool) :
    air.transmit frame ok =
      { air with slots := ⟨⟨frame, air.channel, air.nowUs, ok⟩, []⟩ :: air.slots } := by
  rw [TxAir.transmit, h]

lemma transmit_data {item : Bytes} {slot : TxSlotLog} {slots : List TxSlotLog}
    (h : air.held = some item) (hslots : air.slots = slot :: slots) (frame : Bytes) (ok : Bool) :
    air.transmit frame ok =
      { air with
        held := none
        slots := { slot with
          data := slot.data ++ [⟨frame, air.channel, air.nowUs, ok⟩] } :: slots } := by
  rw [TxAir.transmit, h, hslots]

lemma meets_espTimerGetTime {Q : ℤ → TxAir → Prop} :
    (airing protocol encodeFhssSync service anchorUs).Meets Owed TxTask.espTimerGetTime air Q ↔
      ∀ nowUs, Q nowUs { air with nowUs := nowUs } :=
  ⟨fun h nowUs => h.2 nowUs trivial, fun h => ⟨trivial, fun nowUs _ => h nowUs⟩⟩

lemma meets_rfTransportSendPacket {data : Bytes} {Q : Bool → TxAir → Prop} :
    (airing protocol encodeFhssSync service anchorUs).Meets Owed
      (TxTask.rfTransportSendPacket data) air Q ↔
      ((∀ item ∈ air.held, item = data ∧ air.inFlight = true ∧ air.slots ≠ []) ∧
        ∀ ok, Scheduled protocol encodeFhssSync service anchorUs (air.transmit data ok).slots) ∧
      ∀ ok, Q ok (air.transmit data ok) :=
  and_congr Iff.rfl ⟨fun h ok => h ok trivial, fun h ok _ => h ok⟩

lemma meets_shouldStop {Q : Bool → TxAir → Prop} :
    (airing protocol encodeFhssSync service anchorUs).Meets Owed TxTask.shouldStop air Q ↔
      ∀ stopping, Q stopping { air with stopping := stopping } :=
  ⟨fun h stopping => h.2 stopping trivial, fun h => ⟨trivial, fun stopping _ => h stopping⟩⟩

lemma meets_rfTransportWaitRxTimestamp {timeoutMs : ℕ} {Q : Unit → TxAir → Prop} :
    (airing protocol encodeFhssSync service anchorUs).Meets Owed
      (TxTask.rfTransportWaitRxTimestamp timeoutMs) air Q ↔ Q () air :=
  ⟨fun h => h.2 () trivial, fun h => ⟨trivial, fun _ _ => h⟩⟩

lemma meets_setTxInFlight {value : Bool} {Q : Unit → TxAir → Prop} :
    (airing protocol encodeFhssSync service anchorUs).Meets Owed (TxTask.setTxInFlight value) air
      Q ↔ Q () { air with inFlight := value } :=
  ⟨fun h => h.2 () trivial, fun h => ⟨trivial, fun _ _ => h⟩⟩

lemma meets_xQueueReceive {ticks : ℕ} {Q : Option Bytes → TxAir → Prop} :
    (airing protocol encodeFhssSync service anchorUs).Meets Owed (TxTask.xQueueReceive ticks) air
      Q ↔ air.held = none ∧ ∀ received, Q received (air.receive received) :=
  and_congr Iff.rfl ⟨fun h received => h received trivial, fun h received _ => h received⟩

/-- Waiting changes nothing but the time, which is not before the target in the end. -/
lemma delayUntilUs_meets (pdMsToTicks : UInt32 → ℕ) (rounds : ℕ) (targetUs : ℤ) :
    (airing protocol encodeFhssSync service anchorUs).Meets True
      (TxTask.delayUntilUs pdMsToTicks rounds targetUs) air
      fun _ air' => ∃ nowUs, targetUs ≤ nowUs ∧ air' = { air with nowUs := nowUs } := by
  refine meets_loop (fun air' => ∃ nowUs, air' = { air with nowUs := nowUs }) ?_
    ⟨air.nowUs, rfl⟩ rounds
  rintro _ ⟨nowUs, rfl⟩
  rw [meets_bind, meets_espTimerGetTime]
  intro nowUs'
  split
  · exact ⟨nowUs', by omega, rfl⟩
  rw [meets_bind, TxTask.letPass]
  split
  · exact ⟨trivial, fun _ _ => ⟨nowUs', rfl⟩⟩
  · exact ⟨trivial, fun _ _ => ⟨nowUs', rfl⟩⟩

/-- A selection that succeeds selects the channel of the slot. -/
lemma selectChannel_meets (slot : UInt32) :
    (airing protocol encodeFhssSync service anchorUs).Meets True
      (TxTask.selectChannel service slot) air
      fun ok air' => ∃ channel, air' = { air with channel := channel } ∧
        (ok = true → ∃ channel', fhssCoreGetChannel service.controller.core slot = .ok channel' ∧
          channel = some channel') := by
  unfold TxTask.selectChannel
  split
  · exact ⟨air.channel, rfl, nofun⟩
  · rename_i channel hchannel
    rw [meets_bind]
    refine ⟨trivial, fun ok _ => ?_⟩
    cases hok : (ok : Bool) with
    | false => exact ⟨none, rfl, nofun⟩
    | true => exact ⟨trivial, fun _ _ => ⟨some channel, rfl, fun _ => ⟨channel, hchannel, rfl⟩⟩⟩

/-- Sending the SYNC packet of the next slot. -/
lemma sendSync_meets (h : BetweenPackets protocol encodeFhssSync service anchorUs air)
    (hchannel : ∃ channel, fhssCoreGetChannel service.controller.core
      (UInt32.ofNat air.slots.length) = .ok channel ∧ air.channel = some channel)
    (hstarted : slotStartUs service anchorUs air.slots.length ≤ air.nowUs) :
    (airing protocol encodeFhssSync service anchorUs).Meets True
      (TxTask.sendSync protocol encodeFhssSync service (UInt32.ofNat air.slots.length)
        (UInt16.ofNat air.slots.length)) air fun ok air' =>
      (ok = false → MayEnd protocol encodeFhssSync service air') ∧
      (ok = true → BetweenPackets protocol encodeFhssSync service anchorUs air' ∧
        air'.channel = air.channel ∧ air'.slots.length = air.slots.length + 1) := by
  unfold TxTask.sendSync
  cases hframe : sendSync protocol encodeFhssSync service (UInt32.ofNat air.slots.length)
      (UInt16.ofNat air.slots.length) with
  | none => exact ⟨fun _ => .inr (.inr hframe), nofun⟩
  | some frame =>
    have hdue (ok : Bool) : SyncDue protocol encodeFhssSync service anchorUs air.slots.length
        ⟨frame, air.channel, air.nowUs, ok⟩ := ⟨hframe, hchannel, hstarted⟩
    have hscheduled (ok : Bool) :
        Scheduled protocol encodeFhssSync service anchorUs (air.transmit frame ok).slots := by
      rw [transmit_sync h.held]
      exact ⟨hdue ok, nofun, h.sent, h.scheduled⟩
    dsimp only
    rw [meets_rfTransportSendPacket]
    refine ⟨⟨fun item hitem => ?_, hscheduled⟩, fun ok => ⟨?_, ?_⟩⟩
    · rw [h.held] at hitem
      cases hitem
    · rintro rfl
      rw [transmit_sync h.held]
      exact .inr (.inl ⟨_, rfl, rfl⟩)
    · rintro rfl
      have hscheduled := hscheduled true
      rw [transmit_sync h.held] at hscheduled ⊢
      refine ⟨⟨h.held, h.inFlight, hscheduled, fun slot hslot => ?_⟩, rfl, rfl⟩
      obtain rfl | hslot := List.mem_cons.mp hslot
      · rfl
      · exact h.sent slot hslot

/-- Data handed to the radio in time keeps the log a schedule. -/
lemma scheduled_append_data {slot : TxSlotLog} {slots : List TxSlotLog}
    (hscheduled : Scheduled protocol encodeFhssSync service anchorUs (slot :: slots))
    (hsent : slot.sync.ok = true) {transmission : Transmission}
    (hdue : DataDue service anchorUs slots.length transmission) :
    Scheduled protocol encodeFhssSync service anchorUs
      ({ slot with data := slot.data ++ [transmission] } :: slots) := by
  obtain ⟨hsync, hdata, hearlier, hslots⟩ := hscheduled
  refine ⟨hsync, fun transmission' h => ?_, hearlier, hslots⟩
  obtain h | h := List.mem_append.mp h
  · exact hdata transmission' h
  · obtain rfl := List.mem_singleton.mp h
    exact ⟨hsent, hdue⟩

/-- Sending the packet that was taken out of the queue. -/
lemma sendItem_meets {item : Bytes} {slot : TxSlotLog} {slots : List TxSlotLog}
    (hheld : air.held = some item) (hslots : air.slots = slot :: slots)
    (hscheduled : Scheduled protocol encodeFhssSync service anchorUs (slot :: slots))
    (hsent : ∀ earlier ∈ slot :: slots, earlier.sync.ok = true)
    (hdue : ∀ ok, DataDue service anchorUs slots.length ⟨item, air.channel, air.nowUs, ok⟩) :
    (airing protocol encodeFhssSync service anchorUs).Meets True (TxTask.sendItem item) air
      fun _ air' => BetweenPackets protocol encodeFhssSync service anchorUs air' ∧
        air'.slots.length = slots.length + 1 ∧ air'.channel = air.channel := by
  have hsend (ok : Bool) : Scheduled protocol encodeFhssSync service anchorUs
      ({ slot with data := slot.data ++ [⟨item, air.channel, air.nowUs, ok⟩] } :: slots) :=
    scheduled_append_data protocol encodeFhssSync service anchorUs hscheduled
      (hsent slot List.mem_cons_self) (hdue ok)
  have hsent' (ok : Bool) (earlier : TxSlotLog) (h : earlier ∈
      { slot with data := slot.data ++ [⟨item, air.channel, air.nowUs, ok⟩] } :: slots) :
      earlier.sync.ok = true := by
    obtain rfl | h := List.mem_cons.mp h
    · exact hsent slot List.mem_cons_self
    · exact hsent earlier (List.mem_cons_of_mem _ h)
  rw [TxTask.sendItem, meets_bind, meets_setTxInFlight, meets_bind, meets_rfTransportSendPacket]
  have hflagged : ({ air with inFlight := true } : TxAir).held = some item := hheld
  refine ⟨⟨fun item' hitem => ?_, fun ok => ?_⟩, fun ok => ?_⟩
  · rw [hflagged] at hitem
    exact ⟨Option.some.inj hitem.symm, rfl, hslots ▸ List.cons_ne_nil slot slots⟩
  · rw [transmit_data hflagged hslots]
    exact hsend ok
  · rw [transmit_data hflagged hslots]
    cases ok with
    | true =>
      refine ⟨trivial, fun _ _ => ⟨trivial, fun _ _ => ?_⟩⟩
      exact ⟨⟨rfl, rfl, hsend true, hsent' true⟩, rfl, rfl⟩
    | false =>
      refine ⟨trivial, fun _ _ => ⟨trivial, fun _ _ => ?_⟩⟩
      exact ⟨⟨rfl, rfl, hsend false, hsent' false⟩, rfl, rfl⟩

/-- Sending data in slot `k`, until the guard. -/
lemma drainTxDataUntil_meets (pdMsToTicks : UInt32 → ℕ) (rounds : ℕ) {k : ℕ}
    (h : BetweenPackets protocol encodeFhssSync service anchorUs air)
    (hlength : air.slots.length = k + 1)
    (hchannel : ∃ channel, fhssCoreGetChannel service.controller.core (UInt32.ofNat k) =
      .ok channel ∧ air.channel = some channel) :
    (airing protocol encodeFhssSync service anchorUs).Meets True
      (TxTask.drainTxDataUntil pdMsToTicks rounds
        (slotStartUs service anchorUs (k + 1) - service.config.channelSwitchGuardUs.toNat)) air
      fun _ air' => BetweenPackets protocol encodeFhssSync service anchorUs air' ∧
        air'.slots.length = k + 1 := by
  refine meets_loop (fun air' => BetweenPackets protocol encodeFhssSync service anchorUs air' ∧
    air'.slots.length = k + 1 ∧ air'.channel = air.channel) ?_ ⟨h, hlength, rfl⟩ rounds
  rintro air₁ ⟨h₁, hlength₁, hchannel₁⟩
  rw [meets_bind, meets_espTimerGetTime]
  intro nowUs₁
  split
  swap
  · exact ⟨⟨h₁.held, h₁.inFlight, h₁.scheduled, h₁.sent⟩, hlength₁⟩
  rw [meets_bind, meets_espTimerGetTime]
  intro nowUs₂
  rw [meets_bind, meets_xQueueReceive]
  refine ⟨h₁.held, fun received => ?_⟩
  cases received with
  | none => exact ⟨⟨h₁.held, h₁.inFlight, h₁.scheduled, h₁.sent⟩, hlength₁, hchannel₁⟩
  | some item =>
    dsimp only
    rw [meets_bind, meets_espTimerGetTime]
    intro nowUs₃
    split
    · rw [meets_bind]
      refine ⟨rfl, fun _ _ => ⟨⟨rfl, h₁.inFlight, h₁.scheduled, h₁.sent⟩, hlength₁⟩⟩
    rename_i hbegun
    obtain ⟨slot, slots, hslots⟩ := List.exists_cons_of_length_eq_add_one hlength₁
    have hk : slots.length = k := by
      rw [hslots] at hlength₁
      exact Nat.succ_injective hlength₁
    have hdue (ok : Bool) : DataDue service anchorUs slots.length
        ⟨item, air₁.channel, nowUs₃, ok⟩ := by
      rw [hk, hchannel₁]
      exact ⟨hchannel, not_le.mp hbegun⟩
    rw [meets_bind]
    refine Meets.mono (sendItem_meets protocol encodeFhssSync service anchorUs rfl hslots
      (hslots ▸ h₁.scheduled) (hslots ▸ h₁.sent) hdue) ?_
    rintro _ air₂ ⟨h₂, hlength₂, hchannel₂⟩
    exact ⟨h₂, hlength₂.trans (congrArg (· + 1) hk), hchannel₂.trans hchannel₁⟩

/-- The scheduler gives the slots their starts. -/
def Anchored : Prop :=
  ∀ slot startUs, fhssSlotSchedulerGetSlotStartTime service.controller.scheduler slot =
    .ok startUs → startUs = anchorUs + slot.toNat * service.controller.scheduler.duration

/-- The slot and the sequence number that come next. -/
def nextSlot (air : TxAir) : UInt32 × UInt16 :=
  (UInt32.ofNat air.slots.length, UInt16.ofNat air.slots.length)

/-- As many slots on the air, the same slot next. -/
lemma nextSlot_congr {air' : TxAir} (h : air'.slots.length = air.slots.length) :
    nextSlot air' = nextSlot air := by
  rw [nextSlot, nextSlot, h]

/-- After one more slot the next one is next. -/
lemma nextSlot_succ {air' : TxAir} (h : air'.slots.length = air.slots.length + 1) :
    nextSlot air' = ((nextSlot air).1 + 1, (nextSlot air).2 + 1) := by
  rw [nextSlot, h, UInt32.ofNat_add, UInt16.ofNat_add]
  rfl

/-- **One slot of the task**: it keeps the schedule, and goes on with the next slot that has not
been on the air. -/
lemma txSlot_meets (pdMsToTicks : UInt32 → ℕ) (rounds : ℕ) (hanchored : Anchored service anchorUs)
    (h : BetweenPackets protocol encodeFhssSync service anchorUs air) :
    (airing protocol encodeFhssSync service anchorUs).Meets True
      (TxTask.txSlot pdMsToTicks protocol encodeFhssSync service rounds (nextSlot air)) air fun
      | .inl next, air' => BetweenPackets protocol encodeFhssSync service anchorUs air' ∧
          next = nextSlot air'
      | .inr _, air' => MayEnd protocol encodeFhssSync service air' := by
  unfold TxTask.txSlot
  rw [meets_bind, meets_shouldStop]
  intro stopping
  split
  · rename_i hstopping
    exact .inl hstopping
  split
  · exact ⟨trivial, fun _ _ => ⟨trivial, fun _ _ =>
      ⟨⟨h.held, h.inFlight, h.scheduled, h.sent⟩, rfl⟩⟩⟩
  rename_i startUs hstart
  obtain rfl := hanchored _ _ hstart
  -- the channel of the slot is selected before it starts
  rw [meets_bind]
  apply (delayUntilUs_meets protocol encodeFhssSync service anchorUs pdMsToTicks rounds _).mono
  rintro _ _ ⟨switchUs, -, rfl⟩
  rw [meets_bind]
  apply (selectChannel_meets protocol encodeFhssSync service anchorUs _).mono
  rintro selected _ ⟨channel, rfl, hchannel⟩
  split
  swap
  · exact ⟨trivial, fun _ _ => ⟨⟨h.held, h.inFlight, h.scheduled, h.sent⟩, rfl⟩⟩
  rename_i hselected
  obtain ⟨channel', hchannel', rfl⟩ := hchannel hselected
  rw [meets_bind]
  apply (delayUntilUs_meets protocol encodeFhssSync service anchorUs pdMsToTicks rounds _).mono
  rintro _ _ ⟨nowUs, hstarted, rfl⟩
  -- the SYNC packet
  have h₀ : BetweenPackets protocol encodeFhssSync service anchorUs
      { air with nowUs := nowUs, channel := some channel', stopping := stopping } :=
    ⟨h.held, h.inFlight, h.scheduled, h.sent⟩
  rw [meets_bind]
  refine Meets.mono (sendSync_meets protocol encodeFhssSync service anchorUs h₀
    ⟨channel', hchannel', rfl⟩ hstarted) ?_
  rintro sent air₁ ⟨hfailed, hsent⟩
  split
  swap
  · rename_i hfalse
    rw [meets_bind]
    refine ⟨trivial, fun _ _ => hfailed (Bool.not_eq_true _ ▸ hfalse)⟩
  rename_i htrue
  obtain ⟨h₁, hchannel₁, hlength₁⟩ := hsent htrue
  have hnext : (UInt32.ofNat air.slots.length + 1, UInt16.ofNat air.slots.length + 1) =
      nextSlot air₁ := (nextSlot_succ hlength₁).symm
  rw [meets_bind, meets_rfTransportWaitRxTimestamp]
  -- the data
  split
  · exact ⟨h₁, hnext⟩
  rename_i nextStartUs hnextStart
  have hnextStart' : nextStartUs = slotStartUs service anchorUs (air.slots.length + 1) := by
    rw [slotStartUs, UInt32.ofNat_add]
    exact hanchored _ _ hnextStart
  rw [meets_bind, hnextStart']
  refine Meets.mono (drainTxDataUntil_meets protocol encodeFhssSync service anchorUs pdMsToTicks
    rounds h₁ hlength₁ ⟨channel', hchannel', hchannel₁⟩) ?_
  rintro _ air₂ ⟨h₂, hlength₂⟩
  exact ⟨h₂, hnext.trans (nextSlot_congr (hlength₂.trans hlength₁.symm)).symm⟩

/-! ## The whole task -/

lemma receive_eq (received : Option Bytes) :
    air.receive received = { air with
      held := received <|> air.held
      taken := air.taken ++ received.toList } := by
  cases received with
  | none =>
    rw [TxAir.receive, Option.toList_none, List.append_nil]
    rfl
  | some item => rfl

/-- A packet from the queue is on the air, or still held. -/
def Accounted (air : TxAir) : Prop := air.taken = dataFrames air.slots ++ air.held.toList

lemma accounted_transmit {data : Bytes} (ok : Bool)
    (hallowed : ∀ item ∈ air.held, item = data ∧ air.inFlight = true ∧ air.slots ≠ [])
    (h : Accounted air) : Accounted (air.transmit data ok) := by
  rw [Accounted] at h
  cases hheld : air.held with
  | none =>
    rw [transmit_sync hheld, Accounted, dataFrames, List.map_nil, List.append_nil]
    exact h
  | some item =>
    obtain ⟨rfl, -, hne⟩ := hallowed item hheld
    obtain ⟨slot, slots, hslots⟩ := List.exists_cons_of_ne_nil hne
    rw [hheld, hslots, dataFrames, Option.toList_some] at h
    rw [transmit_data hheld hslots, Accounted, dataFrames, List.map_append, h]
    simp

lemma accounted_receive (received : Option Bytes) (hheld : air.held = none)
    (h : Accounted air) : Accounted (air.receive received) := by
  rw [Accounted, hheld, Option.toList_none, List.append_nil] at h
  rw [receive_eq, Accounted, hheld, h]
  simp

lemma accounted_putBack {item : Bytes} (hheld : air.held = some item) (h : Accounted air) :
    Accounted { air with held := none, taken := air.taken.dropLast } := by
  rw [Accounted, hheld, Option.toList_some] at h
  rw [Accounted, h, List.dropLast_concat, Option.toList_none, List.append_nil]

/-- An allowed call keeps account of the packets. -/
lemma accounted_next {c : TxCall} (answer : c.Answer)
    (hallowed : (airing protocol encodeFhssSync service anchorUs).Allowed air c)
    (h : Accounted air) : Accounted (air.next c answer) := by
  cases c with
  | rfTransportSendPacket data => exact accounted_transmit answer hallowed.1 h
  | xQueueReceive ticks => exact accounted_receive answer hallowed h
  | xQueueSendToFront item => exact accounted_putBack hallowed h
  | _ => exact h

lemma slots_receive (received : Option Bytes) : (air.receive received).slots = air.slots := by
  rw [receive_eq]

/-- An allowed call keeps the schedule. -/
lemma scheduled_next {c : TxCall} (answer : c.Answer)
    (hallowed : (airing protocol encodeFhssSync service anchorUs).Allowed air c)
    (h : Scheduled protocol encodeFhssSync service anchorUs air.slots) :
    Scheduled protocol encodeFhssSync service anchorUs (air.next c answer).slots := by
  cases c with
  | rfTransportSendPacket data => exact hallowed.2 answer
  | xQueueReceive ticks => exact (slots_receive answer).symm ▸ h
  | _ => exact h

/-- After the calls of a legal run the log is a schedule with account of every packet. -/
lemma scheduled_of_legal {events : List (Event TxCall TxCall.Answer)}
    (hlegal : (airing protocol encodeFhssSync service anchorUs).Legal air events)
    (hscheduled : Scheduled protocol encodeFhssSync service anchorUs air.slots)
    (haccounted : Accounted air) :
    Scheduled protocol encodeFhssSync service anchorUs
      ((airing protocol encodeFhssSync service anchorUs).after air events).slots ∧
      Accounted ((airing protocol encodeFhssSync service anchorUs).after air events) := by
  induction events generalizing air with
  | nil => exact ⟨hscheduled, haccounted⟩
  | cons e events ih =>
    obtain ⟨hallowed, hlegal⟩ := hlegal
    exact ih hlegal
      (scheduled_next protocol encodeFhssSync service anchorUs e.2 hallowed hscheduled)
      (accounted_next protocol encodeFhssSync service anchorUs e.2 hallowed haccounted)

/-- With its scheduler initialized and the clock past its start, the task anchors slot 0 at 100 ms
from its first reading. -/
lemma anchored_referenced {nowUs : ℤ}
    (hinitialized : service.controller.scheduler.initialized = true) (hnow : 0 ≤ nowUs) :
    Anchored (TxTask.referenced service nowUs) (nowUs + 100000) := by
  have hreference : fhssSlotSchedulerSetReference service.controller.scheduler 0 (nowUs + 100000) =
      .ok { service.controller.scheduler with
        referenceSlot := 0, referenceTimeUs := nowUs + 100000, synchronized := true } := by
    unfold fhssSlotSchedulerSetReference validateScheduler
    rw [if_neg (by simp [hinitialized]), if_neg (by simp)]
    exact if_neg (by omega)
  unfold TxTask.referenced
  rw [hreference]
  intro slot startUs hstart
  unfold fhssSlotSchedulerGetSlotStartTime validateScheduler at hstart
  rw [if_neg (by simp [hinitialized]), if_neg (by simp)] at hstart
  dsimp only at hstart
  rw [if_neg (by simp)] at hstart
  split at hstart
  · cases hstart
  · rw [← Except.ok.inj hstart, UInt32.sub_zero]
    rfl

/-- The loop of the task, from before the first slot. -/
lemma txSlots_meets (pdMsToTicks : UInt32 → ℕ) (rounds : ℕ) (nowUs : ℤ)
    (hanchored : Anchored service anchorUs) :
    (airing protocol encodeFhssSync service anchorUs).Meets True
      (.iterate (TxTask.txSlot pdMsToTicks protocol encodeFhssSync service rounds) rounds (0, 0))
      (.idle nowUs) fun _ air => MayEnd protocol encodeFhssSync service air := by
  refine meets_iterate (fun next air =>
    BetweenPackets protocol encodeFhssSync service anchorUs air ∧ next = nextSlot air) ?_ ?_ rounds
  · rintro next air ⟨h, rfl⟩
    apply (txSlot_meets protocol encodeFhssSync service anchorUs pdMsToTicks rounds hanchored
      h).mono
    rintro (next | done) air' h'
    · exact h'
    · exact h'
  · exact ⟨⟨rfl, rfl, trivial, fun slot hslot => nomatch hslot⟩, rfl⟩

/-- After the first reading of the clock the task is its loop. -/
lemma run_txSlots {protocol : OtaProtocol} {encodeFhssSync : OtaFhssSyncFields → Option Bytes}
    {service : FhssService} {pdMsToTicks : UInt32 → ℕ} {rounds : ℕ} {nowUs : ℤ}
    {events : List (Event TxCall TxCall.Answer)} {result : Option Unit}
    (h : Run (TxTask.txTask pdMsToTicks protocol encodeFhssSync service rounds)
      (⟨.espTimerGetTime, nowUs⟩ :: events) result) :
    Run (Program.iterate (TxTask.txSlot pdMsToTicks protocol encodeFhssSync
      (TxTask.referenced service nowUs) rounds) rounds (0, 0)) events result := by
  cases h with
  | ask h => exact h

/-- **The schedule of the TX task**: in every run, however far it has come, the SYNC packets on the
air are those of the slots 0, 1, 2, ..., each on the channel of its slot and not before it starts;
the data is what was taken out of the queue, in order, on the channel of its slot and begun before
the guard; every call was allowed, so data was flagged as in flight when it was handed to the radio;
and the task only ends when it is told to or when a SYNC packet was not sent. -/
theorem txTask_run {pdMsToTicks : UInt32 → ℕ} {rounds : ℕ} {nowUs : ℤ}
    {events : List (Event TxCall TxCall.Answer)} {result : Option Unit}
    (hinitialized : service.controller.scheduler.initialized = true) (hnow : 0 ≤ nowUs)
    (h : Run (TxTask.txTask pdMsToTicks protocol encodeFhssSync service rounds)
      (⟨.espTimerGetTime, nowUs⟩ :: events) result) :
    let world := airing protocol encodeFhssSync (TxTask.referenced service nowUs) (nowUs + 100000)
    let air := world.after (.idle nowUs) events
    world.Legal (.idle nowUs) events ∧
      Scheduled protocol encodeFhssSync (TxTask.referenced service nowUs) (nowUs + 100000)
        air.slots ∧
      Accounted air ∧
      (result ≠ none → MayEnd protocol encodeFhssSync (TxTask.referenced service nowUs) air) := by
  have hmeets := txSlots_meets protocol encodeFhssSync (TxTask.referenced service nowUs)
    (nowUs + 100000) pdMsToTicks rounds nowUs (anchored_referenced service hinitialized hnow)
  obtain ⟨hlegal, hends⟩ := hmeets.run (run_txSlots h) (real_of_possible (fun _ _ => trivial) _ _)
  obtain ⟨hscheduled, haccounted⟩ := scheduled_of_legal protocol encodeFhssSync
    (TxTask.referenced service nowUs) (nowUs + 100000) hlegal trivial rfl
  refine ⟨hlegal, hscheduled, haccounted, fun hresult => ?_⟩
  obtain ⟨done, hdone⟩ := Option.ne_none_iff_exists'.mp hresult
  exact hends done hdone

end Schedule

/-- A run over two slots: in the first one a packet is sent and another one is put back, and the
task is stopped in the second one. -/
def benchTxEvents : List (Event TxCall TxCall.Answer) :=
  [⟨.shouldStop, false⟩, ⟨.espTimerGetTime, (90000 : ℤ)⟩, ⟨.vTaskDelay 4, ()⟩,
    ⟨.espTimerGetTime, (96000 : ℤ)⟩, ⟨.rfTransportSetChannel 1, true⟩, ⟨.setCurrentChannel 1, ()⟩,
    ⟨.espTimerGetTime, (100050 : ℤ)⟩,
    ⟨.rfTransportSendPacket [10, 1, 7, 0, 0, 0, 0, 0, 0, 0, 0, 0, 0], true⟩,
    ⟨.rfTransportWaitRxTimestamp 20, ()⟩,
    ⟨.espTimerGetTime, (110000 : ℤ)⟩, ⟨.espTimerGetTime, (110010 : ℤ)⟩,
    ⟨.xQueueReceive 20, some ([0x55] : Bytes)⟩, ⟨.espTimerGetTime, (112000 : ℤ)⟩,
    ⟨.setTxInFlight true, ()⟩, ⟨.rfTransportSendPacket [0x55], true⟩,
    ⟨.rfTransportWaitRxTimestamp 20, ()⟩, ⟨.setTxInFlight false, ()⟩,
    ⟨.espTimerGetTime, (374000 : ℤ)⟩, ⟨.espTimerGetTime, (374100 : ℤ)⟩,
    ⟨.xQueueReceive 1, some ([0x66] : Bytes)⟩, ⟨.espTimerGetTime, (375001 : ℤ)⟩,
    ⟨.xQueueSendToFront [0x66], ()⟩, ⟨.shouldStop, true⟩]

/-- The log after this run. -/
def benchTxAir : TxAir :=
  (airing plainProtocol plainEncodeFhssSync (TxTask.referenced sampleHopsTx 0) (0 + 100000)).after
    (.idle 0) benchTxEvents

theorem txTask_run_bench :
    Scheduled plainProtocol plainEncodeFhssSync (TxTask.referenced sampleHopsTx 0) (0 + 100000)
      benchTxAir.slots ∧ benchTxAir.taken = [[0x55]] := by
  have hrun : Run (TxTask.txTask UInt32.toNat plainProtocol plainEncodeFhssSync sampleHopsTx 3)
      (⟨.espTimerGetTime, (0 : ℤ)⟩ :: benchTxEvents) (some ()) :=
    .ask (.ask (.ask (.ask (.ask (.ask (.ask (.ask (.ask (.ask (.ask (.ask (.ask (.ask (.ask (.ask
      (.ask (.ask (.ask (.ask (.ask (.ask (.ask (.ask (.ret _))))))))))))))))))))))))
  exact ⟨(txTask_run plainProtocol plainEncodeFhssSync sampleHopsTx rfl le_rfl hrun).2.1, rfl⟩

end FhssOtaRadio
