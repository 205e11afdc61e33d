import FhssOtaRadio.Esp
import FhssOtaRadio.Library.Dialogue

/-!
# The CC1101 driver

`rf_transport.c` as a dialogue with the radio: every exchange with the chip is one `spi_transfer`,
and between the exchanges the driver reads the clock, sleeps, and uses the queue of the GDO0
interrupt.  How a transfer is made at the pins is in `FhssOtaRadio.RfTransport.Pins`.

The polling loops of the source run until a deadline; here each is watched for at most `polls`
rounds.
-/

namespace FhssOtaRadio

open Dialogue

/-- `rf_transport_status_t` without `RF_TRANSPORT_STATUS_OK`. -/
inductive RfTransportError where
  | invalidArg
  | notInitialized
  | spiError
  | timeout
  deriving DecidableEq, Repr

/-- `rf_transport_t`.  Handles are numbers, and a handle that is `NULL` is `none`. -/
structure RfTransport where
  spiDevice : Option ℕ
  spiHost : ℕ
  csGpio : ℤ
  misoGpio : ℤ
  gdo0Gpio : ℤ
  rxTimestampQueue : Option ℕ
  initialized : Bool
  gdo0InterruptEnabled : Bool
  deriving DecidableEq, Repr

/-- `rf_transport_chip_info_t`. -/
structure RfTransportChipInfo where
  partnum : UInt8
  version : UInt8
  deriving DecidableEq, Repr

/-- `rf_transport_rx_packet_t`: the payload with its length, and what the radio says of it. -/
structure RfTransportRxPacket where
  payload : Bytes
  rssiDbm : ℤ
  lqi : UInt8
  crcOk : Bool
  deriving DecidableEq, Repr

/-! ## The constants -/

def cc1101PartnumAddr : UInt8 := 0x30
def cc1101VersionAddr : UInt8 := 0x31
def cc1101ReadBurst : UInt8 := 0xC0
def cc1101PacketTimeoutUs : ℤ := 100000
def cc1101WriteBurst : UInt8 := 0x40
def cc1101ReadSingle : UInt8 := 0x80
def cc1101FifoAddr : UInt8 := 0x3F
def cc1101PatableAddr : UInt8 := 0x3E
def cc1101ChannrAddr : UInt8 := 0x0A
def cc1101Sres : UInt8 := 0x30
def cc1101Srx : UInt8 := 0x34
def cc1101Stx : UInt8 := 0x35
def cc1101Sidle : UInt8 := 0x36
def cc1101Sfrx : UInt8 := 0x3A
def cc1101Sftx : UInt8 := 0x3B
def cc1101MarcstateAddr : UInt8 := 0x35
def cc1101TxbytesAddr : UInt8 := 0x3A
def cc1101RxbytesAddr : UInt8 := 0x3B
def cc1101MarcstateIdle : UInt8 := 0x01
def cc1101MarcstateMask : UInt8 := 0x1F
def cc1101FifoErrorMask : UInt8 := 0x80
def cc1101FifoCountMask : UInt8 := 0x7F

/-- `s_433mhz_settings`: the address and the value of every register the driver writes. -/
def s433mhzSettings : List (UInt8 × UInt8) :=
  [(0x00, 0x29), (0x02, 0x06), (0x03, 0x47),
    (0x04, 0xD3), (0x05, 0x91), (0x06, UInt8.ofNat rfTransportMaxPacketLength),
    (0x07, 0x04), (0x08, 0x05), (0x09, 0x00), (0x0A, 0x00),
    (0x0B, 0x06), (0x0C, 0x00),
    (0x0D, 0x10), (0x0E, 0xB0), (0x0F, 0x71),
    (0x10, 0xCA), (0x11, 0x83), (0x12, 0x03),
    (0x13, 0x22), (0x14, 0xF8), (0x15, 0x35),
    (0x16, 0x07), (0x17, 0x00), (0x18, 0x18),
    (0x19, 0x16), (0x1A, 0x6C),
    (0x1B, 0x43), (0x1C, 0x40), (0x1D, 0x91),
    (0x21, 0x56), (0x22, 0x10),
    (0x23, 0xE9), (0x24, 0x2A), (0x25, 0x00), (0x26, 0x1F),
    (0x2C, 0x81), (0x2D, 0x35), (0x2E, 0x09)]

/-! ## The calls -/

/-- What the driver asks of the rest of the system. -/
inductive RadioCall where
  /-- `spi_transfer` of the bytes `txData`. -/
  | spiTransfer (txData : Bytes)
  /-- `reset_radio`. -/
  | resetRadio
  /-- `gpio_set_level(transport->cs_gpio, 1)` outside of a transfer. -/
  | releaseCs
  | espTimerGetTime
  | vTaskDelay (ticks : ℕ)
  /-- `xQueueReset(transport->rx_timestamp_queue)`. -/
  | xQueueReset
  /-- `xQueueReceive(transport->rx_timestamp_queue, ..)`. -/
  | xQueueReceive (ticks : ℕ)
  deriving DecidableEq, Repr

/-- The bytes that come back in a transfer of `txData`: as many as went out. -/
abbrev Received (txData : Bytes) := { rxData : Bytes // rxData.length = txData.length }

/-- The answer to each call. -/
def RadioCall.Answer : RadioCall → Type
  | .spiTransfer txData => Except RfTransportError (Received txData)
  | .resetRadio => Except RfTransportError Unit
  | .releaseCs => Unit
  | .espTimerGetTime => ℤ
  | .vTaskDelay _ => Unit
  | .xQueueReset => Unit
  | .xQueueReceive _ => Option ℤ

/-- An operation of the driver: it talks to the radio, and fails with a status that is not
`RF_TRANSPORT_STATUS_OK`. -/
abbrev RadioOp := Fallible RfTransportError RadioCall RadioCall.Answer

/-! ## One exchange with the chip -/

def spiTransfer (txData : Bytes) : RadioOp (Received txData) :=
  ExceptT.mk (.call (RadioCall.spiTransfer txData))

def resetRadio : RadioOp Unit := ExceptT.mk (.call RadioCall.resetRadio)

def releaseCs : RadioOp Unit := Fallible.call RadioCall.releaseCs

def espTimerGetTime : RadioOp ℤ := Fallible.call RadioCall.espTimerGetTime

def vTaskDelay (ticks : ℕ) : RadioOp Unit := Fallible.call (RadioCall.vTaskDelay ticks)

def xQueueReset : RadioOp Unit := Fallible.call RadioCall.xQueueReset

def xQueueReceive (ticks : ℕ) : RadioOp (Option ℤ) := Fallible.call (RadioCall.xQueueReceive ticks)

/-- `command_strobe`. -/
def commandStrobe (command : UInt8) : RadioOp Unit := do
  let _ ← spiTransfer [command]
  return ()

/-- `write_register`. -/
def writeRegister (address value : UInt8) : RadioOp Unit := do
  let _ ← spiTransfer [address, value]
  return ()

/-- `write_burst`. -/
def writeBurst (address : UInt8) (data : Bytes) : RadioOp Unit :=
  if data.length = 0 ∨ rfTransportMaxPacketLength + 1 < data.length then throw .invalidArg
  else do
    let _ ← spiTransfer ((cc1101WriteBurst ||| address) :: data)
    return ()

/-- `read_burst` of `length` bytes. -/
def readBurst (address : UInt8) (length : ℕ) : RadioOp Bytes :=
  if length = 0 ∨ rfTransportMaxPacketLength + 2 < length then throw .invalidArg
  else do
    let rxData ← spiTransfer ((cc1101ReadBurst ||| address) :: List.replicate length 0)
    return rxData.1.drop 1

/-- `read_status_register`. -/
def readStatusRegister (transport : RfTransport) (address : UInt8) : RadioOp UInt8 :=
  if ¬ transport.initialized then throw .notInitialized
  else do
    let rxData ← spiTransfer [cc1101ReadBurst ||| address, 0]
    return rxData.1.getD 1 0

/-- `read_config_register`. -/
def readConfigRegister (address : UInt8) : RadioOp UInt8 := do
  let rxData ← spiTransfer [cc1101ReadSingle ||| address, 0]
  return rxData.1.getD 1 0

/-- A loop `while (esp_timer_get_time() < deadline_us)` whose body sleeps for a tick when it does
not leave the loop. -/
def pollUntil {α : Type} (polls : ℕ) (deadlineUs : ℤ) (body : RadioOp (Option α)) :
    RadioOp (Option α) :=
  Fallible.loop (do
    let nowUs ← espTimerGetTime
    if nowUs < deadlineUs then
      match ← body with
      | some a => return some (some a)
      | none => do
        vTaskDelay 1
        return none
    else return some none) polls

/-! ## The operations -/

/-- `rf_transport_read_chip_info`. -/
def rfTransportReadChipInfo (transport : RfTransport) : RadioOp RfTransportChipInfo := do
  let partnum ← readStatusRegister transport cc1101PartnumAddr
  let version ← readStatusRegister transport cc1101VersionAddr
  return { partnum, version }

/-- The loop of `rf_transport_configure_433mhz` over the settings. -/
def writeSettings : List (UInt8 × UInt8) → RadioOp Unit
  | [] => return ()
  | setting :: settings => do
    writeRegister setting.1 setting.2
    writeSettings settings

/-- `rf_transport_configure_433mhz`. -/
def rfTransportConfigure433mhz (transport : RfTransport) : RadioOp Unit :=
  if ¬ transport.initialized then throw .notInitialized
  else do
    resetRadio
    writeSettings s433mhzSettings
    let iocfg2Readback ← readConfigRegister 0x00
    if iocfg2Readback ≠ 0x29 then throw .spiError
    else do
      writeRegister cc1101PatableAddr 0xC0
      commandStrobe cc1101Sidle
      commandStrobe cc1101Sfrx
      commandStrobe cc1101Sftx

/-- `rf_transport_recover_433mhz`. -/
def rfTransportRecover433mhz (transport : RfTransport) : RadioOp Unit :=
  if ¬ transport.initialized then throw .notInitialized
  else do
    releaseCs
    vTaskDelay 1
    if transport.rxTimestampQueue.isSome then do
      xQueueReset
      rfTransportConfigure433mhz transport
    else rfTransportConfigure433mhz transport

/-- `rf_transport_set_channel`. -/
def rfTransportSetChannel (transport : RfTransport) (channel : UInt8) : RadioOp Unit :=
  if ¬ transport.initialized then throw .notInitialized
  else do
    commandStrobe cc1101Sidle
    writeRegister cc1101ChannrAddr channel
    commandStrobe cc1101Sfrx
    commandStrobe cc1101Sftx
    if transport.rxTimestampQueue.isSome then xQueueReset
    else return ()

/-- `rf_transport_start_receive`. -/
def rfTransportStartReceive (transport : RfTransport) : RadioOp Unit :=
  if ¬ transport.initialized then throw .notInitialized
  else commandStrobe cc1101Srx

/-- The body of the loop of `rf_transport_send_packet`: the packet is out when the radio is idle
again and its FIFO has drained. -/
def pollSent (transport : RfTransport) : RadioOp (Option Unit) := do
  let marcState ← readStatusRegister transport cc1101MarcstateAddr
  if marcState &&& cc1101MarcstateMask = cc1101MarcstateIdle then do
    let txBytes ← readStatusRegister transport cc1101TxbytesAddr
    if txBytes &&& cc1101FifoErrorMask ≠ 0 then throw .spiError
    else if txBytes &&& cc1101FifoCountMask = 0 then return some ()
    else return none
  else return none

/-- `rf_transport_send_packet` of the `payload.length` bytes that the source is handed. -/
def rfTransportSendPacket (transport : RfTransport) (polls : ℕ) (payload : Bytes) :
    RadioOp Unit :=
  if payload.length = 0 ∨ rfTransportMaxPacketLength < payload.length then throw .invalidArg
  else if ¬ transport.initialized then throw .notInitialized
  else do
    commandStrobe cc1101Sidle
    commandStrobe cc1101Sftx
    writeBurst cc1101FifoAddr (UInt8.ofNat payload.length :: payload)
    commandStrobe cc1101Stx
    let nowUs ← espTimerGetTime
    match ← pollUntil polls (nowUs + cc1101PacketTimeoutUs) (pollSent transport) with
    | some () => return ()
    | none => do
      -- the last two readings are for the log only
      Fallible.ignore (readStatusRegister transport cc1101MarcstateAddr)
      Fallible.ignore (readStatusRegister transport cc1101TxbytesAddr)
      Fallible.ignore (commandStrobe cc1101Sidle)
      Fallible.ignore (commandStrobe cc1101Sftx)
      throw .timeout

/-- The body of the first loop of `rf_transport_receive_packet`: wait for the length byte. -/
def pollLength (transport : RfTransport) : RadioOp (Option UInt8) := do
  let rxBytes ← readStatusRegister transport cc1101RxbytesAddr
  if rxBytes &&& cc1101FifoErrorMask ≠ 0 then do
    Fallible.ignore (commandStrobe cc1101Sidle)
    Fallible.ignore (commandStrobe cc1101Sfrx)
    Fallible.ignore (commandStrobe cc1101Srx)
    throw .spiError
  else if 0 < rxBytes &&& cc1101FifoCountMask then do
    let data ← readBurst cc1101FifoAddr 1
    return some (data.getD 0 0)
  else return none

/-- The packet that `rf_transport_receive_packet` makes of the bytes after the length byte: the
payload, and the two status bytes that the radio appends.  The halving truncates towards zero. -/
def rxPacketOf (packetLength : UInt8) (packetData : Bytes) : RfTransportRxPacket where
  payload := packetData.take packetLength.toNat
  rssiDbm := (packetData.getD packetLength.toNat 0).toInt8.toInt.tdiv 2 - 74
  lqi := packetData.getD (packetLength.toNat + 1) 0 &&& 0x7F
  crcOk := packetData.getD (packetLength.toNat + 1) 0 &&& 0x80 ≠ 0

/-- The body of the second loop of `rf_transport_receive_packet`: wait for the whole packet. -/
def pollPacket (transport : RfTransport) (packetLength : UInt8) :
    RadioOp (Option RfTransportRxPacket) := do
  let rxBytes ← readStatusRegister transport cc1101RxbytesAddr
  if packetLength + 2 ≤ rxBytes &&& cc1101FifoCountMask then do
    let packetData ← readBurst cc1101FifoAddr (packetLength.toNat + 2)
    Fallible.ignore (commandStrobe cc1101Srx)
    return some (rxPacketOf packetLength packetData)
  else return none

/-- How `rf_transport_receive_packet` gives up: the radio goes idle and its FIFO is flushed. -/
def giveUpReceive : RadioOp RfTransportRxPacket := do
  Fallible.ignore (commandStrobe cc1101Sidle)
  Fallible.ignore (commandStrobe cc1101Sfrx)
  throw .timeout

/-- `rf_transport_receive_packet`. -/
def rfTransportReceivePacket (transport : RfTransport) (polls timeoutMs : ℕ) :
    RadioOp RfTransportRxPacket :=
  if ¬ transport.initialized then throw .notInitialized
  else do
    commandStrobe cc1101Srx
    let nowUs ← espTimerGetTime
    let deadlineUs := nowUs + timeoutMs * 1000
    let polled ← pollUntil polls deadlineUs (pollLength transport)
    let packetLength := polled.getD 0
    if packetLength = 0 ∨ rfTransportMaxPacketLength < packetLength.toNat then giveUpReceive
    else do
      match ← pollUntil polls deadlineUs (pollPacket transport packetLength) with
      | some packet => return packet
      | none => giveUpReceive

/-- `rf_transport_wait_rx_timestamp`; a tick is a millisecond. -/
def rfTransportWaitRxTimestamp (transport : RfTransport) (timeoutMs : ℕ) : RadioOp ℤ :=
  if ¬ transport.initialized ∨ ¬ transport.gdo0InterruptEnabled ∨
      transport.rxTimestampQueue.isNone then throw .notInitialized
  else do
    match ← xQueueReceive timeoutMs with
    | some timestampUs => return timestampUs
    | none => throw .timeout

/-! ## Rules -/

section Rules

open World

variable {ρ : Type*} {W : World RadioCall RadioCall.Answer ρ} {Owed : Prop} {s : ρ}
  {E : RfTransportError → ρ → Prop}

/-- A call that a world lets pass without taking notice. -/
def Quiet (W : World RadioCall RadioCall.Answer ρ) (c : RadioCall) : Prop :=
  ∀ s, W.Allowed s c ∧ ∀ answer, W.next s ⟨c, answer⟩ = s

/-- A transfer owes its bytes to the world, and goes on with what comes back or with the error. -/
lemma fulfils_spiTransfer {txData : Bytes} {Q : Received txData → ρ → Prop} :
    W.Fulfils Owed (spiTransfer txData) s Q E ↔ W.Allowed s (.spiTransfer txData) ∧
      (∀ rxData, W.Possible s ⟨.spiTransfer txData, .ok rxData⟩ →
        Q rxData (W.next s ⟨.spiTransfer txData, .ok rxData⟩)) ∧
      ∀ e, W.Possible s ⟨.spiTransfer txData, .error e⟩ →
        E e (W.next s ⟨.spiTransfer txData, .error e⟩) := by
  refine and_congr Iff.rfl ⟨fun h => ⟨fun rxData => h (.ok rxData), fun e => h (.error e)⟩, ?_⟩
  rintro ⟨hok, herror⟩ (e | rxData)
  · exact herror e
  · exact hok rxData

lemma fulfils_resetRadio {Q : Unit → ρ → Prop} :
    W.Fulfils Owed resetRadio s Q E ↔ W.Allowed s .resetRadio ∧
      (∀ done, W.Possible s ⟨.resetRadio, .ok done⟩ →
        Q done (W.next s ⟨.resetRadio, .ok done⟩)) ∧
      ∀ e, W.Possible s ⟨.resetRadio, .error e⟩ → E e (W.next s ⟨.resetRadio, .error e⟩) := by
  refine and_congr Iff.rfl ⟨fun h => ⟨fun done => h (.ok done), fun e => h (.error e)⟩, ?_⟩
  rintro ⟨hok, herror⟩ (e | done)
  · exact herror e
  · exact hok done

/-- A quiet call changes nothing. -/
lemma fulfils_quiet {c : RadioCall} (hc : Quiet W c) {Q : c.Answer → ρ → Prop}
    (h : ∀ answer, Q answer s) :
    W.Fulfils Owed (Fallible.call c : RadioOp c.Answer) s Q E := by
  refine ⟨(hc s).1, fun answer _ => ?_⟩
  rw [(hc s).2 answer]
  exact h answer

/-- The rule for polling until a deadline: an invariant that every round keeps. -/
lemma fulfils_pollUntil {α : Type} (Inv : ρ → Prop) (hclock : Quiet W .espTimerGetTime)
    (hdelay : Quiet W (.vTaskDelay 1)) {body : RadioOp (Option α)} {Q : Option α → ρ → Prop}
    (hbody : ∀ s, Inv s → W.Fulfils True body s (fun
      | some a, s' => Q (some a) s'
      | none, s' => Inv s') E)
    (hnone : ∀ s, Inv s → Q none s) (h : Inv s) (polls : ℕ) (deadlineUs : ℤ) :
    W.Fulfils True (pollUntil polls deadlineUs body) s Q E := by
  refine fulfils_loop Inv (fun s hs => ?_) h polls
  rw [fulfils_bind]
  refine fulfils_quiet hclock fun nowUs => ?_
  split
  · rw [fulfils_bind]
    apply (hbody s hs).mono _ fun _ _ h => h
    rintro (_ | a) s' hs'
    · rw [fulfils_bind]
      exact fulfils_quiet hdelay fun _ => hs'
    · exact hs'
  · exact hnone s hs

end Rules

end FhssOtaRadio
