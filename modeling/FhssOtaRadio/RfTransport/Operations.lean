import FhssOtaRadio.RfTransport.Radio
import Mathlib.Data.Set.Insert

/-!
# The operations of the driver and what they can put on the bus

The firmware drives the radio by one operation after the other.  `RadioOperation.transfers` says of
each operation which transfers it can make, whatever the radio answers; what all of these keep, the
operation keeps (`toOp_keeps`).
-/

namespace FhssOtaRadio

open Dialogue World

/-- The operations that the rest of the firmware uses on an initialised radio. -/
inductive RadioOperation where
  | readChipInfo
  | configure433mhz
  | recover433mhz
  | setChannel (channel : UInt8)
  | startReceive
  | sendPacket (payload : Bytes)
  | receivePacket (timeoutMs : ℕ)
  | waitRxTimestamp (timeoutMs : ℕ)
  deriving DecidableEq, Repr

/-- What an operation that succeeds hands out. -/
inductive RadioResult where
  | done
  | chipInfo (info : RfTransportChipInfo)
  | packet (packet : RfTransportRxPacket)
  | timestamp (timestampUs : ℤ)
  deriving DecidableEq, Repr

/-- The function behind each operation. -/
def RadioOperation.toOp (transport : RfTransport) (polls : ℕ) :
    RadioOperation → RadioOp RadioResult
  | readChipInfo => do
    let info ← rfTransportReadChipInfo transport
    return .chipInfo info
  | configure433mhz => do
    rfTransportConfigure433mhz transport
    return .done
  | recover433mhz => do
    rfTransportRecover433mhz transport
    return .done
  | setChannel channel => do
    rfTransportSetChannel transport channel
    return .done
  | startReceive => do
    rfTransportStartReceive transport
    return .done
  | sendPacket payload => do
    rfTransportSendPacket transport polls payload
    return .done
  | receivePacket timeoutMs => do
    let packet ← rfTransportReceivePacket transport polls timeoutMs
    return .packet packet
  | waitRxTimestamp timeoutMs => do
    let timestampUs ← rfTransportWaitRxTimestamp transport timeoutMs
    return .timestamp timestampUs

/-- A driver that has been set up with the GDO0 interrupt. -/
def benchTransport : RfTransport where
  spiDevice := some 2
  spiHost := 1
  csGpio := 10
  misoGpio := 13
  gdo0Gpio := 14
  rxTimestampQueue := some 1
  initialized := true
  gdo0InterruptEnabled := true

/-- A transfer that brings in `rxData`, which has to be as long as what goes out. -/
def benchTransfer (txData rxData : Bytes) : Event RadioCall RadioCall.Answer :=
  ⟨.spiTransfer txData,
    if h : rxData.length = txData.length then .ok ⟨rxData, h⟩ else .error .spiError⟩

/-- One operation of a session. -/
abbrev DriverTurn := Turn RadioOperation RadioCall RadioCall.Answer
  (Except RfTransportError RadioResult)

/-- The run of an operation on the radio, complete, failed or cut off. -/
def DriverTurn.Genuine (transport : RfTransport) (turn : DriverTurn) : Prop :=
  Run (turn.op.toOp transport turn.rounds).run turn.events turn.result

/-- The operation has returned `RF_TRANSPORT_STATUS_OK`. -/
def DriverTurn.succeeded (turn : DriverTurn) : Bool :=
  match turn.result with
  | some (.ok _) => true
  | some (.error _) => false
  | none => false

/-- An operation that has succeeded has returned a result. -/
lemma DriverTurn.ok_of_succeeded {turn : DriverTurn} (h : turn.succeeded = true) :
    ∃ result, turn.result = some (.ok result) := by
  unfold DriverTurn.succeeded at h
  split at h
  · rename_i result hresult
    exact ⟨result, hresult⟩
  · cases h
  · cases h

/-- The transfers that an operation can make. -/
def RadioOperation.transfers : RadioOperation → Set Bytes
  | readChipInfo =>
      {[cc1101ReadBurst ||| cc1101PartnumAddr, 0], [cc1101ReadBurst ||| cc1101VersionAddr, 0]}
  | configure433mhz | recover433mhz =>
      {txData | ∃ setting ∈ s433mhzSettings, txData = [setting.1, setting.2]} ∪
        {[cc1101ReadSingle ||| 0x00, 0], [cc1101PatableAddr, 0xC0], [cc1101Sidle], [cc1101Sfrx],
          [cc1101Sftx]}
  | setChannel channel =>
      {[cc1101Sidle], [cc1101ChannrAddr, channel], [cc1101Sfrx], [cc1101Sftx]}
  | startReceive => {[cc1101Srx]}
  | sendPacket payload =>
      {[cc1101Sidle], [cc1101Sftx], [cc1101Stx],
        (cc1101WriteBurst ||| cc1101FifoAddr) :: UInt8.ofNat payload.length :: payload,
        [cc1101ReadBurst ||| cc1101MarcstateAddr, 0], [cc1101ReadBurst ||| cc1101TxbytesAddr, 0]}
  | receivePacket _ =>
      {[cc1101Srx], [cc1101Sidle], [cc1101Sfrx], [cc1101ReadBurst ||| cc1101RxbytesAddr, 0]} ∪
        {txData | ∃ length,
          txData = (cc1101ReadBurst ||| cc1101FifoAddr) :: List.replicate length 0}
  | waitRxTimestamp _ => ∅

/-- The calls that an operation can make. -/
def RadioOperation.Makes (op : RadioOperation) : RadioCall → Prop
  | .spiTransfer txData => txData ∈ op.transfers
  | .resetRadio => op = configure433mhz ∨ op = recover433mhz
  | .releaseCs => op = recover433mhz
  | .espTimerGetTime => True
  | .vTaskDelay _ => True
  | .xQueueReset => True
  | .xQueueReceive _ => True

section Keeps

variable {ρ : Type*} {W : World RadioCall RadioCall.Answer ρ} {Inv : ρ → Prop}

variable {α : Type}

lemma keptBy_spiTransfer {txData : Bytes} (h : W.Keeps Inv (.spiTransfer txData)) :
    W.KeptBy Inv (spiTransfer txData) := by
  intro s hs
  rw [fulfils_spiTransfer]
  exact ⟨(h s hs).1, fun rxData => (h s hs).2 (.ok rxData), fun e => (h s hs).2 (.error e)⟩

lemma keptBy_commandStrobe {command : UInt8} (h : W.Keeps Inv (.spiTransfer [command])) :
    W.KeptBy Inv (commandStrobe command) :=
  (keptBy_spiTransfer h).bind fun _ => keptBy_pure _

lemma keptBy_writeRegister {address value : UInt8}
    (h : W.Keeps Inv (.spiTransfer [address, value])) :
    W.KeptBy Inv (writeRegister address value) :=
  (keptBy_spiTransfer h).bind fun _ => keptBy_pure _

lemma keptBy_readStatusRegister {transport : RfTransport} {address : UInt8}
    (h : W.Keeps Inv (.spiTransfer [cc1101ReadBurst ||| address, 0])) :
    W.KeptBy Inv (readStatusRegister transport address) := by
  unfold readStatusRegister
  split
  · exact keptBy_throw _
  · exact (keptBy_spiTransfer h).bind fun _ => keptBy_pure _

lemma keptBy_readBurst {address : UInt8} {length : ℕ} (h : W.Keeps Inv
      (.spiTransfer ((cc1101ReadBurst ||| address) :: List.replicate length 0))) :
    W.KeptBy Inv (readBurst address length) := by
  unfold readBurst
  split
  · exact keptBy_throw _
  · exact (keptBy_spiTransfer h).bind fun _ => keptBy_pure _

lemma keptBy_pollUntil {body : RadioOp (Option α)} {polls : ℕ} {deadlineUs : ℤ}
    (hclock : W.Keeps Inv .espTimerGetTime) (hdelay : W.Keeps Inv (.vTaskDelay 1))
    (hbody : W.KeptBy Inv body) : W.KeptBy Inv (pollUntil polls deadlineUs body) := by
  intro s h
  refine fulfils_loop Inv (fun s hs => ?_) h polls
  rw [fulfils_bind]
  refine (keptBy_call hclock s hs).mono (fun nowUs s' hs' => ?_) fun _ _ h' => h'
  split
  · rw [fulfils_bind]
    apply (hbody s' hs').mono _ fun _ _ h' => h'
    rintro (_ | a) s'' hs''
    · rw [fulfils_bind]
      exact (keptBy_call hdelay s'' hs'').mono (fun _ _ h' => h') fun _ _ h' => h'
    · exact hs''
  · exact hs'

lemma keptBy_writeSettings {settings : List (UInt8 × UInt8)}
    (h : ∀ setting ∈ settings, W.Keeps Inv (.spiTransfer [setting.1, setting.2])) :
    W.KeptBy Inv (writeSettings settings) := by
  induction settings with
  | nil => exact keptBy_pure _
  | cons setting settings ih =>
    refine (keptBy_writeRegister (h setting List.mem_cons_self)).bind fun _ => ?_
    exact ih fun setting' h' => h setting' (List.mem_cons_of_mem _ h')

lemma keptBy_configure {transport : RfTransport} (hreset : W.Keeps Inv .resetRadio)
    (h : ∀ txData ∈ RadioOperation.configure433mhz.transfers, W.Keeps Inv (.spiTransfer txData)) :
    W.KeptBy Inv (rfTransportConfigure433mhz transport) := by
  unfold rfTransportConfigure433mhz
  split
  · exact keptBy_throw _
  refine KeptBy.bind (fun s hs => ?_) fun _ => ?_
  · rw [fulfils_resetRadio]
    exact ⟨(hreset s hs).1, fun done => (hreset s hs).2 (.ok done),
      fun e => (hreset s hs).2 (.error e)⟩
  refine (keptBy_writeSettings fun setting hsetting => ?_).bind fun _ => ?_
  · exact h _ (.inl ⟨setting, hsetting, rfl⟩)
  refine KeptBy.bind (x := readConfigRegister 0x00) ?_ fun iocfg2Readback => ?_
  · exact (keptBy_spiTransfer (h _ (.inr (.inl rfl)))).bind fun _ => keptBy_pure _
  split
  · exact keptBy_throw _
  refine (keptBy_writeRegister (h _ (.inr (.inr (.inl rfl))))).bind fun _ => ?_
  refine (keptBy_commandStrobe (h _ (.inr (by simp)))).bind fun _ => ?_
  refine (keptBy_commandStrobe (h _ (.inr (by simp)))).bind fun _ => ?_
  exact keptBy_commandStrobe (h _ (.inr (by simp)))

lemma keptBy_setChannel {transport : RfTransport} {channel : UInt8}
    (hreset : W.Keeps Inv .xQueueReset)
    (h : ∀ txData ∈ (RadioOperation.setChannel channel).transfers,
      W.Keeps Inv (.spiTransfer txData)) :
    W.KeptBy Inv (rfTransportSetChannel transport channel) := by
  unfold rfTransportSetChannel
  split
  · exact keptBy_throw _
  refine (keptBy_commandStrobe (h _ (.inl rfl))).bind fun _ => ?_
  refine (keptBy_writeRegister (h _ (.inr (.inl rfl)))).bind fun _ => ?_
  refine (keptBy_commandStrobe (h _ (.inr (.inr (.inl rfl))))).bind fun _ => ?_
  refine (keptBy_commandStrobe (h _ (.inr (.inr (.inr rfl))))).bind fun _ => ?_
  split
  · exact keptBy_call hreset
  · exact keptBy_pure _

lemma keptBy_sendPacket {transport : RfTransport} {polls : ℕ} {payload : Bytes}
    (hclock : W.Keeps Inv .espTimerGetTime) (hdelay : W.Keeps Inv (.vTaskDelay 1))
    (h : ∀ txData ∈ (RadioOperation.sendPacket payload).transfers,
      W.Keeps Inv (.spiTransfer txData)) :
    W.KeptBy Inv (rfTransportSendPacket transport polls payload) := by
  have hidle := keptBy_commandStrobe (h [cc1101Sidle] (by simp [RadioOperation.transfers]))
  have hflush := keptBy_commandStrobe (h [cc1101Sftx] (by simp [RadioOperation.transfers]))
  have hmarcState : W.KeptBy Inv (readStatusRegister transport cc1101MarcstateAddr) :=
    keptBy_readStatusRegister (h _ (by simp [RadioOperation.transfers]))
  have htxBytes : W.KeptBy Inv (readStatusRegister transport cc1101TxbytesAddr) :=
    keptBy_readStatusRegister (h _ (by simp [RadioOperation.transfers]))
  unfold rfTransportSendPacket
  split
  · exact keptBy_throw _
  split
  · exact keptBy_throw _
  refine hidle.bind fun _ => hflush.bind fun _ => ?_
  refine KeptBy.bind (x := writeBurst _ _) ?_ fun _ => ?_
  · unfold writeBurst
    split
    · exact keptBy_throw _
    · exact (keptBy_spiTransfer (h _ (by simp [RadioOperation.transfers]))).bind fun _ =>
        keptBy_pure _
  refine (keptBy_commandStrobe (h _ (by simp [RadioOperation.transfers]))).bind fun _ => ?_
  refine (keptBy_call hclock).bind fun nowUs => ?_
  refine (keptBy_pollUntil hclock hdelay ?_).bind fun sent => ?_
  · refine hmarcState.bind fun marcState => ?_
    split
    · refine htxBytes.bind fun txBytes => ?_
      split
      · exact keptBy_throw _
      split
      · exact keptBy_pure _
      · exact keptBy_pure _
    · exact keptBy_pure _
  cases sent with
  | some sent => exact keptBy_pure _
  | none =>
    refine hmarcState.ignore.bind fun _ => htxBytes.ignore.bind fun _ => ?_
    exact hidle.ignore.bind fun _ => hflush.ignore.bind fun _ => keptBy_throw _

lemma keptBy_receivePacket {transport : RfTransport} {polls timeoutMs : ℕ}
    (hclock : W.Keeps Inv .espTimerGetTime) (hdelay : W.Keeps Inv (.vTaskDelay 1))
    (h : ∀ txData ∈ (RadioOperation.receivePacket timeoutMs).transfers,
      W.Keeps Inv (.spiTransfer txData)) :
    W.KeptBy Inv (rfTransportReceivePacket transport polls timeoutMs) := by
  have hreceive := keptBy_commandStrobe (h [cc1101Srx] (.inl (by simp)))
  have hidle := keptBy_commandStrobe (h [cc1101Sidle] (.inl (by simp)))
  have hflush := keptBy_commandStrobe (h [cc1101Sfrx] (.inl (by simp)))
  have hrxBytes : W.KeptBy Inv (readStatusRegister transport cc1101RxbytesAddr) :=
    keptBy_readStatusRegister (h _ (.inl (by simp)))
  have hread (length : ℕ) : W.KeptBy Inv (readBurst cc1101FifoAddr length) :=
    keptBy_readBurst (h _ (.inr ⟨length, rfl⟩))
  have hgiveUp : W.KeptBy Inv giveUpReceive :=
    hidle.ignore.bind fun _ => hflush.ignore.bind fun _ => keptBy_throw _
  unfold rfTransportReceivePacket
  split
  · exact keptBy_throw _
  refine hreceive.bind fun _ => (keptBy_call hclock).bind fun nowUs => ?_
  refine (keptBy_pollUntil hclock hdelay ?_).bind fun polled => ?_
  · refine hrxBytes.bind fun rxBytes => ?_
    split
    · exact hidle.ignore.bind fun _ => hflush.ignore.bind fun _ =>
        hreceive.ignore.bind fun _ => keptBy_throw _
    split
    · exact (hread 1).bind fun _ => keptBy_pure _
    · exact keptBy_pure _
  dsimp only
  split
  · exact hgiveUp
  refine (keptBy_pollUntil hclock hdelay ?_).bind fun packet => ?_
  · refine hrxBytes.bind fun rxBytes => ?_
    split
    · exact (hread _).bind fun _ => hreceive.ignore.bind fun _ => keptBy_pure _
    · exact keptBy_pure _
  cases packet with
  | some packet => exact keptBy_pure _
  | none => exact hgiveUp

/-- **What all the calls of an operation keep, the operation keeps**, whether it succeeds or
fails. -/
theorem toOp_keptBy {transport : RfTransport} {polls : ℕ} {op : RadioOperation}
    (h : ∀ c, op.Makes c → W.Keeps Inv c) : W.KeptBy Inv (op.toOp transport polls) := by
  have hclock : W.Keeps Inv .espTimerGetTime := h _ trivial
  have hdelay : W.Keeps Inv (.vTaskDelay 1) := h (.vTaskDelay 1) trivial
  have hqueue : W.Keeps Inv .xQueueReset := h _ trivial
  cases op with
  | readChipInfo =>
    refine KeptBy.bind (x := rfTransportReadChipInfo transport) ?_ fun _ => keptBy_pure _
    refine (keptBy_readStatusRegister (h (.spiTransfer _) (.inl rfl))).bind fun _ => ?_
    refine (keptBy_readStatusRegister (h (.spiTransfer _) (.inr rfl))).bind fun _ => ?_
    exact keptBy_pure _
  | configure433mhz =>
    refine KeptBy.bind ?_ fun _ => keptBy_pure _
    exact keptBy_configure (h _ (.inl rfl)) fun txData htxData => h (.spiTransfer txData) htxData
  | recover433mhz =>
    refine KeptBy.bind (x := rfTransportRecover433mhz transport) ?_ fun _ => keptBy_pure _
    have hconfigure : W.KeptBy Inv (rfTransportConfigure433mhz transport) :=
      keptBy_configure (h _ (.inr rfl)) fun txData htxData => h (.spiTransfer txData) htxData
    unfold rfTransportRecover433mhz
    split
    · exact keptBy_throw _
    refine (keptBy_call (h .releaseCs rfl)).bind fun _ => (keptBy_call hdelay).bind fun _ => ?_
    split
    · exact (keptBy_call hqueue).bind fun _ => hconfigure
    · exact hconfigure
  | setChannel channel =>
    refine KeptBy.bind ?_ fun _ => keptBy_pure _
    exact keptBy_setChannel hqueue fun txData htxData => h (.spiTransfer txData) htxData
  | startReceive =>
    refine KeptBy.bind (x := rfTransportStartReceive transport) ?_ fun _ => keptBy_pure _
    unfold rfTransportStartReceive
    split
    · exact keptBy_throw _
    · exact keptBy_commandStrobe (h (.spiTransfer _) rfl)
  | sendPacket payload =>
    refine KeptBy.bind ?_ fun _ => keptBy_pure _
    exact keptBy_sendPacket hclock hdelay fun txData htxData => h (.spiTransfer txData) htxData
  | receivePacket timeoutMs =>
    refine KeptBy.bind ?_ fun _ => keptBy_pure _
    exact keptBy_receivePacket hclock hdelay fun txData htxData => h (.spiTransfer txData) htxData
  | waitRxTimestamp timeoutMs =>
    refine KeptBy.bind (x := rfTransportWaitRxTimestamp transport timeoutMs) ?_
      fun _ => keptBy_pure _
    unfold rfTransportWaitRxTimestamp
    split
    · exact keptBy_throw _
    refine (keptBy_call (h (.xQueueReceive timeoutMs) trivial)).bind fun received => ?_
    cases received with
    | some timestampUs => exact keptBy_pure _
    | none => exact keptBy_throw _

end Keeps

/-- The world that only watches which calls are made. -/
def watching (op : RadioOperation) : World RadioCall RadioCall.Answer Unit where
  next _ _ := ()
  Allowed _ c := op.Makes c
  Possible _ _ := True

/-- Every call of a run of an operation, complete or cut off, is one that the operation makes. -/
theorem DriverTurn.Genuine.makes {transport : RfTransport} {turn : DriverTurn}
    (h : turn.Genuine transport) : ∀ e ∈ turn.events, turn.op.Makes e.1 := by
  have hkept : (watching turn.op).KeptBy (fun _ => True)
      (turn.op.toOp transport turn.rounds) :=
    toOp_keptBy fun c hc _ _ => ⟨hc, fun _ _ => trivial⟩
  have hlegal := ((hkept () trivial).run h (real_of_possible (fun _ _ => trivial) _ _)).1
  exact forall_of_legal (fun _ _ hc => hc) hlegal

end FhssOtaRadio
