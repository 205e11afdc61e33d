import FhssOtaRadio.RfTransport.Transmit
import Mathlib.Data.List.GetD

/-!
# What is read off the air

The receive side of the chip is followed through the transfers: how many bytes the radio has
reported in the RX FIFO and not yet handed out, and the bytes it has handed out.  The driver never
reads more than was reported, makes a packet of exactly the bytes it has read, and does not leave a
packet half read in the FIFO: unless the bus fails, every error ends with a flush.
-/

namespace FhssOtaRadio

open Dialogue World

/-- The receive side of the chip. -/
structure RxSide where
  /-- The bytes in the RX FIFO: those last reported, less those read since. -/
  available : ℕ
  /-- The bytes read out of the RX FIFO, oldest first. -/
  read : Bytes
  /-- The strobes, successful or not, oldest first. -/
  strobes : Bytes
  /-- The last transfer has failed. -/
  lastFailed : Bool
  deriving DecidableEq, Repr

namespace RxSide

/-- The strobes after a transfer: one byte is a strobe. -/
def strobed (rx : RxSide) (txData : Bytes) : Bytes :=
  if txData.length = 1 then rx.strobes ++ txData else rx.strobes

/-- The receive side after a transfer. -/
def transfer (rx : RxSide) (txData : Bytes) :
    Except RfTransportError (Received txData) → RxSide
  | .error _ =>
      { rx with available := 0, strobes := rx.strobed txData, lastFailed := true }
  | .ok rxData =>
      { available :=
          if txData = [cc1101ReadBurst ||| cc1101RxbytesAddr, 0] then
            (rxData.1.getD 1 0 &&& cc1101FifoCountMask).toNat
          else if txData = [cc1101Sfrx] then 0
          else if txData.head? = some (cc1101ReadBurst ||| cc1101FifoAddr) then
            rx.available - (txData.length - 1)
          else rx.available
        read :=
          if txData.head? = some (cc1101ReadBurst ||| cc1101FifoAddr) then
            rx.read ++ rxData.1.drop 1
          else rx.read
        strobes := rx.strobed txData
        lastFailed := false }

lemma transfer_read (rx : RxSide) {txData : Bytes} (rxData : Received txData) :
    (rx.transfer txData (.ok rxData)).read =
      if txData.head? = some (cc1101ReadBurst ||| cc1101FifoAddr) then
        rx.read ++ rxData.1.drop 1
      else rx.read := rfl

lemma transfer_available (rx : RxSide) {txData : Bytes} (rxData : Received txData) :
    (rx.transfer txData (.ok rxData)).available =
      if txData = [cc1101ReadBurst ||| cc1101RxbytesAddr, 0] then
        (rxData.1.getD 1 0 &&& cc1101FifoCountMask).toNat
      else if txData = [cc1101Sfrx] then 0
      else if txData.head? = some (cc1101ReadBurst ||| cc1101FifoAddr) then
        rx.available - (txData.length - 1)
      else rx.available := rfl

/-- The receive side after a call. -/
def next (rx : RxSide) : (c : RadioCall) → c.Answer → RxSide
  | .spiTransfer txData, answer => rx.transfer txData answer
  | .resetRadio, _ => { rx with available := 0 }
  | .releaseCs, _ => rx
  | .espTimerGetTime, _ => rx
  | .vTaskDelay _, _ => rx
  | .xQueueReset, _ => rx
  | .xQueueReceive _, _ => rx

end RxSide

/-- The receive side of the chip, whose FIFO is read only as far as it was reported to be filled. -/
def receiving : World RadioCall RadioCall.Answer RxSide where
  next rx e := rx.next e.1 e.2
  Allowed rx c := ∀ length,
    c = .spiTransfer ((cc1101ReadBurst ||| cc1101FifoAddr) :: List.replicate length 0) →
      length ≤ rx.available
  Possible _ _ := True

/-- An error either comes from the bus itself, or it has been followed by a flush. -/
def RxSide.CleanedUp (rx : RxSide) : Prop :=
  rx.lastFailed = true ∨ (∃ strobes, rx.strobes = strobes ++ [cc1101Sidle, cc1101Sfrx]) ∨
    ∃ strobes, rx.strobes = strobes ++ [cc1101Sidle, cc1101Sfrx, cc1101Srx]

variable {rx : RxSide} {Owed : Prop}

lemma receiving_quiet {c : RadioCall} (h : ∀ txData, c ≠ .spiTransfer txData)
    (hnext : ∀ (rx : RxSide) answer, rx.next c answer = rx) : Quiet receiving c :=
  fun rx => ⟨fun _ hc => absurd hc (h _), fun answer => hnext rx answer⟩

lemma fulfils_rxTransfer {txData : Bytes} {Q : Received txData → RxSide → Prop}
    {E : RfTransportError → RxSide → Prop} :
    receiving.Fulfils Owed (spiTransfer txData) rx Q E ↔
      (∀ length, txData = (cc1101ReadBurst ||| cc1101FifoAddr) :: List.replicate length 0 →
        length ≤ rx.available) ∧
      (∀ rxData, Q rxData (rx.transfer txData (.ok rxData))) ∧
      ∀ e, E e (rx.transfer txData (.error e)) := by
  rw [fulfils_spiTransfer]
  refine and_congr (forall_congr' fun length => ?_) ?_
  · exact ⟨fun h heq => h (heq ▸ rfl), fun h heq => h (RadioCall.spiTransfer.inj heq)⟩
  · exact and_congr ⟨fun h rxData => h rxData trivial, fun h rxData _ => h rxData⟩
      ⟨fun h e => h e trivial, fun h e _ => h e⟩

/-- A strobe reads nothing. -/
lemma strobe_fulfils {command : UInt8} (h : command ≠ cc1101ReadBurst ||| cc1101FifoAddr) :
    receiving.Fulfils Owed (commandStrobe command) rx
      (fun _ rx' => rx'.read = rx.read ∧ rx'.strobes = rx.strobes ++ [command])
      fun _ rx' => rx'.read = rx.read ∧ rx'.strobes = rx.strobes ++ [command] ∧
        rx'.lastFailed = true := by
  rw [commandStrobe, fulfils_bind, fulfils_rxTransfer]
  refine ⟨fun length heq => absurd (List.cons.inj heq).1 h, fun rxData => ⟨?_, rfl⟩,
    fun e => ⟨rfl, rfl, rfl⟩⟩
  exact if_neg fun heq => h (Option.some.inj heq)

/-- Reading RXBYTES tells how many bytes are available. -/
lemma readRxbytes_fulfils (transport : RfTransport) (h : transport.initialized = true) :
    receiving.Fulfils Owed (readStatusRegister transport cc1101RxbytesAddr) rx
      (fun rxBytes rx' => rx'.read = rx.read ∧
        rx'.available = (rxBytes &&& cc1101FifoCountMask).toNat)
      fun _ rx' => rx'.lastFailed = true := by
  unfold readStatusRegister
  rw [if_neg (not_not.mpr h), fulfils_bind, fulfils_rxTransfer]
  refine ⟨fun length heq => absurd (List.cons.inj heq).1 (by decide), fun rxData => ⟨?_, ?_⟩,
    fun e => rfl⟩
  · rw [RxSide.transfer_read, if_neg (by decide)]
  · rw [RxSide.transfer_available, if_pos rfl]

/-- Reading the FIFO hands out the bytes that were asked for. -/
lemma readFifo_fulfils {length : ℕ} (hpos : 0 < length)
    (hmax : length ≤ rfTransportMaxPacketLength + 2) (h : length ≤ rx.available) :
    receiving.Fulfils Owed (readBurst cc1101FifoAddr length) rx
      (fun data rx' => rx'.read = rx.read ++ data ∧ data.length = length)
      fun _ rx' => rx'.lastFailed = true := by
  unfold readBurst
  rw [if_neg (by omega), fulfils_bind, fulfils_rxTransfer]
  refine ⟨fun length' heq => ?_, fun rxData => ⟨?_, ?_⟩, fun e => rfl⟩
  · have hlength := congrArg List.length heq
    simp only [List.length_cons, List.length_replicate] at hlength
    omega
  · rw [RxSide.transfer_read, List.head?_cons, if_pos rfl]
  · rw [List.length_drop, rxData.2, List.length_cons, List.length_replicate]
    rfl

/-- A strobe whose failure is ignored has been tried all the same. -/
lemma ignoreStrobe_fulfils {command : UInt8} {E : RfTransportError → RxSide → Prop}
    (h : command ≠ cc1101ReadBurst ||| cc1101FifoAddr) :
    receiving.Fulfils Owed (Fallible.ignore (commandStrobe command)) rx
      (fun _ rx' => rx'.read = rx.read ∧ rx'.strobes = rx.strobes ++ [command]) E := by
  rw [fulfils_ignore]
  exact (strobe_fulfils h).mono (fun _ _ h => h) fun _ _ h => ⟨h.1, h.2.1⟩

/-- Giving up flushes the FIFO. -/
lemma giveUpReceive_fulfils {Q : RfTransportRxPacket → RxSide → Prop} :
    receiving.Fulfils Owed giveUpReceive rx Q fun _ rx' => rx'.CleanedUp := by
  rw [giveUpReceive, fulfils_bind]
  refine (ignoreStrobe_fulfils (by decide)).mono (fun _ rx₁ hrx₁ => ?_) fun _ _ h => h
  rw [fulfils_bind]
  refine (ignoreStrobe_fulfils (by decide)).mono (fun _ rx₂ hrx₂ => ?_) fun _ _ h => h
  refine .inr (.inl ⟨rx.strobes, ?_⟩)
  rw [hrx₂.2, hrx₁.2, List.append_assoc]
  rfl

/-- One round of the wait for the length byte: it takes this byte out of the FIFO, or nothing. -/
lemma pollLength_fulfils (transport : RfTransport) (h : transport.initialized = true)
    {read : Bytes} (hread : rx.read = read) :
    receiving.Fulfils True (pollLength transport) rx (fun
      | some packetLength, rx' => rx'.read = read ++ [packetLength]
      | none, rx' => rx'.read = read) fun _ rx' => rx'.CleanedUp := by
  rw [pollLength, fulfils_bind]
  refine (readRxbytes_fulfils transport h).mono (fun rxBytes rx₁ hrx₁ => ?_) fun _ _ h => .inl h
  obtain ⟨hread₁, havailable⟩ := hrx₁
  split
  · rw [fulfils_bind]
    refine (ignoreStrobe_fulfils (by decide)).mono (fun _ rx₂ hrx₂ => ?_) fun _ _ h => h
    rw [fulfils_bind]
    refine (ignoreStrobe_fulfils (by decide)).mono (fun _ rx₃ hrx₃ => ?_) fun _ _ h => h
    rw [fulfils_bind]
    refine (ignoreStrobe_fulfils (by decide)).mono (fun _ rx₄ hrx₄ => ?_) fun _ _ h => h
    refine .inr (.inr ⟨rx₁.strobes, ?_⟩)
    rw [hrx₄.2, hrx₃.2, hrx₂.2, List.append_assoc, List.append_assoc]
    rfl
  split
  · rename_i hcount
    have hone : 1 ≤ rx₁.available := by
      rw [havailable]
      exact UInt8.lt_iff_toNat_lt.mp hcount
    rw [fulfils_bind]
    refine (readFifo_fulfils Nat.one_pos (by decide) hone).mono (fun data rx₂ hrx₂ => ?_)
      fun _ _ h => .inl h
    obtain ⟨hread₂, hlength⟩ := hrx₂
    obtain ⟨b, rfl⟩ := List.length_eq_one_iff.mp hlength
    rw [hread₁, hread] at hread₂
    exact hread₂
  · exact hread₁.trans hread

/-- A packet that is made of the bytes read after `read`. -/
def ReadAs (read : Bytes) (packet : RfTransportRxPacket) (rx : RxSide) : Prop :=
  ∃ (packetLength : UInt8) (packetData : Bytes),
    rx.read = read ++ packetLength :: packetData ∧ 0 < packetLength.toNat ∧
      packetLength.toNat ≤ rfTransportMaxPacketLength ∧
      packetData.length = packetLength.toNat + 2 ∧ packet = rxPacketOf packetLength packetData ∧
      ∃ strobes, rx.strobes = strobes ++ [cc1101Srx]

/-- One round of the wait for the packet: it takes the whole packet out of the FIFO, or nothing. -/
lemma pollPacket_fulfils (transport : RfTransport) (h : transport.initialized = true)
    {packetLength : UInt8} (hpos : 0 < packetLength.toNat)
    (hmax : packetLength.toNat ≤ rfTransportMaxPacketLength) {read : Bytes}
    (hread : rx.read = read ++ [packetLength]) :
    receiving.Fulfils True (pollPacket transport packetLength) rx (fun
      | some packet, rx' => ReadAs read packet rx'
      | none, rx' => rx'.read = read ++ [packetLength]) fun _ rx' => rx'.CleanedUp := by
  rw [pollPacket, fulfils_bind]
  refine (readRxbytes_fulfils transport h).mono (fun rxBytes rx₁ hrx₁ => ?_) fun _ _ h => .inl h
  obtain ⟨hread₁, havailable⟩ := hrx₁
  split
  · rename_i hcount
    have henough : packetLength.toNat + 2 ≤ rx₁.available := by
      have hsum : (packetLength + 2).toNat = packetLength.toNat + 2 := by
        rw [UInt8.toNat_add]
        exact Nat.mod_eq_of_lt (by unfold rfTransportMaxPacketLength at hmax; simp; omega)
      rw [havailable, ← hsum]
      exact UInt8.le_iff_toNat_le.mp hcount
    rw [fulfils_bind]
    refine (readFifo_fulfils (by omega) (by omega) henough).mono (fun data rx₂ hrx₂ => ?_)
      fun _ _ h => .inl h
    obtain ⟨hread₂, hlength⟩ := hrx₂
    rw [fulfils_bind]
    refine (ignoreStrobe_fulfils (by decide)).mono (fun _ rx₃ hrx₃ => ?_) fun _ _ h => h
    refine ⟨packetLength, data, ?_, hpos, hmax, hlength, rfl, rx₂.strobes, hrx₃.2⟩
    rw [hrx₃.1, hread₂, hread₁, hread, List.append_assoc]
    rfl
  · exact hread₁.trans hread

lemma clock_quiet : Quiet receiving .espTimerGetTime := receiving_quiet nofun fun _ _ => rfl

lemma delay_quiet : Quiet receiving (.vTaskDelay 1) := receiving_quiet nofun fun _ _ => rfl

lemma awaitLength_fulfils (transport : RfTransport) (h : transport.initialized = true)
    (polls : ℕ) (deadlineUs : ℤ) {read : Bytes} (hread : rx.read = read) :
    receiving.Fulfils True (pollUntil polls deadlineUs (pollLength transport)) rx (fun
      | some packetLength, rx' => rx'.read = read ++ [packetLength]
      | none, rx' => rx'.read = read) fun _ rx' => rx'.CleanedUp := by
  refine fulfils_pollUntil (fun rx => rx.read = read) clock_quiet delay_quiet (fun rx hrx => ?_)
    (fun _ hrx => hrx) hread polls deadlineUs
  apply (pollLength_fulfils transport h hrx).mono _ fun _ _ h => h
  rintro (_ | packetLength) rx' hrx'
  · exact hrx'
  · exact hrx'

lemma awaitPacket_fulfils (transport : RfTransport) (h : transport.initialized = true)
    (polls : ℕ) (deadlineUs : ℤ) {packetLength : UInt8} (hpos : 0 < packetLength.toNat)
    (hmax : packetLength.toNat ≤ rfTransportMaxPacketLength) {read : Bytes}
    (hread : rx.read = read ++ [packetLength]) :
    receiving.Fulfils True (pollUntil polls deadlineUs (pollPacket transport packetLength)) rx (fun
      | some packet, rx' => ReadAs read packet rx'
      | none, _ => True) fun _ rx' => rx'.CleanedUp := by
  refine fulfils_pollUntil (fun rx => rx.read = read ++ [packetLength]) clock_quiet delay_quiet
    (fun rx hrx => ?_) (fun _ _ => trivial) hread polls deadlineUs
  apply (pollPacket_fulfils transport h hpos hmax hrx).mono _ fun _ _ h => h
  rintro (_ | packet) rx' hrx'
  · exact hrx'
  · exact hrx'

/-- **Receiving a packet**: a packet that is handed out is made of exactly the bytes that this
operation has read from the FIFO, none of which it read before it was reported; and unless the bus
fails, every error ends with a flush. -/
lemma receivePacket_fulfils (transport : RfTransport) (polls timeoutMs : ℕ) {read : Bytes}
    (hread : rx.read = read) :
    receiving.Fulfils True (rfTransportReceivePacket transport polls timeoutMs) rx
      (fun packet rx' => ReadAs read packet rx')
      fun _ rx' => transport.initialized = false ∨ rx'.CleanedUp := by
  unfold rfTransportReceivePacket
  split
  · rename_i hinitialized
    exact .inl (Bool.not_eq_true _ ▸ hinitialized)
  rename_i hinitialized
  rw [not_not] at hinitialized
  rw [fulfils_bind]
  refine (strobe_fulfils (by decide)).mono (fun _ rx₁ hrx₁ => ?_) fun _ _ h => .inr (.inl h.2.2)
  have hread₁ : rx₁.read = read := hrx₁.1.trans hread
  rw [fulfils_bind]
  refine fulfils_quiet clock_quiet fun nowUs => ?_
  rw [fulfils_bind]
  apply (awaitLength_fulfils transport hinitialized polls _ hread₁).mono _ fun _ _ h => .inr h
  intro polled rx₂ hrx₂
  dsimp only
  split
  · exact giveUpReceive_fulfils.mono (fun _ _ h => h) fun _ _ h => .inr h
  rename_i hlength
  obtain ⟨hne, hmax⟩ := not_or.mp hlength
  cases polled with
  | none => exact absurd rfl hne
  | some packetLength =>
    have hpos : 0 < packetLength.toNat :=
      Nat.pos_of_ne_zero fun hzero => hne (UInt8.toNat_inj.mp hzero)
    rw [fulfils_bind]
    apply (awaitPacket_fulfils transport hinitialized polls _ hpos (not_lt.mp hmax) hrx₂).mono _
      fun _ _ h => .inr h
    rintro (_ | packet) rx₃ hrx₃
    · exact giveUpReceive_fulfils.mono (fun _ _ h => h) fun _ _ h => .inr h
    · exact hrx₃

/-- The receive side after the calls of a run. -/
def RxSide.after (rx : RxSide) (events : List (Event RadioCall RadioCall.Answer)) : RxSide :=
  receiving.after rx events

/-- **What a receive operation hands out**, whatever the operations before it have left in the FIFO:
it never reads bytes that the radio has not reported, a packet that it hands out is made of exactly
the bytes it has read, with the receiver started again, and after an error either the bus has failed
or the FIFO has been flushed. -/
theorem receivePacket_run {transport : RfTransport} (hinitialized : transport.initialized = true)
    {polls timeoutMs : ℕ} {events : List (Event RadioCall RadioCall.Answer)}
    {result : Option (Except RfTransportError RfTransportRxPacket)}
    (h : Run (rfTransportReceivePacket transport polls timeoutMs).run events result)
    (rx : RxSide) :
    receiving.Legal rx events ∧
      (∀ packet, result = some (.ok packet) → ReadAs rx.read packet (rx.after events)) ∧
      ∀ e, result = some (.error e) → (rx.after events).CleanedUp := by
  obtain ⟨hlegal, hresult⟩ := (receivePacket_fulfils transport polls timeoutMs rfl).run h
    (real_of_possible (fun _ _ => trivial) rx events)
  refine ⟨hlegal, fun packet hpacket => hresult _ hpacket, fun e he => ?_⟩
  obtain hfalse | hclean := hresult _ he
  · rw [hinitialized] at hfalse
    cases hfalse
  · exact hclean

/-- A packet of one byte is received in two polls. -/
def benchReceive : List (Event RadioCall RadioCall.Answer) :=
  [benchTransfer [0x34] [0], ⟨.espTimerGetTime, (0 : ℤ)⟩,
    ⟨.espTimerGetTime, (1 : ℤ)⟩, benchTransfer [0xFB, 0] [0, 4],
    benchTransfer [0xFF, 0] [0, 1], ⟨.espTimerGetTime, (2 : ℤ)⟩,
    benchTransfer [0xFB, 0] [0, 3],
    benchTransfer [0xFF, 0, 0, 0] [0, 0x55, 0xE0, 0xB0],
    benchTransfer [0x34] [0]]

/-- The packet received there. -/
def benchPacket : RfTransportRxPacket where
  payload := [0x55]
  rssiDbm := -90
  lqi := 0x30
  crcOk := true

lemma benchReceive_run :
    Run (rfTransportReceivePacket benchTransport 1 50).run benchReceive
      (some (.ok benchPacket)) :=
  .ask (.ask (.ask (.ask (.ask (.ask (.ask (.ask (.ask (.ret _)))))))))

theorem receivePacket_run_bench :
    ReadAs [] benchPacket (RxSide.after ⟨0, [], [], false⟩ benchReceive) :=
  (receivePacket_run rfl benchReceive_run ⟨0, [], [], false⟩).2.1 _ rfl

/-- A payload that was sent was neither empty nor too long. -/
lemma length_of_sent {transport : RfTransport} {polls : ℕ} {payload : Bytes}
    {events : List (Event RadioCall RadioCall.Answer)}
    (h : Run (rfTransportSendPacket transport polls payload).run events (some (.ok ()))) :
    payload.length ≤ rfTransportMaxPacketLength := by
  by_contra hlength
  unfold rfTransportSendPacket at h
  rw [if_pos (.inr (not_le.mp hlength))] at h
  cases h

/-- The packet made of a payload and two status bytes. -/
lemma rxPacketOf_append {payload : Bytes} {packetLength : UInt8}
    (h : packetLength.toNat = payload.length) (rssi status : UInt8) :
    rxPacketOf packetLength (payload ++ [rssi, status]) = {
      payload := payload
      rssiDbm := rssi.toInt8.toInt.tdiv 2 - 74
      lqi := status &&& 0x7F
      crcOk := status &&& 0x80 ≠ 0 } := by
  have hrssi : (payload ++ [rssi, status]).getD payload.length 0 = rssi := by
    rw [List.getD_append_right _ _ _ _ le_rfl, Nat.sub_self]
    rfl
  have hstatus : (payload ++ [rssi, status]).getD (payload.length + 1) 0 = status := by
    rw [List.getD_append_right _ _ _ _ (Nat.le_add_right _ 1),
      Nat.add_sub_self_left]
    rfl
  rw [rxPacketOf, h, List.take_left, hrssi, hstatus]

/-- **The radio link**: when a send operation has succeeded, the radio of the receiver hands out the
bytes of its frame followed by two status bytes, and the receive operation returns a packet, then
this packet has the payload that was sent. -/
theorem link_round_trip {transport transport' : RfTransport} {polls polls' timeoutMs : ℕ}
    {payload : Bytes} {events events' : List (Event RadioCall RadioCall.Answer)}
    {packet : RfTransportRxPacket} {tx : TxSide} {rx : RxSide} {frame : Bytes}
    {rssi status : UInt8}
    (hsend : Run (rfTransportSendPacket transport polls payload).run events (some (.ok ())))
    (hsent : (tx.after events).sent = tx.sent ++ [some frame])
    (hair : (rx.after events').read = rx.read ++ frame ++ [rssi, status])
    (hreceive : Run (rfTransportReceivePacket transport' polls' timeoutMs).run events'
      (some (.ok packet))) :
    packet = {
      payload := payload
      rssiDbm := rssi.toInt8.toInt.tdiv 2 - 74
      lqi := status &&& 0x7F
      crcOk := status &&& 0x80 ≠ 0 } := by
  have hmax : payload.length < 256 :=
    (length_of_sent hsend).trans_lt (by decide)
  -- the frame is the length byte and the payload
  obtain ⟨-, hresult⟩ := (sendPacket_fulfils transport polls payload rfl (Eq.refl tx.sent)).run
    hsend (real_of_possible (fun _ _ => trivial) tx events)
  have hframe : frame = UInt8.ofNat payload.length :: payload := by
    have hboth := hsent.symm.trans (hresult _ rfl).1
    simpa using hboth
  -- the receiver has read the frame and the two status bytes
  obtain ⟨-, hresult'⟩ := (receivePacket_fulfils transport' polls' timeoutMs (Eq.refl rx.read)).run
    hreceive (real_of_possible (fun _ _ => trivial) rx events')
  obtain ⟨packetLength, packetData, hread, -, -, -, rfl, -⟩ := hresult' _ rfl
  have hdata : packetLength :: packetData =
      UInt8.ofNat payload.length :: (payload ++ [rssi, status]) := by
    have hboth := hread.symm.trans hair
    rw [hframe, List.append_assoc] at hboth
    exact List.append_cancel_left hboth
  obtain ⟨rfl, rfl⟩ := List.cons.inj hdata
  exact rxPacketOf_append (UInt8.toNat_ofNat_of_lt' hmax) rssi status

/-- The packet received above was sent by another driver. -/
theorem link_round_trip_bench :
    benchPacket.payload = [0x55] ∧ benchPacket.crcOk = true := by
  let events : List (Event RadioCall RadioCall.Answer) :=
    [benchTransfer [0x36] [0], benchTransfer [0x3B] [0],
      benchTransfer [0x7F, 1, 0x55] [0, 0, 0],
      benchTransfer [0x35] [0], ⟨.espTimerGetTime, (0 : ℤ)⟩,
      ⟨.espTimerGetTime, (1 : ℤ)⟩, benchTransfer [0xF5, 0] [0, 1],
      benchTransfer [0xFA, 0] [0, 0]]
  let tx : TxSide := ⟨none, []⟩
  let rx : RxSide := ⟨0, [], [], false⟩
  have hsend : Run (rfTransportSendPacket benchTransport 1 [0x55]).run events (some (.ok ())) :=
    .ask (.ask (.ask (.ask (.ask (.ask (.ask (.ask (.ret _))))))))
  have hsent : (tx.after events).sent = tx.sent ++ [some [1, 0x55]] := rfl
  have hair : (rx.after benchReceive).read = rx.read ++ [1, 0x55] ++ [0xE0, 0xB0] := rfl
  rw [link_round_trip hsend hsent hair benchReceive_run]
  decide

end FhssOtaRadio
