import FhssOtaRadio.RfTransport.Operations
import Mathlib.Logic.Function.Basic

/-!
# The configuration of the radio

The registers of the chip are followed through the transfers: what the driver has last written into
each, as far as it is known, and what the chip has echoed when its first register was read back.
What the chip writes itself (calibration updates the FSCAL registers) is not followed.  Over this
stands what the firmware relies on (`Tuning`): once the radio has been configured it stays so, and
the channel is the one last selected, until the radio is reset; no operation between them, however
it ends, touches anything else.
-/

namespace FhssOtaRadio

open Dialogue World

/-- The registers of the chip. -/
structure ChipRegisters where
  /-- What the driver has last written into each register, `none` when it is not known. -/
  value : UInt8 → Option UInt8
  /-- What reading back IOCFG2 has last answered since the reset. -/
  readBack : Option UInt8

namespace ChipRegisters

/-- The registers after a write that the chip has, or may not have, taken. -/
def write (registers : ChipRegisters) (address : UInt8) (value : Option UInt8) : ChipRegisters :=
  { registers with value := Function.update registers.value address value }

@[simp] lemma write_self (registers : ChipRegisters) (address : UInt8) (value : Option UInt8) :
    (registers.write address value).value address = value :=
  Function.update_self _ _ _

lemma write_of_ne (registers : ChipRegisters) {address address' : UInt8} (h : address' ≠ address)
    (value : Option UInt8) :
    (registers.write address value).value address' = registers.value address' :=
  Function.update_of_ne h _ _

/-- The registers after a transfer: two bytes, the first without the read and the burst bit, are a
write. -/
def transfer (registers : ChipRegisters) :
    (txData : Bytes) → Except RfTransportError (Received txData) → ChipRegisters
  | [address, value], answer =>
      if address &&& cc1101ReadBurst = 0 then
        registers.write address (if answer.isOk then some value else none)
      else if address = cc1101ReadSingle then
        { registers with readBack := answer.toOption.map fun rxData => rxData.1.getD 1 0 }
      else registers
  | _, _ => registers

/-- The registers after a call. -/
def next (registers : ChipRegisters) : (c : RadioCall) → c.Answer → ChipRegisters
  | .spiTransfer txData, answer => registers.transfer txData answer
  | .resetRadio, _ => { value := fun _ => none, readBack := none }
  | .releaseCs, _ => registers
  | .espTimerGetTime, _ => registers
  | .vTaskDelay _, _ => registers
  | .xQueueReset, _ => registers
  | .xQueueReceive _, _ => registers

end ChipRegisters

/-- The registers of the chip during the operations. -/
def configuring : World RadioCall RadioCall.Answer ChipRegisters where
  next registers e := registers.next e.1 e.2
  Allowed _ _ := True
  Possible _ _ := True

/-- The registers after the calls of a run. -/
def ChipRegisters.after (registers : ChipRegisters)
    (events : List (Event RadioCall RadioCall.Answer)) : ChipRegisters :=
  configuring.after registers events

/-- What the firmware relies on: the channel of a radio that is configured, `none` inside when it is
not known. -/
abbrev Tuning := Option (Option UInt8)

/-- The tuning after an operation. -/
def Tuning.after (tuning : Tuning) (turn : DriverTurn) : Tuning :=
  match turn.op with
  | .configure433mhz => if turn.succeeded then some (some 0x00) else none
  | .recover433mhz => if turn.succeeded then some (some 0x00) else none
  | .setChannel channel => tuning.map fun _ => if turn.succeeded then some channel else none
  | _ => tuning

/-- The registers of a configured radio, but for the channel: every setting, the output power, and
the chip has echoed the first setting. -/
structure Configured (registers : ChipRegisters) : Prop where
  settings : ∀ setting ∈ s433mhzSettings, setting.1 ≠ cc1101ChannrAddr →
    registers.value setting.1 = some setting.2
  power : registers.value cc1101PatableAddr = some 0xC0
  readBack : registers.readBack = some 0x29

/-- The registers are as the tuning says. -/
def Tuning.Holds (tuning : Tuning) (registers : ChipRegisters) : Prop :=
  ∀ channel ∈ tuning, Configured registers ∧
    ∀ c ∈ channel, registers.value cc1101ChannrAddr = some c

/-! ## Operations that do not configure -/

/-- The operations that leave the configuration alone. -/
def RadioOperation.Neutral : RadioOperation → Prop
  | configure433mhz => False
  | recover433mhz => False
  | setChannel _ => False
  | _ => True

variable {registers : ChipRegisters}

/-- A transfer that is not a single write, nor a reading of IOCFG2, leaves the registers alone. -/
lemma registers_transfer {txData : Bytes} (h : ∀ address value, txData = [address, value] →
      address &&& cc1101ReadBurst ≠ 0 ∧ address ≠ cc1101ReadSingle)
    (answer : Except RfTransportError (Received txData)) :
    registers.transfer txData answer = registers := by
  unfold ChipRegisters.transfer
  split
  · rename_i address value _
    obtain ⟨hwrite, hread⟩ := h address value rfl
    rw [if_neg hwrite, if_neg hread]
  · rfl

/-- A neutral operation makes no transfer that could change a register. -/
lemma neutral_transfers {op : RadioOperation} (h : op.Neutral) {address value : UInt8}
    (hmem : [address, value] ∈ op.transfers) :
    address &&& cc1101ReadBurst ≠ 0 ∧ address ≠ cc1101ReadSingle := by
  cases op with
  | configure433mhz => exact h.elim
  | recover433mhz => exact h.elim
  | setChannel channel => exact h.elim
  | readChipInfo =>
    simp only [RadioOperation.transfers, Set.mem_insert_iff, Set.mem_singleton_iff,
      List.cons.injEq] at hmem
    obtain ⟨rfl, -⟩ | ⟨rfl, -⟩ := hmem
    · decide
    · decide
  | startReceive => simp [RadioOperation.transfers] at hmem
  | sendPacket payload =>
    simp only [RadioOperation.transfers, Set.mem_insert_iff, Set.mem_singleton_iff,
      List.cons.injEq] at hmem
    obtain ⟨-, h⟩ | ⟨-, h⟩ | ⟨-, h⟩ | ⟨rfl, -⟩ | ⟨rfl, -⟩ | ⟨rfl, -⟩ := hmem
    · cases h
    · cases h
    · cases h
    · decide
    · decide
    · decide
  | receivePacket timeoutMs =>
    obtain hmem | ⟨length, hlength⟩ := hmem
    · simp only [Set.mem_insert_iff, Set.mem_singleton_iff, List.cons.injEq] at hmem
      obtain ⟨-, h⟩ | ⟨-, h⟩ | ⟨-, h⟩ | ⟨rfl, -⟩ := hmem
      · cases h
      · cases h
      · cases h
      · decide
    · rw [(List.cons.inj hlength).1]
      decide
  | waitRxTimestamp timeoutMs => exact hmem.elim

/-- A neutral operation leaves the registers as they are, however it ends. -/
lemma after_neutral {transport : RfTransport} {turn : DriverTurn} (h : turn.Genuine transport)
    (hop : turn.op.Neutral) : registers.after turn.events = registers := by
  refine after_of_keeps (fun registers' => registers' = registers) rfl (fun e he => ?_)
    (real_of_possible (fun _ _ => trivial) _ _)
  have hmakes := h.makes e he
  obtain ⟨c, answer⟩ := e
  rintro _ rfl
  refine ⟨trivial, fun answer' _ => ?_⟩
  cases c with
  | spiTransfer txData =>
    refine registers_transfer (fun address value heq => ?_) answer'
    subst heq
    exact neutral_transfers hop hmakes
  | resetRadio =>
    obtain hop' | hop' := hmakes
    · rw [hop'] at hop
      exact hop.elim
    · rw [hop'] at hop
      exact hop.elim
  | releaseCs => rfl
  | espTimerGetTime => rfl
  | vTaskDelay ticks => rfl
  | xQueueReset => rfl
  | xQueueReceive ticks => rfl

/-! ## Selecting a channel -/

/-- The registers agree but for the channel. -/
def SameButChannel (registers registers' : ChipRegisters) : Prop :=
  registers'.readBack = registers.readBack ∧
    ∀ address, address ≠ cc1101ChannrAddr → registers'.value address = registers.value address

lemma Configured.congr {registers' : ChipRegisters} (h : Configured registers)
    (hsame : SameButChannel registers registers') : Configured registers' where
  settings setting hsetting hne := (hsame.2 _ hne).trans (h.settings setting hsetting hne)
  power := (hsame.2 _ (by decide)).trans h.power
  readBack := hsame.1.trans h.readBack

/-- Selecting a channel touches no other register, however it ends. -/
lemma after_setChannel {transport : RfTransport} {turn : DriverTurn} (h : turn.Genuine transport)
    {channel : UInt8} (hop : turn.op = .setChannel channel) :
    SameButChannel registers (registers.after turn.events) := by
  refine after_of_keeps (SameButChannel registers) ⟨rfl, fun _ _ => rfl⟩ (fun e he => ?_)
    (real_of_possible (fun _ _ => trivial) _ _)
  have hmakes := h.makes e he
  rw [hop] at hmakes
  obtain ⟨c, answer⟩ := e
  intro registers' hsame
  refine ⟨trivial, fun answer' _ => ?_⟩
  cases c with
  | spiTransfer txData =>
    obtain rfl | rfl | rfl | rfl := hmakes
    · exact hsame
    · refine ⟨hsame.1, fun address hne => ?_⟩
      exact (ChipRegisters.write_of_ne _ hne _).trans (hsame.2 address hne)
    · exact hsame
    · exact hsame
  | resetRadio => exact hmakes.elim nofun nofun
  | releaseCs => exact hsame
  | espTimerGetTime => exact hsame
  | vTaskDelay ticks => exact hsame
  | xQueueReset => exact hsame
  | xQueueReceive ticks => exact hsame

/-! ## Writing registers -/

variable {Owed : Prop} {E : RfTransportError → ChipRegisters → Prop}

/-- A register write whose transfer succeeds has written the register. -/
lemma writeRegister_fulfils {address value : UInt8} (h : address &&& cc1101ReadBurst = 0)
    (hE : ∀ e registers, E e registers) :
    configuring.Fulfils Owed (writeRegister address value) registers
      (fun _ registers' => registers' = registers.write address (some value)) E := by
  rw [writeRegister, fulfils_bind, fulfils_spiTransfer]
  refine ⟨trivial, fun rxData _ => ?_, fun e _ => hE e _⟩
  exact if_pos h

/-- A strobe leaves the registers alone. -/
lemma strobe_registers {command : UInt8} (hE : ∀ e registers, E e registers) :
    configuring.Fulfils Owed (commandStrobe command) registers
      (fun _ registers' => registers' = registers) E := by
  rw [commandStrobe, fulfils_bind, fulfils_spiTransfer]
  exact ⟨trivial, fun rxData _ => rfl, fun e _ => hE e _⟩

lemma setChannel_fulfils (transport : RfTransport) (channel : UInt8) :
    configuring.Fulfils True (rfTransportSetChannel transport channel) registers
      (fun _ registers' => registers'.value cc1101ChannrAddr = some channel)
      fun _ _ => True := by
  unfold rfTransportSetChannel
  split
  · trivial
  rw [fulfils_bind]
  refine (strobe_registers fun _ _ => trivial).mono (fun _ registers₁ _ => ?_) fun _ _ h => h
  rw [fulfils_bind]
  refine (writeRegister_fulfils (by decide) fun _ _ => trivial).mono (fun _ registers₂ h₂ => ?_)
    fun _ _ h => h
  have hchannel : registers₂.value cc1101ChannrAddr = some channel := by
    rw [h₂, ChipRegisters.write_self]
  rw [fulfils_bind]
  refine (strobe_registers fun _ _ => trivial).mono (fun _ registers₃ h₃ => ?_) fun _ _ h => h
  rw [fulfils_bind]
  refine (strobe_registers fun _ _ => trivial).mono (fun _ registers₄ h₄ => ?_) fun _ _ h => h
  rw [← h₃, ← h₄] at hchannel
  split
  · exact fulfils_quiet (fun _ => ⟨trivial, fun _ => rfl⟩) fun _ => hchannel
  · exact hchannel

/-- After the settings have been written each register holds the last value written to it, and the
others what they held. -/
lemma writeSettings_fulfils {settings : List (UInt8 × UInt8)}
    (haddress : ∀ setting ∈ settings, setting.1 &&& cc1101ReadBurst = 0)
    (hnodup : (settings.map Prod.fst).Nodup) :
    configuring.Fulfils True (writeSettings settings) registers
      (fun _ registers' => (∀ setting ∈ settings, registers'.value setting.1 = some setting.2) ∧
        ∀ address ∉ settings.map Prod.fst, registers'.value address = registers.value address)
      fun _ _ => True := by
  induction settings generalizing registers with
  | nil => exact ⟨nofun, fun _ _ => rfl⟩
  | cons setting settings ih =>
    rw [List.map_cons, List.nodup_cons] at hnodup
    rw [writeSettings, fulfils_bind]
    refine (writeRegister_fulfils (haddress setting List.mem_cons_self)
      fun _ _ => trivial).mono (fun _ registers₁ h₁ => ?_) fun _ _ h => h
    refine (ih (fun s hs => haddress s (List.mem_cons_of_mem _ hs)) hnodup.2).mono
      (fun _ registers₂ h₂ => ?_) fun _ _ h => h
    obtain ⟨hwritten, hothers⟩ := h₂
    refine ⟨fun s hs => ?_, fun address hne => ?_⟩
    · obtain rfl | hs := List.mem_cons.mp hs
      · rw [hothers _ hnodup.1, h₁, ChipRegisters.write_self]
      · exact hwritten s hs
    · rw [List.map_cons, List.mem_cons, not_or] at hne
      rw [hothers address hne.2, h₁, ChipRegisters.write_of_ne _ hne.1]

/-- Reading back IOCFG2 leaves what the chip has echoed. -/
lemma readBack_fulfils :
    configuring.Fulfils Owed (readConfigRegister 0x00) registers
      (fun readBack registers' => registers' = { registers with readBack := some readBack })
      fun _ _ => True := by
  rw [readConfigRegister, fulfils_bind, fulfils_spiTransfer]
  exact ⟨trivial, fun rxData _ => rfl, fun e _ => trivial⟩

/-- The settings are written to addresses below 0x40, and PATABLE is not among them. -/
lemma address_of_setting {setting : UInt8 × UInt8} (h : setting ∈ s433mhzSettings) :
    setting.1 &&& cc1101ReadBurst = 0 ∧ setting.1 ≠ cc1101PatableAddr := by
  have hall : s433mhzSettings.all fun setting =>
      setting.1 &&& cc1101ReadBurst == 0 && setting.1 != cc1101PatableAddr := rfl
  simpa using List.all_eq_true.mp hall setting h

/-- **Configuring**: when it succeeds every setting has been written, and the chip has echoed one of
them. -/
lemma configure433mhz_fulfils (transport : RfTransport) :
    configuring.Fulfils True (rfTransportConfigure433mhz transport) registers
      (fun _ registers' => Configured registers' ∧
        registers'.value cc1101ChannrAddr = some 0x00) fun _ _ => True := by
  unfold rfTransportConfigure433mhz
  split
  · trivial
  rw [fulfils_bind, fulfils_resetRadio]
  refine ⟨trivial, fun _ _ => ?_, fun _ _ => trivial⟩
  rw [fulfils_bind]
  refine (writeSettings_fulfils (fun setting hsetting => (address_of_setting hsetting).1)
    (by decide +kernel)).mono (fun _ registers₁ h₁ => ?_) fun _ _ h => h
  rw [fulfils_bind]
  refine readBack_fulfils.mono (fun readBack registers₂ h₂ => ?_) fun _ _ h => h
  split
  · trivial
  rename_i hecho
  rw [not_not] at hecho
  rw [fulfils_bind]
  refine (writeRegister_fulfils (by decide) fun _ _ => trivial).mono (fun _ registers₃ h₃ => ?_)
    fun _ _ h => h
  have hsettings : ∀ setting ∈ s433mhzSettings, registers₃.value setting.1 = some setting.2 := by
    intro setting hsetting
    rw [h₃, ChipRegisters.write_of_ne _ (address_of_setting hsetting).2, h₂]
    exact h₁.1 setting hsetting
  have hconfigured : Configured registers₃ ∧ registers₃.value cc1101ChannrAddr = some 0x00 := by
    refine ⟨⟨fun setting hsetting _ => hsettings setting hsetting, ?_, ?_⟩, ?_⟩
    · rw [h₃, ChipRegisters.write_self]
    · rw [h₃, h₂, ← hecho]
      rfl
    · exact hsettings (cc1101ChannrAddr, 0x00) (by decide)
  -- the strobes at the end leave the registers alone
  rw [fulfils_bind]
  refine (strobe_registers fun _ _ => trivial).mono (fun _ registers₄ h₄ => ?_) fun _ _ h => h
  rw [fulfils_bind]
  refine (strobe_registers fun _ _ => trivial).mono (fun _ registers₅ h₅ => ?_) fun _ _ h => h
  refine (strobe_registers fun _ _ => trivial).mono (fun _ registers₆ h₆ => ?_) fun _ _ h => h
  rw [h₆, h₅, h₄]
  exact hconfigured

/-- Recovering configures the radio anew. -/
lemma recover433mhz_fulfils (transport : RfTransport) :
    configuring.Fulfils True (rfTransportRecover433mhz transport) registers
      (fun _ registers' => Configured registers' ∧
        registers'.value cc1101ChannrAddr = some 0x00) fun _ _ => True := by
  have hquiet (c : RadioCall) (hnext : ∀ (registers : ChipRegisters) answer,
      registers.next c answer = registers) : Quiet configuring c :=
    fun registers => ⟨trivial, fun answer => hnext registers answer⟩
  unfold rfTransportRecover433mhz
  split
  · trivial
  rw [fulfils_bind]
  refine fulfils_quiet (hquiet .releaseCs fun _ _ => rfl) fun _ => ?_
  rw [fulfils_bind]
  refine fulfils_quiet (hquiet (.vTaskDelay 1) fun _ _ => rfl) fun _ => ?_
  split
  · rw [fulfils_bind]
    refine fulfils_quiet (hquiet .xQueueReset fun _ _ => rfl) fun _ => ?_
    exact configure433mhz_fulfils transport
  · exact configure433mhz_fulfils transport

/-! ## A session -/

/-- The postcondition of an operation, in a run in which it has succeeded. -/
lemma of_succeeded (Q : ChipRegisters → Prop) {transport : RfTransport} {turn : DriverTurn}
    (h : turn.Genuine transport) (hok : turn.succeeded = true)
    (hop : configuring.Fulfils True (turn.op.toOp transport turn.rounds) registers
      (fun _ registers' => Q registers') fun _ _ => True) :
    Q (registers.after turn.events) := by
  obtain ⟨result, hresult⟩ := turn.ok_of_succeeded hok
  exact (hop.run h (real_of_possible (fun _ _ => trivial) _ _)).2 _ hresult

/-- What an operation makes of the tuning. -/
lemma holds_after {transport : RfTransport} {turn : DriverTurn} (h : turn.Genuine transport)
    {tuning : Tuning} (hholds : tuning.Holds registers) :
    (tuning.after turn).Holds (registers.after turn.events) := by
  -- a configuration that succeeds starts from scratch, and one that fails promises nothing
  have hfresh {op : RadioOp Unit} (hop : turn.op.toOp transport turn.rounds = do
        op
        return .done) (hop' : configuring.Fulfils True op registers
        (fun _ registers' => Configured registers' ∧
          registers'.value cc1101ChannrAddr = some 0x00) fun _ _ => True) :
      Tuning.Holds (if turn.succeeded then some (some 0x00) else none)
        (registers.after turn.events) := by
    split
    · rename_i hok
      have hboth : Configured (registers.after turn.events) ∧
          (registers.after turn.events).value cc1101ChannrAddr = some 0x00 := by
        refine of_succeeded (fun registers' => Configured registers' ∧
          registers'.value cc1101ChannrAddr = some 0x00) h hok ?_
        rw [hop, fulfils_bind]
        exact hop'
      intro channel hchannel
      obtain rfl := Option.some.inj hchannel
      refine ⟨hboth.1, fun c hc => ?_⟩
      obtain rfl := Option.some.inj hc
      exact hboth.2
    · nofun
  unfold Tuning.after
  split
  · rename_i hop
    exact hfresh (hop ▸ rfl) (configure433mhz_fulfils transport)
  · rename_i hop
    exact hfresh (hop ▸ rfl) (recover433mhz_fulfils transport)
  · rename_i channel hop
    intro channel' hchannel'
    obtain ⟨channel₀, hchannel₀, rfl⟩ := Option.map_eq_some_iff.mp hchannel'
    have hsame : SameButChannel registers (registers.after turn.events) := after_setChannel h hop
    refine ⟨(hholds channel₀ hchannel₀).1.congr hsame, fun c hc => ?_⟩
    split at hc
    · rename_i hok
      obtain rfl := Option.some.inj hc
      refine of_succeeded (fun registers' => registers'.value cc1101ChannrAddr = some channel)
        h hok ?_
      rw [hop, RadioOperation.toOp, fulfils_bind]
      exact setChannel_fulfils transport channel
    · cases hc
  · rename_i hconfigure hrecover hset
    have hneutral : turn.op.Neutral := by
      cases hop : turn.op with
      | configure433mhz => exact (hconfigure hop).elim
      | recover433mhz => exact (hrecover hop).elim
      | setChannel channel => exact (hset channel hop).elim
      | _ => trivial
    rw [after_neutral h hneutral]
    exact hholds

/-- **The configuration survives**: in a session of operations, whatever they are and however they
end, the registers of the radio as last written by the driver are as the last successful
configuration has left them, but for the channel, which is the one last selected. -/
theorem tuning_session {transport : RfTransport} {turns : List DriverTurn}
    (h : ∀ turn ∈ turns, turn.Genuine transport) {tuning : Tuning}
    (hholds : tuning.Holds registers) :
    (turns.foldl Tuning.after tuning).Holds (registers.after (turns.flatMap Turn.events)) := by
  induction turns generalizing tuning registers with
  | nil => exact hholds
  | cons turn turns ih =>
    rw [List.foldl_cons, List.flatMap_cons]
    have hrest := ih (fun t ht => h t (List.mem_cons_of_mem _ ht))
      (holds_after (h turn List.mem_cons_self) hholds)
    rwa [ChipRegisters.after, World.after_append]

/-- A radio that has been configured. -/
def benchRegisters : ChipRegisters where
  value address := if address = 0x3E then some 0xC0 else s433mhzSettings.lookup address
  readBack := some 0x29

/-- A channel is selected, and then another one, which fails after its register was written. -/
def benchChannels : List DriverTurn :=
  [⟨.setChannel 7, 1, [benchTransfer [0x36] [0],
      benchTransfer [0x0A, 7] [0, 0], benchTransfer [0x3A] [0],
      benchTransfer [0x3B] [0], ⟨.xQueueReset, ()⟩], some (.ok .done)⟩,
    ⟨.setChannel 9, 1, [benchTransfer [0x36] [0],
      benchTransfer [0x0A, 9] [0, 0], ⟨.spiTransfer [0x3A], .error .timeout⟩],
      some (.error .timeout)⟩]

theorem tuning_session_bench :
    Configured (benchRegisters.after (benchChannels.flatMap Turn.events)) := by
  have hgenuine : ∀ turn ∈ benchChannels, turn.Genuine benchTransport := by
    intro turn hturn
    simp only [benchChannels, List.mem_cons, List.not_mem_nil, or_false] at hturn
    obtain rfl | rfl := hturn
    · exact .ask (.ask (.ask (.ask (.ask (.ret _)))))
    · exact .ask (.ask (.ask (.ret _)))
  have hholds : Tuning.Holds (some (some 0x00)) benchRegisters := by
    intro channel hchannel
    obtain rfl := Option.some.inj hchannel
    have hall : s433mhzSettings.all fun setting =>
        benchRegisters.value setting.1 == some setting.2 := rfl
    refine ⟨⟨fun setting hsetting _ => ?_, rfl, rfl⟩, fun c hc => ?_⟩
    · exact eq_of_beq (List.all_eq_true.mp hall setting hsetting)
    obtain rfl := Option.some.inj hc
    rfl
  exact (tuning_session hgenuine hholds none rfl).1

end FhssOtaRadio
