import FhssOtaRadio.RfTransport.Operations

/-!
# SPI framing at the pins

The chip takes the first byte after a falling edge of CS as a header, so that a transfer made
without one is read as the continuation of the last.  This module carries the transfers of the
driver out at the pins (`spi_transfer`, `wait_until_ready`, `reset_radio`) and shows that every
transfer gets a frame of its own, in every run of the driver: also when the task that runs an
operation is stopped in the middle of it, as long as the radio is recovered before it is used
again.
-/

namespace FhssOtaRadio

open Dialogue World

/-- What the driver asks of the pins, the SPI peripheral, the clock and the queue. -/
inductive PinCall where
  /-- `gpio_set_level(transport->cs_gpio, level)`. -/
  | gpioSetLevel (level : Bool)
  /-- `gpio_get_level(transport->miso_gpio)`. -/
  | gpioGetLevel
  | spiDevicePollingTransmit (txData : Bytes)
  | espRomDelayUs (us : ℕ)
  | espTimerGetTime
  | vTaskDelay (ticks : ℕ)
  | xQueueReset
  | xQueueReceive (ticks : ℕ)
  deriving DecidableEq, Repr

/-- The answer to each call; a transmission that does not return `ESP_OK` answers `none`. -/
def PinCall.Answer : PinCall → Type
  | .gpioSetLevel _ => Unit
  | .gpioGetLevel => Bool
  | .spiDevicePollingTransmit txData => Option (Received txData)
  | .espRomDelayUs _ => Unit
  | .espTimerGetTime => ℤ
  | .vTaskDelay _ => Unit
  | .xQueueReset => Unit
  | .xQueueReceive _ => Option ℤ

/-- A part of the driver at the pins. -/
abbrev PinOp := Fallible RfTransportError PinCall PinCall.Answer

/-- `CC1101_READY_TIMEOUT_US`. -/
def cc1101ReadyTimeoutUs : ℤ := 10000

/-- `CC1101_RESET_DELAY_US`. -/
def cc1101ResetDelayUs : ℕ := 40

namespace Pins

def gpioSetLevel (level : Bool) : PinOp Unit := Fallible.call (PinCall.gpioSetLevel level)

def gpioGetLevel : PinOp Bool := Fallible.call PinCall.gpioGetLevel

def spiDevicePollingTransmit (txData : Bytes) : PinOp (Option (Received txData)) :=
  Fallible.call (PinCall.spiDevicePollingTransmit txData)

def espRomDelayUs (us : ℕ) : PinOp Unit := Fallible.call (PinCall.espRomDelayUs us)

def espTimerGetTime : PinOp ℤ := Fallible.call PinCall.espTimerGetTime

/-- The body of the loop of `wait_until_ready`: the chip is ready when it pulls MISO down. -/
def pollReady (deadlineUs : ℤ) : PinOp (Option Unit) := do
  let level ← gpioGetLevel
  if level then do
    let nowUs ← espTimerGetTime
    if deadlineUs ≤ nowUs then throw .timeout
    else return none
  else return some ()

/-- `wait_until_ready`. -/
def waitUntilReady (polls : ℕ) : PinOp Unit := do
  let nowUs ← espTimerGetTime
  Fallible.loop (pollReady (nowUs + cc1101ReadyTimeoutUs)) polls

/-- `wait_until_ready`, and CS released if the chip does not get ready. -/
def waitUntilReadyOrRelease (polls : ℕ) : PinOp Unit :=
  tryCatch (waitUntilReady polls) fun e => do
    gpioSetLevel true
    throw e

/-- `spi_transfer`. -/
def spiTransfer (transport : RfTransport) (polls : ℕ) (txData : Bytes) :
    PinOp (Received txData) :=
  if txData.length = 0 then throw .invalidArg
  else if ¬ transport.initialized then throw .notInitialized
  else do
    gpioSetLevel false
    waitUntilReadyOrRelease polls
    let spiStatus ← spiDevicePollingTransmit txData
    gpioSetLevel true
    match spiStatus with
    | some rxData => return rxData
    | none => throw .spiError

/-- `reset_radio`: the chip is selected once and released again before the strobe SRES. -/
def resetRadio (transport : RfTransport) (polls : ℕ) : PinOp Unit :=
  if ¬ transport.initialized then throw .notInitialized
  else do
    gpioSetLevel true
    espRomDelayUs cc1101ResetDelayUs
    gpioSetLevel false
    waitUntilReadyOrRelease polls
    gpioSetLevel true
    espRomDelayUs cc1101ResetDelayUs
    gpioSetLevel false
    waitUntilReadyOrRelease polls
    match ← spiDevicePollingTransmit [cc1101Sres] with
    | some _ => do
      waitUntilReadyOrRelease polls
      gpioSetLevel true
    | none => do
      gpioSetLevel true
      throw .spiError

/-- How each call of an operation is made at the pins. -/
def handle (transport : RfTransport) (polls : ℕ) :
    (c : RadioCall) → Program PinCall PinCall.Answer c.Answer
  | .spiTransfer txData => (spiTransfer transport polls txData).run
  | .resetRadio => (resetRadio transport polls).run
  | .releaseCs => .call (PinCall.gpioSetLevel true)
  | .espTimerGetTime => .call PinCall.espTimerGetTime
  | .vTaskDelay ticks => .call (PinCall.vTaskDelay ticks)
  | .xQueueReset => .call PinCall.xQueueReset
  | .xQueueReceive ticks => .call (PinCall.xQueueReceive ticks)

/-- An operation of the driver at the pins. -/
def carryOut {α : Type} (transport : RfTransport) (polls : ℕ) (op : RadioOp α) :
    Program PinCall PinCall.Answer (Except RfTransportError α) :=
  op.run.translate (handle transport polls)

end Pins

/-! ## Frames -/

/-- How far the current frame has come. -/
inductive SpiFrame where
  /-- CS is high. -/
  | released
  /-- CS has gone low. -/
  | selected
  /-- The chip has answered to the falling edge by pulling MISO down. -/
  | ready
  /-- The transfer of this frame has been made. -/
  | used
  deriving DecidableEq, Repr

/-- The frame after a reading of MISO. -/
def SpiFrame.sample (frame : SpiFrame) (level : Bool) : SpiFrame :=
  if frame = .selected ∧ level = false then .ready else frame

/-- The frame after a call. -/
def SpiFrame.next (frame : SpiFrame) : (c : PinCall) → c.Answer → SpiFrame
  | .gpioSetLevel level, _ => if level then .released else .selected
  | .gpioGetLevel, level => frame.sample level
  | .spiDevicePollingTransmit _, _ => .used
  | .espRomDelayUs _, _ => frame
  | .espTimerGetTime, _ => frame
  | .vTaskDelay _, _ => frame
  | .xQueueReset, _ => frame
  | .xQueueReceive _, _ => frame

/-- The calls that keep the framing: CS falls only when it is high, a transfer is made once in a
frame and only when the chip is ready, and the task does not sleep while the chip is selected. -/
def SpiFrame.Allowed (frame : SpiFrame) : PinCall → Prop
  | .gpioSetLevel level => level = false → frame = .released
  | .spiDevicePollingTransmit _ => frame = .ready
  | .vTaskDelay _ => frame = .released
  | .xQueueReset => frame = .released
  | .xQueueReceive _ => frame = .released
  | .gpioGetLevel => True
  | .espRomDelayUs _ => True
  | .espTimerGetTime => True

/-- The SPI bus as the chip sees it. -/
def spiFraming : World PinCall PinCall.Answer SpiFrame where
  next frame e := frame.next e.1 e.2
  Allowed := SpiFrame.Allowed
  Possible _ _ := True

namespace Pins

variable {s : SpiFrame} {Owed : Prop} {E : RfTransportError → SpiFrame → Prop}

@[simp] lemma fulfils_gpioSetLevel {level : Bool} {Q : Unit → SpiFrame → Prop} :
    spiFraming.Fulfils Owed (gpioSetLevel level) s Q E ↔
      (level = false → s = .released) ∧ Q () (if level then .released else .selected) :=
  and_congr Iff.rfl ⟨fun h => h () trivial, fun h _ _ => h⟩

/-- CS may rise at any time. -/
lemma release_allowed : true = false → s = SpiFrame.released :=
  fun h => Bool.noConfusion h

@[simp] lemma fulfils_gpioGetLevel {Q : Bool → SpiFrame → Prop} :
    spiFraming.Fulfils Owed gpioGetLevel s Q E ↔ ∀ level, Q level (s.sample level) :=
  ⟨fun h level => h.2 level trivial, fun h => ⟨trivial, fun level _ => h level⟩⟩

@[simp] lemma fulfils_transmit {txData : Bytes} {Q : Option (Received txData) → SpiFrame → Prop} :
    spiFraming.Fulfils Owed (spiDevicePollingTransmit txData) s Q E ↔
      s = .ready ∧ ∀ spiStatus, Q spiStatus .used :=
  and_congr Iff.rfl ⟨fun h spiStatus => h spiStatus trivial, fun h spiStatus _ => h spiStatus⟩

@[simp] lemma fulfils_espRomDelayUs {us : ℕ} {Q : Unit → SpiFrame → Prop} :
    spiFraming.Fulfils Owed (espRomDelayUs us) s Q E ↔ Q () s :=
  ⟨fun h => h.2 () trivial, fun h => ⟨trivial, fun _ _ => h⟩⟩

@[simp] lemma fulfils_espTimerGetTime {Q : ℤ → SpiFrame → Prop} :
    spiFraming.Fulfils Owed espTimerGetTime s Q E ↔ ∀ nowUs, Q nowUs s :=
  ⟨fun h nowUs => h.2 nowUs trivial, fun h => ⟨trivial, fun nowUs _ => h nowUs⟩⟩

@[simp] lemma sample_true : s.sample true = s := if_neg (by simp)

/-- Waiting for the chip changes nothing until the chip answers. -/
lemma waitUntilReady_fulfils (polls : ℕ) :
    spiFraming.Fulfils True (waitUntilReady polls) s (fun _ s' => s' = s.sample false)
      fun _ s' => s' = s := by
  rw [waitUntilReady, fulfils_bind, fulfils_espTimerGetTime]
  intro nowUs
  refine fulfils_loop (fun s' => s' = s) ?_ rfl polls
  rintro _ rfl
  rw [pollReady, fulfils_bind, fulfils_gpioGetLevel]
  intro level
  cases level with
  | false => rfl
  | true =>
    rw [sample_true, if_pos rfl, fulfils_bind, fulfils_espTimerGetTime]
    intro nowUs'
    split
    · rfl
    · rfl

/-- A selected chip is ready after the wait, or released if it does not get ready. -/
lemma waitUntilReadyOrRelease_fulfils (polls : ℕ) :
    spiFraming.Fulfils True (waitUntilReadyOrRelease polls) s (fun _ s' => s' = s.sample false)
      fun _ s' => s' = .released := by
  rw [waitUntilReadyOrRelease, fulfils_tryCatch]
  apply (waitUntilReady_fulfils polls).mono
  · exact fun _ _ h => h
  · intro e s' _
    rw [fulfils_bind, fulfils_gpioSetLevel]
    exact ⟨release_allowed, rfl⟩

/-- A transfer takes a frame of its own and releases the chip. -/
lemma spiTransfer_fulfils (transport : RfTransport) (polls : ℕ) (txData : Bytes) :
    spiFraming.Fulfils True (spiTransfer transport polls txData) .released
      (fun _ s' => s' = .released) fun _ s' => s' = .released := by
  unfold spiTransfer
  split
  · rfl
  split
  · rfl
  rw [fulfils_bind, fulfils_gpioSetLevel]
  refine ⟨fun _ => rfl, ?_⟩
  rw [fulfils_bind]
  apply (waitUntilReadyOrRelease_fulfils polls).mono
  · rintro _ s' rfl
    rw [fulfils_bind, fulfils_transmit]
    refine ⟨rfl, fun spiStatus => ?_⟩
    rw [fulfils_bind, fulfils_gpioSetLevel]
    refine ⟨release_allowed, ?_⟩
    cases spiStatus with
    | some rxData => rfl
    | none => rfl
  · exact fun _ _ h => h

/-- The manual reset keeps the framing: its strobe has the second frame for itself. -/
lemma resetRadio_fulfils (transport : RfTransport) (polls : ℕ) :
    spiFraming.Fulfils True (resetRadio transport polls) .released
      (fun _ s' => s' = .released) fun _ s' => s' = .released := by
  unfold resetRadio
  split
  · rfl
  simp only [fulfils_bind, fulfils_gpioSetLevel, fulfils_espRomDelayUs]
  refine ⟨by simp, fun _ => rfl, ?_⟩
  apply (waitUntilReadyOrRelease_fulfils polls).mono _ fun _ _ h => h
  rintro _ s' rfl
  refine ⟨by simp, fun _ => rfl, ?_⟩
  apply (waitUntilReadyOrRelease_fulfils polls).mono _ fun _ _ h => h
  rintro _ s' rfl
  rw [fulfils_transmit]
  refine ⟨rfl, fun spiStatus => ?_⟩
  cases spiStatus with
  | none =>
    rw [fulfils_bind, fulfils_gpioSetLevel]
    exact ⟨release_allowed, rfl⟩
  | some rxData =>
    rw [fulfils_bind]
    apply (waitUntilReadyOrRelease_fulfils polls).mono _ fun _ _ h => h
    rintro _ s' rfl
    rw [fulfils_gpioSetLevel]
    exact ⟨release_allowed, rfl⟩

/-- **Every call of the driver keeps the framing** and leaves CS released. -/
lemma handle_meets (transport : RfTransport) (polls : ℕ) (c : RadioCall) :
    spiFraming.Meets True (handle transport polls c) .released fun _ s' => s' = .released := by
  have hboth : ∀ {α : Type} {x : PinOp α},
      spiFraming.Fulfils True x .released (fun _ s' => s' = .released)
        (fun _ s' => s' = .released) →
      spiFraming.Meets True x.run .released fun _ s' => s' = .released := by
    intro α x h
    apply Meets.mono h
    rintro (e | a) s' h'
    · exact h'
    · exact h'
  cases c with
  | spiTransfer txData => exact hboth (spiTransfer_fulfils transport polls txData)
  | resetRadio => exact hboth (resetRadio_fulfils transport polls)
  | releaseCs => exact ⟨release_allowed, fun _ _ => rfl⟩
  | espTimerGetTime => exact ⟨trivial, fun _ _ => rfl⟩
  | vTaskDelay ticks => exact ⟨rfl, fun _ _ => rfl⟩
  | xQueueReset => exact ⟨rfl, fun _ _ => rfl⟩
  | xQueueReceive ticks => exact ⟨rfl, fun _ _ => rfl⟩

/-- What the driver does at the pins keeps the framing. -/
lemma translate_meets {α : Type} (transport : RfTransport) (polls : ℕ)
    (p : Program RadioCall RadioCall.Answer α) :
    spiFraming.Meets True (p.translate (handle transport polls)) .released
      fun _ s' => s' = .released := by
  refine meets_translate (fun s => s = SpiFrame.released) ?_ trivial rfl
  rintro c _ rfl
  exact handle_meets transport polls c

/-- The recovery begins by releasing CS. -/
lemma recover_run {transport : RfTransport} (h : transport.initialized = true) (polls : ℕ) :
    ∃ next, (RadioOperation.recover433mhz.toOp transport polls).run =
      .ask RadioCall.releaseCs next := by
  unfold RadioOperation.toOp rfTransportRecover433mhz
  rw [if_neg (not_not.mpr h)]
  exact ⟨_, rfl⟩

/-- Every operation keeps the framing, and the recovery may start wherever the last operation was
stopped. -/
lemma carryOut_meets {transport : RfTransport} (h : transport.initialized = true)
    (op : RadioOperation) (polls : ℕ) (hstart : s = .released ∨ op = .recover433mhz) :
    spiFraming.Meets True (carryOut transport polls (op.toOp transport polls)) s
      fun _ s' => s' = .released := by
  obtain rfl | rfl := hstart
  · exact translate_meets transport polls _
  · obtain ⟨next, hnext⟩ := recover_run h polls
    rw [carryOut, hnext, Program.translate, meets_bind']
    refine ⟨release_allowed, fun _ _ => ?_⟩
    exact translate_meets transport polls _

end Pins

/-- A session of the driver at the pins.  An operation that was stopped half-way, as a task is
that is deleted, is followed by a recovery. -/
def DriverSession (transport : RfTransport)
    (turns : List (Turn RadioOperation PinCall PinCall.Answer
      (Except RfTransportError RadioResult))) : Prop :=
  Session (fun op polls => Pins.carryOut transport polls (op.toOp transport polls))
    (fun op => op = .recover433mhz) turns

/-- **SPI framing**: in every session of the driver each transfer is the only one in its frame and
is made when the chip is ready, CS falls only when it is high, the task sleeps only while the chip
is released; and CS is high whenever an operation has returned. -/
theorem spiFraming_session {transport : RfTransport} (h : transport.initialized = true)
    {turns : List (Turn RadioOperation PinCall PinCall.Answer
      (Except RfTransportError RadioResult))}
    (hsession : DriverSession transport turns) :
    spiFraming.Legal .released (turns.flatMap Turn.events) ∧
      ∀ turn ∈ turns.getLast?, turn.result ≠ none →
        spiFraming.after .released (turns.flatMap Turn.events) = .released := by
  have hreal : spiFraming.Real .released (turns.flatMap Turn.events) :=
    real_of_possible (fun _ _ => trivial) _ _
  refine Session.legal (fun s => s = SpiFrame.released) ?_ hsession (.inl rfl) hreal
  exact fun op polls s hstart => Pins.carryOut_meets h op polls hstart

/-! ## What is transmitted -/

/-- The world that only watches which bytes a call transmits. -/
def clocking (c : RadioCall) : World PinCall PinCall.Answer Unit where
  next _ _ := ()
  Allowed _ call := ∀ txData, call = .spiDevicePollingTransmit txData →
    c = .spiTransfer txData ∨ c = .resetRadio ∧ txData = [cc1101Sres]
  Possible _ _ := True

section Clocks

variable (c : RadioCall)

lemma gpioSetLevel_clocks (level : Bool) :
    (clocking c).KeptBy (fun _ => True) (Pins.gpioSetLevel level) :=
  keptBy_call fun _ _ => ⟨nofun, fun _ _ => trivial⟩

/-- Waiting for the chip transmits nothing. -/
lemma waitUntilReadyOrRelease_clocks (polls : ℕ) :
    (clocking c).KeptBy (fun _ => True) (Pins.waitUntilReadyOrRelease polls) := by
  have hget : (clocking c).KeptBy (fun _ => True) Pins.gpioGetLevel :=
    keptBy_call fun _ _ => ⟨nofun, fun _ _ => trivial⟩
  have hclock : (clocking c).KeptBy (fun _ => True) Pins.espTimerGetTime :=
    keptBy_call fun _ _ => ⟨nofun, fun _ _ => trivial⟩
  have hrelease (e : RfTransportError) : (clocking c).KeptBy (fun _ => True)
      (do Pins.gpioSetLevel true; throw e : PinOp Unit) :=
    (gpioSetLevel_clocks c true).bind fun _ => keptBy_throw e
  have hwait : (clocking c).KeptBy (fun _ => True) (Pins.waitUntilReady polls) := by
    refine hclock.bind fun nowUs s _ => fulfils_loop (fun _ => True) (fun s' _ => ?_) trivial polls
    rw [Pins.pollReady, fulfils_bind]
    refine (hget s' trivial).mono (fun level s'' _ => ?_) fun _ _ h => h
    split
    · rw [fulfils_bind]
      refine (hclock s'' trivial).mono (fun nowUs' _ _ => ?_) fun _ _ h => h
      split
      · trivial
      · trivial
    · trivial
  intro s _
  rw [Pins.waitUntilReadyOrRelease, fulfils_tryCatch]
  exact (hwait s trivial).mono (fun _ _ h => h) fun e s' h => hrelease e s' h

lemma transmit_clocks {txData : Bytes} (h : c = .spiTransfer txData ∨
      c = .resetRadio ∧ txData = [cc1101Sres]) :
    (clocking c).KeptBy (fun _ => True) (Pins.spiDevicePollingTransmit txData) := by
  refine keptBy_call fun _ _ => ⟨fun txData' heq => ?_, fun _ _ => trivial⟩
  obtain rfl := PinCall.spiDevicePollingTransmit.inj heq
  exact h

lemma spiTransfer_clocks (transport : RfTransport) (polls : ℕ) (txData : Bytes) :
    (clocking (.spiTransfer txData)).KeptBy (fun _ => True)
      (Pins.spiTransfer transport polls txData) := by
  unfold Pins.spiTransfer
  split
  · exact keptBy_throw _
  split
  · exact keptBy_throw _
  refine (gpioSetLevel_clocks _ false).bind fun _ => ?_
  refine (waitUntilReadyOrRelease_clocks _ polls).bind fun _ => ?_
  refine (transmit_clocks _ (.inl rfl)).bind fun spiStatus => ?_
  refine (gpioSetLevel_clocks _ true).bind fun _ => ?_
  cases spiStatus with
  | some rxData => exact keptBy_pure _
  | none => exact keptBy_throw _

lemma resetRadio_clocks (transport : RfTransport) (polls : ℕ) :
    (clocking .resetRadio).KeptBy (fun _ => True) (Pins.resetRadio transport polls) := by
  have hset := gpioSetLevel_clocks .resetRadio
  have hwait := waitUntilReadyOrRelease_clocks .resetRadio polls
  have hdelay : (clocking .resetRadio).KeptBy (fun _ => True)
      (Pins.espRomDelayUs cc1101ResetDelayUs) :=
    keptBy_call fun _ _ => ⟨nofun, fun _ _ => trivial⟩
  unfold Pins.resetRadio
  split
  · exact keptBy_throw _
  refine (hset true).bind fun _ => hdelay.bind fun _ => (hset false).bind fun _ => ?_
  refine hwait.bind fun _ => (hset true).bind fun _ => hdelay.bind fun _ => ?_
  refine (hset false).bind fun _ => hwait.bind fun _ => ?_
  refine (transmit_clocks _ (.inr ⟨rfl, rfl⟩)).bind fun spiStatus => ?_
  cases spiStatus with
  | some _ => exact hwait.bind fun _ => hset true
  | none => exact (hset true).bind fun _ => keptBy_throw _

/-- What the pins see of a call: the bytes of a transfer, and the strobe SRES of a reset. -/
lemma handle_clocks (transport : RfTransport) (polls : ℕ) :
    (clocking c).Meets True (Pins.handle transport polls c) () fun _ _ => True := by
  have hany {c : RadioCall} {α : Type} {x : PinOp α}
      (h : (clocking c).KeptBy (fun _ => True) x) :
      (clocking c).Meets True x.run () fun _ _ => True :=
    Meets.mono (h () trivial) fun _ _ _ => trivial
  cases c with
  | spiTransfer txData => exact hany (spiTransfer_clocks transport polls txData)
  | resetRadio => exact hany (resetRadio_clocks transport polls)
  | releaseCs => exact ⟨nofun, fun _ _ => trivial⟩
  | espTimerGetTime => exact ⟨nofun, fun _ _ => trivial⟩
  | vTaskDelay ticks => exact ⟨nofun, fun _ _ => trivial⟩
  | xQueueReset => exact ⟨nofun, fun _ _ => trivial⟩
  | xQueueReceive ticks => exact ⟨nofun, fun _ _ => trivial⟩

end Clocks

/-- A call transmits what `clocking` allows. -/
lemma clocks_of_run {transport : RfTransport} {polls : ℕ} {c : RadioCall}
    {events : List (Event PinCall PinCall.Answer)} {result : Option c.Answer}
    (h : Run (Pins.handle transport polls c) events result) :
    ∀ e ∈ events, ∀ txData, e.1 = .spiDevicePollingTransmit txData →
      c = .spiTransfer txData ∨ c = .resetRadio ∧ txData = [cc1101Sres] :=
  forall_of_legal (fun _ _ hc => hc)
    ((handle_clocks c transport polls).run h (real_of_possible (fun _ _ => trivial) _ _)).1

/-- The answers to each call are not empty. -/
lemma RadioCall.exists_answer (c : RadioCall) : Nonempty c.Answer := by
  cases c with
  | spiTransfer txData => exact ⟨.error .spiError⟩
  | resetRadio => exact ⟨.ok ()⟩
  | releaseCs => exact ⟨()⟩
  | espTimerGetTime => exact ⟨(0 : ℤ)⟩
  | vTaskDelay ticks => exact ⟨()⟩
  | xQueueReset => exact ⟨()⟩
  | xQueueReceive ticks => exact ⟨(none : Option ℤ)⟩

/-- **What an operation puts on the wire**, also when it is stopped half-way: the transfers of this
operation, and the strobe SRES when it configures the radio. -/
theorem transmits_of_turn {transport : RfTransport}
    {turn : Turn RadioOperation PinCall PinCall.Answer (Except RfTransportError RadioResult)}
    (h : Run (Pins.carryOut transport turn.rounds (turn.op.toOp transport turn.rounds))
      turn.events turn.result) :
    ∀ e ∈ turn.events, ∀ txData, e.1 = .spiDevicePollingTransmit txData →
      txData ∈ turn.op.transfers ∨
        txData = [cc1101Sres] ∧ (turn.op = .configure433mhz ∨ turn.op = .recover433mhz) := by
  obtain ⟨parts, rest, hevents, hparts, hrun, hrest⟩ := Run.of_translate h
  have hcall {c : RadioCall} {events : List (Event PinCall PinCall.Answer)}
      {result : Option c.Answer} (hmakes : turn.op.Makes c)
      (hcallRun : Run (Pins.handle transport turn.rounds c) events result) :
      ∀ e ∈ events, ∀ txData, e.1 = .spiDevicePollingTransmit txData →
        txData ∈ turn.op.transfers ∨
          txData = [cc1101Sres] ∧ (turn.op = .configure433mhz ∨ turn.op = .recover433mhz) := by
    intro e he txData htxData
    obtain rfl | ⟨rfl, hsres⟩ := clocks_of_run hcallRun e he txData htxData
    · exact .inl hmakes
    · exact .inr ⟨hsres, hmakes⟩
  intro e he
  rw [hevents, List.mem_append, List.mem_flatten] at he
  obtain ⟨events, hmem, he⟩ | he := he
  · obtain ⟨part, hpart, rfl⟩ := List.mem_map.mp hmem
    have hgenuine : DriverTurn.Genuine transport
        ⟨turn.op, turn.rounds, parts.map Prod.fst, turn.result⟩ := hrun
    exact hcall (hgenuine.makes part.1 (List.mem_map_of_mem hpart)) (hparts part hpart) e he
  · obtain ⟨-, c, hcut, hpending⟩ := hrest (List.ne_nil_of_mem he)
    obtain ⟨answer⟩ := c.exists_answer
    have hgenuine : DriverTurn.Genuine transport
        ⟨turn.op, turn.rounds, parts.map Prod.fst ++ [⟨c, answer⟩], none⟩ := hpending answer
    refine hcall (hgenuine.makes ⟨c, answer⟩ ?_) hcut e he
    exact List.mem_append_right _ List.mem_cons_self

/-- The receiver is started, started once more and stopped with the chip selected, and the recovery
is stopped as well, with the chip released. -/
def benchPins : List (Turn RadioOperation PinCall PinCall.Answer
    (Except RfTransportError RadioResult)) :=
  [⟨.startReceive, 1, [⟨.gpioSetLevel false, ()⟩, ⟨.espTimerGetTime, (0 : ℤ)⟩,
      ⟨.gpioGetLevel, false⟩, ⟨.spiDevicePollingTransmit [0x34], some ⟨[0], rfl⟩⟩,
      ⟨.gpioSetLevel true, ()⟩], some (.ok .done)⟩,
    ⟨.startReceive, 1, [⟨.gpioSetLevel false, ()⟩], none⟩,
    ⟨.recover433mhz, 1, [⟨.gpioSetLevel true, ()⟩], none⟩]

theorem spiFraming_session_recovered :
    spiFraming.Legal .released (benchPins.flatMap Turn.events) := by
  have hfirst : Run (Pins.carryOut benchTransport 1
      (RadioOperation.startReceive.toOp benchTransport 1))
      [⟨.gpioSetLevel false, ()⟩, ⟨.espTimerGetTime, (0 : ℤ)⟩, ⟨.gpioGetLevel, false⟩,
        ⟨.spiDevicePollingTransmit [0x34], some ⟨[0], rfl⟩⟩, ⟨.gpioSetLevel true, ()⟩]
      (some (.ok .done)) :=
    .ask (.ask (.ask (.ask (.ask (.ret _)))))
  have hsession : DriverSession benchTransport benchPins := by
    refine ⟨fun turn hturn => ?_, ?_⟩
    · simp only [benchPins, List.mem_cons, List.not_mem_nil, or_false] at hturn
      obtain rfl | rfl | rfl := hturn
      · exact hfirst
      · exact .ask (.cut _)
      · exact .ask (.cut _)
    · simp [benchPins]
  exact (spiFraming_session rfl hsession).1

end FhssOtaRadio
