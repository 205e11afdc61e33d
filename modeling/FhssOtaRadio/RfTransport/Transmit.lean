import FhssOtaRadio.RfTransport.Operations

/-!
# What goes on the air

The transmit side of the chip is followed through the transfers: what is in the TX FIFO, and what
was in it each time a transmission was commanded.  Nothing is known of the FIFO after a transfer
that failed, after a reset, and while the radio transmits, until it has been flushed or has been
read to be empty.

Every packet is written into a FIFO that was flushed for it, so that it does not matter what the
operations before have left there: in a whole session the frames on the air are those of the packets
sent, in order, each at most once, and exactly once if its operation succeeded.
-/

namespace FhssOtaRadio

open Dialogue World

/-- The transmit side of the chip. -/
structure TxSide where
  /-- The bytes in the TX FIFO, `none` when nothing is known of them. -/
  fifo : Option Bytes
  /-- What was in the TX FIFO when a transmission was commanded, oldest first. -/
  sent : List (Option Bytes)
  deriving DecidableEq, Repr

namespace TxSide

/-- The transmit side after a transfer. -/
def transfer (tx : TxSide) (txData : Bytes) :
    Except RfTransportError (Received txData) → TxSide
  | .error _ =>
      if txData = [cc1101Stx] then { fifo := none, sent := tx.sent ++ [tx.fifo] }
      else { tx with fifo := none }
  | .ok rxData =>
      if txData = [cc1101Stx] then { fifo := none, sent := tx.sent ++ [tx.fifo] }
      else if txData = [cc1101Sftx] then { tx with fifo := some [] }
      else if txData.head? = some (cc1101WriteBurst ||| cc1101FifoAddr) then
        { tx with fifo := tx.fifo.map (· ++ txData.tail) }
      else if txData = [cc1101ReadBurst ||| cc1101TxbytesAddr, 0] ∧ rxData.1.getD 1 0 = 0 then
        { tx with fifo := some [] }
      else tx

/-- The transmit side after a call. -/
def next (tx : TxSide) : (c : RadioCall) → c.Answer → TxSide
  | .spiTransfer txData, answer => tx.transfer txData answer
  | .resetRadio, _ => { tx with fifo := none }
  | .releaseCs, _ => tx
  | .espTimerGetTime, _ => tx
  | .vTaskDelay _, _ => tx
  | .xQueueReset, _ => tx
  | .xQueueReceive _, _ => tx

end TxSide

/-- The frame that an operation may send: the length byte and the payload. -/
def RadioOperation.frame : RadioOperation → Option Bytes
  | sendPacket payload => some (UInt8.ofNat payload.length :: payload)
  | _ => none

/-- The transmit side during an operation that may send `frame`: a transmission is commanded only
when the FIFO holds exactly this frame, and no second time. -/
def transmitting (frame : Option Bytes) (before : List (Option Bytes)) :
    World RadioCall RadioCall.Answer TxSide where
  next tx e := tx.next e.1 e.2
  Allowed tx c :=
    c = .spiTransfer [cc1101Stx] → frame.isSome ∧ tx.fifo = frame ∧ tx.sent = before
  Possible _ _ := True

variable {frame : Option Bytes} {before : List (Option Bytes)} {tx : TxSide}

/-- A transfer that is not the strobe STX sends nothing. -/
lemma transfer_sent {txData : Bytes} (h : txData ≠ [cc1101Stx])
    (answer : Except RfTransportError (Received txData)) :
    (tx.transfer txData answer).sent = tx.sent := by
  unfold TxSide.transfer
  split
  · rw [if_neg h]
  · rw [if_neg h]
    split
    · rfl
    split
    · rfl
    split
    · rfl
    · rfl

/-- A call that is not the strobe STX is allowed and sends nothing. -/
lemma transmitting_keeps {c : RadioCall} (h : c ≠ .spiTransfer [cc1101Stx])
    (sent : List (Option Bytes)) :
    (transmitting frame before).Keeps (fun tx => tx.sent = sent) c := by
  intro tx htx
  refine ⟨fun hc => absurd hc h, fun answer _ => ?_⟩
  cases c with
  | spiTransfer txData =>
    have htxData : txData ≠ [cc1101Stx] := fun heq => h (heq ▸ rfl)
    exact (transfer_sent htxData answer).trans htx
  | resetRadio => exact htx
  | releaseCs => exact htx
  | espTimerGetTime => exact htx
  | vTaskDelay ticks => exact htx
  | xQueueReset => exact htx
  | xQueueReceive ticks => exact htx

/-- Only `sendPacket` strobes STX. -/
lemma stx_notMem_transfers {op : RadioOperation} (h : op.frame = none) :
    [cc1101Stx] ∉ op.transfers := by
  cases op with
  | sendPacket payload => cases h
  | configure433mhz =>
    rintro (⟨setting, -, hsetting⟩ | hmem)
    · simp at hsetting
    · simp [cc1101Stx, cc1101Sidle, cc1101Sfrx, cc1101Sftx] at hmem
  | recover433mhz =>
    rintro (⟨setting, -, hsetting⟩ | hmem)
    · simp at hsetting
    · simp [cc1101Stx, cc1101Sidle, cc1101Sfrx, cc1101Sftx] at hmem
  | receivePacket timeoutMs =>
    rintro (hmem | ⟨length, hlength⟩)
    · simp [cc1101Stx, cc1101Sidle, cc1101Sfrx, cc1101Srx] at hmem
    · exact absurd (List.cons.inj hlength).1 (by decide)
  | readChipInfo => simp [RadioOperation.transfers]
  | setChannel channel =>
    simp [RadioOperation.transfers, cc1101Stx, cc1101Sidle, cc1101Sfrx, cc1101Sftx]
  | startReceive => simp [RadioOperation.transfers, cc1101Stx, cc1101Srx]
  | waitRxTimestamp timeoutMs => simp [RadioOperation.transfers]

/-! ## Sending a packet -/

variable {Owed : Prop} {E : RfTransportError → TxSide → Prop}

lemma fulfils_transfer {txData : Bytes} {Q : Received txData → TxSide → Prop} :
    (transmitting frame before).Fulfils Owed (spiTransfer txData) tx Q E ↔
      (txData = [cc1101Stx] → frame.isSome ∧ tx.fifo = frame ∧ tx.sent = before) ∧
      (∀ rxData, Q rxData (tx.transfer txData (.ok rxData))) ∧
      ∀ e, E e (tx.transfer txData (.error e)) := by
  rw [fulfils_spiTransfer]
  refine and_congr ⟨fun h heq => h (heq ▸ rfl), fun h heq => h (RadioCall.spiTransfer.inj heq)⟩ ?_
  exact and_congr ⟨fun h rxData => h rxData trivial, fun h rxData _ => h rxData⟩
    ⟨fun h e => h e trivial, fun h e _ => h e⟩

/-- The strobe SFTX empties the FIFO. -/
lemma flush_fulfils : (transmitting frame before).Fulfils Owed (commandStrobe cc1101Sftx) tx
    (fun _ tx' => tx' = { tx with fifo := some [] }) fun _ tx' => tx'.sent = tx.sent := by
  have hstx : [cc1101Sftx] ≠ [cc1101Stx] := by decide
  rw [commandStrobe, fulfils_bind, fulfils_transfer]
  refine ⟨fun h => absurd h hstx, fun rxData => ?_, fun e => transfer_sent hstx _⟩
  rw [fulfils_pure, TxSide.transfer, if_neg hstx, if_pos rfl]

/-- A burst write puts its bytes behind those in the FIFO. -/
lemma writeBurst_fulfils {data fifo : Bytes} (h : tx.fifo = some fifo) :
    (transmitting frame before).Fulfils Owed (writeBurst cc1101FifoAddr data) tx
      (fun _ tx' => tx' = { tx with fifo := some (fifo ++ data) })
      fun _ tx' => tx'.sent = tx.sent := by
  have hstx : (cc1101WriteBurst ||| cc1101FifoAddr) :: data ≠ [cc1101Stx] :=
    fun h => absurd (List.cons.inj h).1 (by decide)
  have hflush : (cc1101WriteBurst ||| cc1101FifoAddr) :: data ≠ [cc1101Sftx] :=
    fun h => absurd (List.cons.inj h).1 (by decide)
  unfold writeBurst
  split
  · rfl
  rw [fulfils_bind, fulfils_transfer]
  refine ⟨fun h => absurd h hstx, fun rxData => ?_, fun e => transfer_sent hstx _⟩
  rw [fulfils_pure, TxSide.transfer, if_neg hstx, if_neg hflush, List.head?_cons, if_pos rfl, h]
  rfl

/-- The strobe STX sends what is in the FIFO. -/
lemma stx_sent (answer : Except RfTransportError (Received [cc1101Stx])) :
    (tx.transfer [cc1101Stx] answer).sent = tx.sent ++ [tx.fifo] := by
  cases answer with
  | error e => rfl
  | ok rxData => rfl

/-- The strobe STX, in the state it is allowed in. -/
lemma stx_fulfils {bytes : Bytes} (hfifo : tx.fifo = some bytes) (hsent : tx.sent = before) :
    (transmitting (some bytes) before).Fulfils Owed (commandStrobe cc1101Stx) tx
      (fun _ tx' => tx'.sent = before ++ [some bytes])
      fun _ tx' => tx'.sent = before ++ [some bytes] := by
  have hnext : ∀ answer, (tx.transfer [cc1101Stx] answer).sent = before ++ [some bytes] := by
    intro answer
    rw [← hfifo, ← hsent]
    exact stx_sent answer
  rw [commandStrobe, fulfils_bind, fulfils_transfer]
  exact ⟨fun _ => ⟨rfl, hfifo, hsent⟩, fun rxData => hnext _, fun e => hnext _⟩

/-- A byte none of whose bits is in the two masks of a FIFO register is zero. -/
lemma eq_zero_of_masks {bytes : UInt8} (herror : bytes &&& cc1101FifoErrorMask = 0)
    (hcount : bytes &&& cc1101FifoCountMask = 0) : bytes = 0 := by
  have hsplit : bytes &&& (cc1101FifoErrorMask ||| cc1101FifoCountMask) =
      (bytes &&& cc1101FifoErrorMask) ||| (bytes &&& cc1101FifoCountMask) :=
    UInt8.toBitVec_inj.mp BitVec.and_or_distrib_left
  rw [herror, hcount] at hsplit
  exact UInt8.and_neg_one.symm.trans hsplit

/-- Reading TXBYTES sends nothing, and when it reads zero the FIFO is empty. -/
lemma readTxbytes_fulfils (transport : RfTransport) :
    (transmitting frame before).Fulfils Owed
      (readStatusRegister transport cc1101TxbytesAddr) tx
      (fun txBytes tx' => tx'.sent = tx.sent ∧ (txBytes = 0 → tx'.fifo = some []))
      fun _ tx' => tx'.sent = tx.sent := by
  have hstx : [cc1101ReadBurst ||| cc1101TxbytesAddr, 0] ≠ [cc1101Stx] := by decide
  unfold readStatusRegister
  split
  · rfl
  rw [fulfils_bind, fulfils_transfer]
  refine ⟨fun h => absurd h hstx, fun rxData => ?_, fun e => transfer_sent hstx _⟩
  refine ⟨transfer_sent hstx _, fun hzero => ?_⟩
  rw [TxSide.transfer, if_neg hstx, if_neg (by decide), if_neg (by decide), if_pos ⟨rfl, hzero⟩]

/-- One round of the wait for the end of a transmission sends nothing, and a round that ends the
wait has seen the FIFO empty. -/
lemma pollSent_fulfils (transport : RfTransport) {sent : List (Option Bytes)}
    (hsent : tx.sent = sent) :
    (transmitting frame before).Fulfils True (pollSent transport) tx (fun
      | some _, tx' => tx'.sent = sent ∧ tx'.fifo = some []
      | none, tx' => tx'.sent = sent) fun _ tx' => tx'.sent = sent := by
  rw [pollSent, fulfils_bind]
  have hmarcState : (transmitting frame before).KeptBy (fun tx => tx.sent = sent)
      (readStatusRegister transport cc1101MarcstateAddr) :=
    keptBy_readStatusRegister (transmitting_keeps (by decide) sent)
  refine (hmarcState tx hsent).mono (fun marcState tx₁ htx₁ => ?_) fun _ _ h => h
  split
  · rw [fulfils_bind]
    apply (readTxbytes_fulfils transport).mono
    · rintro txBytes tx₂ ⟨htx₂, hempty⟩
      split
      · exact htx₂.trans htx₁
      split
      · rename_i herror hcount
        exact ⟨htx₂.trans htx₁, hempty (eq_zero_of_masks (not_not.mp herror) hcount)⟩
      · exact htx₂.trans htx₁
    · exact fun _ tx₂ htx₂ => htx₂.trans htx₁
  · exact htx₁

lemma transmitting_quiet {c : RadioCall} (h : c ≠ .spiTransfer [cc1101Stx])
    (hnext : ∀ (tx : TxSide) answer, tx.next c answer = tx) :
    Quiet (transmitting frame before) c :=
  fun tx => ⟨fun hc => absurd hc h, fun answer => hnext tx answer⟩

/-- The wait for the end of a transmission. -/
lemma awaitSent_fulfils (transport : RfTransport) (polls : ℕ) (deadlineUs : ℤ)
    {sent : List (Option Bytes)} (hsent : tx.sent = sent) :
    (transmitting frame before).Fulfils True
      (pollUntil polls deadlineUs (pollSent transport)) tx (fun
      | some _, tx' => tx'.sent = sent ∧ tx'.fifo = some []
      | none, tx' => tx'.sent = sent) fun _ tx' => tx'.sent = sent := by
  refine fulfils_pollUntil (fun tx => tx.sent = sent) ?_ ?_ (fun tx htx => ?_) ?_ hsent polls
    deadlineUs
  · exact transmitting_quiet nofun fun _ _ => rfl
  · exact transmitting_quiet nofun fun _ _ => rfl
  · apply (pollSent_fulfils transport htx).mono _ fun _ _ h => h
    rintro (_ | _) tx' htx'
    · exact htx'
    · exact htx'
  · exact fun _ htx => htx

/-- The end of a transmission that took too long. -/
lemma abandonSent_fulfils (transport : RfTransport) {sent : List (Option Bytes)}
    (hsent : tx.sent = sent) {Q : Unit → TxSide → Prop} :
    (transmitting frame before).Fulfils True (do
      Fallible.ignore (readStatusRegister transport cc1101MarcstateAddr)
      Fallible.ignore (readStatusRegister transport cc1101TxbytesAddr)
      Fallible.ignore (commandStrobe cc1101Sidle)
      Fallible.ignore (commandStrobe cc1101Sftx)
      throw .timeout : RadioOp Unit) tx Q fun _ tx' => tx'.sent = sent := by
  have hlater {c : RadioCall} (hc : c ≠ .spiTransfer [cc1101Stx]) :
      (transmitting frame before).Keeps (fun tx => tx.sent = sent) c :=
    transmitting_keeps hc sent
  rw [fulfils_bind]
  refine ((keptBy_readStatusRegister (hlater (by decide))).ignore tx hsent).mono
    (fun _ tx₁ htx₁ => ?_) fun _ _ h => h
  rw [fulfils_bind]
  refine ((keptBy_readStatusRegister (hlater (by decide))).ignore tx₁ htx₁).mono
    (fun _ tx₂ htx₂ => ?_) fun _ _ h => h
  rw [fulfils_bind]
  refine ((keptBy_commandStrobe (hlater (by decide))).ignore tx₂ htx₂).mono
    (fun _ tx₃ htx₃ => ?_) fun _ _ h => h
  rw [fulfils_bind]
  refine ((keptBy_commandStrobe (hlater (by decide))).ignore tx₃ htx₃).mono
    (fun _ tx₄ htx₄ => ?_) fun _ _ h => h
  exact htx₄

/-- **Sending a packet**: STX is strobed at most once, into a FIFO that holds the packet's frame
alone; and when the operation succeeds it has been strobed, and the radio has since reported that
the FIFO has drained. -/
lemma sendPacket_fulfils (transport : RfTransport) (polls : ℕ) (payload : Bytes)
    {bytes : Bytes} (hbytes : bytes = UInt8.ofNat payload.length :: payload)
    (hsent : tx.sent = before) :
    (transmitting (some bytes) before).Fulfils True
      (rfTransportSendPacket transport polls payload) tx
      (fun _ tx' => tx'.sent = before ++ [some bytes] ∧ tx'.fifo = some [])
      fun _ tx' => tx'.sent = before ∨ tx'.sent = before ++ [some bytes] := by
  unfold rfTransportSendPacket
  split
  · exact .inl hsent
  split
  · exact .inl hsent
  -- up to the strobe nothing is sent, and the FIFO is flushed before the frame is written into it
  have hidle : (transmitting (some bytes) before).KeptBy (fun tx => tx.sent = before)
      (commandStrobe cc1101Sidle) :=
    keptBy_commandStrobe (transmitting_keeps (by decide) before)
  rw [fulfils_bind]
  refine (hidle tx hsent).mono (fun _ tx₁ htx₁ => ?_) fun _ _ h => .inl h
  rw [fulfils_bind]
  refine flush_fulfils.mono (fun _ tx₂ htx₂ => ?_) fun _ _ h => .inl (h.trans htx₁)
  have hsent₂ : tx₂.sent = before := htx₂ ▸ htx₁
  have hfifo₂ : tx₂.fifo = some [] := htx₂ ▸ rfl
  rw [fulfils_bind, ← hbytes]
  refine (writeBurst_fulfils hfifo₂).mono (fun _ tx₃ htx₃ => ?_) fun _ _ h => .inl (h.trans hsent₂)
  have hsent₃ : tx₃.sent = before := htx₃ ▸ hsent₂
  have hfifo₃ : tx₃.fifo = some bytes := htx₃ ▸ rfl
  rw [fulfils_bind]
  refine (stx_fulfils hfifo₃ hsent₃).mono (fun _ tx₄ htx₄ => ?_) fun _ _ h => .inr h
  -- from here on nothing more is sent
  have hclock : Quiet (transmitting (some bytes) before) .espTimerGetTime :=
    transmitting_quiet nofun fun _ _ => rfl
  rw [fulfils_bind]
  refine fulfils_quiet hclock fun nowUs => ?_
  rw [fulfils_bind]
  apply (awaitSent_fulfils transport polls _ htx₄).mono _ fun _ _ h => .inr h
  rintro (_ | _) tx₅ htx₅
  · exact (abandonSent_fulfils transport htx₅).mono (fun _ _ h => h) fun _ _ h => .inr h
  · exact htx₅

/-! ## A session -/

/-- The transmit side after the calls of a session. -/
def TxSide.after (tx : TxSide) (events : List (Event RadioCall RadioCall.Answer)) : TxSide :=
  (transmitting none []).after tx events

/-- The frame of a packet whose operation succeeded. -/
def DriverTurn.delivered (turn : DriverTurn) : Option Bytes :=
  if turn.succeeded then turn.op.frame else none

@[simp] lemma after_nil : tx.after [] = tx := rfl

@[simp] lemma after_cons (e : Event RadioCall RadioCall.Answer)
    (events : List (Event RadioCall RadioCall.Answer)) :
    tx.after (e :: events) = (tx.next e.1 e.2).after events := rfl

lemma TxSide.after_append (tx : TxSide) (events events' : List (Event RadioCall RadioCall.Answer)) :
    tx.after (events ++ events') = (tx.after events).after events' :=
  World.after_append tx events events'

/-- What the calls of a run have sent when they are all allowed, at any moment: nothing, or the
frame. -/
lemma sent_of_legal {events : List (Event RadioCall RadioCall.Answer)}
    (h : (transmitting frame before).Legal tx events)
    (htx : tx.sent = before ∨ frame.isSome ∧ tx.sent = before ++ [frame]) :
    (tx.after events).sent = before ∨
      frame.isSome ∧ (tx.after events).sent = before ++ [frame] := by
  induction events generalizing tx with
  | nil => exact htx
  | cons e events ih =>
    obtain ⟨hallowed, hlegal⟩ := h
    refine ih hlegal ?_
    obtain ⟨c, answer⟩ := e
    by_cases hc : c = .spiTransfer [cc1101Stx]
    · obtain ⟨hsome, hfifo, hsent⟩ := hallowed hc
      obtain rfl := hc
      refine .inr ⟨hsome, ?_⟩
      rw [← hsent, ← hfifo]
      exact stx_sent answer
    · have hsame : (tx.next c answer).sent = tx.sent :=
        (@transmitting_keeps frame before c hc tx.sent tx rfl).2 answer trivial
      change (tx.next c answer).sent = before ∨
        frame.isSome ∧ (tx.next c answer).sent = before ++ [frame]
      rw [hsame]
      exact htx

/-- What an operation sends in any run: nothing or its frame; and its frame if it succeeds, after
which the FIFO is empty. -/
lemma turn_sent {transport : RfTransport} {turn : DriverTurn} (h : turn.Genuine transport)
    (tx : TxSide) :
    ∃ sent, (tx.after turn.events).sent = tx.sent ++ sent.map some ∧
      turn.delivered.toList.Sublist sent ∧ sent.Sublist turn.op.frame.toList ∧
      (turn.delivered.isSome → (tx.after turn.events).fifo = some []) := by
  have hreal {frame : Option Bytes} : (transmitting frame tx.sent).Real tx turn.events :=
    real_of_possible (fun _ _ => trivial) _ _
  rcases hframe : turn.op.frame with _ | bytes
  · have hkeeps : ∀ e ∈ turn.events,
        (transmitting none []).Keeps (fun tx' => tx'.sent = tx.sent) e.1 := by
      intro e he
      refine transmitting_keeps (fun hstx => ?_) tx.sent
      have hmakes : turn.op.Makes e.1 := h.makes e he
      rw [hstx] at hmakes
      exact stx_notMem_transfers hframe hmakes
    have hsent : (tx.after turn.events).sent = tx.sent :=
      after_of_keeps (fun tx' : TxSide => tx'.sent = tx.sent) rfl hkeeps
        (real_of_possible (fun _ _ => trivial) _ _)
    have hnone : turn.delivered = none := by
      unfold DriverTurn.delivered
      split
      · exact hframe
      · rfl
    rw [hnone]
    refine ⟨[], ?_, List.Sublist.slnil, List.Sublist.slnil, nofun⟩
    rw [List.map_nil, List.append_nil, hsent]
  · obtain ⟨payload, hop, hbytes⟩ : ∃ payload, turn.op = .sendPacket payload ∧
        bytes = UInt8.ofNat payload.length :: payload := by
      cases hop : turn.op with
      | sendPacket payload =>
        rw [hop] at hframe
        exact ⟨payload, rfl, (Option.some.inj hframe).symm⟩
      | _ =>
        rw [hop] at hframe
        cases hframe
    have hmeets : (transmitting (some bytes) tx.sent).Fulfils True
        (turn.op.toOp transport turn.rounds) tx
        (fun _ tx' => tx'.sent = tx.sent ++ [some bytes] ∧ tx'.fifo = some [])
        fun _ tx' => tx'.sent = tx.sent ∨ tx'.sent = tx.sent ++ [some bytes] := by
      rw [hop, RadioOperation.toOp, fulfils_bind]
      exact sendPacket_fulfils transport turn.rounds payload hbytes rfl
    obtain ⟨hlegal, hresult⟩ := hmeets.run h hreal
    by_cases hsucceeded : turn.succeeded = true
    · obtain ⟨result, hok⟩ := turn.ok_of_succeeded hsucceeded
      obtain ⟨hsent, hfifo⟩ := hresult _ hok
      have hdelivered : turn.delivered = some bytes := (if_pos hsucceeded).trans hframe
      refine ⟨[bytes], hsent, ?_, List.Sublist.refl _, fun _ => hfifo⟩
      rw [hdelivered]
      exact List.Sublist.refl _
    · have hdelivered : turn.delivered = none := if_neg hsucceeded
      rw [hdelivered]
      obtain hsent | ⟨-, hsent⟩ := sent_of_legal hlegal (.inl rfl)
      · refine ⟨[], ?_, List.Sublist.slnil, List.nil_sublist _, nofun⟩
        rw [List.map_nil, List.append_nil, hsent]
      · exact ⟨[bytes], hsent, List.nil_sublist _, List.Sublist.refl _, nofun⟩

/-- **The frames on the air** in a session of operations on one radio, whatever each of them left in
the FIFO: the frames of the packets sent, in order, each at most once and only while the FIFO holds
nothing else; all those whose operation succeeded are among them, and the radio has reported of
these that its FIFO has drained. -/
theorem sent_session {transport : RfTransport} {turns : List DriverTurn}
    (h : ∀ turn ∈ turns, turn.Genuine transport) (tx : TxSide) :
    ∃ sent, (tx.after (turns.flatMap Turn.events)).sent = tx.sent ++ sent.map some ∧
      (turns.filterMap DriverTurn.delivered).Sublist sent ∧
      sent.Sublist (turns.filterMap fun turn => turn.op.frame) ∧
      ∀ turn ∈ turns.getLast?, turn.delivered.isSome →
        (tx.after (turns.flatMap Turn.events)).fifo = some [] := by
  induction turns generalizing tx with
  | nil => exact ⟨[], (List.append_nil _).symm, List.Sublist.slnil, List.Sublist.slnil, nofun⟩
  | cons turn turns ih =>
    obtain ⟨first, hfirst, hdelivered, hframe, hempty⟩ := turn_sent (h turn List.mem_cons_self) tx
    obtain ⟨rest, hrest, hdelivered', hframe', hempty'⟩ :=
      ih (fun t ht => h t (List.mem_cons_of_mem _ ht)) (tx.after turn.events)
    refine ⟨first ++ rest, ?_, ?_, ?_, fun last hlast hsome => ?_⟩
    · rw [List.flatMap_cons, TxSide.after_append, hrest, hfirst, List.map_append,
        List.append_assoc]
    · rw [List.filterMap_eq_flatMap_toList] at hdelivered' ⊢
      exact hdelivered.append hdelivered'
    · rw [List.filterMap_eq_flatMap_toList] at hframe' ⊢
      exact hframe.append hframe'
    · rw [List.flatMap_cons, TxSide.after_append]
      cases turns with
      | nil =>
        obtain rfl := Option.some.inj hlast
        exact hempty hsome
      | cons next rest => exact hempty' last hlast hsome

/-- A packet is sent, but its operation is stopped when its frame is in the FIFO; then another one
is sent successfully. -/
def benchSends : List DriverTurn :=
  [⟨.sendPacket [0x66], 1, [benchTransfer [0x36] [0],
      benchTransfer [0x3B] [0],
      benchTransfer [0x7F, 1, 0x66] [0, 0, 0]], none⟩,
    ⟨.sendPacket [0x55], 1, [benchTransfer [0x36] [0],
      benchTransfer [0x3B] [0],
      benchTransfer [0x7F, 1, 0x55] [0, 0, 0],
      benchTransfer [0x35] [0], ⟨.espTimerGetTime, (0 : ℤ)⟩,
      ⟨.espTimerGetTime, (1 : ℤ)⟩, benchTransfer [0xF5, 0] [0, 1],
      benchTransfer [0xFA, 0] [0, 0]], some (.ok .done)⟩]

theorem sent_session_stopped :
    let air := TxSide.after ⟨none, []⟩ (benchSends.flatMap Turn.events)
    air.sent = [some [1, 0x55]] ∧ air.fifo = some [] := by
  have hgenuine : ∀ turn ∈ benchSends, turn.Genuine benchTransport := by
    intro turn hturn
    simp only [benchSends, List.mem_cons, List.not_mem_nil, or_false] at hturn
    obtain rfl | rfl := hturn
    · exact .ask (.ask (.ask (.cut _)))
    · exact .ask (.ask (.ask (.ask (.ask (.ask (.ask (.ask (.ret _))))))))
  obtain ⟨sent, -, -, -, hempty⟩ := sent_session hgenuine ⟨none, []⟩
  exact ⟨rfl, hempty _ rfl rfl⟩

end FhssOtaRadio
