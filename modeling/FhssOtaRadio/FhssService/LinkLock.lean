import FhssOtaRadio.FhssCore.DriftTracking
import FhssOtaRadio.FhssService.TxTiming

/-!
# A receiver on the air with a transmitter (`fhss_service.c`, `fhss_sync_controller.c`)

A transmitter runs `tx_task`, and a receiver with the same channels and seed has locked onto it.
The receiver takes in some of the SYNC packets that are on the air, in order; others are lost.  Each
one is timestamped by a clock that drifts against the one of the transmitter, and not exactly.

When the calls of the transmitter fit its slots, and lateness, drift and timestamp errors together
fit the budget of the receiver, then the receiver follows for good (`FollowsHops`): every packet it
takes in is accepted inside the timing window, it computes for it the very channel the packet was
sent on, and its slots start within a fixed bound of those of the transmitter.
-/

namespace FhssOtaRadio

open Dialogue Machine World

variable (protocol : OtaProtocol) (encodeFhssSync : OtaFhssSyncFields → Option Bytes)

/-- A SYNC packet that the receiver takes in. -/
structure Reception where
  /-- The slot in which it was sent. -/
  slot : ℕ
  sync : Transmission
  /-- What the clock of the receiver is ahead of that of the transmitter, flight included. -/
  skewUs : ℤ
  /-- How far off the timestamp is. -/
  errorUs : ℤ

/-- The timestamp of the packet. -/
def Reception.timestampUs (reception : Reception) : ℤ :=
  reception.sync.afterUs + reception.skewUs + reception.errorUs

/-- What a receiver takes in of a log: SYNC packets of increasing slots, from its reference on, with
drift and errors within their bounds, at times that fit. -/
structure ReceivesSyncs (slots : List TxSlotLog) (controller : FhssSyncController)
    (boundUs driftUs errorUs lateUs : ℕ) (skewUs : ℤ) (receptions : List Reception) : Prop where
  onAir : ∀ reception ∈ receptions, reception.slot < 2 ^ 32 ∧
    slots.reverse[reception.slot]?.map TxSlotLog.sync = some reception.sync
  increasing : (receptions.map Reception.slot).Pairwise (· < ·)
  from_reference : ∀ reception ∈ receptions,
    controller.scheduler.referenceSlot.toNat ≤ reception.slot
  drift : List.IsChain (fun skewUs nextUs : ℤ => (nextUs - skewUs).natAbs ≤ driftUs)
    (skewUs :: receptions.map Reception.skewUs)
  error : ∀ reception ∈ receptions, reception.errorUs.natAbs ≤ errorUs
  observed_nonneg : ∀ reception ∈ receptions, controller.offset ≤ reception.timestampUs
  expected_fits : ∀ reception ∈ receptions,
    reception.timestampUs + (boundUs + driftUs + 2 * (lateUs + errorUs)) ≤ int64Max

/-- The receiver follows the hops of a transmitter whose slot 0 starts at `anchorUs`. -/
def FollowsHops (boundUs driftUs : ℕ) (anchorUs : ℤ) :
    FhssSyncController → List Reception → Prop
  | _, [] => True
  | controller, reception :: receptions =>
      ∃ controller' result,
        fhssSyncControllerProcessRx protocol controller reception.sync.frame
          reception.timestampUs = (controller', .ok result) ∧
        result.timing.result = .insideWindow ∧
        result.packet.slotNumber = UInt32.ofNat reception.slot ∧
        reception.sync.channel = some result.channel ∧
        InStep controller (boundUs + driftUs) (anchorUs + reception.skewUs) ∧
        InStep controller' boundUs (anchorUs + reception.skewUs) ∧
        FollowsHops boundUs driftUs anchorUs controller' receptions

/-- The packet as the SYNC packet of a drifting peer: that it was begun late is jitter of its
timestamp. -/
def Reception.drifting (reception : Reception) (service : FhssService) (anchorUs : ℤ)
    {core : FhssCore} {packet : FhssSyncPacket}
    (accepted : CoreAccepts protocol core reception.sync.frame packet) :
    DriftingSync protocol core where
  sync := ⟨reception.sync.frame, packet, accepted⟩
  phaseUs := anchorUs + reception.skewUs
  jitterUs :=
    reception.sync.afterUs - slotStartUs service anchorUs reception.slot + reception.errorUs

/-- A transmitter that a controller hops with. -/
structure HopsWith (service : FhssService) (controller : FhssSyncController) : Prop where
  hops : service.controller.core.hopSequence = controller.core.hopSequence
  generation : service.config.generation = controller.core.generation
  duration : service.controller.scheduler.duration = controller.scheduler.duration

/-- The bounds under which a packet of the transmitter is received. -/
structure InBounds (service : FhssService) (anchorUs : ℤ) (pace : TxPace)
    (controller : FhssSyncController) (boundUs driftUs errorUs : ℕ) (skewUs : ℤ)
    (reception : Reception) : Prop where
  slot_lt : reception.slot < 2 ^ 32
  due : SyncDue protocol encodeFhssSync service anchorUs reception.slot reception.sync
  begun : BegunInTime service anchorUs pace reception.slot reception.sync.afterUs
  drift : (reception.skewUs - skewUs).natAbs ≤ driftUs
  error : reception.errorUs.natAbs ≤ errorUs
  observed_nonneg : controller.offset ≤ reception.timestampUs
  expected_fits :
    reception.timestampUs + (boundUs + driftUs + 2 * (pace.lateUs + errorUs)) ≤ int64Max

/-! ## The log of the transmitter -/

section Log

variable {protocol encodeFhssSync} {service : FhssService} {anchorUs : ℤ} {pace : TxPace}

/-- The SYNC packet of a slot in a schedule is due in this slot, and a punctual one is in time. -/
lemma syncDue_of_scheduled {slots : List TxSlotLog}
    (hscheduled : Scheduled protocol encodeFhssSync service anchorUs slots)
    (hpunctual : Punctual service anchorUs pace slots) {k : ℕ} {sync : Transmission}
    (hsync : slots.reverse[k]?.map TxSlotLog.sync = some sync) :
    SyncDue protocol encodeFhssSync service anchorUs k sync ∧
      BegunInTime service anchorUs pace k sync.afterUs := by
  induction slots with
  | nil => cases hsync
  | cons slot slots ih =>
    obtain ⟨hdue, -, -, hscheduled⟩ := hscheduled
    obtain ⟨hbegun, hpunctual⟩ := hpunctual
    rw [List.reverse_cons] at hsync
    obtain hlt | rfl | hgt := lt_trichotomy k slots.length
    · rw [List.getElem?_append_left (by rwa [List.length_reverse])] at hsync
      exact ih hscheduled hpunctual hsync
    · rw [List.getElem?_append_right (by rw [List.length_reverse]), List.length_reverse,
        Nat.sub_self] at hsync
      obtain rfl := Option.some.inj hsync
      exact ⟨hdue, hbegun⟩
    · rw [List.getElem?_eq_none (by simp; omega)] at hsync
      cases hsync

end Log

/-! ## What the receiver makes of a packet -/

section Receive

variable {protocol encodeFhssSync} {controller controller' : FhssSyncController}

/-- Anchoring the scheduler leaves the result as it is. -/
lemma result_of_anchor {slot : UInt32} {startUs : ℤ} {given result : FhssCoreRxResult}
    (h : fhssSyncControllerAnchor controller slot startUs given = (controller', .ok result)) :
    result = given := by
  unfold fhssSyncControllerAnchor at h
  split at h
  · split at h
    · cases h
    · cases h
      rfl
  split at h
  swap
  · cases h
    rfl
  split at h
  · cases h
  dsimp only at h
  split at h
  swap
  · cases h
    rfl
  split at h
  · cases h
  split at h
  · cases h
  · cases h
    rfl

/-- The channel that a controller computes is the one of its hop sequence. -/
lemma channel_of_processRx (hready : ControllerReady controller) {buffer : Bytes}
    {rxTimestampUs : ℤ} {result : FhssCoreRxResult}
    (h : fhssSyncControllerProcessRx protocol controller buffer rxTimestampUs =
      (controller', .ok result)) :
    fhssSyncPacketDecode protocol buffer = .ok result.packet ∧
      fhssHopSequenceGetChannel controller.core.hopSequence result.packet.slotNumber =
        .ok result.channel := by
  unfold fhssSyncControllerProcessRx at h
  split at h
  · cases h
  split at h
  · cases h
  split at h
  · cases h
  split at h
  · cases h
  dsimp only at h
  split at h
  · cases h
  rename_i expectedRxTimeUs _
  rcases fhssCoreProcessRx_cases protocol hready.core_ready buffer expectedRxTimeUs
    rxTimestampUs with ⟨status, hreject, -⟩ | ⟨packet, syncTracker, syncEvent, channel,
      haccepts, hchannel, -, -, haccept⟩
  · rw [hreject] at h
    cases h
  · rw [haccept] at h
    obtain rfl := result_of_anchor h
    exact ⟨haccepts.1, hchannel⟩

/-- The channel that a core selects is the one of its hop sequence. -/
lemma hop_of_fhssCoreGetChannel {core : FhssCore} {slot : UInt32} {channel : UInt8}
    (h : fhssCoreGetChannel core slot = .ok channel) :
    fhssHopSequenceGetChannel core.hopSequence slot = .ok channel := by
  unfold fhssCoreGetChannel at h
  split at h
  · cases h
  split at h
  · cases h
  · rename_i hchannel
    rw [hchannel, Except.ok.inj h]

/-- A receiver that hops like the sender accepts the SYNC packet of every slot. -/
lemma accepts_of_sendSync (hcodec : SyncCodec protocol encodeFhssSync) {service : FhssService}
    {core : FhssCore} (hhops : service.controller.core.hopSequence = core.hopSequence)
    (hgeneration : service.config.generation = core.generation) {slot : UInt32}
    {sequence : UInt16} {frame : Bytes}
    (hframe : sendSync protocol encodeFhssSync service slot sequence = some frame) :
    ∃ packet, CoreAccepts protocol core frame packet ∧ packet.slotNumber = slot := by
  unfold sendSync at hframe
  split at hframe
  · cases hframe
  · rename_i hopIndex hindex
    obtain ⟨buffer, hencode, hdecode⟩ := @fhssSyncPacketEncode_roundTrip protocol encodeFhssSync
      hcodec ⟨protocol.fhssSyncVersion, service.config.generation, sequence, hopIndex, slot⟩ rfl
    rw [hencode] at hframe
    obtain rfl := Option.some.inj hframe
    exact ⟨_, ⟨hdecode, hgeneration, hhops ▸ hindex⟩, rfl⟩

/-- A receiver that hops by a seed can answer, and its parameters were accepted. -/
lemma ready_of_hopsBySeed {deriveHopSeed : UInt32 → UInt32} {service : FhssService}
    {seed : UInt32} (h : HopsBySeed protocol deriveHopSeed service seed) :
    ControllerReady service.controller ∧ GainReady service.controller := by
  induction h with
  | @reset service service' hreset =>
    rcases resetController_cases service with ⟨hfail, -⟩ | ⟨controller, hbuilt, hok⟩
    · rw [hfail] at hreset
      cases hreset
    · rw [hok] at hreset
      obtain ⟨rfl, -⟩ := Prod.mk.inj hreset
      exact ⟨(controllerReady_init hbuilt).1, gainReady_init hbuilt⟩
  | @publicSeed service service' seed hbuilt publicSeed happly ih =>
    refine ⟨((hopping_of_hopsBySeed protocol hbuilt).publicSeed happly).ready, ?_⟩
    have hgain : service'.controller.gain = service.controller.gain := by
      unfold fhssServiceApplyPublicSeed at happly
      dsimp only at happly
      split at happly
      · obtain ⟨rfl, -⟩ := Prod.mk.inj happly
        rfl
      split at happly
      · cases happly
      · obtain ⟨rfl, -⟩ := Prod.mk.inj happly
        rfl
    exact gainReady_of_gain_eq hgain ih.2
  | @call service seed hbuilt call hkeeps ih =>
    exact ⟨controllerReady_step protocol ih.1 call,
      gainReady_of_gain_eq (gain_controllerStep protocol ih.1 call) ih.2⟩

end Receive

/-! ## Following the transmitter -/

section Follow

variable {protocol encodeFhssSync} {service : FhssService} {anchorUs : ℤ} {pace : TxPace}
  {controller₀ controller : FhssSyncController} {boundUs driftUs errorUs : ℕ} {skewUs : ℤ}

/-- It arrives when the receiver timestamps it. -/
lemma arrival_drifting (hwith : HopsWith service controller) {reception : Reception}
    (hlt : reception.slot < 2 ^ 32) {core : FhssCore} {packet : FhssSyncPacket}
    (haccepts : CoreAccepts protocol core reception.sync.frame packet)
    (hslot : packet.slotNumber = UInt32.ofNat reception.slot) :
    controller.arrival ((reception.drifting protocol service anchorUs haccepts).phaseUs +
        (reception.drifting protocol service anchorUs haccepts).jitterUs)
      (reception.drifting protocol service anchorUs haccepts).sync.slot =
        reception.timestampUs := by
  unfold FhssSyncController.arrival Reception.timestampUs PeerSync.slot Reception.drifting
    slotStartUs
  dsimp only
  rw [hslot, UInt32.toNat_ofNat_of_lt' hlt, hwith.duration]
  ring

/-- A reception in bounds is within the budget of the receiver. -/
lemma withinDriftBudget_drifting (hwith : HopsWith service controller)
    {reception : Reception}
    (hbounds : InBounds protocol encodeFhssSync service anchorUs pace controller boundUs driftUs
      errorUs skewUs reception) {packet : FhssSyncPacket}
    (haccepts : CoreAccepts protocol controller.core reception.sync.frame packet)
    (hslot : packet.slotNumber = UInt32.ofNat reception.slot) :
    WithinDriftBudget protocol controller boundUs driftUs (pace.lateUs + errorUs)
      (anchorUs + skewUs) (reception.drifting protocol service anchorUs haccepts) := by
  have harrival := @arrival_drifting protocol service anchorUs controller hwith reception
    hbounds.slot_lt controller.core packet haccepts hslot
  obtain ⟨hstarted, hlate⟩ := hbounds.begun hbounds.slot_lt
  have hjitter : (reception.drifting protocol service anchorUs haccepts).jitterUs.natAbs ≤
      pace.lateUs + errorUs := by
    have herror := hbounds.error
    dsimp only [Reception.drifting]
    omega
  refine ⟨?_, hjitter, ?_, ?_⟩
  · have hdrift := hbounds.drift
    dsimp only [Reception.drifting]
    omega
  · rw [harrival]
    exact hbounds.observed_nonneg
  · have hfits := hbounds.expected_fits
    rw [← harrival, arrival_add] at hfits
    push_cast
    omega

/-- **One SYNC packet from the air**: it is accepted inside the window, on the channel it was sent
on, and leaves the receiver in step. -/
lemma reception_step (hcodec : SyncCodec protocol encodeFhssSync)
    (hwith : HopsWith service controller₀)
    (h : KeepsUp protocol controller₀ controller boundUs (anchorUs + skewUs))
    (hhops : controller.core.hopSequence = controller₀.core.hopSequence)
    (hgain : GainReady controller₀)
    (hbudget : DriftBudget controller₀ boundUs driftUs (pace.lateUs + errorUs))
    {reception : Reception}
    (hbounds : InBounds protocol encodeFhssSync service anchorUs pace controller₀ boundUs driftUs
      errorUs skewUs reception)
    (hreference : controller.scheduler.referenceSlot.toNat ≤ reception.slot) :
    ∃ controller' result,
      fhssSyncControllerProcessRx protocol controller reception.sync.frame reception.timestampUs =
        (controller', .ok result) ∧
      result.timing.result = .insideWindow ∧
      result.packet.slotNumber = UInt32.ofNat reception.slot ∧
      reception.sync.channel = some result.channel ∧
      InStep controller (boundUs + driftUs) (anchorUs + reception.skewUs) ∧
      KeepsUp protocol controller₀ controller' boundUs (anchorUs + reception.skewUs) ∧
      controller'.core.hopSequence = controller₀.core.hopSequence ∧
      controller'.scheduler.referenceSlot.toNat ≤ reception.slot := by
  obtain ⟨packet, haccepts, hslot⟩ :=
    accepts_of_sendSync hcodec hwith.hops hwith.generation hbounds.due.frame
  have hslotNat : packet.slotNumber.toNat = reception.slot := by
    rw [hslot, UInt32.toNat_ofNat_of_lt' hbounds.slot_lt]
  obtain ⟨controller', result, hrun, hinside, -, hbefore, hafter, hreference'⟩ :=
    h.step protocol hgain hbudget (withinDriftBudget_drifting hwith hbounds haccepts hslot)
      (hreference.trans hslotNat.ge)
  have hrun' : fhssSyncControllerProcessRx protocol controller reception.sync.frame
      reception.timestampUs = (controller', .ok result) := by
    rw [← arrival_drifting hwith hbounds.slot_lt haccepts hslot, ← h.same.arrival_eq protocol]
    exact hrun
  have hsame : SameCore controller.core (fhssSyncControllerProcessRx protocol controller
      reception.sync.frame reception.timestampUs).1.core :=
    sameCore_fhssSyncControllerProcessRx protocol controller reception.sync.frame
      reception.timestampUs
  rw [hrun'] at hsame
  -- both compute the channel from the same sequence
  obtain ⟨hdecode, hchannel⟩ := channel_of_processRx h.ready hrun'
  obtain rfl : packet = result.packet := Except.ok.inj (haccepts.1.symm.trans hdecode)
  obtain ⟨channel, hsent, htuned⟩ := hbounds.due.channel
  have hsent' := hop_of_fhssCoreGetChannel hsent
  rw [hwith.hops, ← hhops, ← hslot, hchannel] at hsent'
  rw [← Except.ok.inj hsent'] at htuned
  exact ⟨controller', result, hrun', hinside, hslot, htuned, hbefore, hafter,
    hsame.hopSequence_eq.trans hhops, hreference'.trans hslotNat.le⟩

/-- **The packets of a whole run.** -/
lemma followsHops_of_keepsUp (hcodec : SyncCodec protocol encodeFhssSync)
    (hwith : HopsWith service controller₀)
    (h : KeepsUp protocol controller₀ controller boundUs (anchorUs + skewUs))
    (hhops : controller.core.hopSequence = controller₀.core.hopSequence)
    (hgain : GainReady controller₀)
    (hbudget : DriftBudget controller₀ boundUs driftUs (pace.lateUs + errorUs))
    {slots : List TxSlotLog}
    (hscheduled : Scheduled protocol encodeFhssSync service anchorUs slots)
    (hpunctual : Punctual service anchorUs pace slots) {receptions : List Reception}
    (hreceives : ReceivesSyncs slots controller₀ boundUs driftUs errorUs pace.lateUs skewUs
      receptions)
    (hreference : ∀ reception ∈ receptions,
      controller.scheduler.referenceSlot.toNat ≤ reception.slot) :
    FollowsHops protocol boundUs driftUs anchorUs controller receptions := by
  induction receptions generalizing controller skewUs with
  | nil => trivial
  | cons reception receptions ih =>
    have hhead : reception ∈ reception :: receptions := List.mem_cons_self
    have hincreasing := hreceives.increasing
    have hdrift := hreceives.drift
    rw [List.map_cons, List.pairwise_cons] at hincreasing
    rw [List.map_cons, List.isChain_cons_cons] at hdrift
    obtain ⟨hslot, honAir⟩ := hreceives.onAir reception hhead
    obtain ⟨hdue, hbegun⟩ := syncDue_of_scheduled hscheduled hpunctual honAir
    obtain ⟨controller', result, hrun, hinside, hpacket, hchannel, hbefore, hafter, hhops',
      hreference'⟩ := reception_step hcodec hwith h hhops hgain hbudget
        ⟨hslot, hdue, hbegun, hdrift.1, hreceives.error reception hhead,
          hreceives.observed_nonneg reception hhead, hreceives.expected_fits reception hhead⟩
        (hreference reception hhead)
    refine ⟨controller', result, hrun, hinside, hpacket, hchannel, hbefore,
      inStep_iff.mpr hafter.within, ih hafter hhops' ?_ ?_⟩
    · exact ⟨fun r hr => hreceives.onAir r (List.mem_cons_of_mem _ hr), hincreasing.2,
        fun r hr => hreceives.from_reference r (List.mem_cons_of_mem _ hr), hdrift.2,
        fun r hr => hreceives.error r (List.mem_cons_of_mem _ hr),
        fun r hr => hreceives.observed_nonneg r (List.mem_cons_of_mem _ hr),
        fun r hr => hreceives.expected_fits r (List.mem_cons_of_mem _ hr)⟩
    · intro r hr
      exact hreference'.trans (hincreasing.1 _ (List.mem_map_of_mem hr)).le

/-- `tx_task` sets the reference of its scheduler and changes nothing else. -/
lemma hopsWith_referenced {tx : FhssService} {controller : FhssSyncController} (nowUs : ℤ)
    (h : HopsWith tx controller) : HopsWith (TxTask.referenced tx nowUs) controller := by
  unfold TxTask.referenced
  split
  · exact h
  · rename_i scheduler hreference
    refine ⟨h.hops, h.generation, Eq.trans ?_ h.duration⟩
    unfold fhssSlotSchedulerSetReference at hreference
    split at hreference
    · cases hreference
    split at hreference
    · cases hreference
    · cases hreference
      rfl

/-- Services over the same channels that hop by the same seed hop with each other. -/
lemma hopsWith_of_hopsBySeed {deriveTx deriveRx : UInt32 → UInt32} {tx rx : FhssService}
    {seed : UInt32} (htx : HopsBySeed protocol deriveTx tx seed)
    (hrx : HopsBySeed protocol deriveRx rx seed)
    (hchannels : tx.config.channels = rx.config.channels)
    (hreserved : tx.config.reservedChannel = rx.config.reservedChannel)
    (hgeneration : tx.config.generation = rx.config.generation)
    (hduration : tx.controller.scheduler.duration = rx.controller.scheduler.duration) :
    HopsWith tx rx.controller := by
  have hopTx := hopping_of_hopsBySeed protocol htx
  have hopRx := hopping_of_hopsBySeed protocol hrx
  have hhop := hopTx.hop
  rw [hchannels, hreserved, hopRx.hop] at hhop
  exact ⟨(Except.ok.inj hhop).symm, hgeneration.trans hopRx.generation.symm, hduration⟩

/-- **The link stays locked.**  A transmitter runs `tx_task` and its calls fit its slots; a receiver
with its channels and seed is synchronized and in step with it.  Whatever SYNC packets the receiver
takes in, as long as lateness, drift and timestamp errors fit its budget, it accepts each of them
inside the window, finds it on the channel it was sent on, and stays in step. -/
theorem link_followsHops (hcodec : SyncCodec protocol encodeFhssSync)
    {deriveTx deriveRx : UInt32 → UInt32} {tx rx : FhssService} {seed : UInt32}
    (htx : HopsBySeed protocol deriveTx tx seed) (hrx : HopsBySeed protocol deriveRx rx seed)
    (hchannels : tx.config.channels = rx.config.channels)
    (hreserved : tx.config.reservedChannel = rx.config.reservedChannel)
    (hgeneration : tx.config.generation = rx.config.generation)
    (hduration : tx.controller.scheduler.duration = rx.controller.scheduler.duration)
    {pace : TxPace} {pdMsToTicks : UInt32 → ℕ} {rounds : ℕ} {nowUs : ℤ}
    {events : List (Event TxCall TxCall.Answer)} {result : Option Unit} (hnow : 0 ≤ nowUs)
    (hfits : pace.FitsSlot pdMsToTicks (TxTask.referenced tx nowUs))
    (hrun : Run (TxTask.txTask pdMsToTicks protocol encodeFhssSync tx rounds)
      (⟨.espTimerGetTime, nowUs⟩ :: events) result)
    (hreal : ((keepingTime (TxTask.referenced tx nowUs) (nowUs + 100000) pace).timed
      pace.toPace).Real (.idle nowUs, ⟨nowUs, nowUs⟩) events)
    (hsync : rx.controller.scheduler.synchronized = true) {boundUs driftUs errorUs : ℕ}
    (hbudget : DriftBudget rx.controller boundUs driftUs (pace.lateUs + errorUs)) {skewUs : ℤ}
    (hstep : InStep rx.controller boundUs (nowUs + 100000 + skewUs)) {receptions : List Reception}
    (hreceives : ReceivesSyncs (txLog nowUs events).slots rx.controller boundUs driftUs errorUs
      pace.lateUs skewUs receptions) :
    FollowsHops protocol boundUs driftUs (nowUs + 100000) rx.controller receptions := by
  have hinitialized := (ready_of_hopsBySeed htx).1.scheduler_ready.initialized
  have hanchored := anchored_referenced tx hinitialized hnow
  obtain ⟨hready, hgain⟩ := ready_of_hopsBySeed hrx
  have hwith := hopsWith_referenced nowUs
    (hopsWith_of_hopsBySeed htx hrx hchannels hreserved hgeneration hduration)
  have hslots := run_txSlots hrun
  have hscheduled := scheduled_txLog hanchored hslots
  have hpunctual := punctual_txLog hfits hanchored hslots hreal
  exact followsHops_of_keepsUp hcodec hwith
    ⟨hready, .refl protocol rx.controller, hsync, inStep_iff.mp hstep⟩ rfl hgain hbudget
    hscheduled hpunctual hreceives hreceives.from_reference

end Follow

/-- An RX over the same channels, reset with another seed, that has derived hop seed 5. -/
def benchHopsRx : FhssService :=
  (fhssServiceApplyPublicSeed (some (· + 1))
    (resetController { sampleService with
      config := { sampleServiceConfig with slotDurationUs := 50000 } }).1 4).1

/-- It has locked onto the transmitter of the bench run: its clock is five seconds ahead, and its
slots start seven tenths of a millisecond late. -/
def benchRx : FhssService :=
  { benchHopsRx with
    controller :=
      (controllerStep plainProtocol benchHopsRx.controller (.setReference 0 5100700)).1 }

/-- It takes in the SYNC packets of slots 0, 2 and 3, while the clocks drift; that of slot 1 is
lost. -/
def benchReceptions : List Reception :=
  [⟨0, ⟨[10, 1, 7, 0, 0, 0, 0, 0, 0, 0, 0, 0, 0], some 1, 100050, true⟩, 5000100, -30⟩,
    ⟨2, ⟨[10, 1, 7, 0, 0, 0, 2, 0, 2, 2, 0, 0, 0], some 3, 200500, true⟩, 5000350, 20⟩,
    ⟨3, ⟨[10, 1, 7, 0, 0, 0, 3, 0, 0, 3, 0, 0, 0], some 1, 250080, true⟩, 5000420, -10⟩]

lemma hopsBySeed_benchTx : HopsBySeed plainProtocol id benchTx 5 :=
  .reset (by decide +kernel : resetController { sampleService with
    config := { sampleServiceConfig with role := .tx, hopSeed := 5, slotDurationUs := 50000 } } =
      (benchTx, true))

lemma hopsBySeed_benchRx : HopsBySeed plainProtocol (· + 1) benchRx 5 :=
  .call (.publicSeed (.reset (by decide +kernel : resetController { sampleService with
      config := { sampleServiceConfig with slotDurationUs := 50000 } } =
    ((resetController { sampleService with
      config := { sampleServiceConfig with slotDurationUs := 50000 } }).1, true))) 4
    (by decide +kernel)) (.setReference 0 5100700) trivial

theorem link_followsHops_bench :
    FollowsHops plainProtocol 10000 500 (0 + 100000) benchRx.controller benchReceptions := by
  have hbudget : DriftBudget benchRx.controller 10000 500 (benchTxPace.lateUs + 30) :=
    ⟨by decide, by decide +kernel, by decide +kernel, by decide +kernel⟩
  have hstep : InStep benchRx.controller 10000 (0 + 100000 + 5000000) :=
    inStep_iff.mpr (by decide +kernel)
  refine link_followsHops syncCodec_plainProtocol hopsBySeed_benchTx hopsBySeed_benchRx
    (by decide +kernel) (by decide +kernel) (by decide +kernel) (by decide +kernel) le_rfl
    fitsSlot_benchTxPace run_benchTxSlots (by decide +kernel) (by decide +kernel) hbudget hstep ?_
  exact ⟨by decide +kernel, by decide, by decide +kernel, by decide, by decide, by decide +kernel,
    by decide +kernel⟩

end FhssOtaRadio
