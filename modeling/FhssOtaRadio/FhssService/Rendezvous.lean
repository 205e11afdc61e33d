import FhssOtaRadio.AudioAdapter.AudioPacket
import FhssOtaRadio.FhssCore.HopPermutation
import FhssOtaRadio.FhssCore.SlotProgress
import FhssOtaRadio.FhssService.HopFrame
import FhssOtaRadio.FhssService.RxAgreement

/-!
# TX and RX hop together (`fhss_service.c`)

The TX announces each slot by a SYNC packet with the hop index of the slot; the RX recomputes the
index from a hop sequence of its own.  Both sequences are functions of the channel list and of a
seed, so that equal seeds give equal schedules (`Hopping.hop`).  With different seeds the two
still meet on the first channel, which no shuffle moves (`Hopping.rendezvous`).
-/

namespace FhssOtaRadio

open Machine

variable (protocol : OtaProtocol) (encodeFhssSync : OtaFhssSyncFields → Option Bytes)

/-! ## Sending SYNC packets -/

/-- `fhss_sync_packet_encode`; `encodeFhssSync` is `ota_protocol_encode_fhss_sync`, with `none`
for the length 0. -/
def fhssSyncPacketEncode (packet : FhssSyncPacket) (bufferCapacity : ℕ) :
    Except FhssPacketStatus Bytes :=
  if bufferCapacity < protocol.fhssSyncPacketSize then .error .bufferTooSmall
  else if packet.version ≠ protocol.fhssSyncVersion then .error .unsupportedVersion
  else
    match encodeFhssSync ⟨packet.version, packet.generation, packet.sequence, packet.hopIndex,
        packet.slotNumber⟩ with
    | none => .error .invalidType
    | some buffer =>
        if buffer.length = protocol.fhssSyncPacketSize then .ok buffer else .error .invalidType

/-- `send_sync`: the packet it hands to the radio, `none` when it sends nothing. -/
def sendSync (service : FhssService) (slot : UInt32) (sequence : UInt16) : Option Bytes :=
  match fhssHopSequenceGetIndex service.controller.core.hopSequence slot with
  | .error _ => none
  | .ok hopIndex =>
      (fhssSyncPacketEncode protocol encodeFhssSync
        ⟨protocol.fhssSyncVersion, service.config.generation, sequence, hopIndex, slot⟩
        protocol.fhssSyncPacketSize).toOption

/-- What the library promises of SYNC packets of its own version: they are packets of the fixed
size, begin with the type and the version, and decode to the fields they were made of. -/
structure SyncCodec : Prop where
  encodes : ∀ fields, fields.syncVersion = protocol.fhssSyncVersion →
    ∃ buffer, encodeFhssSync fields = some buffer ∧
      buffer.length = protocol.fhssSyncPacketSize ∧
      buffer.getD 0 0 = protocol.fhssSyncTypeByte ∧ buffer.getD 1 0 = fields.syncVersion ∧
      protocol.decodeFhssSync buffer = some fields

/-- A SYNC packet of the current version is encoded into bytes that decode to it. -/
lemma fhssSyncPacketEncode_roundTrip (h : SyncCodec protocol encodeFhssSync)
    {packet : FhssSyncPacket} (hversion : packet.version = protocol.fhssSyncVersion) :
    ∃ buffer, fhssSyncPacketEncode protocol encodeFhssSync packet protocol.fhssSyncPacketSize =
        .ok buffer ∧ fhssSyncPacketDecode protocol buffer = .ok packet := by
  obtain ⟨buffer, hencode, hlength, htype, hsecond, hdecode⟩ := h.encodes
    ⟨packet.version, packet.generation, packet.sequence, packet.hopIndex, packet.slotNumber⟩
    hversion
  refine ⟨buffer, ?_, ?_⟩
  · unfold fhssSyncPacketEncode
    rw [if_neg (lt_irrefl _), if_neg (not_not.mpr hversion), hencode]
    exact if_pos hlength
  · unfold fhssSyncPacketDecode
    rw [if_neg (not_not.mpr hlength), if_neg (not_not.mpr htype),
      if_neg (not_not.mpr (hsecond.trans hversion)), hdecode]

/-! ## The seed in force -/

/-- The calls that do not build a hop sequence. -/
def ControllerCall.KeepsHops : ControllerCall → Prop
  | .reinitHopSequence _ _ _ => False
  | _ => True

/-- The service hops by the given seed: `reset_controller` built its sequence, or
`fhss_service_apply_public_seed` did, and calls in between left it alone. -/
inductive HopsBySeed (deriveHopSeed : UInt32 → UInt32) : FhssService → UInt32 → Prop where
  | reset {service service' : FhssService} (hreset : resetController service = (service', true)) :
      HopsBySeed deriveHopSeed service' service.config.hopSeed
  | publicSeed {service service' : FhssService} {seed : UInt32}
      (hbuilt : HopsBySeed deriveHopSeed service seed) (publicSeed : UInt32)
      (happly : fhssServiceApplyPublicSeed (some deriveHopSeed) service publicSeed =
        (service', true)) :
      HopsBySeed deriveHopSeed service' (deriveHopSeed publicSeed)
  | call {service : FhssService} {seed : UInt32} (hbuilt : HopsBySeed deriveHopSeed service seed)
      (call : ControllerCall) (hkeeps : call.KeepsHops) :
      HopsBySeed deriveHopSeed
        { service with controller := (controllerStep protocol service.controller call).1 } seed

/-- A service whose hop sequence is the one of its channels and a seed.  The derived seed it
remembers gives the same sequence. -/
structure Hopping (deriveHopSeed : UInt32 → UInt32) (service : FhssService) (seed : UInt32) :
    Prop where
  hop : fhssHopSequenceInitSeeded service.config.channels seed service.config.reservedChannel =
    .ok service.hopSequence
  generation : service.controller.core.generation = service.config.generation
  ready : ControllerReady service.controller
  remembered : service.haveDerivedPublicSeed = true →
    fhssHopSequenceInitSeeded service.config.channels
      (deriveHopSeed service.lastDerivedPublicSeed) service.config.reservedChannel =
        .ok service.hopSequence

section Seed

variable {deriveHopSeed : UInt32 → UInt32} {service service' : FhssService} {seed : UInt32}

/-- Calls that keep the hops keep the core as far as it hops. -/
lemma sameCore_controllerStep (controller : FhssSyncController) {call : ControllerCall}
    (hkeeps : call.KeepsHops) :
    SameCore controller.core (controllerStep protocol controller call).1.core := by
  cases call with
  | processRx buffer rxTimestampUs =>
    exact sameCore_fhssSyncControllerProcessRx protocol controller buffer rxTimestampUs.toInt
  | recoverRx buffer rxTimestampUs =>
    exact sameCore_fhssSyncControllerRecoverRx protocol controller buffer rxTimestampUs.toInt
  | handleTimeout => exact sameCore_fhssSyncControllerHandleTimeout controller
  | clearReference =>
    simp only [controllerStep]
    split <;> exact .refl _
  | setReference slot timeUs =>
    simp only [controllerStep]
    split <;> exact .refl _
  | reinitHopSequence channels seed reservedChannel => exact absurd hkeeps id

/-- A controller that was reset hops by the seed of the configuration. -/
lemma hopping_reset (hreset : resetController service = (service', true)) :
    Hopping deriveHopSeed service' service.config.hopSeed := by
  rcases resetController_cases service with ⟨hfail, -⟩ | ⟨controller, hbuilt, hok⟩
  · rw [hfail] at hreset
    cases hreset
  · rw [hok] at hreset
    obtain ⟨rfl, -⟩ := Prod.mk.inj hreset
    obtain ⟨hhop, hgeneration⟩ := hops_fhssSyncControllerInit controller hbuilt
    exact ⟨hhop, hgeneration, (controllerReady_init hbuilt).1, nofun⟩

/-- An applied public seed is the seed in force afterwards, also when it was so before. -/
lemma Hopping.publicSeed (h : Hopping deriveHopSeed service seed) {publicSeed : UInt32}
    (happly : fhssServiceApplyPublicSeed (some deriveHopSeed) service publicSeed =
      (service', true)) :
    Hopping deriveHopSeed service' (deriveHopSeed publicSeed) := by
  unfold fhssServiceApplyPublicSeed at happly
  dsimp only at happly
  by_cases hcached : service.haveDerivedPublicSeed = true ∧
      publicSeed = service.lastDerivedPublicSeed
  · rw [if_pos hcached] at happly
    obtain ⟨rfl, -⟩ := Prod.mk.inj happly
    have hhop := h.remembered hcached.1
    rw [← hcached.2] at hhop
    exact ⟨hhop, h.generation, h.ready, h.remembered⟩
  · rw [if_neg hcached] at happly
    cases hhop : fhssHopSequenceInitSeeded service.config.channels (deriveHopSeed publicSeed)
        service.config.reservedChannel with
    | error status =>
      rw [hhop] at happly
      cases happly
    | ok hopSequence =>
      rw [hhop] at happly
      obtain ⟨rfl, -⟩ := Prod.mk.inj happly
      exact ⟨hhop, h.generation, ⟨h.ready.initialized, ⟨h.ready.core_ready.initialized,
        initialized_of_fhssHopSequenceInitSeeded hhop, h.ready.core_ready.tracker_ready⟩,
        h.ready.scheduler_ready⟩, fun _ => hhop⟩

/-- A call that keeps the hops keeps the seed in force. -/
lemma Hopping.call (h : Hopping deriveHopSeed service seed) {call : ControllerCall}
    (hkeeps : call.KeepsHops) :
    Hopping deriveHopSeed
      { service with controller := (controllerStep protocol service.controller call).1 } seed := by
  have hsame := sameCore_controllerStep protocol service.controller hkeeps
  refine ⟨?_, hsame.generation_eq.trans h.generation, controllerReady_step protocol h.ready call,
    ?_⟩
  · exact h.hop.trans (congrArg Except.ok hsame.hopSequence_eq.symm)
  · intro hhave
    exact (h.remembered hhave).trans (congrArg Except.ok hsame.hopSequence_eq.symm)

/-- A service hops by the seed in force. -/
lemma hopping_of_hopsBySeed (h : HopsBySeed protocol deriveHopSeed service seed) :
    Hopping deriveHopSeed service seed := by
  induction h with
  | reset hreset => exact hopping_reset hreset
  | publicSeed _ publicSeed happly ih => exact ih.publicSeed happly
  | call _ call hkeeps ih => exact ih.call protocol hkeeps

/-- The sequence of a service over a valid channel list is a shuffle of it. -/
lemma Hopping.shuffled (h : Hopping deriveHopSeed service seed)
    (hvalid : ValidChannels service.config.channels service.config.reservedChannel) :
    Shuffled service.config.channels service.hopSequence := by
  obtain ⟨sequence, hbuilt, hshuffled⟩ := fhssHopSequenceInitSeeded_of_valid hvalid seed
  obtain rfl := Except.ok.inj (h.hop.symm.trans hbuilt)
  exact hshuffled

/-- Whatever the seed, a slot that the channel count divides has hop index 0 and is on the first
channel. -/
lemma Hopping.rendezvous (h : Hopping deriveHopSeed service seed)
    (hvalid : ValidChannels service.config.channels service.config.reservedChannel)
    {slot : UInt32} (hslot : slot.toNat % service.config.channels.length = 0) :
    fhssHopSequenceGetIndex service.hopSequence slot = .ok 0 ∧
      ∃ channel, service.config.channels.head? = some channel ∧
        fhssHopSequenceGetChannel service.hopSequence slot = .ok channel := by
  have hshuffled := h.shuffled hvalid
  have hindex : fhssHopSequenceGetIndex service.hopSequence slot = .ok 0 := by
    unfold fhssHopSequenceGetIndex
    rw [if_neg (by simp [hshuffled.initialized]), hshuffled.channels_eq, hslot, hshuffled.head]
  have hnonempty := hvalid.nonempty
  refine ⟨hindex, service.config.channels.getD 0 0, ?_, ?_⟩
  · cases hchannels : service.config.channels with
    | nil => simp [hchannels] at hnonempty
    | cons channel channels => rfl
  · unfold fhssHopSequenceGetChannel
    rw [hindex, hshuffled.channels_eq]
    rfl

end Seed

/-! ## Hearing each other -/

/-- The TX sends the SYNC packet of a slot on a channel, and the RX accepts it whenever it comes
and takes the slot to be on the same channel. -/
def HearsSync (tx rx : FhssService) (slot : UInt32) (sequence : UInt16) (channel : UInt8) : Prop :=
  selectChannel tx slot true = ({ tx with currentChannel := channel }, true) ∧
    ∃ buffer, sendSync protocol encodeFhssSync tx slot sequence = some buffer ∧
      ∀ expectedRxTimeUs actualRxTimeUs, ∃ core result,
        fhssCoreProcessRx protocol rx.controller.core buffer expectedRxTimeUs actualRxTimeUs =
          (core, .ok result) ∧
        result.packet.slotNumber = slot ∧ result.packet.sequence = sequence ∧
        result.channel = channel

section Agree

variable {deriveTx deriveRx : UInt32 → UInt32} {tx rx : FhssService} {seedTx seedRx : UInt32}

/-- Two services that agree on the hop index and the channel of a slot hear each other in it. -/
lemma hearsSync_of_agree (hcodec : SyncCodec protocol encodeFhssSync)
    (htx : Hopping deriveTx tx seedTx) (hrx : Hopping deriveRx rx seedRx)
    (hgeneration : tx.config.generation = rx.config.generation) {slot : UInt32}
    {hopIndex channel : UInt8}
    (hindexTx : fhssHopSequenceGetIndex tx.hopSequence slot = .ok hopIndex)
    (hindexRx : fhssHopSequenceGetIndex rx.hopSequence slot = .ok hopIndex)
    (hchannelTx : fhssHopSequenceGetChannel tx.hopSequence slot = .ok channel)
    (hchannelRx : fhssHopSequenceGetChannel rx.hopSequence slot = .ok channel)
    (sequence : UInt16) : HearsSync protocol encodeFhssSync tx rx slot sequence channel := by
  unfold FhssService.hopSequence at hindexTx hindexRx hchannelTx hchannelRx
  obtain ⟨buffer, hencode, hdecode⟩ := @fhssSyncPacketEncode_roundTrip protocol encodeFhssSync
    hcodec ⟨protocol.fhssSyncVersion, tx.config.generation, sequence, hopIndex, slot⟩ rfl
  have haccepts : CoreAccepts protocol rx.controller.core buffer
      ⟨protocol.fhssSyncVersion, tx.config.generation, sequence, hopIndex, slot⟩ :=
    ⟨hdecode, hgeneration.trans hrx.generation.symm, hindexRx⟩
  refine ⟨?_, buffer, ?_, ?_⟩
  · unfold selectChannel fhssCoreGetChannel
    rw [if_neg (by simp [htx.ready.core_ready.initialized]), hchannelTx]
    rfl
  · unfold sendSync
    rw [hindexTx]
    dsimp only
    rw [hencode]
    rfl
  · intro expectedRxTimeUs actualRxTimeUs
    rcases fhssCoreProcessRx_cases protocol hrx.ready.core_ready buffer expectedRxTimeUs
      actualRxTimeUs with ⟨status, -, hrefuses⟩ | ⟨packet, syncTracker, syncEvent, channel',
        haccepts', hchannel', -, -, haccept⟩
    · exact absurd haccepts (hrefuses _)
    · obtain rfl := Except.ok.inj (haccepts'.1.symm.trans hdecode)
      obtain rfl := Except.ok.inj (hchannel'.symm.trans hchannelRx)
      exact ⟨_, _, haccept, rfl, rfl, rfl⟩

end Agree

/-- **TX and RX hop together.**  A TX and an RX share a valid channel list and the generation.
When their seeds are equal, the RX accepts the SYNC packet of every slot and takes the slot to be
on the channel the TX selected for it; whatever their seeds, that is so in every slot that the
channel count divides, and the channel is the first one. -/
theorem rendezvous_hearsSync (hcodec : SyncCodec protocol encodeFhssSync)
    {deriveTx deriveRx : UInt32 → UInt32} {tx rx : FhssService} {seedTx seedRx : UInt32}
    (htx : HopsBySeed protocol deriveTx tx seedTx) (hrx : HopsBySeed protocol deriveRx rx seedRx)
    (hchannels : tx.config.channels = rx.config.channels)
    (hreserved : tx.config.reservedChannel = rx.config.reservedChannel)
    (hgeneration : tx.config.generation = rx.config.generation)
    (hvalid : ValidChannels rx.config.channels rx.config.reservedChannel) :
    (seedTx = seedRx → ∀ slot sequence, ∃ channel ∈ rx.config.channels,
      HearsSync protocol encodeFhssSync tx rx slot sequence channel) ∧
    ∀ slot sequence, slot.toNat % rx.config.channels.length = 0 →
      ∃ channel, rx.config.channels.head? = some channel ∧
        HearsSync protocol encodeFhssSync tx rx slot sequence channel := by
  have hopTx := hopping_of_hopsBySeed protocol htx
  have hopRx := hopping_of_hopsBySeed protocol hrx
  constructor
  · rintro rfl slot sequence
    -- Equal seeds build equal sequences.
    have hsame : tx.hopSequence = rx.hopSequence := by
      have hhop := hopTx.hop
      rw [hchannels, hreserved, hopRx.hop] at hhop
      exact (Except.ok.inj hhop).symm
    obtain ⟨index, hindex⟩ := fhssHopSequenceGetIndex_of_initialized
      (hopRx.shuffled hvalid).initialized slot
    obtain ⟨channel, hmem, hchannel⟩ :=
      (fairHops_of_shuffled hvalid (hopRx.shuffled hvalid)).onChannel slot
    exact ⟨channel, hmem, hearsSync_of_agree protocol encodeFhssSync hcodec hopTx hopRx
      hgeneration (hsame ▸ hindex) hindex (hsame ▸ hchannel) hchannel sequence⟩
  · intro slot sequence hslot
    obtain ⟨hindexRx, channel, hhead, hchannelRx⟩ := hopRx.rendezvous hvalid hslot
    have hvalidTx : ValidChannels tx.config.channels tx.config.reservedChannel := by
      rw [hchannels, hreserved]
      exact hvalid
    obtain ⟨hindexTx, channelTx, hheadTx, hchannelTx⟩ := hopTx.rendezvous hvalidTx
      (by rw [hchannels]; exact hslot)
    rw [hchannels, hhead] at hheadTx
    obtain rfl := Option.some.inj hheadTx
    exact ⟨channel, hhead, hearsSync_of_agree protocol encodeFhssSync hcodec hopTx hopRx
      hgeneration hindexTx hindexRx hchannelTx hchannelRx sequence⟩

/-! ## A receiver that derives the seed -/

/-- The SYNC packets of the concrete wire format. -/
def plainEncodeFhssSync (fields : OtaFhssSyncFields) : Option Bytes :=
  some ([10, fields.syncVersion] ++ u32LeBytes fields.generation ++ u16LeBytes fields.sequence ++
    [fields.hopIndex] ++ u32LeBytes fields.slotNumber)

/-- They round-trip. -/
lemma syncCodec_plainProtocol : SyncCodec plainProtocol plainEncodeFhssSync := by
  refine ⟨fun fields _ => ⟨_, rfl, rfl, rfl, rfl, ?_⟩⟩
  have hgeneration := u32_ofNat_bytes fields.generation
  have hsequence := u16_ofNat_bytes fields.sequence
  have hslot := u32_ofNat_bytes fields.slotNumber
  obtain ⟨syncVersion, generation, sequence, hopIndex, slotNumber⟩ := fields
  refine congrArg some ?_
  exact (OtaFhssSyncFields.mk.injEq ..).mpr ⟨rfl, hgeneration, hsequence, rfl, hslot⟩

/-- A TX over three channels, with hop seed 5. -/
def sampleHopsTx : FhssService :=
  (resetController { sampleService with
    config := { sampleServiceConfig with role := .tx, hopSeed := 5 } }).1

/-- An RX over the same channels, reset with another seed, that has derived hop seed 5 from a
public seed. -/
def sampleHopsRx : FhssService :=
  (fhssServiceApplyPublicSeed (some (· + 1)) (resetController sampleService).1 4).1

/-- The two hop together. -/
theorem rendezvous_hearsSync_derived :
    ((5 : UInt32) = 4 + 1 → ∀ slot sequence, ∃ channel ∈ sampleHopsRx.config.channels,
      HearsSync plainProtocol plainEncodeFhssSync sampleHopsTx sampleHopsRx slot sequence
        channel) ∧
    ∀ slot sequence, slot.toNat % sampleHopsRx.config.channels.length = 0 →
      ∃ channel, sampleHopsRx.config.channels.head? = some channel ∧
        HearsSync plainProtocol plainEncodeFhssSync sampleHopsTx sampleHopsRx slot sequence
          channel :=
  @rendezvous_hearsSync plainProtocol plainEncodeFhssSync syncCodec_plainProtocol id (· + 1)
    sampleHopsTx sampleHopsRx 5 (4 + 1)
    (.reset (by decide +kernel : resetController { sampleService with
      config := { sampleServiceConfig with role := .tx, hopSeed := 5 } } = (sampleHopsTx, true)))
    (.publicSeed
      (.reset (by decide +kernel : resetController sampleService =
        ((resetController sampleService).1, true))) 4 (by decide +kernel))
    (by decide) (by decide) (by decide)
    ⟨by decide, by decide, by decide, by decide⟩

end FhssOtaRadio
