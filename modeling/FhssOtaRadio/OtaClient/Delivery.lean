import FhssOtaRadio.Library.Collecting
import FhssOtaRadio.OtaClient.BootSafety
import FhssOtaRadio.OtaClient.LossRecovery

/-!
# An image gets through a lossy channel

A session is opened for an image, and from then on the channel loses, repeats and reorders the
packets at will.  What the consumer relies on is little: in every round that its time-out begins
with NACKs, the resent chunk of *one* of them gets through (`ResendRound.Lossy`).  The packets in
between may be of any kind, as long as a DATA packet of the session carries the image's bytes,
nobody ends or aborts the session, and the flash driver works.

`TakesIn` says that an open session has taken in nothing but the image so far: what was flashed
and hashed is its beginning, and the open batch holds the pieces that follow.  Each round brings
a missing chunk, so the rule for collecting pieces bounds the number of rounds.
-/

namespace FhssOtaRadio

open Collecting

/-- The open session has taken in `image` as far as its counters say: the bytes flashed and the
bytes hashed are its beginning, and each slot of the open batch holds the piece of its number. -/
structure TakesIn (image flashed : Bytes) (context : OtaClientContext) : Prop
    extends SessionCounters context where
  receiving : context.state = .receiving
  image_size : context.imageSize.toNat = image.length
  hashed_eq : context.writer.hashOperation =
    some (image.take (48 * context.expectedSequence.toNat))
  flashed_eq : flashed = image.take (48 * context.expectedSequence.toNat)
  slot_eq : ∀ i, context.batchCache.Received i →
    context.batchCache.slotBytes i = piece 48 image (context.expectedSequence.toNat + i)

/-- An open session moves on: it goes on, and its expected sequence does not fall back. -/
structure MovesOn (context context' : OtaClientContext) : Prop
    extends SessionGoesOn context context' where
  expected_le : context.expectedSequence.toNat ≤ context'.expectedSequence.toNat

/-- The flash driver and the hash accept what is written. -/
structure OtaHal.Writes (hal : OtaHal) : Prop where
  otaWrite : hal.otaWrite = .ok
  hashUpdate : hal.hashUpdate = true

/-- The drivers accept the end of the image and the switch of the boot partition. -/
structure OtaHal.Finishes (hal : OtaHal) : Prop where
  otaEnd : hal.otaEnd = .ok
  hashFinish : hal.hashFinish = true
  hashLength : hal.hashLength = 32
  setBootPartition : hal.setBootPartition = .ok

section Session

variable {image flashed : Bytes} {context : OtaClientContext}

lemma MovesOn.refl (hrecv : context.state = .receiving) (hinv : SessionInv context) :
    MovesOn context context :=
  ⟨SessionGoesOn.refl hrecv hinv, le_rfl⟩

lemma MovesOn.trans {context' context'' : OtaClientContext} (h : MovesOn context context')
    (h' : MovesOn context' context'') : MovesOn context context'' :=
  ⟨h.toSessionGoesOn.trans h'.toSessionGoesOn, h.expected_le.trans h'.expected_le⟩

/-- A session just opened for the image has taken in nothing. -/
lemma takesIn_start {sessionId imageSize totalChunks : UInt32}
    {expectedSha256 : Option Sha256Digest} {hal : OtaHal} {now : UInt32}
    (hok : (otaClientStartSession context sessionId imageSize totalChunks expectedSha256 hal
      now).err = .ok)
    (hsize : imageSize.toNat = image.length) :
    let started := otaClientStartSession context sessionId imageSize totalChunks expectedSha256
      hal now
    TakesIn image (started.calls.foldl flashStep []) started.context := by
  intro started
  have hinv := sessionInv_start hok
  obtain ⟨digest, partition, -, -, -, -, heq⟩ := otaClientStartSession_ok hok
  have hstarted : started = _ := heq
  rw [heq] at hinv
  rw [hstarted]
  exact
    { hinv.toSessionCounters with
      receiving := rfl
      image_size := hsize
      hashed_eq := rfl
      flashed_eq := rfl
      slot_eq := fun i hi => absurd hi (not_received_otaBatchCachePrepare _ _ i) }

/-- Nothing but the tick of the last packet changes. -/
lemma TakesIn.withTick (h : TakesIn image flashed context) (tick : UInt32) :
    TakesIn image flashed { context with lastPacketTick := tick } :=
  { h with }

/-- An empty slot takes in the piece of its number. -/
lemma TakesIn.store (h : TakesIn image flashed context) {sessionId sequence : UInt32}
    {data : Bytes} {index : Fin otaClientBatchSize}
    (hadm : ChunkAdmissible context sessionId sequence data)
    (hseq : sequence.toNat = context.expectedSequence.toNat + index.val)
    (hindex : index.val < context.batchCache.chunkCount.val)
    (hempty : ¬ context.batchCache.Received index)
    (hdata : data = piece 48 image sequence.toNat) (now : UInt32) :
    TakesIn image flashed (context.storeChunk index data now) := by
  have hbase : sequence.toNat = context.batchCache.baseSequence.toNat + index.val := by
    rw [h.base_eq]
    exact hseq
  refine
    { h.toSessionCounters.storeChunk hadm hbase hindex now with
      receiving := h.receiving
      image_size := h.image_size
      hashed_eq := h.hashed_eq
      flashed_eq := h.flashed_eq
      slot_eq := fun i hi => ?_ }
  change (context.batchCache.fillSlot index data).slotBytes i =
    piece 48 image (context.expectedSequence.toNat + i)
  rcases (received_fillSlot context.batchCache index data i).mp hi with hrec | rfl
  · have hne : i ≠ index.val := by
      rintro rfl
      exact hempty hrec
    rw [slotBytes_fillSlot_of_ne _ _ _ hne]
    exact h.slot_eq i hrec
  · rw [slotBytes_fillSlot_self _ _ _ hadm.fits, ← hseq]
    exact hdata

/-- A complete batch is the part of the image that follows what was flashed. -/
lemma TakesIn.take_append_batchBytes (h : TakesIn image flashed context)
    (hcomplete : otaBatchCacheIsComplete context.batchCache = true) :
    image.take (48 * context.expectedSequence.toNat) ++ context.batchBytes =
      image.take
        (48 * (context.expectedSequence.toNat + context.batchCache.chunkCount.val)) := by
  have hall := ((otaBatchCacheIsComplete_iff _).mp hcomplete).2
  have hbytes : context.batchBytes = (List.range context.batchCache.chunkCount.val).flatMap
      fun i => piece 48 image (context.expectedSequence.toNat + i) := by
    unfold OtaClientContext.batchBytes
    rw [List.flatMap_def, List.flatMap_def]
    refine congrArg List.flatten (List.map_congr_left fun i hi => ?_)
    exact h.slot_eq i (hall i (List.mem_range.mp hi))
  rw [hbytes]
  exact take_append_pieces 48 image _ _

/-- A complete batch is written, and the next one opened after it. -/
lemma TakesIn.commit (h : TakesIn image flashed context)
    (hcomplete : otaBatchCacheIsComplete context.batchCache = true) {hal : OtaHal}
    (hwrites : hal.Writes) :
    let written := otaWriterWrite context.writer context.batchBytes hal
    written.err = .ok ∧
      TakesIn image (written.calls.foldl flashStep flashed)
        (context.advanceBatch written.writer) := by
  intro written
  have hlength := h.length_batchBytes hcomplete
  have hcount := h.chunkCount_eq
  have htotal := h.totalChunks_eq
  have hreceived := h.received_eq
  have hwritten := h.written
  have hsize := h.writerSize
  have hne := ((otaBatchCacheIsComplete_iff _).mp hcomplete).1
  have hbytes := h.take_append_batchBytes hcomplete
  have heq : written = _ := otaWriterWrite_ok (by omega) h.active h.hashActive h.hashed_eq
    (by omega) hwrites.otaWrite hwrites.hashUpdate
  have hok : written.err = .ok := by rw [heq]
  have hinv := h.toSessionCounters.advanceBatch hcomplete hok
  have hnext := h.toNat_expectedSequence_advanceBatch written.writer
  refine ⟨hok,
    { hinv.toSessionCounters with
      receiving := h.receiving
      image_size := h.image_size
      hashed_eq := ?_
      flashed_eq := ?_
      slot_eq := fun i hi => absurd hi (not_received_otaBatchCachePrepare _ _ i) }⟩
  · rw [hnext, ← hbytes, heq]
    rfl
  · rw [hnext, ← hbytes, heq, ← h.flashed_eq]
    rfl

/-- A call of `ota_client_write_chunk` with the image's bytes keeps the session taking in the
image, and refuses the chunk only without a change. -/
lemma takesIn_writeChunk (h : TakesIn image flashed context) (hinv : SessionInv context)
    {sessionId sequence : UInt32} {payload : Bytes} {hal : OtaHal} (now : UInt32)
    (hwrites : hal.Writes)
    (hpayload : ChunkAdmissible context sessionId sequence payload →
      payload = piece 48 image sequence.toNat) :
    let outcome := otaClientWriteChunk context sessionId sequence (some payload) hal now
    MovesOn context outcome.context ∧
      TakesIn image (outcome.calls.foldl flashStep flashed) outcome.context ∧
      (outcome.err = .ok ∨ outcome.err ≠ .ok ∧ outcome = ⟨outcome.err, context, [], []⟩) := by
  intro outcome
  have hgoes : outcome.err = .ok → SessionGoesOn context outcome.context := fun hok =>
    (holds_of_writeChunk_ok h.receiving hinv hok).1
  have heffect := writeChunkEffect hinv sessionId sequence (some payload) hal now
  change WriteChunkEffect context sessionId sequence (some payload) hal now outcome at heffect
  clear_value outcome
  cases heffect with
  | refused err herr => exact ⟨MovesOn.refl h.receiving hinv, h, .inr ⟨herr, rfl⟩⟩
  | held bytes hdata hadm hholds => exact ⟨MovesOn.refl h.receiving hinv, h, .inl rfl⟩
  | stored bytes index hdata hadm hseq hindex hempty hincomplete =>
    obtain rfl := Option.some_inj.mp hdata
    exact ⟨⟨hgoes rfl, le_rfl⟩, h.store hadm hseq hindex hempty (hpayload hadm) now, .inl rfl⟩
  | committed bytes index written events hdata hadm hseq hindex hempty hcomplete hwritten hok =>
    obtain rfl := Option.some_inj.mp hdata
    have hstored := h.store hadm hseq hindex hempty (hpayload hadm) now
    obtain ⟨-, hcommitted⟩ := hstored.commit hcomplete hwrites
    have hnext := hstored.toNat_expectedSequence_advanceBatch written.writer
    subst hwritten
    refine ⟨⟨hgoes rfl, ?_⟩, hcommitted, .inl rfl⟩
    rw [hnext]
    exact Nat.le_add_right _ _
  | failed bytes index written hdata hadm hseq hindex hempty hcomplete hwritten herr =>
    obtain rfl := Option.some_inj.mp hdata
    have hstored := h.store hadm hseq hindex hempty (hpayload hadm) now
    rw [hwritten] at herr
    exact absurd (hstored.commit hcomplete hwrites).1 herr

/-- Once every chunk is held, the whole image is flashed and hashed. -/
lemma TakesIn.complete (h : TakesIn image flashed context) (hinv : SessionInv context)
    (hall : ∀ n < context.totalChunks.toNat, context.Holds n) :
    context.receivedBytes = context.imageSize ∧
      context.expectedSequence = context.totalChunks ∧
      context.writer.hashOperation = some image ∧ flashed = image := by
  obtain ⟨hreceived, hexpected⟩ := received_all_of_holds hinv hall
  have htotal := h.totalChunks_eq
  have hsize := h.image_size
  have htake : image.take (48 * context.expectedSequence.toNat) = image := by
    apply List.take_of_length_le
    rw [hexpected]
    omega
  refine ⟨hreceived, hexpected, ?_, ?_⟩
  · rw [h.hashed_eq, htake]
  · rw [h.flashed_eq, htake]

end Session

/-- A writer that has hashed the expected image finishes with working drivers. -/
lemma otaWriterFinish_ok (sha256 : Bytes → Sha256Digest) {writer : OtaWriter}
    {partition : EspPartition} {hashed : Bytes} {hal : OtaHal} (hactive : writer.active = true)
    (hpartition : writer.partition = some partition)
    (hsize : writer.writtenSize = writer.imageSize) (hhash : writer.hashActive = true)
    (hop : writer.hashOperation = some hashed) (hfinishes : hal.Finishes) :
    let finished := otaWriterFinish sha256 writer (sha256 hashed) hal
    finished.err = .ok ∧ .setBootPartition partition .ok ∈ finished.calls := by
  intro finished
  have heq : finished = otaWriterFinish sha256 writer (sha256 hashed) hal := rfl
  unfold otaWriterFinish otaWriterVerify at heq
  simp only [hactive, hpartition, hsize, ne_eq, not_true_eq_false, if_false, hfinishes.otaEnd,
    hhash, hop, psaHashFinish, hfinishes.hashFinish, hfinishes.hashLength,
    hfinishes.setBootPartition, Bool.true_eq_false] at heq
  rw [heq]
  exact ⟨rfl, by simp⟩

section Consumer

variable (protocol : OtaProtocol) (sha256 : Bytes → Sha256Digest)

/-! ## Packets on the channel -/

/-- A packet that does no harm to the download of `image` in session `sessionId`: the drivers
work while it is processed, a chunk of the session is the image's, and it does not end the
session. -/
structure HarmlessPacket (image : Bytes) (sessionId : UInt32) (packet : Bytes)
    (env : OtaConsumerEnv) : Prop where
  writes : env.hal.Writes
  data : protocol.peekType packet = some .data → ∀ header payload,
    otaConsumerDecodeData protocol packet = some (header, payload) →
    header.sessionId = sessionId → 48 * header.sequence.toNat < image.length →
      payload = piece 48 image header.sequence.toNat
  end_ne : protocol.peekType packet = some .end → ∀ fields,
    protocol.decodeEnd packet = some fields → fields.sessionId ≠ sessionId

/-- An input that does no harm to the download: a harmless packet, or a time-out. -/
def ConsumerInput.Harmless (image : Bytes) (sessionId : UInt32) : ConsumerInput → Prop
  | .packet bytes env => HarmlessPacket protocol image sessionId bytes env
  | .receiveTimeout _ _ => True
  | .abort _ => False

/-- The packet resends the chunk of the image that the NACK asks for. -/
structure Resends (image : Bytes) (fields : OtaAckFields) (packet : Bytes) : Prop where
  type : protocol.peekType packet = some .data
  decoded : ∃ header, otaConsumerDecodeData protocol packet =
      some (header, piece 48 image fields.sequence.toNat) ∧
    header.sessionId = fields.sessionId ∧ header.sequence = fields.sequence

/-- A round of the protocol: the consumer's time-out, and what comes until the next one. -/
structure ResendRound where
  timeoutTicks : UInt32
  now : UInt32
  later : List ConsumerInput

/-- What the consumer gets in a round. -/
def ResendRound.inputs (round : ResendRound) : List ConsumerInput :=
  .receiveTimeout round.timeoutTicks round.now :: round.later

/-- The NACKs of the time-out that begins the round. -/
def ResendRound.asked (round : ResendRound) (state : OtaConsumerState) : List OtaAckFields :=
  timeoutNacks
    (otaConsumerHandleReceiveTimeout protocol state round.timeoutTicks round.now).sends

/-- A round over the lossy channel: the time-out is due, what comes later does no harm, and if
chunks are asked for, one of them gets through. -/
structure ResendRound.Lossy (image : Bytes) (state : OtaConsumerState) (round : ResendRound) :
    Prop where
  due : round.timeoutTicks ≤ round.now - state.context.lastPacketTick
  harmless : ∀ input ∈ round.later, input.Harmless protocol image state.context.sessionId
  through : round.asked protocol state ≠ [] → ∃ fields ∈ round.asked protocol state,
    ∃ packet env, .packet packet env ∈ round.later ∧ Resends protocol image fields packet

/-- The consumer as a machine of rounds, with the driver calls of each round. -/
def resendRoundStep (state : OtaConsumerState) (round : ResendRound) :
    OtaConsumerState × List OtaCall :=
  (Machine.finalState (consumerStep protocol sha256) state round.inputs,
    (Machine.outputs (consumerStep protocol sha256) state round.inputs).flatMap
      OtaConsumerOutcome.calls)

/-! ## One input -/

variable {image flashed : Bytes} {state : OtaConsumerState}

/-- While a session is open, a packet that does not end it changes nothing, unless it is a chunk
that goes to `ota_client_write_chunk`. -/
lemma processPacket_cases (hrecv : state.context.state = .receiving) {packet : Bytes}
    (env : OtaConsumerEnv)
    (hend : protocol.peekType packet = some .end → ∀ fields,
      protocol.decodeEnd packet = some fields → fields.sessionId ≠ state.context.sessionId) :
    let outcome := otaConsumerProcessPacket protocol sha256 state packet env
    (outcome.state.context = state.context ∧ outcome.calls = []) ∨
    ∃ header payload, protocol.peekType packet = some .data ∧
      otaConsumerDecodeData protocol packet = some (header, payload) ∧
      let written := otaClientWriteChunk state.context header.sessionId header.sequence
        (some payload) env.hal env.now
      outcome.state.context = written.context ∧ outcome.calls = written.calls := by
  intro outcome
  have houtcome : outcome = otaConsumerProcessPacket protocol sha256 state packet env := rfl
  unfold otaConsumerProcessPacket at houtcome
  split at houtcome
  · left
    split_ifs at houtcome
    · rw [houtcome]
      exact discover_context protocol state env
    · rw [houtcome]
      exact ⟨rfl, rfl⟩
  · left
    rw [houtcome]
    unfold otaConsumerHandleStart
    cases otaConsumerStartChecks protocol state.context packet env.otaMode with
    | inl sends => exact ⟨rfl, rfl⟩
    | inr fields =>
      obtain ⟨err, -, heq⟩ := otaClientStartSession_of_receiving hrecv fields.sessionId
        fields.imageSize fields.totalChunks (some fields.imageSha256) env.hal env.now
      dsimp only [otaConsumerOpenSession]
      rw [heq]
      exact ⟨rfl, rfl⟩
  · rename_i hpeek
    rw [houtcome]
    unfold otaConsumerHandleData
    cases hdecode : otaConsumerDecodeData protocol packet with
    | none =>
      left
      dsimp only
      split_ifs <;> exact ⟨rfl, rfl⟩
    | some decoded =>
      obtain ⟨header, payload⟩ := decoded
      dsimp only
      split_ifs
      · exact .inl ⟨rfl, rfl⟩
      · exact .inl ⟨rfl, rfl⟩
      · exact .inl ⟨rfl, rfl⟩
      · exact .inr ⟨header, payload, hpeek, rfl, rfl, rfl⟩
      · exact .inr ⟨header, payload, hpeek, rfl, rfl, rfl⟩
  · rename_i hpeek
    left
    rw [houtcome]
    unfold otaConsumerHandleEnd otaConsumerEndChecks
    cases hdecode : protocol.decodeEnd packet with
    | none => exact ⟨rfl, rfl⟩
    | some fields =>
      have hready : state.context.state ≠ .readyToReboot := by simp [hrecv]
      dsimp only
      rw [if_neg (fun hrepeat => hready hrepeat.1), if_neg (not_ne_iff.mpr hrecv),
        if_pos (hend hpeek fields hdecode)]
      exact ⟨rfl, rfl⟩
  · left
    rw [houtcome]
    exact fhssConfig_context protocol state packet env
  · left
    rw [houtcome]
    exact fhssActivate_context protocol state packet env
  · left
    rw [houtcome]
    exact ⟨rfl, rfl⟩

/-- A harmless input keeps the session taking in the image. -/
lemma takesIn_input (h : TakesIn image flashed state.context) (hinv : SessionInv state.context)
    (input : ConsumerInput) (hharmless : input.Harmless protocol image state.context.sessionId) :
    let outcome := runConsumerInput protocol sha256 state input
    MovesOn state.context outcome.state.context ∧
      TakesIn image (outcome.calls.foldl flashStep flashed) outcome.state.context := by
  intro outcome
  cases input with
  | packet packet env =>
    obtain ⟨hcontext, hcalls⟩ | ⟨header, payload, hpeek, hdecode, hcontext, hcalls⟩ :=
      processPacket_cases protocol sha256 h.receiving env hharmless.end_ne
    · change outcome.state.context = _ at hcontext
      change outcome.calls = _ at hcalls
      rw [hcontext, hcalls]
      exact ⟨MovesOn.refl h.receiving hinv, h⟩
    · change outcome.state.context = _ at hcontext
      change outcome.calls = _ at hcalls
      rw [hcontext, hcalls]
      have hpayload : ChunkAdmissible state.context header.sessionId header.sequence payload →
          payload = piece 48 image header.sequence.toNat := by
        intro hadm
        have hrange := hadm.inRange
        have htotal := h.totalChunks_eq
        have hsize := h.image_size
        exact hharmless.data hpeek header payload hdecode hadm.session (by omega)
      obtain ⟨hmoves, htakes, -⟩ :=
        takesIn_writeChunk h hinv env.now hharmless.writes hpayload
      exact ⟨hmoves, htakes⟩
  | receiveTimeout timeoutTicks now =>
    have houtcome : outcome = otaConsumerHandleReceiveTimeout protocol state timeoutTicks now :=
      rfl
    unfold otaConsumerHandleReceiveTimeout at houtcome
    dsimp only at houtcome
    split_ifs at houtcome
    · rw [houtcome]
      exact ⟨MovesOn.refl h.receiving hinv, h⟩
    · rw [houtcome]
      exact ⟨MovesOn.refl h.receiving hinv, h⟩
    · rw [houtcome]
      exact ⟨⟨⟨h.receiving, sessionInv_lastPacketTick hinv now, ⟨rfl, rfl, rfl, rfl, rfl⟩,
        fun _ hn => hn⟩, le_rfl⟩, h.withTick now⟩
  | abort hal => exact absurd hharmless id

/-- Harmless inputs keep the session taking in the image. -/
lemma takesIn_inputs (h : TakesIn image flashed state.context) (hinv : SessionInv state.context)
    {inputs : List ConsumerInput}
    (hharmless : ∀ input ∈ inputs, input.Harmless protocol image state.context.sessionId) :
    let final := Machine.finalState (consumerStep protocol sha256) state inputs
    let calls := (Machine.outputs (consumerStep protocol sha256) state inputs).flatMap
      OtaConsumerOutcome.calls
    MovesOn state.context final.context ∧
      TakesIn image (calls.foldl flashStep flashed) final.context := by
  induction inputs generalizing state flashed with
  | nil => exact ⟨MovesOn.refl h.receiving hinv, h⟩
  | cons input inputs ih =>
    rw [List.forall_mem_cons] at hharmless
    obtain ⟨hmoves, htakes⟩ := takesIn_input protocol sha256 h hinv input hharmless.1
    obtain ⟨hmoves', htakes'⟩ := ih htakes hmoves.inv (by
      intro input hinput
      rw [hmoves.same.sessionId]
      exact hharmless.2 input hinput)
    refine ⟨hmoves.trans hmoves', ?_⟩
    rw [Machine.outputs_cons, List.flatMap_cons, List.foldl_append]
    exact htakes'

/-! ## One round -/

/-- A resent chunk of the open batch is held once it was processed. -/
lemma holds_of_resends (h : TakesIn image flashed state.context)
    (hinv : SessionInv state.context) {fields : OtaAckFields} {packet : Bytes}
    {env : OtaConsumerEnv} (hresends : Resends protocol image fields packet)
    (hharmless : HarmlessPacket protocol image state.context.sessionId packet env)
    (hsession : fields.sessionId = state.context.sessionId)
    (hbatch : fields.sequence.toNat < state.context.expectedSequence.toNat + 5)
    (hrange : fields.sequence.toNat < state.context.totalChunks.toNat) :
    (otaConsumerProcessPacket protocol sha256 state packet env).state.context.Holds
      fields.sequence.toNat := by
  have hmoves := (takesIn_input protocol sha256 h hinv (.packet packet env) hharmless).1
  by_cases hholds : state.context.Holds fields.sequence.toNat
  · exact hmoves.holds _ hholds
  obtain ⟨header, hdecode, hheader, hsequence⟩ := hresends.decoded
  have htotal := h.totalChunks_eq
  have hsize := h.image_size
  have hcount := h.chunkCount_eq
  have hlength := length_piece 48 image fields.sequence.toNat
  have hbase : state.context.batchCache.baseSequence.toNat =
      state.context.expectedSequence.toNat := by rw [h.base_eq]
  have hexpected : state.context.expectedSequence.toNat ≤ fields.sequence.toNat :=
    Nat.not_lt.mp fun hlt => hholds (.inl hlt)
  have hempty : ¬ state.context.batchCache.Received
      (fields.sequence.toNat - state.context.expectedSequence.toNat) :=
    fun hrec => hholds (.inr ⟨hexpected, hrec⟩)
  have hadm : ChunkAdmissible state.context header.sessionId header.sequence
      (piece 48 image fields.sequence.toNat) :=
    { receiving := h.receiving
      session := hheader.trans hsession
      inRange := hsequence ▸ hrange
      nonempty := by omega
      fits := by
        change _ ≤ 48
        omega
      size := by
        rw [otaClientExpectedDataSize_eq h.totalChunks_eq (hsequence ▸ hrange), hsequence,
          hlength, hsize]
        rfl }
  have hprocess : (otaConsumerProcessPacket protocol sha256 state packet env).state.context =
      (otaClientWriteChunk state.context header.sessionId header.sequence
        (some (piece 48 image fields.sequence.toNat)) env.hal env.now).context := by
    unfold otaConsumerProcessPacket otaConsumerHandleData
    rw [hresends.type]
    dsimp only
    rw [hdecode]
    dsimp only
    rw [if_neg hadm.nonempty.ne', if_neg (not_ne_iff.mpr h.receiving),
      if_neg (not_ne_iff.mpr hadm.session)]
    rfl
  have hpayload : ChunkAdmissible state.context header.sessionId header.sequence
      (piece 48 image fields.sequence.toNat) →
      piece 48 image fields.sequence.toNat = piece 48 image header.sequence.toNat :=
    fun _ => by rw [hsequence]
  obtain ⟨-, -, hok | ⟨herr, hrefused⟩⟩ :=
    takesIn_writeChunk h hinv env.now hharmless.writes hpayload
  · have hheld := (holds_of_writeChunk_ok h.receiving hinv hok).2.2
    rw [hsequence] at hheld
    rw [hprocess, hsequence]
    exact hheld
  · refine absurd hrefused (otaClientWriteChunk_ne_refused hinv hadm ?_ hempty ?_ env.hal env.now
      herr)
    · omega
    · rw [hsequence]
      omega

/-- A resent chunk of the open batch is held at the end of the inputs it is among. -/
lemma holds_of_mem_inputs (h : TakesIn image flashed state.context)
    (hinv : SessionInv state.context) {inputs : List ConsumerInput}
    (hharmless : ∀ input ∈ inputs, input.Harmless protocol image state.context.sessionId)
    {fields : OtaAckFields} {packet : Bytes} {env : OtaConsumerEnv}
    (hmem : .packet packet env ∈ inputs) (hresends : Resends protocol image fields packet)
    (hsession : fields.sessionId = state.context.sessionId)
    (hbatch : fields.sequence.toNat < state.context.expectedSequence.toNat + 5)
    (hrange : fields.sequence.toNat < state.context.totalChunks.toNat) :
    (Machine.finalState (consumerStep protocol sha256) state inputs).context.Holds
      fields.sequence.toNat := by
  induction inputs generalizing state flashed with
  | nil => cases hmem
  | cons input inputs ih =>
    rw [List.forall_mem_cons] at hharmless
    obtain ⟨hmoves, htakes⟩ := takesIn_input protocol sha256 h hinv input hharmless.1
    have hlater : ∀ input' ∈ inputs, input'.Harmless protocol image
        (runConsumerInput protocol sha256 state input).state.context.sessionId := by
      rw [hmoves.same.sessionId]
      exact hharmless.2
    rcases List.mem_cons.mp hmem with rfl | hmem
    · have hholds := holds_of_resends protocol sha256 h hinv hresends hharmless.1 hsession hbatch
        hrange
      exact (takesIn_inputs protocol sha256 htakes hmoves.inv hlater).1.holds _ hholds
    · have hbatch' : fields.sequence.toNat < (runConsumerInput protocol sha256 state
          input).state.context.expectedSequence.toNat + 5 :=
        hbatch.trans_le (Nat.add_le_add_right hmoves.expected_le 5)
      have hrange' : fields.sequence.toNat < (runConsumerInput protocol sha256 state
          input).state.context.totalChunks.toNat := by
        rw [hmoves.same.totalChunks]
        exact hrange
      exact ih htakes hmoves.inv hlater hmem (hsession.trans hmoves.same.sessionId.symm) hbatch'
        hrange'

/-- The session of the state downloads `image` in `total` chunks. -/
structure Downloading (image : Bytes) (total : ℕ) (state : OtaConsumerState) : Prop where
  takes : ∃ flashed, TakesIn image flashed state.context
  inv : SessionInv state.context
  total_eq : state.context.totalChunks.toNat = total

/-- A round keeps the session taking in the image. -/
lemma takesIn_round (h : TakesIn image flashed state.context) (hinv : SessionInv state.context)
    {round : ResendRound} (hlossy : round.Lossy protocol image state) :
    let after := resendRoundStep protocol sha256 state round
    MovesOn state.context after.1.context ∧
      TakesIn image (after.2.foldl flashStep flashed) after.1.context := by
  refine takesIn_inputs protocol sha256 h hinv ?_
  rw [ResendRound.inputs, List.forall_mem_cons]
  exact ⟨trivial, hlossy.harmless⟩

/-- As long as a chunk is missing, the time-out asks for chunks. -/
lemma asked_ne_nil (hencode : ∀ fields, (protocol.encodeAck .nack fields).isSome = true)
    (h : TakesIn image flashed state.context) (hinv : SessionInv state.context)
    {round : ResendRound} (hdue : round.timeoutTicks ≤ round.now - state.context.lastPacketTick)
    {n : ℕ} (hn : n < state.context.totalChunks.toNat) (hmissing : ¬ state.context.Holds n) :
    round.asked protocol state ≠ [] := by
  have hcount := h.chunkCount_eq
  have hexpected : state.context.expectedSequence.toNat ≤ n :=
    Nat.not_lt.mp fun hlt => hmissing (.inl hlt)
  have hslot : ∃ i < state.context.batchCache.chunkCount.val,
      ¬ state.context.batchCache.Received i := by
    by_contra hall
    have hcomplete := (otaBatchCacheIsComplete_iff state.context.batchCache).mpr
      ⟨by omega, fun i hi => by_contra fun hrec => hall ⟨i, hi, hrec⟩⟩
    rw [hinv.incomplete] at hcomplete
    cases hcomplete
  obtain ⟨i, hi, hempty⟩ := hslot
  unfold ResendRound.asked
  rw [timeoutNacks_handleReceiveTimeout protocol hencode h.receiving hdue]
  refine List.ne_nil_of_mem (List.mem_map.mpr ⟨i, List.mem_filter.mpr ⟨?_, ?_⟩, rfl⟩)
  · exact List.mem_range.mpr hi
  · exact decide_eq_true hempty

/-- A NACK of the time-out names a chunk of the open batch that is missing. -/
lemma of_mem_asked (hencode : ∀ fields, (protocol.encodeAck .nack fields).isSome = true)
    (h : TakesIn image flashed state.context) {round : ResendRound}
    (hdue : round.timeoutTicks ≤ round.now - state.context.lastPacketTick)
    {fields : OtaAckFields} (hmem : fields ∈ round.asked protocol state) :
    fields.sessionId = state.context.sessionId ∧
      fields.sequence.toNat < state.context.expectedSequence.toNat + 5 ∧
      fields.sequence.toNat < state.context.totalChunks.toNat ∧
      ¬ state.context.Holds fields.sequence.toNat := by
  unfold ResendRound.asked at hmem
  rw [timeoutNacks_handleReceiveTimeout protocol hencode h.receiving hdue] at hmem
  obtain ⟨i, hfilter, rfl⟩ := List.mem_map.mp hmem
  obtain ⟨hi, hempty⟩ := List.mem_filter.mp hfilter
  have hlt := List.mem_range.mp hi
  have hcount := h.chunkCount_eq
  have htotal := state.context.totalChunks.toNat_lt
  have hsequence : (state.context.missingNack i).sequence.toNat =
      state.context.expectedSequence.toNat + i := by
    change (state.context.batchCache.baseSequence + UInt32.ofNat i).toNat = _
    rw [h.base_eq, UInt32.toNat_add, UInt32.toNat_ofNat']
    omega
  rw [hsequence]
  refine ⟨rfl, by omega, by omega, ?_⟩
  rintro (hcommitted | ⟨-, hrec⟩)
  · omega
  · rw [Nat.add_sub_cancel_left] at hrec
    exact of_decide_eq_true hempty hrec

/-- **Every lossy round brings a missing chunk**, so the rounds collect the image. -/
lemma gathers_resendRounds (hencode : ∀ fields, (protocol.encodeAck .nack fields).isSome = true)
    (total : ℕ) : Gathers (resendRoundStep protocol sha256) (Finset.range total)
      (fun state => state.context.Holds) (Downloading image total)
      (fun state round => round.Lossy protocol image state) where
  inv state round hdown hlossy := by
    obtain ⟨flashed, htakes⟩ := hdown.takes
    obtain ⟨hmoves, htakes'⟩ := takesIn_round protocol sha256 htakes hdown.inv hlossy
    exact ⟨⟨_, htakes'⟩, hmoves.inv, by rw [hmoves.same.totalChunks, hdown.total_eq]⟩
  keeps state round hdown hlossy n hholds := by
    obtain ⟨flashed, htakes⟩ := hdown.takes
    exact (takesIn_round protocol sha256 htakes hdown.inv hlossy).1.holds n hholds
  gains state round hdown hlossy hmissing := by
    obtain ⟨flashed, htakes⟩ := hdown.takes
    obtain ⟨n, hn, hnot⟩ := hmissing
    have hlt : n < state.context.totalChunks.toNat := by
      rw [hdown.total_eq]
      exact Finset.mem_range.mp hn
    obtain ⟨fields, hfields, packet, env, hpacket, hresends⟩ :=
      hlossy.through (asked_ne_nil protocol hencode htakes hdown.inv hlossy.due hlt hnot)
    obtain ⟨hsession, hbatch, hrange, hnot'⟩ :=
      of_mem_asked protocol hencode htakes hlossy.due hfields
    refine ⟨fields.sequence.toNat, ?_, hnot', ?_⟩
    · rw [← hdown.total_eq]
      exact Finset.mem_range.mpr hrange
    · refine holds_of_mem_inputs protocol sha256 htakes hdown.inv ?_
        (List.mem_cons_of_mem _ hpacket) hresends hsession hbatch hrange
      rw [ResendRound.inputs, List.forall_mem_cons]
      exact ⟨trivial, hlossy.harmless⟩

/-- Over all rounds the session takes in the image. -/
lemma takesIn_rounds (h : TakesIn image flashed state.context) (hinv : SessionInv state.context)
    {rounds : List ResendRound}
    (hrounds : Machine.Guarded (resendRoundStep protocol sha256)
      (fun state round => round.Lossy protocol image state) state rounds) :
    let final := Machine.finalState (resendRoundStep protocol sha256) state rounds
    let calls := (Machine.outputs (resendRoundStep protocol sha256) state rounds).flatten
    MovesOn state.context final.context ∧
      TakesIn image (calls.foldl flashStep flashed) final.context := by
  induction rounds generalizing state flashed with
  | nil => exact ⟨MovesOn.refl h.receiving hinv, h⟩
  | cons round rounds ih =>
    obtain ⟨hmoves, htakes⟩ := takesIn_round protocol sha256 h hinv hrounds.1
    obtain ⟨hmoves', htakes'⟩ := ih htakes hmoves.inv hrounds.2
    refine ⟨hmoves.trans hmoves', ?_⟩
    rw [Machine.outputs_cons, List.flatten_cons, List.foldl_append]
    exact htakes'

/-- The END of a session whose whole image was taken in is acknowledged, and the device boots the
image next. -/
lemma processPacket_end (h : TakesIn image flashed state.context)
    (hinv : SessionInv state.context)
    (hall : ∀ n < state.context.totalChunks.toNat, state.context.Holds n)
    (hdigest : state.context.expectedSha256 = sha256 image) {packet : Bytes}
    (env : OtaConsumerEnv) (hpeek : protocol.peekType packet = some .end)
    (hdecode : protocol.decodeEnd packet = some ⟨state.context.sessionId,
      state.context.imageSize, state.context.totalChunks⟩)
    (hfinishes : env.hal.Finishes) :
    let outcome := otaConsumerProcessPacket protocol sha256 state packet env
    outcome.state.context.state = .readyToReboot ∧
      outcome.sends = otaConsumerSendAck protocol state.context.sessionId .end
        protocol.controlSequence ∧
      ∃ partition, .setBootPartition partition .ok ∈ outcome.calls := by
  intro outcome
  obtain ⟨hreceived, hexpected, hhashed, -⟩ := h.complete hinv hall
  obtain ⟨partition, hpartition⟩ := h.partition
  have hsize : state.context.writer.writtenSize = state.context.writer.imageSize := by
    rw [h.written, h.writerSize, hreceived]
  obtain ⟨hok, hboot⟩ := otaWriterFinish_ok sha256 h.active hpartition hsize
    h.hashActive hhashed hfinishes
  rw [← hdigest] at hok hboot
  have hready : state.context.state ≠ .readyToReboot := by simp [h.receiving]
  have hchecks := otaClientFinishChecks_eq_none_iff.mpr
    ⟨h.receiving, rfl, rfl, rfl, hreceived, hexpected⟩
  have houtcome : outcome = otaConsumerProcessPacket protocol sha256 state packet env := rfl
  unfold otaConsumerProcessPacket otaConsumerHandleEnd otaConsumerEndChecks at houtcome
  rw [hpeek] at houtcome
  dsimp only at houtcome
  rw [hdecode] at houtcome
  dsimp only at houtcome
  rw [if_neg (fun hrepeat => hready hrepeat.1), if_neg (not_ne_iff.mpr h.receiving),
    if_neg (not_ne_iff.mpr rfl)] at houtcome
  unfold otaClientFinishSession at houtcome
  dsimp only at houtcome
  rw [hchecks] at houtcome
  unfold otaClientVerifyImage OtaClientContext.applying at houtcome
  dsimp only at houtcome
  rw [if_neg (not_ne_iff.mpr hok)] at houtcome
  rw [houtcome]
  exact ⟨rfl, by simp [OtaConsumerState.ran, otaConsumerEndReply], partition, hboot⟩

/-- An idle device that receives after a START opened the session the START asks for. -/
lemma processPacket_start {fields : OtaStartFields} {start : Bytes} {env : OtaConsumerEnv}
    (hidle : state.context.state = .idle) (hpeek : protocol.peekType start = some .start)
    (hdecode : protocol.decodeStart start = some fields)
    (hopened : (otaConsumerProcessPacket protocol sha256 state start env).state.context.state =
      .receiving) :
    let started := otaConsumerProcessPacket protocol sha256 state start env
    let begun := otaClientStartSession state.context fields.sessionId fields.imageSize
      fields.totalChunks (some fields.imageSha256) env.hal env.now
    begun.err = .ok ∧ started.state.context = begun.context ∧ started.calls = begun.calls := by
  intro started begun
  have hstarted : started = otaConsumerHandleStart protocol state start env := by
    simp only [started, otaConsumerProcessPacket, hpeek]
  change started.state.context.state = .receiving at hopened
  rw [hstarted] at hopened ⊢
  unfold otaConsumerHandleStart at hopened ⊢
  cases hchecks : otaConsumerStartChecks protocol state.context start env.otaMode with
  | inl sends =>
    rw [hchecks] at hopened
    change state.context.state = .receiving at hopened
    rw [hidle] at hopened
    cases hopened
  | inr fields' =>
    have hfields : fields' = fields := by
      unfold otaConsumerStartChecks at hchecks
      rw [hdecode] at hchecks
      dsimp only at hchecks
      split_ifs at hchecks
      exact (Sum.inr.inj hchecks).symm
    subst hfields
    rw [hchecks] at hopened
    change begun.context.state = .receiving at hopened
    refine ⟨?_, rfl, rfl⟩
    by_contra herr
    obtain ⟨err, -, heq⟩ | herror := otaClientStartSession_of_err herr
    · have hsame : begun.context = state.context := by simp only [begun, heq]
      rw [hsame, hidle] at hopened
      cases hopened
    · exact absurd (hopened.symm.trans herror) (by decide)

/-- **An image gets through.**  An idle device takes the START of an image.  In the rounds that
follow, one of the chunks that each time-out asks for gets through, and otherwise the channel
loses, repeats and reorders what it likes.  After as many rounds as the image has chunks, exactly
the image is in flash; and an END of the session is then acknowledged, with the boot partition
switched to the image. -/
theorem otaConsumer_delivers_image
    (hencode : ∀ fields, (protocol.encodeAck .nack fields).isSome = true) (image : Bytes)
    (state : OtaConsumerState) (fields : OtaStartFields) {start : Bytes} {env : OtaConsumerEnv}
    (hidle : state.context.state = .idle) (hpeek : protocol.peekType start = some .start)
    (hdecode : protocol.decodeStart start = some fields)
    (hsize : fields.imageSize.toNat = image.length)
    (hdigest : fields.imageSha256 = sha256 image)
    (hopened : (otaConsumerProcessPacket protocol sha256 state start env).state.context.state =
      .receiving)
    {rounds : List ResendRound}
    (hrounds : Machine.Guarded (resendRoundStep protocol sha256)
      (fun state round => round.Lossy protocol image state)
      (otaConsumerProcessPacket protocol sha256 state start env).state rounds)
    (hlong : fields.totalChunks.toNat ≤ rounds.length) :
    let started := otaConsumerProcessPacket protocol sha256 state start env
    let final := Machine.finalState (resendRoundStep protocol sha256) started.state rounds
    let calls := started.calls ++
      (Machine.outputs (resendRoundStep protocol sha256) started.state rounds).flatten
    calls.foldl flashStep [] = image ∧
      final.context.receivedBytes = fields.imageSize ∧
      ∀ packet env', protocol.peekType packet = some .end →
        protocol.decodeEnd packet =
          some ⟨fields.sessionId, fields.imageSize, fields.totalChunks⟩ →
        env'.hal.Finishes →
        let finished := otaConsumerProcessPacket protocol sha256 final packet env'
        finished.state.context.state = .readyToReboot ∧
          finished.sends = otaConsumerSendAck protocol fields.sessionId .end
            protocol.controlSequence ∧
          ∃ partition, .setBootPartition partition .ok ∈ finished.calls := by
  intro started final calls
  obtain ⟨hok, hcontext, hcalls⟩ :=
    processPacket_start protocol sha256 hidle hpeek hdecode hopened
  have htakes : TakesIn image (started.calls.foldl flashStep []) started.state.context := by
    rw [hcontext, hcalls]
    exact takesIn_start hok hsize
  have hinv : SessionInv started.state.context := by
    rw [hcontext]
    exact sessionInv_start hok
  have hfields : started.state.context.sessionId = fields.sessionId ∧
      started.state.context.imageSize = fields.imageSize ∧
      started.state.context.totalChunks = fields.totalChunks ∧
      started.state.context.expectedSha256 = fields.imageSha256 := by
    obtain ⟨digest, partition, hsome, -, -, -, heq⟩ := otaClientStartSession_ok hok
    rw [hcontext, heq]
    exact ⟨rfl, rfl, rfl, (Option.some_inj.mp hsome).symm⟩
  obtain ⟨hsessionId, himageSize, htotalChunks, hsha⟩ := hfields
  obtain ⟨hmoves, htakes'⟩ := takesIn_rounds protocol sha256 htakes hinv hrounds
  have hsame := hmoves.same
  have hall : ∀ n < final.context.totalChunks.toNat, final.context.Holds n := by
    intro n hn
    rw [hsame.totalChunks] at hn
    exact (gathers_resendRounds protocol sha256 hencode _).held_run ⟨⟨_, htakes⟩, hinv, rfl⟩
      hrounds (by rw [Finset.card_range, htotalChunks]; exact hlong) (Finset.mem_range.mpr hn)
  obtain ⟨hreceived, -, -, hflashed⟩ := htakes'.complete hmoves.inv hall
  refine ⟨?_, ?_, ?_⟩
  · rw [List.foldl_append]
    exact hflashed
  · rw [hreceived, hsame.imageSize, himageSize]
  · intro packet env' hend hdecodeEnd hfinishes
    have hlast := processPacket_end protocol sha256 htakes' hmoves.inv hall
      (hsame.expectedSha256.trans (hsha.trans hdigest)) env' hend
      (by rw [hsame.sessionId, hsame.imageSize, hsame.totalChunks, hsessionId, himageSize,
        htotalChunks]; exact hdecodeEnd) hfinishes
    rw [hsame.sessionId, hsessionId] at hlast
    exact hlast

end Consumer

/-- The image of `sampleLossStart`. -/
def sampleImage : Bytes := List.replicate 48 0x55 ++ [0xAA]

/-- Its first chunk. -/
def sampleFirstData : Bytes :=
  2 :: (u32LeBytes 7 ++ u32LeBytes 0 ++ [48, 0, 0] ++ List.replicate 48 0x55)

/-- The END of its session. -/
def sampleLossEnd : Bytes :=
  3 :: (u32LeBytes 7 ++ u32LeBytes 49 ++ u32LeBytes 2)

/-- In the first round only the second chunk gets through, and in the second round the first one,
after a repetition of the second. -/
def sampleRounds : List ResendRound :=
  [⟨50, 60, [.packet sampleLossData sampleEnv]⟩,
    ⟨50, 60, [.packet sampleLossData sampleEnv, .packet sampleFirstData sampleEnv]⟩]

lemma harmless_sampleLossData :
    HarmlessPacket plainProtocol sampleImage 7 sampleLossData sampleEnv where
  writes := ⟨rfl, rfl⟩
  data := by
    intro _ header payload hdecode _ _
    have hdecoded : otaConsumerDecodeData plainProtocol sampleLossData = some (⟨7, 1⟩, [0xAA]) :=
      by decide
    rw [hdecoded, Option.some_inj, Prod.mk.injEq] at hdecode
    obtain ⟨rfl, rfl⟩ := hdecode
    decide
  end_ne := fun hend => absurd hend (by decide)

lemma harmless_sampleFirstData :
    HarmlessPacket plainProtocol sampleImage 7 sampleFirstData sampleEnv where
  writes := ⟨rfl, rfl⟩
  data := by
    intro _ header payload hdecode _ _
    have hdecoded : otaConsumerDecodeData plainProtocol sampleFirstData =
        some (⟨7, 0⟩, List.replicate 48 0x55) := by decide
    rw [hdecoded, Option.some_inj, Prod.mk.injEq] at hdecode
    obtain ⟨rfl, rfl⟩ := hdecode
    decide
  end_ne := fun hend => absurd hend (by decide)

/-- The device after the START. -/
def sampleDownload : OtaConsumerState :=
  (otaConsumerProcessPacket plainProtocol (fun _ => Vector.replicate 32 0)
    (consumerInit sampleConfig ⟨none, none⟩) sampleLossStart sampleEnv).state

lemma sampleRounds_lossy :
    Machine.Guarded (resendRoundStep plainProtocol fun _ => Vector.replicate 32 0)
      (fun state round => round.Lossy plainProtocol sampleImage state) sampleDownload
      sampleRounds := by
  refine ⟨⟨by decide, ?_, fun _ => ?_⟩, ⟨by decide, ?_, fun _ => ?_⟩, trivial⟩
  · rw [show sampleDownload.context.sessionId = 7 by decide, List.forall_mem_singleton]
    exact harmless_sampleLossData
  · exact ⟨⟨7, .data, 1, .timeout⟩, by decide, sampleLossData, sampleEnv,
      List.mem_singleton.mpr rfl, by decide, ⟨7, 1⟩, by decide, rfl, rfl⟩
  · rw [show (resendRoundStep plainProtocol (fun _ => Vector.replicate 32 0) sampleDownload
      _).1.context.sessionId = 7 by decide, List.forall_mem_cons, List.forall_mem_singleton]
    exact ⟨harmless_sampleLossData, harmless_sampleFirstData⟩
  · exact ⟨⟨7, .data, 0, .timeout⟩, by decide, sampleFirstData, sampleEnv,
      List.mem_cons_of_mem _ (List.mem_singleton.mpr rfl), by decide, ⟨7, 0⟩, by decide, rfl, rfl⟩

theorem otaConsumer_delivers_image_two_rounds :
    let sha256 : Bytes → Sha256Digest := fun _ => Vector.replicate 32 0
    let final := Machine.finalState (resendRoundStep plainProtocol sha256) sampleDownload
      sampleRounds
    (otaConsumerProcessPacket plainProtocol sha256 final sampleLossEnd
      sampleEnv).state.context.state = .readyToReboot :=
  ((otaConsumer_delivers_image plainProtocol (fun _ => Vector.replicate 32 0) (fun _ => rfl)
    sampleImage (consumerInit sampleConfig ⟨none, none⟩) ⟨7, 3, 49, 2, Vector.replicate 32 0⟩ rfl
    (by decide) (by decide) (by decide) rfl (by decide) sampleRounds_lossy (by decide)).2.2
    sampleLossEnd sampleEnv (by decide) (by decide) ⟨rfl, rfl, rfl, rfl⟩).1

end FhssOtaRadio
