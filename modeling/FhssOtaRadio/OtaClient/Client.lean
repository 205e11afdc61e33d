import FhssOtaRadio.OtaClient.BatchCache
import FhssOtaRadio.OtaClient.Writer
import FhssOtaRadio.OtaProtocol

/-!
# The OTA client session (`ota_client.c`)

The static context `s_ota_client` and the operations on it: opening a session, storing a chunk,
finishing and aborting.  Each operation returns an `OtaClientOutcome` with its code, the context
afterwards, the driver calls it made and the events it raised.

`ota_client_finish_session` is split where it raises `APPLYING`: other tasks run between that
event and the verification of the image, so later modules need the two halves apart.
-/

namespace FhssOtaRadio

/-- `ota_client_state_t`. -/
inductive OtaClientState where
  | uninitialized
  | idle
  | receiving
  | verifying
  | readyToReboot
  | error
  deriving DecidableEq, Repr

/-- `ota_client_event_t`. -/
inductive OtaClientEvent where
  | fhssConfigReady
  | fhssActivating
  | fhssActivateFailed
  | started
  | progress
  | applying
  | completed
  | failed
  | aborted
  deriving DecidableEq, Repr

/-- One invocation of the event callback with its arguments. -/
structure OtaClientEventCall where
  event : OtaClientEvent
  progressPercent : UInt32
  error : EspErr
  deriving DecidableEq

/-- `ota_client_config_t`; of a callback pointer the client only tests whether it is set. -/
structure OtaClientConfig where
  deviceId : UInt32
  firmwareVersion : Vector UInt8 3
  receiveTimeoutMs : UInt32
  discoverBackoffMaxMs : UInt32
  sendCallback : Bool
  eventCallback : Bool
  otaModeCallback : Bool
  randomCallback : Bool
  fhssActivateCallback : Bool
  deriving DecidableEq

/-- The configuration after `memset`. -/
def OtaClientConfig.zero : OtaClientConfig where
  deviceId := 0
  firmwareVersion := Vector.replicate _ 0
  receiveTimeoutMs := 0
  discoverBackoffMaxMs := 0
  sendCallback := false
  eventCallback := false
  otaModeCallback := false
  randomCallback := false
  fhssActivateCallback := false

/-- `OTA_CLIENT_MAX_PACKET_LENGTH`. -/
def otaClientMaxPacketLength : ℕ := 60

/-- `OTA_CLIENT_RX_QUEUE_DEPTH`. -/
def otaClientRxQueueDepth : ℕ := 16

/-- `ota_client_context_t`.  `rxQueue` is `none` until the queue is created. -/
structure OtaClientContext where
  state : OtaClientState
  config : OtaClientConfig
  rxQueue : Option (List Bytes)
  consumerTask : Bool
  writer : OtaWriter
  sessionId : UInt32
  imageSize : UInt32
  receivedBytes : UInt32
  totalChunks : UInt32
  expectedSequence : UInt32
  batchCache : OtaBatchCache
  expectedSha256 : Sha256Digest
  lastPacketTick : UInt32
  deriving DecidableEq

/-- The static context at boot, all bytes zero. -/
def OtaClientContext.zero : OtaClientContext where
  state := .uninitialized
  config := .zero
  rxQueue := none
  consumerTask := false
  writer := .zero
  sessionId := 0
  imageSize := 0
  receivedBytes := 0
  totalChunks := 0
  expectedSequence := 0
  batchCache := .zero
  expectedSha256 := Vector.replicate _ 0
  lastPacketTick := 0

/-- What a client operation returns besides its effects on the context. -/
structure OtaClientOutcome where
  err : EspErr
  context : OtaClientContext
  calls : List OtaCall
  events : List OtaClientEventCall

/-- `if (config.event_callback != NULL) config.event_callback(...)`. -/
def OtaClientContext.emit (context : OtaClientContext) (event : OtaClientEvent)
    (progressPercent : UInt32) (error : EspErr) : List OtaClientEventCall :=
  if context.config.eventCallback then [⟨event, progressPercent, error⟩] else []

/-- `ota_client_calculate_total_chunks`. -/
def otaClientCalculateTotalChunks (imageSize : UInt32) : UInt32 :=
  imageSize / 48 + if imageSize % 48 ≠ 0 then 1 else 0

/-- `ota_client_init`: `storeErr` is the code of `fhss_config_store_init`, `queueCreated` tells
whether `xQueueCreate` found memory. -/
def otaClientInit (protocol : OtaProtocol) (context : OtaClientContext)
    (config : Option OtaClientConfig) (storeErr : EspErr) (queueCreated : Bool) :
    EspErr × OtaClientContext :=
  match config with
  | none => (.invalidArg, context)
  | some config =>
      if config.sendCallback = false then (.invalidArg, context)
      else if protocol.deviceIdMax < config.deviceId then (.invalidArg, context)
      else if config.receiveTimeoutMs = 0 ∨ config.discoverBackoffMaxMs = 0xFFFFFFFF ∨
          (0 < config.discoverBackoffMaxMs ∧ config.randomCallback = false) then
        (.invalidArg, context)
      else if context.state ≠ .uninitialized then (.invalidState, context)
      else if storeErr ≠ .ok then (storeErr, context)
      else if queueCreated = false then (.noMem, .zero)
      else (.ok, { OtaClientContext.zero with rxQueue := some [], config := config, state := .idle })

/-- `ota_client_start_session`; `now` is the tick count. -/
def otaClientStartSession (context : OtaClientContext) (sessionId imageSize totalChunks : UInt32)
    (expectedSha256 : Option Sha256Digest) (hal : OtaHal) (now : UInt32) : OtaClientOutcome :=
  match expectedSha256 with
  | none => ⟨.invalidArg, context, [], []⟩
  | some expectedSha256 =>
      if imageSize = 0 ∨ totalChunks = 0 then ⟨.invalidArg, context, [], []⟩
      else if totalChunks ≠ otaClientCalculateTotalChunks imageSize then
        ⟨.invalidSize, context, [], []⟩
      else if context.state ≠ .idle then ⟨.invalidState, context, [], []⟩
      else
        let begun := otaWriterBegin context.writer imageSize.toNat hal
        if begun.err ≠ .ok then
          ⟨begun.err, { context with writer := begun.writer, state := .error }, begun.calls,
            context.emit .failed 0 begun.err⟩
        else
          ⟨.ok,
            { context with
              writer := begun.writer
              sessionId := sessionId
              imageSize := imageSize
              receivedBytes := 0
              totalChunks := totalChunks
              expectedSequence := 0
              expectedSha256 := expectedSha256
              batchCache := otaBatchCachePrepare 0 totalChunks
              lastPacketTick := now
              state := .receiving },
            begun.calls, context.emit .started 0 .ok⟩

/-- `ota_client_batch_write`, the commit callback: its context is the writer together with the
calls recorded so far. -/
def otaClientBatchWrite (hal : OtaHal) (data : Bytes) (context : OtaWriter × List OtaCall) :
    EspErr × (OtaWriter × List OtaCall) :=
  let written := otaWriterWrite context.1 data hal
  (written.err, written.writer, context.2 ++ .writerWrite data :: written.calls)

/-- The size `ota_client_write_chunk` expects of chunk `sequence`: 48 bytes, or the rest of the
image for the last chunk. -/
def otaClientExpectedDataSize (context : OtaClientContext) (sequence : UInt32) : ℕ :=
  if sequence + 1 = context.totalChunks then
    (context.imageSize.toUInt64 - sequence.toUInt64 * 48).toUInt32.toNat
  else otaClientDataMaxPayloadSize

/-- `(received_bytes * 100) / image_size` as the events report it. -/
def OtaClientContext.progressPercent (context : OtaClientContext) : UInt32 :=
  (context.receivedBytes.toUInt64 * 100 / context.imageSize.toUInt64).toUInt32

/-- The end of `ota_client_write_chunk`, once a chunk was stored and its batch is complete: write
the batch to flash and open the next one, or give the session up. -/
def otaClientCommitBatch (context : OtaClientContext) (hal : OtaHal) : OtaClientOutcome :=
  match otaBatchCacheCommit context.batchCache (otaClientBatchWrite hal) (context.writer, []) with
  | (.ok, batchBytes, writer, calls) =>
      let expectedSequence :=
        context.expectedSequence + UInt32.ofNat context.batchCache.chunkCount.val
      let context' := { context with
        writer := writer
        receivedBytes := context.receivedBytes + UInt32.ofNat batchBytes
        expectedSequence := expectedSequence
        batchCache := otaBatchCachePrepare expectedSequence context.totalChunks }
      ⟨.ok, context', calls, context'.emit .progress context'.progressPercent .ok⟩
  | (writeErr, _, writer, calls) =>
      let aborted := otaWriterAbort writer hal
      ⟨writeErr, { context with writer := aborted.writer, state := .error },
        calls ++ aborted.calls, context.emit .failed 0 writeErr⟩

/-- `ota_client_write_chunk`. -/
def otaClientWriteChunk (context : OtaClientContext) (sessionId sequence : UInt32)
    (data : Option Bytes) (hal : OtaHal) (now : UInt32) : OtaClientOutcome :=
  match data with
  | none => ⟨.invalidArg, context, [], []⟩
  | some data =>
      if data.length = 0 ∨ otaClientDataMaxPayloadSize < data.length then
        ⟨.invalidArg, context, [], []⟩
      else if context.state ≠ .receiving then ⟨.invalidState, context, [], []⟩
      else if sessionId ≠ context.sessionId then ⟨.invalidArg, context, [], []⟩
      else if context.totalChunks ≤ sequence then ⟨.invalidArg, context, [], []⟩
      else if data.length ≠ otaClientExpectedDataSize context sequence then
        ⟨.invalidSize, context, [], []⟩
      else if sequence < context.expectedSequence then ⟨.ok, context, [], []⟩
      else
        let stored := otaBatchCacheStore context.batchCache sequence data
        if stored.err ≠ .ok then ⟨stored.err, { context with batchCache := stored.cache }, [], []⟩
        else if stored.duplicate then ⟨.ok, { context with batchCache := stored.cache }, [], []⟩
        else
          let context' := { context with batchCache := stored.cache, lastPacketTick := now }
          if otaBatchCacheIsComplete stored.cache = false then ⟨.ok, context', [], []⟩
          else otaClientCommitBatch context' hal

/-- `ota_client_finish_session` up to the `APPLYING` event: the code of the failing check, or
`none` when the session goes to `VERIFYING`. -/
def otaClientFinishChecks (context : OtaClientContext)
    (sessionId imageSize totalChunks : UInt32) : Option EspErr :=
  if context.state ≠ .receiving then some .invalidState
  else if sessionId ≠ context.sessionId then some .invalidArg
  else if imageSize ≠ context.imageSize ∨ totalChunks ≠ context.totalChunks then
    some .invalidSize
  else if context.receivedBytes ≠ context.imageSize ∨
      context.expectedSequence ≠ context.totalChunks then
    some .invalidSize
  else none

/-- The context while the image is being verified. -/
def OtaClientContext.applying (context : OtaClientContext) : OtaClientContext :=
  { context with state := .verifying }

/-- `ota_client_finish_session` from the `APPLYING` event on. -/
def otaClientVerifyImage (sha256 : Bytes → Sha256Digest) (context : OtaClientContext)
    (hal : OtaHal) : OtaClientOutcome :=
  let finished := otaWriterFinish sha256 context.writer context.expectedSha256 hal
  if finished.err ≠ .ok then
    ⟨finished.err, { context with writer := finished.writer, state := .error }, finished.calls,
      context.emit .failed 100 finished.err⟩
  else
    ⟨.ok, { context with writer := finished.writer, state := .readyToReboot }, finished.calls,
      context.emit .completed 100 .ok⟩

/-- `ota_client_finish_session`. -/
def otaClientFinishSession (sha256 : Bytes → Sha256Digest) (context : OtaClientContext)
    (sessionId imageSize totalChunks : UInt32) (hal : OtaHal) : OtaClientOutcome :=
  match otaClientFinishChecks context sessionId imageSize totalChunks with
  | some err => ⟨err, context, [], []⟩
  | none =>
      let verified := otaClientVerifyImage sha256 context.applying hal
      { verified with events := context.emit .applying 100 .ok ++ verified.events }

/-- `ota_client_reset_session`. -/
def otaClientResetSession (context : OtaClientContext) : OtaClientContext :=
  { context with
    writer := .zero
    sessionId := 0
    imageSize := 0
    receivedBytes := 0
    totalChunks := 0
    expectedSequence := 0
    batchCache := .zero
    expectedSha256 := Vector.replicate _ 0
    lastPacketTick := 0 }

/-- `ota_client_abort`. -/
def otaClientAbort (context : OtaClientContext) (hal : OtaHal) : OtaClientOutcome :=
  if context.state ≠ .receiving ∧ context.state ≠ .error then ⟨.invalidState, context, [], []⟩
  else
    let progress := if context.imageSize ≠ 0 then context.progressPercent else 0
    let aborted :=
      if context.writer.active then otaWriterAbort context.writer hal
      else ⟨.ok, context.writer, []⟩
    let reset := otaClientResetSession
      { context with writer := aborted.writer, rxQueue := context.rxQueue.map fun _ => [] }
    ⟨aborted.err, { reset with state := .idle }, aborted.calls,
      context.emit .aborted progress aborted.err⟩

/-- `ota_client_submit_packet`. -/
def otaClientSubmitPacket (context : OtaClientContext) (packet : Option Bytes) :
    EspErr × OtaClientContext :=
  match packet with
  | none => (.invalidArg, context)
  | some packet =>
      if packet.length = 0 ∨ otaClientMaxPacketLength < packet.length then (.invalidArg, context)
      else
        match context.rxQueue with
        | none => (.invalidState, context)
        | some queue =>
            if context.state = .uninitialized then (.invalidState, context)
            else if otaClientRxQueueDepth ≤ queue.length then (.timeout, context)
            else (.ok, { context with rxQueue := some (queue ++ [packet]) })

/-- `ota_client_receive_packet`: the oldest packet of the queue, or the code returned once the
wait has expired without one. -/
def otaClientReceivePacket (context : OtaClientContext) :
    Except EspErr Bytes × OtaClientContext :=
  match context.rxQueue with
  | none => (.error .invalidState, context)
  | some queue =>
      if context.state = .uninitialized then (.error .invalidState, context)
      else
        match queue with
        | [] => (.error .timeout, context)
        | packet :: rest => (.ok packet, { context with rxQueue := some rest })

/-! ## What the operations do -/

/-- Submitting a packet changes the packet queue only. -/
lemma otaClientSubmitPacket_context (context : OtaClientContext) (packet : Option Bytes) :
    ∃ queue, (otaClientSubmitPacket context packet).2 = { context with rxQueue := queue } := by
  unfold otaClientSubmitPacket
  cases packet with
  | none => exact ⟨context.rxQueue, rfl⟩
  | some packet =>
    dsimp only
    by_cases hsize : packet.length = 0 ∨ otaClientMaxPacketLength < packet.length
    · rw [if_pos hsize]
      exact ⟨context.rxQueue, rfl⟩
    rw [if_neg hsize]
    cases context.rxQueue with
    | none => exact ⟨context.rxQueue, rfl⟩
    | some queue =>
      dsimp only
      split_ifs
      · exact ⟨context.rxQueue, rfl⟩
      · exact ⟨context.rxQueue, rfl⟩
      · exact ⟨_, rfl⟩

/-- So does taking one. -/
lemma otaClientReceivePacket_context (context : OtaClientContext) :
    ∃ queue, (otaClientReceivePacket context).2 = { context with rxQueue := queue } := by
  unfold otaClientReceivePacket
  cases context.rxQueue with
  | none => exact ⟨context.rxQueue, rfl⟩
  | some queue =>
    dsimp only
    split_ifs
    · exact ⟨context.rxQueue, rfl⟩
    · cases queue with
      | nil => exact ⟨context.rxQueue, rfl⟩
      | cons packet rest => exact ⟨_, rfl⟩

/-- The checks of `ota_client_write_chunk` that a chunk passes before the cache sees it. -/
structure ChunkAdmissible (context : OtaClientContext) (sessionId sequence : UInt32)
    (data : Bytes) : Prop where
  receiving : context.state = .receiving
  session : sessionId = context.sessionId
  inRange : sequence.toNat < context.totalChunks.toNat
  nonempty : 0 < data.length
  fits : data.length ≤ otaClientDataMaxPayloadSize
  size : data.length = otaClientExpectedDataSize context sequence

/-- The context after a chunk went into slot `index` of the batch cache. -/
def OtaClientContext.storeChunk (context : OtaClientContext) (index : Fin otaClientBatchSize)
    (data : Bytes) (now : UInt32) : OtaClientContext :=
  { context with batchCache := context.batchCache.fillSlot index data, lastPacketTick := now }

/-- What `ota_client_write_chunk` can do: refuse the chunk, acknowledge one it already holds,
or store it, committing the batch if that completes it. -/
lemma otaClientWriteChunk_cases (context : OtaClientContext) (sessionId sequence : UInt32)
    (data : Option Bytes) (hal : OtaHal) (now : UInt32) :
    (∃ err, err ≠ .ok ∧
      otaClientWriteChunk context sessionId sequence data hal now = ⟨err, context, [], []⟩) ∨
    ∃ bytes, data = some bytes ∧ ChunkAdmissible context sessionId sequence bytes ∧
      (((sequence < context.expectedSequence ∨
          (context.batchCache.baseSequence.toNat ≤ sequence.toNat ∧
            sequence.toNat <
              context.batchCache.baseSequence.toNat + context.batchCache.chunkCount.val ∧
            context.batchCache.Received
              (sequence.toNat - context.batchCache.baseSequence.toNat))) ∧
        otaClientWriteChunk context sessionId sequence data hal now = ⟨.ok, context, [], []⟩) ∨
      ∃ index : Fin otaClientBatchSize,
        context.expectedSequence ≤ sequence ∧
        sequence.toNat = context.batchCache.baseSequence.toNat + index.val ∧
        index.val < context.batchCache.chunkCount.val ∧ ¬ context.batchCache.Received index ∧
        otaClientWriteChunk context sessionId sequence data hal now =
          if otaBatchCacheIsComplete (context.batchCache.fillSlot index bytes) = false then
            ⟨.ok, context.storeChunk index bytes now, [], []⟩
          else otaClientCommitBatch (context.storeChunk index bytes now) hal) := by
  unfold otaClientWriteChunk
  cases data with
  | none => exact .inl ⟨.invalidArg, by decide, rfl⟩
  | some bytes =>
    dsimp only
    by_cases hsize : bytes.length = 0 ∨ otaClientDataMaxPayloadSize < bytes.length
    · exact .inl ⟨.invalidArg, by decide, if_pos hsize⟩
    by_cases hstate : context.state ≠ .receiving
    · exact .inl ⟨.invalidState, by decide, by rw [if_neg hsize, if_pos hstate]⟩
    by_cases hsession : sessionId ≠ context.sessionId
    · exact .inl ⟨.invalidArg, by decide, by rw [if_neg hsize, if_neg hstate, if_pos hsession]⟩
    by_cases hrange : context.totalChunks ≤ sequence
    · exact .inl ⟨.invalidArg, by decide, by
        rw [if_neg hsize, if_neg hstate, if_neg hsession, if_pos hrange]⟩
    by_cases hexpected : bytes.length ≠ otaClientExpectedDataSize context sequence
    · exact .inl ⟨.invalidSize, by decide, by
        rw [if_neg hsize, if_neg hstate, if_neg hsession, if_neg hrange, if_pos hexpected]⟩
    rw [if_neg hsize, if_neg hstate, if_neg hsession, if_neg hrange, if_neg hexpected]
    have hadm : ChunkAdmissible context sessionId sequence bytes :=
      { receiving := not_ne_iff.mp hstate
        session := not_ne_iff.mp hsession
        inRange := UInt32.lt_iff_toNat_lt.mp (UInt32.not_le.mp hrange)
        nonempty := by omega
        fits := by omega
        size := not_ne_iff.mp hexpected }
    by_cases hold : sequence < context.expectedSequence
    · exact .inr ⟨bytes, rfl, hadm, .inl ⟨.inl hold, if_pos hold⟩⟩
    rw [if_neg hold]
    obtain ⟨err, herr, heq⟩ | ⟨hle, hlt, hrec, heq⟩ | ⟨index, hseq, hlt, hrec, -, -, heq⟩ :=
      otaBatchCacheStore_cases context.batchCache sequence bytes
    · exact .inl ⟨err, herr, by simp only [heq, ne_eq, herr, not_false_iff, if_true]⟩
    · exact .inr ⟨bytes, rfl, hadm, .inl ⟨.inr ⟨hle, hlt, hrec⟩, by rw [heq]; rfl⟩⟩
    · refine .inr ⟨bytes, rfl, hadm, .inr ⟨index, UInt32.not_lt.mp hold, hseq, hlt, hrec, ?_⟩⟩
      rw [heq]
      rfl

/-- Two contexts agree on what a start fixes for the whole session. -/
structure SameSession (context context' : OtaClientContext) : Prop where
  config : context'.config = context.config
  sessionId : context'.sessionId = context.sessionId
  imageSize : context'.imageSize = context.imageSize
  totalChunks : context'.totalChunks = context.totalChunks
  expectedSha256 : context'.expectedSha256 = context.expectedSha256

lemma SameSession.refl (context : OtaClientContext) : SameSession context context :=
  ⟨rfl, rfl, rfl, rfl, rfl⟩

lemma SameSession.trans {context context' context'' : OtaClientContext}
    (h : SameSession context context') (h' : SameSession context' context'') :
    SameSession context context'' :=
  ⟨h'.config.trans h.config, h'.sessionId.trans h.sessionId, h'.imageSize.trans h.imageSize,
    h'.totalChunks.trans h.totalChunks, h'.expectedSha256.trans h.expectedSha256⟩

/-- Committing a batch does not touch what the start fixed. -/
lemma sameSession_otaClientCommitBatch (context : OtaClientContext) (hal : OtaHal) :
    SameSession context (otaClientCommitBatch context hal).context := by
  unfold otaClientCommitBatch
  split
  · exact ⟨rfl, rfl, rfl, rfl, rfl⟩
  · exact ⟨rfl, rfl, rfl, rfl, rfl⟩

/-- `ota_client_write_chunk` does not touch what the start fixed. -/
lemma sameSession_otaClientWriteChunk (context : OtaClientContext) (sessionId sequence : UInt32)
    (data : Option Bytes) (hal : OtaHal) (now : UInt32) :
    SameSession context
      (otaClientWriteChunk context sessionId sequence data hal now).context := by
  obtain ⟨err, -, heq⟩ | ⟨bytes, -, -, ⟨-, heq⟩ | ⟨index, -, -, -, -, heq⟩⟩ :=
    otaClientWriteChunk_cases context sessionId sequence data hal now
  · rw [heq]
    exact SameSession.refl context
  · rw [heq]
    exact SameSession.refl context
  · rw [heq]
    split_ifs
    · exact ⟨rfl, rfl, rfl, rfl, rfl⟩
    · have hstore : SameSession context (context.storeChunk index bytes now) :=
        ⟨rfl, rfl, rfl, rfl, rfl⟩
      exact hstore.trans (sameSession_otaClientCommitBatch _ hal)

/-- A successful `ota_client_start_session` was given a consistent image and opened it. -/
lemma otaClientStartSession_ok {context : OtaClientContext}
    {sessionId imageSize totalChunks : UInt32} {expectedSha256 : Option Sha256Digest}
    {hal : OtaHal} {now : UInt32}
    (h : (otaClientStartSession context sessionId imageSize totalChunks expectedSha256 hal
      now).err = .ok) :
    ∃ digest partition, expectedSha256 = some digest ∧ imageSize ≠ 0 ∧
      totalChunks = otaClientCalculateTotalChunks imageSize ∧ context.state = .idle ∧
      otaClientStartSession context sessionId imageSize totalChunks expectedSha256 hal now =
        ⟨.ok,
          { context with
            writer := ⟨some partition, hal.otaHandle, imageSize.toNat, 0, some [], true, true⟩
            sessionId := sessionId
            imageSize := imageSize
            receivedBytes := 0
            totalChunks := totalChunks
            expectedSequence := 0
            expectedSha256 := digest
            batchCache := otaBatchCachePrepare 0 totalChunks
            lastPacketTick := now
            state := .receiving },
          [.hashSetup true, .otaBegin imageSize.toNat .ok], context.emit .started 0 .ok⟩ := by
  cases expectedSha256 with
  | none => simp [otaClientStartSession] at h
  | some digest =>
    unfold otaClientStartSession at h ⊢
    dsimp only at h ⊢
    by_cases hzero : imageSize = 0 ∨ totalChunks = 0
    · simp [hzero] at h
    by_cases hsize : totalChunks ≠ otaClientCalculateTotalChunks imageSize
    · simp [hzero, hsize] at h
    by_cases hstate : context.state ≠ .idle
    · simp [hzero, hsize, hstate] at h
    rw [if_neg hzero, if_neg hsize, if_neg hstate] at h ⊢
    by_cases hbegin : (otaWriterBegin context.writer imageSize.toNat hal).err ≠ .ok
    · rw [if_pos hbegin] at h
      exact absurd h hbegin
    rw [if_neg hbegin]
    obtain ⟨partition, heq⟩ := otaWriterBegin_ok (not_ne_iff.mp hbegin)
    rw [not_or] at hzero
    exact ⟨digest, partition, rfl, hzero.1, not_ne_iff.mp hsize, not_ne_iff.mp hstate, by
      rw [heq]⟩

/-- The checks of `ota_client_finish_session` pass for the open session alone, and only once all
of it was received. -/
lemma otaClientFinishChecks_eq_none_iff {context : OtaClientContext}
    {sessionId imageSize totalChunks : UInt32} :
    otaClientFinishChecks context sessionId imageSize totalChunks = none ↔
      context.state = .receiving ∧ sessionId = context.sessionId ∧
        imageSize = context.imageSize ∧ totalChunks = context.totalChunks ∧
        context.receivedBytes = context.imageSize ∧
        context.expectedSequence = context.totalChunks := by
  unfold otaClientFinishChecks
  constructor
  · intro h
    split_ifs at h with hstate hsession himage hreceived
    simp only [ne_eq, not_or, not_not] at hstate hsession himage hreceived
    exact ⟨hstate, hsession, himage.1, himage.2, hreceived.1, hreceived.2⟩
  · rintro ⟨hstate, hsession, himage, htotal, hreceived, hexpected⟩
    simp [hstate, hsession, himage, htotal, hreceived, hexpected]

section Cases

variable {context : OtaClientContext}

/-- A client that is not receiving refuses every chunk. -/
lemma otaClientWriteChunk_of_not_receiving (hstate : context.state ≠ .receiving)
    (sessionId sequence : UInt32) (data : Option Bytes) (hal : OtaHal) (now : UInt32) :
    ∃ err, err ≠ .ok ∧
      otaClientWriteChunk context sessionId sequence data hal now = ⟨err, context, [], []⟩ := by
  rcases otaClientWriteChunk_cases context sessionId sequence data hal now with
    hrefused | ⟨bytes, -, hadm, -⟩
  · exact hrefused
  · exact absurd hadm.receiving hstate

/-- A start that fails leaves the client alone, or in `ERROR`. -/
lemma otaClientStartSession_of_err {sessionId imageSize totalChunks : UInt32}
    {expectedSha256 : Option Sha256Digest} {hal : OtaHal} {now : UInt32}
    (h : (otaClientStartSession context sessionId imageSize totalChunks expectedSha256 hal
      now).err ≠ .ok) :
    (∃ err, err ≠ .ok ∧ otaClientStartSession context sessionId imageSize totalChunks
      expectedSha256 hal now = ⟨err, context, [], []⟩) ∨
    (otaClientStartSession context sessionId imageSize totalChunks expectedSha256 hal
      now).context.state = .error := by
  unfold otaClientStartSession at h ⊢
  cases expectedSha256 with
  | none => exact .inl ⟨_, h, rfl⟩
  | some digest =>
    dsimp only at h ⊢
    split_ifs at h ⊢ with hzero hsize hstate hbegin
    · exact .inl ⟨_, h, rfl⟩
    · exact .inl ⟨_, h, rfl⟩
    · exact .inl ⟨_, h, rfl⟩
    · exact .inr rfl
    · exact absurd rfl h

/-- An abort leaves no receiving client behind. -/
lemma otaClientAbort_not_receiving (context : OtaClientContext) (hal : OtaHal) :
    (otaClientAbort context hal).context.state ≠ .receiving := by
  unfold otaClientAbort
  by_cases h : context.state ≠ .receiving ∧ context.state ≠ .error
  · rw [if_pos h]
    exact h.1
  · rw [if_neg h]
    exact fun hidle => by cases hidle

/-- A finish that leaves the client receiving changed nothing. -/
lemma otaClientFinishSession_receiving {sha256 : Bytes → Sha256Digest}
    {sessionId imageSize totalChunks : UInt32} {hal : OtaHal}
    (h : (otaClientFinishSession sha256 context sessionId imageSize totalChunks
      hal).context.state = .receiving) :
    ∃ err, otaClientFinishSession sha256 context sessionId imageSize totalChunks hal =
      ⟨err, context, [], []⟩ := by
  unfold otaClientFinishSession at h ⊢
  cases hchecks : otaClientFinishChecks context sessionId imageSize totalChunks with
  | some err => exact ⟨err, rfl⟩
  | none =>
    simp only [hchecks] at h
    unfold otaClientVerifyImage at h
    dsimp only at h
    split_ifs at h

end Cases

end FhssOtaRadio
