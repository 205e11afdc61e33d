import FhssOtaRadio.OtaClient.Client

/-!
# The session invariant of the OTA client

While a session is being received, the counters of the context, the batch cache and the image
size determine one another (`SessionCounters`), and the open batch always misses a chunk
(`SessionInv`).  Every operation keeps this as long as it leaves the client receiving.

`OtaClientContext.Holds` says that the device holds a chunk, committed to flash or in the batch
cache; a held chunk stays held until the session ends.
-/

namespace FhssOtaRadio

/-- The size of chunk `n` of an image: 48 bytes, or what is left of the image. -/
def chunkSize (imageSize n : ℕ) : ℕ :=
  min 48 (imageSize - 48 * n)

/-- The writer of an open session: it is open on the image, its hash runs, and it has written
what the session has received. -/
structure WriterOpen (context : OtaClientContext) : Prop where
  active : context.writer.active = true
  hashActive : context.writer.hashActive = true
  partition : ∃ partition, context.writer.partition = some partition
  hashing : ∃ hashed, context.writer.hashOperation = some hashed
  writerSize : context.writer.imageSize = context.imageSize.toNat
  written : context.writer.writtenSize = context.receivedBytes.toNat

/-- How the counters, the batch cache and the writer of an open session hang together. -/
structure SessionCounters (context : OtaClientContext) : Prop extends WriterOpen context where
  imageSize_pos : 0 < context.imageSize.toNat
  totalChunks_eq : context.totalChunks.toNat = (context.imageSize.toNat + 47) / 48
  expected_le : context.expectedSequence.toNat ≤ context.totalChunks.toNat
  aligned : 5 ∣ context.expectedSequence.toNat ∨ context.expectedSequence = context.totalChunks
  received_eq : context.receivedBytes.toNat =
    min (48 * context.expectedSequence.toNat) context.imageSize.toNat
  base_eq : context.batchCache.baseSequence = context.expectedSequence
  chunkCount_eq : context.batchCache.chunkCount.val =
    min 5 (context.totalChunks.toNat - context.expectedSequence.toNat)
  slots : ∀ i, context.batchCache.Received i → i < context.batchCache.chunkCount.val ∧
    context.batchCache.lengthAt i =
      chunkSize context.imageSize.toNat (context.expectedSequence.toNat + i)

/-- The invariant of an open session: between two calls the open batch is incomplete. -/
structure SessionInv (context : OtaClientContext) : Prop extends SessionCounters context where
  incomplete : otaBatchCacheIsComplete context.batchCache = false

/-- The device holds chunk `n` of the open session. -/
def OtaClientContext.Holds (context : OtaClientContext) (n : ℕ) : Prop :=
  n < context.expectedSequence.toNat ∨
    (context.expectedSequence.toNat ≤ n ∧
      context.batchCache.Received (n - context.expectedSequence.toNat))

/-! ## Arithmetic of the chunks -/

/-- `ota_client_calculate_total_chunks` rounds the number of chunks up. -/
lemma toNat_otaClientCalculateTotalChunks (imageSize : UInt32) :
    (otaClientCalculateTotalChunks imageSize).toNat = (imageSize.toNat + 47) / 48 := by
  have hlt : imageSize.toNat < 2 ^ 32 := imageSize.toNat_lt
  have hmod : imageSize % 48 = 0 ↔ imageSize.toNat % 48 = 0 := by
    rw [← UInt32.toNat_inj, UInt32.toNat_mod]
    rfl
  have hdiv : (imageSize / 48).toNat = imageSize.toNat / 48 := UInt32.toNat_div _ _
  unfold otaClientCalculateTotalChunks
  rw [UInt32.toNat_add, hdiv]
  split_ifs with h
  · rw [ne_eq, hmod] at h
    rw [show (1 : UInt32).toNat = 1 from rfl]
    omega
  · rw [not_ne_iff, hmod] at h
    rw [show (0 : UInt32).toNat = 0 from rfl]
    omega

/-- The size `ota_client_write_chunk` expects of a chunk of the image is its `chunkSize`. -/
lemma otaClientExpectedDataSize_eq {context : OtaClientContext} {sequence : UInt32}
    (htotal : context.totalChunks.toNat = (context.imageSize.toNat + 47) / 48)
    (hlt : sequence.toNat < context.totalChunks.toNat) :
    otaClientExpectedDataSize context sequence =
      chunkSize context.imageSize.toNat sequence.toNat := by
  have himage : context.imageSize.toNat < 2 ^ 32 := context.imageSize.toNat_lt
  have hnext : sequence + 1 = context.totalChunks ↔
      sequence.toNat + 1 = context.totalChunks.toNat := by
    rw [← UInt32.toNat_inj, UInt32.toNat_add, show (1 : UInt32).toNat = 1 from rfl]
    omega
  have hrest : (context.imageSize.toUInt64 - sequence.toUInt64 * 48).toUInt32.toNat =
      context.imageSize.toNat - 48 * sequence.toNat := by
    rw [UInt64.toNat_toUInt32, UInt64.toNat_sub, UInt64.toNat_mul, UInt32.toNat_toUInt64,
      UInt32.toNat_toUInt64, show (48 : UInt64).toNat = 48 from rfl]
    omega
  unfold otaClientExpectedDataSize chunkSize otaClientDataMaxPayloadSize
  rw [hrest]
  simp only [hnext]
  split_ifs with h
  · omega
  · omega

/-- The sizes of `k` consecutive chunks add up to the part of the image they cover. -/
lemma sum_chunkSize (imageSize n k : ℕ) :
    ((List.range k).map fun i => chunkSize imageSize (n + i)).sum =
      min (48 * (n + k)) imageSize - min (48 * n) imageSize := by
  induction k with
  | zero => simp
  | succ k ih =>
    rw [List.range_succ, List.map_append, List.sum_append, ih]
    simp only [List.map_cons, List.map_nil, List.sum_cons, List.sum_nil, chunkSize]
    omega

/-! ## Opening a session -/

/-- A freshly prepared batch is incomplete. -/
lemma isComplete_otaBatchCachePrepare (baseSequence totalChunks : UInt32) :
    otaBatchCacheIsComplete (otaBatchCachePrepare baseSequence totalChunks) = false := by
  rw [← Bool.not_eq_true, otaBatchCacheIsComplete_iff]
  rintro ⟨hcount, hall⟩
  exact not_received_otaBatchCachePrepare _ _ 0 (hall 0 (Nat.pos_of_ne_zero hcount))

/-- A successful start establishes the session invariant. -/
lemma sessionInv_start {context : OtaClientContext} {sessionId imageSize totalChunks : UInt32}
    {expectedSha256 : Option Sha256Digest} {hal : OtaHal} {now : UInt32}
    (h : (otaClientStartSession context sessionId imageSize totalChunks expectedSha256 hal
      now).err = .ok) :
    SessionInv (otaClientStartSession context sessionId imageSize totalChunks expectedSha256 hal
      now).context := by
  obtain ⟨digest, partition, -, himage, htotal, -, heq⟩ := otaClientStartSession_ok h
  rw [heq]
  refine
    { active := rfl
      hashActive := rfl
      partition := ⟨partition, rfl⟩
      hashing := ⟨[], rfl⟩
      writerSize := rfl
      written := rfl
      imageSize_pos := Nat.pos_of_ne_zero fun h0 => himage (UInt32.toNat_inj.mp h0)
      totalChunks_eq := by rw [htotal]; exact toNat_otaClientCalculateTotalChunks imageSize
      expected_le := Nat.zero_le _
      aligned := .inl (Nat.dvd_zero 5)
      received_eq := by simp
      base_eq := otaBatchCachePrepare_baseSequence _ _
      chunkCount_eq := otaBatchCachePrepare_chunkCount _ _
      slots := fun i hi => absurd hi (not_received_otaBatchCachePrepare _ _ i)
      incomplete := isComplete_otaBatchCachePrepare _ _ }

/-! ## Storing a chunk -/

section Store

variable {context : OtaClientContext} {sessionId sequence : UInt32} {data : Bytes}
  {index : Fin otaClientBatchSize}

/-- Storing an admissible chunk into its slot keeps the counters. -/
lemma SessionCounters.storeChunk (h : SessionCounters context)
    (hadm : ChunkAdmissible context sessionId sequence data)
    (hseq : sequence.toNat = context.batchCache.baseSequence.toNat + index.val)
    (hindex : index.val < context.batchCache.chunkCount.val) (now : UInt32) :
    SessionCounters (context.storeChunk index data now) := by
  refine { h with slots := fun i hi => ?_ }
  have hreceived := (received_fillSlot context.batchCache index data i).mp hi
  by_cases hi' : i = index.val
  · subst hi'
    refine ⟨hindex, ?_⟩
    have hsize : data.length = chunkSize context.imageSize.toNat sequence.toNat :=
      hadm.size.trans (otaClientExpectedDataSize_eq h.totalChunks_eq hadm.inRange)
    rw [hseq, h.base_eq] at hsize
    exact (lengthAt_fillSlot_self context.batchCache index data).trans hsize
  · obtain ⟨hlt, hlength⟩ := h.slots i (hreceived.resolve_right hi')
    exact ⟨hlt, (lengthAt_fillSlot_of_ne context.batchCache index data hi').trans hlength⟩

/-- After storing a chunk the device holds what it held before, and this chunk. -/
lemma holds_storeChunk (hbase : context.batchCache.baseSequence = context.expectedSequence)
    (hseq : sequence.toNat = context.batchCache.baseSequence.toNat + index.val) (now : UInt32)
    {n : ℕ} : (context.storeChunk index data now).Holds n ↔
      context.Holds n ∨ n = sequence.toNat := by
  rw [hbase] at hseq
  unfold OtaClientContext.Holds OtaClientContext.storeChunk
  simp only [received_fillSlot]
  constructor
  · rintro (hn | ⟨hle, hrec | hn⟩)
    · exact .inl (.inl hn)
    · exact .inl (.inr ⟨hle, hrec⟩)
    · exact .inr (by omega)
  · rintro ((hn | ⟨hle, hrec⟩) | rfl)
    · exact .inl hn
    · exact .inr ⟨hle, .inl hrec⟩
    · exact .inr ⟨by omega, .inr (by omega)⟩

end Store

/-! ## Committing a batch -/

/-- The bytes of the open batch, slot after slot. -/
def OtaClientContext.batchBytes (context : OtaClientContext) : Bytes :=
  (List.range context.batchCache.chunkCount.val).flatMap context.batchCache.slotBytes

/-- The context after the open batch was committed through `writer`: the counters move past the
batch and the next one is opened. -/
def OtaClientContext.advanceBatch (context : OtaClientContext) (writer : OtaWriter) :
    OtaClientContext :=
  let expectedSequence :=
    context.expectedSequence + UInt32.ofNat context.batchCache.chunkCount.val
  { context with
    writer := writer
    receivedBytes := context.receivedBytes + UInt32.ofNat
      ((List.range context.batchCache.chunkCount.val).map context.batchCache.lengthAt).sum
    expectedSequence := expectedSequence
    batchCache := otaBatchCachePrepare expectedSequence context.totalChunks }

section Commit

variable {context : OtaClientContext}

/-- The slots of a complete batch have the sizes of the chunks they hold. -/
lemma SessionCounters.lengthAt_of_complete (h : SessionCounters context)
    (hcomplete : otaBatchCacheIsComplete context.batchCache = true) {i : ℕ}
    (hi : i < context.batchCache.chunkCount.val) :
    context.batchCache.lengthAt i =
      chunkSize context.imageSize.toNat (context.expectedSequence.toNat + i) :=
  (h.slots i (((otaBatchCacheIsComplete_iff _).mp hcomplete).2 i hi)).2

/-- The size of the open batch, once complete, is the part of the image its chunks cover. -/
lemma SessionCounters.sum_lengthAt (h : SessionCounters context)
    (hcomplete : otaBatchCacheIsComplete context.batchCache = true) :
    ((List.range context.batchCache.chunkCount.val).map context.batchCache.lengthAt).sum =
      min (48 * (context.expectedSequence.toNat + context.batchCache.chunkCount.val))
        context.imageSize.toNat -
      min (48 * context.expectedSequence.toNat) context.imageSize.toNat := by
  rw [← sum_chunkSize]
  refine congrArg List.sum (List.map_congr_left fun i hi => ?_)
  exact h.lengthAt_of_complete hcomplete (List.mem_range.mp hi)

/-- The bytes of a complete batch are as many as the part of the image its chunks cover. -/
lemma SessionCounters.length_batchBytes (h : SessionCounters context)
    (hcomplete : otaBatchCacheIsComplete context.batchCache = true) :
    context.batchBytes.length =
      min (48 * (context.expectedSequence.toNat + context.batchCache.chunkCount.val))
        context.imageSize.toNat -
      min (48 * context.expectedSequence.toNat) context.imageSize.toNat := by
  rw [← h.sum_lengthAt hcomplete]
  unfold OtaClientContext.batchBytes
  rw [List.length_flatMap]
  refine congrArg List.sum (List.map_congr_left fun i hi => ?_)
  have hlt := List.mem_range.mp hi
  refine length_slotBytes _ (Nat.lt_of_lt_of_le hlt (Fin.is_le _)) ?_
  rw [h.lengthAt_of_complete hcomplete hlt]
  exact min_le_left _ _

/-- Committing the open batch moves the expected sequence past its chunks. -/
lemma SessionCounters.toNat_expectedSequence_advanceBatch (h : SessionCounters context)
    (writer : OtaWriter) : (context.advanceBatch writer).expectedSequence.toNat =
      context.expectedSequence.toNat + context.batchCache.chunkCount.val := by
  have := h.chunkCount_eq
  have := h.expected_le
  have := context.totalChunks.toNat_lt
  change (context.expectedSequence + _).toNat = _
  rw [UInt32.toNat_add, UInt32.toNat_ofNat']
  omega

/-- What the end of `ota_client_write_chunk` does with a complete batch: its bytes go to the
writer in one call; if that succeeds the counters move on, and otherwise the writer is aborted. -/
lemma otaClientCommitBatch_cases (h : SessionCounters context)
    (hcomplete : otaBatchCacheIsComplete context.batchCache = true) (hal : OtaHal) :
    ((otaWriterWrite context.writer context.batchBytes hal).err = .ok ∧
      ∃ events, otaClientCommitBatch context hal =
        ⟨.ok, context.advanceBatch (otaWriterWrite context.writer context.batchBytes hal).writer,
          .writerWrite context.batchBytes ::
            (otaWriterWrite context.writer context.batchBytes hal).calls, events⟩) ∨
    ((otaWriterWrite context.writer context.batchBytes hal).err ≠ .ok ∧
      otaClientCommitBatch context hal =
        ⟨(otaWriterWrite context.writer context.batchBytes hal).err,
          { context with
            writer := (otaWriterAbort
              (otaWriterWrite context.writer context.batchBytes hal).writer hal).writer
            state := .error },
          .writerWrite context.batchBytes ::
            ((otaWriterWrite context.writer context.batchBytes hal).calls ++
              (otaWriterAbort
                (otaWriterWrite context.writer context.batchBytes hal).writer hal).calls),
          context.emit .failed 0
            (otaWriterWrite context.writer context.batchBytes hal).err⟩) := by
  have hcommit := otaBatchCacheCommit_eq hcomplete (fun i hi => by
    have hlength := h.lengthAt_of_complete hcomplete hi
    have htotal := h.totalChunks_eq
    have hcount := h.chunkCount_eq
    have hle := h.expected_le
    rw [hlength]
    unfold chunkSize otaClientDataMaxPayloadSize
    refine ⟨?_, ?_, fun hi' => ?_⟩ <;> omega)
    (otaClientBatchWrite hal) (context.writer, [])
  unfold otaClientCommitBatch
  rw [hcommit]
  unfold otaClientBatchWrite
  have hbytes : (List.range context.batchCache.chunkCount.val).flatMap
      context.batchCache.slotBytes = context.batchBytes := rfl
  simp only [hbytes]
  cases herr : (otaWriterWrite context.writer context.batchBytes hal).err with
  | ok => exact .inl ⟨rfl, _, rfl⟩
  | _ => exact .inr ⟨by simp, rfl⟩

/-- Committing a complete batch re-establishes the session invariant. -/
lemma SessionCounters.advanceBatch (h : SessionCounters context)
    (hcomplete : otaBatchCacheIsComplete context.batchCache = true) {hal : OtaHal}
    (hok : (otaWriterWrite context.writer context.batchBytes hal).err = .ok) :
    SessionInv (context.advanceBatch
      (otaWriterWrite context.writer context.batchBytes hal).writer) := by
  obtain ⟨hashed, -, hactive, hhash, hwriter⟩ := otaWriterWrite_of_ok hok
  have hexpected := h.toNat_expectedSequence_advanceBatch
    (otaWriterWrite context.writer context.batchBytes hal).writer
  have hsum := h.sum_lengthAt hcomplete
  have hlength := h.length_batchBytes hcomplete
  have himage : context.imageSize.toNat < 2 ^ 32 := context.imageSize.toNat_lt
  have hcount := h.chunkCount_eq
  have hle := h.expected_le
  have htotal := h.totalChunks_eq
  have hreceived := h.received_eq
  rw [hwriter] at hexpected ⊢
  have hnextReceived : (context.receivedBytes + UInt32.ofNat
      ((List.range context.batchCache.chunkCount.val).map context.batchCache.lengthAt).sum).toNat =
      min (48 * (context.expectedSequence.toNat + context.batchCache.chunkCount.val))
        context.imageSize.toNat := by
    rw [hsum, UInt32.toNat_add, UInt32.toNat_ofNat', hreceived]
    omega
  refine
    { active := hactive
      hashActive := hhash
      partition := h.partition
      hashing := ⟨_, rfl⟩
      writerSize := h.writerSize
      written := ?_
      imageSize_pos := h.imageSize_pos
      totalChunks_eq := h.totalChunks_eq
      expected_le := ?_
      aligned := ?_
      received_eq := ?_
      base_eq := otaBatchCachePrepare_baseSequence _ _
      chunkCount_eq := otaBatchCachePrepare_chunkCount _ _
      slots := fun i hi => absurd hi (not_received_otaBatchCachePrepare _ _ i)
      incomplete := isComplete_otaBatchCachePrepare _ _ }
  · have hwritten := h.written
    exact (by omega : context.writer.writtenSize + context.batchBytes.length =
      min (48 * (context.expectedSequence.toNat + context.batchCache.chunkCount.val))
        context.imageSize.toNat).trans hnextReceived.symm
  · rw [hexpected]
    change _ ≤ context.totalChunks.toNat
    omega
  · rw [← UInt32.toNat_inj, hexpected]
    change 5 ∣ context.expectedSequence.toNat + context.batchCache.chunkCount.val ∨
      context.expectedSequence.toNat + context.batchCache.chunkCount.val =
        context.totalChunks.toNat
    rcases h.aligned with haligned | hdone
    · omega
    · rw [← UInt32.toNat_inj] at hdone
      omega
  · rw [hexpected]
    exact hnextReceived

/-- Committing the batch turns its held chunks into committed ones. -/
lemma holds_advanceBatch (h : SessionCounters context) (writer : OtaWriter) {n : ℕ}
    (hn : context.Holds n) : (context.advanceBatch writer).Holds n := by
  left
  rw [h.toNat_expectedSequence_advanceBatch]
  rcases hn with hn | ⟨hle, hrec⟩
  · omega
  · have := (h.slots _ hrec).1
    omega

end Commit

/-! ## One call of `ota_client_write_chunk` -/

/-- What a call of `ota_client_write_chunk` does in an open session. -/
inductive WriteChunkEffect (context : OtaClientContext) (sessionId sequence : UInt32)
    (data : Option Bytes) (hal : OtaHal) (now : UInt32) : OtaClientOutcome → Prop
  /-- The chunk is refused and nothing changes. -/
  | refused (err : EspErr) (herr : err ≠ .ok) :
      WriteChunkEffect context sessionId sequence data hal now ⟨err, context, [], []⟩
  /-- The chunk is already held; nothing changes. -/
  | held (bytes : Bytes) (hdata : data = some bytes)
      (hadm : ChunkAdmissible context sessionId sequence bytes)
      (hholds : context.Holds sequence.toNat) :
      WriteChunkEffect context sessionId sequence data hal now ⟨.ok, context, [], []⟩
  /-- The chunk goes into an empty slot, and the batch still misses another one. -/
  | stored (bytes : Bytes) (index : Fin otaClientBatchSize) (hdata : data = some bytes)
      (hadm : ChunkAdmissible context sessionId sequence bytes)
      (hseq : sequence.toNat = context.expectedSequence.toNat + index.val)
      (hindex : index.val < context.batchCache.chunkCount.val)
      (hempty : ¬ context.batchCache.Received index)
      (hincomplete : otaBatchCacheIsComplete
        (context.storeChunk index bytes now).batchCache = false) :
      WriteChunkEffect context sessionId sequence data hal now
        ⟨.ok, context.storeChunk index bytes now, [], []⟩
  /-- The chunk completes the batch, and the batch is written. -/
  | committed (bytes : Bytes) (index : Fin otaClientBatchSize) (written : OtaWriterOutcome)
      (events : List OtaClientEventCall) (hdata : data = some bytes)
      (hadm : ChunkAdmissible context sessionId sequence bytes)
      (hseq : sequence.toNat = context.expectedSequence.toNat + index.val)
      (hindex : index.val < context.batchCache.chunkCount.val)
      (hempty : ¬ context.batchCache.Received index)
      (hcomplete : otaBatchCacheIsComplete
        (context.storeChunk index bytes now).batchCache = true)
      (hwritten : written = otaWriterWrite context.writer
        (context.storeChunk index bytes now).batchBytes hal)
      (hok : written.err = .ok) :
      WriteChunkEffect context sessionId sequence data hal now
        ⟨.ok, (context.storeChunk index bytes now).advanceBatch written.writer,
          .writerWrite (context.storeChunk index bytes now).batchBytes :: written.calls, events⟩
  /-- The chunk completes the batch, but writing it fails: the writer is aborted. -/
  | failed (bytes : Bytes) (index : Fin otaClientBatchSize) (written : OtaWriterOutcome)
      (hdata : data = some bytes)
      (hadm : ChunkAdmissible context sessionId sequence bytes)
      (hseq : sequence.toNat = context.expectedSequence.toNat + index.val)
      (hindex : index.val < context.batchCache.chunkCount.val)
      (hempty : ¬ context.batchCache.Received index)
      (hcomplete : otaBatchCacheIsComplete
        (context.storeChunk index bytes now).batchCache = true)
      (hwritten : written = otaWriterWrite context.writer
        (context.storeChunk index bytes now).batchBytes hal)
      (herr : written.err ≠ .ok) :
      WriteChunkEffect context sessionId sequence data hal now
        ⟨written.err,
          { context.storeChunk index bytes now with
            writer := (otaWriterAbort written.writer hal).writer
            state := .error },
          .writerWrite (context.storeChunk index bytes now).batchBytes ::
            (written.calls ++ (otaWriterAbort written.writer hal).calls),
          context.emit .failed 0 written.err⟩

/-- In an open session every call of `ota_client_write_chunk` has one of these effects. -/
lemma writeChunkEffect {context : OtaClientContext} (h : SessionInv context)
    (sessionId sequence : UInt32) (data : Option Bytes) (hal : OtaHal) (now : UInt32) :
    WriteChunkEffect context sessionId sequence data hal now
      (otaClientWriteChunk context sessionId sequence data hal now) := by
  obtain ⟨err, herr, heq⟩ | ⟨bytes, hdata, hadm, hcase⟩ :=
    otaClientWriteChunk_cases context sessionId sequence data hal now
  · rw [heq]
    exact .refused err herr
  obtain ⟨hheld, heq⟩ | ⟨index, -, hseq, hindex, hempty, heq⟩ := hcase
  · rw [heq]
    refine .held bytes hdata hadm ?_
    rcases hheld with hold | ⟨hle, -, hrec⟩
    · exact .inl (UInt32.lt_iff_toNat_lt.mp hold)
    · rw [h.base_eq] at hle hrec
      exact .inr ⟨hle, hrec⟩
  have hcounters := h.toSessionCounters.storeChunk hadm hseq hindex now
  rw [h.base_eq] at hseq
  rw [heq]
  split_ifs with hcomplete
  · exact .stored bytes index hdata hadm hseq hindex hempty hcomplete
  · rw [Bool.not_eq_false] at hcomplete
    obtain ⟨hok, events, hcommit⟩ | ⟨herr, hcommit⟩ :=
      otaClientCommitBatch_cases hcounters hcomplete hal
    · rw [hcommit]
      exact .committed bytes index _ events hdata hadm hseq hindex hempty hcomplete rfl hok
    · rw [hcommit]
      exact .failed bytes index _ hdata hadm hseq hindex hempty hcomplete rfl herr

/-- `ota_client_write_chunk` keeps the session invariant as long as the client keeps
receiving. -/
lemma sessionInv_writeChunk {context : OtaClientContext} (h : SessionInv context)
    (sessionId sequence : UInt32) (data : Option Bytes) (hal : OtaHal) (now : UInt32)
    (hrecv : (otaClientWriteChunk context sessionId sequence data hal now).context.state =
      .receiving) :
    SessionInv (otaClientWriteChunk context sessionId sequence data hal now).context := by
  have heffect := writeChunkEffect h sessionId sequence data hal now
  generalize otaClientWriteChunk context sessionId sequence data hal now = outcome
    at heffect hrecv
  cases heffect with
  | refused => exact h
  | held => exact h
  | stored bytes index hdata hadm hseq hindex hempty hincomplete =>
    rw [← h.base_eq] at hseq
    exact { h.toSessionCounters.storeChunk hadm hseq hindex now with incomplete := hincomplete }
  | committed bytes index written events hdata hadm hseq hindex hempty hcomplete hwritten hok =>
    rw [← h.base_eq] at hseq
    subst hwritten
    exact (h.toSessionCounters.storeChunk hadm hseq hindex now).advanceBatch hcomplete hok
  | failed => cases hrecv

/-! ## How a session goes on -/

/-- An open session goes on: the client still receives it, and holds at least the chunks it
held. -/
structure SessionGoesOn (context context' : OtaClientContext) : Prop where
  receiving : context'.state = .receiving
  inv : SessionInv context'
  same : SameSession context context'
  holds : ∀ n, context.Holds n → context'.Holds n

section GoesOn

variable {context : OtaClientContext}

lemma SessionGoesOn.refl (hrecv : context.state = .receiving) (h : SessionInv context) :
    SessionGoesOn context context :=
  ⟨hrecv, h, SameSession.refl context, fun _ hn => hn⟩

lemma SessionGoesOn.trans {context' context'' : OtaClientContext}
    (h : SessionGoesOn context context') (h' : SessionGoesOn context' context'') :
    SessionGoesOn context context'' :=
  ⟨h'.receiving, h'.inv, h.same.trans h'.same, fun n hn => h'.holds n (h.holds n hn)⟩

/-- A call of `ota_client_write_chunk` lets the session go on, or aborts its writer. -/
lemma sessionGoesOn_writeChunk (hrecv : context.state = .receiving) (h : SessionInv context)
    (sessionId sequence : UInt32) (data : Option Bytes) (hal : OtaHal) (now : UInt32) :
    SessionGoesOn context
        (otaClientWriteChunk context sessionId sequence data hal now).context ∨
      (otaClientWriteChunk context sessionId sequence data hal now).calls.any
        OtaCall.closesHandle = true := by
  have hinv := sessionInv_writeChunk h sessionId sequence data hal now
  have hsame := sameSession_otaClientWriteChunk context sessionId sequence data hal now
  have heffect := writeChunkEffect h sessionId sequence data hal now
  generalize otaClientWriteChunk context sessionId sequence data hal now = outcome
    at heffect hinv hsame ⊢
  cases heffect with
  | refused => exact .inl (SessionGoesOn.refl hrecv h)
  | held => exact .inl (SessionGoesOn.refl hrecv h)
  | stored bytes index hdata hadm hseq =>
    rw [← h.base_eq] at hseq
    exact .inl ⟨hrecv, hinv hrecv, hsame, fun n hn =>
      (holds_storeChunk h.base_eq hseq now).mpr (.inl hn)⟩
  | committed bytes index written events hdata hadm hseq hindex =>
    rw [← h.base_eq] at hseq
    refine .inl ⟨hrecv, hinv hrecv, hsame, fun n hn => ?_⟩
    refine holds_advanceBatch (h.toSessionCounters.storeChunk hadm hseq hindex now) _ ?_
    exact (holds_storeChunk h.base_eq hseq now).mpr (.inl hn)
  | failed bytes index written hdata hadm hseq hindex hempty hcomplete hwritten =>
    right
    have hactive : written.writer.active = true := by
      rw [hwritten, otaWriterWrite_active]
      exact h.active
    simp [closesHandle_otaWriterAbort hactive hal]

/-- After `ota_client_write_chunk` returned `ESP_OK` for a chunk, the device holds it. -/
lemma holds_of_writeChunk_ok (hrecv : context.state = .receiving) (h : SessionInv context)
    {sessionId sequence : UInt32} {data : Option Bytes} {hal : OtaHal} {now : UInt32}
    (hok : (otaClientWriteChunk context sessionId sequence data hal now).err = .ok) :
    SessionGoesOn context
        (otaClientWriteChunk context sessionId sequence data hal now).context ∧
      sessionId = context.sessionId ∧
      (otaClientWriteChunk context sessionId sequence data hal now).context.Holds
        sequence.toNat := by
  have hinv := sessionInv_writeChunk h sessionId sequence data hal now
  have hsame := sameSession_otaClientWriteChunk context sessionId sequence data hal now
  have heffect := writeChunkEffect h sessionId sequence data hal now
  generalize otaClientWriteChunk context sessionId sequence data hal now = outcome
    at heffect hinv hsame hok ⊢
  cases heffect with
  | refused err herr => exact absurd hok herr
  | held bytes hdata hadm hholds =>
    exact ⟨SessionGoesOn.refl hrecv h, hadm.session, hholds⟩
  | stored bytes index hdata hadm hseq =>
    rw [← h.base_eq] at hseq
    have hiff : ∀ n, (context.storeChunk index bytes now).Holds n ↔
        context.Holds n ∨ n = sequence.toNat := fun n => holds_storeChunk h.base_eq hseq now
    exact ⟨⟨hrecv, hinv hrecv, hsame, fun n hn => (hiff n).mpr (.inl hn)⟩, hadm.session,
      (hiff _).mpr (.inr rfl)⟩
  | committed bytes index written events hdata hadm hseq hindex =>
    rw [← h.base_eq] at hseq
    have hcounters := h.toSessionCounters.storeChunk hadm hseq hindex now
    have hiff : ∀ n, (context.storeChunk index bytes now).Holds n ↔
        context.Holds n ∨ n = sequence.toNat := fun n => holds_storeChunk h.base_eq hseq now
    exact ⟨⟨hrecv, hinv hrecv, hsame, fun n hn =>
      holds_advanceBatch hcounters _ ((hiff n).mpr (.inl hn))⟩, hadm.session,
      holds_advanceBatch hcounters _ ((hiff _).mpr (.inr rfl))⟩
  | failed bytes index written hdata hadm hseq hindex hempty hcomplete hwritten herr =>
    exact absurd hok herr

/-- A finish either is refused, with nothing changed, or ends the OTA handle. -/
lemma sessionGoesOn_finishSession (hrecv : context.state = .receiving) (h : SessionInv context)
    (sha256 : Bytes → Sha256Digest) (sessionId imageSize totalChunks : UInt32) (hal : OtaHal) :
    SessionGoesOn context
        (otaClientFinishSession sha256 context sessionId imageSize totalChunks hal).context ∨
      (otaClientFinishSession sha256 context sessionId imageSize totalChunks hal).calls.any
        OtaCall.closesHandle = true := by
  unfold otaClientFinishSession
  cases hchecks : otaClientFinishChecks context sessionId imageSize totalChunks with
  | some err => exact .inl (SessionGoesOn.refl hrecv h)
  | none =>
    right
    obtain ⟨-, -, -, -, hreceived, -⟩ := otaClientFinishChecks_eq_none_iff.mp hchecks
    obtain ⟨partition, hpartition⟩ := h.partition
    have hsize : context.writer.writtenSize = context.writer.imageSize := by
      rw [h.written, h.writerSize, hreceived]
    have hcloses := closesHandle_otaWriterFinish sha256 h.active hpartition hsize
      context.expectedSha256 hal
    unfold otaClientVerifyImage
    dsimp only [OtaClientContext.applying]
    split_ifs <;> exact hcloses

/-- Aborting an open session aborts its OTA handle. -/
lemma closesHandle_otaClientAbort (hrecv : context.state = .receiving) (h : SessionInv context)
    (hal : OtaHal) : (otaClientAbort context hal).calls.any OtaCall.closesHandle = true := by
  unfold otaClientAbort
  rw [if_neg (by simp [hrecv])]
  dsimp only
  rw [if_pos h.active]
  exact closesHandle_otaWriterAbort h.active hal

/-- While a session is open no other can be started. -/
lemma otaClientStartSession_of_receiving (hrecv : context.state = .receiving)
    (sessionId imageSize totalChunks : UInt32) (expectedSha256 : Option Sha256Digest)
    (hal : OtaHal) (now : UInt32) :
    ∃ err, err ≠ .ok ∧ otaClientStartSession context sessionId imageSize totalChunks
      expectedSha256 hal now = ⟨err, context, [], []⟩ := by
  unfold otaClientStartSession
  cases expectedSha256 with
  | none => exact ⟨_, by simp, rfl⟩
  | some digest =>
    have hstate : context.state ≠ .idle := by simp [hrecv]
    dsimp only
    rw [if_pos hstate]
    split_ifs
    · exact ⟨_, by simp, rfl⟩
    · exact ⟨_, by simp, rfl⟩
    · exact ⟨_, by simp, rfl⟩

/-- When the device holds every chunk of the session, the whole image was received. -/
lemma received_all_of_holds (h : SessionInv context)
    (hall : ∀ n < context.totalChunks.toNat, context.Holds n) :
    context.receivedBytes = context.imageSize ∧
      context.expectedSequence = context.totalChunks := by
  have hexpected : context.expectedSequence.toNat = context.totalChunks.toNat := by
    by_contra hne
    have hle := h.expected_le
    have hcount := h.chunkCount_eq
    have hcomplete : otaBatchCacheIsComplete context.batchCache = true := by
      refine (otaBatchCacheIsComplete_iff _).mpr ⟨by omega, fun i hi => ?_⟩
      rcases hall (context.expectedSequence.toNat + i) (by omega) with hlt | ⟨-, hrec⟩
      · omega
      · rwa [Nat.add_sub_cancel_left] at hrec
    rw [h.incomplete] at hcomplete
    cases hcomplete
  refine ⟨UInt32.toNat_inj.mp ?_, UInt32.toNat_inj.mp hexpected⟩
  have htotal := h.totalChunks_eq
  rw [h.received_eq, hexpected]
  omega

end GoesOn

end FhssOtaRadio
