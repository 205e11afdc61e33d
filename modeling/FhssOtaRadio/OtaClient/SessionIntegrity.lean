import FhssOtaRadio.Library.Machine
import FhssOtaRadio.Library.PieceLog
import FhssOtaRadio.OtaClient.Session

/-!
# Image integrity over a session

The chunks of a session arrive in any order, repeated, or not belonging to it at all.  The
calls of `ota_client_write_chunk` that return `ESP_OK` are logged; the image assembled in flash
has to be the in-order assembly of this log, every chunk with the first payload accepted for it.
The invariant `SessionLog` ties the log to the batch cache, the counters and the writer.
-/

namespace FhssOtaRadio

open PieceLog

/-- One call of `ota_client_write_chunk`: its arguments and what the drivers answer. -/
structure WriteChunkCall where
  sessionId : UInt32
  sequence : UInt32
  data : Option Bytes
  hal : OtaHal
  now : UInt32

/-- The client as a machine that consumes calls of `ota_client_write_chunk`. -/
def writeChunkStep (context : OtaClientContext) (call : WriteChunkCall) :
    OtaClientContext × OtaClientOutcome :=
  let outcome :=
    otaClientWriteChunk context call.sessionId call.sequence call.data call.hal call.now
  (outcome.context, outcome)

/-- The log entry of a call: its chunk, when the call returned `ESP_OK`. -/
def WriteChunkCall.accepted (call : WriteChunkCall) (outcome : OtaClientOutcome) :
    List (ℕ × Bytes) :=
  match outcome.err, call.data with
  | .ok, some bytes => [(call.sequence.toNat, bytes)]
  | _, _ => []

/-- The log of a run: the chunks accepted, oldest first. -/
def acceptedLog (context : OtaClientContext) (calls : List WriteChunkCall) :
    List (ℕ × Bytes) :=
  ((calls.zip (Machine.outputs writeChunkStep context calls)).map fun p =>
    p.1.accepted p.2).flatten

/-- The bytes handed to `ota_writer_write` in a list of driver calls. -/
def writerBytes (calls : List OtaCall) : Bytes :=
  calls.flatMap fun
    | .writerWrite data => data
    | _ => []

/-- The bytes handed to `ota_writer_write` during a run. -/
def handedBytes (context : OtaClientContext) (calls : List WriteChunkCall) : Bytes :=
  (Machine.outputs writeChunkStep context calls).flatMap fun outcome =>
    writerBytes outcome.calls

lemma acceptedLog_concat (context : OtaClientContext) (calls : List WriteChunkCall)
    (call : WriteChunkCall) :
    acceptedLog context (calls ++ [call]) = acceptedLog context calls ++
      call.accepted (writeChunkStep (Machine.finalState writeChunkStep context calls) call).2 := by
  have hlength : calls.length = (Machine.outputs writeChunkStep context calls).length := by
    rw [Machine.length_outputs]
  unfold acceptedLog
  rw [Machine.outputs_append, List.zip_append hlength]
  simp

lemma handedBytes_concat (context : OtaClientContext) (calls : List WriteChunkCall)
    (call : WriteChunkCall) :
    handedBytes context (calls ++ [call]) = handedBytes context calls ++
      writerBytes
        (writeChunkStep (Machine.finalState writeChunkStep context calls) call).2.calls := by
  unfold handedBytes
  rw [Machine.outputs_append]
  simp

/-- The flash and hash drivers succeed during the call. -/
def WriteChunkCall.DriversSucceed (call : WriteChunkCall) : Prop :=
  call.hal.otaWrite = .ok ∧ call.hal.hashUpdate = true

/-! ## The invariant -/

/-- The state of an open session after the chunks of `log` were accepted and `bytes` were handed
to the writer. -/
structure SessionLog (log : List (ℕ × Bytes)) (bytes : Bytes) (context : OtaClientContext) :
    Prop extends SessionCounters context where
  receiving : context.state = .receiving
  bytes_eq : bytes = (assembled log context.expectedSequence.toNat).flatten
  held_iff : ∀ n, (firstPiece log n).isSome ↔ context.Holds n
  slot_eq : ∀ i, context.batchCache.Received i →
    firstPiece log (context.expectedSequence.toNat + i) = some (context.batchCache.slotBytes i)

section Invariant

variable {log : List (ℕ × Bytes)} {bytes : Bytes} {context : OtaClientContext}

/-- A session that has just been opened has accepted nothing. -/
lemma sessionLog_start {sessionId imageSize totalChunks : UInt32}
    {expectedSha256 : Option Sha256Digest} {hal : OtaHal} {now : UInt32}
    (h : (otaClientStartSession context sessionId imageSize totalChunks expectedSha256 hal
      now).err = .ok) :
    SessionLog [] [] (otaClientStartSession context sessionId imageSize totalChunks
      expectedSha256 hal now).context := by
  have hinv := sessionInv_start h
  obtain ⟨digest, partition, -, -, -, -, heq⟩ := otaClientStartSession_ok h
  rw [heq] at hinv ⊢
  refine
    { hinv.toSessionCounters with
      receiving := rfl
      bytes_eq := rfl
      held_iff := fun n => ?_
      slot_eq := fun i hi => absurd hi (not_received_otaBatchCachePrepare _ _ i) }
  rw [firstPiece_nil]
  refine iff_of_false (by simp) ?_
  rintro (hn | ⟨-, hrec⟩)
  · exact absurd hn (Nat.not_lt_zero n)
  · exact not_received_otaBatchCachePrepare _ _ _ hrec

/-- Accepting a chunk that is already held changes nothing. -/
lemma SessionLog.held (h : SessionLog log bytes context) {n : ℕ} (hn : context.Holds n)
    (data : Bytes) : SessionLog (log ++ [(n, data)]) bytes context := by
  have hfirst : firstPiece (log ++ [(n, data)]) = firstPiece log :=
    firstPiece_concat_of_isSome ((h.held_iff n).mpr hn) data
  refine { h with bytes_eq := ?_, held_iff := ?_, slot_eq := ?_ }
  · unfold assembled
    rw [hfirst]
    exact h.bytes_eq
  · rw [hfirst]
    exact h.held_iff
  · rw [hfirst]
    exact h.slot_eq

/-- Storing a chunk in an empty slot logs it as the first payload of its number. -/
lemma SessionLog.store (h : SessionLog log bytes context) {sessionId sequence : UInt32}
    {data : Bytes} {index : Fin otaClientBatchSize}
    (hadm : ChunkAdmissible context sessionId sequence data)
    (hseq : sequence.toNat = context.expectedSequence.toNat + index.val)
    (hindex : index.val < context.batchCache.chunkCount.val)
    (hempty : ¬ context.batchCache.Received index) (now : UInt32) :
    SessionLog (log ++ [(sequence.toNat, data)]) bytes (context.storeChunk index data now) := by
  have hbase : sequence.toNat = context.batchCache.baseSequence.toNat + index.val := by
    rw [h.base_eq]
    exact hseq
  have hnew : firstPiece log sequence.toNat = none := by
    rw [← Option.not_isSome_iff_eq_none, h.held_iff]
    rintro (hlt | ⟨-, hrec⟩)
    · omega
    · rw [hseq, Nat.add_sub_cancel_left] at hrec
      exact hempty hrec
  refine
    { h.toSessionCounters.storeChunk hadm hbase hindex now with
      receiving := h.receiving
      bytes_eq := ?_
      held_iff := fun n => ?_
      slot_eq := fun i hi => ?_ }
  · change bytes = (assembled _ context.expectedSequence.toNat).flatten
    rw [assembled_concat_of_le log (by omega)]
    exact h.bytes_eq
  · rw [holds_storeChunk h.base_eq hbase, ← h.held_iff, firstPiece_concat]
    by_cases hn : n = sequence.toNat
    · simp [hn]
    · simp [hn, Ne.symm hn]
  · change firstPiece _ (context.expectedSequence.toNat + i) =
      some ((context.batchCache.fillSlot index data).slotBytes i)
    rcases (received_fillSlot context.batchCache index data i).mp hi with hrec | rfl
    · have hne : i ≠ index.val := by
        rintro rfl
        exact hempty hrec
      rw [slotBytes_fillSlot_of_ne _ _ _ hne]
      exact firstPiece_concat_of_eq_some (h.slot_eq i hrec) _ _
    · rw [slotBytes_fillSlot_self _ _ _ hadm.fits, ← hseq]
      exact firstPiece_concat_self hnew data

/-- Committing a complete batch hands the first payloads of its chunks to the writer. -/
lemma SessionLog.commit (h : SessionLog log bytes context)
    (hcomplete : otaBatchCacheIsComplete context.batchCache = true) {hal : OtaHal}
    (hwrite : hal.otaWrite = .ok) (hupdate : hal.hashUpdate = true) :
    (otaWriterWrite context.writer context.batchBytes hal).err = .ok ∧
    SessionLog log (bytes ++ context.batchBytes)
      (context.advanceBatch (otaWriterWrite context.writer context.batchBytes hal).writer) ∧
    writerBytes (otaWriterWrite context.writer context.batchBytes hal).calls = [] := by
  have hlength := h.length_batchBytes hcomplete
  have hcount := h.chunkCount_eq
  have htotal := h.totalChunks_eq
  have hreceived := h.received_eq
  have hwritten := h.written
  have hsize := h.writerSize
  obtain ⟨hne, hall⟩ := (otaBatchCacheIsComplete_iff _).mp hcomplete
  obtain ⟨hashed, hop⟩ := h.hashing
  have hpos : 0 < context.batchBytes.length := by omega
  have hwriter := otaWriterWrite_ok hpos h.active h.hashActive hop (by omega) hwrite hupdate
  have hok : (otaWriterWrite context.writer context.batchBytes hal).err = .ok := by rw [hwriter]
  have hinv := h.toSessionCounters.advanceBatch hcomplete hok
  have hnext := h.toNat_expectedSequence_advanceBatch
    (otaWriterWrite context.writer context.batchBytes hal).writer
  refine ⟨hok,
    { hinv.toSessionCounters with
      receiving := h.receiving
      bytes_eq := ?_
      held_iff := fun n => ?_
      slot_eq := fun i hi => absurd hi (not_received_otaBatchCachePrepare _ _ i) },
    by rw [hwriter]; rfl⟩
  · have hpieces : ((List.range context.batchCache.chunkCount.val).filterMap fun i =>
        firstPiece log (context.expectedSequence.toNat + i)) =
        (List.range context.batchCache.chunkCount.val).map context.batchCache.slotBytes := by
      rw [← List.filterMap_eq_map]
      refine List.filterMap_congr fun i hi => ?_
      exact h.slot_eq i (hall i (List.mem_range.mp hi))
    rw [hnext, assembled_add, hpieces, List.flatten_append, ← h.bytes_eq]
    rfl
  · rw [h.held_iff]
    refine ⟨holds_advanceBatch h.toSessionCounters _, fun hn => ?_⟩
    rcases hn with hlt | ⟨-, hrec⟩
    · rw [hnext] at hlt
      by_cases hn : n < context.expectedSequence.toNat
      · exact .inl hn
      · exact .inr ⟨by omega, hall _ (by omega)⟩
    · exact absurd hrec (not_received_otaBatchCachePrepare _ _ _)

end Invariant

/-- One call keeps the invariant: the log grows by what the call accepted, and the bytes handed
to the writer by what it wrote. -/
lemma sessionLog_writeChunk {log : List (ℕ × Bytes)} {bytes : Bytes}
    {context : OtaClientContext} (h : SessionLog log bytes context) (hinv : SessionInv context)
    {call : WriteChunkCall} (hdrivers : call.DriversSucceed) :
    SessionLog (log ++ call.accepted (writeChunkStep context call).2)
      (bytes ++ writerBytes (writeChunkStep context call).2.calls)
      (writeChunkStep context call).1 := by
  have heffect := writeChunkEffect hinv call.sessionId call.sequence call.data call.hal call.now
  unfold writeChunkStep
  dsimp only
  generalize otaClientWriteChunk context call.sessionId call.sequence call.data call.hal
    call.now = outcome at heffect
  cases heffect with
  | refused err herr =>
    have hnone : call.accepted ⟨err, context, [], []⟩ = [] := by
      unfold WriteChunkCall.accepted
      cases err <;> simp_all
    rw [hnone]
    simpa [writerBytes] using h
  | held data hdata hadm hholds =>
    simpa [WriteChunkCall.accepted, hdata, writerBytes] using h.held hholds data
  | stored data index hdata hadm hseq hindex hempty hincomplete =>
    simpa [WriteChunkCall.accepted, hdata, writerBytes] using
      h.store hadm hseq hindex hempty call.now
  | committed data index written events hdata hadm hseq hindex hempty hcomplete hwritten hok =>
    have hstored := h.store hadm hseq hindex hempty call.now
    obtain ⟨-, hcommitted, hnone⟩ := hstored.commit hcomplete hdrivers.1 hdrivers.2
    subst hwritten
    have hbytes : writerBytes (.writerWrite (context.storeChunk index data call.now).batchBytes ::
        (otaWriterWrite context.writer
          (context.storeChunk index data call.now).batchBytes call.hal).calls) =
        (context.storeChunk index data call.now).batchBytes := by
      unfold writerBytes at hnone ⊢
      rw [List.flatMap_cons]
      exact (congrArg _ hnone).trans (List.append_nil _)
    have haccepted : ∀ context' calls, call.accepted ⟨.ok, context', calls, events⟩ =
        [(call.sequence.toNat, data)] := by
      intro context' calls
      simp [WriteChunkCall.accepted, hdata]
    dsimp only
    rw [hbytes, haccepted]
    exact hcommitted
  | failed data index written hdata hadm hseq hindex hempty hcomplete hwritten herr =>
    have hstored := h.store hadm hseq hindex hempty call.now
    have hok := (hstored.commit hcomplete hdrivers.1 hdrivers.2).1
    rw [hwritten] at herr
    exact absurd hok herr

/-- After a session was opened, every run of calls with succeeding drivers keeps the session
invariant and the log. -/
lemma sessionLog_run {context : OtaClientContext} (hlog : SessionLog [] [] context)
    (hinv : SessionInv context) {calls : List WriteChunkCall}
    (hdrivers : ∀ call ∈ calls, call.DriversSucceed) :
    SessionInv (Machine.finalState writeChunkStep context calls) ∧
      SessionLog (acceptedLog context calls) (handedBytes context calls)
        (Machine.finalState writeChunkStep context calls) := by
  induction calls using List.reverseRecOn with
  | nil => exact ⟨hinv, hlog⟩
  | append_singleton calls call ih =>
    obtain ⟨hinv', hlog'⟩ := ih fun c hc => hdrivers c (List.mem_append_left _ hc)
    have hstep := sessionLog_writeChunk hlog' hinv' (hdrivers call (by simp))
    rw [Machine.finalState_append, acceptedLog_concat, handedBytes_concat]
    exact ⟨sessionInv_writeChunk hinv' _ _ _ _ _ hstep.receiving, hstep⟩

/-- No call touches what the start fixed. -/
lemma sameSession_run (context : OtaClientContext) (calls : List WriteChunkCall) :
    SameSession context (Machine.finalState writeChunkStep context calls) := by
  induction calls generalizing context with
  | nil => exact SameSession.refl context
  | cons call calls ih =>
    exact (sameSession_otaClientWriteChunk _ _ _ _ _ _).trans (ih (writeChunkStep context call).1)

/-! ## The image is assembled in order -/

/-- The received mask of an open batch is a proper subset of the required mask. -/
lemma receivedMask_proper {context : OtaClientContext} (h : SessionInv context)
    (hpos : 0 < context.batchCache.chunkCount.val) :
    context.batchCache.receivedMask &&&
        otaBatchRequiredMask context.batchCache.chunkCount.val =
      context.batchCache.receivedMask ∧
    context.batchCache.receivedMask ≠
      otaBatchRequiredMask context.batchCache.chunkCount.val := by
  constructor
  · refine BitVec.eq_of_getLsbD_eq fun i _ => ?_
    rw [BitVec.getLsbD_and, getLsbD_otaBatchRequiredMask]
    by_cases hrec : context.batchCache.Received i
    · simp [(h.slots i hrec).1]
    · rw [OtaBatchCache.Received, Bool.not_eq_true] at hrec
      simp [hrec]
  · intro heq
    have hcomplete : otaBatchCacheIsComplete context.batchCache = true := by
      refine (otaBatchCacheIsComplete_iff _).mpr ⟨hpos.ne', fun i hi => ?_⟩
      rw [OtaBatchCache.Received, heq, getLsbD_otaBatchRequiredMask]
      exact decide_eq_true hi
    rw [h.incomplete] at hcomplete
    cases hcomplete

/-- Image integrity of a whole session.  However the chunks arrive, the bytes handed to the
writer are the first accepted payloads of the chunks below the expected sequence, each once and
in order; and the counters, the batch cache and the writer agree on how far that is. -/
theorem otaClientWriteChunk_image_integrity (context : OtaClientContext)
    (sessionId imageSize totalChunks : UInt32) (expectedSha256 : Option Sha256Digest)
    (hal : OtaHal) (now : UInt32)
    (hstart : (otaClientStartSession context sessionId imageSize totalChunks expectedSha256 hal
      now).err = .ok)
    (calls : List WriteChunkCall) (hdrivers : ∀ call ∈ calls, call.DriversSucceed) :
    let started := (otaClientStartSession context sessionId imageSize totalChunks expectedSha256
      hal now).context
    let final := Machine.finalState writeChunkStep started calls
    let log := acceptedLog started calls
    let expected := final.expectedSequence.toNat
    handedBytes started calls =
        (List.range expected).flatMap (fun seq => (firstPiece log seq).getD []) ∧
      (∀ seq < expected, ∃ payload, firstPiece log seq = some payload) ∧
      (5 ∣ expected ∨ final.expectedSequence = totalChunks) ∧
      final.receivedBytes.toNat = min (48 * expected) imageSize.toNat ∧
      final.writer.writtenSize = min (48 * expected) imageSize.toNat ∧
      final.batchCache.baseSequence = final.expectedSequence ∧
      final.batchCache.chunkCount.val = min 5 (totalChunks.toNat - expected) ∧
      (0 < final.batchCache.chunkCount.val →
        final.batchCache.receivedMask &&&
            otaBatchRequiredMask final.batchCache.chunkCount.val =
          final.batchCache.receivedMask ∧
        final.batchCache.receivedMask ≠
          otaBatchRequiredMask final.batchCache.chunkCount.val) := by
  intro started final log expected
  obtain ⟨hinv, hlog⟩ := sessionLog_run (sessionLog_start hstart) (sessionInv_start hstart)
    hdrivers
  have hsession : final.imageSize = imageSize ∧ final.totalChunks = totalChunks := by
    obtain ⟨digest, partition, -, -, -, -, heq⟩ := otaClientStartSession_ok hstart
    have hsame := sameSession_run started calls
    have hstarted : started.imageSize = imageSize ∧ started.totalChunks = totalChunks := by
      simp only [started, heq, and_self]
    exact ⟨hsame.imageSize.trans hstarted.1, hsame.totalChunks.trans hstarted.2⟩
  have hholds : Holds log expected := fun n hn => (hlog.held_iff n).mpr (.inl hn)
  refine ⟨?_, fun seq hseq => Option.isSome_iff_exists.mp (hholds seq hseq), ?_, ?_, ?_,
    hinv.base_eq, ?_, receivedMask_proper hinv⟩
  · rw [List.flatMap_def, ← assembled_eq_map hholds]
    exact hlog.bytes_eq
  · rw [← hsession.2]
    exact hinv.aligned
  · rw [← hsession.1]
    exact hinv.received_eq
  · rw [← hsession.1]
    exact hlog.written.trans hinv.received_eq
  · rw [← hsession.2]
    exact hinv.chunkCount_eq

/-- An idle client. -/
def idleClient : OtaClientContext :=
  { OtaClientContext.zero with rxQueue := some [], state := .idle }

/-- A call that offers chunk `sequence` of session 7 with `size` bytes of value `value`. -/
def sampleChunk (sequence : UInt32) (size : ℕ) (value : UInt8) : WriteChunkCall :=
  ⟨7, sequence, some (List.replicate size value), .succeeding 0x100000, 0⟩

/-- Three chunks in reverse order, the middle one repeated with other bytes: the image holds
the first payload accepted for each. -/
theorem otaClientWriteChunk_image_integrity_reversed :
    let started := (otaClientStartSession idleClient 7 100 3 (some (Vector.replicate 32 0))
      (.succeeding 0x100000) 0).context
    let calls := [sampleChunk 2 4 3, sampleChunk 1 48 2, sampleChunk 1 48 9, sampleChunk 0 48 1]
    handedBytes started calls =
      (List.range (Machine.finalState writeChunkStep started calls).expectedSequence.toNat).flatMap
        (fun seq => (firstPiece (acceptedLog started calls) seq).getD []) :=
  (otaClientWriteChunk_image_integrity idleClient 7 100 3 (some (Vector.replicate 32 0))
    (.succeeding 0x100000) 0 (by decide)
    [sampleChunk 2 4 3, sampleChunk 1 48 2, sampleChunk 1 48 9, sampleChunk 0 48 1]
    (by unfold WriteChunkCall.DriversSucceed; decide)).1

end FhssOtaRadio
