import FhssOtaRadio.Library.Monitor
import FhssOtaRadio.OtaClient.BootSafety

/-!
# The OTA handle and the hash operation are used in order (`ota_writer.c`, `ota_client.c`)

The flash driver and the hash driver each hold one resource of the writer: an open OTA handle and
a hash operation that was set up.  A monitor of the driver calls says when a call may use them.
The flags `active` and `hash_active` say at the end of every operation which of the two are held
(`OtaWriter.drivers`), on every early return; so the calls of every history are in order.
-/

namespace FhssOtaRadio

open Machine Monitor

/-! ## The monitor -/

/-- A driver call together with the handle that `esp_ota_begin` returns during the operation. -/
structure DriverCall where
  call : OtaCall
  newHandle : ℕ
  deriving DecidableEq

/-- The resources that the drivers hold: the open handle, and whether a hash operation is set
up. -/
structure Drivers where
  handle : Option ℕ
  hashing : Bool
  deriving DecidableEq

/-- Nothing is open. -/
def Drivers.idle : Drivers := ⟨none, false⟩

/-- A call uses only what is open: the handle of the last `esp_ota_begin` that succeeded and was
not yet ended or aborted, and a hash operation that was set up and not yet finished or aborted.
Neither is opened a second time. -/
def Drivers.Allows (drivers : Drivers) (driverCall : DriverCall) : Prop :=
  match driverCall.call with
  | .hashSetup _ => drivers.hashing = false
  | .hashUpdate _ _ => drivers.hashing = true
  | .hashFinish _ => drivers.hashing = true
  | .otaBegin _ _ => drivers.handle = none
  | .otaWrite handle _ _ => drivers.handle = some handle
  | .otaEnd handle _ => drivers.handle = some handle
  | .otaAbort handle _ => drivers.handle = some handle
  | .writerWrite _ => True
  | .hashAbort => True
  | .setBootPartition _ _ => True

/-- What a call opens and closes.  `esp_ota_end` and `esp_ota_abort` close the handle whatever
they return. -/
def Drivers.next (drivers : Drivers) (driverCall : DriverCall) : Drivers × Unit :=
  match driverCall.call with
  | .hashSetup true => ({ drivers with hashing := true }, ())
  | .hashFinish _ => ({ drivers with hashing := false }, ())
  | .hashAbort => ({ drivers with hashing := false }, ())
  | .otaBegin _ .ok => ({ drivers with handle := some driverCall.newHandle }, ())
  | .otaEnd _ _ => ({ drivers with handle := none }, ())
  | .otaAbort _ _ => ({ drivers with handle := none }, ())
  | _ => (drivers, ())

instance (drivers : Drivers) (driverCall : DriverCall) : Decidable (drivers.Allows driverCall) := by
  unfold Drivers.Allows
  split <;> infer_instance

/-- The driver calls of an operation. -/
def driverCalls (hal : OtaHal) (calls : List OtaCall) : List DriverCall :=
  calls.map fun call => ⟨call, hal.otaHandle⟩

/-- The client as a machine that emits its driver calls. -/
def driverStep (protocol : OtaProtocol) (sha256 : Bytes → Sha256Digest)
    (context : OtaClientContext) (call : OtaClientCall) : OtaClientContext × List DriverCall :=
  let (context, entry) := otaClientStep protocol sha256 context call
  (context, driverCalls call.hal entry.outcome.calls)

/-! ## The writer -/

/-- What the drivers hold for a writer between its operations. -/
def OtaWriter.drivers (writer : OtaWriter) : Drivers :=
  ⟨if writer.active = true then some writer.handle else none, writer.active⟩

/-- A writer between its operations hashes exactly while its handle is open. -/
def OtaWriter.InOrder (writer : OtaWriter) : Prop := writer.hashActive = writer.active

/-- The calls of an operation are in order and leave the writer in order. -/
structure WriterOrderly (hal : OtaHal) (writer : OtaWriter) (calls : List OtaCall)
    (writer' : OtaWriter) : Prop where
  inOrder : writer'.InOrder
  calls : Orderly Drivers.next Drivers.Allows writer.drivers (driverCalls hal calls)
    writer'.drivers

/-- An operation without calls that leaves the writer alone. -/
lemma WriterOrderly.refl (hal : OtaHal) {writer : OtaWriter} (h : writer.InOrder) :
    WriterOrderly hal writer [] writer :=
  ⟨h, .nil _⟩

/-- One operation after the other. -/
lemma WriterOrderly.trans {hal : OtaHal} {writer writer' writer'' : OtaWriter}
    {calls calls' : List OtaCall} (h : WriterOrderly hal writer calls writer')
    (h' : WriterOrderly hal writer' calls' writer'') :
    WriterOrderly hal writer (calls ++ calls') writer'' := by
  refine ⟨h'.inOrder, ?_⟩
  rw [driverCalls, List.map_append]
  exact h.calls.append h'.calls

section Writer

variable {writer : OtaWriter} (h : writer.InOrder) (hal : OtaHal)
include h

/-- A writer that is not active holds nothing. -/
lemma drivers_of_not_active (hactive : writer.active = false) :
    writer.drivers = .idle ∧ writer.hashActive = false := by
  refine ⟨?_, h.trans hactive⟩
  simp [OtaWriter.drivers, Drivers.idle, hactive]

/-- An active writer holds its handle and a hash operation. -/
lemma drivers_of_active (hactive : writer.active = true) :
    writer.drivers = ⟨some writer.handle, true⟩ ∧ writer.hashActive = true := by
  refine ⟨?_, h.trans hactive⟩
  simp [OtaWriter.drivers, hactive]

/-- `ota_writer_begin` opens both or neither. -/
lemma writerOrderly_begin (imageSize : ℕ) :
    WriterOrderly hal writer (otaWriterBegin writer imageSize hal).calls
      (otaWriterBegin writer imageSize hal).writer := by
  unfold otaWriterBegin
  split
  · exact .refl hal h
  split
  · exact .refl hal h
  rename_i hinactive
  have hactive : writer.active = false := by simpa using hinactive
  obtain ⟨hdrivers, hhash⟩ := drivers_of_not_active h hactive
  split
  · exact .refl hal h
  split
  · exact .refl hal h
  split
  · -- The hash operation could not be set up.
    have hafter : ({ writer with hashOperation := none } : OtaWriter).drivers = .idle := by
      simp [OtaWriter.drivers, Drivers.idle, hactive]
    refine ⟨h, ?_⟩
    rw [hdrivers, hafter]
    exact .cons rfl (.nil _)
  split
  · refine ⟨rfl, ?_⟩
    rw [hdrivers]
    exact .cons rfl (.cons rfl (.nil _))
  · -- `esp_ota_begin` failed: the hash operation is aborted again.
    rename_i hfails
    have hafter : ({ writer with hashOperation := none, hashActive := false } :
        OtaWriter).drivers = .idle := by
      simp [OtaWriter.drivers, Drivers.idle, hactive]
    refine ⟨hactive.symm, ?_⟩
    rw [hdrivers, hafter]
    refine .cons rfl (.cons rfl (.cons trivial ?_))
    cases hbegin : hal.otaBegin with
    | ok => exact absurd hbegin hfails
    | _ => exact .nil _

/-- `ota_writer_write` uses both and keeps them. -/
lemma writerOrderly_write (data : Bytes) :
    WriterOrderly hal writer (otaWriterWrite writer data hal).calls
      (otaWriterWrite writer data hal).writer := by
  unfold otaWriterWrite
  split
  · exact .refl hal h
  split
  · exact .refl hal h
  rename_i hinactive
  have hactive : writer.active = true := by simpa using hinactive
  obtain ⟨hdrivers, hhash⟩ := drivers_of_active h hactive
  split
  · exact .refl hal h
  split
  · rw [if_neg (by simp [hhash])]
    split
    · refine ⟨h, ?_⟩
      have hafter : ∀ operation writtenSize, ({ writer with
          hashOperation := operation, writtenSize := writtenSize } : OtaWriter).drivers =
            ⟨some writer.handle, true⟩ := by
        intro operation writtenSize
        simp [OtaWriter.drivers, hactive]
      rw [hdrivers, hafter]
      exact .cons rfl (.cons rfl (.nil _))
    · refine ⟨h, ?_⟩
      have hafter : ∀ operation, ({ writer with hashOperation := operation } :
          OtaWriter).drivers = ⟨some writer.handle, true⟩ := by
        intro operation
        simp [OtaWriter.drivers, hactive]
      rw [hdrivers, hafter]
      exact .cons rfl (.cons rfl (.nil _))
  · refine ⟨h, ?_⟩
    rw [hdrivers]
    exact .cons rfl (.nil _)

/-- `ota_writer_abort` closes both. -/
lemma writerOrderly_abort :
    WriterOrderly hal writer (otaWriterAbort writer hal).calls
      (otaWriterAbort writer hal).writer := by
  unfold otaWriterAbort
  split
  · exact .refl hal h
  rename_i hinactive
  have hactive : writer.active = true := by simpa using hinactive
  obtain ⟨hdrivers, hhash⟩ := drivers_of_active h hactive
  refine ⟨rfl, ?_⟩
  rw [hdrivers, if_pos hhash, if_pos hhash]
  exact .cons rfl (.cons trivial (.nil _))

/-- `ota_writer_finish` closes both once it has ended the handle. -/
lemma writerOrderly_finish (sha256 : Bytes → Sha256Digest) (expectedSha256 : Sha256Digest) :
    WriterOrderly hal writer (otaWriterFinish sha256 writer expectedSha256 hal).calls
      (otaWriterFinish sha256 writer expectedSha256 hal).writer := by
  unfold otaWriterFinish
  split
  · rename_i partition hactive hpartition
    obtain ⟨hdrivers, hhash⟩ := drivers_of_active h hactive
    split
    · exact .refl hal h
    dsimp only
    split
    · unfold otaWriterVerify
      dsimp only
      rw [if_neg (by simp [hhash])]
      split
      · refine ⟨rfl, ?_⟩
        rw [hdrivers]
        exact .cons rfl (.cons rfl (.cons trivial (.nil _)))
      split
      · refine ⟨rfl, ?_⟩
        rw [hdrivers]
        exact .cons rfl (.cons rfl (.cons trivial (.nil _)))
      split
      · refine ⟨rfl, ?_⟩
        rw [hdrivers]
        exact .cons rfl (.cons rfl (.nil _))
      · refine ⟨rfl, ?_⟩
        rw [hdrivers]
        exact .cons rfl (.cons rfl (.cons trivial (.nil _)))
    · refine ⟨rfl, ?_⟩
      rw [hdrivers]
      exact .cons rfl (.cons trivial (.nil _))
  · exact .refl hal h

end Writer

/-! ## The client -/

/-- A client between its operations: its writer is in order, and no handle is open while the
client is idle or not yet initialized. -/
structure ClientInOrder (context : OtaClientContext) : Prop where
  writer : context.writer.InOrder
  closed : context.state = .idle ∨ context.state = .uninitialized →
    context.writer.active = false

/-- The calls of an operation are in order and leave the client in order. -/
structure ClientOrderly (hal : OtaHal) (context : OtaClientContext) (calls : List OtaCall)
    (context' : OtaClientContext) : Prop where
  writer : WriterOrderly hal context.writer calls context'.writer
  closed : context'.state = .idle ∨ context'.state = .uninitialized →
    context'.writer.active = false

section Client

variable {context : OtaClientContext} (h : ClientInOrder context) (hal : OtaHal)
include h

/-- An operation without calls that leaves the writer and the state alone. -/
lemma clientOrderly_quiet {context' : OtaClientContext}
    (hwriter : context'.writer = context.writer) (hstate : context'.state = context.state) :
    ClientOrderly hal context [] context' := by
  refine ⟨?_, ?_⟩
  · rw [hwriter]
    exact .refl hal h.writer
  · rw [hwriter, hstate]
    exact h.closed

/-- `ota_client_init` starts with a writer of zero bytes, in the place of one without a
handle. -/
lemma clientOrderly_init (protocol : OtaProtocol) (config : Option OtaClientConfig)
    (storeErr : EspErr) (queueCreated : Bool) :
    ClientOrderly hal context []
      (otaClientInit protocol context config storeErr queueCreated).2 := by
  have hzero : context.state = .uninitialized → ∀ context' : OtaClientContext,
      context'.writer = .zero → ClientOrderly hal context [] context' := by
    intro hstate context' hwriter
    have hclosed := h.closed (.inr hstate)
    obtain ⟨hdrivers, -⟩ := drivers_of_not_active h.writer hclosed
    refine ⟨⟨?_, ?_⟩, fun _ => ?_⟩
    · rw [hwriter]
      rfl
    · rw [hwriter, hdrivers]
      exact .nil _
    · rw [hwriter]
      rfl
  unfold otaClientInit
  split
  · exact clientOrderly_quiet h hal rfl rfl
  split_ifs with _ _ _ hstate
  · exact clientOrderly_quiet h hal rfl rfl
  · exact clientOrderly_quiet h hal rfl rfl
  · exact clientOrderly_quiet h hal rfl rfl
  · exact clientOrderly_quiet h hal rfl rfl
  · exact clientOrderly_quiet h hal rfl rfl
  · exact hzero (not_ne_iff.mp hstate) _ rfl
  · exact hzero (not_ne_iff.mp hstate) _ rfl

/-- `ota_client_start_session`. -/
lemma clientOrderly_startSession (sessionId imageSize totalChunks : UInt32)
    (expectedSha256 : Option Sha256Digest) (now : UInt32) :
    ClientOrderly hal context
      (otaClientStartSession context sessionId imageSize totalChunks expectedSha256 hal now).calls
      (otaClientStartSession context sessionId imageSize totalChunks expectedSha256 hal
        now).context := by
  have hbegin := writerOrderly_begin h.writer hal imageSize.toNat
  unfold otaClientStartSession
  split
  · exact clientOrderly_quiet h hal rfl rfl
  split
  · exact clientOrderly_quiet h hal rfl rfl
  split
  · exact clientOrderly_quiet h hal rfl rfl
  split
  · exact clientOrderly_quiet h hal rfl rfl
  dsimp only
  split
  · exact ⟨hbegin, by simp⟩
  · exact ⟨hbegin, by simp⟩

/-- What the batch cache does with its callback: nothing, or one call of `ota_writer_write`. -/
lemma writerOrderly_commit (cache : OtaBatchCache) :
    WriterOrderly hal context.writer
      (otaBatchCacheCommit cache (otaClientBatchWrite hal) (context.writer, [])).2.2.2
      (otaBatchCacheCommit cache (otaClientBatchWrite hal) (context.writer, [])).2.2.1 := by
  unfold otaBatchCacheCommit
  split
  · exact .refl hal h.writer
  split
  · exact .refl hal h.writer
  · rename_i batchSize hsize
    obtain ⟨horder, hcalls⟩ :=
      writerOrderly_write h.writer hal (cache.buffer.take batchSize)
    have hwrite : WriterOrderly hal context.writer
        (.writerWrite (cache.buffer.take batchSize) ::
          (otaWriterWrite context.writer (cache.buffer.take batchSize) hal).calls)
        (otaWriterWrite context.writer (cache.buffer.take batchSize) hal).writer :=
      ⟨horder, .cons trivial hcalls⟩
    unfold otaClientBatchWrite
    dsimp only
    generalize (otaWriterWrite context.writer (cache.buffer.take batchSize) hal).err = err
    cases err <;> exact hwrite

/-- The end of `ota_client_write_chunk`: a batch that cannot be written costs the session its
handle. -/
lemma clientOrderly_commitBatch (hstate : context.state = .receiving) :
    ClientOrderly hal context (otaClientCommitBatch context hal).calls
      (otaClientCommitBatch context hal).context := by
  have hcommit := writerOrderly_commit h hal context.batchCache
  unfold otaClientCommitBatch
  generalize otaBatchCacheCommit context.batchCache (otaClientBatchWrite hal)
    (context.writer, []) = answer at hcommit ⊢
  obtain ⟨err, batchBytes, writer, calls⟩ := answer
  have habort := writerOrderly_abort hcommit.inOrder hal
  have hfailed : ClientOrderly hal context (calls ++ (otaWriterAbort writer hal).calls)
      { context with writer := (otaWriterAbort writer hal).writer, state := .error } :=
    ⟨hcommit.trans habort, by simp⟩
  cases err with
  | ok =>
    refine ⟨hcommit, ?_⟩
    dsimp only
    rw [hstate]
    simp
  | _ => exact hfailed

/-- `ota_client_write_chunk`. -/
lemma clientOrderly_writeChunk (sessionId sequence : UInt32) (data : Option Bytes)
    (now : UInt32) :
    ClientOrderly hal context (otaClientWriteChunk context sessionId sequence data hal now).calls
      (otaClientWriteChunk context sessionId sequence data hal now).context := by
  rcases otaClientWriteChunk_cases context sessionId sequence data hal now with
    ⟨err, -, hrefused⟩ | ⟨bytes, -, hadmissible, ⟨-, hheld⟩ | ⟨index, -, -, -, -, hstored⟩⟩
  · rw [hrefused]
    exact clientOrderly_quiet h hal rfl rfl
  · rw [hheld]
    exact clientOrderly_quiet h hal rfl rfl
  · rw [hstored]
    have hinOrder : ClientInOrder (context.storeChunk index bytes now) := ⟨h.writer, h.closed⟩
    split
    · exact clientOrderly_quiet h hal rfl rfl
    · have hcommit := clientOrderly_commitBatch hinOrder hal hadmissible.receiving
      exact ⟨hcommit.writer, hcommit.closed⟩

/-- `ota_client_finish_session`. -/
lemma clientOrderly_finishSession (sha256 : Bytes → Sha256Digest)
    (sessionId imageSize totalChunks : UInt32) :
    ClientOrderly hal context
      (otaClientFinishSession sha256 context sessionId imageSize totalChunks hal).calls
      (otaClientFinishSession sha256 context sessionId imageSize totalChunks hal).context := by
  unfold otaClientFinishSession
  split
  · exact clientOrderly_quiet h hal rfl rfl
  · have hfinish := writerOrderly_finish h.writer hal sha256 context.expectedSha256
    unfold otaClientVerifyImage
    dsimp only [OtaClientContext.applying]
    split
    · exact ⟨hfinish, by simp⟩
    · exact ⟨hfinish, by simp⟩

/-- `ota_client_abort`. -/
lemma clientOrderly_abort :
    ClientOrderly hal context (otaClientAbort context hal).calls
      (otaClientAbort context hal).context := by
  unfold otaClientAbort
  split
  · exact clientOrderly_quiet h hal rfl rfl
  have hzero : (OtaWriter.zero).drivers = .idle := rfl
  refine ⟨⟨rfl, ?_⟩, fun _ => rfl⟩
  change Orderly Drivers.next Drivers.Allows context.writer.drivers _ OtaWriter.zero.drivers
  rw [hzero]
  dsimp only
  split
  · rename_i hactive
    have habort := (writerOrderly_abort h.writer hal).calls
    have hafter : (otaWriterAbort context.writer hal).writer.drivers = .idle := by
      unfold otaWriterAbort
      rw [if_neg (by simp [hactive])]
      rfl
    rw [hafter] at habort
    exact habort
  · rename_i hinactive
    obtain ⟨hdrivers, -⟩ := drivers_of_not_active h.writer (by simpa using hinactive)
    rw [hdrivers]
    exact .nil _

end Client

/-- Every operation of the client is in order. -/
lemma clientOrderly_step (protocol : OtaProtocol) (sha256 : Bytes → Sha256Digest)
    {context : OtaClientContext} (h : ClientInOrder context) (call : OtaClientCall) :
    ClientOrderly call.hal context (runOtaClientOp protocol sha256 context call).calls
      (runOtaClientOp protocol sha256 context call).context := by
  unfold runOtaClientOp
  split
  · exact clientOrderly_init h call.hal protocol _ _ _
  · exact clientOrderly_startSession h call.hal _ _ _ _ _
  · exact clientOrderly_writeChunk h call.hal _ _ _ _
  · exact clientOrderly_finishSession h call.hal sha256 _ _ _
  · exact clientOrderly_abort h call.hal

/-- **The handle and the hash operation are used in order.**  In every history of the client,
whatever the drivers answer, each driver call is allowed by what the calls before it opened and
closed; and while the client is idle neither flag of the writer is set. -/
theorem otaClient_driver_calls_in_order (protocol : OtaProtocol) (sha256 : Bytes → Sha256Digest)
    (calls : List OtaClientCall) :
    Guarded Drivers.next Drivers.Allows Drivers.idle
        (trace (driverStep protocol sha256) .zero calls) ∧
      ((finalState (driverStep protocol sha256) .zero calls).state = .idle →
        (finalState (driverStep protocol sha256) .zero calls).writer.active = false ∧
          (finalState (driverStep protocol sha256) .zero calls).writer.hashActive = false) := by
  have hstep : ∀ context call, ClientInOrder context →
      ClientInOrder (driverStep protocol sha256 context call).1 ∧
        Orderly Drivers.next Drivers.Allows context.writer.drivers
          (driverStep protocol sha256 context call).2
          (driverStep protocol sha256 context call).1.writer.drivers := by
    intro context call h
    have horderly := clientOrderly_step protocol sha256 h call
    exact ⟨⟨horderly.writer.inOrder, horderly.closed⟩, horderly.writer.calls⟩
  have hstart : ClientInOrder .zero := ⟨rfl, fun _ => rfl⟩
  obtain ⟨hinOrder, htrace⟩ := guarded_trace hstep hstart calls
  refine ⟨htrace.guarded, ?_⟩
  intro hidle
  have hclosed := hinOrder.closed (.inl hidle)
  exact ⟨hclosed, hinOrder.writer.trans hclosed⟩

end FhssOtaRadio
