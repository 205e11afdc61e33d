import FhssOtaRadio.Library.Machine
import FhssOtaRadio.OtaClient.Session

/-!
# The boot partition is switched only to a verified image

A run of the client is any sequence of its operations with any arguments and any answers of the
flash and hash drivers.  Its history lists every call with its outcome; which session is open
and which bytes lie in flash since its `esp_ota_begin` are functions of the history alone
(`openSession`, `flashedBytes`).  The invariant `ReceivingInv` ties both to the context of a
receiving client: the hash operation was fed exactly the flashed bytes.
-/

namespace FhssOtaRadio

/-- The operations of the OTA client with their arguments. -/
inductive OtaClientOp where
  | init (config : Option OtaClientConfig) (storeErr : EspErr) (queueCreated : Bool)
  | startSession (sessionId imageSize totalChunks : UInt32)
      (expectedSha256 : Option Sha256Digest)
  | writeChunk (sessionId sequence : UInt32) (data : Option Bytes)
  | finishSession (sessionId imageSize totalChunks : UInt32)
  | abort
  deriving DecidableEq

/-- One call of the client: the operation, what the drivers answer, and the tick count. -/
structure OtaClientCall where
  op : OtaClientOp
  hal : OtaHal
  now : UInt32

/-- One entry of a history: a call and its outcome. -/
structure OtaClientEntry where
  op : OtaClientOp
  outcome : OtaClientOutcome

/-- A session as its start gave it. -/
structure OpenSession where
  sessionId : UInt32
  imageSize : UInt32
  totalChunks : UInt32
  expectedSha256 : Sha256Digest
  deriving DecidableEq

/-- How one history entry changes the open session: a successful start opens one, and it is open
until its OTA handle is ended or aborted. -/
def openSessionStep (session : Option OpenSession) (entry : OtaClientEntry) :
    Option OpenSession :=
  match entry.op, entry.outcome.err with
  | .startSession sessionId imageSize totalChunks (some expectedSha256), .ok =>
      some ⟨sessionId, imageSize, totalChunks, expectedSha256⟩
  | _, _ => if entry.outcome.calls.any OtaCall.closesHandle then none else session

/-- The session open after a history. -/
def openSession (history : List OtaClientEntry) : Option OpenSession :=
  history.foldl openSessionStep none

/-- How one driver call changes the bytes flashed through the open handle. -/
def flashStep (flashed : Bytes) : OtaCall → Bytes
  | .otaBegin _ .ok => []
  | .otaWrite _ data .ok => flashed ++ data
  | _ => flashed

/-- The bytes passed to `esp_ota_write` with success since the last successful
`esp_ota_begin`. -/
def flashedBytes (history : List OtaClientEntry) : Bytes :=
  (history.flatMap fun entry => entry.outcome.calls).foldl flashStep []

section Run

variable (protocol : OtaProtocol) (sha256 : Bytes → Sha256Digest)

/-- Run one operation of the client. -/
def runOtaClientOp (context : OtaClientContext) (call : OtaClientCall) : OtaClientOutcome :=
  match call.op with
  | .init config storeErr queueCreated =>
      let (err, context') := otaClientInit protocol context config storeErr queueCreated
      ⟨err, context', [], []⟩
  | .startSession sessionId imageSize totalChunks expectedSha256 =>
      otaClientStartSession context sessionId imageSize totalChunks expectedSha256 call.hal
        call.now
  | .writeChunk sessionId sequence data =>
      otaClientWriteChunk context sessionId sequence data call.hal call.now
  | .finishSession sessionId imageSize totalChunks =>
      otaClientFinishSession sha256 context sessionId imageSize totalChunks call.hal
  | .abort => otaClientAbort context call.hal

/-- The client as a machine whose outputs are history entries. -/
def otaClientStep (context : OtaClientContext) (call : OtaClientCall) :
    OtaClientContext × OtaClientEntry :=
  let outcome := runOtaClientOp protocol sha256 context call
  (outcome.context, ⟨call.op, outcome⟩)

end Run

lemma openSession_concat (history : List OtaClientEntry) (entry : OtaClientEntry) :
    openSession (history ++ [entry]) = openSessionStep (openSession history) entry := by
  simp [openSession]

lemma flashedBytes_concat (history : List OtaClientEntry) (entry : OtaClientEntry) :
    flashedBytes (history ++ [entry]) =
      entry.outcome.calls.foldl flashStep (flashedBytes history) := by
  simp [flashedBytes]

/-! ## The invariant of a receiving client -/

/-- What holds of a receiving client after a history. -/
structure ReceivingInv (history : List OtaClientEntry) (context : OtaClientContext) : Prop
    extends SessionInv context where
  session : openSession history = some
    ⟨context.sessionId, context.imageSize, context.totalChunks, context.expectedSha256⟩
  hashed : context.writer.hashOperation = some (flashedBytes history)
  flashed : context.writer.writtenSize = (flashedBytes history).length

section Invariant

variable {history : List OtaClientEntry} {context : OtaClientContext}

/-- An operation that is no start and makes no driver call keeps the invariant, whatever it does
to the batch cache. -/
lemma ReceivingInv.quiet (h : ReceivingInv history context) {op : OtaClientOp} {err : EspErr}
    {events : List OtaClientEventCall} {context' : OtaClientContext}
    (hop : ∀ sessionId imageSize totalChunks expectedSha256,
      op ≠ .startSession sessionId imageSize totalChunks expectedSha256 ∨ err ≠ .ok)
    (hinv : SessionInv context') (hsame : SameSession context context')
    (hwriter : context'.writer = context.writer) :
    ReceivingInv (history ++ [⟨op, ⟨err, context', [], events⟩⟩]) context' := by
  have hstep : openSessionStep (openSession history) ⟨op, ⟨err, context', [], events⟩⟩ =
      openSession history := by
    unfold openSessionStep
    split
    · rename_i hstart herr
      rcases hop _ _ _ _ with hne | hne
      · exact absurd hstart hne
      · exact absurd herr hne
    · rfl
  have hflash : flashedBytes (history ++ [⟨op, ⟨err, context', [], events⟩⟩]) =
      flashedBytes history := flashedBytes_concat _ _
  refine
    { hinv with
      session := ?_
      hashed := by rw [hwriter, hflash]; exact h.hashed
      flashed := by rw [hwriter, hflash]; exact h.flashed }
  rw [openSession_concat, hstep, h.session, hsame.sessionId, hsame.imageSize, hsame.totalChunks,
    hsame.expectedSha256]

/-- A chunk that completes a batch appends the same bytes to flash and to the hash. -/
lemma ReceivingInv.commit (h : ReceivingInv history context) {op : OtaClientOp}
    {events : List OtaClientEventCall} {stored context' : OtaClientContext} {data : Bytes}
    {hal : OtaHal} {written : OtaWriterOutcome}
    (hop : ∀ sessionId imageSize totalChunks expectedSha256,
      op ≠ .startSession sessionId imageSize totalChunks expectedSha256)
    (hwritten : written = otaWriterWrite context.writer data hal) (hok : written.err = .ok)
    (hcontext : context' = stored.advanceBatch written.writer)
    (hstored : SameSession context stored) (hinv : SessionInv context') :
    ReceivingInv
      (history ++ [⟨op, ⟨.ok, context', .writerWrite data :: written.calls, events⟩⟩])
      context' := by
  obtain ⟨hashed, hashedEq, -, -, hwrite⟩ := otaWriterWrite_of_ok (hwritten ▸ hok)
  rw [← hwritten] at hwrite
  rw [h.hashed] at hashedEq
  have hbytes : flashedBytes history = hashed := Option.some_inj.mp hashedEq
  have hstep : openSessionStep (openSession history)
      ⟨op, ⟨.ok, context', .writerWrite data :: written.calls, events⟩⟩ =
      openSession history := by
    unfold openSessionStep
    split
    · rename_i hstart _
      exact absurd hstart (hop _ _ _ _)
    · rw [hwrite]
      rfl
  have hflash : flashedBytes
      (history ++ [⟨op, ⟨.ok, context', .writerWrite data :: written.calls, events⟩⟩]) =
      flashedBytes history ++ data := by
    rw [flashedBytes_concat, hwrite]
    rfl
  have hwriter : context'.writer =
      { context.writer with
        hashOperation := some (hashed ++ data)
        writtenSize := context.writer.writtenSize + data.length } := by
    rw [hcontext, hwrite]
    rfl
  have hsame : SameSession context context' := by
    rw [hcontext]
    exact hstored.trans ⟨rfl, rfl, rfl, rfl, rfl⟩
  refine
    { hinv with
      session := ?_
      hashed := by rw [hwriter, hflash, hbytes]
      flashed := by rw [hwriter, hflash, List.length_append, ← h.flashed] }
  rw [openSession_concat, hstep, h.session, hsame.sessionId, hsame.imageSize, hsame.totalChunks,
    hsame.expectedSha256]

/-- An initialization leaves the client alone or not receiving. -/
lemma otaClientInit_cases (protocol : OtaProtocol) (context : OtaClientContext)
    (config : Option OtaClientConfig) (storeErr : EspErr) (queueCreated : Bool) :
    (otaClientInit protocol context config storeErr queueCreated).2 = context ∨
      (otaClientInit protocol context config storeErr queueCreated).2.state ≠ .receiving := by
  unfold otaClientInit
  cases config with
  | none => exact .inl rfl
  | some config =>
    dsimp only
    split_ifs
    · exact .inl rfl
    · exact .inl rfl
    · exact .inl rfl
    · exact .inl rfl
    · exact .inl rfl
    · exact .inr (by simp [OtaClientContext.zero])
    · exact .inr (by simp)

variable (protocol : OtaProtocol) (sha256 : Bytes → Sha256Digest)

/-- Every operation keeps the invariant of a receiving client. -/
lemma receivingInv_step (h : context.state = .receiving → ReceivingInv history context)
    (call : OtaClientCall)
    (hrecv : (otaClientStep protocol sha256 context call).1.state = .receiving) :
    ReceivingInv (history ++ [(otaClientStep protocol sha256 context call).2])
      (otaClientStep protocol sha256 context call).1 := by
  obtain ⟨op, hal, now⟩ := call
  unfold otaClientStep runOtaClientOp at hrecv ⊢
  cases op with
  | init config storeErr queueCreated =>
    dsimp only at hrecv ⊢
    rcases otaClientInit_cases protocol context config storeErr queueCreated with hsame | hne
    · rw [hsame] at hrecv ⊢
      exact (h hrecv).quiet (fun _ _ _ _ => .inl (by simp)) (h hrecv).toSessionInv
        (SameSession.refl context) rfl
    · exact absurd hrecv hne
  | startSession sessionId imageSize totalChunks expectedSha256 =>
    dsimp only at hrecv ⊢
    by_cases hok : (otaClientStartSession context sessionId imageSize totalChunks
        expectedSha256 hal now).err = .ok
    · have hinv := sessionInv_start hok
      obtain ⟨digest, partition, rfl, -, -, -, heq⟩ := otaClientStartSession_ok hok
      rw [heq] at hinv ⊢
      refine
        { hinv with
          session := ?_
          hashed := ?_
          flashed := ?_ }
      · rw [openSession_concat]
        rfl
      · rw [flashedBytes_concat]
        rfl
      · rw [flashedBytes_concat]
        rfl
    · obtain ⟨err, herr, heq⟩ | herror := otaClientStartSession_of_err hok
      · rw [heq] at hrecv ⊢
        exact (h hrecv).quiet (fun _ _ _ _ => .inr herr) (h hrecv).toSessionInv
          (SameSession.refl context) rfl
      · rw [herror] at hrecv
        cases hrecv
  | writeChunk sessionId sequence data =>
    dsimp only at hrecv ⊢
    by_cases hstate : context.state = .receiving
    · have hinv' := sessionInv_writeChunk (h hstate).toSessionInv _ _ _ _ _ hrecv
      have heffect := writeChunkEffect (h hstate).toSessionInv sessionId sequence data hal now
      generalize otaClientWriteChunk context sessionId sequence data hal now = outcome
        at heffect hrecv hinv' ⊢
      cases heffect with
      | refused err herr =>
        exact (h hstate).quiet (fun _ _ _ _ => .inl (by simp)) hinv' (SameSession.refl _) rfl
      | held bytes =>
        exact (h hstate).quiet (fun _ _ _ _ => .inl (by simp)) hinv' (SameSession.refl _) rfl
      | stored bytes index =>
        exact (h hstate).quiet (fun _ _ _ _ => .inl (by simp)) hinv'
          ⟨rfl, rfl, rfl, rfl, rfl⟩ rfl
      | committed bytes index written events hdata hadm hseq hindex hempty hcomplete hwritten
          hok =>
        have hstored : SameSession context (context.storeChunk index bytes now) :=
          ⟨rfl, rfl, rfl, rfl, rfl⟩
        exact (h hstate).commit (fun _ _ _ _ => by simp) hwritten hok rfl hstored hinv'
      | failed => cases hrecv
    · obtain ⟨err, -, heq⟩ :=
        otaClientWriteChunk_of_not_receiving hstate sessionId sequence data hal now
      rw [heq] at hrecv
      exact absurd hrecv hstate
  | finishSession sessionId imageSize totalChunks =>
    dsimp only at hrecv ⊢
    obtain ⟨err, heq⟩ := otaClientFinishSession_receiving hrecv
    rw [heq] at hrecv ⊢
    exact (h hrecv).quiet (fun _ _ _ _ => .inl (by simp)) (h hrecv).toSessionInv
      (SameSession.refl context) rfl
  | abort => exact absurd hrecv (otaClientAbort_not_receiving context hal)

/-- In every run from boot, a receiving client satisfies the invariant. -/
lemma receivingInv_run (calls : List OtaClientCall) :
    (Machine.finalState (otaClientStep protocol sha256) .zero calls).state = .receiving →
      ReceivingInv (Machine.outputs (otaClientStep protocol sha256) .zero calls)
        (Machine.finalState (otaClientStep protocol sha256) .zero calls) := by
  induction calls using List.reverseRecOn with
  | nil => simp [OtaClientContext.zero]
  | append_singleton calls call ih =>
    rw [Machine.finalState_append, Machine.outputs_append]
    exact receivingInv_step protocol sha256 ih call

end Invariant

/-! ## Who switches the boot partition -/

section Boot

variable (protocol : OtaProtocol) (sha256 : Bytes → Sha256Digest)

/-- A call of `ota_client_write_chunk` never touches the boot partition. -/
lemma setBootPartition_not_mem_otaClientWriteChunk (context : OtaClientContext)
    (sessionId sequence : UInt32) (data : Option Bytes) (hal : OtaHal) (now : UInt32)
    (partition : EspPartition) (err : EspErr) :
    .setBootPartition partition err ∉
      (otaClientWriteChunk context sessionId sequence data hal now).calls := by
  have hcommit : ∀ c : OtaClientContext,
      .setBootPartition partition err ∉ (otaClientCommitBatch c hal).calls := by
    intro c
    have hcallback : ∀ (calls : List OtaCall) (batchBytes : Bytes) (w : OtaWriter),
        .setBootPartition partition err ∉ calls →
        .setBootPartition partition err ∉
          (otaClientBatchWrite hal batchBytes (w, calls)).2.2 := by
      intro calls batchBytes w hcalls
      simpa [otaClientBatchWrite, hcalls] using
        setBootPartition_not_mem_otaWriterWrite w batchBytes hal partition err
    have hcache : .setBootPartition partition err ∉ (otaBatchCacheCommit c.batchCache
        (otaClientBatchWrite hal) (c.writer, [])).2.2.2 := by
      unfold otaBatchCacheCommit
      split_ifs
      · simp
      · cases otaBatchCommitSize c.batchCache with
        | none => simp
        | some batchSize =>
          dsimp only
          have := hcallback [] (c.batchCache.buffer.take batchSize) c.writer (by simp)
          split <;> simp_all
    unfold otaClientCommitBatch
    split
    · rename_i heq
      rw [heq] at hcache
      exact hcache
    · rename_i heq
      rw [heq] at hcache
      simpa [hcache] using setBootPartition_not_mem_otaWriterAbort _ hal partition err
  obtain ⟨_, -, heq⟩ | ⟨bytes, -, -, ⟨-, heq⟩ | ⟨index, -, -, -, -, heq⟩⟩ :=
    otaClientWriteChunk_cases context sessionId sequence data hal now
  · simp [heq]
  · simp [heq]
  · rw [heq]
    split_ifs
    · simp
    · exact hcommit _

/-- `esp_ota_set_boot_partition` is only called by a finish that passed its checks and whose
writer verified the image. -/
lemma setBootPartition_mem {context : OtaClientContext} {call : OtaClientCall}
    {partition : EspPartition} {err : EspErr}
    (h : .setBootPartition partition err ∈ (runOtaClientOp protocol sha256 context call).calls) :
    ∃ sessionId imageSize totalChunks hashed,
      call.op = .finishSession sessionId imageSize totalChunks ∧
      otaClientFinishChecks context sessionId imageSize totalChunks = none ∧
      context.writer.hashOperation = some hashed ∧
      context.writer.writtenSize = context.writer.imageSize ∧
      sha256 hashed = context.expectedSha256 ∧
      (runOtaClientOp protocol sha256 context call).calls =
        [.otaEnd context.writer.handle .ok, .hashFinish true, .setBootPartition partition err] := by
  obtain ⟨op, hal, now⟩ := call
  unfold runOtaClientOp at h ⊢
  cases op with
  | init => simp at h
  | startSession sessionId imageSize totalChunks expectedSha256 =>
    dsimp only at h
    unfold otaClientStartSession at h
    cases expectedSha256 with
    | none => simp at h
    | some digest =>
      dsimp only at h
      split_ifs at h
      · simp at h
      · simp at h
      · simp at h
      · exact absurd h (setBootPartition_not_mem_otaWriterBegin _ _ _ _ _)
      · exact absurd h (setBootPartition_not_mem_otaWriterBegin _ _ _ _ _)
  | writeChunk sessionId sequence data =>
    exact absurd h (setBootPartition_not_mem_otaClientWriteChunk _ _ _ _ _ _ _ _)
  | finishSession sessionId imageSize totalChunks =>
    dsimp only at h ⊢
    unfold otaClientFinishSession at h ⊢
    cases hchecks : otaClientFinishChecks context sessionId imageSize totalChunks with
    | some err => simp [hchecks] at h
    | none =>
      have hcalls : (otaClientVerifyImage sha256 context.applying hal).calls =
          (otaWriterFinish sha256 context.writer context.expectedSha256 hal).calls := by
        unfold otaClientVerifyImage
        dsimp only
        split_ifs <;> rfl
      simp only [hchecks, hcalls] at h ⊢
      obtain ⟨-, hnone⟩ | ⟨partition', hashed, -, hop, hsize, hdigest, -, hlist⟩ :=
        otaWriterFinish_cases sha256 context.writer context.expectedSha256 hal
      · exact absurd h (hnone partition err)
      · rw [hlist] at h
        have heq : partition = partition' ∧ err = hal.setBootPartition := by simpa using h
        rw [heq.1, heq.2]
        exact ⟨sessionId, imageSize, totalChunks, hashed, rfl, hchecks, hop, hsize, hdigest,
          hlist⟩
  | abort =>
    dsimp only at h
    unfold otaClientAbort at h
    by_cases hstate : context.state ≠ .receiving ∧ context.state ≠ .error
    · simp [hstate] at h
    · rw [if_neg hstate] at h
      dsimp only at h
      split_ifs at h
      · exact absurd h (setBootPartition_not_mem_otaWriterAbort _ _ _ _)
      · simp at h

/-- The client enters `READY_TO_REBOOT` only by a call of `esp_ota_set_boot_partition` that
returned `ESP_OK`. -/
lemma readyToReboot_of_step {context : OtaClientContext} {call : OtaClientCall}
    (h : (runOtaClientOp protocol sha256 context call).context.state = .readyToReboot) :
    context.state = .readyToReboot ∨
      ∃ partition, .setBootPartition partition .ok ∈
        (runOtaClientOp protocol sha256 context call).calls := by
  obtain ⟨op, hal, now⟩ := call
  unfold runOtaClientOp at h ⊢
  cases op with
  | init config storeErr queueCreated =>
    left
    dsimp only at h
    unfold otaClientInit at h
    cases config with
    | none => exact h
    | some config =>
      dsimp only at h
      split_ifs at h <;> first | exact h | cases h
  | startSession sessionId imageSize totalChunks expectedSha256 =>
    left
    dsimp only at h
    unfold otaClientStartSession at h
    cases expectedSha256 with
    | none => exact h
    | some digest =>
      dsimp only at h
      split_ifs at h
      · exact h
      · exact h
      · exact h
  | writeChunk sessionId sequence data =>
    left
    dsimp only at h
    by_contra hne
    obtain ⟨_, -, heq⟩ | ⟨bytes, -, hadm, ⟨-, heq⟩ | ⟨index, -, -, -, -, heq⟩⟩ :=
      otaClientWriteChunk_cases context sessionId sequence data hal now
    · rw [heq] at h
      exact hne h
    · rw [heq] at h
      exact hne h
    · rw [heq] at h
      split_ifs at h
      · exact hne h
      · unfold otaClientCommitBatch at h
        have hrecv : context.state = .receiving := hadm.receiving
        split at h
        · exact hne h
        · cases h
  | finishSession sessionId imageSize totalChunks =>
    dsimp only at h ⊢
    unfold otaClientFinishSession at h ⊢
    cases hchecks : otaClientFinishChecks context sessionId imageSize totalChunks with
    | some err =>
      simp only [hchecks] at h
      exact .inl h
    | none =>
      right
      simp only [hchecks] at h ⊢
      unfold otaClientVerifyImage at h ⊢
      dsimp only [OtaClientContext.applying] at h ⊢
      obtain ⟨herr, -⟩ | ⟨partition, hashed, -, -, -, -, herr, hlist⟩ :=
        otaWriterFinish_cases sha256 context.writer context.expectedSha256 hal
      · rw [if_pos herr] at h
        cases h
      · split_ifs at h ⊢ with hok
        rw [not_ne_iff] at hok
        refine ⟨partition, ?_⟩
        dsimp only
        rw [hlist, ← herr, hok]
        simp
  | abort =>
    left
    dsimp only at h
    unfold otaClientAbort at h
    by_cases hstate : context.state ≠ .receiving ∧ context.state ≠ .error
    · rw [if_pos hstate] at h
      exact h
    · rw [if_neg hstate] at h
      cases h

/-- Boot-partition safety.  In every run from boot, a call that reaches
`esp_ota_set_boot_partition` is a finish with the id, size and chunk count of the open session;
the bytes flashed since its `esp_ota_begin` are as many as the image, `esp_ota_end` returned
`ESP_OK` before, and the SHA-256 of these bytes is the one given at the start.  A call brings
the client to `READY_TO_REBOOT` only if `esp_ota_set_boot_partition` returned `ESP_OK` in it. -/
theorem setBootPartition_verified (calls : List OtaClientCall) (call : OtaClientCall) :
    let history := Machine.outputs (otaClientStep protocol sha256) .zero calls
    let context := Machine.finalState (otaClientStep protocol sha256) .zero calls
    let outcome := runOtaClientOp protocol sha256 context call
    (∀ partition err, .setBootPartition partition err ∈ outcome.calls →
      ∃ session handle, openSession history = some session ∧
        call.op = .finishSession session.sessionId session.imageSize session.totalChunks ∧
        (flashedBytes history).length = session.imageSize.toNat ∧
        sha256 (flashedBytes history) = session.expectedSha256 ∧
        outcome.calls =
          [.otaEnd handle .ok, .hashFinish true, .setBootPartition partition err]) ∧
    (outcome.context.state = .readyToReboot → context.state = .readyToReboot ∨
      ∃ partition, .setBootPartition partition .ok ∈ outcome.calls) := by
  intro history context outcome
  refine ⟨fun partition err hmem => ?_, readyToReboot_of_step protocol sha256⟩
  obtain ⟨sessionId, imageSize, totalChunks, hashed, hop, hchecks, hhashed, hsize, hdigest,
    hcalls⟩ := setBootPartition_mem protocol sha256 hmem
  obtain ⟨hstate, rfl, rfl, rfl, -⟩ := otaClientFinishChecks_eq_none_iff.mp hchecks
  have hinv := receivingInv_run protocol sha256 calls hstate
  have hbytes : hashed = flashedBytes history := by
    rw [hinv.hashed] at hhashed
    exact (Option.some_inj.mp hhashed).symm
  refine ⟨_, context.writer.handle, hinv.session, hop, ?_, ?_, hcalls⟩
  · rw [← hinv.flashed, hsize]
    exact hinv.writerSize
  · rw [← hbytes]
    exact hdigest

end Boot

end FhssOtaRadio
