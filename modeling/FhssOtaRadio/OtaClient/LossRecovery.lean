import FhssOtaRadio.OtaClient.AckSoundness

/-!
# Recovering lost chunks (`ota_consumer_task`)

Each iteration of the consumer task waits for a packet.  If it gets one it processes it, and only
if the wait expires without one does it ask for the chunks the open batch still misses.  How long
it waits is computed from the tick of the last packet, so that a packet which brings nothing new
cannot move the time-out; but an iteration that finds such a packet in the queue is used up by it.
-/

namespace FhssOtaRadio

section Task

variable (protocol : OtaProtocol) (sha256 : Bytes → Sha256Digest) (timeoutTicks : UInt32)

/-- `receive_wait` of an iteration that starts at tick `now`. -/
def otaConsumerReceiveWait (context : OtaClientContext) (now : UInt32) : UInt32 :=
  if context.state = .receiving then
    let elapsed := now - context.lastPacketTick
    if timeoutTicks ≤ elapsed then 0 else timeoutTicks - elapsed
  else timeoutTicks

/-- What the surroundings do during one iteration of the consumer task. -/
structure ConsumerTurn where
  /-- The tick count when `receive_wait` is computed. -/
  startTick : UInt32
  /-- The packet another task submits while the consumer waits. -/
  arrived : Option Bytes
  /-- The tick count when a wait that has expired is handled. -/
  checkTick : UInt32
  env : OtaConsumerEnv

/-- The context whose queue `ota_client_receive_packet` reads: if it waits, a packet may arrive. -/
def ConsumerTurn.waited (turn : ConsumerTurn) (context : OtaClientContext) : OtaClientContext :=
  if otaConsumerReceiveWait timeoutTicks context turn.startTick = 0 then context
  else (otaClientSubmitPacket context turn.arrived).2

/-- The packet an iteration takes from the queue, if it gets one. -/
def ConsumerTurn.takenPacket (turn : ConsumerTurn) (context : OtaClientContext) : Option Bytes :=
  match (otaClientReceivePacket (turn.waited timeoutTicks context)).1 with
  | .ok packet => some packet
  | .error _ => none

/-- One iteration of the loop of `ota_consumer_task`. -/
def otaConsumerTaskTurn (state : OtaConsumerState) (turn : ConsumerTurn) : OtaConsumerOutcome :=
  let received := otaClientReceivePacket (turn.waited timeoutTicks state.context)
  match received.1 with
  | .ok packet =>
      otaConsumerProcessPacket protocol sha256 { state with context := received.2 } packet turn.env
  | .error _ =>
      otaConsumerHandleReceiveTimeout protocol { state with context := received.2 } timeoutTicks
        turn.checkTick

/-- What happens to the client one after another. -/
inductive ConsumerTaskLabel where
  /-- Another task submits a packet. -/
  | submit (packet : Option Bytes)
  /-- The consumer task runs through its loop once. -/
  | turn (turn : ConsumerTurn)
  /-- The product aborts the session. -/
  | abort (hal : OtaHal)
  /-- The product changes the configuration store. -/
  | store (store : FhssConfigStore)

/-- The client under its consumer task and the product. -/
def consumerTaskStep (state : OtaConsumerState) :
    ConsumerTaskLabel → OtaConsumerState × List OtaSend
  | .submit packet =>
      ({ state with context := (otaClientSubmitPacket state.context packet).2 }, [])
  | .turn turn =>
      let outcome := otaConsumerTaskTurn protocol sha256 timeoutTicks state turn
      (outcome.state, outcome.sends)
  | .abort hal => ({ state with context := (otaClientAbort state.context hal).context }, [])
  | .store store => ({ state with store := store }, [])

/-! ## Recovery -/

/-- The device holds a chunk it did not hold before. -/
def StoresChunk (context context' : OtaClientContext) : Prop :=
  ∃ n, ¬ context.Holds n ∧ context'.Holds n

/-- The NACKs among the packets sent that report a time-out. -/
def timeoutNacks (sends : List OtaSend) : List OtaAckFields :=
  sends.filterMap fun send =>
    match send with
    | .response .nack fields _ => if fields.resultCode = .timeout then some fields else none
    | _ => none

/-- The NACK that asks for chunk `base_sequence + i` of the open batch. -/
def OtaClientContext.missingNack (context : OtaClientContext) (i : ℕ) : OtaAckFields :=
  ⟨context.sessionId, .data, context.batchCache.baseSequence + UInt32.ofNat i, .timeout⟩

/-- The NACKs ask for exactly the chunks the open batch misses, for each of them once. -/
structure AsksForMissing (context : OtaClientContext) (nacks : List OtaAckFields) : Prop where
  nodup : nacks.Nodup
  mem_iff : ∀ fields, fields ∈ nacks ↔ ∃ i < context.batchCache.chunkCount.val,
    ¬ context.batchCache.Received i ∧ fields = context.missingNack i

/-- An iteration recovers: it stores a new chunk or asks for the missing ones. -/
structure RecoversLoss (context : OtaClientContext) (outcome : OtaConsumerOutcome) : Prop where
  progress : StoresChunk context outcome.state.context ∨ timeoutNacks outcome.sends ≠ []
  exact : timeoutNacks outcome.sends ≠ [] → AsksForMissing context (timeoutNacks outcome.sends)

/-- A DATA packet of the open session that brings a chunk the open batch misses. -/
def CarriesNewChunk (context : OtaClientContext) (packet : Bytes) : Prop :=
  protocol.peekType packet = some .data ∧
    ∃ header payload, otaConsumerDecodeData protocol packet = some (header, payload) ∧
      ChunkAdmissible context header.sessionId header.sequence payload ∧
      ∃ i < context.batchCache.chunkCount.val, ¬ context.batchCache.Received i ∧
        header.sequence.toNat = context.batchCache.baseSequence.toNat + i

/-- The packet an iteration takes brings a missing chunk; without a packet, the time-out has
passed. -/
def RecoveryDue (context : OtaClientContext) (turn : ConsumerTurn) : Prop :=
  match turn.takenPacket timeoutTicks context with
  | some packet => CarriesNewChunk protocol context packet
  | none => timeoutTicks ≤ turn.checkTick - context.lastPacketTick

end Task

/-! ## Which packets store a chunk -/

section Store

variable {context : OtaClientContext}

lemma not_storesChunk_self (context : OtaClientContext) : ¬ StoresChunk context context :=
  fun ⟨_, hnot, hholds⟩ => hnot hholds

lemma not_storesChunk_queue (context : OtaClientContext) (queue : Option (List Bytes)) :
    ¬ StoresChunk context { context with rxQueue := queue } :=
  fun ⟨_, hnot, hholds⟩ => hnot hholds

/-- An admissible chunk of an empty slot of the batch is not refused. -/
lemma otaClientWriteChunk_ne_refused (h : SessionInv context) {sessionId sequence : UInt32}
    {payload : Bytes} (hadm : ChunkAdmissible context sessionId sequence payload) {i : ℕ}
    (hi : i < context.batchCache.chunkCount.val) (hempty : ¬ context.batchCache.Received i)
    (hseq : sequence.toNat = context.batchCache.baseSequence.toNat + i) (hal : OtaHal)
    (now : UInt32) {err : EspErr} (herr : err ≠ .ok) :
    otaClientWriteChunk context sessionId sequence (some payload) hal now ≠
      ⟨err, context, [], []⟩ := by
  have hstore := otaBatchCacheStore_err_of_mem hadm.nonempty hadm.fits
    (Nat.le.intro hseq.symm) (by omega)
  have hrange : ¬ context.totalChunks ≤ sequence := by
    rw [UInt32.le_iff_toNat_le]
    exact Nat.not_le.mpr hadm.inRange
  have hexpected : ¬ sequence < context.expectedSequence := by
    rw [UInt32.lt_iff_toNat_lt, ← h.base_eq]
    omega
  have hsize : ¬ (payload.length = 0 ∨ otaClientDataMaxPayloadSize < payload.length) := by
    have := hadm.nonempty
    have := hadm.fits
    omega
  unfold otaClientWriteChunk
  dsimp only
  rw [if_neg hsize, if_neg (not_ne_iff.mpr hadm.receiving), if_neg (not_ne_iff.mpr hadm.session),
    if_neg hrange, if_neg (not_ne_iff.mpr hadm.size), if_neg hexpected]
  obtain ⟨err', herr', heq⟩ | ⟨-, -, hrec, -⟩ | ⟨index, hindex, hlt, -, -, -, heq⟩ :=
    otaBatchCacheStore_cases context.batchCache sequence payload
  · rw [heq] at hstore
    exact absurd hstore herr'
  · rw [hseq, Nat.add_sub_cancel_left] at hrec
    exact absurd hrec hempty
  · rw [heq, if_neg (not_ne_iff.mpr rfl), if_neg Bool.false_ne_true]
    change (if otaBatchCacheIsComplete (context.storeChunk index payload now).batchCache = false
      then ⟨.ok, context.storeChunk index payload now, [], []⟩
      else otaClientCommitBatch (context.storeChunk index payload now) hal) ≠ _
    intro hrefused
    have hcounters := h.toSessionCounters.storeChunk hadm hindex hlt now
    by_cases hcomplete : otaBatchCacheIsComplete
        (context.storeChunk index payload now).batchCache = false
    · rw [if_pos hcomplete] at hrefused
      exact herr (congrArg OtaClientOutcome.err hrefused).symm
    · rw [if_neg hcomplete] at hrefused
      obtain ⟨-, events, hcommit⟩ | ⟨-, hcommit⟩ :=
        otaClientCommitBatch_cases hcounters (Bool.eq_true_of_not_eq_false hcomplete) hal
      · have hcalls := congrArg OtaClientOutcome.calls (hcommit.symm.trans hrefused)
        cases hcalls
      · have hcalls := congrArg OtaClientOutcome.calls (hcommit.symm.trans hrefused)
        cases hcalls

/-- `ota_client_write_chunk` stores a new chunk exactly when it is given an admissible chunk of
an empty slot of the batch, whether or not the batch can then be written. -/
lemma storesChunk_writeChunk_iff (h : SessionInv context) (sessionId sequence : UInt32)
    (payload : Bytes) (hal : OtaHal) (now : UInt32) :
    StoresChunk context
        (otaClientWriteChunk context sessionId sequence (some payload) hal now).context ↔
      ChunkAdmissible context sessionId sequence payload ∧
        ∃ i < context.batchCache.chunkCount.val, ¬ context.batchCache.Received i ∧
          sequence.toNat = context.batchCache.baseSequence.toNat + i := by
  have hrefused : ∀ err, err ≠ .ok → (ChunkAdmissible context sessionId sequence payload ∧
      ∃ i < context.batchCache.chunkCount.val, ¬ context.batchCache.Received i ∧
        sequence.toNat = context.batchCache.baseSequence.toNat + i) →
      otaClientWriteChunk context sessionId sequence (some payload) hal now ≠
        ⟨err, context, [], []⟩ := by
    rintro err herr ⟨hadm, i, hi, hempty, hseq⟩
    exact otaClientWriteChunk_ne_refused h hadm hi hempty hseq hal now herr
  -- whatever becomes of the batch, the slot of the chunk was empty and is filled
  have hnew : ∀ (index : Fin otaClientBatchSize) context',
      sequence.toNat = context.expectedSequence.toNat + index.val →
      ¬ context.batchCache.Received index →
      (∀ n, (context.storeChunk index payload now).Holds n → context'.Holds n) →
      StoresChunk context context' := by
    intro index context' hseq hempty hkeeps
    refine ⟨sequence.toNat, ?_, hkeeps _ ?_⟩
    · rintro (hlt | ⟨-, hrec⟩)
      · omega
      · rw [hseq, Nat.add_sub_cancel_left] at hrec
        exact hempty hrec
    · rw [← h.base_eq] at hseq
      exact (holds_storeChunk h.base_eq hseq now).mpr (.inr rfl)
  have heffect := writeChunkEffect h sessionId sequence (some payload) hal now
  generalize otaClientWriteChunk context sessionId sequence (some payload) hal now = outcome
    at heffect hrefused ⊢
  cases heffect with
  | refused err herr =>
    exact iff_of_false (not_storesChunk_self context) fun hcarries =>
      hrefused err herr hcarries rfl
  | held bytes hdata hadm hholds =>
    refine iff_of_false (not_storesChunk_self context) ?_
    rintro ⟨-, i, hi, hempty, hseq⟩
    rw [h.base_eq] at hseq
    rcases hholds with hlt | ⟨-, hrec⟩
    · omega
    · rw [hseq, Nat.add_sub_cancel_left] at hrec
      exact hempty hrec
  | stored bytes index hdata hadm hseq hindex hempty =>
    obtain rfl := Option.some_inj.mp hdata
    exact iff_of_true (hnew index _ hseq hempty fun n hn => hn)
      ⟨hadm, index, hindex, hempty, by rw [h.base_eq, hseq]⟩
  | committed bytes index written events hdata hadm hseq hindex hempty =>
    obtain rfl := Option.some_inj.mp hdata
    have hbase : sequence.toNat = context.batchCache.baseSequence.toNat + index.val := by
      rw [h.base_eq, hseq]
    have hcounters := h.toSessionCounters.storeChunk hadm hbase hindex now
    exact iff_of_true (hnew index _ hseq hempty fun n hn => holds_advanceBatch hcounters _ hn)
      ⟨hadm, index, hindex, hempty, hbase⟩
  | failed bytes index written hdata hadm hseq hindex hempty =>
    obtain rfl := Option.some_inj.mp hdata
    exact iff_of_true (hnew index _ hseq hempty fun n hn => hn)
      ⟨hadm, index, hindex, hempty, by rw [h.base_eq, hseq]⟩

/-- A finish, refused or not, leaves the chunks the device holds alone. -/
lemma holds_otaClientFinishSession (sha256 : Bytes → Sha256Digest)
    (sessionId imageSize totalChunks : UInt32) (hal : OtaHal) (n : ℕ) :
    (otaClientFinishSession sha256 context sessionId imageSize totalChunks hal).context.Holds n ↔
      context.Holds n := by
  unfold otaClientFinishSession
  cases otaClientFinishChecks context sessionId imageSize totalChunks with
  | some err => exact Iff.rfl
  | none =>
    dsimp only [otaClientVerifyImage]
    split_ifs <;> exact Iff.rfl

end Store

section Packet

variable (protocol : OtaProtocol) (sha256 : Bytes → Sha256Digest) {state : OtaConsumerState}

/-- A START or an END stores no chunk of the session being received. -/
lemma not_storesChunk_start (hrecv : state.context.state = .receiving) (packet : Bytes)
    (env : OtaConsumerEnv) : ¬ StoresChunk state.context
      (otaConsumerHandleStart protocol state packet env).state.context := by
  unfold otaConsumerHandleStart
  cases otaConsumerStartChecks protocol state.context packet env.otaMode with
  | inl sends => exact not_storesChunk_self _
  | inr fields =>
    obtain ⟨err, -, heq⟩ := otaClientStartSession_of_receiving hrecv fields.sessionId
      fields.imageSize fields.totalChunks (some fields.imageSha256) env.hal env.now
    dsimp only [otaConsumerOpenSession, OtaConsumerState.ran]
    rw [heq]
    exact not_storesChunk_self _

lemma not_storesChunk_end (packet : Bytes) (env : OtaConsumerEnv) :
    ¬ StoresChunk state.context
      (otaConsumerHandleEnd protocol sha256 state packet env).state.context := by
  unfold otaConsumerHandleEnd
  cases otaConsumerEndChecks protocol state.context packet with
  | inl sends => exact not_storesChunk_self _
  | inr fields =>
    rintro ⟨n, hnot, hholds⟩
    exact hnot ((holds_otaClientFinishSession sha256 _ _ _ _ n).mp hholds)

/-- A DATA packet stores a chunk exactly when it carries one the open batch misses. -/
lemma storesChunk_data_iff (hrecv : state.context.state = .receiving)
    (h : SessionInv state.context) {packet : Bytes}
    (hpeek : protocol.peekType packet = some .data) (env : OtaConsumerEnv) :
    StoresChunk state.context (otaConsumerHandleData protocol state packet env).state.context ↔
      CarriesNewChunk protocol state.context packet := by
  unfold otaConsumerHandleData CarriesNewChunk
  cases hdecode : otaConsumerDecodeData protocol packet with
  | none =>
    dsimp only
    split_ifs
    all_goals
      refine iff_of_false (not_storesChunk_self _) ?_
      rintro ⟨-, header, payload, hnone, -⟩
      cases hnone
  | some decoded =>
    obtain ⟨header, payload⟩ := decoded
    have hfields : (∃ header' payload', some (header, payload) = some (header', payload') ∧
        ChunkAdmissible state.context header'.sessionId header'.sequence payload' ∧
        ∃ i < state.context.batchCache.chunkCount.val, ¬ state.context.batchCache.Received i ∧
          header'.sequence.toNat = state.context.batchCache.baseSequence.toNat + i) ↔
        ChunkAdmissible state.context header.sessionId header.sequence payload ∧
        ∃ i < state.context.batchCache.chunkCount.val, ¬ state.context.batchCache.Received i ∧
          header.sequence.toNat = state.context.batchCache.baseSequence.toNat + i := by
      constructor
      · rintro ⟨header', payload', heq, hrest⟩
        obtain ⟨rfl, rfl⟩ := Prod.mk.inj (Option.some_inj.mp heq)
        exact hrest
      · exact fun hrest => ⟨header, payload, rfl, hrest⟩
    rw [hfields]
    dsimp only
    split_ifs with hempty hstate hsession
    · exact iff_of_false (not_storesChunk_self _) fun hcarries =>
        hcarries.2.1.nonempty.ne' hempty
    · exact absurd hrecv hstate
    · exact iff_of_false (not_storesChunk_self _) fun hcarries =>
        hsession hcarries.2.1.session
    all_goals
      refine (storesChunk_writeChunk_iff h header.sessionId header.sequence payload env.hal
        env.now).trans ?_
      exact (and_iff_right hpeek).symm

/-- Processing a packet stores a chunk exactly when the packet carries one the open batch
misses. -/
lemma storesChunk_processPacket_iff (hrecv : state.context.state = .receiving)
    (h : SessionInv state.context) (packet : Bytes) (env : OtaConsumerEnv) :
    StoresChunk state.context
        (otaConsumerProcessPacket protocol sha256 state packet env).state.context ↔
      CarriesNewChunk protocol state.context packet := by
  by_cases hpeek : protocol.peekType packet = some .data
  · unfold otaConsumerProcessPacket
    rw [hpeek]
    exact storesChunk_data_iff protocol hrecv h hpeek env
  refine iff_of_false ?_ fun hcarries => hpeek hcarries.1
  unfold otaConsumerProcessPacket
  split
  · split_ifs
    · rw [(discover_context protocol state env).1]
      exact not_storesChunk_self _
    · exact not_storesChunk_self _
  · exact not_storesChunk_start protocol hrecv packet env
  · rename_i hdata
    exact absurd hdata hpeek
  · exact not_storesChunk_end protocol sha256 packet env
  · rw [(fhssConfig_context protocol state packet env).1]
    exact not_storesChunk_self _
  · rw [(fhssActivate_context protocol state packet env).1]
    exact not_storesChunk_self _
  · exact not_storesChunk_self _

/-! ## Which NACKs report a time-out -/

/-- What a handler answers reports no time-out. -/
lemma timeoutNacks_of_answers {packetType : OtaPacketType} {sends : List OtaSend}
    (h : Answers protocol packetType sends) : timeoutNacks sends = [] := by
  cases h with
  | silent => rfl
  | response responseType sessionId sequence result hresult =>
    unfold otaConsumerSendResponse
    dsimp only
    split
    · rfl
    · cases responseType <;> simp [timeoutNacks, hresult]

/-- No packet is answered by a time-out. -/
lemma timeoutNacks_processPacket (packet : Bytes) (env : OtaConsumerEnv) :
    timeoutNacks (otaConsumerProcessPacket protocol sha256 state packet env).sends = [] := by
  unfold otaConsumerProcessPacket
  split
  · split_ifs
    · unfold otaConsumerHandleDiscover
      dsimp only
      split_ifs
      · rfl
      · rfl
      · split <;> rfl
    · rfl
  · exact timeoutNacks_of_answers protocol (answers_start protocol state packet env)
  · exact timeoutNacks_of_answers protocol (answers_data protocol state packet env)
  · exact timeoutNacks_of_answers protocol (answers_end protocol sha256 state packet env)
  · exact timeoutNacks_of_answers protocol (answers_fhssConfig protocol state packet env)
  · exact timeoutNacks_of_answers protocol (answers_fhssActivate protocol state packet env)
  · rfl

end Packet

section Timeout

variable (protocol : OtaProtocol) {state : OtaConsumerState}

/-- The bit of a chunk of the batch is set in the missing mask when the chunk is missing. -/
lemma missingMask_and_slotBit {cache : OtaBatchCache} {i : ℕ} (hi : i < cache.chunkCount.val) :
    otaBatchCacheMissingMask cache &&& BitVec.ofNat 8 (1 <<< i) ≠ 0 ↔ ¬ cache.Received i := by
  have hcount : cache.chunkCount.val < 6 := cache.chunkCount.isLt
  have height : i < 8 := by omega
  rw [ne_eq, and_slotBit_eq_zero_iff _ height]
  unfold otaBatchCacheMissingMask OtaBatchCache.Received
  rw [BitVec.getLsbD_and, getLsbD_otaBatchRequiredMask, BitVec.getLsbD_not]
  simp [hi, height]

lemma timeoutNacks_append (sends sends' : List OtaSend) :
    timeoutNacks (sends ++ sends') = timeoutNacks sends ++ timeoutNacks sends' :=
  List.filterMap_append

/-- The loop over the slots of the batch asks for each slot that is empty. -/
lemma timeoutNacks_flatMap {context : OtaClientContext}
    (hencode : ∀ fields, (protocol.encodeAck .nack fields).isSome = true) {offsets : List ℕ}
    (hrange : ∀ i ∈ offsets, i < context.batchCache.chunkCount.val) :
    timeoutNacks (offsets.flatMap fun offset =>
      if otaBatchCacheMissingMask context.batchCache &&& BitVec.ofNat 8 (1 <<< offset) ≠ 0 then
        otaConsumerSendNack protocol context.sessionId .data
          (context.batchCache.baseSequence + UInt32.ofNat offset) .timeout
      else []) =
    (offsets.filter fun i => ¬ context.batchCache.Received i).map context.missingNack := by
  induction offsets with
  | nil => rfl
  | cons i offsets ih =>
    obtain ⟨hi, hrange⟩ := List.forall_mem_cons.mp hrange
    obtain ⟨bytes, hbytes⟩ := Option.isSome_iff_exists.mp (hencode (context.missingNack i))
    have hsend : otaConsumerSendNack protocol context.sessionId .data
        (context.batchCache.baseSequence + UInt32.ofNat i) .timeout =
          [.response .nack (context.missingNack i) bytes] := by
      unfold otaConsumerSendNack otaConsumerSendResponse
      unfold OtaClientContext.missingNack at hbytes ⊢
      dsimp only
      rw [hbytes]
    rw [List.flatMap_cons, timeoutNacks_append, ih hrange]
    by_cases hreceived : context.batchCache.Received i
    · rw [if_neg (fun hbit => (missingMask_and_slotBit hi).mp hbit hreceived),
        List.filter_cons_of_neg (by simpa using hreceived)]
      rfl
    · rw [if_pos ((missingMask_and_slotBit hi).mpr hreceived), hsend,
        List.filter_cons_of_pos (by simpa using hreceived)]
      rfl

/-- When its time-out has passed, a receiving client asks for the missing chunks in order. -/
lemma timeoutNacks_handleReceiveTimeout
    (hencode : ∀ fields, (protocol.encodeAck .nack fields).isSome = true)
    (hrecv : state.context.state = .receiving) {timeoutTicks now : UInt32}
    (hdue : timeoutTicks ≤ now - state.context.lastPacketTick) :
    timeoutNacks (otaConsumerHandleReceiveTimeout protocol state timeoutTicks now).sends =
      ((List.range state.context.batchCache.chunkCount.val).filter fun i =>
        ¬ state.context.batchCache.Received i).map state.context.missingNack := by
  unfold otaConsumerHandleReceiveTimeout
  dsimp only
  rw [if_neg (not_ne_iff.mpr hrecv), if_neg (UInt32.not_lt.mpr hdue)]
  exact timeoutNacks_flatMap protocol hencode fun i hi => List.mem_range.mp hi

/-- What is asked for then is every missing chunk, once. -/
lemma asksForMissing_filter (context : OtaClientContext) :
    AsksForMissing context (((List.range context.batchCache.chunkCount.val).filter fun i =>
      ¬ context.batchCache.Received i).map context.missingNack) := by
  have hinj : ∀ i < context.batchCache.chunkCount.val, ∀ j < context.batchCache.chunkCount.val,
      context.missingNack i = context.missingNack j → i = j := by
    intro i hi j hj heq
    have hcount : context.batchCache.chunkCount.val < 6 := context.batchCache.chunkCount.isLt
    have hseq := congrArg OtaAckFields.sequence heq
    have hoffset : UInt32.ofNat i = UInt32.ofNat j := by
      simpa only [OtaClientContext.missingNack, UInt32.add_right_inj] using hseq
    have hnat := congrArg UInt32.toNat hoffset
    rw [UInt32.toNat_ofNat_of_lt' (by rw [UInt32.size]; omega),
      UInt32.toNat_ofNat_of_lt' (by rw [UInt32.size]; omega)] at hnat
    exact hnat
  constructor
  · refine List.Nodup.map_on (fun i hi j hj heq => ?_) (List.nodup_range.filter _)
    exact hinj i (List.mem_range.mp (List.mem_of_mem_filter hi)) j
      (List.mem_range.mp (List.mem_of_mem_filter hj)) heq
  · intro fields
    simp only [List.mem_map, List.mem_filter, List.mem_range, decide_eq_true_eq]
    constructor
    · rintro ⟨i, ⟨hi, hmissing⟩, rfl⟩
      exact ⟨i, hi, hmissing, rfl⟩
    · rintro ⟨i, hi, hmissing, rfl⟩
      exact ⟨i, ⟨hi, hmissing⟩, rfl⟩

/-- Before its time-out a client asks for nothing, and handling a time-out stores no chunk. -/
lemma timeoutNacks_of_not_due {timeoutTicks now : UInt32}
    (hearly : ¬ timeoutTicks ≤ now - state.context.lastPacketTick) :
    timeoutNacks (otaConsumerHandleReceiveTimeout protocol state timeoutTicks now).sends = [] := by
  unfold otaConsumerHandleReceiveTimeout
  dsimp only
  rw [if_pos (UInt32.not_le.mp hearly)]
  split_ifs <;> rfl

lemma not_storesChunk_receiveTimeout (state : OtaConsumerState) (timeoutTicks now : UInt32) :
    ¬ StoresChunk state.context
      (otaConsumerHandleReceiveTimeout protocol state timeoutTicks now).state.context := by
  unfold otaConsumerHandleReceiveTimeout
  dsimp only
  split_ifs
  · exact not_storesChunk_self _
  · exact not_storesChunk_self _
  · exact fun ⟨_, hnot, hholds⟩ => hnot hholds

end Timeout

/-! ## One iteration of the consumer task -/

section Turn

variable (protocol : OtaProtocol) (sha256 : Bytes → Sha256Digest) (timeoutTicks : UInt32)

lemma ConsumerTurn.waited_context (turn : ConsumerTurn) (context : OtaClientContext) :
    ∃ queue, turn.waited timeoutTicks context = { context with rxQueue := queue } := by
  unfold ConsumerTurn.waited
  split_ifs
  · exact ⟨context.rxQueue, rfl⟩
  · exact otaClientSubmitPacket_context context turn.arrived

/-- The state with another queue. -/
def OtaConsumerState.withQueue (state : OtaConsumerState) (queue : Option (List Bytes)) :
    OtaConsumerState :=
  { state with context := { state.context with rxQueue := queue } }

/-- An iteration processes the packet it takes, or handles the expired wait; up to then only the
queue has changed. -/
lemma otaConsumerTaskTurn_cases (state : OtaConsumerState) (turn : ConsumerTurn) :
    ∃ queue,
      (∃ packet, turn.takenPacket timeoutTicks state.context = some packet ∧
        otaConsumerTaskTurn protocol sha256 timeoutTicks state turn =
          otaConsumerProcessPacket protocol sha256 (state.withQueue queue) packet turn.env) ∨
      (turn.takenPacket timeoutTicks state.context = none ∧
        otaConsumerTaskTurn protocol sha256 timeoutTicks state turn =
          otaConsumerHandleReceiveTimeout protocol (state.withQueue queue) timeoutTicks
            turn.checkTick) := by
  obtain ⟨waited, hwaited⟩ := turn.waited_context timeoutTicks state.context
  obtain ⟨queue, hqueue⟩ :=
    otaClientReceivePacket_context (turn.waited timeoutTicks state.context)
  rw [hwaited] at hqueue
  refine ⟨queue, ?_⟩
  unfold otaConsumerTaskTurn ConsumerTurn.takenPacket OtaConsumerState.withQueue
  rw [hwaited]
  dsimp only
  rw [hqueue]
  cases (otaClientReceivePacket { state.context with rxQueue := waited }).1 with
  | ok packet => exact .inl ⟨packet, rfl, rfl⟩
  | error err => exact .inr ⟨rfl, rfl⟩

/-- The session invariant does not depend on the queue. -/
lemma sessionInv_withQueue {state : OtaConsumerState} (h : SessionInv state.context)
    (queue : Option (List Bytes)) : SessionInv (state.withQueue queue).context :=
  { h with }

/-- Nor does it depend on the queue which packet carries a new chunk. -/
lemma carriesNewChunk_withQueue_iff {state : OtaConsumerState} {queue : Option (List Bytes)}
    {packet : Bytes} : CarriesNewChunk protocol (state.withQueue queue).context packet ↔
      CarriesNewChunk protocol state.context packet := by
  have hadm : ∀ sessionId sequence payload,
      ChunkAdmissible (state.withQueue queue).context sessionId sequence payload ↔
        ChunkAdmissible state.context sessionId sequence payload :=
    fun _ _ _ => ⟨fun h => { h with }, fun h => { h with }⟩
  unfold CarriesNewChunk
  simp only [hadm]
  exact Iff.rfl

/-- In every state the client reaches, a session that is received satisfies the session
invariant. -/
lemma sessionInv_consumerTaskRun (config : OtaClientConfig) (store : FhssConfigStore)
    (labels : List ConsumerTaskLabel) :
    let state := Machine.finalState (consumerTaskStep protocol sha256 timeoutTicks)
      (consumerInit config store) labels
    state.context.state = .receiving → SessionInv state.context := by
  intro state
  suffices hstep : ∀ (state : OtaConsumerState) label,
      (state.context.state = .receiving → SessionInv state.context) →
      (consumerTaskStep protocol sha256 timeoutTicks state label).1.context.state = .receiving →
        SessionInv (consumerTaskStep protocol sha256 timeoutTicks state label).1.context from
    Machine.invariant_run (consumerTaskStep protocol sha256 timeoutTicks) hstep
      (fun h => by cases h) labels
  intro state label h hrecv
  cases label with
  | submit packet =>
    obtain ⟨queue, hqueue⟩ := otaClientSubmitPacket_context state.context packet
    unfold consumerTaskStep at hrecv ⊢
    dsimp only at hrecv ⊢
    rw [hqueue] at hrecv ⊢
    exact sessionInv_withQueue (h hrecv) queue
  | turn turn =>
    obtain ⟨queue, ⟨packet, -, hturn⟩ | ⟨-, hturn⟩⟩ :=
      otaConsumerTaskTurn_cases protocol sha256 timeoutTicks state turn
    all_goals
      have hinv : (state.withQueue queue).context.state = .receiving →
        SessionInv (state.withQueue queue).context := fun hq => sessionInv_withQueue (h hq) queue
      unfold consumerTaskStep at hrecv ⊢
      dsimp only at hrecv ⊢
      rw [hturn] at hrecv ⊢
    · exact sessionInv_consumerEffect sha256 hinv
        (consumerEffect protocol sha256 (state.withQueue queue) (.packet packet turn.env)) hrecv
    · exact sessionInv_consumerEffect sha256 hinv
        (consumerEffect protocol sha256 (state.withQueue queue)
          (.receiveTimeout timeoutTicks turn.checkTick)) hrecv
  | abort hal => exact absurd hrecv (otaClientAbort_not_receiving state.context hal)
  | store store => exact h hrecv

/-- A wait that has expired is handled after the time-out, unless the tick counter went all the
way round since the last packet. -/
lemma timeoutTicks_le_of_waited {context : OtaClientContext} (hrecv : context.state = .receiving)
    {startTick checkTick : UInt32}
    (hwait : otaConsumerReceiveWait timeoutTicks context startTick ≤ checkTick - startTick)
    (hround : (startTick - context.lastPacketTick).toNat + (checkTick - startTick).toNat < 2 ^ 32) :
    timeoutTicks ≤ checkTick - context.lastPacketTick := by
  have hsum : (checkTick - context.lastPacketTick).toNat =
      (startTick - context.lastPacketTick).toNat + (checkTick - startTick).toNat := by
    rw [UInt32.toNat_sub] at hround ⊢
    rw [UInt32.toNat_sub] at hround ⊢
    rw [UInt32.toNat_sub]
    have := context.lastPacketTick.toNat_lt
    have := startTick.toNat_lt
    have := checkTick.toNat_lt
    omega
  rw [UInt32.le_iff_toNat_le, hsum]
  unfold otaConsumerReceiveWait at hwait
  rw [if_pos hrecv] at hwait
  dsimp only at hwait
  split_ifs at hwait with helapsed
  · rw [UInt32.le_iff_toNat_le] at helapsed
    omega
  · have hle := UInt32.le_of_lt (UInt32.not_le.mp helapsed)
    rw [UInt32.le_iff_toNat_le, UInt32.toNat_sub_of_le _ _ hle] at hwait
    omega

/-- **Loss recovery.**  Whatever happened before, while a session is received and its open batch
misses a chunk, an iteration of the consumer task recovers exactly when the packet it takes from
the queue brings a missing chunk or, if it takes none, the time-out has passed by then; and it has
passed when the wait has expired.  The NACKs sent ask for exactly the missing chunks. -/
theorem recoversLoss_iff_recoveryDue
    (hencode : ∀ fields, (protocol.encodeAck .nack fields).isSome = true)
    (config : OtaClientConfig) (store : FhssConfigStore) (labels : List ConsumerTaskLabel)
    (turn : ConsumerTurn) :
    let state := Machine.finalState (consumerTaskStep protocol sha256 timeoutTicks)
      (consumerInit config store) labels
    let outcome := otaConsumerTaskTurn protocol sha256 timeoutTicks state turn
    state.context.state = .receiving →
    (∃ i < state.context.batchCache.chunkCount.val, ¬ state.context.batchCache.Received i) →
      (RecoversLoss state.context outcome ↔
        RecoveryDue protocol timeoutTicks state.context turn) ∧
      (timeoutNacks outcome.sends ≠ [] →
        AsksForMissing state.context (timeoutNacks outcome.sends)) ∧
      (turn.takenPacket timeoutTicks state.context = none →
        otaConsumerReceiveWait timeoutTicks state.context turn.startTick ≤
          turn.checkTick - turn.startTick →
        (turn.startTick - state.context.lastPacketTick).toNat +
          (turn.checkTick - turn.startTick).toNat < 2 ^ 32 →
        RecoveryDue protocol timeoutTicks state.context turn) := by
  intro state outcome hrecv ⟨missing, hlt, hmissing⟩
  have hinv : SessionInv state.context :=
    sessionInv_consumerTaskRun protocol sha256 timeoutTicks config store labels hrecv
  obtain ⟨queue, hcases⟩ := otaConsumerTaskTurn_cases protocol sha256 timeoutTicks state turn
  have hrecv' : (state.withQueue queue).context.state = .receiving := hrecv
  obtain ⟨packet, htaken, hturn⟩ | ⟨htaken, hturn⟩ := hcases
  · -- a packet was taken: no NACK reports a time-out, so only a new chunk recovers
    have hnacks : timeoutNacks outcome.sends = [] := by
      change timeoutNacks (otaConsumerTaskTurn protocol sha256 timeoutTicks state turn).sends = []
      rw [hturn]
      exact timeoutNacks_processPacket protocol sha256 packet turn.env
    have hstores : StoresChunk state.context outcome.state.context ↔
        CarriesNewChunk protocol state.context packet := by
      change StoresChunk state.context
        (otaConsumerTaskTurn protocol sha256 timeoutTicks state turn).state.context ↔ _
      rw [hturn]
      exact (storesChunk_processPacket_iff protocol sha256 hrecv'
        (sessionInv_withQueue hinv queue) packet turn.env).trans
          (carriesNewChunk_withQueue_iff protocol)
    unfold RecoveryDue
    rw [htaken]
    refine ⟨⟨fun h => hstores.mp (h.progress.resolve_right (not_not.mpr hnacks)), fun h =>
      ⟨.inl (hstores.mpr h), fun hne => absurd hnacks hne⟩⟩, fun hne => absurd hnacks hne,
      fun hnone => by cases hnone⟩
  · -- the wait expired: no chunk is stored, so only the NACKs recover
    have hstores : ¬ StoresChunk state.context outcome.state.context := by
      change ¬ StoresChunk state.context
        (otaConsumerTaskTurn protocol sha256 timeoutTicks state turn).state.context
      rw [hturn]
      exact not_storesChunk_receiveTimeout protocol (state.withQueue queue) timeoutTicks
        turn.checkTick
    have hsends : outcome.sends = (otaConsumerHandleReceiveTimeout protocol
        (state.withQueue queue) timeoutTicks turn.checkTick).sends :=
      congrArg OtaConsumerOutcome.sends hturn
    unfold RecoveryDue
    rw [htaken]
    dsimp only
    by_cases hdue : timeoutTicks ≤ turn.checkTick - state.context.lastPacketTick
    · have hasked := timeoutNacks_handleReceiveTimeout protocol hencode hrecv' hdue
      rw [← hsends] at hasked
      have hexact : AsksForMissing state.context (timeoutNacks outcome.sends) := by
        rw [hasked]
        exact asksForMissing_filter state.context
      have hne : timeoutNacks outcome.sends ≠ [] :=
        List.ne_nil_of_mem ((hexact.mem_iff _).mpr ⟨missing, hlt, hmissing, rfl⟩)
      exact ⟨iff_of_true ⟨.inr hne, fun _ => hexact⟩ hdue, fun _ => hexact, fun _ _ _ => hdue⟩
    · have hnacks : timeoutNacks outcome.sends = [] := by
        rw [hsends]
        exact timeoutNacks_of_not_due protocol hdue
      refine ⟨iff_of_false ?_ hdue, fun hne => absurd hnacks hne, fun _ hwait hround =>
        timeoutTicks_le_of_waited timeoutTicks hrecv hwait hround⟩
      rintro ⟨hstored | hne, -⟩
      · exact hstores hstored
      · exact hne hnacks

end Turn

/-- START of session 7 for device 3: an image of 49 bytes in two chunks. -/
def sampleLossStart : Bytes :=
  1 :: (u32LeBytes 7 ++ u32LeBytes 3 ++ u32LeBytes 49 ++ u32LeBytes 2 ++ List.replicate 32 0)

/-- Its second chunk, of one byte. -/
def sampleLossData : Bytes :=
  2 :: (u32LeBytes 7 ++ u32LeBytes 1 ++ [1, 0, 0, 0xAA])

/-- An iteration at tick `now`, with nothing arriving during the wait. -/
def sampleConsumerTurn (now : UInt32) : ConsumerTurn :=
  ⟨now, none, now, { sampleEnv with now := now }⟩

/-- The session is opened and its second chunk arrives, all at tick 0; the first is lost. -/
def sampleLossRun : List ConsumerTaskLabel :=
  [.submit (some sampleLossStart), .turn (sampleConsumerTurn 0), .submit (some sampleLossData),
    .turn (sampleConsumerTurn 0)]

/-- With an empty queue the first chunk is asked for at tick 60. -/
theorem recoversLoss_iff_recoveryDue_silent :
    let sha256 : Bytes → Sha256Digest := fun _ => Vector.replicate 32 0
    let state := Machine.finalState (consumerTaskStep plainProtocol sha256 50)
      (consumerInit sampleConfig ⟨none, none⟩) sampleLossRun
    RecoversLoss state.context
      (otaConsumerTaskTurn plainProtocol sha256 50 state (sampleConsumerTurn 60)) :=
  have hloss := recoversLoss_iff_recoveryDue plainProtocol (fun _ => Vector.replicate 32 0) 50
    (fun _ => rfl) sampleConfig ⟨none, none⟩ sampleLossRun (sampleConsumerTurn 60) (by decide)
    ⟨0, by decide, by decide⟩
  hloss.1.mpr (hloss.2.2 (by decide) (by decide) (by decide))

/-- With a repetition of the second chunk in the queue it is not: the iteration at tick 60, sixty
ticks after the last new chunk and ten after the time-out, only acknowledges the repetition. -/
theorem not_recoversLoss_of_duplicate :
    let sha256 : Bytes → Sha256Digest := fun _ => Vector.replicate 32 0
    let state := Machine.finalState (consumerTaskStep plainProtocol sha256 50)
      (consumerInit sampleConfig ⟨none, none⟩)
      (sampleLossRun ++ [.submit (some sampleLossData)])
    let outcome := otaConsumerTaskTurn plainProtocol sha256 50 state (sampleConsumerTurn 60)
    state.context.state = .receiving ∧
    (∃ i < state.context.batchCache.chunkCount.val, ¬ state.context.batchCache.Received i) ∧
    state.context.lastPacketTick = 0 ∧
    outcome.sends = [.response .ack ⟨7, .data, 1, .ok⟩ (4 :: (u32LeBytes 7 ++ u32LeBytes 1))] ∧
    ¬ RecoversLoss state.context outcome := by
  intro sha256 state outcome
  have hcontext : outcome.state.context = { state.context with rxQueue := some [] } := by decide
  refine ⟨by decide, ⟨0, by decide, by decide⟩, by decide, by decide, ?_⟩
  rintro ⟨hstored | hnacks, -⟩
  · rw [hcontext] at hstored
    exact not_storesChunk_queue state.context (some []) hstored
  · exact hnacks (by decide)

end FhssOtaRadio
