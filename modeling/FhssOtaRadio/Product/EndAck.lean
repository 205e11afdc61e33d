import FhssOtaRadio.AudioAdapter.AudioPacket
import FhssOtaRadio.OtaClient.AckSoundness
import FhssOtaRadio.Product.SessionRefinement

/-!
# What the ACK of an END promises

The consumer acknowledges an END when the image has been verified and set as boot partition, and
acknowledges it again when the gateway repeats it.  So every ACK of an END that is given to the send
callback is about a session for whose image `esp_ota_set_boot_partition` has succeeded.
-/

namespace FhssOtaRadio

/-- The bytes of a packet handed to the send callback. -/
def OtaSend.packet : OtaSend → Bytes
  | .response _ _ packet => packet
  | .discoverAck _ packet => packet

/-- The call has set the boot partition. -/
def OtaCall.selectsBoot : OtaCall → Bool
  | .setBootPartition _ err => err == .ok
  | _ => false

/-- The packet an effect gives to the send callback. -/
def ProductEffect.sent : ProductEffect → Option OtaSend
  | .send answer => some answer
  | _ => none

/-- `ota_protocol_decode_ack` finds the ACK of an END. -/
def acknowledgesEnd (decodeAck : Bytes → Option (OtaPacketType × OtaAckFields))
    (packet : Bytes) : Bool :=
  match decodeAck packet with
  | some (.ack, fields) => fields.acknowledgedType == .end
  | _ => false

/-- The session whose image a step of the product sets as boot partition. -/
def Product.selects (sha256 : Bytes → Sha256Digest) (product : Product) : ProductInput → List UInt32
  | .consumerTask hal =>
      match product.client.consumerTask, product.consumer with
      | true, .verifying _ =>
          if (otaClientVerifyImage sha256 product.client hal.ota).calls.any
              OtaCall.selectsBoot = true then
            [product.client.sessionId]
          else []
      | _, _ => []
  | _ => []

/-! ## What is verified -/

/-- The image is being verified, or has been. -/
def OtaClientState.isVerified : OtaClientState → Bool
  | .verifying => true
  | .readyToReboot => true
  | _ => false

/-- A verification is neither begun nor ended, nor attributed to another session. -/
def SameVerdict (context context' : OtaClientContext) : Prop :=
  context.state.isVerified = true ∨ context'.state.isVerified = true →
    context'.state = context.state ∧ context'.sessionId = context.sessionId

section Verdict

variable {context context' context'' : OtaClientContext}

lemma SameVerdict.refl (context : OtaClientContext) : SameVerdict context context :=
  fun _ => ⟨rfl, rfl⟩

lemma SameVerdict.trans (h : SameVerdict context context') (h' : SameVerdict context' context'') :
    SameVerdict context context'' := by
  intro hverified
  have hmiddle : context'.state.isVerified = true := by
    rcases hverified with hbefore | hafter
    · rw [(h (.inl hbefore)).1]
      exact hbefore
    · rw [← (h' (.inr hafter)).1]
      exact hafter
  obtain ⟨hstate, hsession⟩ := h (.inr hmiddle)
  obtain ⟨hstate', hsession'⟩ := h' (.inl hmiddle)
  exact ⟨hstate'.trans hstate, hsession'.trans hsession⟩

/-- Neither before nor afterwards anything is verified. -/
lemma SameVerdict.of_not (h : context.state.isVerified = false)
    (h' : context'.state.isVerified = false) : SameVerdict context context' := by
  rintro (hbefore | hafter)
  · exact absurd (h.symm.trans hbefore) (by decide)
  · exact absurd (h'.symm.trans hafter) (by decide)

/-- A START does not touch a verification. -/
lemma sameVerdict_otaClientStartSession (context : OtaClientContext)
    (sessionId imageSize totalChunks : UInt32) (expectedSha256 : Option Sha256Digest)
    (hal : OtaHal) (now : UInt32) :
    SameVerdict context (otaClientStartSession context sessionId imageSize totalChunks
      expectedSha256 hal now).context := by
  unfold otaClientStartSession
  cases expectedSha256 with
  | none => exact .refl context
  | some digest =>
    dsimp only
    split_ifs with hzero hsize hstate hbegin
    · exact .refl context
    · exact .refl context
    · exact .refl context
    · exact .of_not (by rw [not_ne_iff.mp hstate]; rfl) rfl
    · exact .of_not (by rw [not_ne_iff.mp hstate]; rfl) rfl

/-- Nor does a chunk. -/
lemma sameVerdict_otaClientWriteChunk (context : OtaClientContext) (sessionId sequence : UInt32)
    (data : Option Bytes) (hal : OtaHal) (now : UInt32) :
    SameVerdict context
      (otaClientWriteChunk context sessionId sequence data hal now).context := by
  have hsession := (sameSession_otaClientWriteChunk context sessionId sequence data hal
    now).sessionId
  obtain ⟨-, ⟨hstate, -⟩ | ⟨hbefore, hafter, -⟩⟩ :=
    otaClientWriteChunk_state context sessionId sequence data hal now
  · exact fun _ => ⟨hstate, hsession⟩
  · exact .of_not (by rw [hbefore]; rfl) (by rw [hafter]; rfl)

/-- An abort is refused from the verification on. -/
lemma sameVerdict_otaClientAbort (context : OtaClientContext) (hal : OtaHal) :
    SameVerdict context (otaClientAbort context hal).context := by
  unfold otaClientAbort
  by_cases h : context.state ≠ .receiving ∧ context.state ≠ .error
  · rw [if_pos h]
    exact .refl context
  · rw [if_neg h]
    refine .of_not ?_ rfl
    cases hstate : context.state <;> simp [hstate, OtaClientState.isVerified] at h ⊢

/-- The client is set up once. -/
lemma sameVerdict_initClient (protocol : OtaProtocol) (context : OtaClientContext)
    (hal : FsmTaskHal) : SameVerdict context (initClient protocol context hal).1 := by
  by_cases hstate : context.state = .uninitialized
  · refine .of_not (by rw [hstate]; rfl) ?_
    rcases initClient_cases protocol context hal with ⟨client', hinit, hidle, -⟩ |
      ⟨client', hinit, -, hsame | hzero | hidle⟩
    · rw [hinit, hidle]
      rfl
    · rw [hinit, hsame, hstate]
      rfl
    · rw [hinit, hzero]
      rfl
    · rw [hinit, hidle]
      rfl
  · have hinit : (initClient protocol context hal).1 = context := by
      unfold initClient otaClientInit
      dsimp only
      split_ifs <;> rfl
    rw [hinit]
    exact .refl context

/-- The packet queue has nothing to do with it. -/
lemma sameVerdict_otaClientSubmitPacket (context : OtaClientContext) (packet : Option Bytes) :
    SameVerdict context (otaClientSubmitPacket context packet).2 := by
  obtain ⟨queue, hqueue⟩ := otaClientSubmitPacket_context context packet
  rw [hqueue]
  exact fun _ => ⟨rfl, rfl⟩

lemma sameVerdict_otaClientReceivePacket (context : OtaClientContext) :
    SameVerdict context (otaClientReceivePacket context).2 := by
  obtain ⟨queue, hqueue⟩ := otaClientReceivePacket_context context
  rw [hqueue]
  exact fun _ => ⟨rfl, rfl⟩

/-- A verified image has been set as boot partition. -/
lemma otaClientVerifyImage_selects {sha256 : Bytes → Sha256Digest} {hal : OtaHal}
    (h : (otaClientVerifyImage sha256 context hal).err = .ok) :
    (otaClientVerifyImage sha256 context hal).calls.any OtaCall.selectsBoot = true := by
  have hcases := otaWriterFinish_cases sha256 context.writer context.expectedSha256 hal
  unfold otaClientVerifyImage at h ⊢
  dsimp only at h ⊢
  by_cases hfailed : (otaWriterFinish sha256 context.writer context.expectedSha256 hal).err ≠ .ok
  · rw [if_pos hfailed] at h
    exact absurd h hfailed
  rw [if_neg hfailed]
  rcases hcases with ⟨herr, -⟩ | ⟨partition, hashed, -, -, -, -, herr, hcalls⟩
  · exact absurd herr hfailed
  · dsimp only
    rw [hcalls, ← herr, not_ne_iff.mp hfailed]
    rfl

/-- The verification is about the session that is open. -/
lemma sessionId_otaClientVerifyImage (sha256 : Bytes → Sha256Digest) (context : OtaClientContext)
    (hal : OtaHal) :
    (otaClientVerifyImage sha256 context hal).context.sessionId = context.sessionId := by
  unfold otaClientVerifyImage
  dsimp only
  split_ifs <;> rfl

end Verdict

/-! ## Which packets are END ACKs -/

section Sends

variable (protocol : OtaProtocol) (decodeAck : Bytes → Option (OtaPacketType × OtaAckFields))

/-- `ota_protocol_decode_ack` reads what `ota_protocol_encode_ack` writes, and finds no ACK in what
`ota_protocol_encode_discover_ack` writes. -/
structure AckCodec : Prop where
  decode_encode : ∀ responseType fields packet, responseType = .ack ∨ responseType = .nack →
    protocol.encodeAck responseType fields = some packet →
    decodeAck packet = some (responseType, fields)
  decode_discover : ∀ fields packet ack, protocol.encodeDiscoverAck fields = some packet →
    decodeAck packet ≠ some (.ack, ack)

/-- If the packet is the ACK of an END, then of an END of one of the sessions. -/
def AcksSelected (selected : List UInt32) (packet : Bytes) : Prop :=
  ∀ fields, decodeAck packet = some (.ack, fields) → fields.acknowledgedType = .end →
    fields.sessionId ∈ selected

/-- All packets are so. -/
def SendsSelected (selected : List UInt32) (sends : List OtaSend) : Prop :=
  ∀ send ∈ sends, AcksSelected decodeAck selected send.packet

variable {protocol decodeAck} {selected : List UInt32}

lemma sendsSelected_nil : SendsSelected decodeAck selected [] := by
  intro send hsend
  cases hsend

/-- A response is such a packet, unless it is the ACK of an END of another session. -/
lemma sendsSelected_response (codec : AckCodec protocol decodeAck)
    {responseType acknowledgedType : OtaPacketType} {sessionId : UInt32}
    (htype : responseType = .ack ∨ responseType = .nack)
    (h : responseType = .ack → acknowledgedType = .end → sessionId ∈ selected)
    (sequence : UInt32) (result : OtaResult) :
    SendsSelected decodeAck selected
      (otaConsumerSendResponse protocol responseType sessionId acknowledgedType sequence
        result) := by
  intro send hsend fields hdecode hend
  obtain ⟨packet, hpacket, rfl⟩ := mem_otaConsumerSendResponse hsend
  have hwritten := codec.decode_encode _ _ _ htype hpacket
  obtain ⟨rfl, rfl⟩ := Prod.mk.inj (Option.some.inj (hwritten.symm.trans hdecode))
  exact h rfl hend

/-- A NACK acknowledges nothing. -/
lemma sendsSelected_nack (codec : AckCodec protocol decodeAck) (sessionId : UInt32)
    (acknowledgedType : OtaPacketType) (sequence : UInt32) (result : OtaResult) :
    SendsSelected decodeAck selected
      (otaConsumerSendNack protocol sessionId acknowledgedType sequence result) := by
  refine sendsSelected_response codec (.inr rfl) (fun hack => ?_) sequence result
  cases hack

/-- Nor does the ACK of another packet acknowledge an END. -/
lemma sendsSelected_ack (codec : AckCodec protocol decodeAck) (sessionId : UInt32)
    {acknowledgedType : OtaPacketType} (h : acknowledgedType = .end → sessionId ∈ selected)
    (sequence : UInt32) :
    SendsSelected decodeAck selected
      (otaConsumerSendAck protocol sessionId acknowledgedType sequence) :=
  sendsSelected_response codec (.inl rfl) (fun _ => h) sequence .ok

/-- The answers to a START. -/
lemma sendsSelected_startChecks (codec : AckCodec protocol decodeAck)
    {context : OtaClientContext} {packet : Bytes} {otaMode : Bool} {sends : List OtaSend}
    (h : otaConsumerStartChecks protocol context packet otaMode = .inl sends) :
    SendsSelected decodeAck selected sends := by
  unfold otaConsumerStartChecks otaConsumerRejectControl at h
  cases hdecode : protocol.decodeStart packet with
  | none =>
    rw [hdecode] at h
    obtain rfl := Sum.inl.inj h
    split_ifs
    · exact sendsSelected_nack codec _ _ _ _
    · exact sendsSelected_nil
  | some fields =>
    rw [hdecode] at h
    dsimp only at h
    split_ifs at h
    · obtain rfl := Sum.inl.inj h
      exact sendsSelected_nil
    · obtain rfl := Sum.inl.inj h
      exact sendsSelected_ack codec _ (fun hend => by cases hend) _
    · obtain rfl := Sum.inl.inj h
      exact sendsSelected_nack codec _ _ _ _

lemma sendsSelected_openSession (codec : AckCodec protocol decodeAck) (state : OtaConsumerState)
    (fields : OtaStartFields) (hal : OtaHal) (now : UInt32) :
    SendsSelected decodeAck selected
      (otaConsumerOpenSession protocol state fields hal now).sends := by
  unfold otaConsumerOpenSession OtaConsumerState.ran
  dsimp only
  split_ifs
  · exact sendsSelected_ack codec _ (fun hend => by cases hend) _
  · exact sendsSelected_nack codec _ _ _ _

/-- The answers to an END that is not to be verified: an ACK only repeats that of the session whose
image has been verified. -/
lemma sendsSelected_endChecks (codec : AckCodec protocol decodeAck)
    {context : OtaClientContext}
    (hready : context.state = .readyToReboot → context.sessionId ∈ selected) {packet : Bytes}
    {sends : List OtaSend} (h : otaConsumerEndChecks protocol context packet = .inl sends) :
    SendsSelected decodeAck selected sends := by
  unfold otaConsumerEndChecks otaConsumerRejectControl at h
  cases hdecode : protocol.decodeEnd packet with
  | none =>
    rw [hdecode] at h
    obtain rfl := Sum.inl.inj h
    split_ifs
    · exact sendsSelected_nack codec _ _ _ _
    · exact sendsSelected_nil
  | some fields =>
    rw [hdecode] at h
    dsimp only at h
    split_ifs at h with hrepeated
    · obtain rfl := Sum.inl.inj h
      exact sendsSelected_ack codec _ (fun _ => hrepeated.2.1 ▸ hready hrepeated.1) _
    · obtain rfl := Sum.inl.inj h
      exact sendsSelected_nack codec _ _ _ _
    · obtain rfl := Sum.inl.inj h
      exact sendsSelected_nack codec _ _ _ _

/-- The answer to an END that was to be verified. -/
lemma sendsSelected_endReply (codec : AckCodec protocol decodeAck) {sessionId : UInt32}
    {err : EspErr} (h : err = .ok → sessionId ∈ selected) :
    SendsSelected decodeAck selected (otaConsumerEndReply protocol sessionId err) := by
  unfold otaConsumerEndReply
  by_cases hok : err = .ok
  · rw [if_pos hok]
    exact sendsSelected_ack codec _ (fun _ => h hok) _
  · rw [if_neg hok]
    exact sendsSelected_nack codec _ _ _ _

/-- The answers to an ACTIVATE. -/
lemma sendsSelected_activateChecks (codec : AckCodec protocol decodeAck)
    (state : OtaConsumerState) (packet : Bytes) (send : EspErr) (nvs : NvsHal) :
    match otaConsumerActivateChecks protocol state packet send nvs with
    | .inl sends => SendsSelected decodeAck selected sends
    | .inr (sends, _) => SendsSelected decodeAck selected sends := by
  unfold otaConsumerActivateChecks
  cases protocol.decodeFhssActivate packet with
  | none => exact sendsSelected_nil
  | some activate =>
    dsimp only
    by_cases htarget :
        otaConsumerTargetMatches protocol state.context activate.targetDeviceId = false
    · rw [if_pos htarget]
      exact sendsSelected_nil
    rw [if_neg htarget]
    cases fhssConfigStoreLoadPending protocol state.store nvs with
    | error err => exact sendsSelected_nack codec _ _ _ _
    | ok pending =>
      have hack : SendsSelected decodeAck selected (otaConsumerSendAck protocol
          activate.sessionId .fhssActivate protocol.controlSequence) :=
        sendsSelected_ack codec _ (fun hend => by cases hend) _
      dsimp only
      by_cases hpending : pending.generation ≠ activate.generation ∨
          pending.sessionId ≠ activate.sessionId
      · rw [if_pos hpending]
        exact sendsSelected_nack codec _ _ _ _
      rw [if_neg hpending]
      by_cases hsend : otaConsumerSendErr (otaConsumerSendAck protocol activate.sessionId
          .fhssActivate protocol.controlSequence) send ≠ .ok
      · rw [if_pos hsend]
        exact hack
      · rw [if_neg hsend]
        exact hack

/-- The answers to the other packets. -/
lemma sendsSelected_processPacket (codec : AckCodec protocol decodeAck)
    (sha256 : Bytes → Sha256Digest) (state : OtaConsumerState) (packet : Bytes)
    (env : OtaConsumerEnv) (hstart : protocol.peekType packet ≠ some .start)
    (hend : protocol.peekType packet ≠ some .end)
    (hactivate : protocol.peekType packet ≠ some .fhssActivate) :
    SendsSelected decodeAck selected
      (otaConsumerProcessPacket protocol sha256 state packet env).sends := by
  unfold otaConsumerProcessPacket
  split
  · split_ifs
    · unfold otaConsumerHandleDiscover
      dsimp only
      split_ifs
      · exact sendsSelected_nil
      · exact sendsSelected_nil
      · split
        · exact sendsSelected_nil
        · rename_i answer hanswer
          intro send hsend fields hdecode
          obtain rfl := List.mem_singleton.mp hsend
          exact absurd hdecode (codec.decode_discover _ _ _ hanswer)
    · exact sendsSelected_nil
  · contradiction
  · unfold otaConsumerHandleData
    cases otaConsumerDecodeData protocol packet with
    | none =>
      dsimp only
      split_ifs
      · exact sendsSelected_nack codec _ _ _ _
      · exact sendsSelected_nil
    | some decoded =>
      dsimp only
      split_ifs
      · exact sendsSelected_nack codec _ _ _ _
      · exact sendsSelected_nack codec _ _ _ _
      · exact sendsSelected_nack codec _ _ _ _
      · exact sendsSelected_nack codec _ _ _ _
      · exact sendsSelected_ack codec _ (fun hend => by cases hend) _
  · contradiction
  · unfold otaConsumerHandleFhssConfig
    cases protocol.decodeFhssConfig packet with
    | none => exact sendsSelected_nil
    | some fields =>
      have hack : SendsSelected decodeAck selected (otaConsumerSendAck protocol
          fields.sessionId .fhssConfig protocol.controlSequence) :=
        sendsSelected_ack codec _ (fun hend => by cases hend) _
      dsimp only
      split_ifs
      · exact sendsSelected_nil
      · exact sendsSelected_nack codec _ _ _ _
      · exact sendsSelected_nack codec _ _ _ _
      · exact hack
      · exact hack
  · contradiction
  · exact sendsSelected_nil

/-- A receive timeout asks for chunks only. -/
lemma sendsSelected_receiveTimeout (codec : AckCodec protocol decodeAck)
    (state : OtaConsumerState) (timeoutTicks now : UInt32) :
    SendsSelected decodeAck selected
      (otaConsumerHandleReceiveTimeout protocol state timeoutTicks now).sends := by
  unfold otaConsumerHandleReceiveTimeout
  dsimp only
  split_ifs
  · exact sendsSelected_nil
  · exact sendsSelected_nil
  · intro send hsend
    obtain ⟨offset, -, hmem⟩ := List.mem_flatMap.mp hsend
    split_ifs at hmem
    · exact sendsSelected_nack codec _ _ _ _ send hmem
    · cases hmem

/-! ## Steps of the product -/

/-- A step has nothing to do with an END. -/
structure LeavesEnd (product product' : Product) : Prop where
  verdict : SameVerdict product.client product'.client
  verifying : ∀ fields, product'.consumer = .verifying fields →
    product.consumer = .verifying fields

/-- The verification under way is that of the END the consumer handles, and a verified image is that
of one of the sessions. -/
structure EndInv (selected : List UInt32) (product : Product) : Prop where
  verifying : ∀ fields, product.consumer = .verifying fields →
    product.client.state = .verifying ∧ product.client.sessionId = fields.sessionId
  ready : product.client.state = .readyToReboot → product.client.sessionId ∈ selected

/-- After a step the invariant holds, and no ACK of an END of another session is sent. -/
structure EndsWell (decodeAck : Bytes → Option (OtaPacketType × OtaAckFields))
    (selected : List UInt32) (result : Product × List ProductEffect) : Prop where
  inv : EndInv selected result.1
  sends : SendsSelected decodeAck selected (result.2.filterMap ProductEffect.sent)

section Product

variable {product product' product'' : Product} {selected : List UInt32}

lemma LeavesEnd.refl (product : Product) : LeavesEnd product product :=
  ⟨.refl _, fun _ hfields => hfields⟩

lemma LeavesEnd.trans (h : LeavesEnd product product') (h' : LeavesEnd product' product'') :
    LeavesEnd product product'' :=
  ⟨h.verdict.trans h'.verdict,
    fun fields hfields => h.verifying fields (h'.verifying fields hfields)⟩

/-- The client and the consumer stay as they are. -/
lemma LeavesEnd.of_eq (hclient : product'.client = product.client)
    (hconsumer : product'.consumer = product.consumer) : LeavesEnd product product' :=
  ⟨hclient ▸ .refl _, fun _ hfields => hconsumer.symm.trans hfields⟩

lemma EndInv.mono {selected' : List UInt32} (h : EndInv selected product)
    (hsub : ∀ sessionId ∈ selected, sessionId ∈ selected') : EndInv selected' product :=
  ⟨h.verifying, fun hready => hsub _ (h.ready hready)⟩

/-- Such a step keeps the invariant. -/
lemma EndInv.of_leaves (h : EndInv selected product) (hleaves : LeavesEnd product product') :
    EndInv selected product' := by
  constructor
  · intro fields hfields
    obtain ⟨hstate, hsession⟩ := h.verifying fields (hleaves.verifying fields hfields)
    obtain ⟨hstate', hsession'⟩ := hleaves.verdict (.inl (by rw [hstate]; rfl))
    exact ⟨hstate'.trans hstate, hsession'.trans hsession⟩
  · intro hready
    obtain ⟨hstate, hsession⟩ := hleaves.verdict (.inr (by rw [hready]; rfl))
    rw [hsession]
    exact h.ready (hstate.symm.trans hready)

/-- The event callback does not touch the client, and does not make the consumer verify. -/
lemma leavesEnd_clientEvents (product : Product) (events : List OtaClientEventCall) :
    LeavesEnd product (product.clientEvents events).1 := by
  unfold Product.clientEvents
  dsimp only
  induction events generalizing product with
  | nil => exact .refl product
  | cons call events ih =>
    refine LeavesEnd.trans ⟨?_, fun fields hfields => ?_⟩ (ih (product.clientEvent call.event))
    · rw [client_clientEvent]
      exact .refl _
    · revert hfields
      unfold Product.clientEvent
      cases fsmOtaEventCallback product.fsm call.event with
      | nothing => exact id
      | post event => exact id
      | showFailure =>
        intro hfields
        cases hfields

/-- It sends nothing. -/
lemma sent_clientEvents (product : Product) (events : List OtaClientEventCall) :
    (product.clientEvents events).2.filterMap ProductEffect.sent = [] := by
  unfold Product.clientEvents
  dsimp only
  rw [List.filterMap_map]
  exact List.filterMap_eq_nil_iff.mpr fun _ _ => rfl

/-- What is sent is sent. -/
lemma sent_sends (sends : List OtaSend) :
    (sends.map ProductEffect.send).filterMap ProductEffect.sent = sends := by
  rw [List.filterMap_map]
  exact List.filterMap_some

/-- The consumer only answers. -/
lemma endsWell_answer (h : EndInv selected product) {sends : List OtaSend}
    (hsends : SendsSelected decodeAck selected sends) :
    EndsWell decodeAck selected (product.answer sends) := by
  refine ⟨h, ?_⟩
  unfold Product.answer
  rw [sent_sends]
  exact hsends

/-- Events of the client, and answers. -/
lemma endsWell_clientEvents (h : EndInv selected product) (events : List OtaClientEventCall)
    {sends : List OtaSend} (hsends : SendsSelected decodeAck selected sends) :
    EndsWell decodeAck selected
      ((product.clientEvents events).1, (product.clientEvents events).2 ++ sends.map .send) := by
  refine ⟨h.of_leaves (leavesEnd_clientEvents product events), ?_⟩
  rw [List.filterMap_append, sent_clientEvents, sent_sends]
  exact hsends

/-- A handler that leaves the verification alone. -/
lemma endsWell_handled (h : EndInv selected product) {outcome : OtaConsumerOutcome}
    (hverdict : SameVerdict product.client outcome.state.context)
    (hsends : SendsSelected decodeAck selected outcome.sends) :
    EndsWell decodeAck selected (product.handled outcome) := by
  have hran : EndInv selected { product with
      client := outcome.state.context, store := outcome.state.store } :=
    h.of_leaves ⟨hverdict, fun _ hfields => hfields⟩
  exact endsWell_clientEvents hran outcome.events hsends

/-- The end of an activation. -/
lemma endsWell_activationDone (h : EndInv selected product) (pending : OtaFhssConfigFields)
    (err : EspErr) : EndsWell decodeAck selected (product.activationDone pending err) := by
  unfold Product.activationDone
  by_cases hok : err = .ok
  · rw [if_pos hok]
    exact ⟨h, sendsSelected_nil⟩
  · rw [if_neg hok]
    refine ⟨h.of_leaves (leavesEnd_clientEvents product _), ?_⟩
    change SendsSelected decodeAck selected
      ((product.clientEvents _).2.filterMap ProductEffect.sent)
    rw [sent_clientEvents]
    exact sendsSelected_nil

/-- The consumer goes on to a phase in which it does not verify. -/
lemma EndInv.moved (h : EndInv selected product) {phase : ConsumerPhase}
    (hphase : ∀ fields, phase ≠ .verifying fields) :
    EndInv selected { product with consumer := phase } :=
  ⟨fun fields hfields => absurd hfields (hphase fields), h.ready⟩

/-- The handlers of the other packets leave the verification alone. -/
lemma sameVerdict_processPacket (sha256 : Bytes → Sha256Digest) (state : OtaConsumerState)
    (packet : Bytes) (env : OtaConsumerEnv) (hstart : protocol.peekType packet ≠ some .start)
    (hend : protocol.peekType packet ≠ some .end)
    (hactivate : protocol.peekType packet ≠ some .fhssActivate) :
    SameVerdict state.context
      (otaConsumerProcessPacket protocol sha256 state packet env).state.context := by
  unfold otaConsumerProcessPacket
  split
  · split_ifs
    · rw [(discover_context protocol state env).1]
      exact .refl _
    · exact .refl _
  · contradiction
  · unfold otaConsumerHandleData
    cases otaConsumerDecodeData protocol packet with
    | none =>
      dsimp only
      split_ifs <;> exact .refl _
    | some decoded =>
      dsimp only
      split_ifs
      · exact .refl _
      · exact .refl _
      · exact .refl _
      · exact sameVerdict_otaClientWriteChunk _ _ _ _ _ _
      · exact sameVerdict_otaClientWriteChunk _ _ _ _ _ _
  · contradiction
  · rw [(fhssConfig_context protocol state packet env).1]
    exact .refl _
  · contradiction
  · exact .refl _

/-- A packet. -/
lemma endsWell_processPacket (codec : AckCodec protocol decodeAck)
    (sha256 : Bytes → Sha256Digest) (h : EndInv selected product) (packet : Bytes)
    (hal : ConsumerTaskHal) :
    EndsWell decodeAck selected (product.processPacket protocol sha256 packet hal) := by
  unfold Product.processPacket
  dsimp only
  split
  · cases hchecks : otaConsumerStartChecks protocol product.client packet
        (hal.env product).otaMode with
    | inl sends => exact endsWell_answer h (sendsSelected_startChecks codec hchecks)
    | inr fields => exact ⟨h.moved (by simp), sendsSelected_nil⟩
  · cases hchecks : otaConsumerEndChecks protocol product.client packet with
    | inl sends => exact endsWell_answer h (sendsSelected_endChecks codec h.ready hchecks)
    | inr fields =>
      dsimp only
      cases hfinish : otaClientFinishChecks product.client fields.sessionId fields.imageSize
          fields.totalChunks with
      | some err =>
        refine endsWell_answer h (sendsSelected_endReply codec fun hok => ?_)
        rw [hok] at hfinish
        unfold otaClientFinishChecks at hfinish
        split_ifs at hfinish <;> cases hfinish
      | none =>
        -- The verification that begins is that of this END.
        have hsession := (otaClientFinishChecks_eq_none_iff.mp hfinish).2.1
        have hbegun : EndInv selected { product with
            client := product.client.applying, consumer := .verifying fields } := by
          constructor
          · intro fields' hfields
            obtain rfl := ConsumerPhase.verifying.inj hfields
            exact ⟨rfl, hsession.symm⟩
          · intro hready
            cases hready
        refine ⟨hbegun.of_leaves (leavesEnd_clientEvents _ _), ?_⟩
        rw [sent_clientEvents]
        exact sendsSelected_nil
  · have hsends := @sendsSelected_activateChecks _ _ selected codec
      ⟨product.client, product.store⟩ packet hal.send hal.nvs
    cases hchecks : otaConsumerActivateChecks protocol ⟨product.client, product.store⟩ packet
        hal.send hal.nvs with
    | inl sends =>
      rw [hchecks] at hsends
      exact endsWell_answer h hsends
    | inr activation =>
      obtain ⟨sends, pending⟩ := activation
      rw [hchecks] at hsends
      exact endsWell_clientEvents (h.moved (by simp)) _ hsends
  · rename_i hstart hend hactivate
    exact endsWell_handled h
      (sameVerdict_processPacket sha256 ⟨product.client, product.store⟩ packet _ hstart hend
        hactivate)
      (sendsSelected_processPacket codec sha256 _ packet _ hstart hend hactivate)

/-- A step of the consumer. -/
lemma endsWell_consumerTask (codec : AckCodec protocol decodeAck)
    (sha256 : Bytes → Sha256Digest) (deriveSessionHopSeed : UInt32 → UInt32)
    (h : EndInv selected product) (hal : ConsumerTaskHal) :
    EndsWell decodeAck (selected ++ product.selects sha256 (.consumerTask hal))
      (product.consumerTask protocol sha256 deriveSessionHopSeed hal) := by
  have hmono : EndInv (selected ++ product.selects sha256 (.consumerTask hal)) product :=
    h.mono fun _ => List.mem_append_left _
  unfold Product.consumerTask
  by_cases htask : product.client.consumerTask = false
  · rw [if_pos htask]
    exact ⟨hmono, sendsSelected_nil⟩
  rw [if_neg htask]
  cases hconsumer : product.consumer with
  | waiting =>
    have hreceived : EndInv (selected ++ product.selects sha256 (.consumerTask hal))
        { product with
          client := (otaClientReceivePacket product.client).2, consumer := .waiting } := by
      refine hmono.of_leaves ⟨sameVerdict_otaClientReceivePacket product.client, ?_⟩
      intro fields hfields
      cases hfields
    dsimp only
    generalize otaClientReceivePacket product.client = received at hreceived ⊢
    obtain ⟨err | packet, client⟩ := received
    · refine endsWell_handled hreceived ?_ (sendsSelected_receiveTimeout codec _ _ _)
      unfold otaConsumerHandleReceiveTimeout
      dsimp only
      split_ifs
      · exact .refl _
      · exact .refl _
      · exact fun _ => ⟨rfl, rfl⟩
    · exact endsWell_processPacket codec sha256 hreceived packet hal
  | starting fields =>
    exact endsWell_handled (hmono.moved (by simp))
      (sameVerdict_otaClientStartSession _ _ _ _ _ _ _)
      (sendsSelected_openSession codec _ fields hal.ota hal.now)
  | verifying fields =>
    obtain ⟨hstate, hsession⟩ := h.verifying fields hconsumer
    have hverified := sessionId_otaClientVerifyImage sha256 product.client hal.ota
    -- A verified image is selected, and the session is that of the END.
    have hselected : (otaClientVerifyImage sha256 product.client hal.ota).err = .ok →
        product.client.sessionId ∈ selected ++ product.selects sha256 (.consumerTask hal) := by
      intro hok
      have hrunning : product.client.consumerTask = true := by simpa using htask
      refine List.mem_append_right _ ?_
      unfold Product.selects
      dsimp only
      rw [hrunning, hconsumer]
      dsimp only
      rw [if_pos (otaClientVerifyImage_selects hok)]
      exact List.mem_singleton_self _
    have hran : EndInv (selected ++ product.selects sha256 (.consumerTask hal))
        { product with
          consumer := .waiting
          client := (otaClientVerifyImage sha256 product.client hal.ota).context } := by
      refine ⟨fun fields' hfields => ?_, fun hready => ?_⟩
      · cases hfields
      · dsimp only
        rw [hverified]
        refine hselected ?_
        revert hready
        unfold otaClientVerifyImage
        dsimp only
        split_ifs
        · intro hready
          cases hready
        · exact fun _ => rfl
    exact endsWell_clientEvents hran _
      (sendsSelected_endReply codec fun hok => hsession ▸ hselected hok)
  | activating pending =>
    have hwaiting : EndInv (selected ++ product.selects sha256 (.consumerTask hal))
        { product with consumer := .waiting } := hmono.moved (by simp)
    dsimp only
    split_ifs
    · exact endsWell_activationDone hwaiting pending .fail
    · exact endsWell_activationDone hwaiting pending .invalidArg
    · exact ⟨hmono.moved (by simp), sendsSelected_nil⟩
  | enteringFhss pending =>
    dsimp only
    split_ifs
    · exact ⟨hmono, sendsSelected_nil⟩
    · generalize fhssAudioAdapterEnterOtaFhss deriveSessionHopSeed product.adapter pending
        hal.role = entered
      obtain ⟨adapter, err⟩ := entered
      have hentered : EndInv (selected ++ product.selects sha256 (.consumerTask hal))
          { product with adapter := adapter, consumer := .waiting } := by
        refine ⟨fun fields hfields => ?_, hmono.ready⟩
        cases hfields
      exact endsWell_activationDone hentered pending err
  | showingFailure =>
    refine ⟨⟨fun fields hfields => ?_, hmono.ready⟩, sendsSelected_nil⟩
    cases hfields

/-- An operation that posts `ERROR` when it fails. -/
lemma LeavesEnd.orError {answer : Product × Bool} (h : LeavesEnd product answer.1) :
    LeavesEnd product (.orError answer) := by
  obtain ⟨product', ok⟩ := answer
  cases ok <;> exact ⟨h.verdict, h.verifying⟩

/-- A change of the state leaves END alone. -/
lemma leavesEnd_transitionTo (product : Product) (next : FsmState) (hal : FsmTaskHal) :
    LeavesEnd product (product.transitionTo next hal) := by
  unfold Product.transitionTo
  split_ifs <;> exact .of_eq rfl rfl

/-- An abort of `fsm_task`. -/
lemma leavesEnd_abort (product : Product) (hal : OtaHal) :
    LeavesEnd product (product.ran (otaClientAbort product.client hal)).1 := by
  have haborted : LeavesEnd product
      { product with client := (otaClientAbort product.client hal).context } :=
    ⟨sameVerdict_otaClientAbort product.client hal, fun _ hfields => hfields⟩
  exact haborted.trans (leavesEnd_clientEvents _ _)

/-- So does every action of `fsm_task`; it sends nothing. -/
lemma leavesEnd_act (protocol : OtaProtocol) (deriveSessionHopSeed : UInt32 → UInt32)
    (product : Product) (action : FsmAction) (hal : FsmTaskHal) :
    LeavesEnd product (product.act protocol deriveSessionHopSeed action hal).1 ∧
      (product.act protocol deriveSessionHopSeed action hal).2.filterMap
        ProductEffect.sent = [] := by
  have hstays : ∀ product' : Product, product'.client = product.client →
      product'.consumer = product.consumer → LeavesEnd product product' :=
    fun _ hclient hconsumer => .of_eq hclient hconsumer
  have habort := leavesEnd_abort product hal.ota
  have hsent : (product.ran (otaClientAbort product.client hal.ota)).2.filterMap
      ProductEffect.sent = [] := sent_clientEvents _ _
  unfold Product.act
  cases action with
  | transitionTo next => exact ⟨leavesEnd_transitionTo product next hal, rfl⟩
  | abort => exact ⟨habort, hsent⟩
  | abortInterrupted =>
    dsimp only
    split_ifs
    · exact ⟨habort, hsent⟩
    · exact ⟨.refl product, rfl⟩
  | armTimer timer =>
    cases timer with
    | sync =>
      refine ⟨LeavesEnd.orError ?_, rfl⟩
      exact hstays _ rfl rfl
    | resync =>
      dsimp only
      split_ifs
      · exact ⟨hstays _ rfl rfl, rfl⟩
      · exact ⟨hstays _ rfl rfl, rfl⟩
  | stopRadioTask => exact ⟨hstays _ rfl rfl, rfl⟩
  | endOta => exact ⟨hstays _ rfl rfl, rfl⟩
  | startOtaRadio =>
    refine ⟨LeavesEnd.orError ?_, rfl⟩
    obtain ⟨adapter, radioTask, heq⟩ := startOtaRadio_eq product hal
    rw [heq]
    exact hstays _ rfl rfl
  | beginTx =>
    refine ⟨LeavesEnd.orError ?_, rfl⟩
    exact hstays _ rfl rfl
  | endTx => exact ⟨hstays _ rfl rfl, rfl⟩
  | startRxAudio =>
    refine ⟨LeavesEnd.orError ?_, rfl⟩
    exact hstays _ rfl rfl
  | bootInit =>
    dsimp only
    split_ifs
    · exact ⟨hstays _ rfl rfl, rfl⟩
    · exact ⟨hstays _ rfl rfl, rfl⟩
  | initAdapter =>
    refine ⟨LeavesEnd.orError ?_, rfl⟩
    exact hstays _ rfl rfl
  | initClient =>
    refine ⟨LeavesEnd.orError ⟨sameVerdict_initClient protocol product.client hal, ?_⟩, rfl⟩
    exact fun _ hfields => hfields

/-- A step of `fsm_task`. -/
lemma leavesEnd_fsmTask (protocol : OtaProtocol) (deriveSessionHopSeed : UInt32 → UInt32)
    (product : Product) (hal : FsmTaskHal) :
    LeavesEnd product (product.fsmTask protocol deriveSessionHopSeed hal).1 ∧
      (product.fsmTask protocol deriveSessionHopSeed hal).2.filterMap
        ProductEffect.sent = [] := by
  unfold Product.fsmTask
  cases htask : product.task with
  | cons action rest =>
    dsimp only
    split_ifs
    · exact ⟨.refl product, rfl⟩
    · have htaken : LeavesEnd product { product with task := rest } := .of_eq rfl rfl
      obtain ⟨hacted, hsent⟩ :=
        leavesEnd_act protocol deriveSessionHopSeed { product with task := rest } action hal
      exact ⟨htaken.trans hacted, hsent⟩
  | nil =>
    cases hevents : product.events with
    | nil => exact ⟨.refl product, rfl⟩
    | cons event rest =>
      have htaken : LeavesEnd product { product with events := rest } := .of_eq rfl rfl
      refine ⟨LeavesEnd.trans htaken ?_, rfl⟩
      dsimp only
      rw [← htask]
      unfold Product.react
      split
      · exact .of_eq rfl rfl
      · exact leavesEnd_transitionTo { product with events := rest } _ hal
      · exact .of_eq rfl rfl
      · exact .of_eq rfl rfl
      · exact .of_eq rfl rfl

/-- Every step of the product keeps the invariant, and sends no ACK of an END of another session. -/
lemma endsWell_productStep (codec : AckCodec protocol decodeAck) (sha256 : Bytes → Sha256Digest)
    (deriveSessionHopSeed : UInt32 → UInt32) (h : EndInv selected product)
    (input : ProductInput) :
    EndsWell decodeAck (selected ++ product.selects sha256 input)
      (productStep protocol sha256 deriveSessionHopSeed product input) := by
  have hleaves : ∀ result : Product × List ProductEffect, LeavesEnd product result.1 →
      result.2.filterMap ProductEffect.sent = [] →
      EndsWell decodeAck (selected ++ product.selects sha256 input) result := by
    intro result hresult hsent
    refine ⟨(h.of_leaves hresult).mono fun _ => List.mem_append_left _, ?_⟩
    rw [hsent]
    exact sendsSelected_nil
  have hstays : ∀ result : Product × List ProductEffect,
      result.1.client = product.client → result.1.consumer = product.consumer →
      result.2.filterMap ProductEffect.sent = [] →
      EndsWell decodeAck (selected ++ product.selects sha256 input) result :=
    fun result hclient hconsumer => hleaves result (.of_eq hclient hconsumer)
  unfold productStep
  cases input with
  | consumerTask hal => exact endsWell_consumerTask codec sha256 deriveSessionHopSeed h hal
  | fsmTask hal =>
    obtain ⟨hresult, hsent⟩ := leavesEnd_fsmTask protocol deriveSessionHopSeed product hal
    exact hleaves _ hresult hsent
  | radioPacket packet =>
    dsimp only
    split_ifs
    · refine hleaves _ ⟨sameVerdict_otaClientSubmitPacket product.client _, ?_⟩ rfl
      exact fun _ hfields => hfields
    · exact hstays _ rfl rfl rfl
  | appMain =>
    dsimp only
    split_ifs <;> exact hstays _ rfl rfl rfl
  | timerCommand =>
    dsimp only
    split <;> exact hstays _ rfl rfl rfl
  | timerExpires timer =>
    dsimp only
    split_ifs <;> exact hstays _ rfl rfl rfl
  | menuSelect selectedItem =>
    dsimp only
    split_ifs <;> exact hstays _ rfl rfl rfl
  | pttEvent pressed =>
    dsimp only
    split_ifs <;> exact hstays _ rfl rfl rfl
  | onPttEvent =>
    dsimp only
    obtain hsame | ⟨pressed, hposted⟩ := onPttEvent_cases product
    · rw [hsame]
      exact hstays _ rfl rfl rfl
    · rw [hposted]
      exact hstays _ rfl rfl rfl
  | rxFrame =>
    dsimp only
    split_ifs <;> exact hstays _ rfl rfl rfl
  | rxDone => exact hstays _ rfl rfl rfl
  | radioError =>
    dsimp only
    split_ifs <;> exact hstays _ rfl rfl rfl
  | serviceTurn turn =>
    unfold Product.serviceTurn
    dsimp only
    split_ifs <;> exact hstays _ rfl rfl rfl
  | txError taskEnds =>
    dsimp only
    split_ifs <;> exact hstays _ rfl rfl rfl
  | serviceCallback nvs =>
    unfold Product.serviceCallback
    dsimp only
    split
    · exact hstays _ rfl rfl rfl
    · split <;> exact hstays _ rfl rfl rfl
    · exact hstays _ rfl rfl rfl
    · exact hstays _ rfl rfl rfl
    · exact hstays _ rfl rfl rfl

end Product

end Sends

/-! ## ACKs on the wire -/

/-- The byte of a packet type in the concrete format. -/
def OtaPacketType.plainByte : OtaPacketType → UInt8
  | .start => 1
  | .data => 2
  | .end => 3
  | .ack => 4
  | .nack => 5
  | .discover => 6
  | .discoverAck => 7
  | .fhssConfig => 8
  | .fhssActivate => 9
  | .fhssSync => 10

/-- The result codes in the order of their bytes. -/
def plainResults : List OtaResult :=
  [.ok, .busy, .invalidSize, .invalidCrc, .invalidSession, .invalidSequence, .writeFailed,
    .verifyFailed, .timeout]

/-- The concrete format with all the fields of an ACK. -/
def ackProtocol : OtaProtocol :=
  { plainProtocol with
    encodeAck := fun responseType fields =>
      some (responseType.plainByte :: fields.acknowledgedType.plainByte ::
        UInt8.ofNat (plainResults.idxOf fields.resultCode) ::
        (u32LeBytes fields.sessionId ++ u32LeBytes fields.sequence)) }

/-- The decoder of these ACKs. -/
def plainDecodeAck : Bytes → Option (OtaPacketType × OtaAckFields)
  | responseByte :: acknowledgedByte :: resultByte :: words =>
      if responseByte ≠ 4 ∧ responseByte ≠ 5 then none
      else do
        let responseType ← plainPacketType responseByte
        let acknowledgedType ← plainPacketType acknowledgedByte
        let resultCode ← plainResults[resultByte.toNat]?
        pure (responseType,
          ⟨readU32Le words 0, acknowledgedType, readU32Le words 4, resultCode⟩)
  | _ => none

/-- A packet type is read back from its byte. -/
lemma plainPacketType_plainByte (packetType : OtaPacketType) :
    plainPacketType packetType.plainByte = some packetType := by
  cases packetType <;> rfl

/-- So is a result code. -/
lemma plainResults_idxOf (resultCode : OtaResult) :
    plainResults[(UInt8.ofNat (plainResults.idxOf resultCode)).toNat]? = some resultCode := by
  cases resultCode <;> rfl

/-- The concrete format reads ACKs back. -/
lemma ackCodec_ackProtocol : AckCodec ackProtocol plainDecodeAck := by
  constructor
  · intro responseType fields packet htype hpacket
    obtain rfl := Option.some.inj hpacket
    have hbyte : ¬ (responseType.plainByte ≠ 4 ∧ responseType.plainByte ≠ 5) := by
      rcases htype with rfl | rfl <;> decide
    have hsession : readU32Le (u32LeBytes fields.sessionId ++ u32LeBytes fields.sequence) 0 =
        fields.sessionId := u32_ofNat_bytes fields.sessionId
    have hsequence : readU32Le (u32LeBytes fields.sessionId ++ u32LeBytes fields.sequence) 4 =
        fields.sequence := u32_ofNat_bytes fields.sequence
    unfold plainDecodeAck
    dsimp only
    rw [if_neg hbyte, plainPacketType_plainByte, plainPacketType_plainByte, plainResults_idxOf,
      hsession, hsequence]
    rfl
  · intro fields packet ack hpacket hdecode
    obtain rfl := Option.some.inj hpacket
    cases hdecode

end FhssOtaRadio
