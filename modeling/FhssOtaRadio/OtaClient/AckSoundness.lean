import FhssOtaRadio.Library.Machine
import FhssOtaRadio.OtaClient.Consumer
import FhssOtaRadio.OtaClient.Session

/-!
# What an acknowledgement promises

The gateway sends every chunk until it sees an ACK for it, and never again afterwards.  So an
ACK of the device has to mean that the chunk is held, and that it stays held until the session
ends; then a gateway that has seen an ACK for every chunk may send END.

A run feeds the consumer any packets, receive timeouts and aborts of the product.  The effect of
one input on the client context is one of five (`ConsumerEffect`), and each of them lets an open
session go on or closes its OTA handle.
-/

namespace FhssOtaRadio

/-- One input of the consumer task. -/
inductive ConsumerInput where
  | packet (packet : Bytes) (env : OtaConsumerEnv)
  | receiveTimeout (timeoutTicks now : UInt32)
  | abort (hal : OtaHal)

section Consumer

variable (protocol : OtaProtocol) (sha256 : Bytes → Sha256Digest)

/-- What one input does. -/
def runConsumerInput (state : OtaConsumerState) : ConsumerInput → OtaConsumerOutcome
  | .packet packet env => otaConsumerProcessPacket protocol sha256 state packet env
  | .receiveTimeout timeoutTicks now =>
      otaConsumerHandleReceiveTimeout protocol state timeoutTicks now
  | .abort hal => state.ran (otaClientAbort state.context hal) []

/-- The consumer as a machine. -/
def consumerStep (state : OtaConsumerState) (input : ConsumerInput) :
    OtaConsumerState × OtaConsumerOutcome :=
  let outcome := runConsumerInput protocol sha256 state input
  (outcome.state, outcome)

/-- The consumer after `ota_client_init`. -/
def consumerInit (config : OtaClientConfig) (store : FhssConfigStore) : OtaConsumerState where
  context := { OtaClientContext.zero with rxQueue := some [], config := config, state := .idle }
  store := store

/-- The OTA handle of the session is closed during the outcome: the session was finished or
aborted. -/
def OtaConsumerOutcome.ClosesSession (outcome : OtaConsumerOutcome) : Prop :=
  outcome.calls.any OtaCall.closesHandle = true

/-! ## The effect of one input on the client -/

/-- What one input can do to the client context. -/
inductive ConsumerEffect (context : OtaClientContext) :
    OtaClientContext → List OtaCall → Prop
  | quiet (tick : UInt32) : ConsumerEffect context { context with lastPacketTick := tick } []
  | started (fields : OtaStartFields) (hal : OtaHal) (now : UInt32) :
      ConsumerEffect context
        (otaClientStartSession context fields.sessionId fields.imageSize fields.totalChunks
          (some fields.imageSha256) hal now).context
        (otaClientStartSession context fields.sessionId fields.imageSize fields.totalChunks
          (some fields.imageSha256) hal now).calls
  | wrote (sessionId sequence : UInt32) (payload : Bytes) (hal : OtaHal) (now : UInt32) :
      ConsumerEffect context
        (otaClientWriteChunk context sessionId sequence (some payload) hal now).context
        (otaClientWriteChunk context sessionId sequence (some payload) hal now).calls
  | finished (fields : OtaEndFields) (hal : OtaHal) :
      ConsumerEffect context
        (otaClientFinishSession sha256 context fields.sessionId fields.imageSize
          fields.totalChunks hal).context
        (otaClientFinishSession sha256 context fields.sessionId fields.imageSize
          fields.totalChunks hal).calls
  | aborted (hal : OtaHal) :
      ConsumerEffect context (otaClientAbort context hal).context
        (otaClientAbort context hal).calls

lemma ConsumerEffect.refl (context : OtaClientContext) :
    ConsumerEffect sha256 context context [] :=
  .quiet context.lastPacketTick

variable (state : OtaConsumerState)

lemma consumerEffect_start (packet : Bytes) (env : OtaConsumerEnv) :
    ConsumerEffect sha256 state.context
      (otaConsumerHandleStart protocol state packet env).state.context
      (otaConsumerHandleStart protocol state packet env).calls := by
  unfold otaConsumerHandleStart
  cases otaConsumerStartChecks protocol state.context packet env.otaMode with
  | inl sends => exact ConsumerEffect.refl sha256 _
  | inr fields => exact .started fields env.hal env.now

lemma consumerEffect_data (packet : Bytes) (env : OtaConsumerEnv) :
    ConsumerEffect sha256 state.context
      (otaConsumerHandleData protocol state packet env).state.context
      (otaConsumerHandleData protocol state packet env).calls := by
  unfold otaConsumerHandleData
  cases otaConsumerDecodeData protocol packet with
  | none =>
    dsimp only
    split_ifs <;> exact ConsumerEffect.refl sha256 _
  | some decoded =>
    obtain ⟨header, payload⟩ := decoded
    dsimp only
    split_ifs
    · exact ConsumerEffect.refl sha256 _
    · exact ConsumerEffect.refl sha256 _
    · exact ConsumerEffect.refl sha256 _
    · exact .wrote header.sessionId header.sequence payload env.hal env.now
    · exact .wrote header.sessionId header.sequence payload env.hal env.now

lemma consumerEffect_end (packet : Bytes) (env : OtaConsumerEnv) :
    ConsumerEffect sha256 state.context
      (otaConsumerHandleEnd protocol sha256 state packet env).state.context
      (otaConsumerHandleEnd protocol sha256 state packet env).calls := by
  unfold otaConsumerHandleEnd
  cases otaConsumerEndChecks protocol state.context packet with
  | inl sends => exact ConsumerEffect.refl sha256 _
  | inr fields => exact .finished fields env.hal

/-- A packet that carries a hop configuration or asks to activate one leaves the client
alone. -/
lemma fhssConfig_context (packet : Bytes) (env : OtaConsumerEnv) :
    (otaConsumerHandleFhssConfig protocol state packet env).state.context = state.context ∧
      (otaConsumerHandleFhssConfig protocol state packet env).calls = [] := by
  unfold otaConsumerHandleFhssConfig
  cases protocol.decodeFhssConfig packet with
  | none => exact ⟨rfl, rfl⟩
  | some fields =>
    dsimp only
    split_ifs <;> exact ⟨rfl, rfl⟩

lemma fhssActivate_context (packet : Bytes) (env : OtaConsumerEnv) :
    (otaConsumerHandleFhssActivate protocol state packet env).state.context = state.context ∧
      (otaConsumerHandleFhssActivate protocol state packet env).calls = [] := by
  unfold otaConsumerHandleFhssActivate
  cases otaConsumerActivateChecks protocol state packet env.send env.nvs with
  | inl sends => exact ⟨rfl, rfl⟩
  | inr activation =>
    dsimp only
    split_ifs <;> exact ⟨rfl, rfl⟩

lemma discover_context (env : OtaConsumerEnv) :
    (otaConsumerHandleDiscover protocol state env).state.context = state.context ∧
      (otaConsumerHandleDiscover protocol state env).calls = [] := by
  unfold otaConsumerHandleDiscover
  split_ifs
  · exact ⟨rfl, rfl⟩
  · exact ⟨rfl, rfl⟩
  · dsimp only
    split <;> exact ⟨rfl, rfl⟩

/-- Every input has one of the five effects. -/
lemma consumerEffect (input : ConsumerInput) :
    ConsumerEffect sha256 state.context
      (runConsumerInput protocol sha256 state input).state.context
      (runConsumerInput protocol sha256 state input).calls := by
  cases input with
  | packet packet env =>
    unfold runConsumerInput otaConsumerProcessPacket
    dsimp only
    split
    · split_ifs
      · obtain ⟨hcontext, hcalls⟩ := discover_context protocol state env
        rw [hcontext, hcalls]
        exact ConsumerEffect.refl sha256 _
      · exact ConsumerEffect.refl sha256 _
    · exact consumerEffect_start protocol sha256 state packet env
    · exact consumerEffect_data protocol sha256 state packet env
    · exact consumerEffect_end protocol sha256 state packet env
    · obtain ⟨hcontext, hcalls⟩ := fhssConfig_context protocol state packet env
      rw [hcontext, hcalls]
      exact ConsumerEffect.refl sha256 _
    · obtain ⟨hcontext, hcalls⟩ := fhssActivate_context protocol state packet env
      rw [hcontext, hcalls]
      exact ConsumerEffect.refl sha256 _
    · exact ConsumerEffect.refl sha256 _
  | receiveTimeout timeoutTicks now =>
    unfold runConsumerInput otaConsumerHandleReceiveTimeout
    dsimp only
    split_ifs
    · exact ConsumerEffect.refl sha256 _
    · exact ConsumerEffect.refl sha256 _
    · exact .quiet now
  | abort hal => exact .aborted hal

/-- The session invariant does not depend on the tick of the last packet. -/
lemma sessionInv_lastPacketTick {context : OtaClientContext} (h : SessionInv context)
    (tick : UInt32) : SessionInv { context with lastPacketTick := tick } :=
  { h with }

/-- A receiving client satisfies the session invariant, whatever the input was. -/
lemma sessionInv_consumerEffect {context context' : OtaClientContext} {calls : List OtaCall}
    (h : context.state = .receiving → SessionInv context)
    (heffect : ConsumerEffect sha256 context context' calls)
    (hrecv : context'.state = .receiving) : SessionInv context' := by
  cases heffect with
  | quiet tick => exact sessionInv_lastPacketTick (h hrecv) tick
  | started fields hal now =>
    by_cases hok : (otaClientStartSession context fields.sessionId fields.imageSize
        fields.totalChunks (some fields.imageSha256) hal now).err = .ok
    · exact sessionInv_start hok
    · obtain ⟨err, -, heq⟩ | herror := otaClientStartSession_of_err hok
      · rw [heq] at hrecv ⊢
        exact h hrecv
      · rw [herror] at hrecv
        cases hrecv
  | wrote sessionId sequence payload hal now =>
    by_cases hstate : context.state = .receiving
    · exact sessionInv_writeChunk (h hstate) _ _ _ _ _ hrecv
    · obtain ⟨err, -, heq⟩ :=
        otaClientWriteChunk_of_not_receiving hstate sessionId sequence (some payload) hal now
      rw [heq] at hrecv
      exact absurd hrecv hstate
  | finished fields hal =>
    obtain ⟨err, heq⟩ := otaClientFinishSession_receiving hrecv
    rw [heq] at hrecv ⊢
    exact h hrecv
  | aborted hal => exact absurd hrecv (otaClientAbort_not_receiving context hal)

/-- An input lets an open session go on, or its OTA handle is closed. -/
lemma sessionGoesOn_consumerEffect {context context' : OtaClientContext} {calls : List OtaCall}
    (hstate : context.state = .receiving) (h : SessionInv context)
    (heffect : ConsumerEffect sha256 context context' calls) :
    SessionGoesOn context context' ∨ calls.any OtaCall.closesHandle = true := by
  cases heffect with
  | quiet tick =>
    exact .inl ⟨hstate, sessionInv_lastPacketTick h tick, ⟨rfl, rfl, rfl, rfl, rfl⟩,
      fun _ hn => hn⟩
  | started fields hal now =>
    obtain ⟨err, -, heq⟩ := otaClientStartSession_of_receiving hstate fields.sessionId
      fields.imageSize fields.totalChunks (some fields.imageSha256) hal now
    rw [heq]
    exact .inl (SessionGoesOn.refl hstate h)
  | wrote sessionId sequence payload hal now =>
    exact sessionGoesOn_writeChunk hstate h sessionId sequence (some payload) hal now
  | finished fields hal => exact sessionGoesOn_finishSession hstate h sha256 _ _ _ hal
  | aborted hal => exact .inr (closesHandle_otaClientAbort hstate h hal)

/-! ## Runs of the consumer -/

/-- In every run a receiving client satisfies the session invariant. -/
lemma sessionInv_consumerRun {state : OtaConsumerState}
    (h : state.context.state = .receiving → SessionInv state.context)
    (inputs : List ConsumerInput) :
    let final := Machine.finalState (consumerStep protocol sha256) state inputs
    final.context.state = .receiving → SessionInv final.context := by
  induction inputs generalizing state with
  | nil => exact h
  | cons input inputs ih =>
    exact ih (sessionInv_consumerEffect sha256 h (consumerEffect protocol sha256 state input))

/-- As long as its OTA handle is not closed, an open session goes on over a whole run. -/
lemma sessionGoesOn_consumerRun {state : OtaConsumerState}
    (hrecv : state.context.state = .receiving) (h : SessionInv state.context)
    {inputs : List ConsumerInput}
    (hopen : ∀ outcome ∈ Machine.outputs (consumerStep protocol sha256) state inputs,
      ¬ outcome.ClosesSession) :
    SessionGoesOn state.context
      (Machine.finalState (consumerStep protocol sha256) state inputs).context := by
  induction inputs generalizing state with
  | nil => exact SessionGoesOn.refl hrecv h
  | cons input inputs ih =>
    rw [Machine.outputs_cons, List.forall_mem_cons] at hopen
    have hstep := (sessionGoesOn_consumerEffect sha256 hrecv h
      (consumerEffect protocol sha256 state input)).resolve_right hopen.1
    exact hstep.trans (ih hstep.receiving hstep.inv hopen.2)

/-! ## Responses to a DATA packet -/

/-- The DATA decoder reads the session id and the sequence number where they lie in the packet,
or rejects it. -/
def DataFieldsInPlace : Prop :=
  ∀ packet header payload, protocol.decodeData packet = some (header, payload) →
    header.sessionId = protocol.readU32Le packet 1 ∧ header.sequence = protocol.readU32Le packet 5

lemma mem_otaConsumerSendResponse {protocol : OtaProtocol} {send : OtaSend}
    {responseType acknowledgedType : OtaPacketType} {sessionId sequence : UInt32}
    {result : OtaResult}
    (h : send ∈ otaConsumerSendResponse protocol responseType sessionId acknowledgedType
      sequence result) :
    ∃ packet, protocol.encodeAck responseType
        ⟨sessionId, acknowledgedType, sequence, result⟩ = some packet ∧
      send = .response responseType ⟨sessionId, acknowledgedType, sequence, result⟩ packet := by
  unfold otaConsumerSendResponse at h
  dsimp only at h
  split at h
  · simp at h
  · rename_i packet hpacket
    exact ⟨packet, hpacket, List.mem_singleton.mp h⟩

lemma length_otaConsumerSendResponse (responseType : OtaPacketType) (sessionId : UInt32)
    (acknowledgedType : OtaPacketType) (sequence : UInt32) (result : OtaResult) :
    (otaConsumerSendResponse protocol responseType sessionId acknowledgedType sequence
      result).length ≤ 1 := by
  unfold otaConsumerSendResponse
  dsimp only
  split <;> simp

/-- A DATA packet is answered by one ACK or NACK at most, and by an ACK only when
`ota_client_write_chunk` returned `ESP_OK` for it in the session being received. -/
lemma otaConsumerHandleData_sends (hdata : DataFieldsInPlace protocol)
    (state : OtaConsumerState) (packet : Bytes) (env : OtaConsumerEnv) :
    (∃ result, (otaConsumerHandleData protocol state packet env).sends =
      otaConsumerSendNack protocol (protocol.readU32Le packet 1) .data (protocol.readU32Le packet 5)
        result) ∨
    (otaConsumerHandleData protocol state packet env).sends = [] ∨
    ∃ payload, state.context.state = .receiving ∧
      (otaClientWriteChunk state.context (protocol.readU32Le packet 1) (protocol.readU32Le packet 5)
        (some payload) env.hal env.now).err = .ok ∧
      (otaConsumerHandleData protocol state packet env).state.context =
        (otaClientWriteChunk state.context (protocol.readU32Le packet 1)
          (protocol.readU32Le packet 5) (some payload) env.hal env.now).context ∧
      (otaConsumerHandleData protocol state packet env).sends =
        otaConsumerSendAck protocol (protocol.readU32Le packet 1) .data
          (protocol.readU32Le packet 5) := by
  unfold otaConsumerHandleData
  cases hdecode : otaConsumerDecodeData protocol packet with
  | none =>
    dsimp only
    split_ifs
    · exact .inl ⟨_, rfl⟩
    · exact .inr (.inl rfl)
  | some decoded =>
    obtain ⟨header, payload⟩ := decoded
    have hfields : header.sessionId = protocol.readU32Le packet 1 ∧
        header.sequence = protocol.readU32Le packet 5 := by
      unfold otaConsumerDecodeData at hdecode
      cases hprotocol : protocol.decodeData packet with
      | none => simp [hprotocol] at hdecode
      | some decoded' =>
        obtain ⟨header', payload'⟩ := decoded'
        simp only [hprotocol] at hdecode
        split_ifs at hdecode
        obtain ⟨rfl, rfl⟩ := Prod.mk.inj (Option.some_inj.mp hdecode)
        exact hdata packet _ _ hprotocol
    dsimp only
    rw [hfields.1, hfields.2]
    by_cases hpayload : payload.length = 0
    · rw [if_pos hpayload]
      exact .inl ⟨_, rfl⟩
    by_cases hstate : state.context.state ≠ .receiving
    · rw [if_neg hpayload, if_pos hstate]
      exact .inl ⟨_, rfl⟩
    by_cases hsession : protocol.readU32Le packet 1 ≠ state.context.sessionId
    · rw [if_neg hpayload, if_neg hstate, if_pos hsession]
      exact .inl ⟨_, rfl⟩
    rw [if_neg hpayload, if_neg hstate, if_neg hsession]
    by_cases herr : (otaClientWriteChunk state.context (protocol.readU32Le packet 1)
        (protocol.readU32Le packet 5) (some payload) env.hal env.now).err ≠ .ok
    · rw [if_pos herr]
      exact .inl ⟨_, rfl⟩
    · rw [if_neg herr]
      exact .inr (.inr ⟨payload, not_ne_iff.mp hstate, not_ne_iff.mp herr, rfl, rfl⟩)

/-- Every response to a DATA packet is the only one, and carries its session and sequence. -/
lemma data_response (hdata : DataFieldsInPlace protocol) {state : OtaConsumerState}
    {packet : Bytes} (hpeek : protocol.peekType packet = some .data) (env : OtaConsumerEnv) :
    (otaConsumerProcessPacket protocol sha256 state packet env).sends.length ≤ 1 ∧
    ∀ send ∈ (otaConsumerProcessPacket protocol sha256 state packet env).sends,
      ∃ responseType result bytes, protocol.encodeAck responseType
          ⟨protocol.readU32Le packet 1, .data, protocol.readU32Le packet 5, result⟩ = some bytes ∧
        send = .response responseType
          ⟨protocol.readU32Le packet 1, .data, protocol.readU32Le packet 5, result⟩ bytes := by
  unfold otaConsumerProcessPacket
  rw [hpeek]
  dsimp only
  obtain ⟨result, hsends⟩ | hsends | ⟨payload, -, -, -, hsends⟩ :=
    otaConsumerHandleData_sends protocol hdata state packet env
  · rw [hsends]
    refine ⟨length_otaConsumerSendResponse protocol _ _ _ _ _, fun send hsend => ?_⟩
    obtain ⟨bytes, hbytes⟩ := mem_otaConsumerSendResponse hsend
    exact ⟨_, _, bytes, hbytes⟩
  · rw [hsends]
    exact ⟨Nat.zero_le _, by simp⟩
  · rw [hsends]
    refine ⟨length_otaConsumerSendResponse protocol _ _ _ _ _, fun send hsend => ?_⟩
    obtain ⟨bytes, hbytes⟩ := mem_otaConsumerSendResponse hsend
    exact ⟨_, _, bytes, hbytes⟩

/-- An ACK for a DATA packet is sent in a state in which its session is received and its chunk
is held. -/
lemma data_ack (hdata : DataFieldsInPlace protocol) {state : OtaConsumerState}
    (h : state.context.state = .receiving → SessionInv state.context) {packet : Bytes}
    (hpeek : protocol.peekType packet = some .data) {env : OtaConsumerEnv}
    {fields : OtaAckFields} {bytes : Bytes}
    (hack : .response .ack fields bytes ∈
      (otaConsumerProcessPacket protocol sha256 state packet env).sends) :
    state.context.state = .receiving ∧
      SessionGoesOn state.context
        (otaConsumerProcessPacket protocol sha256 state packet env).state.context ∧
      fields.sessionId = state.context.sessionId ∧
      (otaConsumerProcessPacket protocol sha256 state packet env).state.context.Holds
        fields.sequence.toNat := by
  unfold otaConsumerProcessPacket at hack ⊢
  rw [hpeek] at hack ⊢
  dsimp only at hack ⊢
  obtain ⟨result, hsends⟩ | hsends | ⟨payload, hrecv, hok, hcontext, hsends⟩ :=
    otaConsumerHandleData_sends protocol hdata state packet env
  · rw [hsends] at hack
    obtain ⟨_, -, heq⟩ := mem_otaConsumerSendResponse hack
    cases heq
  · rw [hsends] at hack
    simp at hack
  · rw [hsends] at hack
    obtain ⟨_, -, heq⟩ := mem_otaConsumerSendResponse hack
    obtain ⟨-, rfl, -⟩ := OtaSend.response.inj heq
    rw [hcontext]
    exact ⟨hrecv, holds_of_writeChunk_ok hrecv (h hrecv) hok⟩

/-- Every response among the packets sent acknowledges, or refuses, a packet of this type. -/
def AnswersOnly (packetType : OtaPacketType) (sends : List OtaSend) : Prop :=
  ∀ responseType fields bytes, .response responseType fields bytes ∈ sends →
    fields.acknowledgedType = packetType

/-- What a handler answers: nothing, or one response about its type of packet, which never
reports a timeout. -/
inductive Answers (packetType : OtaPacketType) : List OtaSend → Prop
  | silent : Answers packetType []
  | response (responseType : OtaPacketType) (sessionId sequence : UInt32) (result : OtaResult)
      (hresult : result ≠ .timeout) :
      Answers packetType (otaConsumerSendResponse protocol responseType sessionId packetType
        sequence result)

lemma Answers.only {packetType : OtaPacketType} {sends : List OtaSend}
    (h : Answers protocol packetType sends) : AnswersOnly packetType sends := by
  intro responseType' fields bytes hmem
  cases h with
  | silent => cases hmem
  | response responseType sessionId sequence result _ =>
    obtain ⟨_, -, heq⟩ := mem_otaConsumerSendResponse hmem
    obtain ⟨-, rfl, -⟩ := OtaSend.response.inj heq
    rfl

lemma answers_rejectControl (packetType : OtaPacketType) (packet : Bytes) :
    Answers protocol packetType (otaConsumerRejectControl protocol packetType packet) := by
  unfold otaConsumerRejectControl
  split_ifs
  · exact .response _ _ _ _ (by decide)
  · exact .silent

lemma otaConsumerStartResult_ne_timeout (err : EspErr) :
    otaConsumerStartResult err ≠ .timeout := by
  cases err <;> exact fun h => by cases h

lemma answers_start (state : OtaConsumerState) (packet : Bytes) (env : OtaConsumerEnv) :
    Answers protocol .start (otaConsumerHandleStart protocol state packet env).sends := by
  unfold otaConsumerHandleStart
  cases hchecks : otaConsumerStartChecks protocol state.context packet env.otaMode with
  | inl sends =>
    unfold otaConsumerStartChecks at hchecks
    cases hdecode : protocol.decodeStart packet with
    | none =>
      simp only [hdecode, Sum.inl.injEq] at hchecks
      subst hchecks
      exact answers_rejectControl protocol _ _
    | some fields =>
      simp only [hdecode] at hchecks
      split_ifs at hchecks <;> obtain rfl := Sum.inl.inj hchecks
      · exact .silent
      · exact .response _ _ _ _ (by decide)
      · exact .response _ _ _ _ (by decide)
  | inr fields =>
    dsimp only [otaConsumerOpenSession, OtaConsumerState.ran]
    split_ifs
    · exact .response _ _ _ _ (by decide)
    · exact .response _ _ _ _ (otaConsumerStartResult_ne_timeout _)

lemma otaConsumerDataResult_ne_timeout (err : EspErr) :
    otaConsumerDataResult err ≠ .timeout := by
  cases err <;> exact fun h => by cases h

lemma otaConsumerDataDecodeError_ne_timeout (packet : Bytes) :
    otaConsumerDataDecodeError protocol packet ≠ .timeout := by
  unfold otaConsumerDataDecodeError
  dsimp only
  split_ifs <;> exact fun h => by cases h

lemma answers_data (state : OtaConsumerState) (packet : Bytes) (env : OtaConsumerEnv) :
    Answers protocol .data (otaConsumerHandleData protocol state packet env).sends := by
  unfold otaConsumerHandleData
  cases otaConsumerDecodeData protocol packet with
  | none =>
    dsimp only
    split_ifs
    · exact .response _ _ _ _ (otaConsumerDataDecodeError_ne_timeout protocol packet)
    · exact .silent
  | some decoded =>
    obtain ⟨header, payload⟩ := decoded
    dsimp only
    split_ifs
    · exact .response _ _ _ _ (by decide)
    · exact .response _ _ _ _ (by decide)
    · exact .response _ _ _ _ (by decide)
    · exact .response _ _ _ _ (otaConsumerDataResult_ne_timeout _)
    · exact .response _ _ _ _ (by decide)

lemma answers_end (state : OtaConsumerState) (packet : Bytes) (env : OtaConsumerEnv) :
    Answers protocol .end (otaConsumerHandleEnd protocol sha256 state packet env).sends := by
  unfold otaConsumerHandleEnd
  cases hchecks : otaConsumerEndChecks protocol state.context packet with
  | inl sends =>
    unfold otaConsumerEndChecks at hchecks
    cases hdecode : protocol.decodeEnd packet with
    | none =>
      simp only [hdecode, Sum.inl.injEq] at hchecks
      subst hchecks
      exact answers_rejectControl protocol _ _
    | some fields =>
      simp only [hdecode] at hchecks
      split_ifs at hchecks <;> obtain rfl := Sum.inl.inj hchecks
      · exact .response _ _ _ _ (by decide)
      · exact .response _ _ _ _ (by decide)
      · exact .response _ _ _ _ (by decide)
  | inr fields =>
    dsimp only [OtaConsumerState.ran, otaConsumerEndReply]
    split_ifs
    · exact .response _ _ _ _ (by decide)
    · exact .response _ _ _ _ (by decide)
    · exact .response _ _ _ _ (by decide)

lemma answers_fhssConfig (state : OtaConsumerState) (packet : Bytes)
    (env : OtaConsumerEnv) :
    Answers protocol .fhssConfig (otaConsumerHandleFhssConfig protocol state packet env).sends := by
  unfold otaConsumerHandleFhssConfig
  cases protocol.decodeFhssConfig packet with
  | none => exact .silent
  | some fields =>
    dsimp only
    split_ifs
    · exact .silent
    · exact .response _ _ _ _ (by decide)
    · exact .response _ _ _ _ (by decide)
    · exact .response _ _ _ _ (by decide)
    · exact .response _ _ _ _ (by decide)

lemma answers_activateChecks (state : OtaConsumerState) (packet : Bytes) (send : EspErr)
    (nvs : NvsHal) :
    Answers protocol .fhssActivate
      ((otaConsumerActivateChecks protocol state packet send nvs).elim id Prod.fst) := by
  unfold otaConsumerActivateChecks
  cases protocol.decodeFhssActivate packet with
  | none => exact .silent
  | some activate =>
    dsimp only
    by_cases htarget : otaConsumerTargetMatches protocol state.context
        activate.targetDeviceId = false
    · rw [if_pos htarget]
      exact .silent
    rw [if_neg htarget]
    cases fhssConfigStoreLoadPending protocol state.store nvs with
    | error err => exact .response _ _ _ _ (by decide)
    | ok pending =>
      dsimp only
      split_ifs
      · exact .response _ _ _ _ (by decide)
      · exact .response _ _ _ _ (by decide)
      · exact .response _ _ _ _ (by decide)

lemma answers_fhssActivate (state : OtaConsumerState) (packet : Bytes)
    (env : OtaConsumerEnv) :
    Answers protocol .fhssActivate
      (otaConsumerHandleFhssActivate protocol state packet env).sends := by
  have hanswers := answers_activateChecks protocol state packet env.send env.nvs
  unfold otaConsumerHandleFhssActivate
  cases hchecks : otaConsumerActivateChecks protocol state packet env.send env.nvs with
  | inl sends =>
    rw [hchecks] at hanswers
    exact hanswers
  | inr activation =>
    rw [hchecks] at hanswers
    dsimp only
    split_ifs <;> exact hanswers

/-- Only a DATA packet is answered by an ACK that acknowledges DATA. -/
lemma peekType_of_data_ack {state : OtaConsumerState} {input : ConsumerInput}
    {fields : OtaAckFields} {bytes : Bytes} (htype : fields.acknowledgedType = .data)
    (hack : .response .ack fields bytes ∈
      (runConsumerInput protocol sha256 state input).sends) :
    ∃ packet env, input = .packet packet env ∧ protocol.peekType packet = some .data := by
  have hother : ∀ {packetType : OtaPacketType} {sends : List OtaSend},
      AnswersOnly packetType sends → packetType ≠ .data →
        .response .ack fields bytes ∉ sends := by
    intro packetType sends hanswers hne hmem
    exact hne ((hanswers _ _ _ hmem).symm.trans htype)
  cases input with
  | packet packet env =>
    refine ⟨packet, env, rfl, ?_⟩
    unfold runConsumerInput otaConsumerProcessPacket at hack
    dsimp only at hack
    split at hack
    · split_ifs at hack
      · unfold otaConsumerHandleDiscover at hack
        split_ifs at hack
        · cases hack
        · cases hack
        · dsimp only at hack
          split at hack <;> simp [OtaConsumerState.reply] at hack
      · cases hack
    · exact absurd hack (hother (answers_start protocol state packet env).only (by simp))
    · assumption
    · exact absurd hack (hother (answers_end protocol sha256 state packet env).only (by simp))
    · exact absurd hack (hother (answers_fhssConfig protocol state packet env).only (by simp))
    · exact absurd hack (hother (answers_fhssActivate protocol state packet env).only (by simp))
    · cases hack
  | receiveTimeout timeoutTicks now =>
    exfalso
    unfold runConsumerInput otaConsumerHandleReceiveTimeout at hack
    dsimp only at hack
    split_ifs at hack
    · cases hack
    · cases hack
    · obtain ⟨offset, -, hmem⟩ := List.mem_flatMap.mp hack
      split_ifs at hmem
      · obtain ⟨_, -, heq⟩ := mem_otaConsumerSendResponse hmem
        cases heq
      · cases hmem
  | abort hal => cases hack

/-- An ACK for chunk `seq` is among the outcomes. -/
def Acked (outcomes : List OtaConsumerOutcome) (seq : ℕ) : Prop :=
  ∃ outcome ∈ outcomes, ∃ fields bytes, .response .ack fields bytes ∈ outcome.sends ∧
    fields.acknowledgedType = .data ∧ fields.sequence.toNat = seq

/-- A chunk acknowledged during an open session is held at its end. -/
lemma holds_of_acked (hdata : DataFieldsInPlace protocol) {state : OtaConsumerState}
    (hrecv : state.context.state = .receiving) (h : SessionInv state.context)
    {inputs : List ConsumerInput}
    (hopen : ∀ outcome ∈ Machine.outputs (consumerStep protocol sha256) state inputs,
      ¬ outcome.ClosesSession) {seq : ℕ}
    (hacked : Acked (Machine.outputs (consumerStep protocol sha256) state inputs) seq) :
    (Machine.finalState (consumerStep protocol sha256) state inputs).context.Holds seq := by
  induction inputs generalizing state with
  | nil =>
    obtain ⟨_, hmem, -⟩ := hacked
    cases hmem
  | cons input inputs ih =>
    rw [Machine.outputs_cons, List.forall_mem_cons] at hopen
    have hstep := (sessionGoesOn_consumerEffect sha256 hrecv h
      (consumerEffect protocol sha256 state input)).resolve_right hopen.1
    obtain ⟨outcome, hmem, fields, bytes, hack, htype, hseq⟩ := hacked
    rw [Machine.outputs_cons] at hmem
    rcases List.mem_cons.mp hmem with rfl | hmem
    · obtain ⟨packet, env, rfl, hpeek⟩ := peekType_of_data_ack protocol sha256 htype hack
      obtain ⟨-, -, -, hholds⟩ := data_ack protocol sha256 hdata (fun _ => h) hpeek hack
      rw [hseq] at hholds
      exact (sessionGoesOn_consumerRun protocol sha256 hstep.receiving hstep.inv hopen.2).holds
        seq hholds
    · exact ih hstep.receiving hstep.inv hopen.2 ⟨outcome, hmem, fields, bytes, hack, htype, hseq⟩

/-- Soundness of acknowledgements.  In every state a run of the consumer reaches, a DATA packet
gets at most one response, with its own session and sequence; an ACK means that its session is
being received and its chunk is held, and this stays so until the session's OTA handle is
closed.  And if every chunk of a session is acknowledged while the handle stays open, an END with
the session's id, size and chunk count passes all checks of `ota_client_finish_session`. -/
theorem otaConsumer_ack_sound (hdata : DataFieldsInPlace protocol) (config : OtaClientConfig)
    (store : FhssConfigStore) (inputs : List ConsumerInput) :
    let state := Machine.finalState (consumerStep protocol sha256) (consumerInit config store)
      inputs
    (∀ packet env, protocol.peekType packet = some .data →
      let outcome := otaConsumerProcessPacket protocol sha256 state packet env
      (outcome.sends.length ≤ 1 ∧ ∀ send ∈ outcome.sends, ∃ responseType result bytes,
        protocol.encodeAck responseType
          ⟨protocol.readU32Le packet 1, .data, protocol.readU32Le packet 5, result⟩ = some bytes ∧
        send = .response responseType
          ⟨protocol.readU32Le packet 1, .data, protocol.readU32Le packet 5, result⟩ bytes) ∧
      ∀ fields bytes, .response .ack fields bytes ∈ outcome.sends →
        ∀ later, (∀ next ∈ Machine.outputs (consumerStep protocol sha256) outcome.state later,
            ¬ next.ClosesSession) →
          let final := Machine.finalState (consumerStep protocol sha256) outcome.state later
          final.context.state = .receiving ∧ final.context.sessionId = fields.sessionId ∧
            final.context.Holds fields.sequence.toNat) ∧
    (state.context.state = .receiving →
      ∀ later, (∀ next ∈ Machine.outputs (consumerStep protocol sha256) state later,
          ¬ next.ClosesSession) →
        (∀ seq < state.context.totalChunks.toNat,
          Acked (Machine.outputs (consumerStep protocol sha256) state later) seq) →
        let final := Machine.finalState (consumerStep protocol sha256) state later
        otaClientFinishChecks final.context state.context.sessionId state.context.imageSize
          state.context.totalChunks = none) := by
  intro state
  have hinit : (consumerInit config store).context.state = .receiving →
      SessionInv (consumerInit config store).context := fun h => by cases h
  have hinv : state.context.state = .receiving → SessionInv state.context :=
    sessionInv_consumerRun protocol sha256 hinit inputs
  refine ⟨fun packet env hpeek => ⟨data_response protocol sha256 hdata hpeek env, ?_⟩, ?_⟩
  · intro fields bytes hack later hopen
    obtain ⟨hrecv, hgoes, hsession, hholds⟩ := data_ack protocol sha256 hdata hinv hpeek hack
    have hrun := sessionGoesOn_consumerRun protocol sha256 hgoes.receiving hgoes.inv hopen
    exact ⟨hrun.receiving, by rw [hrun.same.sessionId, hgoes.same.sessionId, hsession],
      hrun.holds _ hholds⟩
  · intro hrecv later hopen hacked
    have hrun := sessionGoesOn_consumerRun protocol sha256 hrecv (hinv hrecv) hopen
    have hall : ∀ n < (Machine.finalState (consumerStep protocol sha256) state
        later).context.totalChunks.toNat,
        (Machine.finalState (consumerStep protocol sha256) state later).context.Holds n := by
      intro n hn
      rw [hrun.same.totalChunks] at hn
      exact holds_of_acked protocol sha256 hdata hrecv (hinv hrecv) hopen (hacked n hn)
    obtain ⟨hreceived, hexpected⟩ := received_all_of_holds hrun.inv hall
    exact otaClientFinishChecks_eq_none_iff.mpr ⟨hrun.receiving, hrun.same.sessionId.symm,
      hrun.same.imageSize.symm, hrun.same.totalChunks.symm, hreceived, hexpected⟩

end Consumer

/-! ## One session over a concrete wire format -/

/-- The concrete DATA decoder reads the fields in place. -/
lemma dataFieldsInPlace_plainProtocol : DataFieldsInPlace plainProtocol := by
  intro packet header payload h
  simp only [plainProtocol] at h
  split_ifs at h
  obtain ⟨rfl, -⟩ := Prod.mk.inj (Option.some_inj.mp h)
  exact ⟨rfl, rfl⟩

/-- A client configuration with all callbacks set. -/
def sampleConfig : OtaClientConfig where
  deviceId := 3
  firmwareVersion := #v[1, 0, 0]
  receiveTimeoutMs := 500
  discoverBackoffMaxMs := 0
  sendCallback := true
  eventCallback := true
  otaModeCallback := true
  randomCallback := true
  fhssActivateCallback := true

/-- Surroundings in OTA mode in which everything succeeds. -/
def sampleEnv : OtaConsumerEnv where
  otaMode := true
  otaModeAfterBackoff := true
  send := .ok
  activate := .ok
  nvs := .succeeding
  hal := .succeeding 0x100000
  now := 0

/-- START of session 7 for device 3: an image of 2 bytes in one chunk. -/
def sampleStart : Bytes :=
  1 :: (u32LeBytes 7 ++ u32LeBytes 3 ++ u32LeBytes 2 ++ u32LeBytes 1 ++ List.replicate 32 0)

/-- The only chunk of that image. -/
def sampleData : Bytes :=
  2 :: (u32LeBytes 7 ++ u32LeBytes 0 ++ [2, 0, 0, 0xAA, 0xBB])

/-- START of session 7 with an image of 289 bytes, in seven chunks. -/
def sampleLongStart : Bytes :=
  1 :: (u32LeBytes 7 ++ u32LeBytes 3 ++ u32LeBytes 289 ++ u32LeBytes 7 ++ List.replicate 32 0)

/-- A chunk of that image, the last of which has one byte. -/
def sampleBatchChunk (seq : UInt32) : Bytes :=
  let payload : Bytes := List.replicate (if seq = 6 then 1 else 48) seq.toUInt8
  2 :: (u32LeBytes 7 ++ u32LeBytes seq ++ [UInt8.ofNat payload.length, 0, 0] ++ payload)

/-- The chunks arrive out of order, one of them twice in its batch and another one again after its
batch has been written. -/
def sampleArrivals : List ConsumerInput :=
  [1, 0, 1, 2, 4, 3, 0, 6, 5].map fun seq => .packet (sampleBatchChunk seq) sampleEnv

/-- After START every chunk of the image is acknowledged, so END would pass its checks. -/
theorem otaConsumer_ack_sound_two_batches :
    let sha256 : Bytes → Sha256Digest := fun _ => Vector.replicate 32 0
    let state := Machine.finalState (consumerStep plainProtocol sha256)
      (consumerInit sampleConfig ⟨none, none⟩) [.packet sampleLongStart sampleEnv]
    let final := Machine.finalState (consumerStep plainProtocol sha256) state sampleArrivals
    state.context.totalChunks = 7 ∧ final.context.receivedBytes = 289 ∧
      otaClientFinishChecks final.context state.context.sessionId state.context.imageSize
        state.context.totalChunks = none := by
  intro sha256 state final
  have hacked : ∀ seq < 7, ∃ outcome ∈ Machine.outputs (consumerStep plainProtocol sha256) state
      sampleArrivals, .response .ack ⟨7, .data, UInt32.ofNat seq, .ok⟩
        (4 :: (u32LeBytes 7 ++ u32LeBytes (UInt32.ofNat seq))) ∈ outcome.sends := by
    decide +kernel
  refine ⟨by decide +kernel, by decide +kernel, ?_⟩
  refine (otaConsumer_ack_sound plainProtocol sha256 dataFieldsInPlace_plainProtocol sampleConfig
    ⟨none, none⟩ [.packet sampleLongStart sampleEnv]).2 (by decide +kernel) sampleArrivals
    (by unfold OtaConsumerOutcome.ClosesSession; decide +kernel) fun seq hseq => ?_
  have hlt : seq < 7 := hseq
  obtain ⟨outcome, hmem, hack⟩ := hacked seq hlt
  refine ⟨outcome, hmem, _, _, hack, rfl, ?_⟩
  exact UInt32.toNat_ofNat_of_lt' (hlt.trans (by decide))

end FhssOtaRadio
