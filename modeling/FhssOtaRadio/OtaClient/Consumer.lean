import FhssOtaRadio.ConfigStore
import FhssOtaRadio.OtaClient.Client

/-!
# The OTA consumer (`ota_consumer.c`)

The consumer task takes packets from the receive queue, decodes them and drives the client and
the configuration store; what it sends back is recorded in `OtaSend`.

The handlers of START, END and FHSS_ACTIVATE first decide (`otaConsumerStartChecks`,
`otaConsumerEndChecks`, `otaConsumerActivateChecks`) and then act.  Other tasks run in between,
so the two parts are definitions of their own.
-/

namespace FhssOtaRadio

/-- What the consumer works on: the client context and the configuration store. -/
structure OtaConsumerState where
  context : OtaClientContext
  store : FhssConfigStore
  deriving DecidableEq

/-- A packet handed to the send callback, with the fields it was encoded from. -/
inductive OtaSend where
  | response (responseType : OtaPacketType) (fields : OtaAckFields) (packet : Bytes)
  | discoverAck (fields : OtaDiscoverAckFields) (packet : Bytes)
  deriving DecidableEq

/-- What the surroundings answer while one packet is processed. -/
structure OtaConsumerEnv where
  /-- The product's mode callback, asked first. -/
  otaMode : Bool
  /-- The mode callback asked again after a DISCOVER backoff. -/
  otaModeAfterBackoff : Bool
  /-- The code of the send callback. -/
  send : EspErr
  /-- The code of the FHSS activation callback. -/
  activate : EspErr
  nvs : NvsHal
  hal : OtaHal
  now : UInt32

/-- What processing a packet does. -/
structure OtaConsumerOutcome where
  state : OtaConsumerState
  sends : List OtaSend
  calls : List OtaCall
  events : List OtaClientEventCall
  /-- The configuration given to the activation callback, if it was called. -/
  activated : Option OtaFhssConfigFields

/-- The outcome of a packet that changes nothing, with the responses it triggers. -/
def OtaConsumerState.reply (state : OtaConsumerState) (sends : List OtaSend) :
    OtaConsumerOutcome :=
  ⟨state, sends, [], [], none⟩

/-- The outcome of a client operation followed by a response. -/
def OtaConsumerState.ran (state : OtaConsumerState) (outcome : OtaClientOutcome)
    (sends : List OtaSend) : OtaConsumerOutcome :=
  ⟨{ state with context := outcome.context }, sends, outcome.calls, outcome.events, none⟩

section Consumer

variable (protocol : OtaProtocol)

/-- `ota_consumer_is_ota_mode`, over the answer of the callback. -/
def otaConsumerIsOtaMode (context : OtaClientContext) (otaMode : Bool) : Bool :=
  context.config.otaModeCallback && otaMode

/-- `ota_consumer_send_response`: nothing is sent when encoding fails. -/
def otaConsumerSendResponse (responseType : OtaPacketType) (sessionId : UInt32)
    (acknowledgedType : OtaPacketType) (sequence : UInt32) (result : OtaResult) :
    List OtaSend :=
  let fields : OtaAckFields := ⟨sessionId, acknowledgedType, sequence, result⟩
  match protocol.encodeAck responseType fields with
  | none => []
  | some packet => [.response responseType fields packet]

/-- `ota_consumer_send_ack`. -/
def otaConsumerSendAck (sessionId : UInt32) (acknowledgedType : OtaPacketType)
    (sequence : UInt32) : List OtaSend :=
  otaConsumerSendResponse protocol .ack sessionId acknowledgedType sequence .ok

/-- `ota_consumer_send_nack`. -/
def otaConsumerSendNack (sessionId : UInt32) (acknowledgedType : OtaPacketType)
    (sequence : UInt32) (result : OtaResult) : List OtaSend :=
  otaConsumerSendResponse protocol .nack sessionId acknowledgedType sequence result

/-- The code `ota_consumer_send_ack` returns: encoding may fail, or the send callback. -/
def otaConsumerSendErr (sends : List OtaSend) (send : EspErr) : EspErr :=
  if sends = [] then .fail else send

/-- `ota_consumer_emit_event`. -/
def otaConsumerEmitEvent (context : OtaClientContext) (event : OtaClientEvent) (error : EspErr) :
    List OtaClientEventCall :=
  context.emit event 0 error

/-- `ota_consumer_handle_discover`.  The backoff delay itself is time passing. -/
def otaConsumerHandleDiscover (state : OtaConsumerState) (env : OtaConsumerEnv) :
    OtaConsumerOutcome :=
  if otaConsumerIsOtaMode state.context env.otaMode = false then state.reply []
  else if 0 < state.context.config.discoverBackoffMaxMs ∧
      otaConsumerIsOtaMode state.context env.otaModeAfterBackoff = false then
    state.reply []
  else
    let config := state.context.config
    let fields : OtaDiscoverAckFields := ⟨config.deviceId, config.firmwareVersion[0],
      config.firmwareVersion[1], config.firmwareVersion[2]⟩
    match protocol.encodeDiscoverAck fields with
    | none => state.reply []
    | some packet => state.reply [.discoverAck fields packet]

/-- `ota_consumer_target_matches`. -/
def otaConsumerTargetMatches (context : OtaClientContext) (targetDeviceId : UInt32) : Bool :=
  targetDeviceId == context.config.deviceId || targetDeviceId == protocol.broadcastDeviceId

/-- The NACK for a control packet that does not decode. -/
def otaConsumerRejectControl (packetType : OtaPacketType) (packet : Bytes) : List OtaSend :=
  if 5 ≤ packet.length then
    otaConsumerSendNack protocol (protocol.readU32Le packet 1) packetType protocol.controlSequence
      .invalidSize
  else []

/-- `ota_consumer_handle_start` up to the call of `ota_client_start_session`: either the answer
that ends it, or the fields the session is to be opened with. -/
def otaConsumerStartChecks (context : OtaClientContext) (packet : Bytes) (otaMode : Bool) :
    List OtaSend ⊕ OtaStartFields :=
  match protocol.decodeStart packet with
  | none => .inl (otaConsumerRejectControl protocol .start packet)
  | some fields =>
      if fields.targetDeviceId ≠ context.config.deviceId ∧
          fields.targetDeviceId ≠ protocol.broadcastDeviceId then
        .inl []
      else if context.state = .receiving ∧ fields.sessionId = context.sessionId ∧
          fields.imageSize = context.imageSize ∧ fields.totalChunks = context.totalChunks then
        .inl (otaConsumerSendAck protocol fields.sessionId .start protocol.controlSequence)
      else if otaConsumerIsOtaMode context otaMode = false then
        .inl (otaConsumerSendNack protocol fields.sessionId .start protocol.controlSequence
          .busy)
      else .inr fields

/-- The NACK result for a code of `ota_client_start_session`. -/
def otaConsumerStartResult : EspErr → OtaResult
  | .invalidSize => .invalidSize
  | .invalidState => .busy
  | _ => .writeFailed

/-- The rest of `ota_consumer_handle_start`: open the session and answer. -/
def otaConsumerOpenSession (state : OtaConsumerState) (fields : OtaStartFields) (hal : OtaHal)
    (now : UInt32) : OtaConsumerOutcome :=
  let started := otaClientStartSession state.context fields.sessionId fields.imageSize
    fields.totalChunks (some fields.imageSha256) hal now
  state.ran started <|
    if started.err = .ok then
      otaConsumerSendAck protocol fields.sessionId .start protocol.controlSequence
    else
      otaConsumerSendNack protocol fields.sessionId .start protocol.controlSequence
        (otaConsumerStartResult started.err)

/-- `ota_consumer_handle_start`. -/
def otaConsumerHandleStart (state : OtaConsumerState) (packet : Bytes) (env : OtaConsumerEnv) :
    OtaConsumerOutcome :=
  match otaConsumerStartChecks protocol state.context packet env.otaMode with
  | .inl sends => state.reply sends
  | .inr fields => otaConsumerOpenSession protocol state fields env.hal env.now

/-- `ota_consumer_handle_fhss_config`. -/
def otaConsumerHandleFhssConfig (state : OtaConsumerState) (packet : Bytes)
    (env : OtaConsumerEnv) : OtaConsumerOutcome :=
  match protocol.decodeFhssConfig packet with
  | none => state.reply []
  | some fields =>
      if otaConsumerTargetMatches protocol state.context fields.targetDeviceId = false then
        state.reply []
      else if otaConsumerIsOtaMode state.context env.otaMode = false then
        state.reply (otaConsumerSendNack protocol fields.sessionId .fhssConfig
          protocol.controlSequence .busy)
      else
        let (err, store) := fhssConfigStoreSavePending protocol state.store fields env.nvs
        let state' := { state with store := store }
        if err ≠ .ok then
          state'.reply (otaConsumerSendNack protocol fields.sessionId .fhssConfig
            protocol.controlSequence .verifyFailed)
        else
          let sends := otaConsumerSendAck protocol fields.sessionId .fhssConfig
            protocol.controlSequence
          if otaConsumerSendErr sends env.send = .ok then
            ⟨state', sends, [], otaConsumerEmitEvent state.context .fhssConfigReady .ok, none⟩
          else state'.reply sends

/-- `ota_consumer_handle_fhss_activate` up to the activation callback: either the answer that
ends it, or the answer already sent and the configuration to activate. -/
def otaConsumerActivateChecks (state : OtaConsumerState) (packet : Bytes) (send : EspErr)
    (nvs : NvsHal) : List OtaSend ⊕ (List OtaSend × OtaFhssConfigFields) :=
  match protocol.decodeFhssActivate packet with
  | none => .inl []
  | some activate =>
      if otaConsumerTargetMatches protocol state.context activate.targetDeviceId = false then
        .inl []
      else
        let nack := otaConsumerSendNack protocol activate.sessionId .fhssActivate
          protocol.controlSequence .invalidSequence
        match fhssConfigStoreLoadPending protocol state.store nvs with
        | .error _ => .inl nack
        | .ok pending =>
            if pending.generation ≠ activate.generation ∨
                pending.sessionId ≠ activate.sessionId then
              .inl nack
            else
              let sends := otaConsumerSendAck protocol activate.sessionId .fhssActivate
                protocol.controlSequence
              if otaConsumerSendErr sends send ≠ .ok then .inl sends
              else .inr (sends, pending)

/-- The code of the activation callback, which fails when it is not set. -/
def otaConsumerActivateErr (context : OtaClientContext) (activate : EspErr) : EspErr :=
  if context.config.fhssActivateCallback then activate else .fail

/-- `ota_consumer_handle_fhss_activate`. -/
def otaConsumerHandleFhssActivate (state : OtaConsumerState) (packet : Bytes)
    (env : OtaConsumerEnv) : OtaConsumerOutcome :=
  match otaConsumerActivateChecks protocol state packet env.send env.nvs with
  | .inl sends => state.reply sends
  | .inr (sends, pending) =>
      let activating := otaConsumerEmitEvent state.context .fhssActivating .ok
      let called := if state.context.config.fhssActivateCallback then some pending else none
      if otaConsumerActivateErr state.context env.activate ≠ .ok then
        ⟨state, sends, [],
          activating ++ otaConsumerEmitEvent state.context .fhssActivateFailed .fail, called⟩
      else ⟨state, sends, [], activating, called⟩

/-- `ota_consumer_data_decode_error`. -/
def otaConsumerDataDecodeError (packet : Bytes) : OtaResult :=
  if packet.length < protocol.dataHeaderSize then .invalidSize
  else
    let payloadLength := (packet.getD 9 0).toNat
    if protocol.maxPayloadSize < payloadLength ∨
        packet.length ≠ protocol.dataHeaderSize + payloadLength then
      .invalidSize
    else .invalidCrc

/-- The NACK result for a code of `ota_client_write_chunk`. -/
def otaConsumerDataResult : EspErr → OtaResult
  | .invalidState => .busy
  | .invalidSize => .invalidSize
  | .invalidArg => .invalidSequence
  | _ => .writeFailed

/-- The decoded DATA packet, when its length is exactly header and payload. -/
def otaConsumerDecodeData (packet : Bytes) : Option (OtaDataHeaderFields × Bytes) :=
  match protocol.decodeData packet with
  | none => none
  | some (header, payload) =>
      if packet.length = protocol.dataHeaderSize + payload.length then some (header, payload)
      else none

/-- `ota_consumer_handle_data`. -/
def otaConsumerHandleData (state : OtaConsumerState) (packet : Bytes) (env : OtaConsumerEnv) :
    OtaConsumerOutcome :=
  match otaConsumerDecodeData protocol packet with
  | none =>
      if 9 ≤ packet.length then
        state.reply (otaConsumerSendNack protocol (protocol.readU32Le packet 1) .data
          (protocol.readU32Le packet 5) (otaConsumerDataDecodeError protocol packet))
      else state.reply []
  | some (header, payload) =>
      let nack := otaConsumerSendNack protocol header.sessionId .data header.sequence
      if payload.length = 0 then state.reply (nack .invalidSize)
      else if state.context.state ≠ .receiving then state.reply (nack .busy)
      else if header.sessionId ≠ state.context.sessionId then
        state.reply (nack .invalidSession)
      else
        let written := otaClientWriteChunk state.context header.sessionId header.sequence
          (some payload) env.hal env.now
        state.ran written <|
          if written.err ≠ .ok then nack (otaConsumerDataResult written.err)
          else otaConsumerSendAck protocol header.sessionId .data header.sequence

/-- `ota_consumer_handle_end` up to the call of `ota_client_finish_session`. -/
def otaConsumerEndChecks (context : OtaClientContext) (packet : Bytes) :
    List OtaSend ⊕ OtaEndFields :=
  match protocol.decodeEnd packet with
  | none => .inl (otaConsumerRejectControl protocol .end packet)
  | some fields =>
      if context.state = .readyToReboot ∧ fields.sessionId = context.sessionId ∧
          fields.imageSize = context.imageSize ∧ fields.totalChunks = context.totalChunks then
        .inl (otaConsumerSendAck protocol fields.sessionId .end protocol.controlSequence)
      else if context.state ≠ .receiving then
        .inl (otaConsumerSendNack protocol fields.sessionId .end protocol.controlSequence .busy)
      else if fields.sessionId ≠ context.sessionId then
        .inl (otaConsumerSendNack protocol fields.sessionId .end protocol.controlSequence
          .invalidSession)
      else .inr fields

/-- The answer to an END whose `ota_client_finish_session` returned `err`. -/
def otaConsumerEndReply (sessionId : UInt32) (err : EspErr) : List OtaSend :=
  if err = .ok then otaConsumerSendAck protocol sessionId .end protocol.controlSequence
  else
    otaConsumerSendNack protocol sessionId .end protocol.controlSequence
      (if err = .invalidSize then .invalidSize else .verifyFailed)

variable (sha256 : Bytes → Sha256Digest)

/-- `ota_consumer_handle_end`. -/
def otaConsumerHandleEnd (state : OtaConsumerState) (packet : Bytes) (env : OtaConsumerEnv) :
    OtaConsumerOutcome :=
  match otaConsumerEndChecks protocol state.context packet with
  | .inl sends => state.reply sends
  | .inr fields =>
      let finished := otaClientFinishSession sha256 state.context fields.sessionId
        fields.imageSize fields.totalChunks env.hal
      state.ran finished (otaConsumerEndReply protocol fields.sessionId finished.err)

/-- `ota_consumer_process_packet`. -/
def otaConsumerProcessPacket (state : OtaConsumerState) (packet : Bytes)
    (env : OtaConsumerEnv) : OtaConsumerOutcome :=
  match protocol.peekType packet with
  | some .discover =>
      if protocol.decodeDiscover packet then otaConsumerHandleDiscover protocol state env
      else state.reply []
  | some .start => otaConsumerHandleStart protocol state packet env
  | some .data => otaConsumerHandleData protocol state packet env
  | some .end => otaConsumerHandleEnd protocol sha256 state packet env
  | some .fhssConfig => otaConsumerHandleFhssConfig protocol state packet env
  | some .fhssActivate => otaConsumerHandleFhssActivate protocol state packet env
  | _ => state.reply []

/-- `ota_consumer_handle_receive_timeout`: NACK every chunk the open batch still misses. -/
def otaConsumerHandleReceiveTimeout (state : OtaConsumerState) (timeoutTicks now : UInt32) :
    OtaConsumerOutcome :=
  let context := state.context
  if context.state ≠ .receiving then state.reply []
  else if now - context.lastPacketTick < timeoutTicks then state.reply []
  else
    let missingMask := otaBatchCacheMissingMask context.batchCache
    let sends := (List.range context.batchCache.chunkCount).flatMap fun offset =>
      if missingMask &&& BitVec.ofNat 8 (1 <<< offset) ≠ 0 then
        otaConsumerSendNack protocol context.sessionId .data
          (context.batchCache.baseSequence + UInt32.ofNat offset) .timeout
      else []
    { state.reply sends with
      state := { state with context := { context with lastPacketTick := now } } }

end Consumer

end FhssOtaRadio
