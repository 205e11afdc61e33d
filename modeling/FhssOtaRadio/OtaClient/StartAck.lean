import FhssOtaRadio.OtaClient.AckSoundness

/-!
# What the acknowledgement of a START promises

The gateway takes the ACK of a START as the promise that its session is open: END will verify the
image against the digest the START announced.  `ota_consumer_handle_start` sends the ACK in two
places: behind a successful `ota_client_start_session`, and for a START it recognises as
retransmitted.  The second comparison leaves the digest out, and this is the only way in which
the promise can be broken.
-/

namespace FhssOtaRadio

/-- The session a START announces is in force: it is being received, under the digest
announced. -/
structure OtaClientContext.InForce (context : OtaClientContext) (fields : OtaStartFields) :
    Prop where
  receiving : context.state = .receiving
  sessionId : context.sessionId = fields.sessionId
  imageSize : context.imageSize = fields.imageSize
  totalChunks : context.totalChunks = fields.totalChunks
  expectedSha256 : context.expectedSha256 = fields.imageSha256

/-- An ACK is among the packets sent. -/
def SendsAck (sends : List OtaSend) : Prop :=
  ∃ fields bytes, .response .ack fields bytes ∈ sends

section StartAck

variable (protocol : OtaProtocol) (sha256 : Bytes → Sha256Digest)

/-- A START for this device that `ota_consumer_handle_start` takes for the one that opened the
session being received. -/
structure RecognisedStart (context : OtaClientContext) (fields : OtaStartFields) : Prop where
  target : otaConsumerTargetMatches protocol context fields.targetDeviceId = true
  receiving : context.state = .receiving
  sessionId : fields.sessionId = context.sessionId
  imageSize : fields.imageSize = context.imageSize
  totalChunks : fields.totalChunks = context.totalChunks

/-- The ACK of a START that `ota_consumer_send_ack` encodes. -/
def startAckFields (fields : OtaStartFields) : OtaAckFields :=
  ⟨fields.sessionId, .start, protocol.controlSequence, .ok⟩

variable {protocol}

/-- The session in force goes on with the fields it was announced with. -/
lemma OtaClientContext.InForce.goesOn {context context' : OtaClientContext}
    {fields : OtaStartFields} (h : context.InForce fields)
    (hgoes : SessionGoesOn context context') : context'.InForce fields where
  receiving := hgoes.receiving
  sessionId := hgoes.same.sessionId.trans h.sessionId
  imageSize := hgoes.same.imageSize.trans h.imageSize
  totalChunks := hgoes.same.totalChunks.trans h.totalChunks
  expectedSha256 := hgoes.same.expectedSha256.trans h.expectedSha256

/-- An ACK is sent when it can be encoded. -/
lemma sendsAck_sendAck_iff (sessionId : UInt32) (acknowledgedType : OtaPacketType)
    (sequence : UInt32) :
    SendsAck (otaConsumerSendAck protocol sessionId acknowledgedType sequence) ↔
      (protocol.encodeAck .ack ⟨sessionId, acknowledgedType, sequence, .ok⟩).isSome = true := by
  unfold SendsAck otaConsumerSendAck otaConsumerSendResponse
  dsimp only
  cases protocol.encodeAck .ack ⟨sessionId, acknowledgedType, sequence, .ok⟩ with
  | none => simp
  | some packet => simp

/-- A NACK is no ACK. -/
lemma not_sendsAck_sendNack (sessionId : UInt32) (acknowledgedType : OtaPacketType)
    (sequence : UInt32) (result : OtaResult) :
    ¬ SendsAck (otaConsumerSendNack protocol sessionId acknowledgedType sequence result) := by
  rintro ⟨fields, bytes, hmem⟩
  obtain ⟨packet, -, heq⟩ := mem_otaConsumerSendResponse hmem
  cases heq

/-- A recognised START changes nothing and is acknowledged. -/
lemma otaConsumerHandleStart_of_recognised {state : OtaConsumerState} {packet : Bytes}
    {fields : OtaStartFields} (hdecode : protocol.decodeStart packet = some fields)
    (h : RecognisedStart protocol state.context fields) (env : OtaConsumerEnv) :
    otaConsumerHandleStart protocol state packet env =
      state.reply (otaConsumerSendAck protocol fields.sessionId .start
        protocol.controlSequence) := by
  have htarget : ¬ (fields.targetDeviceId ≠ state.context.config.deviceId ∧
      fields.targetDeviceId ≠ protocol.broadcastDeviceId) := by
    have hmatches := h.target
    unfold otaConsumerTargetMatches at hmatches
    rintro ⟨hdevice, hbroadcast⟩
    simp [hdevice, hbroadcast] at hmatches
  unfold otaConsumerHandleStart otaConsumerStartChecks
  rw [hdecode]
  dsimp only
  rw [if_neg htarget, if_pos ⟨h.receiving, h.sessionId, h.imageSize, h.totalChunks⟩]

/-- A START that is not recognised is acknowledged only when it opens its session. -/
lemma inForce_of_not_recognised {state : OtaConsumerState} {packet : Bytes}
    {fields : OtaStartFields} {env : OtaConsumerEnv}
    (hdecode : protocol.decodeStart packet = some fields)
    (h : ¬ RecognisedStart protocol state.context fields)
    (hack : SendsAck (otaConsumerHandleStart protocol state packet env).sends) :
    (otaConsumerHandleStart protocol state packet env).state.context.InForce fields ∧
      SessionInv (otaConsumerHandleStart protocol state packet env).state.context := by
  unfold otaConsumerHandleStart otaConsumerStartChecks at hack ⊢
  rw [hdecode] at hack ⊢
  dsimp only at hack ⊢
  by_cases htarget : fields.targetDeviceId ≠ state.context.config.deviceId ∧
      fields.targetDeviceId ≠ protocol.broadcastDeviceId
  · rw [if_pos htarget] at hack
    obtain ⟨_, _, hmem⟩ := hack
    exact absurd hmem List.not_mem_nil
  by_cases hrepeated : state.context.state = .receiving ∧
      fields.sessionId = state.context.sessionId ∧
      fields.imageSize = state.context.imageSize ∧
      fields.totalChunks = state.context.totalChunks
  · refine absurd ⟨?_, hrepeated.1, hrepeated.2.1, hrepeated.2.2.1, hrepeated.2.2.2⟩ h
    unfold otaConsumerTargetMatches
    simpa [or_iff_not_imp_left] using htarget
  rw [if_neg htarget, if_neg hrepeated] at hack ⊢
  by_cases hmode : otaConsumerIsOtaMode state.context env.otaMode = false
  · rw [if_pos hmode] at hack
    exact absurd hack (not_sendsAck_sendNack _ _ _ _)
  rw [if_neg hmode] at hack ⊢
  dsimp only [otaConsumerOpenSession, OtaConsumerState.ran] at hack ⊢
  by_cases hok : (otaClientStartSession state.context fields.sessionId fields.imageSize
      fields.totalChunks (some fields.imageSha256) env.hal env.now).err = .ok
  · refine ⟨?_, sessionInv_start hok⟩
    obtain ⟨digest, partition, hdigest, -, -, -, heq⟩ := otaClientStartSession_ok hok
    obtain rfl := Option.some.inj hdigest
    rw [heq]
    exact ⟨rfl, rfl, rfl, rfl, rfl⟩
  · rw [if_neg hok] at hack
    exact absurd hack (not_sendsAck_sendNack _ _ _ _)

variable (protocol)

/-- **When an acknowledged START is the session in force.**  In every state a run of the consumer
reaches and for every decodable START: if `ota_consumer_handle_start` answers with an ACK, the
session it announces is in force afterwards, and stays so until its OTA handle is closed, exactly
when a START that is recognised as retransmitted announces the digest of the session being
received, or cannot be acknowledged. -/
theorem otaConsumerHandleStart_inForce_iff (config : OtaClientConfig) (store : FhssConfigStore)
    (before : List ConsumerInput) {packet : Bytes} {fields : OtaStartFields}
    (hdecode : protocol.decodeStart packet = some fields) (env : OtaConsumerEnv) :
    let state := Machine.finalState (consumerStep protocol sha256) (consumerInit config store)
      before
    let outcome := otaConsumerHandleStart protocol state packet env
    (SendsAck outcome.sends → ∀ later,
      (∀ next ∈ Machine.outputs (consumerStep protocol sha256) outcome.state later,
        ¬ next.ClosesSession) →
      (Machine.finalState (consumerStep protocol sha256) outcome.state
        later).context.InForce fields) ↔
    (RecognisedStart protocol state.context fields →
      (protocol.encodeAck .ack (startAckFields protocol fields)).isSome = true →
      state.context.expectedSha256 = fields.imageSha256) := by
  intro state outcome
  have hinv : state.context.state = .receiving → SessionInv state.context :=
    sessionInv_consumerRun protocol sha256 (fun h => by cases h) before
  constructor
  · intro hforce hrecognised hencode
    have hrun : outcome = state.reply (otaConsumerSendAck protocol fields.sessionId .start
        protocol.controlSequence) := otaConsumerHandleStart_of_recognised hdecode hrecognised env
    have hack : SendsAck outcome.sends := by
      rw [hrun]
      exact (sendsAck_sendAck_iff _ _ _).mpr hencode
    -- already right behind the ACK the digest of the session is the announced one
    have hnow : outcome.state.context.InForce fields :=
      hforce hack [] fun next hmem => absurd hmem List.not_mem_nil
    rw [hrun] at hnow
    exact hnow.expectedSha256
  · intro hdigest hack later hopen
    have hnow : outcome.state.context.InForce fields ∧ SessionInv outcome.state.context := by
      by_cases hrecognised : RecognisedStart protocol state.context fields
      · have hrun : outcome = state.reply (otaConsumerSendAck protocol fields.sessionId .start
            protocol.controlSequence) :=
          otaConsumerHandleStart_of_recognised hdecode hrecognised env
        rw [hrun] at hack ⊢
        have hencode := (sendsAck_sendAck_iff _ _ _).mp hack
        exact ⟨⟨hrecognised.receiving, hrecognised.sessionId.symm, hrecognised.imageSize.symm,
          hrecognised.totalChunks.symm, hdigest hrecognised hencode⟩,
          hinv hrecognised.receiving⟩
      · exact inForce_of_not_recognised hdecode hrecognised hack
    have hgoes := sessionGoesOn_consumerRun protocol sha256 hnow.1.receiving hnow.2 hopen
    exact hnow.1.goesOn hgoes

end StartAck

/-- The START of an idle device is not recognised, so its ACK means what it should. -/
theorem otaConsumerHandleStart_inForce_first :
    (otaConsumerHandleStart plainProtocol (consumerInit sampleConfig ⟨none, none⟩) sampleStart
      sampleEnv).state.context.InForce ⟨7, 3, 2, 1, Vector.replicate 32 0⟩ :=
  (otaConsumerHandleStart_inForce_iff plainProtocol (fun _ => Vector.replicate 32 0) sampleConfig
    ⟨none, none⟩ [] (by decide) sampleEnv).mpr (fun hrecognised => by cases hrecognised.receiving)
    ⟨⟨7, .start, 0xFFFFFFFF, .ok⟩, 4 :: (u32LeBytes 7 ++ u32LeBytes 0xFFFFFFFF), by decide⟩ []
    (fun next hmem => absurd hmem List.not_mem_nil)

/-- START of session 7 once more, with the size of its image but the digest of another one. -/
def sampleRestart : Bytes :=
  1 :: (u32LeBytes 7 ++ u32LeBytes 3 ++ u32LeBytes 2 ++ u32LeBytes 1 ++ List.replicate 32 1)

/-- While session 7 is being received, a START of session 7 for another image of the same size is
acknowledged, and the session goes on under the digest of the first one. -/
theorem otaConsumerHandleStart_acks_other_digest :
    let state := Machine.finalState
      (consumerStep plainProtocol fun _ => Vector.replicate 32 0)
      (consumerInit sampleConfig ⟨none, none⟩) [.packet sampleStart sampleEnv]
    let outcome := otaConsumerHandleStart plainProtocol state sampleRestart sampleEnv
    plainProtocol.decodeStart sampleRestart = some ⟨7, 3, 2, 1, Vector.replicate 32 1⟩ ∧
      SendsAck outcome.sends ∧
      ¬ outcome.state.context.InForce ⟨7, 3, 2, 1, Vector.replicate 32 1⟩ ∧
      outcome.state.context.expectedSha256 = Vector.replicate 32 0 := by
  intro state outcome
  have hdigest : outcome.state.context.expectedSha256 = Vector.replicate 32 0 := by
    decide +kernel
  refine ⟨by decide +kernel, ?_, ?_, hdigest⟩
  · exact ⟨⟨7, .start, 0xFFFFFFFF, .ok⟩, 4 :: (u32LeBytes 7 ++ u32LeBytes 0xFFFFFFFF),
      by decide +kernel⟩
  · intro hforce
    have hother := hforce.expectedSha256
    rw [hdigest] at hother
    exact absurd hother (by decide)

end FhssOtaRadio
