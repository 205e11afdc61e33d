import FhssOtaRadio.OtaClient.AckSoundness

/-!
# A device that is not addressed

Every device in OTA mode hears the packets of every session.  START, FHSS_CONFIG and
FHSS_ACTIVATE name their target, and a device they do not name keeps silent, so that the target's
answer is not disturbed.  DATA and END name a session only, and their handlers answer before they
know whether the session is theirs: a device that takes no part in it answers all the same.
-/

namespace FhssOtaRadio

open Machine

section Bystander

variable (protocol : OtaProtocol) (sha256 : Bytes → Sha256Digest)

/-- The consumer hears a packet: its state afterwards, and what it sends. -/
def consumerHears (state : OtaConsumerState) (heard : Bytes × OtaConsumerEnv) :
    OtaConsumerState × List OtaSend :=
  let outcome := otaConsumerProcessPacket protocol sha256 state heard.1 heard.2
  (outcome.state, outcome.sends)

/-- An ACK or a NACK. -/
def OtaSend.isResponse : OtaSend → Bool
  | .response .. => true
  | .discoverAck .. => false

/-- A target that is neither this device nor everyone. -/
def IsElsewhere (deviceId targetDeviceId : UInt32) : Prop :=
  targetDeviceId ≠ deviceId ∧ targetDeviceId ≠ protocol.broadcastDeviceId

/-- If the packet is a START, FHSS_CONFIG or FHSS_ACTIVATE, it is well-formed and addressed to
another device. -/
def AddressedElsewhere (deviceId : UInt32) (packet : Bytes) : Prop :=
  match protocol.peekType packet with
  | some .start => ∃ fields, protocol.decodeStart packet = some fields ∧
      IsElsewhere protocol deviceId fields.targetDeviceId
  | some .fhssConfig => ∃ fields, protocol.decodeFhssConfig packet = some fields ∧
      IsElsewhere protocol deviceId fields.targetDeviceId
  | some .fhssActivate => ∃ fields, protocol.decodeFhssActivate packet = some fields ∧
      IsElsewhere protocol deviceId fields.targetDeviceId
  | _ => True

/-- A DATA or END packet that decodes, or from which a session can be read to NACK it. -/
def isAnswerable (packet : Bytes) : Bool :=
  match protocol.peekType packet with
  | some .data => (otaConsumerDecodeData protocol packet).isSome || decide (9 ≤ packet.length)
  | some .end => (protocol.decodeEnd packet).isSome || decide (5 ≤ packet.length)
  | _ => false

/-- Over a run the device sends no ACK and no NACK, and its state is what it was. -/
def StaysSilent (state : OtaConsumerState) (heard : List (Bytes × OtaConsumerEnv)) : Prop :=
  (∀ sends ∈ outputs (consumerHears protocol sha256) state heard,
    ∀ send ∈ sends, send.isResponse = false) ∧
  finalState (consumerHears protocol sha256) state heard = state

variable {protocol sha256} {state : OtaConsumerState} {packet : Bytes} {env : OtaConsumerEnv}

/-- A packet for another device that is not answerable leaves no trace. -/
lemma consumerHears_quiet (haddressed : AddressedElsewhere protocol state.context.config.deviceId
      packet) (hquiet : isAnswerable protocol packet = false) :
    (consumerHears protocol sha256 state (packet, env)).1 = state ∧
      ∀ send ∈ (consumerHears protocol sha256 state (packet, env)).2,
        send.isResponse = false := by
  have hnothing : (state.reply []).state = state ∧
      ∀ send ∈ (state.reply []).sends, send.isResponse = false :=
    ⟨rfl, fun send hsend => absurd hsend List.not_mem_nil⟩
  have hother : ∀ {target : UInt32},
      IsElsewhere protocol state.context.config.deviceId target →
      otaConsumerTargetMatches protocol state.context target = false := by
    rintro target ⟨hdevice, hbroadcast⟩
    unfold otaConsumerTargetMatches
    simp [hdevice, hbroadcast]
  unfold AddressedElsewhere at haddressed
  unfold isAnswerable at hquiet
  unfold consumerHears otaConsumerProcessPacket
  dsimp only
  cases htype : protocol.peekType packet with
  | none => exact hnothing
  | some packetType =>
    rw [htype] at haddressed hquiet
    cases packetType with
    | discover =>
      dsimp only
      split_ifs
      · unfold otaConsumerHandleDiscover
        dsimp only
        split_ifs
        · exact hnothing
        · exact hnothing
        · split
          · exact hnothing
          · refine ⟨rfl, fun send hsend => ?_⟩
            rw [List.mem_singleton.mp hsend]
            rfl
      · exact hnothing
    | start =>
      obtain ⟨fields, hdecode, hdevice, hbroadcast⟩ := haddressed
      dsimp only
      unfold otaConsumerHandleStart otaConsumerStartChecks
      rw [hdecode]
      dsimp only
      rw [if_pos ⟨hdevice, hbroadcast⟩]
      exact hnothing
    | data =>
      obtain ⟨hdecode, hlength⟩ := Bool.or_eq_false_iff.mp hquiet
      dsimp only
      unfold otaConsumerHandleData
      rw [Option.isNone_iff_eq_none.mp (Option.isSome_eq_false_iff.mp hdecode)]
      dsimp only
      rw [if_neg (by simpa using hlength)]
      exact hnothing
    | «end» =>
      obtain ⟨hdecode, hlength⟩ := Bool.or_eq_false_iff.mp hquiet
      dsimp only
      unfold otaConsumerHandleEnd otaConsumerEndChecks
      rw [Option.isNone_iff_eq_none.mp (Option.isSome_eq_false_iff.mp hdecode)]
      dsimp only
      unfold otaConsumerRejectControl
      rw [if_neg (by simpa using hlength)]
      exact hnothing
    | fhssConfig =>
      obtain ⟨fields, hdecode, helsewhere⟩ := haddressed
      dsimp only
      unfold otaConsumerHandleFhssConfig
      rw [hdecode]
      dsimp only
      rw [if_pos (hother helsewhere)]
      exact hnothing
    | fhssActivate =>
      obtain ⟨fields, hdecode, helsewhere⟩ := haddressed
      dsimp only
      unfold otaConsumerHandleFhssActivate otaConsumerActivateChecks
      rw [hdecode]
      dsimp only
      rw [if_pos (hother helsewhere)]
      exact hnothing
    | discoverAck => exact hnothing
    | ack => exact hnothing
    | nack => exact hnothing
    | fhssSync => exact hnothing

/-- A response that can be encoded is sent. -/
lemma exists_response (hencode : ∀ responseType fields,
      (protocol.encodeAck responseType fields).isSome = true)
    (responseType : OtaPacketType) (sessionId : UInt32) (acknowledgedType : OtaPacketType)
    (sequence : UInt32) (result : OtaResult) :
    ∃ send ∈ otaConsumerSendResponse protocol responseType sessionId acknowledgedType sequence
      result, send.isResponse = true := by
  obtain ⟨bytes, hbytes⟩ := Option.isSome_iff_exists.mp
    (hencode responseType ⟨sessionId, acknowledgedType, sequence, result⟩)
  unfold otaConsumerSendResponse
  dsimp only
  rw [hbytes]
  exact ⟨_, List.mem_singleton.mpr rfl, rfl⟩

/-- An answerable packet is answered, whatever the state of the client. -/
lemma consumerHears_answers (hencode : ∀ responseType fields,
      (protocol.encodeAck responseType fields).isSome = true)
    (hanswerable : isAnswerable protocol packet = true) :
    ∃ send ∈ (consumerHears protocol sha256 state (packet, env)).2, send.isResponse = true := by
  have hsent := exists_response hencode
  unfold isAnswerable at hanswerable
  unfold consumerHears otaConsumerProcessPacket
  dsimp only
  split at hanswerable
  · rename_i htype
    rw [htype]
    dsimp only
    unfold otaConsumerHandleData
    cases hdecode : otaConsumerDecodeData protocol packet with
    | none =>
      rw [hdecode] at hanswerable
      dsimp only
      rw [if_pos (by simpa using hanswerable)]
      exact hsent ..
    | some decoded =>
      obtain ⟨header, payload⟩ := decoded
      dsimp only
      split_ifs
      · exact hsent ..
      · exact hsent ..
      · exact hsent ..
      · exact hsent ..
      · exact hsent ..
  · rename_i htype
    rw [htype]
    dsimp only
    unfold otaConsumerHandleEnd otaConsumerEndChecks
    cases hdecode : protocol.decodeEnd packet with
    | none =>
      rw [hdecode] at hanswerable
      dsimp only
      unfold otaConsumerRejectControl
      rw [if_pos (by simpa using hanswerable)]
      exact hsent ..
    | some fields =>
      dsimp only
      by_cases hready : state.context.state = .readyToReboot ∧
          fields.sessionId = state.context.sessionId ∧
          fields.imageSize = state.context.imageSize ∧
          fields.totalChunks = state.context.totalChunks
      · rw [if_pos hready]
        exact hsent ..
      rw [if_neg hready]
      by_cases hreceiving : state.context.state ≠ .receiving
      · rw [if_pos hreceiving]
        exact hsent ..
      rw [if_neg hreceiving]
      by_cases hsession : fields.sessionId ≠ state.context.sessionId
      · rw [if_pos hsession]
        exact hsent ..
      rw [if_neg hsession]
      unfold OtaConsumerState.ran otaConsumerEndReply
      dsimp only
      split_ifs
      · exact hsent ..
      · exact hsent ..
      · exact hsent ..
  · cases hanswerable

end Bystander

/-- **When a bystander stays silent.**  A device that hears only packets for other devices, and
the DATA and END packets of their sessions, stays silent and unchanged exactly when no DATA and no
END among them is answerable: when each of them is too short to read a session from. -/
theorem otaConsumer_bystander_silent_iff (protocol : OtaProtocol)
    (sha256 : Bytes → Sha256Digest)
    (hencode : ∀ responseType fields, (protocol.encodeAck responseType fields).isSome = true)
    (state : OtaConsumerState) (heard : List (Bytes × OtaConsumerEnv))
    (haddressed : ∀ packet ∈ heard,
      AddressedElsewhere protocol state.context.config.deviceId packet.1) :
    StaysSilent protocol sha256 state heard ↔
      ∀ packet ∈ heard, isAnswerable protocol packet.1 = false := by
  induction heard with
  | nil => exact ⟨fun _ packet hmem => absurd hmem List.not_mem_nil,
      fun _ => ⟨fun sends hmem => absurd hmem List.not_mem_nil, rfl⟩⟩
  | cons first rest ih =>
    obtain ⟨packet, env⟩ := first
    have hrest := ih fun packet hmem => haddressed packet (List.mem_cons_of_mem _ hmem)
    have hfirst := haddressed (packet, env) List.mem_cons_self
    rw [List.forall_mem_cons]
    cases hanswerable : isAnswerable protocol packet with
    | true =>
      obtain ⟨send, hsend, hresponse⟩ := @consumerHears_answers protocol sha256 state packet env
        hencode hanswerable
      constructor
      · rintro ⟨hsilent, -⟩
        rw [hsilent _ List.mem_cons_self send hsend] at hresponse
        cases hresponse
      · rintro ⟨hquiet, -⟩
        cases hquiet
    | false =>
      obtain ⟨hstate, hsends⟩ := @consumerHears_quiet protocol sha256 state packet env hfirst
        hanswerable
      have hstep : StaysSilent protocol sha256 state ((packet, env) :: rest) ↔
          StaysSilent protocol sha256 state rest := by
        unfold StaysSilent
        rw [outputs_cons, finalState_cons, hstate, List.forall_mem_cons]
        exact and_congr_left fun _ => and_iff_right hsends
      rw [hstep, hrest]
      exact (and_iff_right rfl).symm

/-- Device 5 at work beside a session of device 3. -/
def sampleBystander : OtaConsumerState :=
  consumerInit { sampleConfig with deviceId := 5 } ⟨none, none⟩

/-- The START of device 3's session, a DATA packet cut off before its sequence number, and an END
packet cut off before its session. -/
def cutOffSession : List (Bytes × OtaConsumerEnv) :=
  [(sampleStart, sampleEnv), (2 :: u32LeBytes 7, sampleEnv), ([3, 7, 0], sampleEnv)]

/-- Device 5 stays silent when it hears no more than that. -/
theorem otaConsumer_bystander_silent_cut_off :
    StaysSilent plainProtocol (fun _ => Vector.replicate 32 0) sampleBystander cutOffSession := by
  refine (otaConsumer_bystander_silent_iff plainProtocol (fun _ => Vector.replicate 32 0)
    (fun _ _ => rfl) sampleBystander cutOffSession ?_).mpr ?_
  · rw [cutOffSession, List.forall_mem_cons, List.forall_mem_cons, List.forall_mem_singleton]
    exact ⟨⟨⟨7, 3, 2, 1, Vector.replicate 32 0⟩, by decide, by decide, by decide⟩, trivial, trivial⟩
  · rw [cutOffSession, List.forall_mem_cons, List.forall_mem_cons, List.forall_mem_singleton]
    exact ⟨by decide, by decide, by decide⟩

/-- Device 5, idle, answers the DATA packet that follows: with the session of device 3, which
both would answer at the same time. -/
theorem otaConsumer_bystander_answers_data :
    AddressedElsewhere plainProtocol sampleBystander.context.config.deviceId sampleStart ∧
      AddressedElsewhere plainProtocol sampleBystander.context.config.deviceId sampleData ∧
      ¬ StaysSilent plainProtocol (fun _ => Vector.replicate 32 0) sampleBystander
        [(sampleStart, sampleEnv), (sampleData, sampleEnv)] ∧
      outputs (consumerHears plainProtocol fun _ => Vector.replicate 32 0) sampleBystander
        [(sampleStart, sampleEnv), (sampleData, sampleEnv)] =
          [[], [.response .nack ⟨7, .data, 0, .busy⟩ (5 :: (u32LeBytes 7 ++ u32LeBytes 0))]] := by
  have houtputs : outputs (consumerHears plainProtocol fun _ => Vector.replicate 32 0)
      sampleBystander [(sampleStart, sampleEnv), (sampleData, sampleEnv)] =
        [[], [.response .nack ⟨7, .data, 0, .busy⟩ (5 :: (u32LeBytes 7 ++ u32LeBytes 0))]] := by
    decide +kernel
  refine ⟨⟨⟨7, 3, 2, 1, Vector.replicate 32 0⟩, by decide, by decide, by decide⟩, trivial, ?_,
    houtputs⟩
  rintro ⟨hsilent, -⟩
  rw [houtputs] at hsilent
  have := hsilent _ (List.mem_cons_of_mem _ (List.mem_singleton.mpr rfl)) _
    (List.mem_singleton.mpr rfl)
  cases this

end FhssOtaRadio
