import FhssOtaRadio.AudioAdapter.AudioPacket
import FhssOtaRadio.AudioAdapter.VoiceRestore
import FhssOtaRadio.AudioAdapter.VoiceSession
import FhssOtaRadio.FhssService.TxQueue

/-!
# Talkspurts on the sending side (`fhss_audio_adapter.c`)

A talkspurt announces its public seed, packs the encoded frames two by two, and ends with an END
packet.  Two frames are packed when the second one is submitted; if they do not fit together or
the TX queue is full they stay in the buffer, and a full buffer refuses every further frame.
-/

namespace FhssOtaRadio

open Machine

/-- `AUDIO_CODEC_MAX_ENCODED_BYTES`. -/
def audioCodecMaxEncodedBytes : ℕ := 64

/-- `FHSS_AUDIO_SEED_ANNOUNCE_REPEAT_COUNT`. -/
def fhssAudioSeedAnnounceRepeatCount : ℕ := 3

/-- `FHSS_AUDIO_END_REPEAT_COUNT`. -/
def fhssAudioEndRepeatCount : ℕ := 3

/-- The adapter with what `fhss_audio_adapter_state_t` keeps of a talkspurt it sends.  `frames` is
the frame buffer, of `frame_count` frames; `queued` are the packets that
`fhss_service_send_data` has accepted, oldest first. -/
structure VoiceSender where
  adapter : FhssAudioAdapter
  frames : List Bytes
  txSequence : UInt16
  txSessionId : UInt16
  txPacketCount : UInt32
  queued : List Bytes
  deriving DecidableEq

/-- `send_buffered_frames`; `free` says that the TX queue has room. -/
def sendBufferedFrames (sender : VoiceSender) (flags : UInt8) (free : Bool) :
    VoiceSender × Bool :=
  if sender.frames.length = 0 then (sender, true)
  else
    match fhssAudioPacketPack sender.txSequence flags sender.frames rfTransportMaxPacketLength with
    | .error _ => (sender, false)
    | .ok packet =>
        match fhssServiceSendData sender.queued packet free with
        | (_, false) => (sender, false)
        | (queued, true) =>
            ({ sender with
              queued := queued
              txPacketCount := sender.txPacketCount + 1
              txSequence := sender.txSequence + 1
              frames := [] }, true)

/-- The copies of a control packet; `free` says for each whether the TX queue has room then. -/
def sendCopies (queued : List Bytes) (packet : Bytes) : List Bool → List Bytes × Bool
  | [] => (queued, true)
  | free :: copies =>
      match fhssServiceSendData queued packet free with
      | (_, false) => (queued, false)
      | (queued, true) => sendCopies queued packet copies

/-- `send_seed_announce_packets`. -/
def sendSeedAnnouncePackets (sender : VoiceSender) (publicSeed : UInt32)
    (free : Vector Bool fhssAudioSeedAnnounceRepeatCount) : VoiceSender × Bool :=
  let (queued, ok) := sendCopies sender.queued
    (fhssAudioSeedAnnouncePacketPack ⟨sender.txSessionId, publicSeed⟩) free.toList
  ({ sender with queued := queued }, ok)

/-- `send_end_packets`. -/
def sendEndPackets (sender : VoiceSender) (free : Vector Bool fhssAudioEndRepeatCount) :
    VoiceSender × Bool :=
  let finalSequence :=
    if sender.txSequence = 0 then fhssAudioEndNoAudioSequence else sender.txSequence - 1
  let (queued, ok) := sendCopies sender.queued
    (fhssAudioEndPacketPack ⟨sender.txSessionId, finalSequence⟩) free.toList
  ({ sender with queued := queued }, ok)

/-- The number of the next talkspurt; it skips 0. -/
def nextTxSessionId (txSessionId : UInt16) : UInt16 :=
  if txSessionId + 1 = 0 then 1 else txSessionId + 1

variable (deriveSessionHopSeed : UInt32 → UInt32)

/-- `fhss_audio_adapter_begin_tx` with the announcements; `publicSeed` is the random number
drawn. -/
def VoiceSender.beginTx (sender : VoiceSender) (publicSeed : UInt32) (hal : FhssRoleHal)
    (free : Vector Bool fhssAudioSeedAnnounceRepeatCount) : VoiceSender × Bool :=
  if sender.adapter.initialized = false ∨ sender.adapter.txActive = true ∨
      sender.adapter.otaActive = true then (sender, false)
  else
    let sender := { sender with
      frames := []
      txSequence := 0
      txPacketCount := 0
      txSessionId := nextTxSessionId sender.txSessionId }
    match fhssAudioAdapterBeginTx deriveSessionHopSeed sender.adapter publicSeed hal with
    | (adapter, false) => ({ sender with adapter := adapter }, false)
    | (adapter, true) =>
        ((sendSeedAnnouncePackets { sender with adapter := adapter } publicSeed free).1, true)

/-- `fhss_audio_adapter_submit_encoded_frame`. -/
def fhssAudioAdapterSubmitEncodedFrame (sender : VoiceSender) (frame : Bytes) (free : Bool) :
    VoiceSender × Bool :=
  if sender.adapter.txActive = false ∨ frame.length = 0 ∨
      audioCodecMaxEncodedBytes < frame.length ∨
      fhssAudioPacketMaxFrames ≤ sender.frames.length then (sender, false)
  else
    let sender := { sender with frames := sender.frames ++ [frame] }
    if sender.frames.length < fhssAudioPacketMaxFrames then (sender, true)
    else sendBufferedFrames sender 0 free

/-- What the TX queue, the radio and the operating system answer while a talkspurt ends. -/
structure EndTxHal where
  /-- The TX queue has room for the last frame. -/
  free : Bool
  /-- The TX queue has room for each copy of the END packet. -/
  endFree : Vector Bool fhssAudioEndRepeatCount
  /-- The result of `fhss_service_wait_tx_idle`. -/
  idle : Bool
  role : FhssRoleHal

/-- `fhss_audio_adapter_end_tx` with the packets it sends. -/
def VoiceSender.endTx (sender : VoiceSender) (hal : EndTxHal) : VoiceSender × Bool :=
  if sender.adapter.initialized = false ∨ sender.adapter.txActive = false then (sender, true)
  else
    let (sender, flushed) := sendBufferedFrames sender 0 hal.free
    let (sender, ended) := sendEndPackets sender hal.endFree
    let (_, role) := fhssServiceSetRole sender.adapter.service .rx hal.role
    ({ sender with adapter := fhssAudioAdapterEndTx sender.adapter hal.role },
      flushed && ended && hal.idle && role)

/-! ## The adapter below -/

section

variable {sender : VoiceSender}

/-- Sending packets leaves the adapter alone. -/
@[simp] lemma adapter_sendBufferedFrames (flags : UInt8) (free : Bool) :
    (sendBufferedFrames sender flags free).1.adapter = sender.adapter := by
  unfold sendBufferedFrames
  by_cases hempty : sender.frames.length = 0
  · rw [if_pos hempty]
  rw [if_neg hempty]
  split
  · rfl
  · split <;> rfl

/-- For the adapter, a talkspurt begins as `fhssAudioAdapterBeginTx` says. -/
lemma adapter_beginTx (publicSeed : UInt32) (hal : FhssRoleHal)
    (free : Vector Bool fhssAudioSeedAnnounceRepeatCount) :
    (sender.beginTx deriveSessionHopSeed publicSeed hal free).1.adapter =
        (fhssAudioAdapterBeginTx deriveSessionHopSeed sender.adapter publicSeed hal).1 ∧
      (sender.beginTx deriveSessionHopSeed publicSeed hal free).2 =
        (fhssAudioAdapterBeginTx deriveSessionHopSeed sender.adapter publicSeed hal).2 := by
  unfold VoiceSender.beginTx
  by_cases hrefused : sender.adapter.initialized = false ∨ sender.adapter.txActive = true ∨
      sender.adapter.otaActive = true
  · rw [if_pos hrefused]
    unfold fhssAudioAdapterBeginTx
    rw [if_pos hrefused]
    exact ⟨rfl, rfl⟩
  rw [if_neg hrefused]
  dsimp only
  cases hbegin : fhssAudioAdapterBeginTx deriveSessionHopSeed sender.adapter publicSeed hal with
  | mk adapter ok => cases ok <;> exact ⟨rfl, rfl⟩

/-- For the adapter, a talkspurt ends as `fhssAudioAdapterEndTx` says. -/
lemma adapter_endTx (hal : EndTxHal) :
    (sender.endTx hal).1.adapter = fhssAudioAdapterEndTx sender.adapter hal.role := by
  unfold VoiceSender.endTx
  by_cases hrefused : sender.adapter.initialized = false ∨ sender.adapter.txActive = false
  · rw [if_pos hrefused]
    unfold fhssAudioAdapterEndTx
    rw [if_pos hrefused]
  · rw [if_neg hrefused]
    exact congrArg (fhssAudioAdapterEndTx · hal.role) (adapter_sendBufferedFrames 0 hal.free)

end

/-! ## The frame buffer -/

/-- A call of `fhss_audio_adapter_submit_encoded_frame`; `free` says that the TX queue has room
then. -/
structure Submit where
  frame : Bytes
  free : Bool
  deriving DecidableEq

/-- A frame the codec can produce. -/
def Submit.Legal (submit : Submit) : Prop :=
  submit.frame.length ≠ 0 ∧ submit.frame.length ≤ audioCodecMaxEncodedBytes

instance (submit : Submit) : Decidable submit.Legal := by unfold Submit.Legal; infer_instance

/-- Submitting, as a step. -/
def submitStep (sender : VoiceSender) (submit : Submit) : VoiceSender × Bool :=
  fhssAudioAdapterSubmitEncodedFrame sender submit.frame submit.free

/-- The frame buffer has room for another frame. -/
def HasRoom (sender : VoiceSender) : Prop := sender.frames.length < fhssAudioPacketMaxFrames

/-- Of any two frames that meet in the buffer, the payloads fit into one packet together and the
TX queue has room when the second is submitted. -/
def PairsPass : List Submit → Prop
  | first :: second :: submits =>
      (first.frame.length + second.frame.length ≤ fhssAudioPacketMaxPayloadBytes ∧
        second.free = true) ∧ PairsPass submits
  | _ => True

instance decidablePairsPass : ∀ submits, Decidable (PairsPass submits)
  | [] => inferInstanceAs (Decidable True)
  | [_] => inferInstanceAs (Decidable True)
  | first :: second :: submits =>
      have := decidablePairsPass submits
      inferInstanceAs (Decidable ((first.frame.length + second.frame.length ≤
        fhssAudioPacketMaxPayloadBytes ∧ second.free = true) ∧ PairsPass submits))

/-- The packets of the frames that meet in the buffer, numbered from `sequence` on. -/
def pairPackets (sequence : UInt16) : List Submit → List Bytes
  | first :: second :: submits =>
      (fhssAudioPacketHeader sequence 0 [first.frame, second.frame] ++ first.frame ++
        second.frame) :: pairPackets (sequence + 1) submits
  | _ => []

/-- The sender with one frame in the buffer. -/
def VoiceSender.half (sender : VoiceSender) (first : Bytes) : VoiceSender :=
  { sender with frames := [first] }

/-- The sender after a pair of frames has been sent. -/
def VoiceSender.sent (sender : VoiceSender) (first second : Bytes) : VoiceSender :=
  { sender with
    queued := sender.queued ++
      [fhssAudioPacketHeader sender.txSequence 0 [first, second] ++ first ++ second]
    txPacketCount := sender.txPacketCount + 1
    txSequence := sender.txSequence + 1
    frames := [] }

section

variable {sender : VoiceSender}

/-- A legal frame fills an empty buffer halfway. -/
lemma submitStep_first (hactive : sender.adapter.txActive = true) (hempty : sender.frames = [])
    {submit : Submit} (hlegal : submit.Legal) :
    submitStep sender submit = (sender.half submit.frame, true) := by
  obtain ⟨hnonempty, hlength⟩ := hlegal
  unfold submitStep fhssAudioAdapterSubmitEncodedFrame
  have hcond : ¬ (sender.adapter.txActive = false ∨ submit.frame.length = 0 ∨
      audioCodecMaxEncodedBytes < submit.frame.length ∨
      fhssAudioPacketMaxFrames ≤ sender.frames.length) := by
    rintro (h | h | h | h)
    · rw [hactive] at h
      cases h
    · exact hnonempty h
    · omega
    · rw [hempty] at h
      exact absurd h (by decide)
  rw [if_neg hcond]
  dsimp only
  rw [hempty]
  rfl

/-- Two nonempty frames fit into one packet exactly if their payloads do. -/
lemma framesFit_pair {first second : Bytes} (hfirst : first.length ≠ 0)
    (hsecond : second.length ≠ 0) :
    FramesFit [first, second] ↔
      first.length + second.length ≤ fhssAudioPacketMaxPayloadBytes := by
  constructor
  · intro h
    simpa [payloadBytes] using h.payload_le
  · intro h
    refine ⟨by simp, le_rfl, ?_, by simpa [payloadBytes] using h⟩
    intro frame hmem
    rcases List.mem_cons.mp hmem with rfl | hmem
    · exact hfirst
    · rw [List.mem_singleton.mp hmem]
      exact hsecond

/-- A packet that was packed is queued when there is room. -/
lemma fhssServiceSendData_pack {sequence : UInt16} {flags : UInt8} {frames : List Bytes}
    {packet : Bytes}
    (h : fhssAudioPacketPack sequence flags frames rfTransportMaxPacketLength = .ok packet)
    (queue : List Bytes) (free : Bool) :
    fhssServiceSendData queue packet free =
      if free = false then (queue, false) else (queue ++ [packet], true) := by
  obtain ⟨hfit, -, rfl⟩ := fhssAudioPacketPack_eq_ok.mp h
  have hlength := length_fhssAudioPacketHeader_append sequence flags frames
  have hpayload := hfit.payload_le
  have hmax : fhssAudioPacketMaxPayloadBytes = 51 := rfl
  have hmaxLength : rfTransportMaxPacketLength = 60 := rfl
  have hsize : fhssAudioPacketHeaderSize = 9 := rfl
  unfold fhssServiceSendData
  rw [if_neg (by omega)]

/-- The second legal frame is sent with the first, or fills the buffer. -/
lemma submitStep_second (hactive : sender.adapter.txActive = true) {first : Bytes}
    (hfirst : first.length ≠ 0) {submit : Submit} (hlegal : submit.Legal) :
    submitStep (sender.half first) submit =
      if first.length + submit.frame.length ≤ fhssAudioPacketMaxPayloadBytes ∧
          submit.free = true then
        (sender.sent first submit.frame, true)
      else ({ sender with frames := [first, submit.frame] }, false) := by
  obtain ⟨hnonempty, hlength⟩ := hlegal
  have hfit := framesFit_pair hfirst hnonempty
  unfold submitStep fhssAudioAdapterSubmitEncodedFrame
  have hcond : ¬ ((sender.half first).adapter.txActive = false ∨ submit.frame.length = 0 ∨
      audioCodecMaxEncodedBytes < submit.frame.length ∨
      fhssAudioPacketMaxFrames ≤ (sender.half first).frames.length) := by
    rintro (h | h | h | h)
    · exact absurd (hactive.symm.trans h) (by decide)
    · exact hnonempty h
    · omega
    · exact Nat.lt_irrefl 1 h
  rw [if_neg hcond]
  have hfull : ¬ ((sender.half first).frames ++ [submit.frame]).length <
      fhssAudioPacketMaxFrames := Nat.lt_irrefl 2
  dsimp only
  rw [if_neg hfull]
  unfold sendBufferedFrames
  rw [if_neg (by simp)]
  dsimp only [VoiceSender.half, List.singleton_append]
  cases hpack : fhssAudioPacketPack sender.txSequence 0 [first, submit.frame]
      rfTransportMaxPacketLength with
  | error status =>
    have hlarge : ¬ (first.length + submit.frame.length ≤ fhssAudioPacketMaxPayloadBytes ∧
        submit.free = true) := by
      rintro ⟨hle, -⟩
      have hok := fhssAudioPacketPack_eq_ok.mpr ⟨hfit.mpr hle, (by decide : flagsAreValid 0 = true),
        (rfl : fhssAudioPacketHeader sender.txSequence 0 [first, submit.frame] ++
          [first, submit.frame].flatten = _)⟩
      rw [hpack] at hok
      cases hok
    rw [if_neg hlarge]
  | ok packet =>
    obtain ⟨hpackFit, -, hpacket⟩ := fhssAudioPacketPack_eq_ok.mp hpack
    have hle := hfit.mp hpackFit
    dsimp only
    rw [fhssServiceSendData_pack hpack]
    cases hfree : submit.free with
    | false =>
      rw [if_pos rfl, if_neg (by simp)]
    | true =>
      rw [if_neg (by simp), if_pos ⟨hle, rfl⟩, hpacket]
      simp [VoiceSender.sent]

/-- A full buffer refuses every further frame and stays full. -/
lemma finalState_of_full (hfull : fhssAudioPacketMaxFrames ≤ sender.frames.length)
    (submits : List Submit) : finalState submitStep sender submits = sender := by
  induction submits with
  | nil => rfl
  | cons submit submits ih =>
    have hrefused : (submitStep sender submit).1 = sender := by
      unfold submitStep fhssAudioAdapterSubmitEncodedFrame
      rw [if_pos (.inr (.inr (.inr hfull)))]
    rw [finalState_cons, hrefused]
    exact ih

/-- From an empty buffer, the buffer has room after every frame exactly if every pair of frames
passes, and then the packets of all pairs are queued. -/
lemma hasRoom_iff_pairsPass (hactive : sender.adapter.txActive = true)
    (hempty : sender.frames = []) {submits : List Submit}
    (hlegal : ∀ submit ∈ submits, submit.Legal) :
    ((∀ run, run <+: submits → HasRoom (finalState submitStep sender run)) ↔ PairsPass submits) ∧
      (PairsPass submits → (finalState submitStep sender submits).queued =
        sender.queued ++ pairPackets sender.txSequence submits) := by
  have hroom : HasRoom sender := by
    unfold HasRoom
    rw [hempty]
    decide
  induction submits using PairsPass.induct generalizing sender with
  | case1 first second submits ih =>
    obtain ⟨hfirst, hrest⟩ := List.forall_mem_cons.mp hlegal
    obtain ⟨hsecond, hrest⟩ := List.forall_mem_cons.mp hrest
    have hhalf : (submitStep sender first).1 = sender.half first.frame := by
      rw [submitStep_first hactive hempty hfirst]
    have hhalfRoom : HasRoom (sender.half first.frame) := Nat.lt_succ_self 1
    have hboth := submitStep_second hactive hfirst.1 hsecond
    rw [forall_prefix_cons, forall_prefix_cons, finalState_cons, finalState_cons, hhalf]
    simp only [finalState_cons, finalState_nil, hhalf]
    by_cases hpass : first.frame.length + second.frame.length ≤ fhssAudioPacketMaxPayloadBytes ∧
        second.free = true
    · -- The pair is sent and the buffer is empty again.
      rw [if_pos hpass] at hboth
      rw [hboth]
      obtain ⟨hiff, hqueued⟩ := @ih (sender.sent first.frame second.frame) hactive rfl hrest
        (by decide : 0 < 2)
      refine ⟨⟨fun h => ⟨hpass, hiff.mp h.2.2⟩, fun h => ⟨hroom, hhalfRoom, hiff.mpr h.2⟩⟩,
        fun h => ?_⟩
      rw [hqueued h.2]
      simp [VoiceSender.sent, pairPackets]
    · -- The pair stays in the buffer.
      rw [if_neg hpass] at hboth
      rw [hboth]
      refine ⟨⟨fun h => ?_, fun h => absurd h.1 hpass⟩, fun h => absurd h.1 hpass⟩
      exact absurd (h.2.2 [] List.nil_prefix) (Nat.lt_irrefl 2)
  | case2 submits hshort =>
    match submits, hshort with
    | [], _ =>
      refine ⟨⟨fun _ => trivial, fun _ run hrun => ?_⟩, fun _ => by simp [pairPackets]⟩
      rw [List.prefix_nil.mp hrun]
      exact hroom
    | [first], _ =>
      have hhalf := submitStep_first hactive hempty (hlegal first (by simp))
      refine ⟨⟨fun _ => trivial, fun _ => forall_prefix_cons.mpr ⟨hroom, fun run hrun => ?_⟩⟩,
        fun _ => ?_⟩
      · rw [List.prefix_nil.mp hrun, finalState_cons, hhalf]
        exact Nat.lt_succ_self 1
      · rw [finalState_cons, hhalf]
        simp [pairPackets, VoiceSender.half]
    | first :: second :: rest, hshort => exact absurd rfl (hshort first second rest)

end

/-! ## Transient pressure on the TX queue -/

/-- A talkspurt that has begun starts with an empty buffer and the sequence number 0. -/
lemma beginTx_spec {sender : VoiceSender} {publicSeed : UInt32} {hal : FhssRoleHal}
    {free : Vector Bool fhssAudioSeedAnnounceRepeatCount}
    (h : (sender.beginTx deriveSessionHopSeed publicSeed hal free).2 = true) :
    (sender.beginTx deriveSessionHopSeed publicSeed hal free).1.adapter.txActive = true ∧
      (sender.beginTx deriveSessionHopSeed publicSeed hal free).1.frames = [] ∧
      (sender.beginTx deriveSessionHopSeed publicSeed hal free).1.txSequence = 0 := by
  obtain ⟨hadapter, hresult⟩ := @adapter_beginTx deriveSessionHopSeed sender publicSeed hal free
  rw [hadapter]
  rw [hresult] at h
  unfold VoiceSender.beginTx
  by_cases hrefused : sender.adapter.initialized = false ∨ sender.adapter.txActive = true ∨
      sender.adapter.otaActive = true
  · unfold fhssAudioAdapterBeginTx at h
    rw [if_pos hrefused] at h
    cases h
  rw [if_neg hrefused]
  have hactive : (fhssAudioAdapterBeginTx deriveSessionHopSeed sender.adapter publicSeed
      hal).1.txActive = true := by
    unfold fhssAudioAdapterBeginTx at h ⊢
    rw [if_neg hrefused] at h ⊢
    dsimp only at h ⊢
    split at h
    · cases h
    · rfl
  refine ⟨hactive, ?_⟩
  dsimp only
  cases hbegin : fhssAudioAdapterBeginTx deriveSessionHopSeed sender.adapter publicSeed hal with
  | mk adapter ok => cases ok <;> exact ⟨rfl, rfl⟩

/-- In every talkspurt, whatever the TX queue is like at each frame, the frame buffer has room
after every submitted frame exactly if each second frame fits into one packet with the first and
finds room in the TX queue; then all pairs are queued in order. -/
theorem fhssAudioAdapterSubmitEncodedFrame_keeps_room_iff {sender : VoiceSender}
    {publicSeed : UInt32} {hal : FhssRoleHal}
    {free : Vector Bool fhssAudioSeedAnnounceRepeatCount}
    (hbegun : (sender.beginTx deriveSessionHopSeed publicSeed hal free).2 = true)
    {submits : List Submit} (hlegal : ∀ submit ∈ submits, submit.Legal) :
    let begun := (sender.beginTx deriveSessionHopSeed publicSeed hal free).1
    ((∀ run, run <+: submits → HasRoom (finalState submitStep begun run)) ↔ PairsPass submits) ∧
      (PairsPass submits → (finalState submitStep begun submits).queued =
        begun.queued ++ pairPackets 0 submits) := by
  intro begun
  obtain ⟨hactive, hempty, hsequence⟩ := beginTx_spec deriveSessionHopSeed hbegun
  obtain ⟨hiff, hqueued⟩ := hasRoom_iff_pairsPass hactive hempty hlegal
  rw [hsequence] at hqueued
  exact ⟨hiff, hqueued⟩

/-- The sample adapter before its first talkspurt. -/
def sampleSender : VoiceSender := ⟨sampleAdapter, [], 0, 0, 0, []⟩

/-- A frame of so many bytes, submitted while the TX queue is full or has room. -/
def sampleSubmit (length : ℕ) (free : Bool) : Submit := ⟨List.replicate length 0x55, free⟩

/-- A pair that fits is queued behind the announcements; the TX queue may be full at the first
frame. -/
theorem fhssAudioAdapterSubmitEncodedFrame_keeps_room_pair :
    (finalState submitStep (sampleSender.beginTx sampleDerive 7 ⟨true, true⟩ (.replicate 3 true)).1
        [sampleSubmit 20 false, sampleSubmit 31 true]).queued =
      (sampleSender.beginTx sampleDerive 7 ⟨true, true⟩ (.replicate 3 true)).1.queued ++
        pairPackets 0 [sampleSubmit 20 false, sampleSubmit 31 true] :=
  (fhssAudioAdapterSubmitEncodedFrame_keeps_room_iff sampleDerive (by decide +kernel)
    (by decide +kernel)).2 (by decide +kernel)

/-- A pair that does not fit, or one that meets a full TX queue, stays in the buffer, and pairs
that fit and find room afterwards are refused. -/
theorem fhssAudioAdapterSubmitEncodedFrame_wedges :
    let begun := (sampleSender.beginTx sampleDerive 7 ⟨true, true⟩ (.replicate 3 true)).1
    ∀ pair ∈ [[sampleSubmit 30 true, sampleSubmit 30 true],
        [sampleSubmit 20 true, sampleSubmit 20 false]],
      (∀ submit ∈ pair, submit.Legal) ∧ ¬ HasRoom (finalState submitStep begun pair) ∧
        (finalState submitStep begun
          (pair ++ [sampleSubmit 20 true, sampleSubmit 20 true])).queued = begun.queued := by
  have hwedged : ∀ pair ∈ [[sampleSubmit 30 true, sampleSubmit 30 true],
        [sampleSubmit 20 true, sampleSubmit 20 false]],
      let begun := (sampleSender.beginTx sampleDerive 7 ⟨true, true⟩ (.replicate 3 true)).1
      (∀ submit ∈ pair, submit.Legal) ∧
        (finalState submitStep begun pair).frames.length = 2 ∧
        (finalState submitStep begun pair).queued = begun.queued := by
    decide +kernel
  intro begun pair hmem
  obtain ⟨hlegal, hfull, hqueued⟩ := hwedged pair hmem
  have hfull' : fhssAudioPacketMaxFrames ≤ (finalState submitStep begun pair).frames.length :=
    le_of_eq hfull.symm
  refine ⟨hlegal, Nat.not_lt.mpr hfull', ?_⟩
  rw [finalState_append, finalState_of_full hfull']
  exact hqueued

end FhssOtaRadio
