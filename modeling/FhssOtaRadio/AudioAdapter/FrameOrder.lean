import FhssOtaRadio.AudioAdapter.VoiceWire

/-!
# The order of the audio frames (`fhss_audio_adapter.c`)

A frame that `fhss_audio_adapter_submit_encoded_frame` stores waits in the buffer until a packet
takes it, and a buffer that could not be sent is tried again when the talkspurt ends.  At every
point the packets queued so far and the buffer together hold the stored frames, and the running
number of the packets is the one the END packet refers to.
-/

namespace FhssOtaRadio

open Machine

/-- The copies of a control packet that are queued: those before the first that meets a full
queue. -/
def copiesSent (free : List Bool) : ℕ := (free.takeWhile id).length

/-- The audio packets among packets of the TX queue, unpacked. -/
def audioPackets (queued : List Bytes) : List FhssAudioPacketView :=
  queued.filterMap fhssAudioPacketUnpack

/-- What the checks of `fhss_audio_adapter_submit_encoded_frame` let into the buffer. -/
def Submit.stored (sender : VoiceSender) (submit : Submit) : List Bytes :=
  if sender.adapter.txActive = false ∨ submit.frame.length = 0 ∨
      audioCodecMaxEncodedBytes < submit.frame.length ∨
      fhssAudioPacketMaxFrames ≤ sender.frames.length then []
  else [submit.frame]

/-- The frames stored over a run of submits, in order. -/
def storedFrames : VoiceSender → List Submit → List Bytes
  | _, [] => []
  | sender, submit :: submits =>
      submit.stored sender ++ storedFrames (submitStep sender submit).1 submits

/-- Behind the packets `before` that were queued earlier, the sender has queued audio packets
that carry, followed by its buffer, exactly the stored frames, and that are numbered from 0. -/
structure TransmitsInOrder (before : List Bytes) (stored : List Bytes) (sender : VoiceSender) :
    Prop where
  kept : before <+: sender.queued
  frames : (audioPackets (sender.queued.drop before.length)).flatMap FhssAudioPacketView.frames ++
    sender.frames = stored
  numbered : ∀ k view, (audioPackets (sender.queued.drop before.length))[k]? = some view →
    view.sequence.toNat = k % 2 ^ 16

/-- The number of the next packet is the number of audio packets queued. -/
structure TransmitState (before : List Bytes) (stored : List Bytes) (sender : VoiceSender) :
    Prop extends TransmitsInOrder before stored sender where
  next : sender.txSequence.toNat =
    (audioPackets (sender.queued.drop before.length)).length % 2 ^ 16

section

variable {deriveSessionHopSeed : UInt32 → UInt32} {before stored : List Bytes}
  {sender : VoiceSender}

lemma audioPackets_append (queued queued' : List Bytes) :
    audioPackets (queued ++ queued') = audioPackets queued ++ audioPackets queued' :=
  List.filterMap_append

/-- The copies of a control packet are no audio packets. -/
lemma audioPackets_replicate {packet : Bytes} {packetType : UInt8}
    (h : VoiceBytes packet packetType) (hne : packetType ≠ fhssAudioPacketType) (copies : ℕ) :
    audioPackets (List.replicate copies packet) = [] := by
  induction copies with
  | zero => rfl
  | succ copies ih =>
    rw [List.replicate_succ]
    exact (List.filterMap_cons_none (h.audio_eq_none hne)).trans ih

/-- A packet of a legal size is queued when there is room. -/
lemma fhssServiceSendData_eq {packet : Bytes}
    (hsize : packet.length ≠ 0 ∧ packet.length ≤ rfTransportMaxPacketLength) (queued : List Bytes)
    (free : Bool) :
    fhssServiceSendData queued packet free =
      if free = false then (queued, false) else (queued ++ [packet], true) :=
  if_neg (not_or.mpr ⟨hsize.1, not_lt.mpr hsize.2⟩)

lemma size_seedAnnouncePacket (announce : FhssAudioSeedAnnouncePacket) :
    (fhssAudioSeedAnnouncePacketPack announce).length ≠ 0 ∧
      (fhssAudioSeedAnnouncePacketPack announce).length ≤ rfTransportMaxPacketLength :=
  ⟨Nat.succ_ne_zero 8, (by decide : 9 ≤ 60)⟩

lemma size_endPacket (packetEnd : FhssAudioEndPacket) :
    (fhssAudioEndPacketPack packetEnd).length ≠ 0 ∧
      (fhssAudioEndPacketPack packetEnd).length ≤ rfTransportMaxPacketLength :=
  ⟨Nat.succ_ne_zero 8, (by decide : 9 ≤ 60)⟩

/-- The copies of a control packet are queued one after the other, until one meets a full queue. -/
lemma sendCopies_eq {packet : Bytes}
    (hsize : packet.length ≠ 0 ∧ packet.length ≤ rfTransportMaxPacketLength) (queued : List Bytes)
    (free : List Bool) :
    (sendCopies queued packet free).1 = queued ++ List.replicate (copiesSent free) packet := by
  induction free generalizing queued with
  | nil => exact (List.append_nil queued).symm
  | cons room free ih =>
    unfold sendCopies
    rw [fhssServiceSendData_eq hsize]
    cases room with
    | false => exact (List.append_nil queued).symm
    | true =>
      have hcopies : copiesSent (true :: free) = copiesSent free + 1 := by
        rw [copiesSent, List.takeWhile_cons_of_pos rfl]
        rfl
      rw [if_neg (by decide), hcopies, List.replicate_succ]
      exact (ih (queued ++ [packet])).trans (List.append_assoc _ _ _)

/-! ## One packet -/

/-- `send_buffered_frames` leaves everything alone, or queues one packet that carries the buffer
under the next number. -/
lemma sendBufferedFrames_cases (sender : VoiceSender) (flags : UInt8) (free : Bool) :
    (sendBufferedFrames sender flags free).1 = sender ∨
      ∃ packet, fhssAudioPacketUnpack packet = some ⟨sender.txSequence, flags, sender.frames⟩ ∧
        (sendBufferedFrames sender flags free).1 =
          { sender with
            queued := sender.queued ++ [packet]
            txPacketCount := sender.txPacketCount + 1
            txSequence := sender.txSequence + 1
            frames := [] } := by
  unfold sendBufferedFrames
  by_cases hempty : sender.frames.length = 0
  · rw [if_pos hempty]
    exact .inl rfl
  rw [if_neg hempty]
  cases hpack : fhssAudioPacketPack sender.txSequence flags sender.frames
      rfTransportMaxPacketLength with
  | error status => exact .inl rfl
  | ok packet =>
    dsimp only
    rcases fhssServiceSendData_cases sender.queued packet free with hfull | ⟨hsent, -⟩
    · rw [hfull]
      exact .inl rfl
    · rw [hsent]
      exact .inr ⟨packet, fhssAudioPacketUnpack_pack hpack, rfl⟩

/-- Behind the earlier packets, a packet is appended to those of the session. -/
lemma drop_queued_append (hkept : before <+: sender.queued) (packets : List Bytes) :
    (sender.queued ++ packets).drop before.length =
      sender.queued.drop before.length ++ packets :=
  List.drop_append_of_le_length hkept.length_le

/-- Sending the buffer keeps the order. -/
lemma TransmitState.sendBufferedFrames (h : TransmitState before stored sender) (flags : UInt8)
    (free : Bool) :
    TransmitState before stored (sendBufferedFrames sender flags free).1 := by
  obtain hsame | ⟨packet, hunpack, hsent⟩ := sendBufferedFrames_cases sender flags free
  · rw [hsame]
    exact h
  have haudio : audioPackets ((sender.queued ++ [packet]).drop before.length) =
      audioPackets (sender.queued.drop before.length) ++
        [⟨sender.txSequence, flags, sender.frames⟩] := by
    rw [drop_queued_append h.kept, audioPackets_append]
    exact congrArg _ (List.filterMap_cons_some hunpack)
  rw [hsent]
  refine ⟨⟨h.kept.trans (List.prefix_append _ _), ?_, ?_⟩, ?_⟩
  · dsimp only
    rw [haudio, List.flatMap_append, List.flatMap_singleton, List.append_nil]
    exact h.frames
  · intro k view hview
    dsimp only at hview
    rw [haudio] at hview
    rcases Nat.lt_or_ge k (audioPackets (sender.queued.drop before.length)).length with hk | hk
    · rw [List.getElem?_append_left hk] at hview
      exact h.numbered k view hview
    · rw [List.getElem?_append_right hk, List.getElem?_singleton] at hview
      split_ifs at hview with hlast
      obtain rfl := Option.some.inj hview
      rw [h.next]
      omega
  · dsimp only
    rw [haudio, List.length_append, List.length_singleton, UInt16.toNat_add, h.next]
    exact Nat.mod_add_mod _ _ _

/-- Control packets keep the order. -/
lemma TransmitState.queue_control (h : TransmitState before stored sender) {packet : Bytes}
    {packetType : UInt8} (hbytes : VoiceBytes packet packetType)
    (hne : packetType ≠ fhssAudioPacketType) (copies : ℕ) :
    TransmitState before stored
      { sender with queued := sender.queued ++ List.replicate copies packet } := by
  have haudio : audioPackets ((sender.queued ++ List.replicate copies packet).drop
      before.length) = audioPackets (sender.queued.drop before.length) := by
    rw [drop_queued_append h.kept, audioPackets_append, audioPackets_replicate hbytes hne,
      List.append_nil]
  refine ⟨⟨h.kept.trans (List.prefix_append _ _), ?_, ?_⟩, ?_⟩
  · dsimp only
    rw [haudio]
    exact h.frames
  · dsimp only
    rw [haudio]
    exact h.numbered
  · dsimp only
    rw [haudio]
    exact h.next

/-! ## A talkspurt -/

/-- Storing a frame appends it to what is stored. -/
lemma TransmitState.store (h : TransmitState before stored sender) (frame : Bytes) :
    TransmitState before (stored ++ [frame])
      { sender with frames := sender.frames ++ [frame] } := by
  refine { h with frames := ?_ }
  dsimp only
  rw [← List.append_assoc, h.frames]

/-- A submit is refused, or stores its frame and may then send the buffer. -/
lemma submitStep_cases (sender : VoiceSender) (submit : Submit) :
    (submit.stored sender = [] ∧ (submitStep sender submit).1 = sender) ∨
      (submit.stored sender = [submit.frame] ∧
        let filled := { sender with frames := sender.frames ++ [submit.frame] }
        ((submitStep sender submit).1 = filled ∨
          (submitStep sender submit).1 = (sendBufferedFrames filled 0 submit.free).1)) := by
  unfold submitStep fhssAudioAdapterSubmitEncodedFrame Submit.stored
  by_cases hrefused : sender.adapter.txActive = false ∨ submit.frame.length = 0 ∨
      audioCodecMaxEncodedBytes < submit.frame.length ∨
      fhssAudioPacketMaxFrames ≤ sender.frames.length
  · rw [if_pos hrefused, if_pos hrefused]
    exact .inl ⟨rfl, rfl⟩
  rw [if_neg hrefused, if_neg hrefused]
  refine .inr ⟨rfl, ?_⟩
  dsimp only
  split_ifs
  · exact .inl rfl
  · exact .inr rfl

/-- A submit keeps the order, with its frame behind the others if it is stored. -/
lemma TransmitState.submit (h : TransmitState before stored sender) (submit : Submit) :
    TransmitState before (stored ++ submit.stored sender) (submitStep sender submit).1 := by
  obtain ⟨hstored, hstep⟩ | ⟨hstored, hstep | hstep⟩ := submitStep_cases sender submit
  · rw [hstored, hstep, List.append_nil]
    exact h
  · rw [hstored, hstep]
    exact h.store submit.frame
  · rw [hstored, hstep]
    exact (h.store submit.frame).sendBufferedFrames 0 submit.free

/-- Submits keep the order. -/
lemma TransmitState.run (h : TransmitState before stored sender) (submits : List Submit) :
    TransmitState before (stored ++ storedFrames sender submits)
      (finalState submitStep sender submits) := by
  induction submits generalizing stored sender with
  | nil =>
    unfold storedFrames
    rw [List.append_nil]
    exact h
  | cons submit submits ih =>
    unfold storedFrames
    rw [← List.append_assoc]
    exact ih (h.submit submit)

/-- What submits leave alone. -/
lemma finalState_submitStep_kept (submits : List Submit) :
    (finalState submitStep sender submits).adapter = sender.adapter ∧
      (finalState submitStep sender submits).txSessionId = sender.txSessionId := by
  have hflush : ∀ (sender : VoiceSender) flags free,
      (sendBufferedFrames sender flags free).1.adapter = sender.adapter ∧
        (sendBufferedFrames sender flags free).1.txSessionId = sender.txSessionId := by
    intro sender flags free
    obtain hsame | ⟨packet, -, hsent⟩ := sendBufferedFrames_cases sender flags free
    · rw [hsame]
      exact ⟨rfl, rfl⟩
    · rw [hsent]
      exact ⟨rfl, rfl⟩
  induction submits generalizing sender with
  | nil => exact ⟨rfl, rfl⟩
  | cons submit submits ih =>
    have hstep : (submitStep sender submit).1.adapter = sender.adapter ∧
        (submitStep sender submit).1.txSessionId = sender.txSessionId := by
      obtain ⟨-, hstep⟩ | ⟨-, hstep | hstep⟩ := submitStep_cases sender submit
      · rw [hstep]
        exact ⟨rfl, rfl⟩
      · rw [hstep]
        exact ⟨rfl, rfl⟩
      · rw [hstep]
        exact hflush _ 0 submit.free
    obtain ⟨hadapter, hsession⟩ := @ih (submitStep sender submit).1
    exact ⟨hadapter.trans hstep.1, hsession.trans hstep.2⟩

/-- A talkspurt that has begun has queued announcements only, and holds the next session id. -/
lemma transmitState_beginTx {publicSeed : UInt32} {hal : FhssRoleHal}
    {free : Vector Bool fhssAudioSeedAnnounceRepeatCount}
    (h : (sender.beginTx deriveSessionHopSeed publicSeed hal free).2 = true) :
    let begun := (sender.beginTx deriveSessionHopSeed publicSeed hal free).1
    TransmitState sender.queued [] begun ∧ begun.adapter.initialized = true ∧
      begun.adapter.txActive = true ∧ begun.txSessionId = nextTxSessionId sender.txSessionId := by
  have hactive := (beginTx_spec deriveSessionHopSeed h).1
  have hnothing : audioPackets (sender.queued.drop sender.queued.length) = [] := by
    rw [List.drop_length]
    rfl
  have hfresh : ∀ fresh : VoiceSender, fresh.queued = sender.queued → fresh.frames = [] →
      fresh.txSequence = 0 → TransmitState sender.queued [] fresh := by
    intro fresh hqueued hframes hsequence
    refine ⟨⟨hqueued ▸ List.prefix_refl _, ?_, ?_⟩, ?_⟩
    · rw [hqueued, hnothing, hframes]
      rfl
    · intro k view hview
      rw [hqueued, hnothing] at hview
      cases hview
    · rw [hqueued, hnothing, hsequence]
      rfl
  unfold VoiceSender.beginTx at h hactive ⊢
  by_cases hrefused : sender.adapter.initialized = false ∨ sender.adapter.txActive = true ∨
      sender.adapter.otaActive = true
  · rw [if_pos hrefused] at h
    cases h
  rw [if_neg hrefused] at h hactive ⊢
  dsimp only at h hactive ⊢
  have hinitialized : (fhssAudioAdapterBeginTx deriveSessionHopSeed sender.adapter publicSeed
      hal).1.initialized = true := by
    rw [not_or, Bool.not_eq_false] at hrefused
    unfold fhssAudioAdapterBeginTx
    split_ifs
    · exact hrefused.1
    · dsimp only
      split <;> exact hrefused.1
  cases hbegin : fhssAudioAdapterBeginTx deriveSessionHopSeed sender.adapter publicSeed hal with
  | mk adapter ok =>
    rw [hbegin] at h hactive hinitialized
    cases ok with
    | false => cases h
    | true =>
      dsimp only [sendSeedAnnouncePackets] at hactive hinitialized ⊢
      rw [sendCopies_eq (size_seedAnnouncePacket _)]
      exact ⟨(hfresh ⟨adapter, [], 0, nextTxSessionId sender.txSessionId, 0, sender.queued⟩
        rfl rfl rfl).queue_control (voiceBytes_seedAnnounce
          (fhssAudioSeedAnnouncePacketUnpack_pack _)) (by decide) _,
        hinitialized, hactive, rfl⟩

/-- The END packets follow everything else, and refer to the last audio packet by its number. -/
lemma sendEndPackets_spec (h : TransmitState before stored sender)
    (free : Vector Bool fhssAudioEndRepeatCount) :
    TransmitState before stored (sendEndPackets sender free).1 ∧
      ∃ finalSequence : UInt16,
        (sendEndPackets sender free).1.queued =
          sender.queued ++ List.replicate (copiesSent free.toList)
            (fhssAudioEndPacketPack ⟨sender.txSessionId, finalSequence⟩) ∧
        finalSequence.toNat = ((audioPackets ((sendEndPackets sender free).1.queued.drop
          before.length)).length + (2 ^ 16 - 1)) % 2 ^ 16 := by
  obtain ⟨finalSequence, hfinal⟩ : ∃ finalSequence : UInt16, finalSequence =
      if sender.txSequence = 0 then fhssAudioEndNoAudioSequence else sender.txSequence - 1 :=
    ⟨_, rfl⟩
  -- the marker of a talkspurt without audio is also what a counter that wrapped to 0 precedes
  have hnumber : finalSequence.toNat = (sender.txSequence.toNat + (2 ^ 16 - 1)) % 2 ^ 16 := by
    rw [hfinal]
    split_ifs with hzero
    · rw [hzero]
      rfl
    · rw [UInt16.toNat_sub, show (1 : UInt16).toNat = 1 from rfl]
      omega
  have hcopies := sendCopies_eq (size_endPacket ⟨sender.txSessionId, finalSequence⟩) sender.queued
    free.toList
  have hsent : (sendEndPackets sender free).1 = { sender with
      queued := sender.queued ++ List.replicate (copiesSent free.toList)
        (fhssAudioEndPacketPack ⟨sender.txSessionId, finalSequence⟩) } := by
    unfold sendEndPackets
    dsimp only
    rw [← hfinal, hcopies]
  have hbytes := voiceBytes_end (fhssAudioEndPacketUnpack_pack ⟨sender.txSessionId, finalSequence⟩)
  rw [hsent]
  refine ⟨h.queue_control hbytes (by decide) _, finalSequence, rfl, ?_⟩
  dsimp only
  rw [drop_queued_append h.kept, audioPackets_append, audioPackets_replicate hbytes (by decide),
    List.append_nil, hnumber, h.next]
  omega

/-- **Audio frames are transmitted in order.**  In every talkspurt, whatever is submitted and
whenever the TX queue is full, the audio packets queued so far followed by the buffer hold exactly
the frames that were stored, in order, and are numbered from 0 modulo `2 ^ 16`: while frames are
submitted (`running`), after the end of the talkspurt has tried the buffer again (`flushed`) and
after it (`ended`).  The copies of the END packet, all of them when the TX queue has room for each,
come last and carry the number of the last audio packet, which is the marker `0xFFFF` when there is
none. -/
theorem audioFrames_transmitted_in_order {publicSeed : UInt32} {hal : FhssRoleHal}
    {free : Vector Bool fhssAudioSeedAnnounceRepeatCount}
    (hbegun : (sender.beginTx deriveSessionHopSeed publicSeed hal free).2 = true)
    (submits : List Submit) (endHal : EndTxHal) :
    let begun := (sender.beginTx deriveSessionHopSeed publicSeed hal free).1
    let running := finalState submitStep begun submits
    let flushed := (sendBufferedFrames running 0 endHal.free).1
    let ended := (running.endTx endHal).1
    (∀ state ∈ [running, flushed, ended],
      TransmitsInOrder sender.queued (storedFrames begun submits) state) ∧
    ∃ finalSequence : UInt16,
      ended.queued = flushed.queued ++ List.replicate (copiesSent endHal.endFree.toList)
        (fhssAudioEndPacketPack ⟨nextTxSessionId sender.txSessionId, finalSequence⟩) ∧
      finalSequence.toNat = ((audioPackets (ended.queued.drop sender.queued.length)).length +
        (2 ^ 16 - 1)) % 2 ^ 16 := by
  intro begun running flushed ended
  obtain ⟨hstart, hinitialized, hactive, hsession⟩ := transmitState_beginTx hbegun
  have hrunning : TransmitState sender.queued (storedFrames begun submits) running :=
    hstart.run submits
  obtain ⟨hadapter, hkept⟩ := @finalState_submitStep_kept begun submits
  have hflushed : TransmitState sender.queued (storedFrames begun submits) flushed :=
    hrunning.sendBufferedFrames 0 endHal.free
  obtain ⟨hended, finalSequence, hqueued, hnumber⟩ :=
    sendEndPackets_spec hflushed endHal.endFree
  have hid : flushed.txSessionId = nextTxSessionId sender.txSessionId := by
    obtain hsame | ⟨packet, -, hsent⟩ := sendBufferedFrames_cases running 0 endHal.free
    · exact (congrArg VoiceSender.txSessionId hsame).trans (hkept.trans hsession)
    · exact (congrArg VoiceSender.txSessionId hsent).trans (hkept.trans hsession)
  have hend : ended = { (sendEndPackets flushed endHal.endFree).1 with
      adapter := fhssAudioAdapterEndTx (sendEndPackets flushed endHal.endFree).1.adapter
        endHal.role } := by
    have hopen : ¬ (running.adapter.initialized = false ∨ running.adapter.txActive = false) := by
      rw [show running.adapter = begun.adapter from hadapter, hinitialized, hactive]
      decide
    change (running.endTx endHal).1 = _
    unfold VoiceSender.endTx
    rw [if_neg hopen]
  rw [hend]
  rw [hid] at hqueued
  refine ⟨?_, finalSequence, hqueued, hnumber⟩
  intro state hstate
  rcases List.mem_cons.mp hstate with rfl | hstate
  · exact hrunning.toTransmitsInOrder
  rcases List.mem_cons.mp hstate with rfl | hstate
  · exact hflushed.toTransmitsInOrder
  · rw [List.mem_singleton.mp hstate]
    exact ⟨hended.kept, hended.frames, hended.numbered⟩

end

/-- A frame that met a full TX queue with its pair is sent when the talkspurt ends, before the three
copies of the END packet, which name its packet. -/
theorem audioFrames_transmitted_in_order_retry :
    let begun := (sampleSender.beginTx sampleDerive 7 ⟨true, true⟩ (.replicate 3 true)).1
    let submits := [sampleSubmit 20 true, sampleSubmit 20 false, sampleSubmit 0 true]
    let endHal : EndTxHal := ⟨true, .replicate 3 true, true, ⟨true, true⟩⟩
    let flushed := (sendBufferedFrames (finalState submitStep begun submits) 0 endHal.free).1
    let ended := ((finalState submitStep begun submits).endTx endHal).1
    TransmitsInOrder [] (storedFrames begun submits) ended ∧
      (storedFrames begun submits).length = 2 ∧ ended.frames = [] ∧
      flushed.queued.length = 4 ∧
      ended.queued = flushed.queued ++ List.replicate 3 (fhssAudioEndPacketPack ⟨1, 0⟩) := by
  intro begun submits endHal flushed ended
  have hbegun : (sampleSender.beginTx sampleDerive 7 ⟨true, true⟩ (.replicate 3 true)).2 =
      true := by
    decide +kernel
  obtain ⟨hin, finalSequence, hqueued, hnumber⟩ :=
    audioFrames_transmitted_in_order hbegun submits endHal
  refine ⟨hin ended (List.mem_cons_of_mem _ (List.mem_cons_of_mem _ (List.mem_singleton_self _))),
    by decide +kernel, by decide +kernel, by decide +kernel, ?_⟩
  have hzero : finalSequence = 0 := UInt16.toNat_inj.mp (hnumber.trans (by decide +kernel))
  have hcopies : copiesSent endHal.endFree.toList = 3 := rfl
  have hid : nextTxSessionId sampleSender.txSessionId = 1 := rfl
  rw [hzero, hcopies, hid] at hqueued
  simp only [ended, flushed, begun]
  exact hqueued

end FhssOtaRadio
