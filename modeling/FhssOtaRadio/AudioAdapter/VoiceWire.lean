import FhssOtaRadio.AudioAdapter.SeedAnnounce

/-!
# The voice packets on the wire (`fhss_audio_packet.c`)

Packing writes through out-parameters and unpacking is zero-copy: the frames of a view point into
the packet.  The first half says that the two are inverse to each other and that the frames of a
view tile the payload.  The second half is about the three formats together: the type byte tells
them apart, so the order in which `on_service_data` tries them does not matter.
-/

namespace FhssOtaRadio

/-! ## Packing through out-parameters -/

/-- What the out-parameters of `fhss_audio_packet_pack` point to; `none` is `NULL`. -/
structure PackTarget where
  outPacket : Option Bytes
  outLength : Option ℕ
  deriving DecidableEq

/-- The loop of `fhss_audio_packet_pack` over frames whose data may be `NULL`. -/
def packPayloadLengthOfViews (payloadLength : ℕ) :
    List (Option Bytes) → Except FhssAudioPacketStatus ℕ
  | [] => .ok payloadLength
  | none :: _ => .error .invalidArgument
  | some data :: frames =>
      if data.length = 0 ∨ 255 < data.length then .error .invalidArgument
      else if fhssAudioPacketMaxPayloadBytes - payloadLength < data.length then
        .error .payloadTooLarge
      else packPayloadLengthOfViews (payloadLength + data.length) frames

/-- `memcpy` to the start of a buffer. -/
def overwrite (buffer bytes : Bytes) : Bytes := bytes ++ buffer.drop bytes.length

/-- `fhss_audio_packet_pack` with its pointers: the status, `none` for `OK`, and what the
out-parameters point to afterwards. -/
def fhssAudioPacketPackTo (sequence : UInt16) (flags : UInt8) (frames : Option (List (Option Bytes)))
    (outCapacity : ℕ) (target : PackTarget) : Option FhssAudioPacketStatus × PackTarget :=
  match frames, target.outPacket, target.outLength with
  | some frames, some outPacket, some _ =>
      if frames.length = 0 ∨ fhssAudioPacketMaxFrames < frames.length ∨
          flagsAreValid flags = false then (some .invalidArgument, target)
      else
        match packPayloadLengthOfViews 0 frames with
        | .error status => (some status, target)
        | .ok payloadLength =>
            let packetLength := fhssAudioPacketHeaderSize + payloadLength
            if outCapacity < packetLength then (some .bufferTooSmall, target)
            else
              let data := frames.map (·.getD [])
              (none,
                ⟨some (overwrite outPacket
                  (fhssAudioPacketHeader sequence flags data ++ data.flatten)), some packetLength⟩)
  | _, _, _ => (some .invalidArgument, target)

/-! ## Zero-copy views -/

/-- `fhss_audio_frame_view_t` as a place in the packet. -/
structure FhssAudioFrameView where
  offset : ℕ
  length : ℕ
  deriving DecidableEq

/-- The bytes a frame view points to. -/
def FhssAudioFrameView.data (packet : Bytes) (frame : FhssAudioFrameView) : Bytes :=
  (packet.drop frame.offset).take frame.length

/-- `fhss_audio_packet_view_t` with its frames as places in the packet. -/
structure FhssAudioPacketPlaces where
  sequence : UInt16
  flags : UInt8
  frames : List FhssAudioFrameView
  deriving DecidableEq

/-- The last loop of `fhss_audio_packet_unpack`: one frame behind the other. -/
def placeFrames (payloadOffset : ℕ) : List ℕ → List FhssAudioFrameView
  | [] => []
  | frameLength :: frameLengths =>
      ⟨payloadOffset, frameLength⟩ :: placeFrames (payloadOffset + frameLength) frameLengths

/-- `fhss_audio_packet_unpack` with the places of the frames; `none` is `INVALID_FORMAT`. -/
def fhssAudioPacketUnpackPlaces (packet : Bytes) : Option FhssAudioPacketPlaces :=
  if packet.length < fhssAudioPacketHeaderSize ∨ rfTransportMaxPacketLength < packet.length ∨
      packet.getD 0 0 ≠ fhssAudioPacketMagic ∨ packet.getD 1 0 ≠ fhssAudioPacketVersion ∨
      packet.getD 2 0 ≠ fhssAudioPacketType ∨ flagsAreValid (packet.getD 3 0) = false then none
  else if packet.getD 4 0 = 0 ∨ fhssAudioPacketMaxFrames < (packet.getD 4 0).toNat then none
  else if packet.getD 4 0 = 1 ∧ packet.getD 8 0 ≠ 0 then none
  else
    match unpackPayloadLength 0 (headerFrameLengths packet) with
    | none => none
    | some payloadLength =>
        if packet.length ≠ fhssAudioPacketHeaderSize + payloadLength then none
        else
          some ⟨readU16Le packet 5, packet.getD 3 0,
            placeFrames fhssAudioPacketHeaderSize (headerFrameLengths packet)⟩

/-- The view with the bytes its frames point to. -/
def FhssAudioPacketPlaces.view (packet : Bytes) (places : FhssAudioPacketPlaces) :
    FhssAudioPacketView :=
  ⟨places.sequence, places.flags, places.frames.map (·.data packet)⟩

/-- The frames lie one behind the other, none empty, from `start` to `stop`. -/
def Tiles : ℕ → ℕ → List FhssAudioFrameView → Prop
  | start, stop, [] => start = stop
  | start, stop, frame :: frames =>
      frame.offset = start ∧ 0 < frame.length ∧ Tiles (start + frame.length) stop frames

/-- Tiles lie between their ends. -/
lemma Tiles.inside {frames : List FhssAudioFrameView} {start stop : ℕ}
    (h : Tiles start stop frames) :
    start ≤ stop ∧ ∀ frame ∈ frames, start ≤ frame.offset ∧ frame.offset + frame.length ≤ stop := by
  induction frames generalizing start with
  | nil => exact ⟨h.le, fun frame hmem => absurd hmem List.not_mem_nil⟩
  | cons frame frames ih =>
      obtain ⟨hoffset, -, hrest⟩ := h
      obtain ⟨hle, hinside⟩ := ih hrest
      refine ⟨by omega, ?_⟩
      intro frame' hmem
      rcases List.mem_cons.mp hmem with rfl | hmem
      · omega
      · have hframe := hinside frame' hmem
        omega

/-- The last loop of `fhss_audio_packet_unpack` tiles the payload. -/
lemma tiles_placeFrames {frameLengths : List ℕ} (payloadOffset : ℕ)
    (h : ∀ frameLength ∈ frameLengths, frameLength ≠ 0) :
    Tiles payloadOffset (payloadOffset + frameLengths.sum)
      (placeFrames payloadOffset frameLengths) := by
  induction frameLengths generalizing payloadOffset with
  | nil => rfl
  | cons frameLength frameLengths ih =>
      rw [List.forall_mem_cons] at h
      have hrest := ih (payloadOffset + frameLength) h.2
      rw [List.sum_cons, ← Nat.add_assoc]
      exact ⟨rfl, Nat.pos_of_ne_zero h.1, hrest⟩

/-- The places of the frames are where the payload is cut. -/
lemma map_data_placeFrames (packet : Bytes) (payloadOffset : ℕ) (frameLengths : List ℕ) :
    (placeFrames payloadOffset frameLengths).map (·.data packet) =
      cutFrames frameLengths (packet.drop payloadOffset) := by
  induction frameLengths generalizing payloadOffset with
  | nil => rfl
  | cons frameLength frameLengths ih =>
      rw [placeFrames, List.map_cons, ih, cutFrames, List.drop_drop]
      rfl

/-- The zero-copy view holds the frames of the packet. -/
lemma view_fhssAudioPacketUnpackPlaces (packet : Bytes) :
    (fhssAudioPacketUnpackPlaces packet).map (·.view packet) = fhssAudioPacketUnpack packet := by
  have hframes := map_data_placeFrames packet fhssAudioPacketHeaderSize (headerFrameLengths packet)
  unfold fhssAudioPacketUnpackPlaces fhssAudioPacketUnpack
  split_ifs
  · rfl
  · rfl
  · rfl
  · cases unpackPayloadLength 0 (headerFrameLengths packet) with
    | none => rfl
    | some payloadLength =>
      dsimp only
      split_ifs
      · rfl
      · rw [Option.map_some, FhssAudioPacketPlaces.view, hframes]

/-- The frames of an accepted packet tile it behind the header. -/
lemma tiles_fhssAudioPacketUnpackPlaces {packet : Bytes} {places : FhssAudioPacketPlaces}
    (h : fhssAudioPacketUnpackPlaces packet = some places) :
    Tiles fhssAudioPacketHeaderSize packet.length places.frames := by
  unfold fhssAudioPacketUnpackPlaces at h
  split_ifs at h
  cases hloop : unpackPayloadLength 0 (headerFrameLengths packet) with
  | none =>
    rw [hloop] at h
    cases h
  | some payloadLength =>
    rw [hloop] at h
    obtain ⟨hnonzero, -, htotal⟩ := (unpackPayloadLength_eq_some (Nat.zero_le _)).mp hloop
    dsimp only at h
    split_ifs at h with hlength
    obtain rfl := Option.some.inj h
    have htiles := tiles_placeFrames fhssAudioPacketHeaderSize hnonzero
    have htotal : packet.length = fhssAudioPacketHeaderSize + (headerFrameLengths packet).sum := by
      omega
    rw [htotal]
    exact htiles

/-! ## Packing -/

/-- Frames whose data is there are measured as before. -/
lemma packPayloadLengthOfViews_some (payloadLength : ℕ) (frames : List Bytes) :
    packPayloadLengthOfViews payloadLength (frames.map some) =
      packPayloadLength payloadLength frames := by
  induction frames generalizing payloadLength with
  | nil => rfl
  | cons frame frames ih =>
      rw [List.map_cons, packPayloadLengthOfViews, packPayloadLength, ih]

/-- Frames that fit are packed into every buffer that is large enough. -/
lemma fhssAudioPacketPackTo_of_fits {sequence : UInt16} {flags : UInt8} {frames : List Bytes}
    (hfit : FramesFit frames) (hflags : flagsAreValid flags = true) {outPacket : Bytes}
    (hroom : fhssAudioPacketHeaderSize + payloadBytes frames ≤ outPacket.length) (outLength : ℕ) :
    fhssAudioPacketPackTo sequence flags (some (frames.map some)) outPacket.length
        ⟨some outPacket, some outLength⟩ =
      (none, ⟨some (overwrite outPacket
        (fhssAudioPacketHeader sequence flags frames ++ frames.flatten)),
        some (fhssAudioPacketHeaderSize + payloadBytes frames)⟩) := by
  have hloop : packPayloadLength 0 frames = .ok (payloadBytes frames) :=
    (packPayloadLength_eq_ok (Nat.zero_le _)).mpr
      ⟨hfit.nonempty, by simpa using hfit.payload_le, (Nat.zero_add _).symm⟩
  have hvalid : ¬ ((frames.map some).length = 0 ∨
      fhssAudioPacketMaxFrames < (frames.map some).length ∨ flagsAreValid flags = false) := by
    rw [List.length_map, hflags]
    rintro (h | h | h)
    · exact hfit.some_frame h
    · exact absurd h (Nat.not_lt.mpr hfit.count_le)
    · cases h
  have hdata : (frames.map some).map (·.getD []) = frames := by
    rw [List.map_map]
    exact List.map_id frames
  unfold fhssAudioPacketPackTo
  dsimp only
  rw [if_neg hvalid, packPayloadLengthOfViews_some, hloop]
  dsimp only
  rw [if_neg (Nat.not_lt.mpr hroom), hdata]

/-- A packing that fails writes nothing. -/
lemma fhssAudioPacketPackTo_error {sequence : UInt16} {flags : UInt8}
    {frames : Option (List (Option Bytes))} {outCapacity : ℕ} {target target' : PackTarget}
    {status : FhssAudioPacketStatus}
    (h : fhssAudioPacketPackTo sequence flags frames outCapacity target =
      (some status, target')) : target' = target := by
  unfold fhssAudioPacketPackTo at h
  split at h
  · split_ifs at h
    · exact (Prod.mk.inj h).2.symm
    · split at h
      · exact (Prod.mk.inj h).2.symm
      · dsimp only at h
        split_ifs at h
        · exact (Prod.mk.inj h).2.symm
        · cases (Prod.mk.inj h).1
  · exact (Prod.mk.inj h).2.symm

/-- A packet is accepted exactly when it is a packed one. -/
lemma fhssAudioPacketUnpack_isSome_iff {packet : Bytes} :
    (fhssAudioPacketUnpack packet).isSome ↔
      ∃ sequence flags frames, flagsAreValid flags = true ∧ FramesFit frames ∧
        packet = fhssAudioPacketHeader sequence flags frames ++ frames.flatten := by
  constructor
  · intro h
    obtain ⟨view, hview⟩ := Option.isSome_iff_exists.mp h
    obtain ⟨hfit, hflags, hpacket⟩ :=
      fhssAudioPacketPack_eq_ok.mp (fhssAudioPacketPack_unpack hview)
    exact ⟨view.sequence, view.flags, view.frames, hflags, hfit, hpacket⟩
  · rintro ⟨sequence, flags, frames, hflags, hfit, hpacket⟩
    have hpack := fhssAudioPacketPack_eq_ok.mpr ⟨hfit, hflags, hpacket⟩
    rw [fhssAudioPacketUnpack_pack hpack]
    rfl

/-- **The voice wire format is a bijection.**  One or two frames that fit are packed into at most
60 bytes, of which unpacking returns what was packed.  The frames of an accepted packet lie inside
it, one behind the other, and cover it behind the header; packing them again gives the same
bytes.  What is not packed so is not accepted, and a packing that fails writes nothing. -/
theorem fhssAudioPacket_bijection :
    (∀ sequence flags frames, flagsAreValid flags = true → FramesFit frames →
      ∀ outPacket : Bytes, fhssAudioPacketHeaderSize + payloadBytes frames ≤ outPacket.length →
      ∀ outLength, ∃ packet, fhssAudioPacketPackTo sequence flags (some (frames.map some))
          outPacket.length ⟨some outPacket, some outLength⟩ =
        (none, ⟨some (overwrite outPacket packet), some packet.length⟩) ∧
      packet.length = 9 + payloadBytes frames ∧ packet.length ≤ 60 ∧
      fhssAudioPacketUnpack packet = some ⟨sequence, flags, frames⟩) ∧
    (∀ packet places, fhssAudioPacketUnpackPlaces packet = some places →
      fhssAudioPacketUnpack packet = some (places.view packet) ∧
      Tiles 9 packet.length places.frames ∧
      (∀ frame ∈ places.frames, frame.offset + frame.length ≤ packet.length) ∧
      ∀ outPacket : Bytes, packet.length ≤ outPacket.length → ∀ outLength,
        fhssAudioPacketPackTo places.sequence places.flags
            (some (places.frames.map fun frame => some (frame.data packet)))
            outPacket.length ⟨some outPacket, some outLength⟩ =
          (none, ⟨some (overwrite outPacket packet), some packet.length⟩)) ∧
    (∀ packet, (¬ ∃ sequence flags frames, flagsAreValid flags = true ∧ FramesFit frames ∧
      packet = fhssAudioPacketHeader sequence flags frames ++ frames.flatten) →
      fhssAudioPacketUnpackPlaces packet = none) ∧
    ∀ sequence flags frames outCapacity target status target',
      fhssAudioPacketPackTo sequence flags frames outCapacity target = (some status, target') →
      target' = target := by
  have hsize : fhssAudioPacketHeaderSize = 9 := rfl
  refine ⟨?_, ?_, ?_, fun _ _ _ _ _ _ _ h => fhssAudioPacketPackTo_error h⟩
  · intro sequence flags frames hflags hfit outPacket hroom outLength
    have hlength := length_fhssAudioPacketHeader_append sequence flags frames
    have hpack : fhssAudioPacketPack sequence flags frames rfTransportMaxPacketLength =
        .ok (fhssAudioPacketHeader sequence flags frames ++ frames.flatten) :=
      fhssAudioPacketPack_eq_ok.mpr ⟨hfit, hflags, rfl⟩
    have hpayload : payloadBytes frames ≤ 51 := hfit.payload_le
    refine ⟨fhssAudioPacketHeader sequence flags frames ++ frames.flatten, ?_, ?_, ?_,
      fhssAudioPacketUnpack_pack hpack⟩
    · rw [fhssAudioPacketPackTo_of_fits hfit hflags hroom, hlength]
    · omega
    · omega
  · intro packet places hplaces
    have hview : fhssAudioPacketUnpack packet = some (places.view packet) := by
      rw [← view_fhssAudioPacketUnpackPlaces, hplaces]
      rfl
    have htiles := tiles_fhssAudioPacketUnpackPlaces hplaces
    refine ⟨hview, htiles, fun frame hmem => (htiles.inside.2 frame hmem).2, ?_⟩
    intro outPacket hroom outLength
    obtain ⟨hfit, hflags, hpacket⟩ :=
      fhssAudioPacketPack_eq_ok.mp (fhssAudioPacketPack_unpack hview)
    have hlength := length_fhssAudioPacketHeader_append (places.view packet).sequence
      (places.view packet).flags (places.view packet).frames
    rw [← hpacket] at hlength
    have hpack := @fhssAudioPacketPackTo_of_fits (places.view packet).sequence
      (places.view packet).flags (places.view packet).frames hfit hflags outPacket
      (hlength ▸ hroom) outLength
    rw [← hpacket, ← hlength] at hpack
    have hframes : (places.view packet).frames.map some =
        places.frames.map fun frame => some (frame.data packet) := List.map_map
    rw [hframes] at hpack
    exact hpack
  · intro packet hnot
    have hreject := mt fhssAudioPacketUnpack_isSome_iff.mp hnot
    rw [← view_fhssAudioPacketUnpackPlaces, Option.isSome_map] at hreject
    simpa using hreject

/-- Two frames of one and two bytes. -/
theorem fhssAudioPacket_bijection_pair :
    ∃ packet, fhssAudioPacketPackTo 7 0 (some ([[1], [2, 3]].map some)) 60
        ⟨some (List.replicate 60 0), some 0⟩ =
      (none, ⟨some (overwrite (List.replicate 60 0) packet), some packet.length⟩) ∧
    packet.length = 9 + payloadBytes [[1], [2, 3]] ∧ packet.length ≤ 60 ∧
    fhssAudioPacketUnpack packet = some ⟨7, 0, [[1], [2, 3]]⟩ :=
  fhssAudioPacket_bijection.1 7 0 [[1], [2, 3]] (by decide)
    ⟨by decide, by decide, by decide, by decide⟩ (List.replicate 60 0) (by decide) 0

/-! ## Three formats -/

/-- An attempt of `on_service_data` to read a packet as one of the three formats: what it does
with one that unpacks. -/
abbrev VoiceAttempt :=
  VoiceAdapter → Bytes → Option (VoiceAdapter × FhssServiceDataAction × List VoiceRxEvent)

/-- The attempt to read a seed announcement. -/
def attemptSeedAnnounce (deriveSessionHopSeed : UInt32 → UInt32) : VoiceAttempt := fun voice data =>
  (fhssAudioSeedAnnouncePacketUnpack data).map fun announce =>
    if voice.repeatsAnnounce announce = true then (voice, .continue, [])
    else
      let voice := { voice with
        haveLastRxSeedAnnounce := true
        lastRxSeedAnnounceSessionId := announce.sessionId }
      (voice.withService (fhssServiceApplyPublicSeed (some deriveSessionHopSeed)
        voice.adapter.service announce.publicSeed).1, .continue, [])

/-- The attempt to read an END. -/
def attemptEnd : VoiceAttempt := fun voice data =>
  (fhssAudioEndPacketUnpack data).map fun packetEnd =>
    if voice.repeatsEnd packetEnd = true then (voice, .sessionEnd, [])
    else
      ({ voice with
        haveLastRxEnd := true
        lastRxEndSessionId := packetEnd.sessionId
        lastRxEndSequence := packetEnd.finalSequence
        haveRxSequence := false }, .sessionEnd, [.talkspurtEnded])

/-- The attempt to read an audio packet. -/
def attemptAudio : VoiceAttempt := fun voice data =>
  (fhssAudioPacketUnpack data).map fun packet =>
    ({ voice with
      expectedRxSequence := packet.sequence + 1
      haveRxSequence := true
      rxPacketCount := voice.rxPacketCount + 1 }, .continue, packet.frames.map .frame)

/-- `on_service_data` outside OTA with its attempts in a given order; a packet that no attempt
takes is dropped. -/
def onVoiceData (attempts : List VoiceAttempt) (voice : VoiceAdapter) (data : Bytes) :
    VoiceAdapter × FhssServiceDataAction × List VoiceRxEvent :=
  (attempts.findSome? fun attempt => attempt voice data).getD (voice, .continue, [])

/-- The attempts in the order of the source. -/
def voiceAttempts (deriveSessionHopSeed : UInt32 → UInt32) : List VoiceAttempt :=
  [attemptSeedAnnounce deriveSessionHopSeed, attemptEnd, attemptAudio]

/-- When all attempts that succeed agree, their order does not matter. -/
lemma findSome?_perm {α β : Type*} {f : α → Option β} {attempts attempts' : List α}
    (hperm : attempts.Perm attempts')
    (hagree : ∀ a ∈ attempts, ∀ b ∈ attempts, ∀ x y, f a = some x → f b = some y → x = y) :
    attempts.findSome? f = attempts'.findSome? f := by
  cases hfirst : attempts.findSome? f with
  | none =>
    have hnone := List.findSome?_eq_none_iff.mp hfirst
    refine (List.findSome?_eq_none_iff.mpr ?_).symm
    intro a hmem
    exact hnone a (hperm.mem_iff.mpr hmem)
  | some x =>
    obtain ⟨a, hmem, hx⟩ := List.exists_of_findSome?_eq_some hfirst
    cases hother : attempts'.findSome? f with
    | none =>
      have hnone := List.findSome?_eq_none_iff.mp hother a (hperm.mem_iff.mp hmem)
      rw [hx] at hnone
      cases hnone
    | some y =>
      obtain ⟨b, hmem', hy⟩ := List.exists_of_findSome?_eq_some hother
      rw [hagree a hmem b (hperm.mem_iff.mpr hmem') x y hx hy]

/-- The first and the third byte of a voice packet. -/
structure VoiceBytes (data : Bytes) (packetType : UInt8) : Prop where
  magic : data.getD 0 0 = fhssAudioPacketMagic
  packetType : data.getD 2 0 = packetType

lemma voiceBytes_seedAnnounce {data : Bytes} {announce : FhssAudioSeedAnnouncePacket}
    (h : fhssAudioSeedAnnouncePacketUnpack data = some announce) :
    VoiceBytes data fhssAudioSeedAnnouncePacketType := by
  rw [fhssAudioSeedAnnouncePacketUnpack_eq_some.mp h]
  exact ⟨rfl, rfl⟩

lemma voiceBytes_end {data : Bytes} {packetEnd : FhssAudioEndPacket}
    (h : fhssAudioEndPacketUnpack data = some packetEnd) :
    VoiceBytes data fhssAudioEndPacketType := by
  rw [fhssAudioEndPacketUnpack_eq_some.mp h]
  exact ⟨rfl, rfl⟩

lemma voiceBytes_audio {data : Bytes} {view : FhssAudioPacketView}
    (h : fhssAudioPacketUnpack data = some view) : VoiceBytes data fhssAudioPacketType := by
  obtain ⟨-, -, hdata⟩ := fhssAudioPacketPack_eq_ok.mp (fhssAudioPacketPack_unpack h)
  rw [hdata]
  exact ⟨rfl, rfl⟩

/-- The type byte of a packet is one byte. -/
lemma VoiceBytes.not_other {data : Bytes} {packetType packetType' : UInt8}
    (h : VoiceBytes data packetType) (hne : packetType ≠ packetType') :
    ¬ VoiceBytes data packetType' :=
  fun h' => hne (h.packetType.symm.trans h'.packetType)

/-- A packet of another type is not an announcement. -/
lemma VoiceBytes.seedAnnounce_eq_none {data : Bytes} {packetType : UInt8}
    (h : VoiceBytes data packetType) (hne : packetType ≠ fhssAudioSeedAnnouncePacketType) :
    fhssAudioSeedAnnouncePacketUnpack data = none :=
  Option.eq_none_iff_forall_ne_some.mpr fun _ hsome =>
    h.not_other hne (voiceBytes_seedAnnounce hsome)

/-- A packet of another type is not an END. -/
lemma VoiceBytes.end_eq_none {data : Bytes} {packetType : UInt8} (h : VoiceBytes data packetType)
    (hne : packetType ≠ fhssAudioEndPacketType) : fhssAudioEndPacketUnpack data = none :=
  Option.eq_none_iff_forall_ne_some.mpr fun _ hsome => h.not_other hne (voiceBytes_end hsome)

/-- A packet of another type is not an audio packet. -/
lemma VoiceBytes.audio_eq_none {data : Bytes} {packetType : UInt8} (h : VoiceBytes data packetType)
    (hne : packetType ≠ fhssAudioPacketType) : fhssAudioPacketUnpack data = none :=
  Option.eq_none_iff_forall_ne_some.mpr fun _ hsome => h.not_other hne (voiceBytes_audio hsome)

/-- A packet that begins with the magic of voice is no SYNC packet. -/
lemma VoiceBytes.not_sync {protocol : OtaProtocol} {data : Bytes} {packetType : UInt8}
    (h : VoiceBytes data packetType) (htype : protocol.fhssSyncTypeByte ≠ fhssAudioPacketMagic) :
    fhssSyncPacketHasValidMagic protocol data = false := by
  have hne : (data.getD 0 0 == protocol.fhssSyncTypeByte) = false := by
    rw [h.magic]
    exact beq_eq_false_iff_ne.mpr htype.symm
  unfold fhssSyncPacketHasValidMagic
  rw [hne, Bool.and_false, Bool.false_and]

/-- What is packed into some buffer is packed into one of the size of a radio packet. -/
lemma fhssAudioPacketPack_capacity {sequence : UInt16} {flags : UInt8} {frames : List Bytes}
    {outCapacity : ℕ} {packet : Bytes}
    (h : fhssAudioPacketPack sequence flags frames outCapacity = .ok packet) :
    fhssAudioPacketPack sequence flags frames rfTransportMaxPacketLength = .ok packet := by
  have hmax : fhssAudioPacketMaxPayloadBytes = 51 := rfl
  have hsize : fhssAudioPacketHeaderSize = 9 := rfl
  have hlength : rfTransportMaxPacketLength = 60 := rfl
  unfold fhssAudioPacketPack at h ⊢
  split_ifs at h ⊢ with hinvalid
  cases hloop : packPayloadLength 0 frames with
  | error status =>
    rw [hloop] at h
    cases h
  | ok payloadLength =>
    rw [hloop] at h
    obtain ⟨-, hfits, htotal⟩ := (packPayloadLength_eq_ok (Nat.zero_le _)).mp hloop
    dsimp only at h ⊢
    rw [if_neg (by omega)]
    split_ifs at h
    exact h

/-- `on_service_data` makes the attempts in the order of the source. -/
lemma onVoiceData_voiceAttempts (deriveSessionHopSeed : UInt32 → UInt32) {voice : VoiceAdapter}
    (hvoice : voice.adapter.otaFhssActive = false) (data : Bytes) :
    onVoiceData (voiceAttempts deriveSessionHopSeed) voice data =
      onServiceData deriveSessionHopSeed voice data := by
  unfold onVoiceData voiceAttempts onServiceData
  rw [if_neg (by simp [hvoice])]
  simp only [List.findSome?_cons, List.findSome?_nil, attemptSeedAnnounce, attemptEnd,
    attemptAudio]
  cases fhssAudioSeedAnnouncePacketUnpack data with
  | some announce => rfl
  | none =>
    cases fhssAudioEndPacketUnpack data with
    | some packetEnd => rfl
    | none =>
      cases fhssAudioPacketUnpack data with
      | some packet => rfl
      | none => rfl

/-- No two of the attempts succeed on the same packet. -/
lemma voiceAttempts_agree (deriveSessionHopSeed : UInt32 → UInt32) (voice : VoiceAdapter)
    (data : Bytes) :
    ∀ a ∈ voiceAttempts deriveSessionHopSeed, ∀ b ∈ voiceAttempts deriveSessionHopSeed,
      ∀ x y, a voice data = some x → b voice data = some y → x = y := by
  have hseed : ∀ x, attemptSeedAnnounce deriveSessionHopSeed voice data = some x →
      VoiceBytes data fhssAudioSeedAnnouncePacketType := by
    intro x hx
    obtain ⟨announce, hannounce, -⟩ := Option.map_eq_some_iff.mp hx
    exact voiceBytes_seedAnnounce hannounce
  have hend : ∀ x, attemptEnd voice data = some x → VoiceBytes data fhssAudioEndPacketType := by
    intro x hx
    obtain ⟨packetEnd, hpacketEnd, -⟩ := Option.map_eq_some_iff.mp hx
    exact voiceBytes_end hpacketEnd
  have haudio : ∀ x, attemptAudio voice data = some x → VoiceBytes data fhssAudioPacketType := by
    intro x hx
    obtain ⟨view, hview, -⟩ := Option.map_eq_some_iff.mp hx
    exact voiceBytes_audio hview
  intro a ha b hb x y hx hy
  simp only [voiceAttempts, List.mem_cons, List.not_mem_nil, or_false] at ha hb
  rcases ha with rfl | rfl | rfl <;> rcases hb with rfl | rfl | rfl
  · exact Option.some.inj (hx.symm.trans hy)
  · exact absurd (hend y hy) ((hseed x hx).not_other (by decide))
  · exact absurd (haudio y hy) ((hseed x hx).not_other (by decide))
  · exact absurd (hseed y hy) ((hend x hx).not_other (by decide))
  · exact Option.some.inj (hx.symm.trans hy)
  · exact absurd (haudio y hy) ((hend x hx).not_other (by decide))
  · exact absurd (hseed y hy) ((haudio x hx).not_other (by decide))
  · exact absurd (hend y hy) ((haudio x hx).not_other (by decide))
  · exact Option.some.inj (hx.symm.trans hy)

/-- What the formats of voice promise of one packet: at most one unpacker accepts it, so that the
order of the attempts does not matter, only a packed one is an END or an announcement, and no
accepted one is a SYNC packet. -/
structure Classified (protocol : OtaProtocol) (data : Bytes) : Prop where
  not_seed_and_end : ¬ ((fhssAudioSeedAnnouncePacketUnpack data).isSome ∧
    (fhssAudioEndPacketUnpack data).isSome)
  not_seed_and_audio : ¬ ((fhssAudioSeedAnnouncePacketUnpack data).isSome ∧
    (fhssAudioPacketUnpack data).isSome)
  not_end_and_audio : ¬ ((fhssAudioEndPacketUnpack data).isSome ∧
    (fhssAudioPacketUnpack data).isSome)
  any_order : ∀ deriveSessionHopSeed attempts (voice : VoiceAdapter),
    attempts.Perm (voiceAttempts deriveSessionHopSeed) →
    voice.adapter.otaFhssActive = false →
    onVoiceData attempts voice data = onServiceData deriveSessionHopSeed voice data
  seed_packed : ∀ announce, fhssAudioSeedAnnouncePacketUnpack data = some announce →
    data = fhssAudioSeedAnnouncePacketPack announce
  end_packed : ∀ packetEnd, fhssAudioEndPacketUnpack data = some packetEnd →
    data = fhssAudioEndPacketPack packetEnd
  not_sync : (fhssAudioSeedAnnouncePacketUnpack data).isSome ∨
      (fhssAudioEndPacketUnpack data).isSome ∨ (fhssAudioPacketUnpack data).isSome →
    fhssSyncPacketHasValidMagic protocol data = false

/-- Every packet is classified. -/
lemma classified {protocol : OtaProtocol}
    (htype : protocol.fhssSyncTypeByte ≠ fhssAudioPacketMagic) (data : Bytes) :
    Classified protocol data := by
  have hseed : (fhssAudioSeedAnnouncePacketUnpack data).isSome →
      VoiceBytes data fhssAudioSeedAnnouncePacketType := by
    intro h
    obtain ⟨announce, hannounce⟩ := Option.isSome_iff_exists.mp h
    exact voiceBytes_seedAnnounce hannounce
  have hend : (fhssAudioEndPacketUnpack data).isSome → VoiceBytes data fhssAudioEndPacketType := by
    intro h
    obtain ⟨packetEnd, hpacketEnd⟩ := Option.isSome_iff_exists.mp h
    exact voiceBytes_end hpacketEnd
  have haudio : (fhssAudioPacketUnpack data).isSome → VoiceBytes data fhssAudioPacketType := by
    intro h
    obtain ⟨view, hview⟩ := Option.isSome_iff_exists.mp h
    exact voiceBytes_audio hview
  refine ⟨?_, ?_, ?_, ?_, fun _ h => fhssAudioSeedAnnouncePacketUnpack_eq_some.mp h,
    fun _ h => fhssAudioEndPacketUnpack_eq_some.mp h, ?_⟩
  · rintro ⟨h, h'⟩
    exact (hseed h).not_other (by decide) (hend h')
  · rintro ⟨h, h'⟩
    exact (hseed h).not_other (by decide) (haudio h')
  · rintro ⟨h, h'⟩
    exact (hend h).not_other (by decide) (haudio h')
  · intro deriveSessionHopSeed attempts voice hperm hvoice
    rw [← onVoiceData_voiceAttempts deriveSessionHopSeed hvoice]
    have hfirst := findSome?_perm hperm.symm (voiceAttempts_agree deriveSessionHopSeed voice data)
    unfold onVoiceData
    rw [hfirst]
  · rintro (h | h | h)
    · exact (hseed h).not_sync htype
    · exact (hend h).not_sync htype
    · exact (haudio h).not_sync htype

/-- **Voice packets are classified unambiguously.**  At most one of the three unpackers accepts a
packet, in whatever order they are tried, and none takes a SYNC packet (`Classified`).  What one
of the packers makes is accepted by its own unpacker, with the fields that were packed, and by
neither of the others. -/
theorem voicePacket_classified {protocol : OtaProtocol}
    (htype : protocol.fhssSyncTypeByte ≠ fhssAudioPacketMagic) :
    (∀ data, Classified protocol data) ∧
    (∀ announce,
      fhssAudioSeedAnnouncePacketUnpack (fhssAudioSeedAnnouncePacketPack announce) =
        some announce ∧
      fhssAudioEndPacketUnpack (fhssAudioSeedAnnouncePacketPack announce) = none ∧
      fhssAudioPacketUnpack (fhssAudioSeedAnnouncePacketPack announce) = none) ∧
    (∀ packetEnd,
      fhssAudioEndPacketUnpack (fhssAudioEndPacketPack packetEnd) = some packetEnd ∧
      fhssAudioSeedAnnouncePacketUnpack (fhssAudioEndPacketPack packetEnd) = none ∧
      fhssAudioPacketUnpack (fhssAudioEndPacketPack packetEnd) = none) ∧
    ∀ sequence flags frames outCapacity packet,
      fhssAudioPacketPack sequence flags frames outCapacity = .ok packet →
      fhssAudioPacketUnpack packet = some ⟨sequence, flags, frames⟩ ∧
      fhssAudioSeedAnnouncePacketUnpack packet = none ∧
      fhssAudioEndPacketUnpack packet = none := by
  refine ⟨classified htype, ?_, ?_, ?_⟩
  · intro announce
    have hunpack := fhssAudioSeedAnnouncePacketUnpack_pack announce
    have hbytes := voiceBytes_seedAnnounce hunpack
    exact ⟨hunpack, hbytes.end_eq_none (by decide), hbytes.audio_eq_none (by decide)⟩
  · intro packetEnd
    have hunpack := fhssAudioEndPacketUnpack_pack packetEnd
    have hbytes := voiceBytes_end hunpack
    exact ⟨hunpack, hbytes.seedAnnounce_eq_none (by decide), hbytes.audio_eq_none (by decide)⟩
  · intro sequence flags frames outCapacity packet hpack
    have hunpack := fhssAudioPacketUnpack_pack (fhssAudioPacketPack_capacity hpack)
    have hbytes := voiceBytes_audio hunpack
    exact ⟨hunpack, hbytes.seedAnnounce_eq_none (by decide), hbytes.end_eq_none (by decide)⟩

/-- The type byte of the concrete wire format is not the magic of voice. -/
theorem voicePacket_classified_plain :
    (∀ data, Classified plainProtocol data) ∧
    fhssAudioSeedAnnouncePacketUnpack (fhssAudioSeedAnnouncePacketPack ⟨3, 0x12345678⟩) =
      some ⟨3, 0x12345678⟩ :=
  ⟨(@voicePacket_classified plainProtocol (by decide)).1,
    ((@voicePacket_classified plainProtocol (by decide)).2.1 ⟨3, 0x12345678⟩).1⟩

end FhssOtaRadio
