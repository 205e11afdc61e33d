import FhssOtaRadio.OtaProtocol

/-!
# Audio packets (`fhss_audio_packet.c`)

The three packets that voice puts on the air: up to two encoded frames, the end of a talkspurt,
and the public seed of a session.  They share the magic and the version and are told apart by the
type byte.  What one packs the other side unpacks to the same fields, and only a packet that can
be packed is unpacked at all.
-/

namespace FhssOtaRadio

/-! ## Packing and unpacking -/

/-- `FHSS_AUDIO_PACKET_MAGIC`. -/
def fhssAudioPacketMagic : UInt8 := 0xA5

/-- `FHSS_AUDIO_PACKET_VERSION`. -/
def fhssAudioPacketVersion : UInt8 := 1

/-- `FHSS_AUDIO_PACKET_TYPE`. -/
def fhssAudioPacketType : UInt8 := 0x02

/-- `FHSS_AUDIO_END_PACKET_TYPE`. -/
def fhssAudioEndPacketType : UInt8 := 0x03

/-- `FHSS_AUDIO_SEED_ANNOUNCE_PACKET_TYPE`. -/
def fhssAudioSeedAnnouncePacketType : UInt8 := 0x04

/-- `FHSS_AUDIO_END_NO_AUDIO_SEQUENCE`. -/
def fhssAudioEndNoAudioSequence : UInt16 := 0xFFFF

/-- `FHSS_AUDIO_PACKET_MAX_FRAMES`. -/
def fhssAudioPacketMaxFrames : ℕ := 2

/-- `FHSS_AUDIO_PACKET_HEADER_SIZE`. -/
def fhssAudioPacketHeaderSize : ℕ := 9

/-- `FHSS_AUDIO_PACKET_MAX_PAYLOAD_BYTES`. -/
def fhssAudioPacketMaxPayloadBytes : ℕ := rfTransportMaxPacketLength - fhssAudioPacketHeaderSize

/-- `fhss_audio_packet_status_t` without `OK`. -/
inductive FhssAudioPacketStatus where
  | invalidArgument
  | bufferTooSmall
  | payloadTooLarge
  | invalidFormat
  deriving DecidableEq, Repr

/-- `fhss_audio_packet_view_t`. -/
structure FhssAudioPacketView where
  sequence : UInt16
  flags : UInt8
  frames : List Bytes
  deriving DecidableEq

/-- `fhss_audio_end_packet_t`; the one reason there is, `PTT_RELEASE`, is 0. -/
structure FhssAudioEndPacket where
  sessionId : UInt16
  finalSequence : UInt16
  deriving DecidableEq

/-- `fhss_audio_seed_announce_packet_t`. -/
structure FhssAudioSeedAnnouncePacket where
  sessionId : UInt16
  publicSeed : UInt32
  deriving DecidableEq

/-- The two little-endian bytes of a half word. -/
def u16LeBytes (word : UInt16) : Bytes := [(word &&& 0xFF).toUInt8, (word >>> 8).toUInt8]

/-- The little-endian half word at a byte offset. -/
def readU16Le (packet : Bytes) (offset : ℕ) : UInt16 :=
  UInt16.ofNat ((packet.getD offset 0).toNat + (packet.getD (offset + 1) 0).toNat * 2 ^ 8)

/-- `flags_are_valid`: no flag but `END_OF_TALKSPURT`. -/
def flagsAreValid (flags : UInt8) : Bool := flags &&& 0xFE == 0

/-- The loop of `fhss_audio_packet_pack` over the frames: the length of the payload. -/
def packPayloadLength (payloadLength : ℕ) : List Bytes → Except FhssAudioPacketStatus ℕ
  | [] => .ok payloadLength
  | frame :: frames =>
      if frame.length = 0 ∨ 255 < frame.length then .error .invalidArgument
      else if fhssAudioPacketMaxPayloadBytes - payloadLength < frame.length then
        .error .payloadTooLarge
      else packPayloadLength (payloadLength + frame.length) frames

/-- The header of an audio packet, with the lengths of both frames. -/
def fhssAudioPacketHeader (sequence : UInt16) (flags : UInt8) (frames : List Bytes) : Bytes :=
  [fhssAudioPacketMagic, fhssAudioPacketVersion, fhssAudioPacketType, flags,
    UInt8.ofNat frames.length] ++ u16LeBytes sequence ++
    [UInt8.ofNat (frames.getD 0 []).length, UInt8.ofNat (frames.getD 1 []).length]

/-- `fhss_audio_packet_pack`. -/
def fhssAudioPacketPack (sequence : UInt16) (flags : UInt8) (frames : List Bytes)
    (outCapacity : ℕ) : Except FhssAudioPacketStatus Bytes :=
  if frames.length = 0 ∨ fhssAudioPacketMaxFrames < frames.length ∨ flagsAreValid flags = false
  then .error .invalidArgument
  else
    match packPayloadLength 0 frames with
    | .error status => .error status
    | .ok payloadLength =>
        if outCapacity < fhssAudioPacketHeaderSize + payloadLength then .error .bufferTooSmall
        else .ok (fhssAudioPacketHeader sequence flags frames ++ frames.flatten)

/-- The loop of `fhss_audio_packet_unpack` over the frame lengths: the length of the payload. -/
def unpackPayloadLength (payloadLength : ℕ) : List ℕ → Option ℕ
  | [] => some payloadLength
  | frameLength :: frameLengths =>
      if frameLength = 0 ∨ fhssAudioPacketMaxPayloadBytes - payloadLength < frameLength then none
      else unpackPayloadLength (payloadLength + frameLength) frameLengths

/-- The payload cut into frames of the given lengths. -/
def cutFrames : List ℕ → Bytes → List Bytes
  | [], _ => []
  | frameLength :: frameLengths, payload =>
      payload.take frameLength :: cutFrames frameLengths (payload.drop frameLength)

/-- The frame lengths in the header of an audio packet. -/
def headerFrameLengths (packet : Bytes) : List ℕ :=
  [(packet.getD 7 0).toNat, (packet.getD 8 0).toNat].take (packet.getD 4 0).toNat

/-- `fhss_audio_packet_unpack`; `none` is `INVALID_FORMAT`. -/
def fhssAudioPacketUnpack (packet : Bytes) : Option FhssAudioPacketView :=
  if packet.length < fhssAudioPacketHeaderSize ∨ rfTransportMaxPacketLength < packet.length ∨
      packet.getD 0 0 ≠ fhssAudioPacketMagic ∨ packet.getD 1 0 ≠ fhssAudioPacketVersion ∨
      packet.getD 2 0 ≠ fhssAudioPacketType ∨ flagsAreValid (packet.getD 3 0) = false then none
  else if packet.getD 4 0 = 0 ∨ fhssAudioPacketMaxFrames < (packet.getD 4 0).toNat then none
  else if packet.getD 4 0 = 1 ∧ packet.getD 8 0 ≠ 0 then none
  else
    match unpackPayloadLength 0 (headerFrameLengths packet) with
    | none => none
    | some payloadLength =>
        if packet.length ≠ fhssAudioPacketHeaderSize + payloadLength then none
        else
          some ⟨readU16Le packet 5, packet.getD 3 0,
            cutFrames (headerFrameLengths packet) (packet.drop fhssAudioPacketHeaderSize)⟩

/-- `fhss_audio_end_packet_pack`, into a buffer of `FHSS_AUDIO_END_PACKET_SIZE`. -/
def fhssAudioEndPacketPack (packetEnd : FhssAudioEndPacket) : Bytes :=
  [fhssAudioPacketMagic, fhssAudioPacketVersion, fhssAudioEndPacketType, 0] ++
    u16LeBytes packetEnd.sessionId ++ u16LeBytes packetEnd.finalSequence ++ [0]

/-- `fhss_audio_end_packet_unpack`; `none` is `INVALID_FORMAT`. -/
def fhssAudioEndPacketUnpack (packet : Bytes) : Option FhssAudioEndPacket :=
  if packet.length ≠ 9 ∨ packet.getD 0 0 ≠ fhssAudioPacketMagic ∨
      packet.getD 1 0 ≠ fhssAudioPacketVersion ∨ packet.getD 2 0 ≠ fhssAudioEndPacketType ∨
      packet.getD 3 0 ≠ 0 ∨ packet.getD 8 0 ≠ 0 then none
  else some ⟨readU16Le packet 4, readU16Le packet 6⟩

/-- `fhss_audio_seed_announce_packet_pack`, into a buffer of
`FHSS_AUDIO_SEED_ANNOUNCE_PACKET_SIZE`. -/
def fhssAudioSeedAnnouncePacketPack (announce : FhssAudioSeedAnnouncePacket) : Bytes :=
  [fhssAudioPacketMagic, fhssAudioPacketVersion, fhssAudioSeedAnnouncePacketType] ++
    u16LeBytes announce.sessionId ++ u32LeBytes announce.publicSeed

/-- `fhss_audio_seed_announce_packet_unpack`; `none` is `INVALID_FORMAT`. -/
def fhssAudioSeedAnnouncePacketUnpack (packet : Bytes) : Option FhssAudioSeedAnnouncePacket :=
  if packet.length ≠ 9 ∨ packet.getD 0 0 ≠ fhssAudioPacketMagic ∨
      packet.getD 1 0 ≠ fhssAudioPacketVersion ∨
      packet.getD 2 0 ≠ fhssAudioSeedAnnouncePacketType then none
  else some ⟨readU16Le packet 3, readU32Le packet 5⟩

/-! ## Little-endian words -/

/-- A half word is read back from its bytes. -/
lemma u16_ofNat_bytes (word : UInt16) :
    UInt16.ofNat ((word &&& 0xFF).toUInt8.toNat + (word >>> 8).toUInt8.toNat * 2 ^ 8) = word := by
  apply UInt16.toNat_inj.mp
  have hlow : (word &&& 0xFF).toNat = word.toNat % 256 := by
    have hmask := Nat.and_two_pow_sub_one_eq_mod word.toNat 8
    simpa using hmask
  have hhigh : (word >>> 8).toNat = word.toNat / 256 := by
    simp [Nat.shiftRight_eq_div_pow]
  have hlt := word.toNat_lt
  rw [UInt16.toNat_ofNat', UInt16.toNat_toUInt8, UInt16.toNat_toUInt8, hlow, hhigh]
  omega

/-- A word is read back from its bytes. -/
lemma u32_ofNat_bytes (word : UInt32) :
    UInt32.ofNat (word.toUInt8.toNat + (word >>> 8).toUInt8.toNat * 2 ^ 8 +
      (word >>> 16).toUInt8.toNat * 2 ^ 16 + (word >>> 24).toUInt8.toNat * 2 ^ 24) = word := by
  apply UInt32.toNat_inj.mp
  have hsecond : (word >>> 8).toNat = word.toNat / 2 ^ 8 := by
    simp [Nat.shiftRight_eq_div_pow]
  have hthird : (word >>> 16).toNat = word.toNat / 2 ^ 16 := by
    simp [Nat.shiftRight_eq_div_pow]
  have hfourth : (word >>> 24).toNat = word.toNat / 2 ^ 24 := by
    simp [Nat.shiftRight_eq_div_pow]
  have hlt := word.toNat_lt
  rw [UInt32.toNat_ofNat', UInt32.toNat_toUInt8, UInt32.toNat_toUInt8, UInt32.toNat_toUInt8,
    UInt32.toNat_toUInt8, hsecond, hthird, hfourth]
  omega

/-- Two bytes are the bytes of the half word read from them. -/
lemma u16LeBytes_ofNat (low high : UInt8) :
    u16LeBytes (UInt16.ofNat (low.toNat + high.toNat * 2 ^ 8)) = [low, high] := by
  have hlowLt := low.toNat_lt
  have hhighLt := high.toNat_lt
  have hword : (UInt16.ofNat (low.toNat + high.toNat * 2 ^ 8)).toNat =
      low.toNat + high.toNat * 2 ^ 8 := by
    rw [UInt16.toNat_ofNat']
    omega
  have hlow : (UInt16.ofNat (low.toNat + high.toNat * 2 ^ 8) &&& 0xFF).toUInt8 = low := by
    apply UInt8.toNat_inj.mp
    have hmask := Nat.and_two_pow_sub_one_eq_mod (low.toNat + high.toNat * 2 ^ 8) 8
    rw [UInt16.toNat_toUInt8, UInt16.toNat_and, hword]
    change (low.toNat + high.toNat * 2 ^ 8 &&& 2 ^ 8 - 1) % 2 ^ 8 = low.toNat
    omega
  have hhigh : (UInt16.ofNat (low.toNat + high.toNat * 2 ^ 8) >>> 8).toUInt8 = high := by
    apply UInt8.toNat_inj.mp
    rw [UInt16.toNat_toUInt8, UInt16.toNat_shiftRight, hword, Nat.shiftRight_eq_div_pow]
    simp only [UInt16.reduceToNat, Nat.reduceMod, Nat.reducePow]
    omega
  rw [u16LeBytes, hlow, hhigh]

/-- Four bytes are the bytes of the word read from them. -/
lemma u32LeBytes_ofNat (b₀ b₁ b₂ b₃ : UInt8) :
    u32LeBytes (UInt32.ofNat (b₀.toNat + b₁.toNat * 2 ^ 8 + b₂.toNat * 2 ^ 16 +
      b₃.toNat * 2 ^ 24)) = [b₀, b₁, b₂, b₃] := by
  have h₀ := b₀.toNat_lt
  have h₁ := b₁.toNat_lt
  have h₂ := b₂.toNat_lt
  have h₃ := b₃.toNat_lt
  have hword : (UInt32.ofNat (b₀.toNat + b₁.toNat * 2 ^ 8 + b₂.toNat * 2 ^ 16 +
      b₃.toNat * 2 ^ 24)).toNat =
        b₀.toNat + b₁.toNat * 2 ^ 8 + b₂.toNat * 2 ^ 16 + b₃.toNat * 2 ^ 24 := by
    rw [UInt32.toNat_ofNat']
    omega
  unfold u32LeBytes
  refine List.cons_eq_cons.mpr ⟨?_, List.cons_eq_cons.mpr ⟨?_, List.cons_eq_cons.mpr ⟨?_,
    List.cons_eq_cons.mpr ⟨?_, rfl⟩⟩⟩⟩
  · apply UInt8.toNat_inj.mp
    rw [UInt32.toNat_toUInt8, hword]
    omega
  all_goals
    apply UInt8.toNat_inj.mp
    rw [UInt32.toNat_toUInt8, UInt32.toNat_shiftRight, hword, Nat.shiftRight_eq_div_pow]
    simp only [UInt32.reduceToNat, Nat.reduceMod, Nat.reducePow]
    omega

/-! ## Control packets -/

/-- An announcement is unpacked to what was packed. -/
@[simp] lemma fhssAudioSeedAnnouncePacketUnpack_pack (announce : FhssAudioSeedAnnouncePacket) :
    fhssAudioSeedAnnouncePacketUnpack (fhssAudioSeedAnnouncePacketPack announce) =
      some announce := by
  have hsession : readU16Le (fhssAudioSeedAnnouncePacketPack announce) 3 = announce.sessionId :=
    u16_ofNat_bytes announce.sessionId
  have hseed : readU32Le (fhssAudioSeedAnnouncePacketPack announce) 5 = announce.publicSeed :=
    u32_ofNat_bytes announce.publicSeed
  unfold fhssAudioSeedAnnouncePacketUnpack
  rw [if_neg (by simp [fhssAudioSeedAnnouncePacketPack, u16LeBytes, u32LeBytes]), hsession, hseed]

/-- An END is unpacked to what was packed. -/
@[simp] lemma fhssAudioEndPacketUnpack_pack (packetEnd : FhssAudioEndPacket) :
    fhssAudioEndPacketUnpack (fhssAudioEndPacketPack packetEnd) = some packetEnd := by
  have hsession : readU16Le (fhssAudioEndPacketPack packetEnd) 4 = packetEnd.sessionId :=
    u16_ofNat_bytes packetEnd.sessionId
  have hfinal : readU16Le (fhssAudioEndPacketPack packetEnd) 6 = packetEnd.finalSequence :=
    u16_ofNat_bytes packetEnd.finalSequence
  unfold fhssAudioEndPacketUnpack
  rw [if_neg (by simp [fhssAudioEndPacketPack, u16LeBytes]), hsession, hfinal]

/-- A packet of nine bytes, byte by byte. -/
lemma eq_of_length_nine {packet : Bytes} (h : packet.length = 9) :
    packet = [packet.getD 0 0, packet.getD 1 0, packet.getD 2 0, packet.getD 3 0,
      packet.getD 4 0, packet.getD 5 0, packet.getD 6 0, packet.getD 7 0, packet.getD 8 0] := by
  match packet, h with
  | [_, _, _, _, _, _, _, _, _], _ => rfl

/-- Only what can be packed is unpacked as an announcement. -/
lemma fhssAudioSeedAnnouncePacketUnpack_eq_some {packet : Bytes}
    {announce : FhssAudioSeedAnnouncePacket} :
    fhssAudioSeedAnnouncePacketUnpack packet = some announce ↔
      packet = fhssAudioSeedAnnouncePacketPack announce := by
  constructor
  · intro h
    unfold fhssAudioSeedAnnouncePacketUnpack at h
    by_cases hinvalid : packet.length ≠ 9 ∨ packet.getD 0 0 ≠ fhssAudioPacketMagic ∨
        packet.getD 1 0 ≠ fhssAudioPacketVersion ∨
        packet.getD 2 0 ≠ fhssAudioSeedAnnouncePacketType
    · rw [if_pos hinvalid] at h
      cases h
    rw [if_neg hinvalid] at h
    push Not at hinvalid
    obtain ⟨hlength, hmagic, hversion, htype⟩ := hinvalid
    obtain rfl := Option.some.inj h
    unfold fhssAudioSeedAnnouncePacketPack
    dsimp only [readU16Le, readU32Le]
    rw [u16LeBytes_ofNat, u32LeBytes_ofNat, ← hmagic, ← hversion, ← htype]
    exact eq_of_length_nine hlength
  · rintro rfl
    exact fhssAudioSeedAnnouncePacketUnpack_pack announce

/-- Only what can be packed is unpacked as an END. -/
lemma fhssAudioEndPacketUnpack_eq_some {packet : Bytes} {packetEnd : FhssAudioEndPacket} :
    fhssAudioEndPacketUnpack packet = some packetEnd ↔
      packet = fhssAudioEndPacketPack packetEnd := by
  constructor
  · intro h
    unfold fhssAudioEndPacketUnpack at h
    by_cases hinvalid : packet.length ≠ 9 ∨ packet.getD 0 0 ≠ fhssAudioPacketMagic ∨
        packet.getD 1 0 ≠ fhssAudioPacketVersion ∨ packet.getD 2 0 ≠ fhssAudioEndPacketType ∨
        packet.getD 3 0 ≠ 0 ∨ packet.getD 8 0 ≠ 0
    · rw [if_pos hinvalid] at h
      cases h
    rw [if_neg hinvalid] at h
    push Not at hinvalid
    obtain ⟨hlength, hmagic, hversion, htype, hreason, hpad⟩ := hinvalid
    obtain rfl := Option.some.inj h
    unfold fhssAudioEndPacketPack
    dsimp only [readU16Le]
    rw [u16LeBytes_ofNat, u16LeBytes_ofNat, ← hmagic, ← hversion, ← htype]
    have hbytes := eq_of_length_nine hlength
    rw [hreason, hpad] at hbytes
    exact hbytes
  · rintro rfl
    exact fhssAudioEndPacketUnpack_pack packetEnd

/-! ## Audio packets -/

/-- The number of payload bytes of a list of frames. -/
def payloadBytes (frames : List Bytes) : ℕ := (frames.map List.length).sum

/-- Frames that fit into one packet: one or two of them, none empty, at most
`FHSS_AUDIO_PACKET_MAX_PAYLOAD_BYTES` bytes together. -/
structure FramesFit (frames : List Bytes) : Prop where
  some_frame : frames.length ≠ 0
  count_le : frames.length ≤ fhssAudioPacketMaxFrames
  nonempty : ∀ frame ∈ frames, frame.length ≠ 0
  payload_le : payloadBytes frames ≤ fhssAudioPacketMaxPayloadBytes

/-- The packing loop goes through when no frame is empty and all fit together. -/
lemma packPayloadLength_eq_ok {frames : List Bytes} {payloadLength total : ℕ}
    (hle : payloadLength ≤ fhssAudioPacketMaxPayloadBytes) :
    packPayloadLength payloadLength frames = .ok total ↔
      (∀ frame ∈ frames, frame.length ≠ 0) ∧
        payloadLength + payloadBytes frames ≤ fhssAudioPacketMaxPayloadBytes ∧
        total = payloadLength + payloadBytes frames := by
  have hmax : fhssAudioPacketMaxPayloadBytes = 51 := rfl
  induction frames generalizing payloadLength with
  | nil =>
    simp only [packPayloadLength, payloadBytes, List.map_nil, List.sum_nil, Except.ok.injEq,
      List.not_mem_nil, false_imp_iff, implies_true, true_and, Nat.add_zero]
    exact ⟨fun h => ⟨hle, h.symm⟩, fun h => h.2.symm⟩
  | cons frame frames ih =>
    have hsum : payloadBytes (frame :: frames) = frame.length + payloadBytes frames := by
      simp [payloadBytes]
    rw [packPayloadLength, hsum, List.forall_mem_cons]
    by_cases hinvalid : frame.length = 0 ∨ 255 < frame.length
    · rw [if_pos hinvalid]
      refine ⟨fun h => (by cases h), ?_⟩
      rintro ⟨⟨hframe, -⟩, hfits, -⟩
      exfalso
      omega
    rw [if_neg hinvalid]
    by_cases hlarge : fhssAudioPacketMaxPayloadBytes - payloadLength < frame.length
    · rw [if_pos hlarge]
      refine ⟨fun h => (by cases h), fun ⟨_, hfits, _⟩ => ?_⟩
      exfalso
      omega
    push Not at hinvalid
    have hle' : payloadLength + frame.length ≤ fhssAudioPacketMaxPayloadBytes := by omega
    rw [if_neg hlarge]
    refine (ih hle').trans ?_
    refine ⟨fun ⟨hframes, hfits, htotal⟩ => ⟨⟨hinvalid.1, hframes⟩, by omega, by omega⟩,
      fun ⟨⟨_, hframes⟩, hfits, htotal⟩ => ⟨hframes, by omega, by omega⟩⟩

/-- The unpacking loop goes through under the same condition on the lengths in the header. -/
lemma unpackPayloadLength_eq_some {frameLengths : List ℕ} {payloadLength total : ℕ}
    (hle : payloadLength ≤ fhssAudioPacketMaxPayloadBytes) :
    unpackPayloadLength payloadLength frameLengths = some total ↔
      (∀ frameLength ∈ frameLengths, frameLength ≠ 0) ∧
        payloadLength + frameLengths.sum ≤ fhssAudioPacketMaxPayloadBytes ∧
        total = payloadLength + frameLengths.sum := by
  induction frameLengths generalizing payloadLength with
  | nil =>
    simp only [unpackPayloadLength, List.sum_nil, Option.some.injEq, List.not_mem_nil,
      false_imp_iff, implies_true, true_and, Nat.add_zero]
    exact ⟨fun h => ⟨hle, h.symm⟩, fun h => h.2.symm⟩
  | cons frameLength frameLengths ih =>
    rw [unpackPayloadLength, List.sum_cons, List.forall_mem_cons]
    by_cases hinvalid : frameLength = 0 ∨
        fhssAudioPacketMaxPayloadBytes - payloadLength < frameLength
    · rw [if_pos hinvalid]
      refine ⟨fun h => (by cases h), ?_⟩
      rintro ⟨⟨hframe, -⟩, hfits, -⟩
      exfalso
      omega
    have hle' : payloadLength + frameLength ≤ fhssAudioPacketMaxPayloadBytes := by omega
    rw [if_neg hinvalid, ih hle']
    push Not at hinvalid
    constructor
    · rintro ⟨hframes, hfits, htotal⟩
      exact ⟨⟨hinvalid.1, hframes⟩, by omega, by omega⟩
    · rintro ⟨⟨-, hframes⟩, hfits, htotal⟩
      exact ⟨hframes, by omega, by omega⟩

/-- Packing succeeds for frames that fit, and writes the header and the frames. -/
lemma fhssAudioPacketPack_eq_ok {sequence : UInt16} {flags : UInt8} {frames : List Bytes}
    {packet : Bytes} :
    fhssAudioPacketPack sequence flags frames rfTransportMaxPacketLength = .ok packet ↔
      FramesFit frames ∧ flagsAreValid flags = true ∧
        packet = fhssAudioPacketHeader sequence flags frames ++ frames.flatten := by
  have hmax : fhssAudioPacketMaxPayloadBytes = 51 := rfl
  have hlength : rfTransportMaxPacketLength = 60 := rfl
  have hheader : fhssAudioPacketHeaderSize = 9 := rfl
  have hloop := @packPayloadLength_eq_ok frames 0
  unfold fhssAudioPacketPack
  by_cases hinvalid : frames.length = 0 ∨ fhssAudioPacketMaxFrames < frames.length ∨
      flagsAreValid flags = false
  · rw [if_pos hinvalid]
    refine ⟨fun h => (by cases h), fun ⟨hfit, hflags, _⟩ => ?_⟩
    rcases hinvalid with h | h | h
    · exact absurd h hfit.some_frame
    · exact absurd h (Nat.not_lt.mpr hfit.count_le)
    · rw [hflags] at h
      cases h
  rw [if_neg hinvalid]
  push Not at hinvalid
  obtain ⟨hsome, hcount, hflags⟩ := hinvalid
  cases hpayload : packPayloadLength 0 frames with
  | error status =>
    refine ⟨fun h => (by cases h), fun ⟨hfit, _, _⟩ => ?_⟩
    have hok := (hloop (Nat.zero_le _)).mpr
      ⟨hfit.nonempty, by simpa using hfit.payload_le, rfl⟩
    rw [hpayload] at hok
    cases hok
  | ok total =>
    obtain ⟨hnonempty, hle, htotal⟩ := (hloop (Nat.zero_le _)).mp hpayload
    dsimp only
    rw [if_neg (by omega)]
    refine ⟨fun h => ⟨⟨hsome, by omega, hnonempty, by omega⟩, by simpa using hflags, ?_⟩,
      fun h => by rw [h.2.2]⟩
    exact (Except.ok.inj h).symm

/-- The frames come back when their concatenation is cut at their lengths. -/
lemma cutFrames_flatten (frames : List Bytes) :
    cutFrames (frames.map List.length) frames.flatten = frames := by
  induction frames with
  | nil => rfl
  | cons frame frames ih =>
    rw [List.map_cons, List.flatten_cons, cutFrames, List.take_left, List.drop_left, ih]

/-- Cut pieces have the lengths asked for and make up what was cut, when the lengths add up. -/
lemma cutFrames_spec {frameLengths : List ℕ} {payload : Bytes}
    (h : payload.length = frameLengths.sum) :
    (cutFrames frameLengths payload).map List.length = frameLengths ∧
      (cutFrames frameLengths payload).flatten = payload := by
  induction frameLengths generalizing payload with
  | nil => exact ⟨rfl, (List.eq_nil_of_length_eq_zero h).symm⟩
  | cons frameLength frameLengths ih =>
    rw [List.sum_cons] at h
    have hrest : (payload.drop frameLength).length = frameLengths.sum := by
      rw [List.length_drop]
      omega
    obtain ⟨hlengths, hflatten⟩ := ih hrest
    refine ⟨?_, ?_⟩
    · rw [cutFrames, List.map_cons, hlengths, List.length_take]
      congr 1
      omega
    · rw [cutFrames, List.flatten_cons, hflatten, List.take_append_drop]

/-- The lengths in the header are those of the frames. -/
lemma headerFrameLengths_pack {sequence : UInt16} {flags : UInt8} {frames : List Bytes}
    (h : FramesFit frames) :
    headerFrameLengths (fhssAudioPacketHeader sequence flags frames ++ frames.flatten) =
      frames.map List.length := by
  have hmax : fhssAudioPacketMaxPayloadBytes = 51 := rfl
  have hpayload := h.payload_le
  have hcount := h.count_le
  match frames, h.some_frame with
  | [frame], _ =>
    have hlt : frame.length < 256 := by
      simp only [payloadBytes, List.map_cons, List.map_nil, List.sum_cons, List.sum_nil] at hpayload
      omega
    simp [headerFrameLengths, fhssAudioPacketHeader, u16LeBytes, Nat.mod_eq_of_lt hlt]
  | [first, second], _ =>
    have hlt : first.length < 256 ∧ second.length < 256 := by
      simp only [payloadBytes, List.map_cons, List.map_nil, List.sum_cons, List.sum_nil] at hpayload
      omega
    simp [headerFrameLengths, fhssAudioPacketHeader, u16LeBytes, Nat.mod_eq_of_lt hlt.1,
      Nat.mod_eq_of_lt hlt.2]
  | _ :: _ :: _ :: _, _ =>
    simp [fhssAudioPacketMaxFrames] at hcount

/-- The number of bytes of a packed audio packet. -/
lemma length_fhssAudioPacketHeader_append (sequence : UInt16) (flags : UInt8)
    (frames : List Bytes) :
    (fhssAudioPacketHeader sequence flags frames ++ frames.flatten).length =
      fhssAudioPacketHeaderSize + payloadBytes frames := by
  rw [List.length_append, List.length_flatten]
  rfl

/-- The count in the header of frames that fit. -/
lemma toNat_ofNat_length {frames : List Bytes} (h : FramesFit frames) :
    (UInt8.ofNat frames.length).toNat = frames.length := by
  have hcount := h.count_le
  have hmax : fhssAudioPacketMaxFrames = 2 := rfl
  rw [UInt8.toNat_ofNat']
  omega

/-- An audio packet is unpacked to what was packed. -/
theorem fhssAudioPacketUnpack_pack {sequence : UInt16} {flags : UInt8} {frames : List Bytes}
    {packet : Bytes}
    (h : fhssAudioPacketPack sequence flags frames rfTransportMaxPacketLength = .ok packet) :
    fhssAudioPacketUnpack packet = some ⟨sequence, flags, frames⟩ := by
  obtain ⟨hfit, hflags, rfl⟩ := fhssAudioPacketPack_eq_ok.mp h
  have hlength := length_fhssAudioPacketHeader_append sequence flags frames
  have hlengths := @headerFrameLengths_pack sequence flags frames hfit
  have hpayload := hfit.payload_le
  have hcount := hfit.count_le
  have hsome := hfit.some_frame
  have hmaxFrames : fhssAudioPacketMaxFrames = 2 := rfl
  have hmax : fhssAudioPacketMaxPayloadBytes = 51 := rfl
  have hmaxLength : rfTransportMaxPacketLength = 60 := rfl
  have hsize : fhssAudioPacketHeaderSize = 9 := rfl
  have hsequence : readU16Le (fhssAudioPacketHeader sequence flags frames ++ frames.flatten) 5 =
      sequence := u16_ofNat_bytes sequence
  have hcountByte : (UInt8.ofNat frames.length).toNat = frames.length := toNat_ofNat_length hfit
  unfold fhssAudioPacketUnpack
  rw [if_neg, if_neg, if_neg, hlengths, hsequence]
  · have hloop : unpackPayloadLength 0 (frames.map List.length) = some (payloadBytes frames) := by
      refine (unpackPayloadLength_eq_some (Nat.zero_le _)).mpr ⟨?_, ?_, (Nat.zero_add _).symm⟩
      · simpa using hfit.nonempty
      · simpa [payloadBytes] using hpayload
    rw [hloop]
    dsimp only
    rw [if_neg (not_not.mpr hlength)]
    have hdrop : (fhssAudioPacketHeader sequence flags frames ++ frames.flatten).drop
        fhssAudioPacketHeaderSize = frames.flatten := List.drop_left' rfl
    rw [hdrop, cutFrames_flatten]
    rfl
  · rintro ⟨hone, hsecond⟩
    change UInt8.ofNat frames.length = 1 at hone
    change UInt8.ofNat (frames.getD 1 []).length ≠ 0 at hsecond
    have hnat : frames.length = 1 := by
      rw [← hcountByte, hone]
      rfl
    have hnone : frames.getD 1 [] = [] := by
      rw [List.getD_eq_getElem?_getD, List.getElem?_eq_none (by omega), Option.getD_none]
    rw [hnone] at hsecond
    exact hsecond rfl
  · rintro (hzero | hlarge)
    · change UInt8.ofNat frames.length = 0 at hzero
      rw [hzero] at hcountByte
      exact hsome hcountByte.symm
    · change fhssAudioPacketMaxFrames < (UInt8.ofNat frames.length).toNat at hlarge
      omega
  · rintro (h | h | h | h | h | h)
    · omega
    · omega
    · exact h rfl
    · exact h rfl
    · exact h rfl
    · change flagsAreValid flags = false at h
      rw [hflags] at h
      cases h

/-- The first nine bytes of a packet that has as many, byte by byte. -/
lemma take_nine {packet : Bytes} (h : 9 ≤ packet.length) :
    packet.take 9 = [packet.getD 0 0, packet.getD 1 0, packet.getD 2 0, packet.getD 3 0,
      packet.getD 4 0, packet.getD 5 0, packet.getD 6 0, packet.getD 7 0, packet.getD 8 0] := by
  match packet, h with
  | _ :: _ :: _ :: _ :: _ :: _ :: _ :: _ :: _ :: _, _ => rfl

/-- The length bytes of a header are those of the frames, also of one that is not there. -/
lemma length_getD_frame {frames : List Bytes} {packet : Bytes}
    (hlengths : frames.map List.length = headerFrameLengths packet)
    (hcount : packet.getD 4 0 ≠ 0) (hmax : (packet.getD 4 0).toNat ≤ 2)
    (hsecond : packet.getD 4 0 = 1 → packet.getD 8 0 = 0) :
    UInt8.ofNat (frames.getD 0 []).length = packet.getD 7 0 ∧
      UInt8.ofNat (frames.getD 1 []).length = packet.getD 8 0 := by
  have hcases : packet.getD 4 0 = 1 ∨ packet.getD 4 0 = 2 := by
    have hne : (packet.getD 4 0).toNat ≠ 0 := fun hzero => hcount (UInt8.toNat_inj.mp hzero)
    have hone : (1 : UInt8).toNat = 1 := rfl
    have htwo : (2 : UInt8).toNat = 2 := rfl
    rcases (by omega : (packet.getD 4 0).toNat = 1 ∨ (packet.getD 4 0).toNat = 2) with h | h
    · exact .inl (UInt8.toNat_inj.mp h)
    · exact .inr (UInt8.toNat_inj.mp h)
  unfold headerFrameLengths at hlengths
  rcases hcases with hone | htwo
  · rw [hone] at hlengths
    obtain ⟨frame, rfl, hfirst⟩ := List.map_eq_singleton_iff.mp hlengths
    refine ⟨?_, (hsecond hone).symm⟩
    change UInt8.ofNat frame.length = packet.getD 7 0
    rw [hfirst, UInt8.ofNat_toNat]
  · rw [htwo] at hlengths
    obtain ⟨first, rest, rfl, hfirst, hrest⟩ := List.map_eq_cons_iff.mp hlengths
    obtain ⟨second, rfl, hlast⟩ := List.map_eq_singleton_iff.mp hrest
    constructor
    · change UInt8.ofNat first.length = packet.getD 7 0
      rw [hfirst, UInt8.ofNat_toNat]
    · change UInt8.ofNat second.length = packet.getD 8 0
      rw [hlast, UInt8.ofNat_toNat]

/-- Only what can be packed is unpacked as an audio packet. -/
theorem fhssAudioPacketPack_unpack {packet : Bytes} {view : FhssAudioPacketView}
    (h : fhssAudioPacketUnpack packet = some view) :
    fhssAudioPacketPack view.sequence view.flags view.frames rfTransportMaxPacketLength =
      .ok packet := by
  have hmaxFrames : fhssAudioPacketMaxFrames = 2 := rfl
  have hsize : fhssAudioPacketHeaderSize = 9 := rfl
  unfold fhssAudioPacketUnpack at h
  by_cases hformat : packet.length < fhssAudioPacketHeaderSize ∨
      rfTransportMaxPacketLength < packet.length ∨ packet.getD 0 0 ≠ fhssAudioPacketMagic ∨
      packet.getD 1 0 ≠ fhssAudioPacketVersion ∨ packet.getD 2 0 ≠ fhssAudioPacketType ∨
      flagsAreValid (packet.getD 3 0) = false
  · rw [if_pos hformat] at h
    cases h
  rw [if_neg hformat] at h
  by_cases hcount : packet.getD 4 0 = 0 ∨ fhssAudioPacketMaxFrames < (packet.getD 4 0).toNat
  · rw [if_pos hcount] at h
    cases h
  rw [if_neg hcount] at h
  by_cases hsecond : packet.getD 4 0 = 1 ∧ packet.getD 8 0 ≠ 0
  · rw [if_pos hsecond] at h
    cases h
  rw [if_neg hsecond] at h
  cases hloop : unpackPayloadLength 0 (headerFrameLengths packet) with
  | none =>
    rw [hloop] at h
    cases h
  | some payloadLength =>
    rw [hloop] at h
    obtain ⟨hnonzero, hfits, htotal⟩ :=
      (unpackPayloadLength_eq_some (Nat.zero_le _)).mp hloop
    dsimp only at h
    by_cases hlength : packet.length ≠ fhssAudioPacketHeaderSize + payloadLength
    · rw [if_pos hlength] at h
      cases h
    rw [if_neg hlength] at h
    obtain rfl := Option.some.inj h
    push Not at hformat hcount hsecond hlength
    obtain ⟨hmin, -, hmagic, hversion, htype, hflags⟩ := hformat
    obtain ⟨hsome, hmax⟩ := hcount
    have hlong : fhssAudioPacketHeaderSize ≤ packet.length := by omega
    have hfits : (packet.getD 4 0).toNat ≤ fhssAudioPacketMaxFrames := by omega
    have hdrop : (packet.drop fhssAudioPacketHeaderSize).length =
        (headerFrameLengths packet).sum := by
      rw [List.length_drop]
      omega
    obtain ⟨hlengths, hflatten⟩ := cutFrames_spec hdrop
    have hframes : (cutFrames (headerFrameLengths packet)
        (packet.drop fhssAudioPacketHeaderSize)).length = (packet.getD 4 0).toNat := by
      rw [← List.length_map List.length, hlengths]
      unfold headerFrameLengths
      rw [List.length_take]
      simp only [List.length_cons, List.length_nil]
      omega
    have hne : (packet.getD 4 0).toNat ≠ 0 := fun hzero =>
      hsome (UInt8.toNat_inj.mp hzero)
    refine fhssAudioPacketPack_eq_ok.mpr ⟨⟨?_, ?_, ?_, ?_⟩, by simpa using hflags, ?_⟩
    · rw [hframes]
      exact hne
    · rw [hframes]
      exact hfits
    · intro frame hmem
      exact hnonzero _ (hlengths ▸ List.mem_map_of_mem hmem)
    · unfold payloadBytes
      rw [hlengths]
      omega
    · rw [hflatten]
      have hheader : fhssAudioPacketHeader (readU16Le packet 5) (packet.getD 3 0)
          (cutFrames (headerFrameLengths packet) (packet.drop fhssAudioPacketHeaderSize)) =
            packet.take fhssAudioPacketHeaderSize := by
        obtain ⟨hfirst, hlast⟩ := length_getD_frame hlengths hsome hfits hsecond
        unfold fhssAudioPacketHeader readU16Le
        rw [u16LeBytes_ofNat, hframes, UInt8.ofNat_toNat, hfirst, hlast, ← hmagic, ← hversion,
          ← htype]
        exact (take_nine hlong).symm
      rw [hheader, List.take_append_drop]

end FhssOtaRadio
