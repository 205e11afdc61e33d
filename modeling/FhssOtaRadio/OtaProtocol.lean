import FhssOtaRadio.Esp

/-!
# The wire protocol library

`ota_protocol` is a library of its own that the firmware only links against.  It enters as a
structure of functions and constants: its decoders return the fields of a packet or reject it,
its encoders return the bytes written or fail.  The field records below are the ones the
firmware reads and writes.
-/

namespace FhssOtaRadio

/-- `ota_packet_type_t`. -/
inductive OtaPacketType where
  | discover
  | discoverAck
  | start
  | data
  | «end»
  | ack
  | nack
  | fhssConfig
  | fhssActivate
  | fhssSync
  deriving DecidableEq, Repr

/-- `ota_result_t`, as far as the firmware sends it. -/
inductive OtaResult where
  | ok
  | busy
  | invalidSize
  | invalidCrc
  | invalidSession
  | invalidSequence
  | writeFailed
  | verifyFailed
  | timeout
  deriving DecidableEq, Repr

/-- `ota_start_fields_t`. -/
structure OtaStartFields where
  sessionId : UInt32
  targetDeviceId : UInt32
  imageSize : UInt32
  totalChunks : UInt32
  imageSha256 : Sha256Digest
  deriving DecidableEq

/-- `ota_data_header_fields_t`, of which the consumer reads two fields. -/
structure OtaDataHeaderFields where
  sessionId : UInt32
  sequence : UInt32
  deriving DecidableEq

/-- `ota_end_fields_t`. -/
structure OtaEndFields where
  sessionId : UInt32
  imageSize : UInt32
  totalChunks : UInt32
  deriving DecidableEq

/-- `ota_ack_fields_t`. -/
structure OtaAckFields where
  sessionId : UInt32
  acknowledgedType : OtaPacketType
  sequence : UInt32
  resultCode : OtaResult
  deriving DecidableEq

/-- `ota_discover_ack_fields_t`. -/
structure OtaDiscoverAckFields where
  deviceId : UInt32
  fwMajor : UInt8
  fwMinor : UInt8
  fwPatch : UInt8
  deriving DecidableEq

/-- `ota_fhss_config_fields_t`. -/
structure OtaFhssConfigFields where
  sessionId : UInt32
  targetDeviceId : UInt32
  generation : UInt32
  seed : UInt32
  algorithmVersion : UInt8
  rendezvousChannel : UInt8
  firstChannel : UInt8
  channelCount : UInt8
  reservedChannel : UInt8
  slotDurationUs : UInt32
  channelSwitchGuardUs : UInt32
  deriving DecidableEq

/-- `ota_fhss_activate_fields_t`. -/
structure OtaFhssActivateFields where
  sessionId : UInt32
  targetDeviceId : UInt32
  generation : UInt32
  deriving DecidableEq

/-- `ota_fhss_sync_fields_t`. -/
structure OtaFhssSyncFields where
  syncVersion : UInt8
  generation : UInt32
  sequence : UInt16
  hopIndex : UInt8
  slotNumber : UInt32
  deriving DecidableEq

/-- The functions and constants of the `ota_protocol` library. -/
structure OtaProtocol where
  /-- `ota_protocol_peek_type`. -/
  peekType : Bytes → Option OtaPacketType
  /-- `ota_protocol_decode_discover`. -/
  decodeDiscover : Bytes → Bool
  /-- `ota_protocol_decode_start`. -/
  decodeStart : Bytes → Option OtaStartFields
  /-- `ota_protocol_decode_data`: the header and the payload. -/
  decodeData : Bytes → Option (OtaDataHeaderFields × Bytes)
  /-- `ota_protocol_decode_end`. -/
  decodeEnd : Bytes → Option OtaEndFields
  /-- `ota_protocol_decode_fhss_config`. -/
  decodeFhssConfig : Bytes → Option OtaFhssConfigFields
  /-- `ota_protocol_decode_fhss_activate`. -/
  decodeFhssActivate : Bytes → Option OtaFhssActivateFields
  /-- `ota_protocol_decode_fhss_sync`. -/
  decodeFhssSync : Bytes → Option OtaFhssSyncFields
  /-- `ota_protocol_encode_ack`; `none` stands for the length 0. -/
  encodeAck : OtaPacketType → OtaAckFields → Option Bytes
  /-- `ota_protocol_encode_discover_ack`; `none` stands for the length 0. -/
  encodeDiscoverAck : OtaDiscoverAckFields → Option Bytes
  /-- `ota_read_u32_le`, of the bytes from an offset on. -/
  readU32Le : Bytes → ℕ → UInt32
  /-- `ota_fhss_config_is_valid`. -/
  fhssConfigIsValid : OtaFhssConfigFields → Bool
  /-- `OTA_DEVICE_ID_MAX`. -/
  deviceIdMax : UInt32
  /-- `OTA_BROADCAST_DEVICE_ID`. -/
  broadcastDeviceId : UInt32
  /-- `OTA_CONTROL_SEQUENCE`. -/
  controlSequence : UInt32
  /-- `OTA_DATA_HEADER_SIZE`. -/
  dataHeaderSize : ℕ
  /-- `OTA_MAX_PAYLOAD_SIZE`. -/
  maxPayloadSize : ℕ
  /-- `OTA_FHSS_ALGORITHM_VERSION`. -/
  fhssAlgorithmVersion : UInt8
  /-- `sizeof(fhss_stored_config_t)`, which depends on the layout of
  `ota_fhss_config_fields_t`. -/
  fhssStoredConfigSize : UInt16
  /-- `OTA_FHSS_SYNC_PACKET_SIZE`. -/
  fhssSyncPacketSize : ℕ
  /-- `OTA_PKT_FHSS_SYNC` as it stands in the first byte of a packet. -/
  fhssSyncTypeByte : UInt8
  /-- `OTA_FHSS_SYNC_VERSION`. -/
  fhssSyncVersion : UInt8

/-! ## A concrete wire format -/

/-- The packet type byte of the concrete format. -/
def plainPacketType : UInt8 → Option OtaPacketType
  | 1 => some .start
  | 2 => some .data
  | 3 => some .end
  | 4 => some .ack
  | 5 => some .nack
  | 6 => some .discover
  | 7 => some .discoverAck
  | 8 => some .fhssConfig
  | 9 => some .fhssActivate
  | 10 => some .fhssSync
  | _ => none

/-- The four little-endian bytes of a word. -/
def u32LeBytes (word : UInt32) : Bytes :=
  [word.toUInt8, (word >>> 8).toUInt8, (word >>> 16).toUInt8, (word >>> 24).toUInt8]

/-- A wire format without checksums, with the fields of every packet one behind the other in
little-endian order.  The examples run the model over it. -/
def plainProtocol : OtaProtocol where
  peekType packet := packet.head?.bind plainPacketType
  decodeDiscover packet := packet.length == 1
  decodeStart packet :=
    if packet.length = 49 then
      some ⟨readU32Le packet 1, readU32Le packet 5, readU32Le packet 9,
        readU32Le packet 13, Vector.ofFn fun i => packet.getD (17 + i) 0⟩
    else none
  decodeData packet :=
    if packet.length = 12 + (packet.getD 9 0).toNat then
      some (⟨readU32Le packet 1, readU32Le packet 5⟩, packet.drop 12)
    else none
  decodeEnd packet :=
    if packet.length = 13 then
      some ⟨readU32Le packet 1, readU32Le packet 5, readU32Le packet 9⟩
    else none
  decodeFhssConfig packet :=
    if packet.length = 30 then
      some ⟨readU32Le packet 1, readU32Le packet 5, readU32Le packet 9,
        readU32Le packet 13, packet.getD 17 0, packet.getD 18 0, packet.getD 19 0,
        packet.getD 20 0, packet.getD 21 0, readU32Le packet 22, readU32Le packet 26⟩
    else none
  decodeFhssActivate packet :=
    if packet.length = 13 then
      some ⟨readU32Le packet 1, readU32Le packet 5, readU32Le packet 9⟩
    else none
  decodeFhssSync packet :=
    if packet.length = 13 then
      some ⟨packet.getD 1 0, readU32Le packet 2,
        UInt16.ofNat ((packet.getD 6 0).toNat + (packet.getD 7 0).toNat * 256),
        packet.getD 8 0, readU32Le packet 9⟩
    else none
  encodeAck responseType fields :=
    some ((if responseType = .ack then 4 else 5) ::
      (u32LeBytes fields.sessionId ++ u32LeBytes fields.sequence))
  encodeDiscoverAck fields :=
    some (7 :: (u32LeBytes fields.deviceId ++ [fields.fwMajor, fields.fwMinor, fields.fwPatch]))
  readU32Le := readU32Le
  fhssConfigIsValid fields :=
    0 < fields.channelCount && fields.channelSwitchGuardUs < fields.slotDurationUs
  deviceIdMax := 0xFFFFFF
  broadcastDeviceId := 0xFFFFFFFF
  controlSequence := 0xFFFFFFFF
  dataHeaderSize := 12
  maxPayloadSize := 48
  fhssAlgorithmVersion := 1
  fhssStoredConfigSize := 40
  fhssSyncPacketSize := 13
  fhssSyncTypeByte := 10
  fhssSyncVersion := 1

end FhssOtaRadio
