import FhssOtaRadio.FhssCore.HopSequence
import FhssOtaRadio.FhssCore.SyncState
import FhssOtaRadio.OtaProtocol

/-!
# SYNC packets and the FHSS core (`fhss_sync_packet.c`, `fhss_core.c`)

The core accepts a SYNC packet when it decodes, carries the core's generation and names the hop
index the core computes for its slot.  An accepted packet counts as valid when it arrived inside
the timing window and as a miss when it did not.
-/

namespace FhssOtaRadio

variable (protocol : OtaProtocol)

/-! ## SYNC packets -/

/-- `fhss_packet_status_t` without `OK`. -/
inductive FhssPacketStatus where
  | invalidArg
  | invalidLength
  | invalidMagic
  | unsupportedVersion
  | invalidType
  | bufferTooSmall
  deriving DecidableEq, Repr

/-- `fhss_sync_packet_t`. -/
structure FhssSyncPacket where
  version : UInt8
  generation : UInt32
  sequence : UInt16
  hopIndex : UInt8
  slotNumber : UInt32
  deriving DecidableEq

/-- `fhss_sync_packet_has_valid_magic`. -/
def fhssSyncPacketHasValidMagic (buffer : Bytes) : Bool :=
  buffer.length == protocol.fhssSyncPacketSize && buffer.getD 0 0 == protocol.fhssSyncTypeByte &&
    buffer.getD 1 0 == protocol.fhssSyncVersion

/-- `fhss_sync_packet_decode`. -/
def fhssSyncPacketDecode (buffer : Bytes) : Except FhssPacketStatus FhssSyncPacket :=
  if buffer.length ≠ protocol.fhssSyncPacketSize then .error .invalidLength
  else if buffer.getD 0 0 ≠ protocol.fhssSyncTypeByte then .error .invalidMagic
  else if buffer.getD 1 0 ≠ protocol.fhssSyncVersion then .error .unsupportedVersion
  else
    match protocol.decodeFhssSync buffer with
    | none => .error .invalidType
    | some fields =>
        .ok ⟨fields.syncVersion, fields.generation, fields.sequence, fields.hopIndex,
          fields.slotNumber⟩

/-! ## The core -/

/-- `fhss_core_status_t` without `OK`. -/
inductive FhssCoreStatus where
  | invalidArg
  | invalidConfig
  | notInitialized
  | packetError
  | timingError
  | syncError
  | hopError
  deriving DecidableEq, Repr

/-- `fhss_core_config_t`. -/
structure FhssCoreConfig where
  channels : List UInt8
  hopSeed : UInt32
  generation : UInt32
  reservedChannel : UInt8
  timing : FhssTimingWindowConfig
  sync : FhssSyncStateConfig
  deriving DecidableEq

/-- `fhss_core_t`. -/
structure FhssCore where
  hopSequence : FhssHopSequence
  syncTracker : FhssSyncStateTracker
  timingConfig : FhssTimingWindowConfig
  generation : UInt32
  initialized : Bool
  deriving DecidableEq

/-- A core of zero bytes. -/
def FhssCore.zero : FhssCore := ⟨.zero, .zero, ⟨0, 0⟩, 0, false⟩

/-- `fhss_core_rx_result_t`. -/
structure FhssCoreRxResult where
  packet : FhssSyncPacket
  timing : FhssTimingWindowEvaluation
  syncEvent : FhssSyncEvent
  syncState : FhssSyncState
  hopIndex : UInt8
  channel : UInt8
  deriving DecidableEq

/-- `fhss_core_init`. -/
def fhssCoreInit (config : FhssCoreConfig) : Except FhssCoreStatus FhssCore :=
  if config.channels.length = 0 then .error .invalidConfig
  else
    match fhssHopSequenceInitSeeded config.channels config.hopSeed config.reservedChannel with
    | .error _ => .error .hopError
    | .ok hopSequence =>
        match fhssSyncStateInit config.sync with
        | .error _ => .error .syncError
        | .ok syncTracker => .ok ⟨hopSequence, syncTracker, config.timing, config.generation, true⟩

/-- `fhss_core_process_rx`: the core afterwards and the result. -/
def fhssCoreProcessRx (core : FhssCore) (buffer : Bytes) (expectedRxTimeUs actualRxTimeUs : ℤ) :
    FhssCore × Except FhssCoreStatus FhssCoreRxResult :=
  if core.initialized = false then (core, .error .notInitialized)
  else
    match fhssSyncPacketDecode protocol buffer with
    | .error _ => (core, .error .packetError)
    | .ok packet =>
        if packet.generation ≠ core.generation then (core, .error .packetError)
        else
          match fhssHopSequenceGetIndex core.hopSequence packet.slotNumber with
          | .error _ => (core, .error .hopError)
          | .ok expectedHopIndex =>
              if packet.hopIndex ≠ expectedHopIndex then (core, .error .packetError)
              else
                let timing :=
                  fhssTimingWindowEvaluate core.timingConfig expectedRxTimeUs actualRxTimeUs
                match if timing.result = .insideWindow then fhssSyncStateOnValid core.syncTracker
                    else fhssSyncStateOnMiss core.syncTracker with
                | .error _ => (core, .error .syncError)
                | .ok (syncTracker, syncEvent) =>
                    let core := { core with syncTracker := syncTracker }
                    match fhssSyncStateGet core.syncTracker with
                    | .error _ => (core, .error .syncError)
                    | .ok syncState =>
                        match fhssHopSequenceGetIndex core.hopSequence packet.slotNumber,
                            fhssHopSequenceGetChannel core.hopSequence packet.slotNumber with
                        | .ok hopIndex, .ok channel =>
                            (core, .ok ⟨packet, timing, syncEvent, syncState, hopIndex, channel⟩)
                        | _, _ => (core, .error .hopError)

/-- `fhss_core_handle_timeout`: the core afterwards, `*out_event` and `*out_state`. -/
def fhssCoreHandleTimeout (core : FhssCore) :
    FhssCore × Except FhssCoreStatus (FhssSyncEvent × FhssSyncState) :=
  if core.initialized = false then (core, .error .notInitialized)
  else
    match fhssSyncStateOnMiss core.syncTracker with
    | .error _ => (core, .error .syncError)
    | .ok (syncTracker, event) =>
        let core := { core with syncTracker := syncTracker }
        match fhssSyncStateGet core.syncTracker with
        | .error _ => (core, .error .syncError)
        | .ok state => (core, .ok (event, state))

/-- `fhss_core_get_channel`. -/
def fhssCoreGetChannel (core : FhssCore) (slotNumber : UInt32) : Except FhssCoreStatus UInt8 :=
  if core.initialized = false then .error .notInitialized
  else
    match fhssHopSequenceGetChannel core.hopSequence slotNumber with
    | .error _ => .error .hopError
    | .ok channel => .ok channel

/-! ## What the core accepts -/

/-- A core that can answer. -/
structure CoreReady (core : FhssCore) : Prop where
  initialized : core.initialized = true
  hop_initialized : core.hopSequence.initialized = true
  tracker_ready : TrackerReady core.syncTracker

/-- The core accepts a packet of its own generation that names the hop index of its slot. -/
def CoreAccepts (core : FhssCore) (buffer : Bytes) (packet : FhssSyncPacket) : Prop :=
  fhssSyncPacketDecode protocol buffer = .ok packet ∧ packet.generation = core.generation ∧
    fhssHopSequenceGetIndex core.hopSequence packet.slotNumber = .ok packet.hopIndex

section Ready

variable {core : FhssCore}

/-- What a core was built from. -/
lemma fhssCoreInit_ok {config : FhssCoreConfig} (h : fhssCoreInit config = .ok core) :
    fhssHopSequenceInitSeeded config.channels config.hopSeed config.reservedChannel =
        .ok core.hopSequence ∧
      fhssSyncStateInit config.sync = .ok core.syncTracker ∧
      core.generation = config.generation ∧ core.initialized = true := by
  unfold fhssCoreInit at h
  split_ifs at h with hempty
  cases hhop : fhssHopSequenceInitSeeded config.channels config.hopSeed config.reservedChannel with
  | error status =>
    rw [hhop] at h
    cases h
  | ok hopSequence =>
    rw [hhop] at h
    dsimp only at h
    cases hsync : fhssSyncStateInit config.sync with
    | error status =>
      rw [hsync] at h
      cases h
    | ok syncTracker =>
      rw [hsync] at h
      obtain rfl := Except.ok.inj h
      exact ⟨rfl, rfl, rfl, rfl⟩

/-- A core that was built is ready, searching, and has the hop sequence and the generation of its
configuration. -/
lemma coreReady_init {config : FhssCoreConfig} (h : fhssCoreInit config = .ok core) :
    CoreReady core ∧ core.syncTracker.state = .searching ∧
      core.syncTracker.config = config.sync ∧ core.generation = config.generation ∧
      fhssHopSequenceInitSeeded config.channels config.hopSeed config.reservedChannel =
        .ok core.hopSequence := by
  obtain ⟨hhop, hsync, hgeneration, hinitialized⟩ := fhssCoreInit_ok h
  obtain ⟨hready, hstate, hconfig⟩ := trackerReady_init hsync
  have hinit := initialized_of_fhssHopSequenceInitSeeded hhop
  exact ⟨⟨hinitialized, hinit, hready⟩, hstate, hconfig, hgeneration, hhop⟩

/-- A ready core rejects a packet and stays as it is, or accepts it: then the tracker takes the
packet as valid or as a miss, depending on the timing window, and the result says so. -/
lemma fhssCoreProcessRx_cases (h : CoreReady core) (buffer : Bytes)
    (expectedRxTimeUs actualRxTimeUs : ℤ) :
    (∃ status, fhssCoreProcessRx protocol core buffer expectedRxTimeUs actualRxTimeUs =
      (core, .error status) ∧ ∀ packet, ¬ CoreAccepts protocol core buffer packet) ∨
    ∃ packet syncTracker syncEvent channel, CoreAccepts protocol core buffer packet ∧
      fhssHopSequenceGetChannel core.hopSequence packet.slotNumber = .ok channel ∧
      TrackerReady syncTracker ∧
      (if (fhssTimingWindowEvaluate core.timingConfig expectedRxTimeUs actualRxTimeUs).result =
          .insideWindow then fhssSyncStateOnValid core.syncTracker
        else fhssSyncStateOnMiss core.syncTracker) = .ok (syncTracker, syncEvent) ∧
      fhssCoreProcessRx protocol core buffer expectedRxTimeUs actualRxTimeUs =
        ({ core with syncTracker := syncTracker },
          .ok ⟨packet,
            fhssTimingWindowEvaluate core.timingConfig expectedRxTimeUs actualRxTimeUs,
            syncEvent, syncTracker.state, packet.hopIndex, channel⟩) := by
  unfold fhssCoreProcessRx CoreAccepts
  rw [if_neg (by simp [h.initialized])]
  cases hdecode : fhssSyncPacketDecode protocol buffer with
  | error status => exact .inl ⟨_, rfl, fun packet hpacket => by cases hpacket.1⟩
  | ok packet =>
    dsimp only
    by_cases hgeneration : packet.generation ≠ core.generation
    · rw [if_pos hgeneration]
      refine .inl ⟨_, rfl, fun packet' hpacket => ?_⟩
      obtain rfl := Except.ok.inj hpacket.1
      exact hgeneration hpacket.2.1
    rw [if_neg hgeneration]
    obtain ⟨index, hindex⟩ := fhssHopSequenceGetIndex_of_initialized h.hop_initialized
      packet.slotNumber
    rw [hindex]
    dsimp only
    by_cases hhop : packet.hopIndex ≠ index
    · rw [if_pos hhop]
      refine .inl ⟨_, rfl, fun packet' hpacket => ?_⟩
      obtain rfl := Except.ok.inj hpacket.1
      rw [hindex] at hpacket
      exact hhop (Except.ok.inj hpacket.2.2).symm
    rw [if_neg hhop]
    obtain rfl := not_ne_iff.mp hhop
    have hupdate : ∃ syncTracker syncEvent,
        (if (fhssTimingWindowEvaluate core.timingConfig expectedRxTimeUs actualRxTimeUs).result =
            .insideWindow then fhssSyncStateOnValid core.syncTracker
          else fhssSyncStateOnMiss core.syncTracker) = .ok (syncTracker, syncEvent) ∧
        TrackerReady syncTracker := by
      split_ifs with hinside
      · obtain ⟨tracker, event, hok, hready, -⟩ := fhssSyncStateOnValid_reports h.tracker_ready
        exact ⟨tracker, event, hok, hready⟩
      · obtain ⟨tracker, event, hok, hready, -⟩ := fhssSyncStateOnMiss_reports h.tracker_ready
        exact ⟨tracker, event, hok, hready⟩
    obtain ⟨syncTracker, syncEvent, hok, hready⟩ := hupdate
    obtain ⟨channel, hchannel⟩ := fhssHopSequenceGetChannel_of_initialized h.hop_initialized
      packet.slotNumber
    rw [hok]
    dsimp only
    rw [fhssSyncStateGet_eq hready, hchannel]
    exact .inr ⟨packet, syncTracker, syncEvent, channel,
      ⟨rfl, not_ne_iff.mp hgeneration, hindex⟩, hchannel, hready, rfl, rfl⟩

/-- A ready core takes a timeout as a miss. -/
lemma fhssCoreHandleTimeout_eq (h : CoreReady core) :
    ∃ syncTracker event, fhssSyncStateOnMiss core.syncTracker = .ok (syncTracker, event) ∧
      TrackerReady syncTracker ∧ fhssCoreHandleTimeout core =
        ({ core with syncTracker := syncTracker }, .ok (event, syncTracker.state)) := by
  obtain ⟨syncTracker, event, hok, hready, -⟩ := fhssSyncStateOnMiss_reports h.tracker_ready
  unfold fhssCoreHandleTimeout
  rw [if_neg (by simp [h.initialized]), hok]
  dsimp only
  rw [fhssSyncStateGet_eq hready]
  exact ⟨syncTracker, event, rfl, hready, rfl⟩

end Ready

end FhssOtaRadio
