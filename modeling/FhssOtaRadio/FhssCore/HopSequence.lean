import FhssOtaRadio.Esp
import Mathlib.Data.List.Nodup

/-!
# The hop sequence (`fhss_hop_sequence.c`)

Peers with the same seed build the same permutation of the channel list.  A hop sequence keeps
the pointer to the channel table of its configuration; the only table of the firmware holds the
same channels at all times, so the model keeps the channels themselves.
-/

namespace FhssOtaRadio

/-- `fhss_hop_status_t` without `OK`. -/
inductive FhssHopStatus where
  | invalidArg
  | invalidConfig
  | notInitialized
  deriving DecidableEq, Repr

/-- `fhss_hop_sequence_t`; `channels` are the first `channel_count` entries of the table. -/
structure FhssHopSequence where
  channels : List UInt8
  seed : UInt32
  permutation : List UInt8
  initialized : Bool
  deriving DecidableEq

/-- A hop sequence of zero bytes. -/
def FhssHopSequence.zero : FhssHopSequence := ⟨[], 0, [], false⟩

/-- `next_random`, one step of xorshift32. -/
def nextRandom (state : UInt32) : UInt32 :=
  let value := state ^^^ (state <<< 13)
  let value := value ^^^ (value >>> 17)
  value ^^^ (value <<< 5)

/-- Swap two entries of the permutation. -/
def swapEntries (permutation : List UInt8) (i j : ℕ) : List UInt8 :=
  (permutation.set i (permutation.getD j 0)).set j (permutation.getD i 0)

/-- The shuffle loop of `initialize_sequence`, from `i` down to 3: entry 0 stays in place. -/
def shuffle (permutation : List UInt8) (randomState : UInt32) : ℕ → List UInt8
  | i + 3 =>
      let value := nextRandom randomState
      let selected := 1 + value.toNat % (i + 2)
      shuffle (swapEntries permutation (i + 2) selected) value (i + 2)
  | _ => permutation

/-- `initialize_sequence`. -/
def initializeSequence (channels : List UInt8) (seed : UInt32) (reservedChannel : UInt8)
    (enforceReservedChannel : Bool) : Except FhssHopStatus FhssHopSequence :=
  if channels.length = 0 ∨ 256 < channels.length then .error .invalidConfig
  else if (enforceReservedChannel = true ∧ reservedChannel ∈ channels) ∨ ¬ channels.Nodup then
    .error .invalidConfig
  else
    let randomState := if seed ≠ 0 then seed else 0x6D2B79F5
    let identity := (List.range channels.length).map UInt8.ofNat
    .ok
      { channels := channels
        seed := seed
        permutation := shuffle identity randomState channels.length
        initialized := true }

/-- `fhss_hop_sequence_init_seeded`. -/
def fhssHopSequenceInitSeeded (channels : List UInt8) (seed : UInt32) (reservedChannel : UInt8) :
    Except FhssHopStatus FhssHopSequence :=
  initializeSequence channels seed reservedChannel true

/-- `fhss_hop_sequence_get_index`. -/
def fhssHopSequenceGetIndex (sequence : FhssHopSequence) (slotNumber : UInt32) :
    Except FhssHopStatus UInt8 :=
  if sequence.initialized = false then .error .notInitialized
  else .ok (sequence.permutation.getD (slotNumber.toNat % sequence.channels.length) 0)

/-- `fhss_hop_sequence_get_channel`. -/
def fhssHopSequenceGetChannel (sequence : FhssHopSequence) (slotNumber : UInt32) :
    Except FhssHopStatus UInt8 := do
  let index ← fhssHopSequenceGetIndex sequence slotNumber
  .ok (sequence.channels.getD index.toNat 0)

/-- A sequence that was built is initialized. -/
lemma initialized_of_fhssHopSequenceInitSeeded {channels : List UInt8} {seed : UInt32}
    {reservedChannel : UInt8} {sequence : FhssHopSequence}
    (h : fhssHopSequenceInitSeeded channels seed reservedChannel = .ok sequence) :
    sequence.initialized = true := by
  unfold fhssHopSequenceInitSeeded initializeSequence at h
  by_cases hcount : channels.length = 0 ∨ 256 < channels.length
  · rw [if_pos hcount] at h
    cases h
  rw [if_neg hcount] at h
  by_cases hbad : (true = true ∧ reservedChannel ∈ channels) ∨ ¬ channels.Nodup
  · rw [if_pos hbad] at h
    cases h
  rw [if_neg hbad] at h
  obtain rfl := Except.ok.inj h
  rfl

/-- An initialized sequence has an index and a channel for every slot. -/
lemma fhssHopSequenceGetIndex_of_initialized {sequence : FhssHopSequence}
    (h : sequence.initialized = true) (slotNumber : UInt32) :
    ∃ index, fhssHopSequenceGetIndex sequence slotNumber = .ok index := by
  unfold fhssHopSequenceGetIndex
  rw [if_neg (by simp [h])]
  exact ⟨_, rfl⟩

lemma fhssHopSequenceGetChannel_of_initialized {sequence : FhssHopSequence}
    (h : sequence.initialized = true) (slotNumber : UInt32) :
    ∃ channel, fhssHopSequenceGetChannel sequence slotNumber = .ok channel := by
  obtain ⟨index, hindex⟩ := fhssHopSequenceGetIndex_of_initialized h slotNumber
  unfold fhssHopSequenceGetChannel
  rw [hindex]
  exact ⟨_, rfl⟩

end FhssOtaRadio
