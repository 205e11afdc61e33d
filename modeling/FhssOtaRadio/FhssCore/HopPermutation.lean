import FhssOtaRadio.FhssCore.HopSequence
import FhssOtaRadio.Library.CyclicList

/-!
# Every seed gives a fair hop sequence (`fhss_hop_sequence.c`)

The shuffle loop exchanges entries 1 and up, so whatever the generator delivers, it permutes the
identity and leaves entry 0 in place (`shuffle_perm`, `shuffle_head`).  `hopOrder` is the channel
list in the order of the hops; slot `slot` is on entry `slot` of its cycle
(`fhssHopSequenceGetChannel_eq`).
-/

namespace FhssOtaRadio

/-- `fhss_hop_sequence_init_seeded` as its caller sees it: the status, `none` for `OK`, and what
`sequence` points to afterwards.  The sequence is built in a local and copied out last. -/
def fhssHopSequenceInitSeededAt (sequence : FhssHopSequence) (channels : List UInt8)
    (seed : UInt32) (reservedChannel : UInt8) : Option FhssHopStatus × FhssHopSequence :=
  match fhssHopSequenceInitSeeded channels seed reservedChannel with
  | .ok initializedSequence => (none, initializedSequence)
  | .error status => (some status, sequence)

/-- The channel lists that can be hopped on: 1 to 256 different channels, the reserved one not
among them. -/
structure ValidChannels (channels : List UInt8) (reservedChannel : UInt8) : Prop where
  nonempty : 1 ≤ channels.length
  atMost : channels.length ≤ 256
  nodup : channels.Nodup
  notReserved : reservedChannel ∉ channels

/-- What a hop sequence over `channels` promises. -/
structure FairHops (channels : List UInt8) (reservedChannel : UInt8)
    (sequence : FhssHopSequence) : Prop where
  bijOn : Set.BijOn (fun position => (sequence.permutation.getD position 0).toNat)
    (Set.Iio channels.length) (Set.Iio channels.length)
  fixesZero : sequence.permutation.getD 0 0 = 0
  visits : ∀ slotNumber : UInt32, slotNumber.toNat + channels.length ≤ 2 ^ 32 →
    ∀ channel ∈ channels, ∃! k, k < channels.length ∧
      fhssHopSequenceGetChannel sequence (slotNumber + UInt32.ofNat k) = .ok channel
  onChannel : ∀ slotNumber : UInt32, ∃ channel ∈ channels,
    fhssHopSequenceGetChannel sequence slotNumber = .ok channel
  notReserved : ∀ slotNumber : UInt32,
    fhssHopSequenceGetChannel sequence slotNumber ≠ .ok reservedChannel

/-! ## The shuffle -/

/-- The shuffle permutes the entries, whatever the generator delivers. -/
lemma shuffle_perm (i : ℕ) (permutation : List UInt8) (randomState : UInt32)
    (hi : i ≤ permutation.length) : (shuffle permutation randomState i).Perm permutation := by
  induction permutation, randomState, i using shuffle.induct with
  | case1 permutation randomState i value selected ih =>
      have hselected : selected < permutation.length := by
        have hmod : value.toNat % (i + 2) < i + 2 := Nat.mod_lt _ (by omega)
        change 1 + value.toNat % (i + 2) < permutation.length
        omega
      have hswap : (swapEntries permutation (i + 2) selected).Perm permutation :=
        CyclicList.exchange_perm (by omega) hselected
      have hrest := ih (by rw [hswap.length_eq]; omega)
      rw [shuffle]
      exact hrest.trans hswap
  | case2 permutation randomState i hsmall =>
      rw [shuffle]
      exact hsmall

/-- The shuffle leaves entry 0 in place. -/
lemma shuffle_head (i : ℕ) (permutation : List UInt8) (randomState : UInt32) :
    (shuffle permutation randomState i).getD 0 0 = permutation.getD 0 0 := by
  induction permutation, randomState, i using shuffle.induct with
  | case1 permutation randomState i value selected ih =>
      have hselected : selected ≠ 0 := by
        change 1 + value.toNat % (i + 2) ≠ 0
        omega
      have hswap : (swapEntries permutation (i + 2) selected).getD 0 0 =
          permutation.getD 0 0 := CyclicList.getD_exchange_of_ne (by omega) hselected
      rw [shuffle]
      exact ih.trans hswap
  | case2 permutation randomState i hsmall =>
      rw [shuffle]
      exact hsmall

/-! ## The sequence that is built -/

/-- The table that `initialize_sequence` fills before it shuffles. -/
def identityPermutation (count : ℕ) : List UInt8 := (List.range count).map UInt8.ofNat

/-- The channels in the order of the hops. -/
def hopOrder (sequence : FhssHopSequence) : List UInt8 :=
  sequence.permutation.map fun index => sequence.channels.getD index.toNat 0

@[simp] lemma length_identityPermutation (count : ℕ) :
    (identityPermutation count).length = count := by
  simp [identityPermutation]

/-- The entries of the table as numbers are `0, …, count - 1`; 256 of them fit into bytes. -/
lemma identityPermutation_toNat {count : ℕ} (h : count ≤ 256) :
    (identityPermutation count).map UInt8.toNat = List.range count := by
  unfold identityPermutation
  rw [List.map_map]
  have hid : ∀ k ∈ List.range count, (UInt8.toNat ∘ UInt8.ofNat) k = id k := by
    intro k hk
    have hlt : k < 256 := lt_of_lt_of_le (List.mem_range.mp hk) h
    simp [Nat.mod_eq_of_lt hlt]
  rw [List.map_congr_left hid, List.map_id]

/-- The entry in place 0 of the table is 0. -/
lemma identityPermutation_head (count : ℕ) : (identityPermutation count).getD 0 0 = 0 := by
  cases count with
  | zero => rfl
  | succ count => simp [identityPermutation, List.range_succ_eq_map]

/-- What `initialize_sequence` builds: its table is the identity, permuted with place 0 kept. -/
structure Shuffled (channels : List UInt8) (sequence : FhssHopSequence) : Prop where
  channels_eq : sequence.channels = channels
  initialized : sequence.initialized = true
  perm : sequence.permutation.Perm (identityPermutation channels.length)
  head : sequence.permutation.getD 0 0 = 0

/-- A valid channel list is accepted for every seed. -/
lemma fhssHopSequenceInitSeeded_of_valid {channels : List UInt8} {reservedChannel : UInt8}
    (h : ValidChannels channels reservedChannel) (seed : UInt32) :
    ∃ sequence, fhssHopSequenceInitSeeded channels seed reservedChannel = .ok sequence ∧
      Shuffled channels sequence := by
  have hcount : ¬ (channels.length = 0 ∨ 256 < channels.length) := by
    have hnonempty := h.nonempty
    have hatMost := h.atMost
    omega
  have hbad : ¬ ((true = true ∧ reservedChannel ∈ channels) ∨ ¬ channels.Nodup) := by
    rintro (⟨-, hmem⟩ | hdup)
    · exact h.notReserved hmem
    · exact hdup h.nodup
  unfold fhssHopSequenceInitSeeded initializeSequence
  rw [if_neg hcount, if_neg hbad]
  refine ⟨_, rfl, rfl, rfl, ?_, ?_⟩
  · exact shuffle_perm _ _ _ (length_identityPermutation _).ge
  · exact (shuffle_head _ _ _).trans (identityPermutation_head _)

/-- Any other channel list is rejected. -/
lemma fhssHopSequenceInitSeeded_of_not_valid {channels : List UInt8} {reservedChannel : UInt8}
    (h : ¬ ValidChannels channels reservedChannel) (seed : UInt32) :
    fhssHopSequenceInitSeeded channels seed reservedChannel = .error .invalidConfig := by
  unfold fhssHopSequenceInitSeeded initializeSequence
  by_cases hcount : channels.length = 0 ∨ 256 < channels.length
  · rw [if_pos hcount]
  rw [if_neg hcount, if_pos]
  by_contra hgood
  push Not at hcount hgood
  exact h ⟨by omega, hcount.2, hgood.2, hgood.1 rfl⟩

/-- Slot `slotNumber` is on entry `slotNumber` of the cycle of hops. -/
lemma fhssHopSequenceGetChannel_eq {sequence : FhssHopSequence}
    (hinit : sequence.initialized = true)
    (hlength : sequence.permutation.length = sequence.channels.length)
    (hne : sequence.channels ≠ []) (slotNumber : UInt32) :
    fhssHopSequenceGetChannel sequence slotNumber =
      .ok (CyclicList.entry (hopOrder sequence) 0 slotNumber.toNat) := by
  have hlt : slotNumber.toNat % sequence.channels.length < sequence.permutation.length := by
    rw [hlength]
    exact Nat.mod_lt _ (List.length_pos_iff.mpr hne)
  have hindex : fhssHopSequenceGetIndex sequence slotNumber =
      .ok (sequence.permutation[slotNumber.toNat % sequence.channels.length]) := by
    unfold fhssHopSequenceGetIndex
    rw [if_neg (by simp [hinit]), List.getD_eq_getElem _ _ hlt]
  have hentry : CyclicList.entry (hopOrder sequence) 0 slotNumber.toNat =
      sequence.channels.getD
        (sequence.permutation[slotNumber.toNat % sequence.channels.length]).toNat 0 := by
    unfold CyclicList.entry hopOrder
    simp only [List.length_map, hlength]
    rw [List.getD_eq_getElem _ _ (by rw [List.length_map]; exact hlt), List.getElem_map]
  rw [fhssHopSequenceGetChannel, hindex, hentry]
  rfl

/-- The order of the hops is the channel list, permuted. -/
lemma hopOrder_perm {channels : List UInt8} {sequence : FhssHopSequence}
    (hatMost : channels.length ≤ 256) (h : Shuffled channels sequence) :
    (hopOrder sequence).Perm channels := by
  have hread := (h.perm.map UInt8.toNat).map (channels.getD · 0)
  rw [identityPermutation_toNat hatMost, CyclicList.map_getD_range, List.map_map] at hread
  unfold hopOrder
  rw [h.channels_eq]
  exact hread

/-- The slot `k` after `slotNumber`, short of the wrap. -/
lemma toNat_add_ofNat {slotNumber : UInt32} {k : ℕ} (h : slotNumber.toNat + k < 2 ^ 32) :
    (slotNumber + UInt32.ofNat k).toNat = slotNumber.toNat + k := by
  rw [UInt32.toNat_add, UInt32.toNat_ofNat', Nat.mod_eq_of_lt (by omega : k < 2 ^ 32)]
  exact Nat.mod_eq_of_lt h

/-- The shuffle of the identity is a bijection of the positions. -/
lemma bijOn_of_shuffled {channels : List UInt8} {sequence : FhssHopSequence}
    (hatMost : channels.length ≤ 256) (h : Shuffled channels sequence) :
    Set.BijOn (fun position => (sequence.permutation.getD position 0).toNat)
      (Set.Iio channels.length) (Set.Iio channels.length) := by
  have hnat := h.perm.map UInt8.toNat
  rw [identityPermutation_toNat hatMost] at hnat
  have hbij := CyclicList.bijOn_of_perm_range hnat
  have hread : ∀ position, (sequence.permutation.map UInt8.toNat).getD position 0 =
      (sequence.permutation.getD position 0).toNat := by
    intro position
    exact List.getD_map sequence.permutation 0 UInt8.toNat
  simpa only [hread] using hbij

/-- What `initialize_sequence` builds over a valid channel list is fair. -/
lemma fairHops_of_shuffled {channels : List UInt8} {reservedChannel : UInt8}
    {sequence : FhssHopSequence} (hvalid : ValidChannels channels reservedChannel)
    (h : Shuffled channels sequence) : FairHops channels reservedChannel sequence := by
  have hlength : sequence.permutation.length = sequence.channels.length := by
    rw [h.perm.length_eq, length_identityPermutation, h.channels_eq]
  have hne : channels ≠ [] := List.length_pos_iff.mp hvalid.nonempty
  have horder := hopOrder_perm hvalid.atMost h
  have hchannel := fhssHopSequenceGetChannel_eq h.initialized hlength (h.channels_eq ▸ hne)
  have hmem : ∀ slotNumber : UInt32,
      CyclicList.entry (hopOrder sequence) 0 slotNumber.toNat ∈ channels := by
    intro slotNumber
    have hcycle : hopOrder sequence ≠ [] := by
      intro hnil
      exact hne (List.nil_perm.mp (hnil ▸ horder))
    exact horder.mem_iff.mp (CyclicList.entry_mem hcycle 0 slotNumber.toNat)
  refine ⟨bijOn_of_shuffled hvalid.atMost h, h.head, ?_, ?_, ?_⟩
  · intro slotNumber hwrap channel hchannelMem
    obtain ⟨k, ⟨hk, hkx⟩, hunique⟩ := CyclicList.existsUnique_window
      (horder.nodup_iff.mpr hvalid.nodup) 0 slotNumber.toNat (horder.mem_iff.mpr hchannelMem)
    rw [horder.length_eq] at hk
    refine ⟨k, ⟨hk, ?_⟩, ?_⟩
    · rw [hchannel, toNat_add_ofNat (by omega), hkx]
    · rintro m ⟨hm, hmx⟩
      rw [hchannel, toNat_add_ofNat (by omega)] at hmx
      exact hunique m ⟨by rw [horder.length_eq]; exact hm, Except.ok.inj hmx⟩
  · intro slotNumber
    exact ⟨_, hmem slotNumber, hchannel slotNumber⟩
  · intro slotNumber hreserved
    rw [hchannel slotNumber] at hreserved
    exact hvalid.notReserved (Except.ok.inj hreserved ▸ hmem slotNumber)

/-- **Every seed gives a fair permutation.**  Over 1 to 256 different channels without the
reserved one, every seed gives a hop sequence whose permutation is a bijection of the positions
that fixes position 0; as many consecutive slots as there are channels visit each channel once.
Every other channel list is rejected and the caller's sequence is left alone. -/
theorem fhssHopSequenceInitSeeded_fair (previous : FhssHopSequence) (channels : List UInt8)
    (seed : UInt32) (reservedChannel : UInt8) :
    (ValidChannels channels reservedChannel →
      ∃ sequence, fhssHopSequenceInitSeededAt previous channels seed reservedChannel =
          (none, sequence) ∧
        FairHops channels reservedChannel sequence) ∧
    (¬ ValidChannels channels reservedChannel →
      fhssHopSequenceInitSeededAt previous channels seed reservedChannel =
        (some .invalidConfig, previous)) := by
  constructor
  · intro h
    obtain ⟨sequence, hbuilt, hshuffled⟩ := fhssHopSequenceInitSeeded_of_valid h seed
    refine ⟨sequence, ?_, fairHops_of_shuffled h hshuffled⟩
    rw [fhssHopSequenceInitSeededAt, hbuilt]
  · intro h
    rw [fhssHopSequenceInitSeededAt, fhssHopSequenceInitSeeded_of_not_valid h seed]

/-- A seed over five channels that moves three of them, and a list with a repeated channel. -/
theorem fhssHopSequenceInitSeeded_fair_five :
    (∃ sequence,
      fhssHopSequenceInitSeededAt .zero [17, 61, 40, 5, 33] 0x1234 76 = (none, sequence) ∧
      FairHops [17, 61, 40, 5, 33] 76 sequence) ∧
    hopOrder (fhssHopSequenceInitSeededAt .zero [17, 61, 40, 5, 33] 0x1234 76).2 =
      [17, 5, 61, 40, 33] ∧
    fhssHopSequenceInitSeededAt .zero [17, 61, 17] 0x1234 76 = (some .invalidConfig, .zero) :=
  ⟨(fhssHopSequenceInitSeeded_fair .zero [17, 61, 40, 5, 33] 0x1234 76).1 ⟨by decide, by decide,
      by decide, by decide⟩,
    by decide,
    (fhssHopSequenceInitSeeded_fair .zero [17, 61, 17] 0x1234 76).2 fun h =>
      absurd h.nodup (by decide)⟩

end FhssOtaRadio
