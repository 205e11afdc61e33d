import FhssOtaRadio.Esp
import Mathlib.Data.List.Basic
import Mathlib.Data.Vector.Basic
import Mathlib.Tactic.Ring

/-!
# The batch cache of the OTA client (`ota_batch_cache.c`)

The client collects the chunks of one batch of at most `otaClientBatchSize` numbers in RAM
before it writes them to flash in one call.  `receivedMask` records which slots of the current
batch are filled; the rows of `data` lie one behind the other in memory, so that a completed
batch is the first `batchSize` bytes of the flattened rows.

The second half of the file describes what the operations do to the cache in terms of slots
(`Received`, `slotBytes`), which is the only form later modules use.
-/

namespace FhssOtaRadio

/-- `OTA_CLIENT_BATCH_SIZE`. -/
def otaClientBatchSize : ℕ := 5

/-- `OTA_CLIENT_DATA_MAX_PAYLOAD_SIZE`. -/
def otaClientDataMaxPayloadSize : ℕ := 48

/-- `ota_batch_cache_t`.  The number of chunks of the batch is bounded by its type, as the
only code that assigns it (`ota_batch_cache_prepare`, `memset`) bounds it. -/
structure OtaBatchCache where
  baseSequence : UInt32
  chunkCount : Fin (otaClientBatchSize + 1)
  receivedMask : BitVec 8
  lengths : Vector ℕ otaClientBatchSize
  data : Vector (Vector UInt8 otaClientDataMaxPayloadSize) otaClientBatchSize
  deriving DecidableEq

/-- The cache after `memset(cache, 0, sizeof(*cache))`. -/
def OtaBatchCache.zero : OtaBatchCache where
  baseSequence := 0
  chunkCount := 0
  receivedMask := 0
  lengths := Vector.replicate _ 0
  data := Vector.replicate _ (Vector.replicate _ 0)

/-- `ota_batch_required_mask`. -/
def otaBatchRequiredMask (chunkCount : ℕ) : BitVec 8 :=
  if chunkCount = 0 then 0 else BitVec.ofNat 8 (1 <<< chunkCount - 1)

/-- `ota_batch_cache_prepare`: an empty cache for the batch that starts at `baseSequence`. -/
def otaBatchCachePrepare (baseSequence totalChunks : UInt32) : OtaBatchCache :=
  let cache := { OtaBatchCache.zero with baseSequence := baseSequence }
  if totalChunks ≤ baseSequence then cache
  else
    let remaining := totalChunks - baseSequence
    { cache with
      chunkCount :=
        if h : remaining.toNat < otaClientBatchSize then ⟨remaining.toNat, by omega⟩
        else ⟨otaClientBatchSize, by omega⟩ }

/-- `memcpy(cache->data[index], data, data_size)` into one row of the cache. -/
def memcpyRow (row : Vector UInt8 otaClientDataMaxPayloadSize) (data : Bytes) :
    Vector UInt8 otaClientDataMaxPayloadSize :=
  Vector.ofFn fun j => data.getD j row[j]

/-- The three assignments of `ota_batch_cache_store` that fill slot `index`. -/
def OtaBatchCache.fillSlot (cache : OtaBatchCache) (index : Fin otaClientBatchSize)
    (data : Bytes) : OtaBatchCache :=
  { cache with
    data := cache.data.set index (memcpyRow cache.data[index] data)
    lengths := cache.lengths.set index data.length
    receivedMask := cache.receivedMask ||| BitVec.ofNat 8 (1 <<< index.val) }

/-- What `ota_batch_cache_store` returns: its code, the cache and `*out_duplicate`. -/
structure OtaBatchStoreResult where
  err : EspErr
  cache : OtaBatchCache
  duplicate : Bool

/-- `ota_batch_cache_store`.  A slot that is already filled keeps its bytes. -/
def otaBatchCacheStore (cache : OtaBatchCache) (sequence : UInt32) (data : Bytes) :
    OtaBatchStoreResult :=
  if data.length = 0 ∨ otaClientDataMaxPayloadSize < data.length then
    ⟨.invalidArg, cache, false⟩
  else if cache.chunkCount.val = 0 ∨ sequence < cache.baseSequence then
    ⟨.invalidState, cache, false⟩
  else
    let index := (sequence - cache.baseSequence).toNat
    if h : cache.chunkCount.val ≤ index then ⟨.invalidArg, cache, false⟩
    else
      have hindex : index < otaClientBatchSize := by have := cache.chunkCount.isLt; omega
      if cache.receivedMask &&& BitVec.ofNat 8 (1 <<< index) ≠ 0 then ⟨.ok, cache, true⟩
      else ⟨.ok, cache.fillSlot ⟨index, hindex⟩ data, false⟩

/-- `ota_batch_cache_missing_mask`. -/
def otaBatchCacheMissingMask (cache : OtaBatchCache) : BitVec 8 :=
  otaBatchRequiredMask cache.chunkCount &&& ~~~cache.receivedMask

/-- `ota_batch_cache_is_complete`. -/
def otaBatchCacheIsComplete (cache : OtaBatchCache) : Bool :=
  cache.chunkCount.val ≠ 0 && otaBatchCacheMissingMask cache == 0

/-- The length recorded for slot `i`. -/
def OtaBatchCache.lengthAt (cache : OtaBatchCache) (i : ℕ) : ℕ :=
  cache.lengths[i]?.getD 0

/-- The loop of `ota_batch_cache_commit` over the slots: the byte count of the batch, or
`none` when a slot length does not fit a contiguous buffer. -/
def otaBatchCommitSize (cache : OtaBatchCache) : Option ℕ :=
  (List.range cache.chunkCount).foldlM (fun batchSize i =>
    if cache.lengthAt i = 0 ∨
        (i + 1 < cache.chunkCount.val ∧ cache.lengthAt i ≠ otaClientDataMaxPayloadSize) then
      none
    else some (batchSize + cache.lengthAt i)) 0

/-- The `data[5][48]` array read as one buffer, `&cache->data[0][0]`. -/
def OtaBatchCache.buffer (cache : OtaBatchCache) : Bytes :=
  cache.data.toList.flatMap Vector.toList

/-- `ota_batch_cache_commit`: hand a complete batch to `writeCallback` in a single call.  The
callback context is threaded through as `σ`; the number is `*out_written_size`. -/
def otaBatchCacheCommit {σ : Type*} (cache : OtaBatchCache)
    (writeCallback : Bytes → σ → EspErr × σ) (context : σ) : EspErr × ℕ × σ :=
  if otaBatchCacheIsComplete cache = false then (.invalidState, 0, context)
  else
    match otaBatchCommitSize cache with
    | none => (.invalidSize, 0, context)
    | some batchSize =>
        match writeCallback (cache.buffer.take batchSize) context with
        | (.ok, context') => (.ok, batchSize, context')
        | (err, context') => (err, 0, context')

/-! ## The cache by slots -/

/-- Slot `i` of the current batch is filled. -/
def OtaBatchCache.Received (cache : OtaBatchCache) (i : ℕ) : Prop :=
  cache.receivedMask.getLsbD i = true

instance (cache : OtaBatchCache) (i : ℕ) : Decidable (cache.Received i) :=
  inferInstanceAs (Decidable (_ = true))

/-- Row `i` of the `data` array. -/
def OtaBatchCache.rowAt (cache : OtaBatchCache) (i : ℕ) : Bytes :=
  (cache.data[i]?.map Vector.toList).getD []

/-- The bytes held in slot `i`. -/
def OtaBatchCache.slotBytes (cache : OtaBatchCache) (i : ℕ) : Bytes :=
  (cache.rowAt i).take (cache.lengthAt i)

/-- A slot of the cache holds as many bytes as its recorded length says. -/
lemma length_slotBytes (cache : OtaBatchCache) {i : ℕ} (hi : i < otaClientBatchSize)
    (hlen : cache.lengthAt i ≤ otaClientDataMaxPayloadSize) :
    (cache.slotBytes i).length = cache.lengthAt i := by
  have hrow : (cache.rowAt i).length = otaClientDataMaxPayloadSize := by
    simp [OtaBatchCache.rowAt, Vector.getElem?_eq_getElem hi]
  unfold OtaBatchCache.slotBytes
  rw [List.length_take, hrow]
  exact min_eq_left hlen

/-- Testing the single bit of slot `i` in a mask. -/
lemma and_slotBit_eq_zero_iff (mask : BitVec 8) {i : ℕ} (hi : i < 8) :
    mask &&& BitVec.ofNat 8 (1 <<< i) = 0 ↔ mask.getLsbD i = false := by
  have hbit : ∀ j < 8, (BitVec.ofNat 8 (1 <<< i)).getLsbD j = decide (i = j) := by
    intro j hj
    rw [BitVec.getLsbD_ofNat, Nat.one_shiftLeft, Nat.testBit_two_pow]
    simp [hj]
  constructor
  · intro h
    have := congrArg (fun m : BitVec 8 => m.getLsbD i) h
    simpa [hbit i hi] using this
  · intro h
    refine BitVec.eq_of_getLsbD_eq fun j hj => ?_
    rw [BitVec.getLsbD_and, hbit j hj]
    by_cases hij : i = j
    · subst hij
      simp [h]
    · simp [hij]

/-- The required mask has the bits of the slots of the batch. -/
lemma getLsbD_otaBatchRequiredMask (chunkCount : Fin (otaClientBatchSize + 1)) (i : ℕ) :
    (otaBatchRequiredMask chunkCount).getLsbD i = decide (i < chunkCount.val) := by
  have hcount : chunkCount.val < 6 := chunkCount.isLt
  unfold otaBatchRequiredMask
  split_ifs with h
  · simp [h]
  · rw [BitVec.getLsbD_ofNat, Nat.one_shiftLeft, Nat.testBit_two_pow_sub_one]
    by_cases hi : i < chunkCount.val
    · simp [hi]
      omega
    · simp [hi]

/-- A batch is complete when it has chunks and every slot of it is filled. -/
lemma otaBatchCacheIsComplete_iff (cache : OtaBatchCache) :
    otaBatchCacheIsComplete cache = true ↔
      cache.chunkCount.val ≠ 0 ∧ ∀ i < cache.chunkCount.val, cache.Received i := by
  unfold otaBatchCacheIsComplete otaBatchCacheMissingMask
  rw [Bool.and_eq_true, decide_eq_true_iff, beq_iff_eq]
  refine and_congr_right fun _ => ⟨fun h i hi => ?_, fun h => ?_⟩
  · have hcount : cache.chunkCount.val < 6 := cache.chunkCount.isLt
    have := congrArg (fun m : BitVec 8 => m.getLsbD i) h
    simp only [BitVec.getLsbD_and, getLsbD_otaBatchRequiredMask, hi] at this
    have hi8 : i < 8 := by omega
    simpa [OtaBatchCache.Received, hi8] using this
  · refine BitVec.eq_of_getLsbD_eq fun i hi => ?_
    rw [BitVec.getLsbD_and, getLsbD_otaBatchRequiredMask]
    by_cases hic : i < cache.chunkCount.val
    · have hrec := h i hic
      unfold OtaBatchCache.Received at hrec
      simp [hrec]
    · simp [hic]

section fillSlot

variable (cache : OtaBatchCache) (index : Fin otaClientBatchSize) (data : Bytes)

/-- Filling a slot marks this slot and no other. -/
lemma received_fillSlot (i : ℕ) :
    (cache.fillSlot index data).Received i ↔ cache.Received i ∨ i = index.val := by
  have hindex : index.val < 5 := index.isLt
  unfold OtaBatchCache.Received OtaBatchCache.fillSlot
  rw [BitVec.getLsbD_or, BitVec.getLsbD_ofNat, Nat.one_shiftLeft, Nat.testBit_two_pow]
  by_cases hi : i = index.val
  · subst hi
    simp
    omega
  · simp [hi, Ne.symm hi]

@[simp] lemma lengthAt_fillSlot_self :
    (cache.fillSlot index data).lengthAt index = data.length := by
  simp [OtaBatchCache.lengthAt, OtaBatchCache.fillSlot]

lemma lengthAt_fillSlot_of_ne {i : ℕ} (h : i ≠ index.val) :
    (cache.fillSlot index data).lengthAt i = cache.lengthAt i := by
  simp [OtaBatchCache.lengthAt, OtaBatchCache.fillSlot, Vector.getElem?_set_ne, Ne.symm h]

/-- A slot that was just filled holds the bytes it was given. -/
lemma slotBytes_fillSlot_self (hlen : data.length ≤ otaClientDataMaxPayloadSize) :
    (cache.fillSlot index data).slotBytes index = data := by
  unfold OtaBatchCache.slotBytes
  rw [lengthAt_fillSlot_self]
  have hrow : (cache.fillSlot index data).rowAt index =
      (memcpyRow cache.data[index] data).toList := by
    simp [OtaBatchCache.rowAt, OtaBatchCache.fillSlot]
  rw [hrow]
  refine List.ext_getElem ?_ fun j hj hj' => ?_
  · simpa using hlen
  · simp [memcpyRow, hj']

/-- The other slots keep their bytes. -/
lemma slotBytes_fillSlot_of_ne {i : ℕ} (h : i ≠ index.val) :
    (cache.fillSlot index data).slotBytes i = cache.slotBytes i := by
  unfold OtaBatchCache.slotBytes
  rw [lengthAt_fillSlot_of_ne _ _ _ h]
  simp [OtaBatchCache.rowAt, OtaBatchCache.fillSlot, Vector.getElem?_set_ne, Ne.symm h]

end fillSlot

/-! ## What a store and a prepare do to the slots -/

/-- What `ota_batch_cache_store` can do: refuse and leave the cache alone, report a duplicate
of a filled slot, or fill an empty slot of the batch. -/
lemma otaBatchCacheStore_cases (cache : OtaBatchCache) (sequence : UInt32) (data : Bytes) :
    (∃ err, err ≠ .ok ∧ otaBatchCacheStore cache sequence data = ⟨err, cache, false⟩) ∨
    (cache.baseSequence.toNat ≤ sequence.toNat ∧
      sequence.toNat < cache.baseSequence.toNat + cache.chunkCount.val ∧
      cache.Received (sequence.toNat - cache.baseSequence.toNat) ∧
      otaBatchCacheStore cache sequence data = ⟨.ok, cache, true⟩) ∨
    ∃ index : Fin otaClientBatchSize,
      sequence.toNat = cache.baseSequence.toNat + index.val ∧
      index.val < cache.chunkCount.val ∧ ¬ cache.Received index ∧
      0 < data.length ∧ data.length ≤ otaClientDataMaxPayloadSize ∧
      otaBatchCacheStore cache sequence data = ⟨.ok, cache.fillSlot index data, false⟩ := by
  unfold otaBatchCacheStore
  split_ifs with hsize hstate
  · exact .inl ⟨.invalidArg, by decide, rfl⟩
  · exact .inl ⟨.invalidState, by decide, rfl⟩
  have hle : cache.baseSequence ≤ sequence := by
    rw [not_or, UInt32.not_lt] at hstate
    exact hstate.2
  have hsub : (sequence - cache.baseSequence).toNat =
      sequence.toNat - cache.baseSequence.toNat := UInt32.toNat_sub_of_le _ _ hle
  have hleNat : cache.baseSequence.toNat ≤ sequence.toNat := UInt32.le_iff_toNat_le.mp hle
  dsimp only
  split_ifs with hindex hbit
  · exact .inl ⟨.invalidArg, by decide, rfl⟩
  all_goals
    have hcount : cache.chunkCount.val < 6 := cache.chunkCount.isLt
    rw [ne_eq, and_slotBit_eq_zero_iff _ (by omega), hsub] at hbit
    rw [hsub] at hindex
  · refine .inr (.inl ⟨hleNat, by omega, ?_, rfl⟩)
    simpa [OtaBatchCache.Received] using hbit
  · have hfive : (sequence - cache.baseSequence).toNat < otaClientBatchSize := by
      rw [hsub]
      unfold otaClientBatchSize
      omega
    refine .inr (.inr ⟨⟨_, hfive⟩, by simp only [hsub]; omega, by simp only [hsub]; omega, ?_,
      by omega, by omega, rfl⟩)
    simpa [OtaBatchCache.Received, hsub] using hbit

/-- A sequence number inside the batch whose chunk has an admissible size is always accepted. -/
lemma otaBatchCacheStore_err_of_mem {cache : OtaBatchCache} {sequence : UInt32} {data : Bytes}
    (hpos : 0 < data.length) (hlen : data.length ≤ otaClientDataMaxPayloadSize)
    (hle : cache.baseSequence.toNat ≤ sequence.toNat)
    (hlt : sequence.toNat < cache.baseSequence.toNat + cache.chunkCount.val) :
    (otaBatchCacheStore cache sequence data).err = .ok := by
  unfold otaBatchCacheStore
  have hleU : cache.baseSequence ≤ sequence := UInt32.le_iff_toNat_le.mpr hle
  have hsub : (sequence - cache.baseSequence).toNat =
      sequence.toNat - cache.baseSequence.toNat := UInt32.toNat_sub_of_le _ _ hleU
  rw [if_neg (by omega), if_neg (by rw [UInt32.lt_iff_toNat_lt]; omega)]
  dsimp only
  rw [dif_neg (by omega)]
  split_ifs <;> rfl

@[simp] lemma otaBatchCachePrepare_baseSequence (baseSequence totalChunks : UInt32) :
    (otaBatchCachePrepare baseSequence totalChunks).baseSequence = baseSequence := by
  unfold otaBatchCachePrepare
  dsimp only
  split_ifs <;> rfl

@[simp] lemma otaBatchCachePrepare_receivedMask (baseSequence totalChunks : UInt32) :
    (otaBatchCachePrepare baseSequence totalChunks).receivedMask = 0 := by
  unfold otaBatchCachePrepare
  dsimp only
  split_ifs <;> rfl

/-- The batch prepared at `baseSequence` covers the next chunks of the image, five at most. -/
lemma otaBatchCachePrepare_chunkCount (baseSequence totalChunks : UInt32) :
    (otaBatchCachePrepare baseSequence totalChunks).chunkCount.val =
      min otaClientBatchSize (totalChunks.toNat - baseSequence.toNat) := by
  unfold otaBatchCachePrepare otaClientBatchSize
  dsimp only
  split_ifs with hdone hremaining
  · rw [UInt32.le_iff_toNat_le] at hdone
    simp only [OtaBatchCache.zero, Fin.val_zero]
    omega
  all_goals
    rw [UInt32.not_le, UInt32.lt_iff_toNat_lt] at hdone
    have hsub : (totalChunks - baseSequence).toNat = totalChunks.toNat - baseSequence.toNat :=
      UInt32.toNat_sub_of_le _ _ (UInt32.le_iff_toNat_le.mpr hdone.le)
  · simp only
    omega
  · simp only
    omega

/-- A freshly prepared batch has no slot filled. -/
lemma not_received_otaBatchCachePrepare (baseSequence totalChunks : UInt32) (i : ℕ) :
    ¬ (otaBatchCachePrepare baseSequence totalChunks).Received i := by
  simp [OtaBatchCache.Received]

/-! ## The committed bytes -/

/-- The first `48 * k + m` bytes of the buffer are `k` whole rows and `m` bytes of the next. -/
lemma take_buffer (cache : OtaBatchCache) {k m : ℕ} (hk : k < otaClientBatchSize)
    (hm : m ≤ otaClientDataMaxPayloadSize) :
    cache.buffer.take (otaClientDataMaxPayloadSize * k + m) =
      (List.range k).flatMap cache.rowAt ++ (cache.rowAt k).take m := by
  have hrows : ∀ (rows : List (Vector UInt8 otaClientDataMaxPayloadSize)) (k : ℕ),
      k < rows.length →
      (rows.flatMap Vector.toList).take (otaClientDataMaxPayloadSize * k + m) =
        (List.range k).flatMap (fun i => (rows[i]?.map Vector.toList).getD []) ++
          ((rows[k]?.map Vector.toList).getD []).take m := by
    intro rows
    induction rows with
    | nil => intro k hk; simp at hk
    | cons row rows ih =>
      intro k hk
      cases k with
      | zero => simp [List.take_append, Nat.sub_eq_zero_of_le hm]
      | succ k =>
        have hlen : otaClientDataMaxPayloadSize * (k + 1) + m =
            row.toList.length + (otaClientDataMaxPayloadSize * k + m) := by
          rw [Vector.length_toList]
          ring
        rw [List.flatMap_cons, hlen, List.take_length_add_append, ih k (by simpa using hk),
          List.range_succ_eq_map, List.flatMap_cons, List.flatMap_map, List.append_assoc]
        simp
  have hrow : cache.rowAt = fun i => (cache.data.toList[i]?.map Vector.toList).getD [] := by
    funext i
    simp [OtaBatchCache.rowAt]
  rw [hrow]
  exact hrows cache.data.toList k (by simpa using hk)

/-- The size loop of the commit succeeds exactly on slots that can lie contiguously, and then
returns the sum of the slot lengths. -/
lemma otaBatchCommitSize_eq (cache : OtaBatchCache) :
    otaBatchCommitSize cache =
      if ∀ i < cache.chunkCount.val, cache.lengthAt i ≠ 0 ∧
          (i + 1 < cache.chunkCount.val → cache.lengthAt i = otaClientDataMaxPayloadSize) then
        some ((List.range cache.chunkCount.val).map cache.lengthAt).sum
      else none := by
  have hloop : ∀ (bad : ℕ → Prop) [DecidablePred bad] (f : ℕ → ℕ) (n : ℕ),
      (List.range n).foldlM (fun acc i => if bad i then none else some (acc + f i)) 0 =
        if ∀ i < n, ¬ bad i then some ((List.range n).map f).sum else none := by
    intro bad _ f n
    induction n with
    | zero => simp
    | succ n ih =>
      rw [List.range_succ, List.foldlM_append, ih]
      by_cases hn : ∀ i < n, ¬ bad i
      · by_cases hbad : bad n
        · rw [if_pos hn, if_neg fun h => h n (Nat.lt_succ_self n) hbad]
          simp [hbad]
        · rw [if_pos hn, if_pos (Nat.forall_lt_succ_right.mpr ⟨hn, hbad⟩)]
          simp [hbad]
      · rw [if_neg hn, if_neg fun h => hn (Nat.forall_lt_succ_right.mp h).1]
        rfl
  unfold otaBatchCommitSize
  rw [hloop]
  refine if_congr (forall₂_congr fun i _ => ?_) rfl rfl
  tauto

/-- A complete batch of full slots, the last one possibly shorter, is written as the
concatenation of its slots. -/
lemma take_buffer_eq_flatMap_slotBytes (cache : OtaBatchCache)
    (hlen : ∀ i < cache.chunkCount.val, cache.lengthAt i ≤ otaClientDataMaxPayloadSize ∧
      (i + 1 < cache.chunkCount.val → cache.lengthAt i = otaClientDataMaxPayloadSize)) :
    cache.buffer.take ((List.range cache.chunkCount.val).map cache.lengthAt).sum =
      (List.range cache.chunkCount.val).flatMap cache.slotBytes := by
  rcases Nat.eq_zero_or_eq_succ_pred cache.chunkCount.val with hzero | hk
  · simp [hzero]
  generalize cache.chunkCount.val.pred = k at hk
  have hfive : k < otaClientBatchSize := by
    have := cache.chunkCount.isLt
    omega
  rw [hk] at hlen ⊢
  have hfull : ∀ i < k, cache.lengthAt i = otaClientDataMaxPayloadSize :=
    fun i hi => (hlen i (by omega)).2 (by omega)
  have hsum : ((List.range (k + 1)).map cache.lengthAt).sum =
      otaClientDataMaxPayloadSize * k + cache.lengthAt k := by
    rw [List.range_succ, List.map_append, List.sum_append,
      List.map_congr_left fun i hi => hfull i (List.mem_range.mp hi)]
    simp [Nat.mul_comm]
  have hrow : ∀ i < k, cache.slotBytes i = cache.rowAt i := by
    intro i hi
    unfold OtaBatchCache.slotBytes
    rw [hfull i hi]
    refine List.take_of_length_le ?_
    unfold OtaBatchCache.rowAt
    cases cache.data[i]? <;> simp
  rw [Nat.succ_eq_add_one, hsum, take_buffer cache hfive (hlen k (by omega)).1, List.range_succ,
    List.flatMap_append, List.flatMap_singleton]
  refine congrArg₂ (· ++ ·) ?_ rfl
  exact List.flatMap_congr fun i hi => (hrow i (List.mem_range.mp hi)).symm

/-- `ota_batch_cache_commit` on a complete batch of contiguous slots: one callback call with
the concatenation of the slots. -/
lemma otaBatchCacheCommit_eq {σ : Type*} {cache : OtaBatchCache}
    (hcomplete : otaBatchCacheIsComplete cache = true)
    (hlen : ∀ i < cache.chunkCount.val, cache.lengthAt i ≠ 0 ∧
      cache.lengthAt i ≤ otaClientDataMaxPayloadSize ∧
      (i + 1 < cache.chunkCount.val → cache.lengthAt i = otaClientDataMaxPayloadSize))
    (writeCallback : Bytes → σ → EspErr × σ) (context : σ) :
    otaBatchCacheCommit cache writeCallback context =
      match writeCallback ((List.range cache.chunkCount.val).flatMap cache.slotBytes) context with
      | (.ok, context') =>
          (.ok, ((List.range cache.chunkCount.val).map cache.lengthAt).sum, context')
      | (err, context') => (err, 0, context') := by
  unfold otaBatchCacheCommit
  rw [if_neg (by simp [hcomplete]), otaBatchCommitSize_eq,
    if_pos fun i hi => ⟨(hlen i hi).1, (hlen i hi).2.2⟩]
  dsimp only
  rw [take_buffer_eq_flatMap_slotBytes cache fun i hi => (hlen i hi).2]

end FhssOtaRadio
