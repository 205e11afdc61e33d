import FhssOtaRadio.FhssService.RxAgreement

/-!
# Recovery probes (`get_recovery_probe_slot` in `fhss_service.c`)

While it recovers, `rx_task` listens in every turn on the channel of the predicted slot, of the
one behind it or of the one ahead, in this order.  The place in the order is a `uint8_t` that every
turn increments, so it runs through 256 values before it comes back to zero; three does not divide
256, and the pattern breaks there.
-/

namespace FhssOtaRadio

open Machine

variable (protocol : OtaProtocol) (deriveHopSeed : Option (UInt32 → UInt32))

/-! ## The calls of an episode -/

/-- The service in which a turn calls `get_recovery_probe_slot`, if it does. -/
def probingService (service : FhssService) (turn : RxTurn) : Option FhssService :=
  if service.fsm = .searching then none
  else
    match fhssSlotSchedulerGetNextSwitchTime service.controller.scheduler turn.nowUs.toInt with
    | .error _ => none
    | .ok _ =>
        match drainRxDataUntil protocol deriveHopSeed service turn.drain with
        | (_, _, true) => none
        | (service, _, false) => if service.fsm = .recovery then some service else none

/-- A service and the services in which it has called `get_recovery_probe_slot` since it last
entered `RECOVERY`, oldest first. -/
structure ProbeLog where
  service : FhssService
  calls : List FhssService

/-- A turn of the loop, with its call.  A recovery that goes on makes a call in every turn, so
a turn without one stands between two episodes. -/
def probeLogTurn (log : ProbeLog) (turn : RxTurn) : ProbeLog × List RxEvent :=
  let calls :=
    match probingService protocol deriveHopSeed log.service turn with
    | none => []
    | some probing => log.calls ++ [probing]
  let (service, events) := rxTaskTurn protocol deriveHopSeed log.service turn
  ({ service := service, calls := calls }, events)

/-- The distance from the predicted slot to the one that is probed. -/
def probeShift (service : FhssService) (predictedSlot : UInt32) : ℤ :=
  ((getRecoveryProbeSlot service predictedSlot).2.toNat : ℤ) - predictedSlot.toNat

/-! ## The offsets -/

/-- The entry of `offsets` at an index. -/
def recoveryProbeOffset (index : ℕ) : ℤ :=
  if index % 3 = 1 then -1 else if index % 3 = 2 then 1 else 0

/-- A call moves the index on. -/
lemma probe_of_getRecoveryProbeSlot {service : FhssService} {predictedSlot channelSlot : UInt32}
    {probe : UInt8} (h : getRecoveryProbeSlot service predictedSlot =
      ({ service with recoveryProbeIndex := probe }, channelSlot)) :
    probe = service.recoveryProbeIndex + 1 := by
  have hmoved : (getRecoveryProbeSlot service predictedSlot).1.recoveryProbeIndex =
      service.recoveryProbeIndex + 1 := by
    unfold getRecoveryProbeSlot
    dsimp only
    split_ifs <;> rfl
  rw [h] at hmoved
  exact hmoved

/-- Inside the range of the slots, a call is off by the entry of its index. -/
lemma probeShift_eq (service : FhssService) {predictedSlot : UInt32} (hpos : 0 < predictedSlot)
    (hlt : predictedSlot < 0xFFFFFFFF) :
    probeShift service predictedSlot =
      recoveryProbeOffset service.recoveryProbeIndex.toNat := by
  have hpos' : 0 < predictedSlot.toNat := UInt32.lt_iff_toNat_lt.mp hpos
  have hlt' : predictedSlot.toNat < 4294967295 := UInt32.lt_iff_toNat_lt.mp hlt
  unfold probeShift getRecoveryProbeSlot recoveryProbeOffset
  dsimp only
  by_cases hbehind : service.recoveryProbeIndex.toNat % 3 = 1
  · have hle : (1 : UInt32) ≤ predictedSlot := UInt32.le_iff_toNat_le.mpr hpos'
    rw [if_pos hbehind, if_pos hbehind, if_neg (UInt32.pos_iff_ne_zero.mp hpos),
      UInt32.toNat_sub_of_le _ _ hle, UInt32.toNat_one]
    omega
  rw [if_neg hbehind, if_neg hbehind]
  by_cases hahead : service.recoveryProbeIndex.toNat % 3 = 2
  · rw [if_pos hahead, if_pos hahead, UInt32.toNat_add, UInt32.toNat_one]
    omega
  · rw [if_neg hahead, if_neg hahead]
    exact sub_self _

/-- Three indices in a row meet the three entries as long as the last two are no wrapped ones. -/
lemma offsets_perm_iff {index : ℕ} (hindex : index < 256) :
    [recoveryProbeOffset index, recoveryProbeOffset ((index + 1) % 256),
      recoveryProbeOffset ((index + 2) % 256)].Perm [0, -1, 1] ↔ index < 254 := by
  by_cases hbelow : index < 254
  · rw [Nat.mod_eq_of_lt (by omega : index + 1 < 256),
      Nat.mod_eq_of_lt (by omega : index + 2 < 256)]
    refine iff_of_true ?_ hbelow
    unfold recoveryProbeOffset
    rw [Nat.add_mod index 1, Nat.add_mod index 2]
    have hrest : index % 3 = 0 ∨ index % 3 = 1 ∨ index % 3 = 2 := by omega
    rcases hrest with hrest | hrest | hrest <;>
    · rw [hrest]
      decide
  · -- The pattern at the two breaks: `1, 0, 0` and `0, 0, -1`.
    obtain rfl | rfl : index = 254 ∨ index = 255 := by omega
    · decide
    · decide

/-! ## What a turn does to the index -/

/-- A step that begins no recovery, and keeps the index in one that goes on. -/
def KeepsProbe (service service' : FhssService) : Prop :=
  service'.fsm = .recovery →
    service.fsm = .recovery ∧ service'.recoveryProbeIndex = service.recoveryProbeIndex

section Handlers

variable {service : FhssService}

lemma KeepsProbe.trans {service' service'' : FhssService} (h : KeepsProbe service service')
    (h' : KeepsProbe service' service'') : KeepsProbe service service'' := by
  intro hrecovery
  obtain ⟨hrecovery', hindex'⟩ := h' hrecovery
  obtain ⟨hrecovery'', hindex⟩ := h hrecovery'
  exact ⟨hrecovery'', hindex'.trans hindex⟩

lemma keepsProbe_receiveOne (receive : RadioReceive) :
    KeepsProbe service (receiveOne protocol deriveHopSeed service receive).1 := by
  obtain ⟨controller, lastSeed, haveSeed, hreceive⟩ :=
    receiveOne_fst_eq protocol deriveHopSeed service receive
  rw [hreceive]
  exact fun hrecovery => ⟨hrecovery, rfl⟩

lemma fsm_clearReference (service : FhssService) : service.clearReference.fsm = service.fsm := by
  unfold FhssService.clearReference
  cases fhssSlotSchedulerClearReference service.controller.scheduler with
  | error status => rfl
  | ok scheduler => rfl

/-- The loss of the synchronization ends a recovery, and begins none. -/
lemma fhssFsmHandle_syncLost_ne (state : FhssFsmState) :
    (fhssFsmHandle state .syncLost).1 ≠ .recovery := by
  cases state <;> decide

/-- A SYNC packet ends a recovery. -/
lemma handleSyncResult_not_recovery (result : FhssCoreRxResult) :
    (handleSyncResult service result).1.fsm ≠ .recovery := by
  have hnote : (noteSyncResult service result.timing.result).fsm ≠ .recovery := by
    rw [noteSyncResult_eq]
    change afterSync service.fsm result.timing.result ≠ .recovery
    cases service.fsm <;> cases result.timing.result <;> decide
  unfold handleSyncResult
  dsimp only
  cases result.syncEvent with
  | none => exact hnote
  | acquired =>
    change (fhssFsmHandle (noteSyncResult service result.timing.result).fsm .syncAcquired).1 ≠ _
    revert hnote
    cases (noteSyncResult service result.timing.result).fsm <;> decide
  | lost =>
    exact fhssFsmHandle_syncLost_ne _

/-- A session that ends is searched for anew. -/
lemma handleSessionEnd_not_recovery (selected : Bool) :
    (handleSessionEnd service selected).1.fsm ≠ .recovery := by
  rcases handleSessionEnd_cases service selected with
    ⟨-, hended⟩ | ⟨controller, channel, ok, -, hended⟩
  · have hstopped : FhssFsmState.stopped ≠ .recovery := by decide
    rw [hended]
    exact hstopped
  · have hsearching : FhssFsmState.searching ≠ .recovery := by decide
    rw [hended]
    exact hsearching

/-- A miss counts in a recovery that goes on, or begins one at the first entry. -/
lemma handleMiss_probe (hrecovery : (handleMiss service).1.fsm = .recovery) :
    (service.fsm = .recovery ∧
        (handleMiss service).1.recoveryProbeIndex = service.recoveryProbeIndex) ∨
      (service.fsm ≠ .recovery ∧ (handleMiss service).1.recoveryProbeIndex = 0) := by
  revert hrecovery
  unfold handleMiss
  dsimp only
  generalize fhssSyncControllerHandleTimeout service.controller = answer
  obtain ⟨controller, status | ⟨event, state⟩⟩ := answer
  · exact fun hrecovery => .inl ⟨hrecovery, rfl⟩
  dsimp only
  by_cases hlost : event = .lost
  · rw [if_pos hlost]
    intro hrecovery
    change (fhssFsmHandle service.fsm .syncLost).1 = .recovery at hrecovery
    exact absurd hrecovery (fhssFsmHandle_syncLost_ne service.fsm)
  rw [if_neg hlost]
  by_cases hsynchronizing : service.fsm = .synchronizing
  · rw [if_pos hsynchronizing]
    intro hrecovery
    change (fhssFsmHandle (FhssService.clearReference _).fsm .syncLost).1 = .recovery
      at hrecovery
    exact absurd hrecovery (fhssFsmHandle_syncLost_ne _)
  rw [if_neg hsynchronizing]
  by_cases hdegraded : service.fsm = .tracking ∧
      service.config.recoveryEntryMissCount ≤ service.consecutiveSyncMisses + 1
  · rw [if_pos hdegraded]
    exact fun _ => .inr ⟨by rw [hdegraded.1]; decide, rfl⟩
  · rw [if_neg hdegraded]
    exact fun hrecovery => .inl ⟨hrecovery, rfl⟩

/-- The last receive of a turn keeps the index of a recovery that goes on, and begins one at the
first entry. -/
lemma handleReceive_probe (turn : RadioTurn)
    (hrecovery : (handleReceive protocol deriveHopSeed service turn).1.fsm = .recovery) :
    (service.fsm = .recovery ∧
        (handleReceive protocol deriveHopSeed service turn).1.recoveryProbeIndex =
          service.recoveryProbeIndex) ∨
      (service.fsm ≠ .recovery ∧
        (handleReceive protocol deriveHopSeed service turn).1.recoveryProbeIndex = 0) := by
  obtain ⟨controller, lastSeed, haveSeed, hreceive⟩ :=
    receiveOne_fst_eq protocol deriveHopSeed service turn.receive
  revert hrecovery
  unfold handleReceive
  generalize receiveOne protocol deriveHopSeed service turn.receive = answer at hreceive ⊢
  obtain ⟨service', received⟩ := answer
  obtain rfl : service' = _ := hreceive
  cases received with
  | ok result => exact fun hrecovery => absurd hrecovery (handleSyncResult_not_recovery result)
  | timeout => exact handleMiss_probe
  | crcFail => exact handleMiss_probe
  | radioError => exact fun hrecovery => .inl ⟨hrecovery, rfl⟩
  | data => exact fun hrecovery => .inl ⟨hrecovery, rfl⟩
  | syncError =>
    dsimp only
    unfold handleInvalidSync
    split_ifs
    · exact handleMiss_probe
    · exact fun hrecovery => .inl ⟨hrecovery, rfl⟩
  | sessionEnd =>
    exact fun hrecovery => absurd hrecovery (handleSessionEnd_not_recovery turn.selected)

/-- The drain of a slot begins no recovery, and does not end a turn that recovers. -/
lemma drainRxDataUntil_probe (turns : List RadioTurn) : ∀ service : FhssService,
    KeepsProbe service (drainRxDataUntil protocol deriveHopSeed service turns).1 ∧
      ((drainRxDataUntil protocol deriveHopSeed service turns).2.2 = true →
        (drainRxDataUntil protocol deriveHopSeed service turns).1.fsm ≠ .recovery) := by
  induction turns with
  | nil => exact fun service => ⟨fun hrecovery => ⟨hrecovery, rfl⟩, fun hended => by cases hended⟩
  | cons turn turns ih =>
    intro service
    have hreceive := @keepsProbe_receiveOne protocol deriveHopSeed service turn.receive
    unfold drainRxDataUntil
    generalize receiveOne protocol deriveHopSeed service turn.receive = answer at hreceive ⊢
    obtain ⟨service', received⟩ := answer
    obtain ⟨hkept, hended⟩ := ih service'
    cases received with
    | ok result =>
      obtain ⟨hkept', hended'⟩ := ih (handleSyncResult service' result).1
      refine ⟨fun hrecovery => ?_, hended'⟩
      exact absurd (hkept' hrecovery).1 (handleSyncResult_not_recovery result)
    | timeout => exact ⟨hreceive.trans hkept, hended⟩
    | crcFail => exact ⟨hreceive.trans hkept, hended⟩
    | data => exact ⟨hreceive.trans hkept, hended⟩
    | radioError => exact ⟨hreceive, fun hended => by cases hended⟩
    | syncError => exact ⟨hreceive, fun hended => by cases hended⟩
    | sessionEnd =>
      have hnot := @handleSessionEnd_not_recovery service' turn.selected
      exact ⟨fun hrecovery => absurd hrecovery hnot, fun _ => hnot⟩

end Handlers

/-- A turn makes no call, and a recovery that stands behind it has just begun; or it makes one in
the recovery that it found, and moves the index on. -/
lemma rxTaskTurn_probe (service : FhssService) (turn : RxTurn) :
    let after := (rxTaskTurn protocol deriveHopSeed service turn).1
    (probingService protocol deriveHopSeed service turn = none ∧
        (after.fsm = .recovery → after.recoveryProbeIndex = 0)) ∨
      ∃ probing, probingService protocol deriveHopSeed service turn = some probing ∧
        service.fsm = .recovery ∧ probing.recoveryProbeIndex = service.recoveryProbeIndex ∧
        (after.fsm = .recovery →
          after.recoveryProbeIndex = service.recoveryProbeIndex + 1) := by
  have houtcome := rxTaskTurn_outcome protocol deriveHopSeed service turn
  obtain ⟨hkept, hended⟩ := drainRxDataUntil_probe protocol deriveHopSeed turn.drain service
  unfold probingService
  generalize rxTaskTurn protocol deriveHopSeed service turn = outcome at houtcome ⊢
  cases houtcome with
  | searchUnselected hsearching hselect =>
    rw [if_pos hsearching]
    exact .inl ⟨rfl, fun hrecovery => by simp [hsearching] at hrecovery⟩
  | searched channel hsearching hselect hok hquiet =>
    rw [if_pos hsearching]
    refine .inl ⟨rfl, fun hrecovery => ?_⟩
    have hkeeps := @keepsProbe_receiveOne protocol deriveHopSeed
      { service with currentChannel := channel } turn.last.receive
    cases hreceive : receiveOne protocol deriveHopSeed { service with currentChannel := channel }
        turn.last.receive with
    | mk service' received =>
      rw [hreceive] at hkeeps
      cases received with
      | ok result =>
        rw [hok hreceive] at hrecovery
        exact absurd hrecovery (handleSyncResult_not_recovery result)
      | _ =>
        rw [hquiet hreceive (by simp)] at hrecovery
        have hfsm : service.fsm = .recovery := (hkeeps hrecovery).1
        exact absurd hfsm (by simp [hsearching])
  | noNextSlot hnot hswitch =>
    rw [if_neg hnot, hswitch]
    refine .inl ⟨rfl, fun hrecovery => ?_⟩
    rw [fsm_clearReference] at hrecovery
    exact absurd hrecovery (fhssFsmHandle_syncLost_ne service.fsm)
  | drained service' hnot hswitch hdrain =>
    rw [if_neg hnot, hswitch]
    dsimp only
    rw [hdrain] at hended ⊢
    exact .inl ⟨rfl, fun hrecovery => absurd hrecovery (hended rfl)⟩
  | unselected service' events probe channel hnot hswitch hdrain hprobe hselect =>
    rw [if_neg hnot, hswitch]
    dsimp only
    rw [hdrain] at hkept ⊢
    dsimp only at hkept ⊢
    by_cases hrecovery : service'.fsm = .recovery
    · obtain ⟨hbefore, hindex⟩ := hkept hrecovery
      rw [if_pos hrecovery] at hprobe ⊢
      refine .inr ⟨service', rfl, hbefore, hindex, fun _ => ?_⟩
      rw [← hindex]
      exact probe_of_getRecoveryProbeSlot hprobe
    · rw [if_neg hrecovery]
      exact .inl ⟨rfl, fun h => absurd h hrecovery⟩
  | received service' events probe channel hnot hswitch hdrain hprobe hselect =>
    rw [if_neg hnot, hswitch]
    dsimp only
    rw [hdrain] at hkept ⊢
    dsimp only at hkept ⊢
    by_cases hrecovery : service'.fsm = .recovery
    · obtain ⟨hbefore, hindex⟩ := hkept hrecovery
      rw [if_pos hrecovery] at hprobe ⊢
      refine .inr ⟨service', rfl, hbefore, hindex, fun hafter => ?_⟩
      rcases handleReceive_probe protocol deriveHopSeed turn.last hafter with
        ⟨-, hsame⟩ | ⟨hnot, -⟩
      · rw [← hindex]
        exact hsame.trans (probe_of_getRecoveryProbeSlot hprobe)
      · exact absurd hrecovery hnot
    · rw [if_neg hrecovery]
      refine .inl ⟨rfl, fun hafter => ?_⟩
      rcases handleReceive_probe protocol deriveHopSeed turn.last hafter with
        ⟨hstill, -⟩ | ⟨-, hfirst⟩
      · exact absurd hstill hrecovery
      · exact hfirst

/-! ## Runs -/

/-- The calls of an episode are numbered by their indices, which wrap, and so is the next one. -/
structure ProbesCounted (log : ProbeLog) : Prop where
  next_eq : log.service.fsm = .recovery →
    log.service.recoveryProbeIndex.toNat = log.calls.length % 256
  index_eq : ∀ k probing, log.calls[k]? = some probing →
    probing.recoveryProbeIndex.toNat = k % 256

/-- A turn keeps the numbering. -/
lemma probeLogTurn_counted {log : ProbeLog} (h : ProbesCounted log) (turn : RxTurn) :
    ProbesCounted (probeLogTurn protocol deriveHopSeed log turn).1 := by
  unfold probeLogTurn
  dsimp only
  rcases rxTaskTurn_probe protocol deriveHopSeed log.service turn with
    ⟨hnone, hfirst⟩ | ⟨probing, hsome, hbefore, hindex, hmoved⟩
  · rw [hnone]
    refine ⟨fun hrecovery => ?_, fun k probing hcall => by simp at hcall⟩
    dsimp only
    rw [hfirst hrecovery]
    rfl
  · rw [hsome]
    have hnext := h.next_eq hbefore
    refine ⟨fun hrecovery => ?_, fun k call hcall => ?_⟩
    · dsimp only
      rw [hmoved hrecovery, UInt8.toNat_add, hnext, List.length_append, List.length_singleton]
      exact Nat.mod_add_mod _ _ _
    · rw [List.getElem?_append] at hcall
      by_cases hearlier : k < log.calls.length
      · rw [if_pos hearlier] at hcall
        exact h.index_eq k call hcall
      · rw [if_neg hearlier] at hcall
        obtain ⟨hlast, hcall⟩ := List.getElem?_eq_some_iff.mp hcall
        have hk : k = log.calls.length := by
          rw [List.length_singleton] at hlast
          omega
        rw [← hcall, List.getElem_singleton, hindex, hnext, hk]

/-- The services in which a run from the given one has called `get_recovery_probe_slot` since it
last entered `RECOVERY`. -/
def recoveryProbes (service : FhssService) (turns : List RxTurn) : List FhssService :=
  (finalState (probeLogTurn protocol deriveHopSeed) ⟨service, []⟩ turns).calls

/-- In a run of `rx_task`, the index of a call is its number in the episode, wrapped. -/
lemma recoveryProbes_index {service : FhssService} (hentry : RxTaskEntry service)
    (turns : List RxTurn) {k : ℕ} {probing : FhssService}
    (hcall : (recoveryProbes protocol deriveHopSeed service turns)[k]? = some probing) :
    probing.recoveryProbeIndex.toNat = k % 256 := by
  have hsearching := (freshRxSession_of_entry hentry).searching
  have hinit : ProbesCounted ⟨service, []⟩ :=
    ⟨fun hrecovery => by simp [hsearching] at hrecovery, fun k probing h => by simp at h⟩
  have hcounted := @invariant_run _ _ _ (probeLogTurn protocol deriveHopSeed) ProbesCounted
    (fun _ turn h => probeLogTurn_counted protocol deriveHopSeed h turn) _ hinit turns
  exact hcounted.index_eq k probing hcall

/-- A slot with a slot on either side. -/
def HasNeighbours (slot : UInt32) : Prop := 0 < slot ∧ slot < 0xFFFFFFFF

instance (slot : UInt32) : Decidable (HasNeighbours slot) := inferInstanceAs (Decidable (_ ∧ _))

/-- **Recovery probes.**  In every run of `rx_task`, no call of `get_recovery_probe_slot` for a slot
with neighbours wraps around, and three consecutive calls of an episode probe the predicted slot,
the one behind it and the one ahead once each, exactly if the number of calls before them in the
episode is below 254 modulo 256. -/
theorem recoveryProbes_cover_iff {service : FhssService} (hentry : RxTaskEntry service)
    (turns : List RxTurn) :
    let calls := recoveryProbes protocol deriveHopSeed service turns
    (∀ call ∈ calls, ∀ slot, HasNeighbours slot → probeShift call slot ∈ [0, -1, 1]) ∧
    ∀ k, (h : k + 2 < calls.length) → ∀ slot slot' slot'', HasNeighbours slot →
      HasNeighbours slot' → HasNeighbours slot'' →
      ([probeShift calls[k] slot, probeShift calls[k + 1] slot',
        probeShift calls[k + 2] slot''].Perm [0, -1, 1] ↔ k % 256 < 254) := by
  intro calls
  constructor
  · intro call _ slot hslot
    rw [probeShift_eq call hslot.1 hslot.2]
    unfold recoveryProbeOffset
    split_ifs <;> simp
  · intro k h slot slot' slot'' hslot hslot' hslot''
    have hindex : ∀ i, (hi : i < calls.length) →
        calls[i].recoveryProbeIndex.toNat = i % 256 :=
      fun i hi => recoveryProbes_index protocol deriveHopSeed hentry turns
        (List.getElem?_eq_getElem hi)
    rw [probeShift_eq _ hslot.1 hslot.2, probeShift_eq _ hslot'.1 hslot'.2,
      probeShift_eq _ hslot''.1 hslot''.2, hindex k (by omega), hindex (k + 1) (by omega),
      hindex (k + 2) h, ← Nat.mod_add_mod k 256 1, ← Nat.mod_add_mod k 256 2]
    exact offsets_perm_iff (Nat.mod_lt k (by decide))

/-- A turn that hears nothing before its receive times out. -/
def silentTurn (nowUs : Int64) : RxTurn := ⟨nowUs, [], true, ⟨.noTimestamp, true⟩⟩

/-- A turn that receives a data packet. -/
def dataTurn (nowUs : Int64) : RxTurn :=
  ⟨nowUs, [], true, ⟨.packet true [] nowUs none .continue, true⟩⟩

/-- Three SYNC packets on time, two slots of silence, and then a data packet in each slot. -/
def silentRecovery (slots : ℕ) : List RxTurn :=
  sampleAcquisition ++ [silentTurn 1600100, silentTurn 2000000] ++
    (List.range slots).map fun slot => dataTurn (Int64.ofNat (2300000 + 300000 * slot))

/-- The first three probes of the sample recovery cover the neighbours. -/
theorem recoveryProbes_cover_iff_first :
    let calls := recoveryProbes plainProtocol none sampleService (silentRecovery 3)
    ∃ _ : 0 + 2 < calls.length, [probeShift calls[0] 5, probeShift calls[1] 6,
      probeShift calls[2] 7].Perm [0, -1, 1] := by
  intro calls
  have hlength : 0 + 2 < calls.length := by decide +kernel
  exact ⟨hlength, ((recoveryProbes_cover_iff plainProtocol none rxTaskEntry_sampleService
    (silentRecovery 3)).2 0 hlength 5 6 7 (by decide) (by decide) (by decide)).mpr (by decide)⟩

/-- After 254 probes of the sample recovery, the next three are of the slot ahead and twice of the
predicted slot. -/
theorem recoveryProbes_wrap_misses :
    let calls := recoveryProbes plainProtocol none sampleService (silentRecovery 257)
    RxTaskEntry sampleService ∧ ∃ _ : 254 + 2 < calls.length,
      [probeShift calls[254] 259, probeShift calls[255] 260, probeShift calls[256] 261] =
        [1, 0, 0] ∧
      ¬ [probeShift calls[254] 259, probeShift calls[255] 260,
        probeShift calls[256] 261].Perm [0, -1, 1] := by
  intro calls
  have hlength : 254 + 2 < calls.length := by decide +kernel
  have hindex : ∀ i, (hi : i < calls.length) → calls[i].recoveryProbeIndex.toNat = i % 256 :=
    fun i hi => recoveryProbes_index plainProtocol none rxTaskEntry_sampleService _
      (List.getElem?_eq_getElem hi)
  have hshifts : [probeShift calls[254] 259, probeShift calls[255] 260,
      probeShift calls[256] 261] = [1, 0, 0] := by
    rw [probeShift_eq _ (by decide) (by decide), probeShift_eq _ (by decide) (by decide),
      probeShift_eq _ (by decide) (by decide), hindex, hindex, hindex]
    decide
  refine ⟨rxTaskEntry_sampleService, hlength, hshifts, ?_⟩
  rw [hshifts]
  decide

end FhssOtaRadio
