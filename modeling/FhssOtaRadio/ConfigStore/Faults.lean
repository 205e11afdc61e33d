import FhssOtaRadio.ConfigStore
import FhssOtaRadio.Library.FaultChain
import FhssOtaRadio.Library.Machine

/-!
# The configuration store under faults

An operation of the store is a chain of NVS calls, each of which takes effect as a whole, fails,
or is the last one before the power is lost.  Over every sequence of operations, faults and
reboots from an empty store, the active configuration is the one promoted last: a configuration
the store supports and was given in full.
-/

namespace FhssOtaRadio

/-- A call into NVS that an operation of the store makes behind its checks. -/
inductive NvsStep where
  | openReadWrite
  | setPending (config : OtaFhssConfigFields)
  | setActive (config : OtaFhssConfigFields)
  | erasePending
  | commit
  deriving DecidableEq

/-- The operations of the store that write. -/
inductive StoreOp where
  | savePending (config : OtaFhssConfigFields)
  | activate (generation : UInt32)
  | clearPending
  deriving DecidableEq

/-- What happens to the store: an operation, during which the power may be lost behind the given
number of NVS calls, or a reboot. -/
inductive StoreEvent where
  | call (op : StoreOp) (nvs : NvsHal) (powerLoss : Option ℕ)
  | reboot
  deriving DecidableEq

/-- What an event leaves behind: the code of an operation that returned, and the NVS calls that
took effect. -/
structure StoreReport where
  code : Option EspErr
  effects : List NvsStep
  deriving DecidableEq

/-- The configuration an NVS call writes to the active key. -/
def NvsStep.promoted? : NvsStep → Option OtaFhssConfigFields
  | .setActive config => some config
  | _ => none

/-- The configurations written to the active key, oldest first. -/
def promotions (reports : List StoreReport) : List OtaFhssConfigFields :=
  reports.flatMap fun report => report.effects.filterMap NvsStep.promoted?

/-- The configuration an event gives to `fhss_config_store_save_pending`. -/
def StoreEvent.given? : StoreEvent → Option OtaFhssConfigFields
  | .call (.savePending config) _ _ => some config
  | _ => none

section Faults

variable (protocol : OtaProtocol)

/-- The effect of an NVS call that does not fail. -/
def NvsStep.apply (store : FhssConfigStore) : NvsStep → FhssConfigStore
  | .openReadWrite => store
  | .setPending config => { store with pending := some (storedBlob protocol config) }
  | .setActive config => { store with active := some (storedBlob protocol config) }
  | .erasePending => { store with pending := none }
  | .commit => store

/-- The NVS calls of an operation with their codes, or the code of the check that refuses it.
Erasing a key that is not there counts as done. -/
def storeCalls (store : FhssConfigStore) (nvs : NvsHal) :
    StoreOp → Except EspErr (List (NvsStep × EspErr))
  | .savePending config =>
      if configIsSupported protocol config = false then .error .invalidArg
      else .ok [(.openReadWrite, nvs.openReadWrite), (.setPending config, nvs.setBlob),
        (.commit, nvs.commit)]
  | .activate generation =>
      match fhssConfigStoreLoadPending protocol store nvs with
      | .error _ => .error .invalidState
      | .ok pending =>
          if pending.generation ≠ generation then .error .invalidState
          else .ok [(.openReadWrite, nvs.openReadWrite), (.setActive pending, nvs.setBlob),
            (.erasePending, nvs.eraseKey), (.commit, nvs.commit)]
  | .clearPending =>
      .ok [(.openReadWrite, nvs.openReadWrite),
        (.erasePending, if store.pending = none then .ok else nvs.eraseKey),
        (.commit, nvs.commit)]

/-- An operation that returns. -/
def storeOp (store : FhssConfigStore) (nvs : NvsHal) : StoreOp → EspErr × FhssConfigStore
  | .savePending config => fhssConfigStoreSavePending protocol store config nvs
  | .activate generation => fhssConfigStoreActivate protocol store generation nvs
  | .clearPending => fhssConfigStoreClearPending store nvs

/-- The NVS calls that take effect during an event: those in front of the first that fails, and
of the ones made before the power is lost. -/
def storeEffects (store : FhssConfigStore) : StoreEvent → List NvsStep
  | .call op nvs powerLoss =>
      match storeCalls protocol store nvs op, powerLoss with
      | .error _, _ => []
      | .ok calls, none => FaultChain.effective .ok calls
      | .ok calls, some made => FaultChain.effective .ok (calls.take made)
  | .reboot => []

/-- One event: an operation that returns leaves its code, one that the power loss ends leaves
what its NVS calls have done. -/
def storeStep (store : FhssConfigStore) (event : StoreEvent) : FhssConfigStore × StoreReport :=
  let effects := storeEffects protocol store event
  match event with
  | .call op nvs none =>
      let (code, store') := storeOp protocol store nvs op
      (store', ⟨some code, effects⟩)
  | .call _ _ (some _) => (effects.foldl (NvsStep.apply protocol) store, ⟨none, effects⟩)
  | .reboot => (store, ⟨none, effects⟩)

/-! ## The operations are chains of NVS calls -/

/-- The operations that return leave what their NVS calls have done. -/
lemma storeOp_snd (store : FhssConfigStore) (nvs : NvsHal) (op : StoreOp) :
    (storeOp protocol store nvs op).2 =
      (storeEffects protocol store (.call op nvs none)).foldl (NvsStep.apply protocol) store := by
  cases op with
  | savePending config =>
    unfold storeOp storeEffects storeCalls fhssConfigStoreSavePending
    by_cases hsupported : configIsSupported protocol config = false
    · simp [hsupported]
    by_cases hopen : nvs.openReadWrite = .ok
    · by_cases hset : nvs.setBlob = .ok
      · by_cases hcommit : nvs.commit = .ok
        · simp [hsupported, hopen, hset, hcommit, NvsStep.apply]
          split
          · split_ifs <;> rfl
          · rfl
        · simp [hsupported, hopen, hset, hcommit, FaultChain.effective, NvsStep.apply]
      · simp [hsupported, hopen, hset, FaultChain.effective, NvsStep.apply]
    · simp [hsupported, hopen, FaultChain.effective]
  | activate generation =>
    unfold storeOp storeEffects storeCalls fhssConfigStoreActivate
    cases hload : fhssConfigStoreLoadPending protocol store nvs with
    | error err => simp [hload]
    | ok pending =>
      by_cases hgeneration : pending.generation = generation
      · by_cases hopen : nvs.openReadWrite = .ok
        · by_cases hset : nvs.setBlob = .ok
          · by_cases herase : nvs.eraseKey = .ok
            · by_cases hcommit : nvs.commit = .ok <;>
                simp [hload, hgeneration, hopen, hset, herase, hcommit, FaultChain.effective,
                  NvsStep.apply]
            · simp [hload, hgeneration, hopen, hset, herase, FaultChain.effective, NvsStep.apply]
          · simp [hload, hgeneration, hopen, hset, FaultChain.effective, NvsStep.apply]
        · simp [hload, hgeneration, hopen, FaultChain.effective]
      · simp [hload, hgeneration]
  | clearPending =>
    unfold storeOp storeEffects storeCalls fhssConfigStoreClearPending
    obtain ⟨pending, active⟩ := store
    by_cases hopen : nvs.openReadWrite = .ok
    · cases pending with
      | none =>
        by_cases hcommit : nvs.commit = .ok <;>
          simp [hopen, hcommit, FaultChain.effective, NvsStep.apply]
      | some blob =>
        by_cases herase : nvs.eraseKey = .ok
        · by_cases hcommit : nvs.commit = .ok <;>
            simp [hopen, herase, hcommit, FaultChain.effective, NvsStep.apply]
        · simp [hopen, herase, FaultChain.effective, NvsStep.apply]
    · simp [hopen, FaultChain.effective]

/-- Every event leaves what its NVS calls have done. -/
lemma storeStep_fst (store : FhssConfigStore) (event : StoreEvent) :
    (storeStep protocol store event).1 =
      (storeEffects protocol store event).foldl (NvsStep.apply protocol) store := by
  cases event with
  | call op nvs powerLoss =>
    cases powerLoss with
    | none => exact storeOp_snd protocol store nvs op
    | some made => rfl
  | reboot => rfl

@[simp] lemma storeStep_effects (store : FhssConfigStore) (event : StoreEvent) :
    (storeStep protocol store event).2.effects = storeEffects protocol store event := by
  cases event with
  | call op nvs powerLoss => cases powerLoss <;> rfl
  | reboot => rfl

/-! ## What a single event does -/

/-- An NVS call that takes effect is one its operation makes. -/
lemma mem_storeEffects_call {store : FhssConfigStore} {event : StoreEvent} {step : NvsStep}
    (h : step ∈ storeEffects protocol store event) :
    ∃ op nvs powerLoss calls, event = .call op nvs powerLoss ∧
      storeCalls protocol store nvs op = .ok calls ∧ step ∈ calls.map Prod.fst := by
  cases event with
  | reboot => exact absurd h List.not_mem_nil
  | call op nvs powerLoss =>
    dsimp only [storeEffects] at h
    cases hcalls : storeCalls protocol store nvs op with
    | error err =>
      rw [hcalls] at h
      exact absurd h List.not_mem_nil
    | ok calls =>
      rw [hcalls] at h
      have heffective : step ∈ FaultChain.effective .ok calls := by
        cases powerLoss with
        | none => exact h
        | some made => exact (FaultChain.effective_take_prefix .ok calls made).subset h
      exact ⟨op, nvs, powerLoss, calls, rfl, hcalls,
        FaultChain.mem_of_mem_effective .ok heffective⟩

/-- Only a save of a supported configuration writes the pending key, and it writes this
configuration. -/
lemma given_of_setPending {store : FhssConfigStore} {event : StoreEvent}
    {config : OtaFhssConfigFields} (h : .setPending config ∈ storeEffects protocol store event) :
    event.given? = some config ∧ configIsSupported protocol config = true := by
  obtain ⟨op, nvs, powerLoss, calls, rfl, hcalls, hmem⟩ := mem_storeEffects_call protocol h
  cases op with
  | savePending config' =>
    dsimp only [storeCalls] at hcalls
    split_ifs at hcalls with hsupported
    obtain rfl := Except.ok.inj hcalls
    have heq : config = config' := by simpa using hmem
    subst heq
    exact ⟨rfl, by simpa using hsupported⟩
  | activate generation =>
    dsimp only [storeCalls] at hcalls
    split at hcalls
    · cases hcalls
    · split_ifs at hcalls
      obtain rfl := Except.ok.inj hcalls
      simp at hmem
  | clearPending =>
    obtain rfl := Except.ok.inj hcalls
    simp at hmem

/-- Only a promotion writes the active key, and it writes the pending configuration of its
generation. -/
lemma pending_of_setActive {store : FhssConfigStore} {event : StoreEvent}
    {config : OtaFhssConfigFields} (h : .setActive config ∈ storeEffects protocol store event) :
    ∃ nvs powerLoss, event = .call (.activate config.generation) nvs powerLoss ∧
      fhssConfigStoreLoadPending protocol store nvs = .ok config := by
  obtain ⟨op, nvs, powerLoss, calls, rfl, hcalls, hmem⟩ := mem_storeEffects_call protocol h
  cases op with
  | savePending config' =>
    dsimp only [storeCalls] at hcalls
    split_ifs at hcalls
    obtain rfl := Except.ok.inj hcalls
    simp at hmem
  | activate generation =>
    dsimp only [storeCalls] at hcalls
    cases hload : fhssConfigStoreLoadPending protocol store nvs with
    | error err =>
      rw [hload] at hcalls
      cases hcalls
    | ok pending =>
      rw [hload] at hcalls
      dsimp only at hcalls
      split_ifs at hcalls with hgeneration
      obtain rfl := Except.ok.inj hcalls
      have heq : config = pending := by simpa using hmem
      subst heq
      rw [← not_ne_iff.mp hgeneration]
      exact ⟨nvs, powerLoss, rfl, hload⟩
  | clearPending =>
    obtain rfl := Except.ok.inj hcalls
    simp at hmem

/-- NVS calls that change the active key write a configuration to it. -/
lemma setActive_of_active_ne {steps : List NvsStep} {store : FhssConfigStore}
    (h : (steps.foldl (NvsStep.apply protocol) store).active ≠ store.active) :
    ∃ config, .setActive config ∈ steps ∧
      (steps.foldl (NvsStep.apply protocol) store).active =
        some (storedBlob protocol config) := by
  induction steps using List.reverseRecOn with
  | nil => exact absurd rfl h
  | append_singleton steps last ih =>
    rw [List.foldl_append, List.foldl_cons, List.foldl_nil] at h ⊢
    by_cases hlast : ∃ config, last = .setActive config
    · obtain ⟨config, rfl⟩ := hlast
      exact ⟨config, List.mem_append_right _ List.mem_cons_self, rfl⟩
    · have hkeep : ∀ store', (NvsStep.apply protocol store' last).active = store'.active := by
        intro store'
        cases last with
        | setActive config => exact absurd ⟨config, rfl⟩ hlast
        | _ => rfl
      rw [hkeep] at h ⊢
      obtain ⟨config, hmem, hactive⟩ := ih h
      exact ⟨config, List.mem_append_left _ hmem, hactive⟩

/-- An event changes the active key only as a promotion, and only to the pending configuration
of its generation. -/
lemma activate_of_active_ne {store : FhssConfigStore} {event : StoreEvent}
    (h : (storeStep protocol store event).1.active ≠ store.active) :
    ∃ nvs powerLoss pending, event = .call (.activate pending.generation) nvs powerLoss ∧
      fhssConfigStoreLoadPending protocol store nvs = .ok pending ∧
      (storeStep protocol store event).1.active = some (storedBlob protocol pending) := by
  rw [storeStep_fst] at h ⊢
  obtain ⟨pending, hmem, hactive⟩ := setActive_of_active_ne protocol h
  obtain ⟨nvs, powerLoss, hevent, hload⟩ := pending_of_setActive protocol hmem
  exact ⟨nvs, powerLoss, pending, hevent, hload, hactive⟩

/-- A promotion of a generation that is not pending changes nothing, whatever fails. -/
lemma storeStep_activate_of_generation_ne {store : FhssConfigStore} {generation : UInt32}
    (h : ∀ pending, fhssConfigStoreLoadPending protocol store .succeeding = .ok pending →
      pending.generation ≠ generation) (nvs : NvsHal) (powerLoss : Option ℕ) :
    (storeStep protocol store (.call (.activate generation) nvs powerLoss)).1 = store := by
  rw [storeStep_fst]
  have hnone : storeEffects protocol store (.call (.activate generation) nvs powerLoss) = [] := by
    dsimp only [storeEffects, storeCalls]
    cases hload : fhssConfigStoreLoadPending protocol store nvs with
    | error err => rfl
    | ok pending =>
      have hgeneration : pending.generation ≠ generation :=
        h pending (loadKey_ok protocol hload).2.2
      dsimp only
      rw [if_pos hgeneration]
  rw [hnone]
  rfl

/-- A promotion that returns `ESP_OK` moves the pending configuration of its generation. -/
lemma storeStep_activate_ok {store : FhssConfigStore} {generation : UInt32} {nvs : NvsHal}
    {powerLoss : Option ℕ}
    (h : (storeStep protocol store (.call (.activate generation) nvs powerLoss)).2.code =
      some .ok) :
    ∃ pending, fhssConfigStoreLoadPending protocol store nvs = .ok pending ∧
      pending.generation = generation ∧
      (storeStep protocol store (.call (.activate generation) nvs powerLoss)).1 =
        ⟨none, some (storedBlob protocol pending)⟩ := by
  cases powerLoss with
  | none => exact fhssConfigStoreActivate_ok protocol (Option.some.inj h)
  | some made => cases h

/-- An active key that was written with a supported configuration loads it. -/
lemma loadActive_of_active {store : FhssConfigStore} {config : OtaFhssConfigFields}
    (h : store.active = some (storedBlob protocol config))
    (hsupported : configIsSupported protocol config = true) :
    fhssConfigStoreLoadActive protocol store .succeeding = .ok config := by
  unfold fhssConfigStoreLoadActive
  rw [h]
  exact loadKey_storedBlob protocol hsupported

/-! ## The invariant of the store -/

/-- What lies in the two keys, given the configurations handed to the store and those promoted:
a supported configuration that was given, and the one promoted last. -/
structure StoreHolds (given promoted : List OtaFhssConfigFields) (store : FhssConfigStore) :
    Prop where
  pending_given : ∀ blob, store.pending = some blob → ∃ config ∈ given,
    configIsSupported protocol config = true ∧ blob = storedBlob protocol config
  active_promoted : store.active = promoted.getLast?.map (storedBlob protocol)
  promoted_given : ∀ config ∈ promoted, config ∈ given ∧ configIsSupported protocol config = true

variable {protocol}

/-- The pending configuration that loads was given and is supported. -/
lemma StoreHolds.pending_of_load {given promoted : List OtaFhssConfigFields}
    {store : FhssConfigStore} (h : StoreHolds protocol given promoted store) {nvs : NvsHal}
    {pending : OtaFhssConfigFields}
    (hload : fhssConfigStoreLoadPending protocol store nvs = .ok pending) :
    pending ∈ given ∧ configIsSupported protocol pending = true := by
  obtain ⟨blob, hblob, hfields⟩ := pending_of_loadPending protocol hload
  obtain ⟨config, hgiven, hsupported, rfl⟩ := h.pending_given blob hblob
  obtain rfl : config = pending := hfields
  exact ⟨hgiven, hsupported⟩

/-- The active configuration that loads was given. -/
lemma StoreHolds.active_of_load {given promoted : List OtaFhssConfigFields}
    {store : FhssConfigStore} (h : StoreHolds protocol given promoted store) {nvs : NvsHal}
    {config : OtaFhssConfigFields}
    (hload : fhssConfigStoreLoadActive protocol store nvs = .ok config) : config ∈ given := by
  obtain ⟨-, ⟨blob, hblob, hfields⟩, -⟩ := loadKey_ok protocol hload
  rw [h.active_promoted] at hblob
  obtain ⟨last, hlast, rfl⟩ := Option.map_eq_some_iff.mp hblob
  obtain rfl : last = config := hfields
  exact (h.promoted_given last (List.mem_of_getLast? hlast)).1

/-- Configurations given later do not disturb what lies in the keys. -/
lemma StoreHolds.give {given promoted : List OtaFhssConfigFields} {store : FhssConfigStore}
    (h : StoreHolds protocol given promoted store) (more : List OtaFhssConfigFields) :
    StoreHolds protocol (given ++ more) promoted store where
  pending_given := by
    intro blob hblob
    obtain ⟨config, hgiven, hconfig⟩ := h.pending_given blob hblob
    exact ⟨config, List.mem_append_left more hgiven, hconfig⟩
  active_promoted := h.active_promoted
  promoted_given := by
    intro config hconfig
    obtain ⟨hgiven, hsupported⟩ := h.promoted_given config hconfig
    exact ⟨List.mem_append_left more hgiven, hsupported⟩

/-- An NVS call that writes a given and supported configuration keeps the invariant. -/
lemma StoreHolds.apply {given promoted : List OtaFhssConfigFields} {store : FhssConfigStore}
    (h : StoreHolds protocol given promoted store) {step : NvsStep}
    (hstep : ∀ config, step = .setPending config ∨ step = .setActive config →
      config ∈ given ∧ configIsSupported protocol config = true) :
    StoreHolds protocol given (promoted ++ step.promoted?.toList)
      (NvsStep.apply protocol store step) := by
  cases step with
  | openReadWrite => simpa [NvsStep.promoted?, NvsStep.apply] using h
  | commit => simpa [NvsStep.promoted?, NvsStep.apply] using h
  | erasePending =>
    refine ⟨?_, ?_, ?_⟩
    · intro blob hblob
      cases hblob
    · simpa [NvsStep.promoted?, NvsStep.apply] using h.active_promoted
    · simpa [NvsStep.promoted?] using h.promoted_given
  | setPending config =>
    obtain ⟨hgiven, hsupported⟩ := hstep config (.inl rfl)
    refine ⟨?_, ?_, ?_⟩
    · intro blob hblob
      exact ⟨config, hgiven, hsupported, (Option.some.inj hblob).symm⟩
    · simpa [NvsStep.promoted?, NvsStep.apply] using h.active_promoted
    · simpa [NvsStep.promoted?] using h.promoted_given
  | setActive config =>
    refine ⟨h.pending_given, ?_, ?_⟩
    · simp [NvsStep.promoted?, NvsStep.apply]
    · intro config' hmem
      rcases List.mem_append.mp hmem with hold | hnew
      · exact h.promoted_given config' hold
      · obtain rfl : config' = config := by simpa [NvsStep.promoted?] using hnew
        exact hstep config' (.inr rfl)

/-- NVS calls that write given and supported configurations keep the invariant. -/
lemma StoreHolds.foldl {given promoted : List OtaFhssConfigFields} {store : FhssConfigStore}
    (h : StoreHolds protocol given promoted store) {steps : List NvsStep}
    (hsteps : ∀ config, .setPending config ∈ steps ∨ .setActive config ∈ steps →
      config ∈ given ∧ configIsSupported protocol config = true) :
    StoreHolds protocol given (promoted ++ steps.filterMap NvsStep.promoted?)
      (steps.foldl (NvsStep.apply protocol) store) := by
  induction steps generalizing promoted store with
  | nil => simpa using h
  | cons first rest ih =>
    have hfirst : StoreHolds protocol given (promoted ++ first.promoted?.toList)
        (NvsStep.apply protocol store first) := by
      refine h.apply ?_
      rintro config (rfl | rfl)
      · exact hsteps config (.inl List.mem_cons_self)
      · exact hsteps config (.inr List.mem_cons_self)
    have hrest := ih hfirst fun config hmem =>
      hsteps config (hmem.imp (List.mem_cons_of_mem _) (List.mem_cons_of_mem _))
    rw [List.foldl_cons, List.filterMap_cons]
    cases hpromoted : first.promoted? <;> simpa [hpromoted] using hrest

/-- An event keeps the invariant. -/
lemma StoreHolds.storeStep {given promoted : List OtaFhssConfigFields} {store : FhssConfigStore}
    (h : StoreHolds protocol given promoted store) (event : StoreEvent) :
    StoreHolds protocol (given ++ event.given?.toList)
      (promoted ++ (storeEffects protocol store event).filterMap NvsStep.promoted?)
      (storeStep protocol store event).1 := by
  rw [storeStep_fst]
  refine (h.give event.given?.toList).foldl ?_
  rintro config (hpending | hactive)
  · obtain ⟨hgiven, hsupported⟩ := given_of_setPending protocol hpending
    refine ⟨List.mem_append_right _ ?_, hsupported⟩
    rw [hgiven]
    exact List.mem_singleton_self config
  · obtain ⟨nvs, powerLoss, -, hload⟩ := pending_of_setActive protocol hactive
    obtain ⟨hgiven, hsupported⟩ := h.pending_of_load hload
    exact ⟨List.mem_append_left _ hgiven, hsupported⟩

/-- Every run from an empty store keeps the invariant. -/
lemma storeHolds_run (events : List StoreEvent) :
    StoreHolds protocol (events.filterMap StoreEvent.given?)
      (promotions (Machine.outputs (storeStep protocol) ⟨none, none⟩ events))
      (Machine.finalState (storeStep protocol) ⟨none, none⟩ events) := by
  refine Machine.invariant_history (storeStep protocol)
    (fun events reports store => StoreHolds protocol
      (events.filterMap StoreEvent.given?) (promotions reports) store) ?_ ?_ events
  · intro events reports store event h
    have hstep := h.storeStep event
    cases hgiven : event.given? <;>
      simpa [promotions, hgiven] using hstep
  · refine ⟨?_, rfl, ?_⟩
    · intro blob hblob
      cases hblob
    · intro config hconfig
      exact absurd hconfig List.not_mem_nil

variable (protocol)

/-- **The active configuration survives every fault.**  After any sequence of saves, promotions,
clearings and reboots of an empty store, with any failing NVS call and any loss of power, the
active configuration is the one written last by a promotion, and none before the first one; what
loads is supported and was given to a save in full.  The next event changes the active key only
as a promotion, to the pending configuration of its generation; a promotion that returns
`ESP_OK` leaves that configuration active and nothing pending; and a promotion of a generation
that is not pending changes nothing. -/
theorem fhssConfigStore_survives (before : List StoreEvent) (event : StoreEvent) :
    let store := Machine.finalState (storeStep protocol) ⟨none, none⟩ before
    let reports := Machine.outputs (storeStep protocol) ⟨none, none⟩ before
    let next := (storeStep protocol store event).1
    let report := (storeStep protocol store event).2
    fhssConfigStoreLoadActive protocol store .succeeding =
        (promotions reports).getLast?.elim (.error espErrNvsNotFound) .ok ∧
      (∀ nvs config, fhssConfigStoreLoadActive protocol store nvs = .ok config →
        configIsSupported protocol config = true ∧
          config ∈ before.filterMap StoreEvent.given?) ∧
      (next.active ≠ store.active → ∃ nvs powerLoss pending,
        event = .call (.activate pending.generation) nvs powerLoss ∧
          fhssConfigStoreLoadPending protocol store nvs = .ok pending ∧
          fhssConfigStoreLoadActive protocol next .succeeding = .ok pending) ∧
      ∀ generation nvs powerLoss, event = .call (.activate generation) nvs powerLoss →
        (report.code = some .ok → ∃ pending,
          fhssConfigStoreLoadPending protocol store nvs = .ok pending ∧
            pending.generation = generation ∧
            fhssConfigStoreLoadActive protocol next .succeeding = .ok pending ∧
            ∀ nvs', ∃ err, fhssConfigStoreLoadPending protocol next nvs' = .error err) ∧
        ((∀ pending, fhssConfigStoreLoadPending protocol store .succeeding = .ok pending →
          pending.generation ≠ generation) → next = store) := by
  intro store reports next report
  have hholds : StoreHolds protocol (before.filterMap StoreEvent.given?) (promotions reports)
      store := storeHolds_run before
  refine ⟨?_, ?_, ?_, ?_⟩
  · have hactive := hholds.active_promoted
    cases hlast : (promotions reports).getLast? with
    | none =>
      rw [hlast] at hactive
      unfold fhssConfigStoreLoadActive
      rw [hactive]
      rfl
    | some config =>
      rw [hlast] at hactive
      have hmem : config ∈ promotions reports := List.mem_of_getLast? hlast
      exact loadActive_of_active protocol hactive (hholds.promoted_given config hmem).2
  · intro nvs config hload
    exact ⟨(loadKey_ok protocol hload).1, hholds.active_of_load hload⟩
  · intro hne
    obtain ⟨nvs, powerLoss, pending, hevent, hload, hactive⟩ :=
      activate_of_active_ne protocol hne
    refine ⟨nvs, powerLoss, pending, hevent, hload, ?_⟩
    exact loadActive_of_active protocol hactive (loadKey_ok protocol hload).1
  · rintro generation nvs powerLoss rfl
    refine ⟨?_, fun h => storeStep_activate_of_generation_ne protocol h nvs powerLoss⟩
    intro hcode
    obtain ⟨pending, hload, hgeneration, hnext⟩ := storeStep_activate_ok protocol hcode
    have hactive : next.active = some (storedBlob protocol pending) := congrArg (·.active) hnext
    have hpending : next.pending = none := congrArg (·.pending) hnext
    refine ⟨pending, hload, hgeneration,
      loadActive_of_active protocol hactive (loadKey_ok protocol hload).1, fun nvs' => ?_⟩
    unfold fhssConfigStoreLoadPending
    rw [hpending]
    exact loadKey_none protocol nvs'

end Faults

end FhssOtaRadio
