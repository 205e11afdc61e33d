import FhssOtaRadio.OtaProtocol

/-!
# The FHSS configuration store (`fhss_config_store.c`)

Two NVS keys hold hop configurations: `pending`, received over the air and not yet proven, and
`active`, the one the device boots with.  Promotion copies the first to the second and erases
it.  The codes of the NVS functions are data of the environment (`NvsHal`); a blob that was set
or erased is seen by later reads even before `nvs_commit`.
-/

namespace FhssOtaRadio

/-- `FHSS_STORED_MAGIC`. -/
def fhssStoredMagic : UInt32 := 0x46484346

/-- `FHSS_STORED_VERSION`. -/
def fhssStoredVersion : UInt16 := 1

/-- `fhss_stored_config_t`. -/
structure FhssStoredConfig where
  magic : UInt32
  version : UInt16
  size : UInt16
  fields : OtaFhssConfigFields
  deriving DecidableEq

/-- A blob as it lies in NVS: its length and its content read as a stored configuration. -/
structure NvsBlob where
  length : ℕ
  stored : FhssStoredConfig
  deriving DecidableEq

/-- The two keys of the namespace `fhss_cfg`. -/
structure FhssConfigStore where
  pending : Option NvsBlob
  active : Option NvsBlob
  deriving DecidableEq

/-- The codes of the NVS functions during one operation of the store. -/
structure NvsHal where
  openReadOnly : EspErr
  openReadWrite : EspErr
  getBlob : EspErr
  setBlob : EspErr
  eraseKey : EspErr
  commit : EspErr
  deriving DecidableEq

/-- An NVS that never fails. -/
def NvsHal.succeeding : NvsHal := ⟨.ok, .ok, .ok, .ok, .ok, .ok⟩

/-- `ESP_ERR_NVS_NO_FREE_PAGES`. -/
def espErrNvsNoFreePages : EspErr := .other 0x110D

/-- `ESP_ERR_NVS_NEW_VERSION_FOUND`. -/
def espErrNvsNewVersionFound : EspErr := .other 0x1110

/-- `ESP_ERR_NVS_NOT_FOUND`. -/
def espErrNvsNotFound : EspErr := .other 0x1102

/-- `ESP_ERR_NVS_INVALID_LENGTH`. -/
def espErrNvsInvalidLength : EspErr := .other 0x110C

/-- `fhss_config_store_init`, over the code of `nvs_flash_init`. -/
def fhssConfigStoreInit (flashInit : EspErr) : EspErr :=
  if flashInit = espErrNvsNoFreePages ∨ flashInit = espErrNvsNewVersionFound then .invalidState
  else flashInit

section Store

variable (protocol : OtaProtocol)

/-- `config_is_supported`. -/
def configIsSupported (config : OtaFhssConfigFields) : Bool :=
  protocol.fhssConfigIsValid config &&
    config.algorithmVersion == protocol.fhssAlgorithmVersion &&
    config.rendezvousChannel == 1 && config.firstChannel == 1 && config.reservedChannel == 0

/-- `load_key`: read one key and validate what it holds. -/
def loadKey (blob : Option NvsBlob) (nvs : NvsHal) : Except EspErr OtaFhssConfigFields :=
  if nvs.openReadOnly ≠ .ok then .error nvs.openReadOnly
  else if nvs.getBlob ≠ .ok then .error nvs.getBlob
  else
    match blob with
    | none => .error espErrNvsNotFound
    | some blob =>
        if protocol.fhssStoredConfigSize.toNat < blob.length then .error espErrNvsInvalidLength
        else if blob.length ≠ protocol.fhssStoredConfigSize.toNat ∨
            blob.stored.magic ≠ fhssStoredMagic ∨ blob.stored.version ≠ fhssStoredVersion ∨
            blob.stored.size ≠ protocol.fhssStoredConfigSize ∨
            configIsSupported protocol blob.stored.fields = false then
          .error .invalidState
        else .ok blob.stored.fields

/-- The blob the store writes for a configuration. -/
def storedBlob (fields : OtaFhssConfigFields) : NvsBlob where
  length := protocol.fhssStoredConfigSize.toNat
  stored := ⟨fhssStoredMagic, fhssStoredVersion, protocol.fhssStoredConfigSize, fields⟩

/-- `fhss_config_store_load_pending`. -/
def fhssConfigStoreLoadPending (store : FhssConfigStore) (nvs : NvsHal) :
    Except EspErr OtaFhssConfigFields :=
  loadKey protocol store.pending nvs

/-- `fhss_config_store_load_active`. -/
def fhssConfigStoreLoadActive (store : FhssConfigStore) (nvs : NvsHal) :
    Except EspErr OtaFhssConfigFields :=
  loadKey protocol store.active nvs

/-- `fhss_config_store_save_pending`: write, commit, and read back. -/
def fhssConfigStoreSavePending (store : FhssConfigStore) (config : OtaFhssConfigFields)
    (nvs : NvsHal) : EspErr × FhssConfigStore :=
  if configIsSupported protocol config = false then (.invalidArg, store)
  else if nvs.openReadWrite ≠ .ok then (nvs.openReadWrite, store)
  else if nvs.setBlob ≠ .ok then (nvs.setBlob, store)
  else
    let store' := { store with pending := some (storedBlob protocol config) }
    if nvs.commit ≠ .ok then (nvs.commit, store')
    else
      match fhssConfigStoreLoadPending protocol store' nvs with
      | .ok verified => if verified = config then (.ok, store') else (.invalidState, store')
      | .error _ => (.invalidState, store')

/-- `fhss_config_store_activate`: promote the pending configuration of this generation. -/
def fhssConfigStoreActivate (store : FhssConfigStore) (generation : UInt32) (nvs : NvsHal) :
    EspErr × FhssConfigStore :=
  match fhssConfigStoreLoadPending protocol store nvs with
  | .error _ => (.invalidState, store)
  | .ok pending =>
      if pending.generation ≠ generation then (.invalidState, store)
      else if nvs.openReadWrite ≠ .ok then (nvs.openReadWrite, store)
      else if nvs.setBlob ≠ .ok then (nvs.setBlob, store)
      else
        let store' := { store with active := some (storedBlob protocol pending) }
        if nvs.eraseKey ≠ .ok then (nvs.eraseKey, store')
        else (nvs.commit, { store' with pending := none })

/-- `fhss_config_store_clear_pending`: erasing a key that is not there is no error. -/
def fhssConfigStoreClearPending (store : FhssConfigStore) (nvs : NvsHal) :
    EspErr × FhssConfigStore :=
  if nvs.openReadWrite ≠ .ok then (nvs.openReadWrite, store)
  else if store.pending = none then (nvs.commit, store)
  else if nvs.eraseKey ≠ .ok then (nvs.eraseKey, store)
  else (nvs.commit, { store with pending := none })

/-! ## What the store keeps -/

/-- A successful promotion needs the pending configuration, and consumes it. -/
lemma fhssConfigStoreActivate_ok {store : FhssConfigStore} {generation : UInt32} {nvs : NvsHal}
    (h : (fhssConfigStoreActivate protocol store generation nvs).1 = .ok) :
    ∃ pending, fhssConfigStoreLoadPending protocol store nvs = .ok pending ∧
      pending.generation = generation ∧
      (fhssConfigStoreActivate protocol store generation nvs).2 =
        ⟨none, some (storedBlob protocol pending)⟩ := by
  unfold fhssConfigStoreActivate at h ⊢
  cases hload : fhssConfigStoreLoadPending protocol store nvs with
  | error err => simp [hload] at h
  | ok pending =>
    simp only [hload] at h ⊢
    split_ifs at h ⊢ with hgeneration hopen hset herase
    · exact absurd h hopen
    · exact absurd h hset
    · exact absurd h herase
    · exact ⟨pending, rfl, not_ne_iff.mp hgeneration, rfl⟩

/-- A key reads back the configuration it was written with. -/
lemma loadKey_storedBlob {config : OtaFhssConfigFields}
    (h : configIsSupported protocol config = true) :
    loadKey protocol (some (storedBlob protocol config)) .succeeding = .ok config := by
  simp [loadKey, storedBlob, NvsHal.succeeding, h]

/-- What is read from a key lies there and is supported, however the other calls fail. -/
lemma loadKey_ok {blob : Option NvsBlob} {nvs : NvsHal} {config : OtaFhssConfigFields}
    (h : loadKey protocol blob nvs = .ok config) :
    configIsSupported protocol config = true ∧
      (∃ stored, blob = some stored ∧ stored.stored.fields = config) ∧
      loadKey protocol blob .succeeding = .ok config := by
  unfold loadKey at h
  by_cases hopen : nvs.openReadOnly ≠ .ok
  · rw [if_pos hopen] at h
    cases h
  rw [if_neg hopen] at h
  by_cases hget : nvs.getBlob ≠ .ok
  · rw [if_pos hget] at h
    cases h
  rw [if_neg hget] at h
  cases blob with
  | none => cases h
  | some blob =>
    dsimp only at h
    split_ifs at h with hlength hstored
    obtain rfl := Except.ok.inj h
    refine ⟨?_, ⟨blob, rfl, rfl⟩, ?_⟩
    · by_contra hsupported
      exact hstored (.inr (.inr (.inr (.inr (by simpa using hsupported)))))
    · simp only [loadKey, NvsHal.succeeding, ne_eq, not_true_eq_false, if_false]
      rw [if_neg hlength, if_neg hstored]

/-- Nothing is read from a key that is not there. -/
lemma loadKey_none (nvs : NvsHal) : ∃ err, loadKey protocol none nvs = .error err := by
  unfold loadKey
  split_ifs
  · exact ⟨_, rfl⟩
  · exact ⟨_, rfl⟩
  · exact ⟨_, rfl⟩

/-- What loads is what lies in NVS. -/
lemma pending_of_loadPending {store : FhssConfigStore} {nvs : NvsHal}
    {fields : OtaFhssConfigFields}
    (h : fhssConfigStoreLoadPending protocol store nvs = .ok fields) :
    ∃ blob, store.pending = some blob ∧ blob.stored.fields = fields :=
  (loadKey_ok protocol h).2.1

/-- Saving leaves the pending configuration alone or writes a supported one. -/
lemma pending_savePending {store : FhssConfigStore} {config : OtaFhssConfigFields}
    {nvs : NvsHal} {blob : NvsBlob}
    (h : (fhssConfigStoreSavePending protocol store config nvs).2.pending = some blob) :
    store.pending = some blob ∨ (configIsSupported protocol config = true ∧
      nvs.openReadWrite = .ok ∧ nvs.setBlob = .ok ∧ blob = storedBlob protocol config) := by
  unfold fhssConfigStoreSavePending at h
  by_cases hsupported : configIsSupported protocol config = false
  · rw [if_pos hsupported] at h
    exact .inl h
  rw [if_neg hsupported] at h
  by_cases hopen : nvs.openReadWrite ≠ .ok
  · rw [if_pos hopen] at h
    exact .inl h
  rw [if_neg hopen] at h
  by_cases hset : nvs.setBlob ≠ .ok
  · rw [if_pos hset] at h
    exact .inl h
  rw [if_neg hset] at h
  refine .inr ⟨by simpa using hsupported, not_ne_iff.mp hopen, not_ne_iff.mp hset, ?_⟩
  have hwritten : some (storedBlob protocol config) = some blob := by
    rw [← h]
    dsimp only
    split_ifs
    · rfl
    · split
      · split_ifs <;> rfl
      · rfl
  exact (Option.some.inj hwritten).symm

/-- A promotion writes no pending configuration. -/
lemma pending_activate {store : FhssConfigStore} {generation : UInt32} {nvs : NvsHal}
    {blob : NvsBlob}
    (h : (fhssConfigStoreActivate protocol store generation nvs).2.pending = some blob) :
    store.pending = some blob := by
  unfold fhssConfigStoreActivate at h
  cases hload : fhssConfigStoreLoadPending protocol store nvs with
  | error err =>
    rw [hload] at h
    exact h
  | ok pending =>
    rw [hload] at h
    dsimp only at h
    split_ifs at h <;> exact h

/-- Without a pending configuration nothing can be promoted. -/
lemma fhssConfigStoreActivate_of_pending_eq_none {store : FhssConfigStore}
    (h : store.pending = none) (generation : UInt32) (nvs : NvsHal) :
    fhssConfigStoreActivate protocol store generation nvs = (.invalidState, store) := by
  obtain ⟨err, hload⟩ := loadKey_none protocol nvs
  unfold fhssConfigStoreActivate fhssConfigStoreLoadPending
  rw [h, hload]

end Store

end FhssOtaRadio
