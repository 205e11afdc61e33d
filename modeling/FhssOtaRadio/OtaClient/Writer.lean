import FhssOtaRadio.Esp
import Mathlib.Data.List.Basic

/-!
# The OTA writer (`ota_writer.c`)

The writer pairs an ESP-IDF OTA handle with an incremental SHA-256.  What the flash driver and
the PSA hash functions answer is data of the environment (`OtaHal`); every call made to them is
recorded with its arguments and its result (`OtaCall`), oldest first, so that statements about
"the bytes written since `esp_ota_begin`" are statements about this record.
-/

namespace FhssOtaRadio

/-- An `esp_partition_t`, of which the writer reads the size. -/
structure EspPartition where
  address : ℕ
  size : ℕ
  deriving DecidableEq

/-- A `psa_hash_operation_t` for SHA-256: the bytes fed so far, or `none` when the operation is
not set up, aborted, or in its error state. -/
abbrev PsaHashOperation := Option Bytes

/-- The answers of the OTA and hash drivers during one call of the client. -/
structure OtaHal where
  /-- `esp_ota_get_next_update_partition`. -/
  updatePartition : Option EspPartition
  /-- `psa_hash_setup` returns `PSA_SUCCESS`. -/
  hashSetup : Bool
  /-- The code of `esp_ota_begin`. -/
  otaBegin : EspErr
  /-- The handle written by a successful `esp_ota_begin`. -/
  otaHandle : ℕ
  /-- The code of `esp_ota_write`. -/
  otaWrite : EspErr
  /-- `psa_hash_update` returns `PSA_SUCCESS` on an active operation. -/
  hashUpdate : Bool
  /-- The code of `esp_ota_end`. -/
  otaEnd : EspErr
  /-- `psa_hash_finish` returns `PSA_SUCCESS` on an active operation. -/
  hashFinish : Bool
  /-- The digest length reported by a successful `psa_hash_finish`. -/
  hashLength : ℕ
  /-- The code of `esp_ota_set_boot_partition`. -/
  setBootPartition : EspErr
  /-- The code of `esp_ota_abort`. -/
  otaAbort : EspErr
  deriving DecidableEq

/-- Drivers that always succeed, over an update partition of `size` bytes. -/
def OtaHal.succeeding (size : ℕ) : OtaHal where
  updatePartition := some ⟨0x210000, size⟩
  hashSetup := true
  otaBegin := .ok
  otaHandle := 1
  otaWrite := .ok
  hashUpdate := true
  otaEnd := .ok
  hashFinish := true
  hashLength := 32
  setBootPartition := .ok
  otaAbort := .ok

/-- One call made below the client, with its result.  `writerWrite` marks the entry of
`ota_writer_write`; the others are calls of ESP-IDF and PSA. -/
inductive OtaCall where
  | writerWrite (data : Bytes)
  | hashSetup (success : Bool)
  | hashUpdate (data : Bytes) (success : Bool)
  | hashFinish (success : Bool)
  | hashAbort
  | otaBegin (imageSize : ℕ) (err : EspErr)
  | otaWrite (handle : ℕ) (data : Bytes) (err : EspErr)
  | otaEnd (handle : ℕ) (err : EspErr)
  | otaAbort (handle : ℕ) (err : EspErr)
  | setBootPartition (partition : EspPartition) (err : EspErr)
  deriving DecidableEq

/-- The calls that end the life of an OTA handle. -/
def OtaCall.closesHandle : OtaCall → Bool
  | .otaEnd _ _ => true
  | .otaAbort _ _ => true
  | _ => false

/-- `ota_writer_t`. -/
structure OtaWriter where
  partition : Option EspPartition
  handle : ℕ
  imageSize : ℕ
  writtenSize : ℕ
  hashOperation : PsaHashOperation
  active : Bool
  hashActive : Bool
  deriving DecidableEq

/-- The writer after `memset(writer, 0, sizeof(*writer))`. -/
def OtaWriter.zero : OtaWriter where
  partition := none
  handle := 0
  imageSize := 0
  writtenSize := 0
  hashOperation := none
  active := false
  hashActive := false

/-- What a writer function returns: its code, the writer and the calls it made. -/
structure OtaWriterOutcome where
  err : EspErr
  writer : OtaWriter
  calls : List OtaCall

/-- `ota_writer_begin`. -/
def otaWriterBegin (writer : OtaWriter) (imageSize : ℕ) (hal : OtaHal) : OtaWriterOutcome :=
  if imageSize = 0 then ⟨.invalidArg, writer, []⟩
  else if writer.active then ⟨.invalidState, writer, []⟩
  else
    match hal.updatePartition with
    | none => ⟨.notFound, writer, []⟩
    | some updatePartition =>
        if updatePartition.size < imageSize then ⟨.invalidSize, writer, []⟩
        else if hal.hashSetup = false then
          ⟨.fail, { writer with hashOperation := none }, [.hashSetup false]⟩
        else
          match hal.otaBegin with
          | .ok =>
              ⟨.ok,
                { partition := some updatePartition
                  handle := hal.otaHandle
                  imageSize := imageSize
                  writtenSize := 0
                  hashOperation := some []
                  active := true
                  hashActive := true },
                [.hashSetup true, .otaBegin imageSize .ok]⟩
          | err =>
              ⟨err, { writer with hashOperation := none, hashActive := false },
                [.hashSetup true, .otaBegin imageSize err, .hashAbort]⟩

/-- `psa_hash_update`: whether it succeeds and the operation afterwards.  An update of an
inactive operation fails, and a failed update leaves the operation in its error state. -/
def psaHashUpdate (operation : PsaHashOperation) (data : Bytes) (hal : OtaHal) :
    Bool × PsaHashOperation :=
  match operation, hal.hashUpdate with
  | some hashed, true => (true, some (hashed ++ data))
  | _, _ => (false, none)

/-- `ota_writer_write`. -/
def otaWriterWrite (writer : OtaWriter) (data : Bytes) (hal : OtaHal) : OtaWriterOutcome :=
  if data.length = 0 then ⟨.invalidArg, writer, []⟩
  else if writer.active = false then ⟨.invalidState, writer, []⟩
  else if writer.imageSize < writer.writtenSize ∨
      writer.imageSize - writer.writtenSize < data.length then
    ⟨.invalidSize, writer, []⟩
  else
    match hal.otaWrite with
    | .ok =>
        if writer.hashActive = false then
          ⟨.fail, writer, [.otaWrite writer.handle data .ok]⟩
        else
          match psaHashUpdate writer.hashOperation data hal with
          | (true, operation) =>
              ⟨.ok,
                { writer with
                  hashOperation := operation
                  writtenSize := writer.writtenSize + data.length },
                [.otaWrite writer.handle data .ok, .hashUpdate data true]⟩
          | (false, operation) =>
              ⟨.fail, { writer with hashOperation := operation },
                [.otaWrite writer.handle data .ok, .hashUpdate data false]⟩
    | err => ⟨err, writer, [.otaWrite writer.handle data err]⟩

/-- `ota_writer_abort`. -/
def otaWriterAbort (writer : OtaWriter) (hal : OtaHal) : OtaWriterOutcome :=
  if writer.active = false then ⟨.invalidState, writer, []⟩
  else
    ⟨hal.otaAbort,
      { partition := none
        handle := 0
        imageSize := 0
        writtenSize := 0
        hashOperation := if writer.hashActive then none else writer.hashOperation
        active := false
        hashActive := false },
      .otaAbort writer.handle hal.otaAbort :: if writer.hashActive then [.hashAbort] else []⟩

section Finish

variable (sha256 : Bytes → Sha256Digest)

/-- `psa_hash_finish`: the digest of the bytes fed to an active operation. -/
def psaHashFinish (operation : PsaHashOperation) (hal : OtaHal) : Option Sha256Digest :=
  match operation, hal.hashFinish with
  | some hashed, true => some (sha256 hashed)
  | _, _ => none

/-- The part of `ota_writer_finish` after a successful `esp_ota_end`: finish the hash, compare
it with the expected one and switch the boot partition. -/
def otaWriterVerify (writer : OtaWriter) (partition : EspPartition)
    (expectedSha256 : Sha256Digest) (hal : OtaHal) : OtaWriterOutcome :=
  if writer.hashActive = false then
    ⟨.fail, { writer with hashOperation := none, hashActive := false }, [.hashAbort]⟩
  else
    match psaHashFinish sha256 writer.hashOperation hal with
    | none =>
        ⟨.fail, { writer with hashOperation := none, hashActive := false },
          [.hashFinish false, .hashAbort]⟩
    | some actualSha256 =>
        if hal.hashLength ≠ 32 then
          ⟨.fail, { writer with hashOperation := none, hashActive := false },
            [.hashFinish true, .hashAbort]⟩
        else
          let finished := { writer with hashOperation := none, hashActive := false }
          if actualSha256 ≠ expectedSha256 then ⟨.invalidCrc, finished, [.hashFinish true]⟩
          else
            ⟨hal.setBootPartition, finished,
              [.hashFinish true, .setBootPartition partition hal.setBootPartition]⟩

/-- `ota_writer_finish`. -/
def otaWriterFinish (writer : OtaWriter) (expectedSha256 : Sha256Digest) (hal : OtaHal) :
    OtaWriterOutcome :=
  match writer.active, writer.partition with
  | true, some partition =>
      if writer.writtenSize ≠ writer.imageSize then ⟨.invalidSize, writer, []⟩
      else
        -- the handle is gone whatever `esp_ota_end` returns
        let ended := { writer with handle := 0, active := false }
        match hal.otaEnd with
        | .ok =>
            let verified := otaWriterVerify sha256 ended partition expectedSha256 hal
            { verified with calls := .otaEnd writer.handle .ok :: verified.calls }
        | err =>
            ⟨err,
              { ended with
                hashOperation := if writer.hashActive then none else writer.hashOperation
                hashActive := false },
              .otaEnd writer.handle err :: if writer.hashActive then [.hashAbort] else []⟩
  | _, _ => ⟨.invalidState, writer, []⟩

end Finish

/-! ## What the writer functions do -/

/-- A successful `ota_writer_begin` opens a fresh writer of the requested size. -/
lemma otaWriterBegin_ok {writer : OtaWriter} {imageSize : ℕ} {hal : OtaHal}
    (h : (otaWriterBegin writer imageSize hal).err = .ok) :
    ∃ partition, otaWriterBegin writer imageSize hal =
      ⟨.ok, ⟨some partition, hal.otaHandle, imageSize, 0, some [], true, true⟩,
        [.hashSetup true, .otaBegin imageSize .ok]⟩ := by
  have hzero : imageSize ≠ 0 := by
    rintro rfl
    simp [otaWriterBegin] at h
  have hactive : ¬ writer.active = true := by
    intro hactive
    simp [otaWriterBegin, hzero, hactive] at h
  unfold otaWriterBegin at h ⊢
  rw [if_neg hzero, if_neg hactive]
  cases hpart : hal.updatePartition with
  | none => simp [hpart, hzero, hactive] at h
  | some partition =>
    simp only [hpart, if_neg hzero, if_neg hactive] at h ⊢
    split_ifs at h ⊢ with hsize hsetup
    cases hbegin : hal.otaBegin <;> simp [hbegin] at h
    exact ⟨partition, rfl⟩

/-- A write that fits an open writer, with flash and hash succeeding, appends the bytes to the
hash and to the written size. -/
lemma otaWriterWrite_ok {writer : OtaWriter} {data hashed : Bytes} {hal : OtaHal}
    (hpos : 0 < data.length) (hactive : writer.active = true)
    (hhash : writer.hashActive = true) (hop : writer.hashOperation = some hashed)
    (hfit : writer.writtenSize + data.length ≤ writer.imageSize)
    (hwrite : hal.otaWrite = .ok) (hupdate : hal.hashUpdate = true) :
    otaWriterWrite writer data hal =
      ⟨.ok,
        { writer with
          hashOperation := some (hashed ++ data)
          writtenSize := writer.writtenSize + data.length },
        [.otaWrite writer.handle data .ok, .hashUpdate data true]⟩ := by
  unfold otaWriterWrite
  rw [if_neg (by omega), if_neg (by simp [hactive]), if_neg (by omega)]
  simp [hwrite, hhash, hop, psaHashUpdate, hupdate]

/-- A successful write flashed its bytes and fed exactly them to the hash. -/
lemma otaWriterWrite_of_ok {writer : OtaWriter} {data : Bytes} {hal : OtaHal}
    (h : (otaWriterWrite writer data hal).err = .ok) :
    ∃ hashed, writer.hashOperation = some hashed ∧ writer.active = true ∧
      writer.hashActive = true ∧
      otaWriterWrite writer data hal =
        ⟨.ok,
          { writer with
            hashOperation := some (hashed ++ data)
            writtenSize := writer.writtenSize + data.length },
          [.otaWrite writer.handle data .ok, .hashUpdate data true]⟩ := by
  by_cases hempty : data.length = 0
  · simp [otaWriterWrite, hempty] at h
  by_cases hactive : writer.active = false
  · simp [otaWriterWrite, hempty, hactive] at h
  by_cases hfit : writer.imageSize < writer.writtenSize ∨
      writer.imageSize - writer.writtenSize < data.length
  · simp [otaWriterWrite, hempty, hactive, hfit] at h
  unfold otaWriterWrite at h ⊢
  rw [if_neg hempty, if_neg hactive, if_neg hfit] at h ⊢
  cases hwrite : hal.otaWrite with
  | ok =>
    simp only [hwrite] at h ⊢
    by_cases hhash : writer.hashActive = false
    · simp [hhash] at h
    rw [if_neg hhash] at h ⊢
    unfold psaHashUpdate at h ⊢
    cases hop : writer.hashOperation with
    | none => simp [hop] at h
    | some hashed =>
      cases hupdate : hal.hashUpdate with
      | false => simp [hop, hupdate] at h
      | true =>
        exact ⟨hashed, rfl, Bool.not_eq_false _ ▸ hactive, Bool.not_eq_false _ ▸ hhash, rfl⟩
  | _ => simp [hwrite] at h

/-- Writing leaves the handle open. -/
lemma otaWriterWrite_active (writer : OtaWriter) (data : Bytes) (hal : OtaHal) :
    (otaWriterWrite writer data hal).writer.active = writer.active := by
  unfold otaWriterWrite
  split_ifs
  · rfl
  · rfl
  · rfl
  · cases hal.otaWrite <;> rfl
  · cases hal.otaWrite with
    | ok =>
      dsimp only
      split <;> rfl
    | _ => rfl

/-- Aborting an open writer closes its handle. -/
lemma closesHandle_otaWriterAbort {writer : OtaWriter} (h : writer.active = true)
    (hal : OtaHal) : (otaWriterAbort writer hal).calls.any OtaCall.closesHandle = true := by
  simp [otaWriterAbort, h, OtaCall.closesHandle]

/-- Finishing an open writer that has written its whole image closes its handle. -/
lemma closesHandle_otaWriterFinish (sha256 : Bytes → Sha256Digest) {writer : OtaWriter}
    {partition : EspPartition} (hactive : writer.active = true)
    (hpartition : writer.partition = some partition)
    (hsize : writer.writtenSize = writer.imageSize) (expectedSha256 : Sha256Digest)
    (hal : OtaHal) :
    (otaWriterFinish sha256 writer expectedSha256 hal).calls.any OtaCall.closesHandle = true := by
  unfold otaWriterFinish
  rw [hactive, hpartition]
  dsimp only
  rw [if_neg (not_ne_iff.mpr hsize)]
  cases hal.otaEnd <;> rfl

/-- Opening, writing and aborting never touch the boot partition. -/
lemma setBootPartition_not_mem_otaWriterBegin (writer : OtaWriter) (imageSize : ℕ)
    (hal : OtaHal) (partition : EspPartition) (err : EspErr) :
    .setBootPartition partition err ∉ (otaWriterBegin writer imageSize hal).calls := by
  unfold otaWriterBegin
  split_ifs
  · simp
  · simp
  · cases hal.updatePartition with
    | none => simp
    | some updatePartition =>
      dsimp only
      split_ifs <;> simp
  · cases hal.updatePartition with
    | none => simp
    | some updatePartition =>
      dsimp only
      split_ifs
      · simp
      · cases hal.otaBegin <;> simp

lemma setBootPartition_not_mem_otaWriterWrite (writer : OtaWriter) (data : Bytes)
    (hal : OtaHal) (partition : EspPartition) (err : EspErr) :
    .setBootPartition partition err ∉ (otaWriterWrite writer data hal).calls := by
  unfold otaWriterWrite
  split_ifs
  · simp
  · simp
  · simp
  · cases hal.otaWrite <;> simp
  · cases hal.otaWrite with
    | ok =>
      dsimp only
      split <;> simp
    | _ => simp

lemma setBootPartition_not_mem_otaWriterAbort (writer : OtaWriter) (hal : OtaHal)
    (partition : EspPartition) (err : EspErr) :
    .setBootPartition partition err ∉ (otaWriterAbort writer hal).calls := by
  unfold otaWriterAbort
  split_ifs <;> simp

/-- `ota_writer_finish` either leaves the boot partition alone and fails, or it switches it, and
then the whole image was written, `esp_ota_end` succeeded and the hash of the bytes fed to the
operation is the expected one. -/
lemma otaWriterFinish_cases (sha256 : Bytes → Sha256Digest) (writer : OtaWriter)
    (expectedSha256 : Sha256Digest) (hal : OtaHal) :
    ((otaWriterFinish sha256 writer expectedSha256 hal).err ≠ .ok ∧
      ∀ partition err, .setBootPartition partition err ∉
        (otaWriterFinish sha256 writer expectedSha256 hal).calls) ∨
    ∃ partition hashed, writer.active = true ∧ writer.hashOperation = some hashed ∧
      writer.writtenSize = writer.imageSize ∧ sha256 hashed = expectedSha256 ∧
      (otaWriterFinish sha256 writer expectedSha256 hal).err = hal.setBootPartition ∧
      (otaWriterFinish sha256 writer expectedSha256 hal).calls =
        [.otaEnd writer.handle .ok, .hashFinish true,
          .setBootPartition partition hal.setBootPartition] := by
  unfold otaWriterFinish
  cases hactive : writer.active with
  | false => exact .inl ⟨by simp, by simp⟩
  | true =>
    cases hpartition : writer.partition with
    | none => exact .inl ⟨by simp, by simp⟩
    | some partition =>
      dsimp only
      by_cases hsize : writer.writtenSize ≠ writer.imageSize
      · rw [if_pos hsize]
        exact .inl ⟨by simp, by simp⟩
      rw [if_neg hsize]
      cases hend : hal.otaEnd with
      | ok =>
        dsimp only
        unfold otaWriterVerify
        dsimp only
        by_cases hhash : writer.hashActive = false
        · rw [if_pos hhash]
          exact .inl ⟨by simp, by simp⟩
        rw [if_neg hhash]
        unfold psaHashFinish
        cases hop : writer.hashOperation with
        | none => exact .inl ⟨by simp, by simp⟩
        | some hashed =>
          cases hfinish : hal.hashFinish with
          | false => exact .inl ⟨by simp, by simp⟩
          | true =>
            dsimp only
            by_cases hlength : hal.hashLength ≠ 32
            · rw [if_pos hlength]
              exact .inl ⟨by simp, by simp⟩
            rw [if_neg hlength]
            by_cases hdigest : sha256 hashed ≠ expectedSha256
            · rw [if_pos hdigest]
              exact .inl ⟨by simp, by simp⟩
            rw [if_neg hdigest]
            exact .inr ⟨partition, hashed, rfl, rfl, not_ne_iff.mp hsize,
              not_ne_iff.mp hdigest, rfl, rfl⟩
      | _ =>
        refine .inl ⟨by simp, ?_⟩
        dsimp only
        split_ifs <;> simp

end FhssOtaRadio
