import FhssOtaRadio.FhssService.CorrectionStats
import FhssOtaRadio.Library.MachineInt
import Mathlib.Algebra.Order.BigOperators.Group.List

/-!
# The diagnostics (`fhss_diagnostics.c`)

The service records what it receives and what becomes of its synchronization in one record of
counters, sums and extreme values, and logs it from time to time.  The calls that record may come
in any order.  What the record says is compared with the calls themselves: the timing errors they
reported (`timingErrors`), the events on channels that are not listed (`unlistedCount`), and the
durations of the recoveries that they entered and left (`countedDurations`).
-/

namespace FhssOtaRadio

open MachineInt

/-! ## Recording -/

/-- `fhss_diagnostics_t`: what `record_receive_result` writes, and what the handlers of the state
machine write. -/
structure FhssDiagnosticsSnapshot extends FhssDiagnostics where
  syncAcquiredCount : UInt32
  syncLostCount : UInt32
  recoveryEntryCount : UInt32
  recoverySuccessCount : UInt32
  hardResearchCount : UInt32
  maxConsecutiveMisses : UInt32
  recoveryDurationSampleCount : UInt32
  recoveryDurationSumUs : ℤ
  recoveryDurationMaxUs : ℤ
  recoveryStartedTimestampUs : ℤ
  deriving DecidableEq

/-- A call of one of the `fhss_diagnostics_record` functions. -/
inductive RecordCall where
  | valid (channel : UInt8) (timingErrorUs timestampUs : Int64)
  | crcFail (channel : UInt8)
  | timeout (channel : UInt8)
  | syncAcquired
  | syncLost
  | miss (consecutiveMisses : UInt32)
  | recoveryEntry (timestampUs : Int64)
  | recoverySuccess (timestampUs : Int64)
  | hardResearch
  | correction (correctionUs : Int64)
  deriving DecidableEq

/-- `fhss_diagnostics_init` on the whole record. -/
def fhssDiagnosticsSnapshotInit (channels : List UInt8) : Option FhssDiagnosticsSnapshot :=
  (fhssDiagnosticsInit channels).map fun diagnostics => ⟨diagnostics, 0, 0, 0, 0, 0, 0, 0, 0, 0, 0⟩

/-- `fhss_diagnostics_record_sync_acquired`. -/
def fhssDiagnosticsRecordSyncAcquired (diagnostics : FhssDiagnosticsSnapshot) :
    FhssDiagnosticsSnapshot :=
  { diagnostics with syncAcquiredCount := diagnostics.syncAcquiredCount + 1 }

/-- `fhss_diagnostics_record_sync_lost`. -/
def fhssDiagnosticsRecordSyncLost (diagnostics : FhssDiagnosticsSnapshot) :
    FhssDiagnosticsSnapshot :=
  { diagnostics with syncLostCount := diagnostics.syncLostCount + 1 }

/-- `fhss_diagnostics_record_miss`. -/
def fhssDiagnosticsRecordMiss (diagnostics : FhssDiagnosticsSnapshot)
    (consecutiveMisses : UInt32) : FhssDiagnosticsSnapshot :=
  if diagnostics.maxConsecutiveMisses < consecutiveMisses then
    { diagnostics with maxConsecutiveMisses := consecutiveMisses }
  else diagnostics

/-- `fhss_diagnostics_record_recovery_entry`. -/
def fhssDiagnosticsRecordRecoveryEntry (diagnostics : FhssDiagnosticsSnapshot)
    (timestampUs : ℤ) : FhssDiagnosticsSnapshot :=
  { diagnostics with
    recoveryEntryCount := diagnostics.recoveryEntryCount + 1
    recoveryStartedTimestampUs := timestampUs }

/-- `fhss_diagnostics_record_recovery_success`. -/
def fhssDiagnosticsRecordRecoverySuccess (diagnostics : FhssDiagnosticsSnapshot)
    (timestampUs : ℤ) : FhssDiagnosticsSnapshot :=
  let diagnostics :=
    { diagnostics with recoverySuccessCount := diagnostics.recoverySuccessCount + 1 }
  if diagnostics.recoveryStartedTimestampUs ≤ 0 ∨
      timestampUs < diagnostics.recoveryStartedTimestampUs then
    { diagnostics with recoveryStartedTimestampUs := 0 }
  else
    let durationUs := timestampUs - diagnostics.recoveryStartedTimestampUs
    { diagnostics with
      recoveryDurationSumUs := diagnostics.recoveryDurationSumUs + durationUs
      recoveryDurationSampleCount := diagnostics.recoveryDurationSampleCount + 1
      recoveryDurationMaxUs :=
        if diagnostics.recoveryDurationMaxUs < durationUs then durationUs
        else diagnostics.recoveryDurationMaxUs
      recoveryStartedTimestampUs := 0 }

/-- `fhss_diagnostics_record_hard_research`. -/
def fhssDiagnosticsRecordHardResearch (diagnostics : FhssDiagnosticsSnapshot) :
    FhssDiagnosticsSnapshot :=
  { diagnostics with
    hardResearchCount := diagnostics.hardResearchCount + 1
    recoveryStartedTimestampUs := 0 }

namespace FhssDiagnosticsSnapshot

variable (diagnostics : FhssDiagnosticsSnapshot)

/-- The record after a call, with exact integers in place of `int64_t`. -/
def recordExact : RecordCall → FhssDiagnosticsSnapshot
  | .valid channel timingErrorUs timestampUs =>
      { diagnostics with
        toFhssDiagnostics := fhssDiagnosticsRecordValid diagnostics.toFhssDiagnostics channel
          timingErrorUs.toInt timestampUs.toInt }
  | .crcFail channel =>
      { diagnostics with
        toFhssDiagnostics := fhssDiagnosticsRecordCrcFail diagnostics.toFhssDiagnostics channel }
  | .timeout channel =>
      { diagnostics with
        toFhssDiagnostics := fhssDiagnosticsRecordTimeout diagnostics.toFhssDiagnostics channel }
  | .syncAcquired => fhssDiagnosticsRecordSyncAcquired diagnostics
  | .syncLost => fhssDiagnosticsRecordSyncLost diagnostics
  | .miss consecutiveMisses => fhssDiagnosticsRecordMiss diagnostics consecutiveMisses
  | .recoveryEntry timestampUs =>
      fhssDiagnosticsRecordRecoveryEntry diagnostics timestampUs.toInt
  | .recoverySuccess timestampUs =>
      fhssDiagnosticsRecordRecoverySuccess diagnostics timestampUs.toInt
  | .hardResearch => fhssDiagnosticsRecordHardResearch diagnostics
  | .correction correctionUs =>
      { diagnostics with
        toFhssDiagnostics := fhssDiagnosticsRecordCorrection diagnostics.toFhssDiagnostics
          correctionUs.toInt }

/-- The exact results of the operations on `int64_t` that a call makes. -/
def int64Results : RecordCall → List ℤ
  | .valid _ timingErrorUs _ => [diagnostics.timingErrorSumUs + timingErrorUs.toInt]
  | .recoverySuccess timestampUs =>
      if diagnostics.recoveryStartedTimestampUs ≤ 0 ∨
          timestampUs.toInt < diagnostics.recoveryStartedTimestampUs then []
      else
        let durationUs := timestampUs.toInt - diagnostics.recoveryStartedTimestampUs
        [durationUs, diagnostics.recoveryDurationSumUs + durationUs]
  | .correction correctionUs =>
      if correctionUs.toInt = 0 then []
      else [(correctionUs.toInt.natAbs : ℤ),
        diagnostics.correctionAbsSumUs + correctionUs.toInt.natAbs]
  | _ => []

/-- The record after a call, unless an operation of the call overflows. -/
def record (call : RecordCall) : Except Fault FhssDiagnosticsSnapshot :=
  if ∀ result ∈ diagnostics.int64Results call, FitsInt64 result then
    .ok (diagnostics.recordExact call)
  else .error .signedOverflow

/-- `average_us` of `log_diagnostics`. -/
def averageUs : ℤ :=
  if 0 < diagnostics.timingSampleCount then
    diagnostics.timingErrorSumUs.tdiv diagnostics.timingSampleCount.toNat
  else 0

end FhssDiagnosticsSnapshot

/-! ## What the calls say -/

/-- The counters of receives, which the record keeps in total and for each listed channel. -/
inductive ReceiveCounter where
  | valid
  | crcFail
  | timeout
  deriving DecidableEq

/-- The total of a counter. -/
def FhssDiagnostics.total (diagnostics : FhssDiagnostics) : ReceiveCounter → UInt32
  | .valid => diagnostics.rxValidCount
  | .crcFail => diagnostics.crcFailCount
  | .timeout => diagnostics.timeoutCount

/-- A counter of a channel. -/
def FhssDiagnosticsChannel.count (stats : FhssDiagnosticsChannel) : ReceiveCounter → UInt32
  | .valid => stats.rxValidCount
  | .crcFail => stats.crcFailCount
  | .timeout => stats.timeoutCount

namespace RecordCall

/-- The counter and the channel of a receive. -/
def receive : RecordCall → Option (ReceiveCounter × UInt8)
  | .valid channel _ _ => some (.valid, channel)
  | .crcFail channel => some (.crcFail, channel)
  | .timeout channel => some (.timeout, channel)
  | _ => none

/-- The call counts in the counter. -/
def counts (counter : ReceiveCounter) (call : RecordCall) : Bool :=
  call.receive.any fun receive => receive.1 = counter

/-- The call counts in the counter for a channel that is not listed. -/
def unlisted (channels : List UInt8) (counter : ReceiveCounter) (call : RecordCall) : Bool :=
  call.receive.any fun receive => receive.1 = counter ∧ receive.2 ∉ channels

/-- The timing error of a valid SYNC packet. -/
def timingError : RecordCall → Option ℤ
  | .valid _ timingErrorUs _ => some timingErrorUs.toInt
  | _ => none

/-- The call is about a recovery. -/
def touchesRecovery : RecordCall → Bool
  | .recoveryEntry _ => true
  | .recoverySuccess _ => true
  | .hardResearch => true
  | _ => false

def isRecoveryEntry : RecordCall → Bool
  | .recoveryEntry _ => true
  | _ => false

def isRecoverySuccess : RecordCall → Bool
  | .recoverySuccess _ => true
  | _ => false

end RecordCall

/-- The timing errors that calls have recorded. -/
def timingErrors (calls : List RecordCall) : List ℤ := calls.filterMap RecordCall.timingError

/-- The number of events on channels that are not listed. -/
def unlistedCount (channels : List UInt8) (counter : ReceiveCounter) (calls : List RecordCall) :
    ℕ :=
  calls.countP (RecordCall.unlisted channels counter)

/-- The durations that calls count: a success ends the recovery entered last, unless it has been
given up, and counts if the clock was running when the recovery was entered and has not gone
back since. -/
def countedDurations : Option ℤ → List RecordCall → List ℤ
  | _, [] => []
  | _, .recoveryEntry timestampUs :: calls => countedDurations (some timestampUs.toInt) calls
  | some startedUs, .recoverySuccess timestampUs :: calls =>
      if 0 < startedUs ∧ startedUs ≤ timestampUs.toInt then
        (timestampUs.toInt - startedUs) :: countedDurations none calls
      else countedDurations none calls
  | none, .recoverySuccess _ :: calls => countedDurations none calls
  | _, .hardResearch :: calls => countedDurations none calls
  | entered, _ :: calls => countedDurations entered calls

/-- What the record says of the timing errors lies between two of them, and so does the average
that is logged. -/
structure TimingRange (errors : List ℤ) (diagnostics : FhssDiagnosticsSnapshot) : Prop where
  min_le_max : diagnostics.timingErrorMinUs ≤ diagnostics.timingErrorMaxUs
  min_mem : diagnostics.timingErrorMinUs ∈ errors
  max_mem : diagnostics.timingErrorMaxUs ∈ errors
  min_mul_le : diagnostics.timingErrorMinUs * diagnostics.timingSampleCount.toNat ≤
    diagnostics.timingErrorSumUs
  le_max_mul : diagnostics.timingErrorSumUs ≤
    diagnostics.timingErrorMaxUs * diagnostics.timingSampleCount.toNat
  average : diagnostics.timingErrorMinUs ≤ diagnostics.averageUs ∧
    diagnostics.averageUs ≤ diagnostics.timingErrorMaxUs

/-- A record agrees with the calls that made it, and its parts agree with each other. -/
structure DiagnosticsConsistent (channels : List UInt8) (calls : List RecordCall)
    (diagnostics : FhssDiagnosticsSnapshot) : Prop where
  samples_eq : diagnostics.timingSampleCount = diagnostics.rxValidCount
  range : 0 < diagnostics.timingSampleCount → TimingRange (timingErrors calls) diagnostics
  totals : ∀ counter, (diagnostics.total counter).toNat =
    (diagnostics.channels.map fun stats => (stats.count counter).toNat).sum +
      unlistedCount channels counter calls
  durations : ∀ duration ∈ countedDurations none calls,
    0 ≤ duration ∧ duration ≤ diagnostics.recoveryDurationMaxUs
  durations_count : diagnostics.recoveryDurationSampleCount.toNat =
    (countedDurations none calls).length
  durations_sum : diagnostics.recoveryDurationSumUs = (countedDurations none calls).sum
  durations_le : diagnostics.recoveryDurationSampleCount.toNat ≤
    min diagnostics.recoverySuccessCount.toNat diagnostics.recoveryEntryCount.toNat

/-! ## Counters -/

section Counters

open FhssDiagnosticsSnapshot

variable {diagnostics : FhssDiagnosticsSnapshot}

/-- A run without overflow computes with exact integers. -/
lemma foldlM_record_eq (calls : List RecordCall) :
    ∀ {diagnostics reached : FhssDiagnosticsSnapshot},
      calls.foldlM record diagnostics = .ok reached →
      calls.foldl recordExact diagnostics = reached := by
  induction calls with
  | nil => exact fun h => Except.ok.inj h
  | cons call calls ih =>
    intro diagnostics reached h
    rw [List.foldlM_cons] at h
    by_cases hfits : ∀ result ∈ diagnostics.int64Results call, FitsInt64 result
    · rw [show diagnostics.record call = .ok (diagnostics.recordExact call) from if_pos hfits]
        at h
      exact ih h
    · rw [show diagnostics.record call = .error .signedOverflow from if_neg hfits] at h
      cases h

/-- A counter that some calls increment counts these calls, as long as it does not wrap. -/
lemma toNat_counter_foldl (counter : FhssDiagnosticsSnapshot → UInt32) {p : RecordCall → Bool}
    (hstep : ∀ diagnostics call, counter (recordExact diagnostics call) =
      if p call = true then counter diagnostics + 1 else counter diagnostics)
    (hinit : counter diagnostics = 0) {calls : List RecordCall} (hlength : calls.length < 2 ^ 32) :
    (counter (calls.foldl recordExact diagnostics)).toNat = calls.countP p := by
  induction calls using List.reverseRecOn with
  | nil =>
    rw [List.foldl_nil, hinit]
    rfl
  | append_singleton calls call ih =>
    rw [List.length_append, List.length_singleton] at hlength
    have hcount := ih (by omega)
    have hle : calls.countP p ≤ calls.length := List.countP_le_length
    rw [List.foldl_append, List.foldl_cons, List.foldl_nil, hstep, List.countP_append,
      List.countP_singleton]
    split_ifs with hcall
    · rw [UInt32.toNat_add, UInt32.toNat_one, hcount]
      exact Nat.mod_eq_of_lt (by omega)
    · exact hcount

/-! ## Frames -/

/-- The part of the record that receives write. -/
structure SameReceives (diagnostics diagnostics' : FhssDiagnosticsSnapshot) : Prop where
  channels_eq : diagnostics'.channels = diagnostics.channels
  total_eq : ∀ counter, diagnostics'.total counter = diagnostics.total counter
  samples_eq : diagnostics'.timingSampleCount = diagnostics.timingSampleCount
  min_eq : diagnostics'.timingErrorMinUs = diagnostics.timingErrorMinUs
  max_eq : diagnostics'.timingErrorMaxUs = diagnostics.timingErrorMaxUs
  sum_eq : diagnostics'.timingErrorSumUs = diagnostics.timingErrorSumUs

/-- Records with the same receives in the source's own part agree on them. -/
lemma sameReceives_of_eq {diagnostics' : FhssDiagnosticsSnapshot}
    (h : diagnostics'.toFhssDiagnostics = diagnostics.toFhssDiagnostics) :
    SameReceives diagnostics diagnostics' := by
  constructor <;> simp only [h, implies_true]

/-- Only receives write this part. -/
lemma sameReceives_recordExact {call : RecordCall} (h : call.receive = none) :
    SameReceives diagnostics (diagnostics.recordExact call) := by
  cases call with
  | valid channel timingErrorUs timestampUs => cases h
  | crcFail channel => cases h
  | timeout channel => cases h
  | syncAcquired => exact sameReceives_of_eq rfl
  | syncLost => exact sameReceives_of_eq rfl
  | recoveryEntry timestampUs => exact sameReceives_of_eq rfl
  | hardResearch => exact sameReceives_of_eq rfl
  | miss consecutiveMisses =>
    change SameReceives diagnostics (fhssDiagnosticsRecordMiss diagnostics consecutiveMisses)
    unfold fhssDiagnosticsRecordMiss
    split_ifs <;> exact sameReceives_of_eq rfl
  | recoverySuccess timestampUs =>
    change SameReceives diagnostics
      (fhssDiagnosticsRecordRecoverySuccess diagnostics timestampUs.toInt)
    unfold fhssDiagnosticsRecordRecoverySuccess
    dsimp only
    split_ifs <;> exact sameReceives_of_eq rfl
  | correction correctionUs =>
    by_cases hzero : correctionUs.toInt = 0
    · exact sameReceives_of_eq (if_pos hzero)
    · have hbase : (diagnostics.recordExact (.correction correctionUs)).toFhssDiagnostics = _ :=
        if_neg hzero
      constructor <;> simp only [hbase]
      intro counter
      cases counter <;> rfl

/-- The part of the record that recoveries write. -/
structure SameRecovery (diagnostics diagnostics' : FhssDiagnosticsSnapshot) : Prop where
  entries_eq : diagnostics'.recoveryEntryCount = diagnostics.recoveryEntryCount
  successes_eq : diagnostics'.recoverySuccessCount = diagnostics.recoverySuccessCount
  started_eq : diagnostics'.recoveryStartedTimestampUs = diagnostics.recoveryStartedTimestampUs
  samples_eq : diagnostics'.recoveryDurationSampleCount = diagnostics.recoveryDurationSampleCount
  sum_eq : diagnostics'.recoveryDurationSumUs = diagnostics.recoveryDurationSumUs
  max_eq : diagnostics'.recoveryDurationMaxUs = diagnostics.recoveryDurationMaxUs

/-- Only the calls about recoveries write this part. -/
lemma sameRecovery_recordExact {call : RecordCall} (h : call.touchesRecovery = false) :
    SameRecovery diagnostics (diagnostics.recordExact call) := by
  cases call with
  | recoveryEntry timestampUs => cases h
  | recoverySuccess timestampUs => cases h
  | hardResearch => cases h
  | miss consecutiveMisses =>
    change SameRecovery diagnostics (fhssDiagnosticsRecordMiss diagnostics consecutiveMisses)
    unfold fhssDiagnosticsRecordMiss
    split_ifs <;> exact ⟨rfl, rfl, rfl, rfl, rfl, rfl⟩
  | _ => exact ⟨rfl, rfl, rfl, rfl, rfl, rfl⟩

/-! ## Totals -/

lemma total_recordExact (counter : ReceiveCounter) (call : RecordCall) :
    (diagnostics.recordExact call).total counter =
      if call.counts counter = true then diagnostics.total counter + 1
      else diagnostics.total counter := by
  cases hreceive : call.receive with
  | none =>
    have hcounts : ¬ call.counts counter = true := by simp [RecordCall.counts, hreceive]
    rw [if_neg hcounts]
    exact (sameReceives_recordExact hreceive).total_eq counter
  | some receive =>
    cases call with
    | valid channel timingErrorUs timestampUs => cases counter <;> rfl
    | crcFail channel => cases counter <;> rfl
    | timeout channel => cases counter <;> rfl
    | _ => cases hreceive

/-- Count once more. -/
def FhssDiagnosticsChannel.bump (stats : FhssDiagnosticsChannel) :
    ReceiveCounter → FhssDiagnosticsChannel
  | .valid => { stats with rxValidCount := stats.rxValidCount + 1 }
  | .crcFail => { stats with crcFailCount := stats.crcFailCount + 1 }
  | .timeout => { stats with timeoutCount := stats.timeoutCount + 1 }

/-- A receive counts for its channel, if the channel is listed. -/
lemma channels_recordExact {call : RecordCall} {counter : ReceiveCounter} {channel : UInt8}
    (h : call.receive = some (counter, channel)) :
    (diagnostics.recordExact call).channels =
      updateChannel channel (·.bump counter) diagnostics.channels := by
  cases call with
  | valid channel' timingErrorUs timestampUs =>
    obtain ⟨rfl, rfl⟩ := Prod.mk.inj (Option.some.inj h)
    rfl
  | crcFail channel' =>
    obtain ⟨rfl, rfl⟩ := Prod.mk.inj (Option.some.inj h)
    rfl
  | timeout channel' =>
    obtain ⟨rfl, rfl⟩ := Prod.mk.inj (Option.some.inj h)
    rfl
  | _ => cases h

/-- An update that keeps the channel keeps the list of channels. -/
lemma map_channel_updateChannel {update : FhssDiagnosticsChannel → FhssDiagnosticsChannel}
    (hupdate : ∀ stats, (update stats).channel = stats.channel) (channel : UInt8)
    (list : List FhssDiagnosticsChannel) :
    (updateChannel channel update list).map (·.channel) = list.map (·.channel) := by
  induction list with
  | nil => rfl
  | cons stats rest ih =>
    unfold updateChannel
    split_ifs
    · rw [List.map_cons, List.map_cons, hupdate]
    · rw [List.map_cons, List.map_cons, ih]

/-- An update adds what it adds to an entry, if there is an entry to update. -/
lemma sum_updateChannel {f : FhssDiagnosticsChannel → ℕ}
    {update : FhssDiagnosticsChannel → FhssDiagnosticsChannel} {increment : ℕ} (channel : UInt8)
    {list : List FhssDiagnosticsChannel}
    (hupdate : ∀ stats ∈ list, f (update stats) = f stats + increment) :
    ((updateChannel channel update list).map f).sum =
      (list.map f).sum + if channel ∈ list.map (·.channel) then increment else 0 := by
  induction list with
  | nil => rfl
  | cons stats rest ih =>
    unfold updateChannel
    by_cases hchannel : stats.channel = channel
    · have hmem : channel ∈ (stats :: rest).map (·.channel) :=
        List.mem_map.mpr ⟨stats, List.mem_cons_self, hchannel⟩
      rw [if_pos hchannel, if_pos hmem, List.map_cons, List.map_cons, List.sum_cons,
        List.sum_cons, hupdate stats List.mem_cons_self]
      omega
    · have hmem : channel ∈ (stats :: rest).map (·.channel) ↔
          channel ∈ rest.map (·.channel) := by
        rw [List.map_cons, List.mem_cons, or_iff_right (Ne.symm hchannel)]
      rw [if_neg hchannel, List.map_cons, List.map_cons, List.sum_cons, List.sum_cons,
        ih fun stats' hstats' => hupdate stats' (List.mem_cons_of_mem _ hstats')]
      simp only [hmem]
      omega

/-- Counting once more in one counter leaves the others alone. -/
lemma toNat_count_bump {stats : FhssDiagnosticsChannel} {counter : ReceiveCounter}
    (hbound : (stats.count counter).toNat + 1 < 2 ^ 32) (counter' : ReceiveCounter) :
    ((stats.bump counter').count counter).toNat =
      (stats.count counter).toNat + if counter' = counter then 1 else 0 := by
  by_cases hsame : counter' = counter
  · subst hsame
    have hsucc : (stats.bump counter').count counter' = stats.count counter' + 1 := by
      cases counter' <;> rfl
    rw [if_pos rfl, hsucc, UInt32.toNat_add, UInt32.toNat_one]
    exact Nat.mod_eq_of_lt hbound
  · have hother : (stats.bump counter').count counter = stats.count counter := by
      revert hsame
      cases counter' <;> cases counter <;> simp [FhssDiagnosticsChannel.bump,
        FhssDiagnosticsChannel.count]
    rw [if_neg hsame, hother, Nat.add_zero]

/-- The sum of a counter over the listed channels. -/
def listedSum (diagnostics : FhssDiagnosticsSnapshot) (counter : ReceiveCounter) : ℕ :=
  (diagnostics.channels.map fun stats => (stats.count counter).toNat).sum

/-- A receive raises the total, and with it the sum or the number of the others. -/
lemma listedSum_recordExact (counter : ReceiveCounter) {channels : List UInt8}
    (hchannels : diagnostics.channels.map (·.channel) = channels)
    (hbound : listedSum diagnostics counter + 1 < 2 ^ 32) (call : RecordCall) :
    listedSum (diagnostics.recordExact call) counter +
        (if call.unlisted channels counter = true then 1 else 0) =
      listedSum diagnostics counter + if call.counts counter = true then 1 else 0 := by
  cases hreceive : call.receive with
  | none =>
    have hsame : listedSum (diagnostics.recordExact call) counter =
        listedSum diagnostics counter := by
      unfold listedSum
      rw [(sameReceives_recordExact hreceive).channels_eq]
    simp [RecordCall.unlisted, RecordCall.counts, hreceive, hsame]
  | some receive =>
    obtain ⟨counter', channel⟩ := receive
    have hbump : ∀ stats ∈ diagnostics.channels, ((stats.bump counter').count counter).toNat =
        (stats.count counter).toNat + if counter' = counter then 1 else 0 := by
      intro stats hstats
      have hle : (stats.count counter).toNat ≤ listedSum diagnostics counter :=
        List.le_sum_of_mem (List.mem_map.mpr ⟨stats, hstats, rfl⟩)
      exact toNat_count_bump (by omega) counter'
    have hsum : listedSum (diagnostics.recordExact call) counter = listedSum diagnostics counter +
        if channel ∈ channels then (if counter' = counter then 1 else 0) else 0 := by
      unfold listedSum
      rw [channels_recordExact hreceive, sum_updateChannel channel hbump, hchannels]
    rw [hsum]
    by_cases hsame : counter' = counter <;> by_cases hlisted : channel ∈ channels <;>
      simp [RecordCall.unlisted, RecordCall.counts, hreceive, hsame, hlisted]

/-- The channels of a record are those it was made for. -/
lemma map_channel_recordExact (call : RecordCall) :
    (diagnostics.recordExact call).channels.map (·.channel) =
      diagnostics.channels.map (·.channel) := by
  cases hreceive : call.receive with
  | none => rw [(sameReceives_recordExact hreceive).channels_eq]
  | some receive =>
    rw [channels_recordExact hreceive]
    refine map_channel_updateChannel (fun stats => ?_) receive.2 _
    cases receive.1 <;> rfl

/-- **Totals.**  From an empty record, the sum over the listed channels and the events on the
others make the events counted. -/
lemma listedSum_foldl {channels : List UInt8}
    (hchannels : diagnostics.channels.map (·.channel) = channels) (counter : ReceiveCounter)
    (hzero : listedSum diagnostics counter = 0) {calls : List RecordCall}
    (hlength : calls.length < 2 ^ 32) :
    (calls.foldl recordExact diagnostics).channels.map (·.channel) = channels ∧
      listedSum (calls.foldl recordExact diagnostics) counter +
          unlistedCount channels counter calls =
        calls.countP (RecordCall.counts counter) := by
  induction calls using List.reverseRecOn with
  | nil => exact ⟨hchannels, hzero⟩
  | append_singleton calls call ih =>
    rw [List.length_append, List.length_singleton] at hlength
    obtain ⟨hlisted, hsum⟩ := ih (by omega)
    have hle : calls.countP (RecordCall.counts counter) ≤ calls.length := List.countP_le_length
    have hstep := listedSum_recordExact counter hlisted (by omega) call
    unfold unlistedCount at hsum ⊢
    rw [List.foldl_append, List.foldl_cons, List.foldl_nil, List.countP_append,
      List.countP_append, List.countP_singleton, List.countP_singleton]
    exact ⟨(map_channel_recordExact call).trans hlisted, by omega⟩

/-! ## Timing errors -/

/-- The sum and the extreme values of the timing errors. -/
structure TimingExact (errors : List ℤ) (diagnostics : FhssDiagnosticsSnapshot) : Prop where
  sum_eq : diagnostics.timingErrorSumUs = errors.sum
  min_mem : errors ≠ [] → diagnostics.timingErrorMinUs ∈ errors
  max_mem : errors ≠ [] → diagnostics.timingErrorMaxUs ∈ errors
  bounds : ∀ error ∈ errors,
    diagnostics.timingErrorMinUs ≤ error ∧ error ≤ diagnostics.timingErrorMaxUs

/-- A valid packet adds its timing error. -/
lemma timingExact_valid {errors : List ℤ} (h : TimingExact errors diagnostics)
    (hsamples : diagnostics.timingSampleCount = 0 ↔ errors = []) (channel : UInt8)
    (timingErrorUs timestampUs : Int64) :
    TimingExact (errors ++ [timingErrorUs.toInt])
      (diagnostics.recordExact (.valid channel timingErrorUs timestampUs)) := by
  have hmin : (diagnostics.recordExact
      (.valid channel timingErrorUs timestampUs)).timingErrorMinUs =
        if diagnostics.timingSampleCount = 0 ∨
          timingErrorUs.toInt < diagnostics.timingErrorMinUs then timingErrorUs.toInt
        else diagnostics.timingErrorMinUs := rfl
  have hmax : (diagnostics.recordExact
      (.valid channel timingErrorUs timestampUs)).timingErrorMaxUs =
        if diagnostics.timingSampleCount = 0 ∨
          diagnostics.timingErrorMaxUs < timingErrorUs.toInt then timingErrorUs.toInt
        else diagnostics.timingErrorMaxUs := rfl
  simp only [hsamples] at hmin hmax
  constructor
  · rw [List.sum_append, List.sum_singleton, ← h.sum_eq]
    rfl
  · rintro -
    rw [hmin]
    split_ifs with hnew
    · exact List.mem_append_right _ List.mem_cons_self
    · exact List.mem_append_left _ (h.min_mem (not_or.mp hnew).1)
  · rintro -
    rw [hmax]
    split_ifs with hnew
    · exact List.mem_append_right _ List.mem_cons_self
    · exact List.mem_append_left _ (h.max_mem (not_or.mp hnew).1)
  · intro error herror
    rw [hmin, hmax]
    rcases List.mem_append.mp herror with hold | hnew
    · have hne : errors ≠ [] := List.ne_nil_of_mem hold
      obtain ⟨hle, hge⟩ := h.bounds error hold
      simp only [hne, false_or]
      split_ifs <;> omega
    · rw [List.mem_singleton] at hnew
      subst hnew
      split_ifs <;> omega

/-- Other calls leave the timing errors alone. -/
lemma timingExact_other {errors : List ℤ} (h : TimingExact errors diagnostics)
    {call : RecordCall} (hcall : call.timingError = none) :
    TimingExact errors (diagnostics.recordExact call) := by
  cases hreceive : call.receive with
  | none =>
    have hsame := @sameReceives_recordExact diagnostics call hreceive
    obtain ⟨hsum, hmin, hmax, hbounds⟩ := h
    rw [← hsame.sum_eq] at hsum
    rw [← hsame.min_eq] at hmin hbounds
    rw [← hsame.max_eq] at hmax hbounds
    exact ⟨hsum, hmin, hmax, hbounds⟩
  | some receive =>
    cases call with
    | valid channel timingErrorUs timestampUs => cases hcall
    | crcFail channel => exact ⟨h.sum_eq, h.min_mem, h.max_mem, h.bounds⟩
    | timeout channel => exact ⟨h.sum_eq, h.min_mem, h.max_mem, h.bounds⟩
    | _ => cases hreceive

lemma timingSampleCount_recordExact (call : RecordCall) :
    (diagnostics.recordExact call).timingSampleCount =
      if call.timingError.isSome = true then diagnostics.timingSampleCount + 1
      else diagnostics.timingSampleCount := by
  cases hreceive : call.receive with
  | none =>
    have herror : ¬ call.timingError.isSome = true := by
      revert hreceive
      cases call <;> simp [RecordCall.receive, RecordCall.timingError]
    rw [if_neg herror]
    exact (sameReceives_recordExact hreceive).samples_eq
  | some receive =>
    cases call with
    | valid channel timingErrorUs timestampUs => rfl
    | crcFail channel => rfl
    | timeout channel => rfl
    | _ => cases hreceive

/-- **Timing errors.**  From an empty record, the samples are the timing errors of the calls. -/
lemma timingExact_foldl (hsamples : diagnostics.timingSampleCount = 0)
    (hsum : diagnostics.timingErrorSumUs = 0) {calls : List RecordCall}
    (hlength : calls.length < 2 ^ 32) :
    (calls.foldl recordExact diagnostics).timingSampleCount.toNat =
        (timingErrors calls).length ∧
      TimingExact (timingErrors calls) (calls.foldl recordExact diagnostics) := by
  have hcount : ∀ calls : List RecordCall, calls.length < 2 ^ 32 →
      (calls.foldl recordExact diagnostics).timingSampleCount.toNat =
        (timingErrors calls).length := by
    intro calls hlength
    unfold timingErrors
    rw [List.length_filterMap_eq_countP]
    exact toNat_counter_foldl (fun diagnostics => diagnostics.timingSampleCount)
      (fun diagnostics call => timingSampleCount_recordExact call) hsamples hlength
  refine ⟨hcount calls hlength, ?_⟩
  induction calls using List.reverseRecOn with
  | nil =>
    exact ⟨hsum, fun hne => absurd rfl hne, fun hne => absurd rfl hne,
      fun error herror => absurd herror List.not_mem_nil⟩
  | append_singleton calls call ih =>
    rw [List.length_append, List.length_singleton] at hlength
    have hexact := ih (by omega)
    have hempty : (calls.foldl recordExact diagnostics).timingSampleCount = 0 ↔
        timingErrors calls = [] := by
      rw [← UInt32.toNat_inj, hcount calls (by omega)]
      exact List.length_eq_zero_iff
    rw [List.foldl_append, List.foldl_cons, List.foldl_nil]
    cases herror : call.timingError with
    | none =>
      have herrors : timingErrors (calls ++ [call]) = timingErrors calls := by
        simp [timingErrors, herror]
      rw [herrors]
      exact timingExact_other hexact herror
    | some error =>
      cases call with
      | valid channel timingErrorUs timestampUs =>
        have herrors : timingErrors (calls ++ [.valid channel timingErrorUs timestampUs]) =
            timingErrors calls ++ [timingErrorUs.toInt] := by
          simp [timingErrors, RecordCall.timingError]
        rw [herrors]
        exact timingExact_valid hexact hempty channel timingErrorUs timestampUs
      | _ => cases herror

/-- The bounds hold for the average too. -/
lemma timingRange_of_exact {errors : List ℤ} (h : TimingExact errors diagnostics)
    (hcount : diagnostics.timingSampleCount.toNat = errors.length)
    (hpos : 0 < diagnostics.timingSampleCount) : TimingRange errors diagnostics := by
  have hpos' : 0 < diagnostics.timingSampleCount.toNat := UInt32.lt_iff_toNat_lt.mp hpos
  have hne : errors ≠ [] := by
    rintro rfl
    rw [List.length_nil] at hcount
    omega
  have hlow : diagnostics.timingErrorMinUs * diagnostics.timingSampleCount.toNat ≤
      diagnostics.timingErrorSumUs := by
    have hsum := List.card_nsmul_le_sum errors _ fun error herror => (h.bounds error herror).1
    rwa [nsmul_eq_mul, ← hcount, mul_comm, ← h.sum_eq] at hsum
  have hhigh : diagnostics.timingErrorSumUs ≤
      diagnostics.timingErrorMaxUs * diagnostics.timingSampleCount.toNat := by
    have hsum := List.sum_le_card_nsmul errors _ fun error herror => (h.bounds error herror).2
    rwa [nsmul_eq_mul, ← hcount, mul_comm, ← h.sum_eq] at hsum
  have haverage : diagnostics.averageUs =
      diagnostics.timingErrorSumUs.tdiv diagnostics.timingSampleCount.toNat := if_pos hpos
  refine ⟨(h.bounds _ (h.min_mem hne)).2, h.min_mem hne, h.max_mem hne, hlow, hhigh, ?_⟩
  rw [haverage]
  exact ⟨le_tdiv_of_mul_le (by omega) hlow, tdiv_le_of_le_mul (by omega) hhigh⟩

/-! ## Recoveries -/

/-- The durations that a run counts, beyond those of the record it starts from. -/
structure DurationsExact (durations : List ℤ) (diagnostics reached : FhssDiagnosticsSnapshot) :
    Prop where
  count_eq : reached.recoveryDurationSampleCount.toNat =
    diagnostics.recoveryDurationSampleCount.toNat + durations.length
  sum_eq : reached.recoveryDurationSumUs = diagnostics.recoveryDurationSumUs + durations.sum
  max_le : diagnostics.recoveryDurationMaxUs ≤ reached.recoveryDurationMaxUs
  bounds : ∀ duration ∈ durations, 0 ≤ duration ∧ duration ≤ reached.recoveryDurationMaxUs

@[simp] lemma countedDurations_nil (entered : Option ℤ) : countedDurations entered [] = [] := by
  cases entered <;> rfl

lemma countedDurations_recoveryEntry (entered : Option ℤ) (timestampUs : Int64)
    (calls : List RecordCall) :
    countedDurations entered (.recoveryEntry timestampUs :: calls) =
      countedDurations (some timestampUs.toInt) calls := by
  cases entered <;> rfl

lemma countedDurations_hardResearch (entered : Option ℤ) (calls : List RecordCall) :
    countedDurations entered (.hardResearch :: calls) = countedDurations none calls := by
  cases entered <;> rfl

/-- Calls that are not about recoveries do not count durations. -/
lemma countedDurations_other (entered : Option ℤ) {call : RecordCall}
    (h : call.touchesRecovery = false) (calls : List RecordCall) :
    countedDurations entered (call :: calls) = countedDurations entered calls := by
  cases call with
  | recoveryEntry timestampUs => cases h
  | recoverySuccess timestampUs => cases h
  | hardResearch => cases h
  | _ => cases entered <;> rfl

/-- The clock of the record shows when the recovery was entered. -/
def StartedAt (entered : Option ℤ) (diagnostics : FhssDiagnosticsSnapshot) : Prop :=
  diagnostics.recoveryStartedTimestampUs = entered.getD 0

/-- What is counted beyond a record does not depend on its other fields. -/
lemma DurationsExact.of_same {durations : List ℤ}
    {diagnostics diagnostics' reached : FhssDiagnosticsSnapshot}
    (h : DurationsExact durations diagnostics' reached)
    (hcount : diagnostics'.recoveryDurationSampleCount = diagnostics.recoveryDurationSampleCount)
    (hsum : diagnostics'.recoveryDurationSumUs = diagnostics.recoveryDurationSumUs)
    (hmax : diagnostics'.recoveryDurationMaxUs = diagnostics.recoveryDurationMaxUs) :
    DurationsExact durations diagnostics reached where
  count_eq := hcount ▸ h.count_eq
  sum_eq := hsum ▸ h.sum_eq
  max_le := hmax ▸ h.max_le
  bounds := h.bounds

/-- One more duration. -/
lemma DurationsExact.cons {durations : List ℤ}
    {diagnostics diagnostics' reached : FhssDiagnosticsSnapshot} {duration : ℤ}
    (h : DurationsExact durations diagnostics' reached) (hnonneg : 0 ≤ duration)
    (hcount : diagnostics'.recoveryDurationSampleCount.toNat =
      diagnostics.recoveryDurationSampleCount.toNat + 1)
    (hsum : diagnostics'.recoveryDurationSumUs = diagnostics.recoveryDurationSumUs + duration)
    (hmax : diagnostics'.recoveryDurationMaxUs =
      if diagnostics.recoveryDurationMaxUs < duration then duration
      else diagnostics.recoveryDurationMaxUs) :
    DurationsExact (duration :: durations) diagnostics reached := by
  have hle := h.max_le
  rw [hmax] at hle
  have hmax_le : diagnostics.recoveryDurationMaxUs ≤ reached.recoveryDurationMaxUs := by
    split_ifs at hle <;> omega
  have hduration : duration ≤ reached.recoveryDurationMaxUs := by
    split_ifs at hle <;> omega
  refine ⟨?_, ?_, hmax_le, List.forall_mem_cons.mpr ⟨⟨hnonneg, hduration⟩, h.bounds⟩⟩
  · rw [h.count_eq, hcount, List.length_cons]
    omega
  · rw [h.sum_eq, hsum, List.sum_cons]
    omega

/-- The success of a recovery: it ends without a duration, or its duration counts. -/
lemma recoverySuccess_cases {entered : Option ℤ} (hstarted : StartedAt entered diagnostics)
    (timestampUs : Int64) (calls : List RecordCall) :
    let after := diagnostics.recordExact (.recoverySuccess timestampUs)
    StartedAt none after ∧
      ((countedDurations entered (.recoverySuccess timestampUs :: calls) =
            countedDurations none calls ∧
          after.recoveryDurationSampleCount = diagnostics.recoveryDurationSampleCount ∧
          after.recoveryDurationSumUs = diagnostics.recoveryDurationSumUs ∧
          after.recoveryDurationMaxUs = diagnostics.recoveryDurationMaxUs) ∨
        ∃ duration, 0 ≤ duration ∧
          countedDurations entered (.recoverySuccess timestampUs :: calls) =
            duration :: countedDurations none calls ∧
          after.recoveryDurationSampleCount = diagnostics.recoveryDurationSampleCount + 1 ∧
          after.recoveryDurationSumUs = diagnostics.recoveryDurationSumUs + duration ∧
          after.recoveryDurationMaxUs =
            if diagnostics.recoveryDurationMaxUs < duration then duration
            else diagnostics.recoveryDurationMaxUs) := by
  intro after
  unfold StartedAt at hstarted ⊢
  by_cases huntimed : diagnostics.recoveryStartedTimestampUs ≤ 0 ∨
      timestampUs.toInt < diagnostics.recoveryStartedTimestampUs
  · have hafter : after = { diagnostics with
        recoverySuccessCount := diagnostics.recoverySuccessCount + 1
        recoveryStartedTimestampUs := 0 } := if_pos huntimed
    rw [hafter]
    refine ⟨rfl, .inl ⟨?_, rfl, rfl, rfl⟩⟩
    cases entered with
    | none => rfl
    | some startedUs =>
      rw [Option.getD_some] at hstarted
      exact if_neg (by omega)
  · have hafter : after = { diagnostics with
        recoverySuccessCount := diagnostics.recoverySuccessCount + 1
        recoveryDurationSumUs := diagnostics.recoveryDurationSumUs +
          (timestampUs.toInt - diagnostics.recoveryStartedTimestampUs)
        recoveryDurationSampleCount := diagnostics.recoveryDurationSampleCount + 1
        recoveryDurationMaxUs :=
          if diagnostics.recoveryDurationMaxUs <
            timestampUs.toInt - diagnostics.recoveryStartedTimestampUs then
              timestampUs.toInt - diagnostics.recoveryStartedTimestampUs
          else diagnostics.recoveryDurationMaxUs
        recoveryStartedTimestampUs := 0 } := if_neg huntimed
    rw [hafter]
    refine ⟨rfl, .inr ⟨_, by omega, ?_, rfl, rfl, rfl⟩⟩
    cases entered with
    | none =>
      rw [Option.getD_none] at hstarted
      omega
    | some startedUs =>
      rw [Option.getD_some] at hstarted
      rw [hstarted]
      exact if_pos (by omega)

/-- **Recoveries.**  The record counts the durations of the recoveries that are entered and
left. -/
lemma durationsExact_foldl (calls : List RecordCall) :
    ∀ {diagnostics : FhssDiagnosticsSnapshot} {entered : Option ℤ},
      StartedAt entered diagnostics →
      diagnostics.recoveryDurationSampleCount.toNat + calls.length < 2 ^ 32 →
      DurationsExact (countedDurations entered calls) diagnostics
        (calls.foldl recordExact diagnostics) := by
  induction calls with
  | nil =>
    intro diagnostics entered _ _
    rw [countedDurations_nil]
    exact ⟨rfl, (add_zero _).symm, le_rfl, fun duration h => absurd h List.not_mem_nil⟩
  | cons call calls ih =>
    intro diagnostics entered hstarted hbound
    rw [List.length_cons] at hbound
    have hbound' : diagnostics.recoveryDurationSampleCount.toNat + calls.length < 2 ^ 32 := by
      omega
    rw [List.foldl_cons]
    cases htouches : call.touchesRecovery with
    | false =>
      have hsame := @sameRecovery_recordExact diagnostics call htouches
      rw [countedDurations_other entered htouches]
      have hrest := @ih (diagnostics.recordExact call) entered
        (hsame.started_eq.trans hstarted) (by rw [hsame.samples_eq]; exact hbound')
      exact hrest.of_same hsame.samples_eq hsame.sum_eq hsame.max_eq
    | true =>
      cases call with
      | recoveryEntry timestampUs =>
        rw [countedDurations_recoveryEntry]
        have hrest := @ih (diagnostics.recordExact (.recoveryEntry timestampUs))
          (some timestampUs.toInt) rfl hbound'
        exact hrest.of_same rfl rfl rfl
      | hardResearch =>
        rw [countedDurations_hardResearch]
        have hrest := @ih (diagnostics.recordExact .hardResearch) none rfl hbound'
        exact hrest.of_same rfl rfl rfl
      | recoverySuccess timestampUs =>
        obtain ⟨hended, ⟨hcalls, hcount, hsum, hmax⟩ | ⟨duration, hnonneg, hcalls, hcount, hsum,
          hmax⟩⟩ := recoverySuccess_cases hstarted timestampUs calls
        · rw [hcalls]
          exact (ih hended (by rw [hcount]; exact hbound')).of_same hcount hsum hmax
        · have hsucc : (diagnostics.recordExact
              (.recoverySuccess timestampUs)).recoveryDurationSampleCount.toNat =
                diagnostics.recoveryDurationSampleCount.toNat + 1 := by
            rw [hcount, UInt32.toNat_add, UInt32.toNat_one]
            exact Nat.mod_eq_of_lt (by omega)
          rw [hcalls]
          exact (ih hended (by rw [hsucc]; omega)).cons hnonneg hsucc hsum hmax
      | _ => cases htouches

/-- A success counts a duration at most, and only in a recovery that was entered. -/
lemma length_countedDurations_recoverySuccess (entered : Option ℤ) (timestampUs : Int64)
    (calls : List RecordCall) :
    (countedDurations entered (.recoverySuccess timestampUs :: calls)).length ≤
      (countedDurations none calls).length + if entered.isSome = true then 1 else 0 := by
  cases entered with
  | none => exact le_rfl
  | some startedUs =>
    have hsome : countedDurations (some startedUs) (.recoverySuccess timestampUs :: calls) =
        if 0 < startedUs ∧ startedUs ≤ timestampUs.toInt then
          (timestampUs.toInt - startedUs) :: countedDurations none calls
        else countedDurations none calls := rfl
    rw [hsome, if_pos (show (some startedUs).isSome = true from rfl)]
    split_ifs
    · rw [List.length_cons]
    · exact Nat.le_succ _

/-- Every duration that counts has a success of its own, and an entry. -/
lemma length_countedDurations_le (calls : List RecordCall) : ∀ entered : Option ℤ,
    (countedDurations entered calls).length ≤ calls.countP RecordCall.isRecoverySuccess ∧
      (countedDurations entered calls).length ≤
        calls.countP RecordCall.isRecoveryEntry + if entered.isSome = true then 1 else 0 := by
  induction calls with
  | nil =>
    intro entered
    rw [countedDurations_nil]
    exact ⟨Nat.zero_le _, Nat.zero_le _⟩
  | cons call calls ih =>
    intro entered
    obtain ⟨hsuccess, hentry⟩ := ih entered
    obtain ⟨hsuccess', hentry'⟩ := ih none
    rw [if_neg (by simp)] at hentry'
    rw [List.countP_cons, List.countP_cons]
    cases htouches : call.touchesRecovery with
    | false =>
      rw [countedDurations_other entered htouches]
      omega
    | true =>
      cases call with
      | recoveryEntry timestampUs =>
        obtain ⟨hsuccess'', hentry''⟩ := ih (some timestampUs.toInt)
        rw [countedDurations_recoveryEntry]
        simp only [RecordCall.isRecoveryEntry, if_true, Option.isSome_some] at *
        omega
      | hardResearch =>
        rw [countedDurations_hardResearch]
        omega
      | recoverySuccess timestampUs =>
        have hle := length_countedDurations_recoverySuccess entered timestampUs calls
        rw [if_pos (show RecordCall.isRecoverySuccess (.recoverySuccess timestampUs) = true from
          rfl)]
        split_ifs at hle ⊢ <;> omega
      | _ => cases htouches

/-- Leaving a recovery counts as a success, and not as an entry. -/
lemma recoverySuccess_counts (timestampUs : Int64) :
    let after := diagnostics.recordExact (.recoverySuccess timestampUs)
    after.recoveryEntryCount = diagnostics.recoveryEntryCount ∧
      after.recoverySuccessCount = diagnostics.recoverySuccessCount + 1 := by
  intro after
  have hafter : after = fhssDiagnosticsRecordRecoverySuccess diagnostics timestampUs.toInt := rfl
  rw [hafter]
  unfold fhssDiagnosticsRecordRecoverySuccess
  dsimp only
  split_ifs <;> exact ⟨rfl, rfl⟩

/-- Entries and successes are counted, each by its own counter. -/
lemma recoveryCounts_recordExact (call : RecordCall) :
    ((diagnostics.recordExact call).recoveryEntryCount =
        if call.isRecoveryEntry = true then diagnostics.recoveryEntryCount + 1
        else diagnostics.recoveryEntryCount) ∧
      (diagnostics.recordExact call).recoverySuccessCount =
        if call.isRecoverySuccess = true then diagnostics.recoverySuccessCount + 1
        else diagnostics.recoverySuccessCount := by
  cases htouches : call.touchesRecovery with
  | false =>
    have hsame := @sameRecovery_recordExact diagnostics call htouches
    rw [hsame.entries_eq, hsame.successes_eq]
    cases call with
    | recoveryEntry timestampUs => cases htouches
    | recoverySuccess timestampUs => cases htouches
    | _ => exact ⟨rfl, rfl⟩
  | true =>
    cases call with
    | recoveryEntry timestampUs => exact ⟨rfl, rfl⟩
    | hardResearch => exact ⟨rfl, rfl⟩
    | recoverySuccess timestampUs => exact recoverySuccess_counts timestampUs
    | _ => cases htouches

end Counters

/-! ## Consistency -/

/-- The record that `fhss_diagnostics_init` leaves is empty. -/
lemma fhssDiagnosticsSnapshotInit_eq {channels : List UInt8}
    {diagnostics : FhssDiagnosticsSnapshot}
    (h : fhssDiagnosticsSnapshotInit channels = some diagnostics) :
    diagnostics = ⟨⟨channels.map (⟨·, 0, 0, 0⟩), 0, 0, 0, 0, 0, 0, 0, 0, 0, 0, 0⟩,
      0, 0, 0, 0, 0, 0, 0, 0, 0, 0⟩ := by
  unfold fhssDiagnosticsSnapshotInit fhssDiagnosticsInit at h
  split_ifs at h
  · cases h
  · exact (Option.some.inj h).symm

/-- **The diagnostics agree.**  Fewer than `2 ^ 32` calls without overflow, made from a record
that was initialized, leave a record whose parts agree with the calls and with each other. -/
theorem fhssDiagnostics_consistent {channels : List UInt8}
    {diagnostics reached : FhssDiagnosticsSnapshot} {calls : List RecordCall}
    (hinit : fhssDiagnosticsSnapshotInit channels = some diagnostics)
    (hlength : calls.length < 2 ^ 32)
    (hrun : calls.foldlM FhssDiagnosticsSnapshot.record diagnostics = .ok reached) :
    DiagnosticsConsistent channels calls reached := by
  have hempty := fhssDiagnosticsSnapshotInit_eq hinit
  have htotalZero : ∀ counter, diagnostics.total counter = 0 := by
    rw [hempty]
    intro counter
    cases counter <;> rfl
  have hlistedZero : ∀ counter, listedSum diagnostics counter = 0 := by
    rw [hempty]
    intro counter
    unfold listedSum
    rw [List.map_map]
    refine List.sum_eq_zero fun count hcount => ?_
    obtain ⟨channel, -, rfl⟩ := List.mem_map.mp hcount
    cases counter <;> rfl
  have hchannels : diagnostics.channels.map (·.channel) = channels := by
    rw [hempty, List.map_map]
    exact List.map_id channels
  have htotal : ∀ counter, (reached.total counter).toNat =
      calls.countP (RecordCall.counts counter) := by
    intro counter
    rw [← foldlM_record_eq calls hrun]
    exact toNat_counter_foldl (fun diagnostics => diagnostics.total counter)
      (fun diagnostics call => total_recordExact counter call) (htotalZero counter) hlength
  have hentries : reached.recoveryEntryCount.toNat = calls.countP RecordCall.isRecoveryEntry := by
    rw [← foldlM_record_eq calls hrun]
    exact toNat_counter_foldl (fun diagnostics => diagnostics.recoveryEntryCount)
      (fun diagnostics call => (recoveryCounts_recordExact call).1) (by rw [hempty]) hlength
  have hsuccesses : reached.recoverySuccessCount.toNat =
      calls.countP RecordCall.isRecoverySuccess := by
    rw [← foldlM_record_eq calls hrun]
    exact toNat_counter_foldl (fun diagnostics => diagnostics.recoverySuccessCount)
      (fun diagnostics call => (recoveryCounts_recordExact call).2) (by rw [hempty]) hlength
  obtain ⟨hsamples, htiming⟩ := @timingExact_foldl diagnostics (by rw [hempty])
    (by rw [hempty]) calls hlength
  have hdurations := @durationsExact_foldl calls diagnostics none (by rw [hempty]; rfl)
    (by rw [hempty]; simpa using hlength)
  rw [foldlM_record_eq calls hrun] at hsamples htiming hdurations
  obtain ⟨hcount, hsum, -, hbounds⟩ := hdurations
  obtain ⟨hsuccess, hentry⟩ := length_countedDurations_le calls none
  rw [if_neg (by simp), Nat.add_zero] at hentry
  have hzeroCount : diagnostics.recoveryDurationSampleCount.toNat = 0 := by rw [hempty]; rfl
  have hzeroSum : diagnostics.recoveryDurationSumUs = 0 := by rw [hempty]
  rw [hzeroCount, Nat.zero_add] at hcount
  rw [hzeroSum, zero_add] at hsum
  have hvalid : (timingErrors calls).length = calls.countP (RecordCall.counts .valid) := by
    unfold timingErrors
    rw [List.length_filterMap_eq_countP]
    congr 1
    funext call
    cases call <;> rfl
  refine ⟨?_, timingRange_of_exact htiming hsamples, fun counter => ?_, hbounds, hcount, hsum, ?_⟩
  · rw [← UInt32.toNat_inj, hsamples, hvalid]
    exact (htotal .valid).symm
  · rw [htotal counter]
    have hlisted := (listedSum_foldl hchannels counter (hlistedZero counter) hlength).2
    rw [foldlM_record_eq calls hrun] at hlisted
    exact hlisted.symm
  · rw [hcount, hsuccesses, hentries]
    exact le_min hsuccess hentry

/-- Packets and failures on the channels 3 and 7 and on one that is not listed, and a recovery. -/
def sampleCalls : List RecordCall :=
  [.valid 3 (-40) 1000000, .correction (-5), .timeout 7, .crcFail 9, .miss 2,
    .recoveryEntry 1900000, .valid 7 120 2600000, .recoverySuccess 2600000, .valid 9 15 2900000]

theorem fhssDiagnostics_consistent_recovery :
    ∃ diagnostics reached, fhssDiagnosticsSnapshotInit [3, 7] = some diagnostics ∧
      sampleCalls.foldlM FhssDiagnosticsSnapshot.record diagnostics = .ok reached ∧
      DiagnosticsConsistent [3, 7] sampleCalls reached := by
  have hinit : fhssDiagnosticsSnapshotInit [3, 7] =
      some ⟨⟨[⟨3, 0, 0, 0⟩, ⟨7, 0, 0, 0⟩], 0, 0, 0, 0, 0, 0, 0, 0, 0, 0, 0⟩,
        0, 0, 0, 0, 0, 0, 0, 0, 0, 0⟩ := by decide +kernel
  have hrun : sampleCalls.foldlM FhssDiagnosticsSnapshot.record
      ⟨⟨[⟨3, 0, 0, 0⟩, ⟨7, 0, 0, 0⟩], 0, 0, 0, 0, 0, 0, 0, 0, 0, 0, 0⟩,
        0, 0, 0, 0, 0, 0, 0, 0, 0, 0⟩ =
      .ok ⟨⟨[⟨3, 1, 0, 0⟩, ⟨7, 1, 0, 1⟩], 3, 1, 1, 3, -40, 120, 95, 2900000, 1, 5, 5⟩,
        0, 0, 1, 1, 0, 2, 1, 700000, 700000, 0⟩ := by decide +kernel
  exact ⟨_, _, hinit, hrun, fhssDiagnostics_consistent hinit (by decide) hrun⟩

end FhssOtaRadio
