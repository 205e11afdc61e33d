import FhssOtaRadio.FhssCore.SyncState
import FhssOtaRadio.Library.Hysteresis
import Mathlib.Data.List.Count

/-!
# The lock hysteresis is exact (`fhss_sync_state.c`)

The tracker is a hysteresis with two limits: `acquire_count` valid packets in a row while it
searches, `loss_count` misses in a row while it is locked (`trackerStep_level`).  What it has
counted is therefore determined by the calls since the start, `LOST` and `ACQUIRED` among them, and
no progress leaks from one state into the other.
-/

namespace FhssOtaRadio

open Machine Hysteresis

/-- The two calls of the tracker. -/
inductive TrackerCall where
  | valid
  | miss
  deriving DecidableEq, Repr

/-- One entry of a history: the call and what it answered. -/
abbrev TrackerEntry := TrackerCall × Except FhssSyncStatus FhssSyncEvent

/-- One call of the tracker. -/
def trackerStep (tracker : FhssSyncStateTracker) (call : TrackerCall) :
    FhssSyncStateTracker × TrackerEntry :=
  let answer :=
    match call with
    | .valid => fhssSyncStateOnValid tracker
    | .miss => fhssSyncStateOnMiss tracker
  match answer with
  | .error status => (tracker, (call, .error status))
  | .ok (tracker, event) => (tracker, (call, .ok event))

/-- `ACQUIRED` or `LOST`, when the entry reports it. -/
def lockEvent (entry : TrackerEntry) : Option FhssSyncEvent :=
  match entry.2 with
  | .ok .acquired => some .acquired
  | .ok .lost => some .lost
  | _ => none

/-- The lock events of a history, oldest first. -/
def lockEvents (history : List TrackerEntry) : List FhssSyncEvent :=
  history.filterMap lockEvent

/-- How many valid packets in a row a history ends in, since the start or the last `LOST`. -/
def validsInARow (history : List TrackerEntry) : ℕ :=
  (history.rtakeWhile fun entry => entry.1 == .valid && entry.2 != .ok .lost).length

/-- How many misses in a row a history ends in, since the last `ACQUIRED` or valid packet. -/
def missesInARow (history : List TrackerEntry) : ℕ :=
  (history.rtakeWhile fun entry => entry.1 == .miss && entry.2 != .ok .acquired).length

/-- `ACQUIRED` and `LOST` in turn, `ACQUIRED` first. -/
def acquiredAndLost (n : ℕ) : List FhssSyncEvent :=
  (List.range n).map fun i => if i % 2 == 0 then .acquired else .lost

/-- A tracker against the history that led to it: what has been reported, what the next call
reports, and what the counters can hold. -/
structure LockTraceExact (config : FhssSyncStateConfig) (history : List TrackerEntry)
    (tracker : FhssSyncStateTracker) : Prop where
  answered : ∀ entry ∈ history, ∃ event, entry.2 = .ok event
  alternates : lockEvents history = acquiredAndLost (lockEvents history).length
  locked_iff : tracker.state = .locked ↔
    (lockEvents history).count .lost < (lockEvents history).count .acquired
  acquired_iff : ∀ call, (trackerStep tracker call).2.2 = .ok .acquired ↔
    call = .valid ∧ tracker.state = .searching ∧
      validsInARow history + 1 = config.acquireCount.toNat
  lost_iff : ∀ call, (trackerStep tracker call).2.2 = .ok .lost ↔
    call = .miss ∧ tracker.state = .locked ∧ missesInARow history + 1 = config.lossCount.toNat
  valid_lt : tracker.consecutiveValid < config.acquireCount
  misses_lt : tracker.consecutiveMisses < config.lossCount

/-! ## The tracker as a hysteresis -/

/-- The limits of a tracker: the valid packets it takes to lock, the misses it takes to unlock. -/
def FhssSyncStateConfig.limit (config : FhssSyncStateConfig) (locked : Bool) : ℕ :=
  if locked then config.lossCount.toNat else config.acquireCount.toNat

/-- The level of a tracker: whether it is locked, and what it counts. -/
def FhssSyncStateTracker.level (tracker : FhssSyncStateTracker) : Level :=
  match tracker.state with
  | .searching => ⟨false, tracker.consecutiveValid.toNat⟩
  | .locked => ⟨true, tracker.consecutiveMisses.toNat⟩

/-- A valid packet as a sample. -/
def TrackerCall.sample (call : TrackerCall) : Bool := call == .valid

/-- What an answer changes the lock to. -/
def lockChange (answer : Except FhssSyncStatus FhssSyncEvent) : Option Bool :=
  match answer with
  | .ok .acquired => some true
  | .ok .lost => some false
  | _ => none

/-- An entry of the tracker as one of the hysteresis. -/
def levelEntry (entry : TrackerEntry) : Bool × Option Bool :=
  (entry.1.sample, lockChange entry.2)

section Ready

variable {tracker : FhssSyncStateTracker}

/-- A valid packet keeps a locked tracker locked. -/
lemma trackerStep_valid_locked (hinit : tracker.initialized = true)
    (hstate : tracker.state = .locked) :
    trackerStep tracker .valid =
      ({ tracker with consecutiveMisses := 0 }, (.valid, .ok .none)) := by
  simp only [trackerStep, fhssSyncStateOnValid, hinit, hstate, Bool.true_eq_false, if_false]

/-- A valid packet of a searching tracker counts; the one that completes the count locks. -/
lemma trackerStep_valid_searching (hinit : tracker.initialized = true)
    (hstate : tracker.state = .searching) :
    trackerStep tracker .valid =
      if tracker.config.acquireCount ≤ tracker.consecutiveValid + 1 then
        ({ tracker with consecutiveMisses := 0, consecutiveValid := 0, state := .locked },
          (.valid, .ok .acquired))
      else
        ({ tracker with
            consecutiveMisses := 0, consecutiveValid := tracker.consecutiveValid + 1 },
          (.valid, .ok .none)) := by
  simp only [trackerStep, fhssSyncStateOnValid, hinit, hstate, Bool.true_eq_false, if_false]
  split_ifs <;> rfl

/-- A miss keeps a searching tracker searching. -/
lemma trackerStep_miss_searching (hinit : tracker.initialized = true)
    (hstate : tracker.state = .searching) :
    trackerStep tracker .miss =
      ({ tracker with consecutiveValid := 0 }, (.miss, .ok .none)) := by
  simp only [trackerStep, fhssSyncStateOnMiss, hinit, hstate, Bool.true_eq_false, if_false]

/-- A miss of a locked tracker counts; the one that completes the count unlocks. -/
lemma trackerStep_miss_locked (hinit : tracker.initialized = true)
    (hstate : tracker.state = .locked) :
    trackerStep tracker .miss =
      if tracker.config.lossCount ≤ tracker.consecutiveMisses + 1 then
        ({ tracker with consecutiveValid := 0, consecutiveMisses := 0, state := .searching },
          (.miss, .ok .lost))
      else
        ({ tracker with
            consecutiveValid := 0, consecutiveMisses := tracker.consecutiveMisses + 1 },
          (.miss, .ok .none)) := by
  simp only [trackerStep, fhssSyncStateOnMiss, hinit, hstate, Bool.true_eq_false, if_false]
  split_ifs <;> rfl

lemma level_searching (hstate : tracker.state = .searching) :
    tracker.level = ⟨false, tracker.consecutiveValid.toNat⟩ := by
  simp only [FhssSyncStateTracker.level, hstate]

lemma level_locked (hstate : tracker.state = .locked) :
    tracker.level = ⟨true, tracker.consecutiveMisses.toNat⟩ := by
  simp only [FhssSyncStateTracker.level, hstate]

/-- One call of a ready tracker is one step of the hysteresis. -/
lemma trackerStep_level (h : TrackerReady tracker) (call : TrackerCall) :
    TrackerReady (trackerStep tracker call).1 ∧
      (trackerStep tracker call).1.config = tracker.config ∧
      (∃ event, (trackerStep tracker call).2 = (call, .ok event)) ∧
      (trackerStep tracker call).1.level =
        (step tracker.config.limit tracker.level call.sample).1 ∧
      levelEntry (trackerStep tracker call).2 =
        (step tracker.config.limit tracker.level call.sample).2 := by
  obtain ⟨hinit, hvalid, hmisses⟩ := h
  have hacquire : (0 : UInt32).toNat < tracker.config.acquireCount.toNat :=
    (Nat.zero_le _).trans_lt hvalid
  have hloss : (0 : UInt32).toNat < tracker.config.lossCount.toNat :=
    (Nat.zero_le _).trans_lt hmisses
  cases call with
  | valid =>
    cases hstate : tracker.state with
    | locked =>
      rw [trackerStep_valid_locked hinit hstate, level_locked hstate]
      exact ⟨⟨hinit, hvalid, hloss⟩, rfl, ⟨_, rfl⟩, level_locked hstate, rfl⟩
    | searching =>
      rw [trackerStep_valid_searching hinit hstate, level_searching hstate]
      have hlimit : step tracker.config.limit ⟨false, tracker.consecutiveValid.toNat⟩
          TrackerCall.valid.sample =
          if tracker.config.acquireCount.toNat ≤ tracker.consecutiveValid.toNat + 1 then
            (⟨true, 0⟩, (true, some true))
          else (⟨false, tracker.consecutiveValid.toNat + 1⟩, (true, none)) := rfl
      rw [hlimit, ← toNat_count_succ hvalid]
      by_cases hle : tracker.config.acquireCount ≤ tracker.consecutiveValid + 1
      · rw [if_pos hle, if_pos (UInt32.le_iff_toNat_le.mp hle)]
        exact ⟨⟨hinit, hacquire, hloss⟩, rfl, ⟨_, rfl⟩, rfl, rfl⟩
      · rw [if_neg hle]
        rw [UInt32.le_iff_toNat_le] at hle
        rw [if_neg hle]
        rw [not_le] at hle
        exact ⟨⟨hinit, hle, hloss⟩, rfl, ⟨_, rfl⟩, level_searching hstate, rfl⟩
  | miss =>
    cases hstate : tracker.state with
    | searching =>
      rw [trackerStep_miss_searching hinit hstate, level_searching hstate]
      exact ⟨⟨hinit, hacquire, hmisses⟩, rfl, ⟨_, rfl⟩, level_searching hstate, rfl⟩
    | locked =>
      rw [trackerStep_miss_locked hinit hstate, level_locked hstate]
      have hlimit : step tracker.config.limit ⟨true, tracker.consecutiveMisses.toNat⟩
          TrackerCall.miss.sample =
          if tracker.config.lossCount.toNat ≤ tracker.consecutiveMisses.toNat + 1 then
            (⟨false, 0⟩, (false, some false))
          else (⟨true, tracker.consecutiveMisses.toNat + 1⟩, (false, none)) := rfl
      rw [hlimit, ← toNat_count_succ hmisses]
      by_cases hle : tracker.config.lossCount ≤ tracker.consecutiveMisses + 1
      · rw [if_pos hle, if_pos (UInt32.le_iff_toNat_le.mp hle)]
        exact ⟨⟨hinit, hacquire, hloss⟩, rfl, ⟨_, rfl⟩, rfl, rfl⟩
      · rw [if_neg hle]
        rw [UInt32.le_iff_toNat_le] at hle
        rw [if_neg hle]
        rw [not_le] at hle
        exact ⟨⟨hinit, hacquire, hle⟩, rfl, ⟨_, rfl⟩, level_locked hstate, rfl⟩

/-- Any calls of a fresh tracker are a run of the hysteresis. -/
lemma trackerStep_run {config : FhssSyncStateConfig}
    (hinit : fhssSyncStateInit config = .ok tracker)
    (calls : List TrackerCall) :
    TrackerReady (finalState trackerStep tracker calls) ∧
      (finalState trackerStep tracker calls).config = config ∧
      (∀ entry ∈ outputs trackerStep tracker calls, ∃ event, entry.2 = .ok event) ∧
      Describes config.limit ((outputs trackerStep tracker calls).map levelEntry)
        (finalState trackerStep tracker calls).level := by
  obtain ⟨hready, hstate, hconfig⟩ := trackerReady_init hinit
  have hpos : ∀ locked, 0 < config.limit locked := by
    have hvalid := (Nat.zero_le _).trans_lt hready.valid_lt
    have hmisses := (Nat.zero_le _).trans_lt hready.misses_lt
    rw [hconfig] at hvalid hmisses
    rintro (_ | _)
    · exact hvalid
    · exact hmisses
  refine invariant_history trackerStep
    (fun _ history tracker => TrackerReady tracker ∧ tracker.config = config ∧
      (∀ entry ∈ history, ∃ event, entry.2 = .ok event) ∧
      Describes config.limit (history.map levelEntry) tracker.level) ?_ ?_ calls
  · rintro _ history tracker call ⟨hready, rfl, hanswered, hdescribes⟩
    obtain ⟨hready', hconfig', ⟨event, hentry⟩, hlevel, hlevelEntry⟩ :=
      trackerStep_level hready call
    refine ⟨hready', hconfig', ?_, ?_⟩
    · intro entry hmem
      rcases List.mem_append.mp hmem with hmem | hmem
      · exact hanswered entry hmem
      · rw [List.mem_singleton.mp hmem, hentry]
        exact ⟨event, rfl⟩
    · rw [List.map_append, List.map_singleton, hlevel, hlevelEntry]
      exact describes_step hpos hdescribes call.sample
  · have hlevel : tracker.level = ⟨false, 0⟩ := by
      unfold fhssSyncStateInit at hinit
      split_ifs at hinit
      rw [← Except.ok.inj hinit]
      rfl
    refine ⟨hready, hconfig, nofun, ?_⟩
    rw [hlevel]
    exact ⟨hpos _, rfl, rfl, rfl, rfl⟩

/-! ## Histories of the tracker as histories of the hysteresis -/

/-- What a change of the lock is reported as. -/
def lockReport (locked : Bool) : FhssSyncEvent := if locked then .acquired else .lost

lemma lockReport_injective : Function.Injective lockReport := by
  rintro (_ | _) (_ | _) h
  · rfl
  · cases h
  · cases h
  · rfl

/-- The lock events are the changes. -/
lemma lockEvents_eq (history : List TrackerEntry) :
    lockEvents history = (changes (history.map levelEntry)).map lockReport := by
  unfold lockEvents changes
  rw [List.filterMap_map, List.map_filterMap]
  congr 1
  funext entry
  rcases entry with ⟨call, status | event⟩
  · rfl
  · cases event <;> rfl

/-- Calls in a row are samples in a row. -/
lemma length_rtakeWhile_levelEntry {p : TrackerEntry → Bool} {q : Bool × Option Bool → Bool}
    (hpq : ∀ entry, p entry = q (levelEntry entry)) (history : List TrackerEntry) :
    (history.rtakeWhile p).length = ((history.map levelEntry).rtakeWhile q).length := by
  unfold List.rtakeWhile
  rw [← List.map_reverse, List.takeWhile_map, ← List.map_reverse, List.length_map]
  exact congrArg (fun r => ((history.reverse.takeWhile r).reverse).length) (funext hpq)

/-- The valid packets in a row are the samples that disagree with a lock that is open. -/
lemma validsInARow_eq (history : List TrackerEntry) :
    validsInARow history = disagreeing false (history.map levelEntry) := by
  refine length_rtakeWhile_levelEntry (fun entry => ?_) history
  rcases entry with ⟨call, status | event⟩
  · cases call <;> rfl
  · cases call <;> cases event <;> rfl

/-- The misses in a row are the samples that disagree with a lock that is closed. -/
lemma missesInARow_eq (history : List TrackerEntry) :
    missesInARow history = disagreeing true (history.map levelEntry) := by
  refine length_rtakeWhile_levelEntry (fun entry => ?_) history
  rcases entry with ⟨call, status | event⟩
  · cases call <;> rfl
  · cases call <;> cases event <;> rfl

/-- A report of the tracker is a change of the lock. -/
lemma lockChange_eq_some_iff (answer : Except FhssSyncStatus FhssSyncEvent) (locked : Bool) :
    lockChange answer = some locked ↔ answer = .ok (lockReport locked) := by
  rcases answer with status | event
  · simp [lockChange]
  · cases event <;> cases locked <;> simp [lockChange, lockReport]

/-- A tracker is locked as its level says. -/
lemma output_level (tracker : FhssSyncStateTracker) :
    tracker.level.output = (tracker.state == .locked) := by
  unfold FhssSyncStateTracker.level
  cases tracker.state <;> rfl

end Ready

/-- **The lock hysteresis is exact** after every finite sequence of calls, and for the call that
comes next. -/
theorem lockTraceExact_run {config : FhssSyncStateConfig} {tracker : FhssSyncStateTracker}
    (hinit : fhssSyncStateInit config = .ok tracker) (calls : List TrackerCall) :
    LockTraceExact config (outputs trackerStep tracker calls)
      (finalState trackerStep tracker calls) := by
  obtain ⟨hready, hconfig, hanswered, hdescribes⟩ := trackerStep_run hinit calls
  generalize outputs trackerStep tracker calls = history at hanswered hdescribes ⊢
  generalize finalState trackerStep tracker calls = current at hready hconfig hdescribes ⊢
  have houtput := output_level current
  have hreport : ∀ call locked, (trackerStep current call).2.2 = .ok (lockReport locked) ↔
      call.sample = locked ∧ current.level.output = !locked ∧
        disagreeing (!locked) (history.map levelEntry) + 1 = config.limit (!locked) := by
    intro call locked
    obtain ⟨-, -, -, -, hentry⟩ := trackerStep_level hready call
    rw [← lockChange_eq_some_iff, ← change_iff hdescribes call.sample locked, ← hconfig, ← hentry]
    rfl
  refine ⟨hanswered, ?_, ?_, ?_, ?_, ?_, ?_⟩
  · rw [lockEvents_eq, List.length_map]
    conv_lhs => rw [hdescribes.alternates]
    unfold alternating acquiredAndLost
    rw [List.map_map]
    congr 1
  · have hcount : ∀ locked, (lockEvents history).count (lockReport locked) =
        (changes (history.map levelEntry)).count locked := by
      intro locked
      rw [lockEvents_eq]
      exact List.count_map_of_injective _ _ lockReport_injective _
    have hbalance := hdescribes.balance
    rw [← hcount, ← hcount, houtput] at hbalance
    change (lockEvents history).count .acquired = (lockEvents history).count .lost + _ at hbalance
    cases hstate : current.state with
    | searching =>
      rw [hstate] at hbalance
      change _ = _ + 0 at hbalance
      simp only [reduceCtorEq, false_iff]
      omega
    | locked =>
      rw [hstate] at hbalance
      change _ = _ + 1 at hbalance
      simp only [true_iff]
      omega
  · intro call
    rw [validsInARow_eq]
    refine (hreport call true).trans ?_
    rw [houtput]
    cases call <;> cases current.state <;> simp [TrackerCall.sample, FhssSyncStateConfig.limit]
  · intro call
    rw [missesInARow_eq]
    refine (hreport call false).trans ?_
    rw [houtput]
    cases call <;> cases current.state <;> simp [TrackerCall.sample, FhssSyncStateConfig.limit]
  · rw [UInt32.lt_iff_toNat_lt, ← hconfig]
    exact hready.valid_lt
  · rw [UInt32.lt_iff_toNat_lt, ← hconfig]
    exact hready.misses_lt

/-- Three valid packets in a row lock the tracker of the voice service, five misses in a row unlock
it. -/
theorem lockTraceExact_three_five :
    let calls : List TrackerCall :=
      [.valid, .valid, .miss, .valid, .valid, .valid] ++ List.replicate 5 .miss
    let tracker : FhssSyncStateTracker := ⟨.searching, 0, 0, ⟨3, 5⟩, true⟩
    LockTraceExact ⟨3, 5⟩ (outputs trackerStep tracker calls)
        (finalState trackerStep tracker calls) ∧
      lockEvents (outputs trackerStep tracker calls) = [.acquired, .lost] :=
  ⟨lockTraceExact_run (by decide) _, by decide⟩

end FhssOtaRadio
