import Mathlib.Data.Int.Basic
import Mathlib.Tactic.Common

/-!
# The sync tracker and the timing window (`fhss_sync_state.c`, `fhss_timing_window.c`)

The tracker counts consecutive valid and missed SYNC packets: `acquireCount` valid ones in a row
lock it, `lossCount` misses in a row unlock it.  The timing window says whether a packet came
close enough to the time it was expected.
-/

namespace FhssOtaRadio

/-- `fhss_sync_status_t` without `OK`. -/
inductive FhssSyncStatus where
  | invalidArg
  | invalidConfig
  | notInitialized
  deriving DecidableEq, Repr

/-- `fhss_sync_state_t`. -/
inductive FhssSyncState where
  | searching
  | locked
  deriving DecidableEq, Repr

/-- `fhss_sync_event_t`. -/
inductive FhssSyncEvent where
  | none
  | acquired
  | lost
  deriving DecidableEq, Repr

/-- `fhss_sync_state_config_t`. -/
structure FhssSyncStateConfig where
  acquireCount : UInt32
  lossCount : UInt32
  deriving DecidableEq

/-- `fhss_sync_state_tracker_t`. -/
structure FhssSyncStateTracker where
  state : FhssSyncState
  consecutiveValid : UInt32
  consecutiveMisses : UInt32
  config : FhssSyncStateConfig
  initialized : Bool
  deriving DecidableEq

/-- A tracker of zero bytes. -/
def FhssSyncStateTracker.zero : FhssSyncStateTracker := ⟨.searching, 0, 0, ⟨0, 0⟩, false⟩

/-- `fhss_sync_state_init`. -/
def fhssSyncStateInit (config : FhssSyncStateConfig) :
    Except FhssSyncStatus FhssSyncStateTracker :=
  if config.acquireCount = 0 ∨ config.lossCount = 0 then .error .invalidConfig
  else .ok ⟨.searching, 0, 0, config, true⟩

/-- `fhss_sync_state_on_valid`: the tracker afterwards and `*out_event`. -/
def fhssSyncStateOnValid (tracker : FhssSyncStateTracker) :
    Except FhssSyncStatus (FhssSyncStateTracker × FhssSyncEvent) :=
  if tracker.initialized = false then .error .notInitialized
  else
    let tracker := { tracker with consecutiveMisses := 0 }
    match tracker.state with
    | .locked => .ok (tracker, .none)
    | .searching =>
        let tracker := { tracker with consecutiveValid := tracker.consecutiveValid + 1 }
        if tracker.config.acquireCount ≤ tracker.consecutiveValid then
          .ok ({ tracker with state := .locked, consecutiveValid := 0 }, .acquired)
        else .ok (tracker, .none)

/-- `fhss_sync_state_on_miss`: the tracker afterwards and `*out_event`. -/
def fhssSyncStateOnMiss (tracker : FhssSyncStateTracker) :
    Except FhssSyncStatus (FhssSyncStateTracker × FhssSyncEvent) :=
  if tracker.initialized = false then .error .notInitialized
  else
    let tracker := { tracker with consecutiveValid := 0 }
    match tracker.state with
    | .searching => .ok (tracker, .none)
    | .locked =>
        let tracker := { tracker with consecutiveMisses := tracker.consecutiveMisses + 1 }
        if tracker.config.lossCount ≤ tracker.consecutiveMisses then
          .ok ({ tracker with state := .searching, consecutiveMisses := 0 }, .lost)
        else .ok (tracker, .none)

/-- `fhss_sync_state_get`. -/
def fhssSyncStateGet (tracker : FhssSyncStateTracker) : Except FhssSyncStatus FhssSyncState :=
  if tracker.initialized = false then .error .notInitialized else .ok tracker.state

/-! ## What the tracker reports -/

/-- A tracker that can answer: initialized, with both counts below their limits. -/
structure TrackerReady (tracker : FhssSyncStateTracker) : Prop where
  initialized : tracker.initialized = true
  valid_lt : tracker.consecutiveValid.toNat < tracker.config.acquireCount.toNat
  misses_lt : tracker.consecutiveMisses.toNat < tracker.config.lossCount.toNat

/-- The number of valid packets in a row that a tracker still needs to be locked. -/
def FhssSyncStateTracker.validsToLock (tracker : FhssSyncStateTracker) : ℕ :=
  match tracker.state with
  | .locked => 0
  | .searching => tracker.config.acquireCount.toNat - tracker.consecutiveValid.toNat

/-- An event reports a change of state: it names the change, and no event means no change. -/
def EventReports (event : FhssSyncEvent) (before after : FhssSyncState) : Prop :=
  match event with
  | .none => after = before
  | .acquired => before = .searching ∧ after = .locked
  | .lost => before = .locked ∧ after = .searching

section Ready

variable {tracker : FhssSyncStateTracker}

/-- A tracker that was built is ready, and searching. -/
lemma trackerReady_init {config : FhssSyncStateConfig}
    (h : fhssSyncStateInit config = .ok tracker) :
    TrackerReady tracker ∧ tracker.state = .searching ∧ tracker.config = config := by
  unfold fhssSyncStateInit at h
  split_ifs at h with hzero
  obtain rfl := Except.ok.inj h
  have hpos : ∀ count : UInt32, count ≠ 0 → 0 < count.toNat := fun count hcount =>
    Nat.pos_of_ne_zero fun h0 => hcount (UInt32.toNat_inj.mp h0)
  rw [not_or] at hzero
  exact ⟨⟨rfl, hpos _ hzero.1, hpos _ hzero.2⟩, rfl, rfl⟩

/-- A ready tracker is locked when it needs no further valid packet. -/
lemma locked_iff_validsToLock (h : TrackerReady tracker) :
    tracker.state = .locked ↔ tracker.validsToLock = 0 := by
  have := h.valid_lt
  unfold FhssSyncStateTracker.validsToLock
  cases tracker.state with
  | locked => simp
  | searching =>
    simp only [reduceCtorEq, false_iff]
    omega

/-- A counter below a limit does not wrap. -/
lemma toNat_count_succ {count limit : UInt32} (hlt : count.toNat < limit.toNat) :
    (count + 1).toNat = count.toNat + 1 := by
  have hlimit : limit.toNat < 2 ^ 32 := limit.toNat_lt
  rw [UInt32.toNat_add, show (1 : UInt32).toNat = 1 from rfl]
  omega

/-- A valid packet brings a ready tracker one packet closer to being locked, and the packet that
locks it raises `ACQUIRED`. -/
lemma fhssSyncStateOnValid_spec (h : TrackerReady tracker) :
    ∃ tracker' event, fhssSyncStateOnValid tracker = .ok (tracker', event) ∧
      TrackerReady tracker' ∧ tracker'.config = tracker.config ∧
      tracker'.validsToLock = tracker.validsToLock - 1 ∧
      event = if tracker.validsToLock = 1 then .acquired else .none := by
  obtain ⟨hinit, hvalid, hmisses⟩ := h
  have hacquire : tracker.config.acquireCount.toNat < 2 ^ 32 := UInt32.toNat_lt _
  have hzero : (0 : UInt32).toNat = 0 := rfl
  unfold fhssSyncStateOnValid
  rw [if_neg (by simp [hinit])]
  dsimp only
  cases hstate : tracker.state with
  | locked =>
    have hlock : tracker.validsToLock = 0 := by simp [FhssSyncStateTracker.validsToLock, hstate]
    refine ⟨_, _, rfl, ⟨hinit, hvalid, ?_⟩, rfl, ?_, ?_⟩
    · dsimp only
      omega
    · simp [FhssSyncStateTracker.validsToLock, hstate]
    · simp [hlock]
  | searching =>
    have hsucc := toNat_count_succ hvalid
    have hlock : tracker.validsToLock =
        tracker.config.acquireCount.toNat - tracker.consecutiveValid.toNat := by
      simp [FhssSyncStateTracker.validsToLock, hstate]
    dsimp only
    by_cases hle : tracker.config.acquireCount ≤ tracker.consecutiveValid + 1
    · rw [if_pos hle]
      rw [UInt32.le_iff_toNat_le, hsucc] at hle
      refine ⟨_, _, rfl, ⟨hinit, ?_, ?_⟩, rfl, ?_, ?_⟩
      · dsimp only
        omega
      · dsimp only
        omega
      · rw [hlock]
        simp only [FhssSyncStateTracker.validsToLock]
        omega
      · rw [if_pos (by omega)]
    · rw [if_neg hle]
      rw [UInt32.le_iff_toNat_le, hsucc] at hle
      refine ⟨_, _, rfl, ⟨hinit, ?_, ?_⟩, rfl, ?_, ?_⟩
      · dsimp only
        omega
      · dsimp only
        omega
      · rw [hlock]
        simp only [FhssSyncStateTracker.validsToLock]
        omega
      · rw [if_neg (by omega)]

/-- What a valid packet reports is the change of state it makes; it never unlocks. -/
lemma fhssSyncStateOnValid_reports (h : TrackerReady tracker) :
    ∃ tracker' event, fhssSyncStateOnValid tracker = .ok (tracker', event) ∧
      TrackerReady tracker' ∧ tracker'.config = tracker.config ∧
      EventReports event tracker.state tracker'.state ∧ event ≠ .lost := by
  obtain ⟨tracker', event, hok, hready, hconfig, hlock, rfl⟩ := fhssSyncStateOnValid_spec h
  have hbefore := locked_iff_validsToLock h
  have hafter := locked_iff_validsToLock hready
  refine ⟨tracker', _, hok, hready, hconfig, ?_, ?_⟩
  · split_ifs with hone
    · refine ⟨?_, hafter.mpr (by omega)⟩
      cases hstate : tracker.state with
      | searching => rfl
      | locked => exact absurd (hbefore.mp hstate) (by omega)
    · change tracker'.state = tracker.state
      cases hstate : tracker.state with
      | locked =>
        have := hbefore.mp hstate
        exact hafter.mpr (by omega)
      | searching =>
        have hne : tracker.validsToLock ≠ 0 := fun h0 => by simp [hstate] at hbefore; omega
        cases hstate' : tracker'.state with
        | searching => rfl
        | locked => exact absurd (hafter.mp hstate') (by omega)
  · split_ifs <;> simp

/-- What a miss reports is the change of state it makes; it never locks. -/
lemma fhssSyncStateOnMiss_reports (h : TrackerReady tracker) :
    ∃ tracker' event, fhssSyncStateOnMiss tracker = .ok (tracker', event) ∧
      TrackerReady tracker' ∧ tracker'.config = tracker.config ∧
      EventReports event tracker.state tracker'.state ∧ event ≠ .acquired := by
  obtain ⟨hinit, hvalid, hmisses⟩ := h
  have hloss : tracker.config.lossCount.toNat < 2 ^ 32 := UInt32.toNat_lt _
  have hzero : (0 : UInt32).toNat = 0 := rfl
  unfold fhssSyncStateOnMiss
  rw [if_neg (by simp [hinit])]
  dsimp only
  cases hstate : tracker.state with
  | searching =>
    refine ⟨_, _, rfl, ⟨hinit, ?_, hmisses⟩, rfl, rfl, by simp⟩
    dsimp only
    omega
  | locked =>
    have hsucc := toNat_count_succ hmisses
    dsimp only
    by_cases hle : tracker.config.lossCount ≤ tracker.consecutiveMisses + 1
    · rw [if_pos hle]
      refine ⟨_, _, rfl, ⟨hinit, ?_, ?_⟩, rfl, ⟨rfl, rfl⟩, by simp⟩
      · dsimp only
        omega
      · dsimp only
        omega
    · rw [if_neg hle]
      rw [UInt32.le_iff_toNat_le, hsucc] at hle
      refine ⟨_, _, rfl, ⟨hinit, ?_, ?_⟩, rfl, rfl, by simp⟩
      · dsimp only
        omega
      · dsimp only
        omega

/-- A ready tracker returns its state. -/
lemma fhssSyncStateGet_eq (h : TrackerReady tracker) :
    fhssSyncStateGet tracker = .ok tracker.state := by
  unfold fhssSyncStateGet
  rw [if_neg (by simp [h.initialized])]

end Ready

/-! ## The timing window -/

/-- `fhss_timing_window_result_t`. -/
inductive FhssTimingWindowResult where
  | beforeWindow
  | insideWindow
  | afterWindow
  deriving DecidableEq, Repr

/-- `fhss_timing_window_config_t`. -/
structure FhssTimingWindowConfig where
  earlyMarginUs : UInt32
  lateMarginUs : UInt32
  deriving DecidableEq

/-- `fhss_timing_window_evaluation_t`. -/
structure FhssTimingWindowEvaluation where
  timingErrorUs : ℤ
  result : FhssTimingWindowResult
  deriving DecidableEq

/-- `fhss_timing_window_evaluate`. -/
def fhssTimingWindowEvaluate (config : FhssTimingWindowConfig)
    (expectedRxTimeUs actualRxTimeUs : ℤ) : FhssTimingWindowEvaluation :=
  let timingErrorUs := actualRxTimeUs - expectedRxTimeUs
  if timingErrorUs < -(config.earlyMarginUs.toNat : ℤ) then ⟨timingErrorUs, .beforeWindow⟩
  else if (config.lateMarginUs.toNat : ℤ) < timingErrorUs then ⟨timingErrorUs, .afterWindow⟩
  else ⟨timingErrorUs, .insideWindow⟩

/-- The timing error is how much later than expected a packet arrived. -/
@[simp] lemma timingErrorUs_fhssTimingWindowEvaluate (config : FhssTimingWindowConfig)
    (expectedRxTimeUs actualRxTimeUs : ℤ) :
    (fhssTimingWindowEvaluate config expectedRxTimeUs actualRxTimeUs).timingErrorUs =
      actualRxTimeUs - expectedRxTimeUs := by
  unfold fhssTimingWindowEvaluate
  dsimp only
  split_ifs <;> rfl

/-- A packet that arrives as expected is inside every window. -/
@[simp] lemma fhssTimingWindowEvaluate_self (config : FhssTimingWindowConfig) (timeUs : ℤ) :
    fhssTimingWindowEvaluate config timeUs timeUs = ⟨0, .insideWindow⟩ := by
  unfold fhssTimingWindowEvaluate
  dsimp only
  rw [Int.sub_self, if_neg (by omega), if_neg (by omega)]

end FhssOtaRadio
