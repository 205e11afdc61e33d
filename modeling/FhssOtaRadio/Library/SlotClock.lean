import Mathlib.Algebra.Order.Ring.Int
import Mathlib.Data.Int.Basic
import Mathlib.Tactic.Linarith
import Mathlib.Tactic.Ring

/-!
# Affine slot clocks

A slot clock divides time into slots of a fixed positive duration, counted from an anchor: slot
`slot` starts at `start`.  `slotStart` is the start of any slot and `slotAt` the slot a time
falls into; the two are related like multiplication and division (`slotStart_le_iff`).  A clock
may be anchored at any of its slots (`slotStart_anchor`, `slotAt_anchor`).
-/

namespace SlotClock

/-- An anchor: one slot and the time it starts. -/
structure Anchor where
  slot : ℤ
  start : ℤ

variable (duration : ℤ) (anchor : Anchor)

/-- The time slot `n` starts. -/
def slotStart (n : ℤ) : ℤ :=
  anchor.start + (n - anchor.slot) * duration

/-- The slot that time `t` falls into. -/
def slotAt (t : ℤ) : ℤ :=
  anchor.slot + (t - anchor.start) / duration

variable {duration anchor}

/-- A slot has started by time `t` exactly when it is at most the slot of `t`. -/
lemma slotStart_le_iff (hpos : 0 < duration) (n t : ℤ) :
    slotStart duration anchor n ≤ t ↔ n ≤ slotAt duration anchor t := by
  have hdiv : n - anchor.slot ≤ (t - anchor.start) / duration ↔
      (n - anchor.slot) * duration ≤ t - anchor.start := Int.le_ediv_iff_mul_le hpos
  unfold slotStart slotAt
  constructor
  · intro h
    have := hdiv.mpr (by linarith)
    linarith
  · intro h
    have := hdiv.mp (by linarith)
    linarith

/-- A slot starts in the slot itself. -/
lemma slotAt_slotStart (hpos : 0 < duration) (n : ℤ) :
    slotAt duration anchor (slotStart duration anchor n) = n := by
  have hcancel : (n - anchor.slot) * duration / duration = n - anchor.slot :=
    Int.mul_ediv_cancel _ hpos.ne'
  unfold slotAt slotStart
  rw [add_sub_cancel_left, hcancel]
  ring

/-- Later slots start later. -/
lemma slotStart_mono (hpos : 0 < duration) (anchor : Anchor) {n m : ℤ} (hle : n ≤ m) :
    slotStart duration anchor n ≤ slotStart duration anchor m := by
  have hmul : (n - anchor.slot) * duration ≤ (m - anchor.slot) * duration :=
    mul_le_mul_of_nonneg_right (by omega) hpos.le
  unfold slotStart
  linarith

/-- Later times fall into later slots. -/
lemma slotAt_mono (hpos : 0 < duration) (anchor : Anchor) {s t : ℤ} (hle : s ≤ t) :
    slotAt duration anchor s ≤ slotAt duration anchor t := by
  have hdiv : (s - anchor.start) / duration ≤ (t - anchor.start) / duration :=
    Int.ediv_le_ediv hpos (by omega)
  unfold slotAt
  linarith

/-- Anchoring a clock at another of its slots does not move the slot starts. -/
lemma slotStart_anchor (n m : ℤ) :
    slotStart duration ⟨m, slotStart duration anchor m⟩ n = slotStart duration anchor n := by
  unfold slotStart
  ring

/-- Anchoring a clock at another of its slots does not move the slots of times. -/
lemma slotAt_anchor (hpos : 0 < duration) (m t : ℤ) :
    slotAt duration ⟨m, slotStart duration anchor m⟩ t = slotAt duration anchor t := by
  refine le_antisymm ?_ ?_
  · rw [← slotStart_le_iff hpos, ← @slotStart_anchor duration anchor _ m,
      slotStart_le_iff hpos]
  · rw [← slotStart_le_iff hpos, slotStart_anchor, slotStart_le_iff hpos]

end SlotClock
