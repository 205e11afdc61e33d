import FhssOtaRadio.Library.Dialogue
import Mathlib.Algebra.Order.Ring.Int

/-!
# Dialogues that take time

Where the calls of a driver take time, nothing but a reading of a clock tells how much.  Between two
readings all that is known is the last one and, when each call takes a bounded time, the latest it
can be (`Span`).  `World.timed` adds this knowledge to a world: a run is real there when moreover
every reading falls into the span in which it can fall.  The calls that may be made are those of
the world itself (`legal_timed`).
-/

namespace Dialogue

open Machine

universe u v

variable {Call : Type u} {Answer : Call → Type v} {α : Type v} {ρ : Type*}

/-- What is known of the time. -/
structure Span where
  /-- The last reading of the clock. -/
  earliest : ℤ
  /-- The latest it can be. -/
  latest : ℤ

/-- A clock that calls read, and how long each call takes. -/
structure Pace (Call : Type u) (Answer : Call → Type v) where
  /-- The time that the answer to a call tells. -/
  reading : (c : Call) → Answer c → Option ℤ
  /-- The longest that a call takes. -/
  most : Call → ℤ

namespace Pace

variable (pace : Pace Call Answer)

/-- What is known of the time after a call. -/
def pass (span : Span) (e : Event Call Answer) : Span :=
  match pace.reading e.1 e.2 with
  | some time => ⟨time, time⟩
  | none => ⟨span.earliest, span.latest + pace.most e.1⟩

/-- A reading is not before the last one, and not later than it can be. -/
def InTime (span : Span) (e : Event Call Answer) : Prop :=
  ∀ time ∈ pace.reading e.1 e.2, span.earliest ≤ time ∧ time ≤ span.latest + pace.most e.1

instance decidableInTime (span : Span) (e : Event Call Answer) : Decidable (pace.InTime span e) :=
  inferInstanceAs (Decidable (∀ time ∈ pace.reading e.1 e.2,
    span.earliest ≤ time ∧ time ≤ span.latest + pace.most e.1))

end Pace

namespace World

/-- A world in which time passes. -/
def timed (W : World Call Answer ρ) (pace : Pace Call Answer) : World Call Answer (ρ × Span) where
  next s e := (W.next s.1 e, pace.pass s.2 e)
  Allowed s c := W.Allowed s.1 c
  Possible s e := W.Possible s.1 e ∧ pace.InTime s.2 e

variable {W : World Call Answer ρ} {pace : Pace Call Answer} {Owed : Prop}

instance decidableTimedPossible [∀ s e, Decidable (W.Possible s e)] (s : ρ × Span)
    (e : Event Call Answer) : Decidable ((W.timed pace).Possible s e) :=
  inferInstanceAs (Decidable (W.Possible s.1 e ∧ pace.InTime s.2 e))

instance decidableReal [∀ s e, Decidable (W.Possible s e)] (s : ρ)
    (events : List (Event Call Answer)) : Decidable (W.Real s events) :=
  inferInstanceAs (Decidable (Guarded W.step W.Possible s events))

/-- Time does not change which calls are allowed. -/
lemma legal_timed {s : ρ × Span} {events : List (Event Call Answer)} :
    (W.timed pace).Legal s events ↔ W.Legal s.1 events := by
  induction events generalizing s with
  | nil => rfl
  | cons e events ih =>
    apply and_congr Iff.rfl
    exact ih

/-- The rule for a call that reads the clock. -/
lemma meets_reading {c : Call} {s : ρ} {span : Span} {Q : Answer c → ρ × Span → Prop}
    (hallowed : W.Allowed s c)
    (h : ∀ b time, pace.reading c b = some time → W.Possible s ⟨c, b⟩ → span.earliest ≤ time →
      time ≤ span.latest + pace.most c → Q b (W.next s ⟨c, b⟩, ⟨time, time⟩))
    (hreads : ∀ b, pace.reading c b ≠ none) :
    (W.timed pace).Meets Owed (.call c) (s, span) Q := by
  rw [meets_call]
  refine ⟨hallowed, fun b hb => ?_⟩
  obtain ⟨time, htime⟩ := Option.ne_none_iff_exists'.mp (hreads b)
  have hpass : pace.pass span ⟨c, b⟩ = ⟨time, time⟩ := by
    unfold Pace.pass
    rw [htime]
  obtain ⟨hfrom, hto⟩ := hb.2 time htime
  have hnext := h b time htime hb.1 hfrom hto
  rw [← hpass] at hnext
  exact hnext

/-- The rule for a call that does not: it takes its time. -/
lemma meets_taking {c : Call} {s : ρ} {span : Span} {Q : Answer c → ρ × Span → Prop}
    (hsilent : ∀ b, pace.reading c b = none) (hallowed : W.Allowed s c)
    (h : ∀ b, W.Possible s ⟨c, b⟩ →
      Q b (W.next s ⟨c, b⟩, ⟨span.earliest, span.latest + pace.most c⟩)) :
    (W.timed pace).Meets Owed (.call c) (s, span) Q := by
  rw [meets_call]
  refine ⟨hallowed, fun b hb => ?_⟩
  have hpass : pace.pass span ⟨c, b⟩ = ⟨span.earliest, span.latest + pace.most c⟩ := by
    unfold Pace.pass
    rw [hsilent b]
  have hnext := h b hb.1
  rw [← hpass] at hnext
  exact hnext

end World

end Dialogue
