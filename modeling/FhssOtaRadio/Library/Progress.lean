import FhssOtaRadio.Library.Machine
import Mathlib.Order.Nat

/-!
# Progress by helpful steps

Several tasks step a machine, in an order that nobody controls.  It gets to a goal when there is a
measure that no step raises, and in each state some steps, the helpful ones, lower it: a step that
does not help leaves the helpful steps as they are, so that they can wait for their turn.  A run
that is cut into rounds, each of them with a helpful step for whatever state it meets, has then
reached the goal after as many rounds as the measure was high (`reaches_of_rounds`).
-/

namespace Progress

open Machine

variable {σ α β : Type*}

/-- A run passes through a state that meets the goal. -/
def Reaches (step : σ → α → σ × β) (goal : σ → Prop) (s : σ) (l : List α) : Prop :=
  ∃ l', l' <+: l ∧ goal (finalState step s l')

/-- What a measure and the helpful steps have to meet, in the states with the invariant `Inv`. -/
structure Ranked (step : σ → α → σ × β) (Inv goal : σ → Prop) (Helps : σ → α → Prop)
    (measure : σ → ℕ) : Prop where
  keeps : ∀ s a, Inv s → Inv (step s a).1
  zero : ∀ s, Inv s → measure s = 0 → goal s
  lower : ∀ s a, Inv s → ¬ goal s → Helps s a → measure (step s a).1 < measure s
  level : ∀ s a, Inv s → ¬ goal s → ¬ Helps s a →
    measure (step s a).1 ≤ measure s ∧ ∀ b, Helps s b → Helps (step s a).1 b

section

variable {step : σ → α → σ × β} {Inv goal : σ → Prop} {Helps : σ → α → Prop} {measure : σ → ℕ}
  {s : σ} {l l' : List α} {a : α}

/-- A state that meets the goal has reached it. -/
lemma reaches_of_goal (h : goal s) : Reaches step goal s l := ⟨[], List.nil_prefix, h⟩

/-- The goal may be reached after the first step. -/
lemma Reaches.cons (h : Reaches step goal (step s a).1 l) : Reaches step goal s (a :: l) := by
  obtain ⟨l', hprefix, hgoal⟩ := h
  exact ⟨a :: l', (List.prefix_cons_inj a).mpr hprefix, hgoal⟩

/-- It stays reached when the run goes on. -/
lemma Reaches.append_right (h : Reaches step goal s l) (l' : List α) :
    Reaches step goal s (l ++ l') := by
  obtain ⟨l'', hprefix, hgoal⟩ := h
  exact ⟨l'', hprefix.trans (List.prefix_append l l'), hgoal⟩

/-- It may be reached in the second part of a run. -/
lemma Reaches.append_left (h : Reaches step goal (finalState step s l) l') :
    Reaches step goal s (l ++ l') := by
  obtain ⟨l'', hprefix, hgoal⟩ := h
  refine ⟨l ++ l'', (List.prefix_append_right_inj l).mpr hprefix, ?_⟩
  rwa [finalState_append]

variable (hranked : Ranked step Inv goal Helps measure)
include hranked

/-- One step does not raise the measure. -/
lemma Ranked.step_le (hinv : Inv s) (hgoal : ¬ goal s) : measure (step s a).1 ≤ measure s := by
  by_cases hhelps : Helps s a
  · exact (hranked.lower s a hinv hgoal hhelps).le
  · exact (hranked.level s a hinv hgoal hhelps).1

/-- On its way to the goal a run does not raise the measure. -/
lemma Ranked.run_le (hinv : Inv s) (l : List α) :
    Reaches step goal s l ∨ measure (finalState step s l) ≤ measure s := by
  induction l generalizing s with
  | nil => exact .inr le_rfl
  | cons a l ih =>
    by_cases hgoal : goal s
    · exact .inl (reaches_of_goal hgoal)
    · rcases ih (hranked.keeps s a hinv) with hreaches | hle
      · exact .inl hreaches.cons
      · exact .inr (hle.trans (hranked.step_le hinv hgoal))

/-- A run that holds a step which helps at its start lowers the measure. -/
lemma Ranked.round_lt (hinv : Inv s) (hround : ∃ a ∈ l, Helps s a) :
    Reaches step goal s l ∨ measure (finalState step s l) < measure s := by
  induction l generalizing s with
  | nil =>
    obtain ⟨a, hmem, -⟩ := hround
    cases hmem
  | cons a l ih =>
    by_cases hgoal : goal s
    · exact .inl (reaches_of_goal hgoal)
    have hinv' := hranked.keeps s a hinv
    by_cases hhelps : Helps s a
    · have hlt := hranked.lower s a hinv hgoal hhelps
      rcases hranked.run_le hinv' l with hreaches | hle
      · exact .inl hreaches.cons
      · exact .inr (hle.trans_lt hlt)
    · obtain ⟨hle, hkeeps⟩ := hranked.level s a hinv hgoal hhelps
      obtain ⟨b, hmem, hb⟩ := hround
      have hmem' : b ∈ l := by
        rcases List.mem_cons.mp hmem with heq | hmem
        · exact absurd (heq ▸ hb) hhelps
        · exact hmem
      rcases ih hinv' ⟨b, hmem', hkeeps b hb⟩ with hreaches | hlt
      · exact .inl hreaches.cons
      · exact .inr (hlt.trans_le hle)

/-- **A run of rounds reaches the goal** when every round helps in every state and there are as many
as the measure is high. -/
theorem reaches_of_rounds (hinv : Inv s) {rounds : List (List α)}
    (hround : ∀ round ∈ rounds, ∀ s, Inv s → ¬ goal s → ∃ a ∈ round, Helps s a)
    (hmeasure : measure s ≤ rounds.length) : Reaches step goal s rounds.flatten := by
  induction rounds generalizing s with
  | nil => exact reaches_of_goal (hranked.zero s hinv (Nat.le_zero.mp hmeasure))
  | cons round rounds ih =>
    rw [List.flatten_cons]
    by_cases hgoal : goal s
    · exact reaches_of_goal hgoal
    · have hhelps := hround round List.mem_cons_self s hinv hgoal
      rcases hranked.round_lt hinv hhelps with hreaches | hlt
      · exact hreaches.append_right _
      · refine Reaches.append_left (ih ?_ ?_ ?_)
        · exact invariant_run step (fun s a h => hranked.keeps s a h) hinv round
        · exact fun round' hmem => hround round' (List.mem_cons_of_mem _ hmem)
        · rw [List.length_cons] at hmeasure
          omega

end

end Progress
