import FhssOtaRadio.Library.Machine
import Mathlib.Data.List.DropRight

/-!
# Hysteresis

A two-valued output follows a stream of samples with hysteresis: it takes a number of samples in
a row that disagree with the output to change it, and a single sample that agrees starts the count
afresh.  The number may depend on the output that is left (`limit`).

What the machine has counted is then nothing but the length of the run of disagreeing samples its
history ends in (`describes_run`), so an output is left exactly by the sample that completes a
run of the required length (`change_iff`), and the changes alternate.
-/

namespace Hysteresis

open Machine

/-- An output and how many samples in a row have disagreed with it. -/
structure Level where
  output : Bool
  run : ℕ

/-- One sample: the level afterwards, and the sample with the output it changes to, if any. -/
def step (limit : Bool → ℕ) (level : Level) (sample : Bool) : Level × (Bool × Option Bool) :=
  if sample = level.output then (⟨level.output, 0⟩, (sample, none))
  else if limit level.output ≤ level.run + 1 then (⟨sample, 0⟩, (sample, some sample))
  else (⟨level.output, level.run + 1⟩, (sample, none))

/-- How many samples in a row disagree with `output` at the end of a history, not counting beyond
the last change to `output`. -/
def disagreeing (output : Bool) (history : List (Bool × Option Bool)) : ℕ :=
  (history.rtakeWhile fun entry => entry.1 != output && entry.2 != some output).length

/-- The changes in a history, oldest first. -/
def changes (history : List (Bool × Option Bool)) : List Bool :=
  history.filterMap Prod.snd

/-- The first `n` changes of an output that starts as `false`. -/
def alternating (n : ℕ) : List Bool :=
  (List.range n).map fun i => i % 2 == 0

/-- What a level says about the history that led to it. -/
structure Describes (limit : Bool → ℕ) (history : List (Bool × Option Bool)) (level : Level) :
    Prop where
  run_lt : level.run < limit level.output
  run_eq : level.run = disagreeing level.output history
  alternates : changes history = alternating (changes history).length
  output_eq : level.output = ((changes history).length % 2 == 1)
  balance : (changes history).count true = (changes history).count false + level.output.toNat

variable {limit : Bool → ℕ}

/-- A number is not odd when it is even. -/
lemma not_odd_eq (n : ℕ) : (!(n % 2 == 1)) = (n % 2 == 0) := by
  rcases Nat.mod_two_eq_zero_or_one n with h | h <;> simp [h]

/-- The number after an even one is odd. -/
lemma odd_succ_eq (n : ℕ) : (n % 2 == 0) = ((n + 1) % 2 == 1) := by
  rcases Nat.mod_two_eq_zero_or_one n with h | h <;> simp [Nat.add_mod, h]

/-- A sample changes the output exactly when it disagrees with it and completes the run. -/
lemma change_iff {history : List (Bool × Option Bool)} {level : Level}
    (h : Describes limit history level) (sample output : Bool) :
    (step limit level sample).2.2 = some output ↔
      sample = output ∧ level.output = !output ∧
        disagreeing (!output) history + 1 = limit (!output) := by
  have hlt := h.run_lt
  have hrun := h.run_eq
  unfold step
  by_cases hagrees : sample = level.output
  · rw [if_pos hagrees]
    simp only [reduceCtorEq, false_iff]
    rintro ⟨rfl, hleft, -⟩
    rw [← hagrees] at hleft
    exact absurd hleft (by cases sample <;> decide)
  rw [if_neg hagrees]
  have hother : level.output = !sample := Bool.eq_not_of_ne (Ne.symm hagrees)
  rw [hother] at hlt hrun ⊢
  by_cases hcompletes : limit (!sample) ≤ level.run + 1
  · rw [if_pos hcompletes]
    constructor
    · rintro ⟨⟩
      exact ⟨rfl, rfl, by omega⟩
    · rintro ⟨rfl, -, -⟩
      rfl
  · rw [if_neg hcompletes]
    simp only [reduceCtorEq, false_iff]
    rintro ⟨rfl, -, hcount⟩
    omega

/-- One more entry that disagrees lengthens the run. -/
lemma disagreeing_concat_of_ne {output : Bool} {entry : Bool × Option Bool}
    (history : List (Bool × Option Bool)) (hsample : entry.1 ≠ output)
    (hchange : entry.2 ≠ some output) :
    disagreeing output (history ++ [entry]) = disagreeing output history + 1 := by
  unfold disagreeing
  rw [List.rtakeWhile_concat_pos _ _ _ (by simp [hsample, hchange])]
  simp

/-- An entry that agrees ends the run. -/
lemma disagreeing_concat_of_eq {output : Bool} {entry : Bool × Option Bool}
    (history : List (Bool × Option Bool)) (hsample : entry.1 = output) :
    disagreeing output (history ++ [entry]) = 0 := by
  unfold disagreeing
  rw [List.rtakeWhile_concat_neg _ _ _ (by simp [hsample])]
  rfl

/-- Every sample keeps the description. -/
lemma describes_step (hpos : ∀ output, 0 < limit output) {history : List (Bool × Option Bool)}
    {level : Level} (h : Describes limit history level) (sample : Bool) :
    Describes limit (history ++ [(step limit level sample).2]) (step limit level sample).1 := by
  obtain ⟨hlt, hrun, halternates, houtput, hbalance⟩ := h
  unfold step
  by_cases hagrees : sample = level.output
  · rw [if_pos hagrees]
    have hsame : changes (history ++ [(sample, none)]) = changes history := by
      simp [changes]
    refine ⟨hpos _, (disagreeing_concat_of_eq history hagrees).symm, ?_, ?_, ?_⟩
    · rwa [hsame]
    · rwa [hsame]
    · rwa [hsame]
  rw [if_neg hagrees]
  by_cases hcompletes : limit level.output ≤ level.run + 1
  · rw [if_pos hcompletes]
    have hnext : changes (history ++ [(sample, some sample)]) = changes history ++ [sample] := by
      simp [changes]
    have hsample : sample = ((changes history).length % 2 == 0) := by
      rw [Bool.eq_not_of_ne hagrees, houtput, not_odd_eq]
    refine ⟨hpos _, ?_, ?_, ?_, ?_⟩
    · exact (@disagreeing_concat_of_eq sample (sample, some sample) history rfl).symm
    · rw [hnext, List.length_append, List.length_singleton]
      unfold alternating at halternates ⊢
      rw [List.range_succ, List.map_append, ← halternates]
      simp [← hsample]
    · rw [hnext, List.length_append, List.length_singleton]
      change sample = _
      rw [hsample, odd_succ_eq]
    · rw [hnext, List.count_append, List.count_append, hbalance, Bool.eq_not_of_ne hagrees]
      change _ = _ + (!level.output).toNat
      cases level.output <;> simp
  · rw [if_neg hcompletes]
    have hsame : changes (history ++ [(sample, none)]) = changes history := by
      simp [changes]
    refine ⟨?_, ?_, ?_, ?_, ?_⟩
    · exact not_le.mp hcompletes
    · rw [disagreeing_concat_of_ne history hagrees (by simp), hrun]
    · rwa [hsame]
    · rwa [hsame]
    · rwa [hsame]

/-- **A level is determined by the history of its samples**, whatever they are. -/
theorem describes_run (hpos : ∀ output, 0 < limit output) (samples : List Bool) :
    Describes limit (outputs (step limit) ⟨false, 0⟩ samples)
      (finalState (step limit) ⟨false, 0⟩ samples) := by
  refine invariant_history (step limit) (fun _ history level => Describes limit history level)
    (fun _ history level sample h => describes_step hpos h sample) ?_ samples
  exact ⟨hpos _, rfl, rfl, rfl, rfl⟩

end Hysteresis
