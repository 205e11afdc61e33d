import FhssOtaRadio.Library.Machine
import Mathlib.Data.List.Chain
import Mathlib.Data.List.DropRight

/-!
# Debouncing by counting

A two-valued input is polled.  The level polled last is a candidate, and a counter says for how
many polls in a row it has been read, up to a limit; a candidate whose counter has reached the
limit is reported if it differs from the level reported last.  The level read before the first
poll counts as reported, with the counter at its limit.

The counter means something only while the candidate differs from the reported level: then it is
the length of the run the samples end in (`Settles`).  So a level is reported exactly by the sample
that completes a run of the required length (`report_iff`).
-/

namespace Debounce

open Machine

/-- The candidate, for how many polls it has been stable, and the level reported last. -/
structure State where
  candidate : Bool
  stableCount : ℕ
  reported : Bool
  deriving DecidableEq

/-- The state before the first poll. -/
def start (limit : ℕ) (first : Bool) : State := ⟨first, limit, first⟩

/-- Count a sample. -/
def count (limit : ℕ) (state : State) (sample : Bool) : State :=
  if sample = state.candidate then
    if state.stableCount < limit then { state with stableCount := state.stableCount + 1 }
    else state
  else { state with candidate := sample, stableCount := 1 }

/-- A poll: the state afterwards and the level that is reported, if any. -/
def step (limit : ℕ) (state : State) (sample : Bool) : State × Option Bool :=
  let state := count limit state sample
  if state.stableCount = limit ∧ state.candidate ≠ state.reported then
    ({ state with reported := state.candidate }, some state.candidate)
  else (state, none)

/-- The length of the run of `level` that the samples end in. -/
def trailingRun (level : Bool) (samples : List Bool) : ℕ :=
  (samples.rtakeWhile (· == level)).length

/-- The levels reported by polls, oldest first. -/
def reports (polls : List (Option Bool)) : List Bool := polls.filterMap id

/-- The level reported last, the first level if none has been. -/
def lastReported (first : Bool) (polls : List (Option Bool)) : Bool :=
  (reports polls).getLastD first

/-- What debouncing is for. -/
structure Law (limit : ℕ) (first : Bool) (samples : List Bool) (polls : List (Option Bool)) :
    Prop where
  /-- Every report differs from the one before it, and the first one from the first level. -/
  alternates : (first :: reports polls).IsChain (· ≠ ·)
  /-- A level is reported by the sample that completes a run, if it is not the one reported. -/
  fires_iff : ∀ k level, polls[k]? = some (some level) ↔
    k < samples.length ∧ trailingRun level (samples.take (k + 1)) = limit ∧
      lastReported first (polls.take k) = !level
  /-- A run that is too short is not reported. -/
  glitch : ∀ before n level after, samples = before ++ (List.replicate n level ++ after) →
    before.getLastD first ≠ level → n < limit →
    reports ((polls.drop before.length).take n) = []
  /-- A run of a new level that is long enough is reported once. -/
  once : ∀ before n level after, samples = before ++ (List.replicate n level ++ after) →
    before.getLastD first ≠ level → limit ≤ n →
    lastReported first (polls.take before.length) = !level →
    reports ((polls.drop before.length).take n) = [level]

variable {limit : ℕ}

@[simp] lemma reports_cons_none (polls : List (Option Bool)) :
    reports (none :: polls) = reports polls := rfl

@[simp] lemma reports_cons_some (level : Bool) (polls : List (Option Bool)) :
    reports (some level :: polls) = level :: reports polls := rfl

/-! ## Runs of samples -/

lemma trailingRun_concat_self (level : Bool) (samples : List Bool) :
    trailingRun level (samples ++ [level]) = trailingRun level samples + 1 := by
  unfold trailingRun
  rw [List.rtakeWhile_concat_pos _ _ _ (by simp)]
  simp

lemma trailingRun_concat_of_ne {level sample : Bool} (h : sample ≠ level) (samples : List Bool) :
    trailingRun level (samples ++ [sample]) = 0 := by
  unfold trailingRun
  rw [List.rtakeWhile_concat_neg _ _ _ (by simp [h])]
  rfl

/-! ## One poll -/

@[simp] lemma count_candidate (state : State) (sample : Bool) :
    (count limit state sample).candidate = sample := by
  unfold count
  split_ifs with hsame
  · exact hsame.symm
  · exact hsame.symm
  · rfl

@[simp] lemma count_reported (state : State) (sample : Bool) :
    (count limit state sample).reported = state.reported := by
  unfold count
  split_ifs <;> rfl

/-- A poll reports its sample if that is new and stable. -/
lemma step_eq (state : State) (sample : Bool) :
    step limit state sample =
      if (count limit state sample).stableCount = limit ∧ sample ≠ state.reported then
        ({ count limit state sample with reported := sample }, some sample)
      else (count limit state sample, none) := by
  unfold step
  dsimp only
  rw [count_candidate, count_reported]

/-- The candidate of a poll is its sample. -/
lemma step_candidate (state : State) (sample : Bool) :
    (step limit state sample).1.candidate = sample := by
  rw [step_eq]
  split_ifs <;> exact count_candidate state sample

/-- A poll reports nothing, or its sample, which then differs from the level reported before. -/
lemma step_reported (state : State) (sample : Bool) :
    ((step limit state sample).2 = none ∧
        (step limit state sample).1.reported = state.reported) ∨
      ((step limit state sample).2 = some sample ∧ state.reported ≠ sample ∧
        (step limit state sample).1.reported = sample) := by
  rw [step_eq]
  split_ifs with hfires
  · exact .inr ⟨rfl, hfires.2.symm, rfl⟩
  · exact .inl ⟨rfl, count_reported state sample⟩

/-- The samples do not end in a level other than the candidate, and a candidate that has not been
reported has been counted, but not yet up to the limit. -/
structure Settles (limit : ℕ) (samples : List Bool) (state : State) : Prop where
  other_run : trailingRun (!state.candidate) samples = 0
  counted : state.candidate ≠ state.reported →
    state.stableCount = trailingRun state.candidate samples ∧ state.stableCount < limit

/-- A sample that has not been reported is counted. -/
lemma stableCount_count {samples : List Bool} {state : State} (h : Settles limit samples state)
    {sample : Bool} (hnew : sample ≠ state.reported) :
    (count limit state sample).stableCount = trailingRun sample (samples ++ [sample]) := by
  rw [trailingRun_concat_self]
  unfold count
  by_cases hsame : sample = state.candidate
  · subst hsame
    obtain ⟨hcount, hlt⟩ := h.counted hnew
    rw [if_pos rfl, if_pos hlt, ← hcount]
  · rw [if_neg hsame]
    have hother : sample = !state.candidate := Bool.eq_not_of_ne hsame
    rw [hother, h.other_run]

/-- A level is reported exactly by the sample that completes a run of it, if it is not the level
reported last. -/
lemma report_iff (hpos : 0 < limit) {samples : List Bool} {state : State}
    (h : Settles limit samples state) (sample level : Bool) :
    (step limit state sample).2 = some level ↔
      trailingRun level (samples ++ [sample]) = limit ∧ state.reported = !level := by
  rw [step_eq]
  constructor
  · split_ifs with hfires
    · rintro ⟨⟩
      rw [← stableCount_count h hfires.2]
      exact ⟨hfires.1, Bool.eq_not_of_ne hfires.2.symm⟩
    · exact fun hnone => by cases hnone
  · rintro ⟨hrun, hreported⟩
    have hsample : sample = level := by
      by_contra hne
      rw [trailingRun_concat_of_ne hne] at hrun
      omega
    subst hsample
    have hnew : sample ≠ state.reported := by
      rw [hreported]
      cases sample <;> decide
    rw [if_pos ⟨(stableCount_count h hnew).trans hrun, hnew⟩]

/-- The counter does not run past the limit. -/
lemma stableCount_count_le (hpos : 0 < limit) {samples : List Bool} {state : State}
    (h : Settles limit samples state) {sample : Bool} (hnew : sample ≠ state.reported) :
    (count limit state sample).stableCount ≤ limit := by
  unfold count
  by_cases hsame : sample = state.candidate
  · subst hsame
    obtain ⟨-, hlt⟩ := h.counted hnew
    rw [if_pos rfl, if_pos hlt]
    exact hlt
  · rw [if_neg hsame]
    exact hpos

/-- A poll keeps the state settled. -/
lemma settles_step (hpos : 0 < limit) {samples : List Bool} {state : State}
    (h : Settles limit samples state) (sample : Bool) :
    Settles limit (samples ++ [sample]) (step limit state sample).1 := by
  constructor
  · rw [step_candidate]
    exact trailingRun_concat_of_ne (by cases sample <;> decide) samples
  · rw [step_candidate, step_eq]
    split_ifs with hfires
    · exact fun hne => absurd rfl hne
    · rw [count_reported]
      intro hnew
      have hne : (count limit state sample).stableCount ≠ limit := fun heq => hfires ⟨heq, hnew⟩
      exact ⟨stableCount_count h hnew,
        lt_of_le_of_ne (stableCount_count_le hpos h hnew) hne⟩

/-! ## Runs of polls -/

/-- Where a run has got to, by its samples and its reports. -/
structure Describes (limit : ℕ) (first : Bool) (samples : List Bool) (polls : List (Option Bool))
    (state : State) : Prop where
  settles : Settles limit samples state
  candidate_eq : state.candidate = samples.getLastD first
  reported_eq : state.reported = lastReported first polls
  alternates : (first :: reports polls).IsChain (· ≠ ·)

/-- Every run is described. -/
lemma describes_run (hpos : 0 < limit) (first : Bool) (samples : List Bool) :
    Describes limit first samples (outputs (step limit) (start limit first) samples)
      (finalState (step limit) (start limit first) samples) := by
  refine invariant_history (step limit) (Describes limit first)
    (fun samples polls state sample h => ?_) ?_ samples
  · obtain ⟨hsettles, -, hreported, halternates⟩ := h
    refine ⟨settles_step hpos hsettles sample, ?_, ?_, ?_⟩
    · rw [step_candidate, List.getLastD_concat]
    · rcases @step_reported limit state sample with ⟨hnone, hsame⟩ | ⟨hsome, -, hnew⟩
      · rw [hsame, hnone, hreported]
        simp [lastReported, reports]
      · rw [hnew, hsome]
        simp [lastReported, reports]
    · rcases @step_reported limit state sample with ⟨hnone, -⟩ | ⟨hsome, hnew, -⟩
      · rw [hnone]
        simpa [reports] using halternates
      · have hreports : reports (polls ++ [some sample]) = reports polls ++ [sample] := by
          simp [reports]
        rw [hsome, hreports, ← List.cons_append, List.isChain_append]
        refine ⟨halternates, .singleton _, fun last hlast next hnext => ?_⟩
        rw [List.getLast?_cons, Option.mem_some_iff] at hlast
        rw [List.head?_cons, Option.mem_some_iff] at hnext
        rw [← hlast, ← hnext, ← List.getLastD_eq_getLast?]
        rw [hreported] at hnew
        exact hnew
  · exact ⟨⟨rfl, fun hne => absurd rfl hne⟩, rfl, rfl, .singleton _⟩

/-- A level that has been reported is not reported again while it lasts. -/
lemma reports_replicate_reported (n : ℕ) : ∀ {state : State} {level : Bool},
    state.reported = level →
    reports (outputs (step limit) state (List.replicate n level)) = [] := by
  induction n with
  | zero => exact fun _ => rfl
  | succ n ih =>
    intro state level hreported
    rw [List.replicate_succ, outputs_cons]
    rcases @step_reported limit state level with ⟨hnone, hsame⟩ | ⟨-, hnew, -⟩
    · rw [hnone]
      exact ih (hsame.trans hreported)
    · exact absurd hreported hnew

/-- A candidate that is being counted is reported once the count reaches the limit. -/
lemma reports_replicate_candidate (n : ℕ) : ∀ {state : State},
    state.candidate ≠ state.reported → state.stableCount < limit →
    reports (outputs (step limit) state (List.replicate n state.candidate)) =
      if limit ≤ state.stableCount + n then [state.candidate] else [] := by
  induction n with
  | zero =>
    intro state _ hlt
    rw [if_neg (by omega)]
    rfl
  | succ n ih =>
    intro state hnew hlt
    have hcount : count limit state state.candidate =
        { state with stableCount := state.stableCount + 1 } := by
      unfold count
      rw [if_pos rfl, if_pos hlt]
    rw [List.replicate_succ, outputs_cons, step_eq, hcount]
    by_cases hlast : state.stableCount + 1 = limit
    · rw [if_pos ⟨hlast, hnew⟩, if_pos (by omega), reports_cons_some,
        reports_replicate_reported n rfl]
    · rw [if_neg fun hfires => hlast hfires.1, reports_cons_none]
      have hrest := @ih { state with stableCount := state.stableCount + 1 } hnew
        (by dsimp only; omega)
      dsimp only at hrest
      rw [hrest, show state.stableCount + 1 + n = state.stableCount + (n + 1) by omega]

/-- A new run is reported if it is long enough and its level has not been reported. -/
lemma reports_replicate (hpos : 0 < limit) {state : State} {level : Bool}
    (hcandidate : state.candidate ≠ level) (n : ℕ) :
    reports (outputs (step limit) state (List.replicate n level)) =
      if limit ≤ n ∧ state.reported ≠ level then [level] else [] := by
  by_cases hreported : state.reported = level
  · rw [reports_replicate_reported n hreported, if_neg fun h => h.2 hreported]
  cases n with
  | zero =>
    rw [if_neg (by omega)]
    rfl
  | succ n =>
    have hcount : count limit state level =
        { state with candidate := level, stableCount := 1 } := if_neg (Ne.symm hcandidate)
    rw [List.replicate_succ, outputs_cons, step_eq, hcount]
    by_cases hone : 1 = limit
    · rw [if_pos ⟨hone, Ne.symm hreported⟩, if_pos ⟨by omega, hreported⟩, reports_cons_some,
        reports_replicate_reported n rfl]
    · rw [if_neg fun hfires => hone hfires.1, reports_cons_none]
      have hrest := @reports_replicate_candidate limit n
        { state with candidate := level, stableCount := 1 } (Ne.symm hreported)
        (by dsimp only; omega)
      dsimp only at hrest
      rw [hrest]
      simp [hreported, Nat.add_comm]

/-- **Polls that count debounce**, whatever the samples are. -/
theorem law_run (hpos : 0 < limit) (first : Bool) (samples : List Bool) :
    Law limit first samples (outputs (step limit) (start limit first) samples) := by
  have hsegment : ∀ before n level after, samples = before ++ (List.replicate n level ++ after) →
      ((outputs (step limit) (start limit first) samples).drop before.length).take n =
        outputs (step limit) (finalState (step limit) (start limit first) before)
          (List.replicate n level) := by
    rintro before n level after rfl
    rw [outputs_append, List.drop_left' (length_outputs ..), outputs_append,
      List.take_left' (by rw [length_outputs, List.length_replicate])]
  have hbefore : ∀ before n level after, samples = before ++ (List.replicate n level ++ after) →
      (outputs (step limit) (start limit first) samples).take before.length =
        outputs (step limit) (start limit first) before := by
    rintro before n level after rfl
    rw [take_outputs, List.take_left]
  refine ⟨(describes_run hpos first samples).alternates, fun k level => ?_, ?_, ?_⟩
  · rw [getElem?_outputs, take_outputs]
    have hdescribes := describes_run hpos first (samples.take k)
    by_cases hk : k < samples.length
    · rw [List.getElem?_eq_getElem hk, Option.map_some, Option.some_inj,
        report_iff hpos hdescribes.settles, List.take_append_getElem hk,
        hdescribes.reported_eq]
      exact (and_iff_right hk).symm
    · rw [List.getElem?_eq_none (not_lt.mp hk)]
      exact iff_of_false (by simp) fun h => hk h.1
  · intro before n level after hsamples hlast hshort
    have hdescribes := describes_run hpos first before
    rw [hsegment before n level after hsamples,
      reports_replicate hpos (hdescribes.candidate_eq ▸ hlast), if_neg (by omega)]
  · intro before n level after hsamples hlast hlong hreported
    have hdescribes := describes_run hpos first before
    rw [hbefore before n level after hsamples, ← hdescribes.reported_eq] at hreported
    rw [hsegment before n level after hsamples,
      reports_replicate hpos (hdescribes.candidate_eq ▸ hlast),
      if_pos ⟨hlong, by rw [hreported]; cases level <;> decide⟩]

end Debounce
