import FhssOtaRadio.FhssCore.HopPermutation
import FhssOtaRadio.Library.XorShift

/-!
# The shuffle generator never degenerates (`fhss_hop_sequence.c`)

`next_random` is three xor-shift stages and therefore a bijection of the 32-bit words that keeps
zero (`nextRandom_bijective`).  The shuffle starts from a word that is not zero, whatever the seed,
so no state of the generator is zero, and neither is any value the shuffle draws.
-/

namespace FhssOtaRadio

/-- The first `random_state` of `initialize_sequence`. -/
def initialRandomState (seed : UInt32) : UInt32 := if seed ≠ 0 then seed else 0x6D2B79F5

/-- The values the shuffle loop draws, in order. -/
def shuffleDraws (randomState : UInt32) : ℕ → List UInt32
  | i + 3 =>
      let value := nextRandom randomState
      value :: shuffleDraws value (i + 2)
  | _ => []

/-- The shuffle loop with the values it draws given. -/
def shuffleBy (permutation : List UInt8) : ℕ → List UInt32 → List UInt8
  | i + 3, value :: values =>
      shuffleBy (swapEntries permutation (i + 2) (1 + value.toNat % (i + 2))) (i + 2) values
  | _, _ => permutation

/-! ## The generator -/

/-- `next_random` as stages on bit vectors. -/
lemma toBitVec_nextRandom (state : UInt32) :
    (nextRandom state).toBitVec =
      XorShift.left 5 (XorShift.right 17 (XorShift.left 13 state.toBitVec)) := rfl

/-- **`next_random` is a bijection of the 32-bit words.** -/
lemma nextRandom_bijective : Function.Bijective nextRandom := by
  have hstages : Function.Bijective fun state : BitVec 32 =>
      XorShift.left 5 (XorShift.right 17 (XorShift.left 13 state)) :=
    (XorShift.left_bijective (by decide)).comp
      ((XorShift.right_bijective (by decide)).comp (XorShift.left_bijective (by decide)))
  constructor
  · intro state state' h
    have hbits := congrArg UInt32.toBitVec h
    rw [toBitVec_nextRandom, toBitVec_nextRandom] at hbits
    exact UInt32.toBitVec_inj.mp (hstages.1 hbits)
  · intro value
    obtain ⟨state, hstate⟩ := hstages.2 value.toBitVec
    exact ⟨UInt32.ofBitVec state, UInt32.toBitVec_inj.mp hstate⟩

@[simp] lemma nextRandom_zero : nextRandom 0 = 0 := by decide

/-- Steps of the generator do not lead to zero. -/
lemma iterate_nextRandom_ne_zero {state : UInt32} (h : state ≠ 0) (n : ℕ) :
    nextRandom^[n] state ≠ 0 := by
  intro hzero
  have hfixed : nextRandom^[n] 0 = 0 := Function.iterate_fixed nextRandom_zero n
  exact h (nextRandom_bijective.1.iterate n (hzero.trans hfixed.symm))

/-- No seed starts the generator at zero. -/
lemma initialRandomState_ne_zero (seed : UInt32) : initialRandomState seed ≠ 0 := by
  unfold initialRandomState
  split_ifs with hseed
  · exact hseed
  · decide

/-! ## The draws of a shuffle -/

/-- The shuffle is the exchanges its draws say. -/
lemma shuffle_eq_shuffleBy (i : ℕ) (permutation : List UInt8) (randomState : UInt32) :
    shuffle permutation randomState i =
      shuffleBy permutation i (shuffleDraws randomState i) := by
  induction permutation, randomState, i using shuffle.induct with
  | case1 permutation randomState i value selected ih =>
    rw [shuffle, shuffleDraws, shuffleBy]
    exact ih
  | case2 i permutation randomState hsmall =>
    rw [shuffle, shuffleBy]
    · exact fun i' _ _ hi _ => hsmall i' hi
    · exact hsmall

/-- The draws are the states of the generator after the first one. -/
lemma shuffleDraws_eq (randomState : UInt32) (i : ℕ) :
    shuffleDraws randomState i =
      (List.range (i - 2)).map fun k => nextRandom^[k + 1] randomState := by
  induction randomState, i using shuffleDraws.induct with
  | case1 randomState i value ih =>
    rw [shuffleDraws, ih, show i + 3 - 2 = i + 1 by omega, List.range_succ_eq_map, List.map_cons,
      List.map_map, show i + 2 - 2 = i by omega]
    rfl
  | case2 i randomState hsmall =>
    have hzero : i - 2 = 0 := by
      by_contra hne
      exact hsmall (i - 3) (by omega)
    rw [shuffleDraws, hzero]
    · rfl
    · exact hsmall

/-- What `initialize_sequence` builds is the identity, shuffled by its draws. -/
lemma permutation_of_initializeSequence {channels : List UInt8} {seed : UInt32}
    {reservedChannel : UInt8} {enforceReservedChannel : Bool} {sequence : FhssHopSequence}
    (h : initializeSequence channels seed reservedChannel enforceReservedChannel = .ok sequence) :
    sequence.permutation = shuffleBy (identityPermutation channels.length) channels.length
      (shuffleDraws (initialRandomState seed) channels.length) := by
  rw [← shuffle_eq_shuffleBy]
  unfold initializeSequence at h
  by_cases hcount : channels.length = 0 ∨ 256 < channels.length
  · rw [if_pos hcount] at h
    cases h
  rw [if_neg hcount] at h
  by_cases hbad : (enforceReservedChannel = true ∧ reservedChannel ∈ channels) ∨ ¬ channels.Nodup
  · rw [if_pos hbad] at h
    cases h
  rw [if_neg hbad] at h
  obtain rfl := Except.ok.inj h
  rfl

/-- **The shuffle generator never degenerates.**  `next_random` is a bijection that takes words
other than zero to words other than zero.  From every seed no state of the generator is ever zero,
and every shuffle of `initialize_sequence` goes by its states, none of them zero. -/
theorem shuffleGenerator_never_zero :
    Function.Bijective nextRandom ∧ (∀ state, state ≠ 0 → nextRandom state ≠ 0) ∧
      ∀ seed : UInt32, (∀ n, nextRandom^[n] (initialRandomState seed) ≠ 0) ∧
        ∀ channels reservedChannel enforceReservedChannel sequence,
          initializeSequence channels seed reservedChannel enforceReservedChannel = .ok sequence →
          ∃ draws : List UInt32,
            sequence.permutation =
              shuffleBy (identityPermutation channels.length) channels.length draws ∧
            draws = ((List.range (channels.length - 2)).map fun k =>
              nextRandom^[k + 1] (initialRandomState seed)) ∧
            ∀ value ∈ draws, value ≠ 0 := by
  refine ⟨nextRandom_bijective, fun state hstate => iterate_nextRandom_ne_zero hstate 1,
    fun seed => ?_⟩
  have hstates := iterate_nextRandom_ne_zero (initialRandomState_ne_zero seed)
  refine ⟨hstates, fun channels reservedChannel enforceReservedChannel sequence hbuilt => ?_⟩
  refine ⟨_, permutation_of_initializeSequence hbuilt, shuffleDraws_eq _ _, ?_⟩
  intro value hvalue
  rw [shuffleDraws_eq] at hvalue
  obtain ⟨k, -, rfl⟩ := List.mem_map.mp hvalue
  exact hstates (k + 1)

end FhssOtaRadio
