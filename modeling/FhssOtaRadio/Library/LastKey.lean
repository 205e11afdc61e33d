import Mathlib.Data.List.Induction
import Mathlib.Tactic.Common

/-!
# Remembering the last key

A receiver that only remembers the key of the last round it heard takes a round for a repetition
when its key is the remembered one.  Over any run the remembered key is that of the last heard
round (`foldl_remember_eq_some_iff`), so a round is mistaken for a repetition exactly when it has
the key of the last round heard before it, however long ago that was.
-/

namespace LastKey

variable {κ : Type*}

/-- What is remembered after a round with this key, if it was heard. -/
def remember (last : Option κ) (round : κ × Bool) : Option κ :=
  if round.2 = true then some round.1 else last

@[simp] lemma remember_heard (last : Option κ) (key : κ) : remember last (key, true) = some key :=
  rfl

@[simp] lemma remember_unheard (last : Option κ) (key : κ) : remember last (key, false) = last :=
  rfl

/-- Round `j` is the last one heard, and has this key. -/
structure IsLastHeard (rounds : List (κ × Bool)) (j : ℕ) (key : κ) : Prop where
  heard : rounds[j]? = some (key, true)
  unheard : ∀ i round, j < i → rounds[i]? = some round → round.2 = false

/-- The remembered key is the one of the last round heard. -/
theorem foldl_remember_eq_some_iff {rounds : List (κ × Bool)} {key : κ} :
    rounds.foldl remember none = some key ↔ ∃ j, IsLastHeard rounds j key := by
  induction rounds using List.reverseRecOn with
  | nil =>
    refine iff_of_false (fun h => by cases h) ?_
    rintro ⟨j, hheard, -⟩
    cases hheard
  | append_singleton rounds round ih =>
    obtain ⟨key', heard⟩ := round
    rw [List.foldl_append, List.foldl_cons, List.foldl_nil]
    cases heard with
    | true =>
      rw [remember_heard]
      constructor
      · intro h
        obtain rfl := Option.some.inj h
        refine ⟨rounds.length, List.getElem?_concat_length, fun i round hi hround => ?_⟩
        have hlt := (List.getElem?_eq_some_iff.mp hround).1
        rw [List.length_append, List.length_singleton] at hlt
        omega
      · rintro ⟨j, hheard, hunheard⟩
        rcases Nat.lt_trichotomy j rounds.length with hj | rfl | hj
        · exact absurd (hunheard _ _ hj List.getElem?_concat_length) (by simp)
        · rw [List.getElem?_concat_length] at hheard
          exact congrArg (Option.map Prod.fst) hheard
        · have hlt := (List.getElem?_eq_some_iff.mp hheard).1
          rw [List.length_append, List.length_singleton] at hlt
          omega
    | false =>
      rw [remember_unheard, ih]
      refine exists_congr fun j => ⟨fun h => ⟨?_, ?_⟩, fun h => ⟨?_, ?_⟩⟩
      · have hlt := (List.getElem?_eq_some_iff.mp h.heard).1
        rw [List.getElem?_append_left hlt]
        exact h.heard
      · intro i round hi hround
        rcases Nat.lt_or_ge i rounds.length with hlt | hge
        · rw [List.getElem?_append_left hlt] at hround
          exact h.unheard i round hi hround
        · rw [List.getElem?_append_right hge, List.getElem?_singleton] at hround
          split_ifs at hround
          rw [← Option.some.inj hround]
      · have hheard := h.heard
        rcases Nat.lt_or_ge j rounds.length with hlt | hge
        · rwa [List.getElem?_append_left hlt] at hheard
        · rw [List.getElem?_append_right hge, List.getElem?_singleton] at hheard
          split_ifs at hheard
          cases hheard
      · intro i round hi hround
        have hlt := (List.getElem?_eq_some_iff.mp hround).1
        exact h.unheard i round hi (by rwa [List.getElem?_append_left hlt])

end LastKey
