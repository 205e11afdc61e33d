import Mathlib.Data.List.Basic
import Mathlib.Tactic.Common

/-!
# In-order assembly of numbered pieces

A receiver is offered numbered pieces of a stream in any order and with repetitions, and logs
every offer it accepts.  The piece it has to keep for a number is the *first* one logged for it
(`firstPiece`); the stream assembled from the first `k` numbers is the list of these pieces in
number order (`assembled`).  The lemmas say how both change when the log grows, and that a log
which already holds a number, or which is asked only for smaller numbers, does not notice a
further offer.
-/

namespace PieceLog

variable {α : Type*}

/-- The first piece logged for the number `n`. -/
def firstPiece (log : List (ℕ × α)) (n : ℕ) : Option α :=
  (log.find? fun p => p.1 == n).map Prod.snd

/-- The pieces `0, …, k - 1` in order, each the first one logged for its number. -/
def assembled (log : List (ℕ × α)) (k : ℕ) : List α :=
  (List.range k).filterMap (firstPiece log)

/-- The log holds every number below `k`. -/
def Holds (log : List (ℕ × α)) (k : ℕ) : Prop :=
  ∀ n < k, (firstPiece log n).isSome

@[simp] lemma firstPiece_nil (n : ℕ) : firstPiece ([] : List (ℕ × α)) n = none := rfl

/-- A further log entry is the first piece of its number only if there was none before. -/
lemma firstPiece_concat (log : List (ℕ × α)) (n : ℕ) (a : α) (m : ℕ) :
    firstPiece (log ++ [(n, a)]) m =
      (firstPiece log m).or (if n = m then some a else none) := by
  unfold firstPiece
  rw [List.find?_append]
  cases hfind : log.find? fun p => p.1 == m with
  | some p => simp
  | none =>
    by_cases hnm : n = m <;> simp [hnm]

/-- Logging a number that is already held changes no first piece. -/
lemma firstPiece_concat_of_isSome {log : List (ℕ × α)} {n : ℕ}
    (h : (firstPiece log n).isSome) (a : α) :
    firstPiece (log ++ [(n, a)]) = firstPiece log := by
  funext m
  rw [firstPiece_concat]
  by_cases hnm : n = m
  · subst hnm
    obtain ⟨b, hb⟩ := Option.isSome_iff_exists.mp h
    simp [hb]
  · simp [hnm]

/-- The first piece of the number just logged, when it was missing. -/
lemma firstPiece_concat_self {log : List (ℕ × α)} {n : ℕ} (h : firstPiece log n = none) (a : α) :
    firstPiece (log ++ [(n, a)]) n = some a := by
  simp [firstPiece_concat, h]

/-- Logging one number leaves the first pieces of all others alone. -/
lemma firstPiece_concat_of_ne (log : List (ℕ × α)) {n m : ℕ} (h : n ≠ m) (a : α) :
    firstPiece (log ++ [(n, a)]) m = firstPiece log m := by
  simp [firstPiece_concat, h]

/-- A number held by the log is still held after a further entry, with the same piece. -/
lemma firstPiece_concat_of_eq_some {log : List (ℕ × α)} {m : ℕ} {b : α}
    (h : firstPiece log m = some b) (n : ℕ) (a : α) :
    firstPiece (log ++ [(n, a)]) m = some b := by
  simp [firstPiece_concat, h]

/-- Logging a number at or beyond `k` does not change what is assembled from the numbers
below `k`. -/
lemma assembled_concat_of_le (log : List (ℕ × α)) {n k : ℕ} (h : k ≤ n) (a : α) :
    assembled (log ++ [(n, a)]) k = assembled log k := by
  unfold assembled
  refine List.filterMap_congr fun m hm => ?_
  have hmk : m < k := List.mem_range.mp hm
  exact firstPiece_concat_of_ne log (by omega) a

/-- Assembling `m` more numbers appends their pieces. -/
lemma assembled_add (log : List (ℕ × α)) (k m : ℕ) :
    assembled log (k + m) =
      assembled log k ++ (List.range m).filterMap fun i => firstPiece log (k + i) := by
  unfold assembled
  rw [List.range_add, List.filterMap_append, List.filterMap_map]
  rfl

/-- When every number below `k` is held, the assembled stream is the concatenation asked for:
one piece for each number, in order. -/
lemma assembled_eq_map {log : List (ℕ × α)} {k : ℕ} (h : Holds log k) (default : α) :
    assembled log k = (List.range k).map fun n => (firstPiece log n).getD default := by
  unfold assembled
  rw [← List.filterMap_eq_map]
  refine List.filterMap_congr fun n hn => ?_
  obtain ⟨a, ha⟩ := Option.isSome_iff_exists.mp (h n (List.mem_range.mp hn))
  simp [ha]

end PieceLog
