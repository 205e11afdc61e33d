import FhssOtaRadio.Library.Machine
import Mathlib.Data.Finset.Card
import Mathlib.Tactic.Ring

/-!
# Collecting pieces over a lossy channel

A list is cut into pieces of one size (`piece`).  A receiver collects the wanted pieces in
rounds: whatever else a round brings, the receiver keeps what it holds, and as long as something
is missing it gains one missing piece (`Gathers`).  Nothing is said about how many of the pieces
sent in a round get through, nor in which order.  The number of missing pieces then falls by at
least one in every round, so that as many rounds as there are wanted pieces are enough.
-/

namespace Collecting

/-! ## The pieces of a list -/

section Pieces

variable {α : Type*}

/-- Piece `n` of the list, cut into pieces of `size` elements. -/
def piece (size : ℕ) (l : List α) (n : ℕ) : List α :=
  (l.drop (size * n)).take size

lemma length_piece (size : ℕ) (l : List α) (n : ℕ) :
    (piece size l n).length = min size (l.length - size * n) := by
  unfold piece
  rw [List.length_take, List.length_drop]

/-- The pieces after the first `n` continue what these cover of the list. -/
lemma take_append_pieces (size : ℕ) (l : List α) (n k : ℕ) :
    l.take (size * n) ++ (List.range k).flatMap (fun i => piece size l (n + i)) =
      l.take (size * (n + k)) := by
  induction k with
  | zero => simp
  | succ k ih =>
    have hnext : size * (n + (k + 1)) = size * (n + k) + size := by ring
    rw [List.range_succ, List.flatMap_append, ← List.append_assoc, ih, hnext, List.take_add]
    simp [piece]

end Pieces

/-! ## Rounds -/

section Rounds

variable {σ ρ β ι : Type*} {step : σ → ρ → σ × β} {wanted : Finset ι} {held : σ → ι → Prop}
  {Inv : σ → Prop} {Ok : σ → ρ → Prop}

/-- A round keeps what is held, and brings one of the missing pieces if there are any. -/
structure Gathers (step : σ → ρ → σ × β) (wanted : Finset ι) (held : σ → ι → Prop)
    (Inv : σ → Prop) (Ok : σ → ρ → Prop) : Prop where
  inv : ∀ s r, Inv s → Ok s r → Inv (step s r).1
  keeps : ∀ s r, Inv s → Ok s r → ∀ i, held s i → held (step s r).1 i
  gains : ∀ s r, Inv s → Ok s r → (∃ i ∈ wanted, ¬ held s i) →
    ∃ i ∈ wanted, ¬ held s i ∧ held (step s r).1 i

open Classical in
/-- The wanted pieces that are not held. -/
noncomputable def missing (wanted : Finset ι) (held : σ → ι → Prop) (s : σ) : Finset ι :=
  wanted.filter fun i => ¬ held s i

open Classical in
lemma mem_missing {s : σ} {i : ι} : i ∈ missing wanted held s ↔ i ∈ wanted ∧ ¬ held s i := by
  unfold missing
  exact Finset.mem_filter

/-- A round leaves fewer pieces missing, or none. -/
lemma Gathers.card_missing_step (h : Gathers step wanted held Inv Ok) {s : σ} {r : ρ}
    (hinv : Inv s) (hok : Ok s r) :
    (missing wanted held (step s r).1).card ≤ (missing wanted held s).card - 1 := by
  have hsubset : missing wanted held (step s r).1 ⊆ missing wanted held s := by
    intro i hi
    obtain ⟨hwanted, hnot⟩ := mem_missing.mp hi
    exact mem_missing.mpr ⟨hwanted, fun hheld => hnot (h.keeps s r hinv hok i hheld)⟩
  by_cases hall : ∃ i ∈ wanted, ¬ held s i
  · obtain ⟨i, hwanted, hnot, hgained⟩ := h.gains s r hinv hok hall
    have hmem : i ∈ missing wanted held s := mem_missing.mpr ⟨hwanted, hnot⟩
    have hnew : i ∉ missing wanted held (step s r).1 := fun hi => (mem_missing.mp hi).2 hgained
    have hlt := Finset.card_lt_card ((Finset.ssubset_iff_of_subset hsubset).mpr ⟨i, hmem, hnew⟩)
    omega
  · have hempty : missing wanted held s = ∅ := by
      apply Finset.eq_empty_of_forall_notMem
      intro i hi
      exact hall ⟨i, (mem_missing.mp hi).1, (mem_missing.mp hi).2⟩
    have hle := Finset.card_le_card hsubset
    rw [hempty] at hle ⊢
    simpa using hle

/-- Every round of a run takes one off the number of missing pieces. -/
theorem Gathers.card_missing_run (h : Gathers step wanted held Inv Ok) {s : σ} (hinv : Inv s)
    {l : List ρ} (hl : Machine.Guarded step Ok s l) :
    (missing wanted held (Machine.finalState step s l)).card ≤
      (missing wanted held s).card - l.length := by
  induction l generalizing s with
  | nil => simp
  | cons r l ih =>
    have hstep := h.card_missing_step hinv hl.1
    have hrest := ih (h.inv s r hinv hl.1) hl.2
    rw [Machine.finalState_cons, List.length_cons]
    omega

/-- With as many rounds as there are wanted pieces, all of them are held at the end. -/
theorem Gathers.held_run (h : Gathers step wanted held Inv Ok) {s : σ} (hinv : Inv s)
    {l : List ρ} (hl : Machine.Guarded step Ok s l) (hlong : wanted.card ≤ l.length) {i : ι}
    (hi : i ∈ wanted) : held (Machine.finalState step s l) i := by
  have hcard := h.card_missing_run hinv hl
  have hle : (missing wanted held s).card ≤ wanted.card :=
    Finset.card_le_card fun j hj => (mem_missing.mp hj).1
  have hnone : missing wanted held (Machine.finalState step s l) = ∅ := by
    rw [← Finset.card_eq_zero]
    omega
  by_contra hnot
  have hmem := mem_missing.mpr ⟨hi, hnot⟩
  rw [hnone] at hmem
  exact absurd hmem (Finset.notMem_empty i)

end Rounds

end Collecting
