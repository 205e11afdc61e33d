import Mathlib.Data.List.GetD
import Mathlib.Data.List.Perm.Basic
import Mathlib.Data.Set.Function
import Mathlib.Order.Interval.Finset.Nat

/-!
# Lists read in a cycle

`entry l d k` is entry `k` of the list `l` repeated without end.  Any window of `l.length`
consecutive positions reads every entry of `l` once (`window_perm`), so that in a list without
repetitions each of its entries is read at exactly one position of the window
(`existsUnique_window`).  A list of numbers that permutes `0, …, n - 1` is a bijection of them
(`bijOn_of_perm_range`), and exchanging two entries permutes a list (`exchange_perm`).
-/

namespace CyclicList

variable {α : Type*}

/-- Entry `k` of `l` repeated without end. -/
def entry (l : List α) (d : α) (k : ℕ) : α := l.getD (k % l.length) d

/-- Exchange entries `i` and `j`. -/
def exchange (l : List α) (d : α) (i j : ℕ) : List α := (l.set i (l.getD j d)).set j (l.getD i d)

/-- Exchanging two entries permutes the list. -/
lemma exchange_perm {l : List α} {d : α} {i j : ℕ} (hi : i < l.length) (hj : j < l.length) :
    (exchange l d i j).Perm l := by
  have hperm := List.set_set_perm hi hj
  unfold exchange
  rw [List.getD_eq_getElem _ _ hi, List.getD_eq_getElem _ _ hj]
  exact hperm

/-- The other entries stay in place. -/
lemma getD_exchange_of_ne {l : List α} {d : α} {i j k : ℕ} (hi : i ≠ k) (hj : j ≠ k) :
    (exchange l d i j).getD k d = l.getD k d := by
  simp [exchange, List.getD_eq_getElem?_getD, hi, hj]

/-- Reading a list at all its positions gives the list. -/
lemma map_getD_range (l : List α) (d : α) : (List.range l.length).map (l.getD · d) = l := by
  apply List.ext_getElem
  · simp
  · intro k _ hk
    rw [List.getElem_map, List.getElem_range]
    exact List.getD_eq_getElem _ _ hk

/-- The positions of a window, taken in the cycle, are all positions. -/
lemma window_mod_perm (a n : ℕ) :
    ((List.range n).map fun k => (a + k) % n).Perm (List.range n) := by
  have hshift : (List.range n).map (fun k => (a + k) % n) =
      (List.range' a n).map (· % n) := by
    rw [List.range'_eq_map_range, List.map_map]
    rfl
  have hico : Multiset.Ico a (a + n) = (List.range' a n : Multiset ℕ) := by
    change ((List.range' a (a + n - a) : List ℕ) : Multiset ℕ) = _
    rw [Nat.add_sub_cancel_left]
  have hmod := Nat.multiset_Ico_map_mod a n
  rw [hico, Multiset.map_coe] at hmod
  rw [hshift]
  exact Multiset.coe_eq_coe.mp hmod

/-- **A window reads the whole list.** -/
theorem window_perm (l : List α) (d : α) (a : ℕ) :
    ((List.range l.length).map fun k => entry l d (a + k)).Perm l := by
  have hread := (window_mod_perm a l.length).map (l.getD · d)
  rw [map_getD_range, List.map_map] at hread
  exact hread

/-- Every position of the cycle reads an entry of the list. -/
lemma entry_mem {l : List α} (hne : l ≠ []) (d : α) (k : ℕ) : entry l d k ∈ l := by
  have hlt : k % l.length < l.length := Nat.mod_lt _ (List.length_pos_iff.mpr hne)
  unfold entry
  rw [List.getD_eq_getElem _ _ hlt]
  exact List.getElem_mem hlt

/-- **In a list without repetitions a window reads every entry at exactly one position.** -/
theorem existsUnique_window {l : List α} (hnodup : l.Nodup) (d : α) (a : ℕ) {x : α}
    (hx : x ∈ l) : ∃! k, k < l.length ∧ entry l d (a + k) = x := by
  have hperm := window_perm l d a
  obtain ⟨k, hk, hkx⟩ := List.mem_map.mp (hperm.mem_iff.mpr hx)
  refine ⟨k, ⟨List.mem_range.mp hk, hkx⟩, ?_⟩
  rintro m ⟨hm, hmx⟩
  have hinj := List.inj_on_of_nodup_map (hperm.nodup_iff.mpr hnodup)
  exact hinj (List.mem_range.mpr hm) hk (hmx.trans hkx.symm)

/-- A permutation of `0, …, n - 1`, read as a function, is a bijection of them. -/
theorem bijOn_of_perm_range {l : List ℕ} {n : ℕ} (h : l.Perm (List.range n)) :
    Set.BijOn (l.getD · 0) (Set.Iio n) (Set.Iio n) := by
  have hlength : l.length = n := by simpa using h.length_eq
  have hread : ∀ p, p < n → ∃ hp : p < l.length, l.getD p 0 = l[p] := by
    intro p hp
    exact ⟨by omega, List.getD_eq_getElem _ _ _⟩
  refine ⟨?_, ?_, ?_⟩
  · intro p hp
    obtain ⟨hlt, heq⟩ := hread p hp
    have hmem : l[p] ∈ List.range n := h.mem_iff.mp (List.getElem_mem hlt)
    exact Set.mem_Iio.mpr (heq.trans_lt (List.mem_range.mp hmem))
  · intro p hp q hq hpq
    obtain ⟨hltp, heqp⟩ := hread p hp
    obtain ⟨hltq, heqq⟩ := hread q hq
    have hnodup : l.Nodup := h.nodup_iff.mpr List.nodup_range
    have hpq : l[p] = l[q] := by rw [← heqp, ← heqq]; exact hpq
    exact (hnodup.getElem_inj_iff).mp hpq
  · intro q hq
    have hmem : q ∈ l := h.mem_iff.mpr (List.mem_range.mpr hq)
    obtain ⟨p, hp, hpq⟩ := List.getElem_of_mem hmem
    refine ⟨p, by simpa [hlength] using hp, ?_⟩
    exact (List.getD_eq_getElem _ _ hp).trans hpq

end CyclicList
