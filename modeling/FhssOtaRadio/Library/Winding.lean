import Mathlib.Algebra.Ring.Int.Defs
import Mathlib.Data.List.Chain
import Mathlib.Data.ZMod.Basic

/-!
# Winding on a cycle

A path on a cycle of `n` positions moves by one position at most in each step.  The sum of its
signed steps is its displacement: it says where the path ends (`cast_displacement`), and how often
it has gone round.  A path that leaves a base position and comes back to it for the first time has
gone round once, in one of the two directions, or not at all (`displacement_turn`).  The turns
between the visits of the base, taken together, are the winding number of the path (`turns`).
-/

namespace Winding

variable {n : ℕ}

/-- The signed step between two positions. -/
def signedStep (x y : ZMod n) : ℤ := if y = x + 1 then 1 else if y + 1 = x then -1 else 0

/-- A step goes to a neighbour, or nowhere. -/
def IsStep (x y : ZMod n) : Prop := y = x ∨ y = x + 1 ∨ y + 1 = x

/-- The sum of the signed steps of a path. -/
def displacement : List (ZMod n) → ℤ
  | x :: y :: path => signedStep x y + displacement (y :: path)
  | _ => 0

/-- How often a path goes round, from one visit of `base` to the next, signed; the path begins
at `base`, and `path` is the rest of it. -/
def turns (base : ZMod n) (path : List (ZMod n)) : ℤ :=
  ((path.splitOn base).dropLast.map fun mid => displacement (base :: (mid ++ [base])) / n).sum

/-- How often a path goes round from its first visit of `base` on. -/
def winding (base : ZMod n) (path : List (ZMod n)) : ℤ :=
  (((path.splitOn base).tail.dropLast).map fun mid =>
    displacement (base :: (mid ++ [base])) / n).sum

@[simp] lemma displacement_singleton (x : ZMod n) : displacement [x] = 0 := rfl

@[simp] lemma displacement_cons_cons (x y : ZMod n) (path : List (ZMod n)) :
    displacement (x :: y :: path) = signedStep x y + displacement (y :: path) := rfl

/-- One more step. -/
lemma displacement_concat (path : List (ZMod n)) : ∀ x y : ZMod n,
    displacement (x :: (path ++ [y])) =
      displacement (x :: path) + signedStep (path.getLastD x) y := by
  induction path with
  | nil => intro x y; simp
  | cons z path ih =>
    intro x y
    rw [List.cons_append, displacement_cons_cons, displacement_cons_cons, ih, List.getLastD_cons]
    omega

/-- A signed step is the difference of its positions. -/
lemma cast_signedStep {x y : ZMod n} (h : IsStep x y) :
    ((signedStep x y : ℤ) : ZMod n) = y - x := by
  unfold signedStep
  split_ifs with hup hdown
  · rw [hup]
    simp
  · rw [← hdown]
    simp
  · obtain rfl : y = x := h.resolve_right (not_or.mpr ⟨hup, hdown⟩)
    simp

/-- The displacement says where a path ends. -/
lemma cast_displacement (path : List (ZMod n)) : ∀ {x : ZMod n},
    (x :: path).IsChain IsStep →
    ((displacement (x :: path) : ℤ) : ZMod n) = path.getLastD x - x := by
  induction path with
  | nil => intro x _; simp
  | cons y path ih =>
    intro x hpath
    obtain ⟨hstep, hrest⟩ := List.isChain_cons_cons.mp hpath
    rw [displacement_cons_cons, Int.cast_add, cast_signedStep hstep, ih hrest, List.getLastD_cons]
    exact sub_add_sub_cancel' _ _ _

/-- Signed steps are small. -/
lemma abs_signedStep_le (x y : ZMod n) : -1 ≤ signedStep x y ∧ signedStep x y ≤ 1 := by
  unfold signedStep
  split_ifs <;> omega

/-- Away from the base a path stays between two visits of it: `offset` is where it starts, counted
from the base in the positive direction. -/
lemma displacement_between {base : ZMod n} (path : List (ZMod n)) : ∀ {x : ZMod n} {offset : ℤ},
    0 < offset → offset < n → (offset : ZMod n) = x - base →
    (x :: path).IsChain IsStep → base ∉ path →
    0 < offset + displacement (x :: path) ∧ offset + displacement (x :: path) < n := by
  induction path with
  | nil => exact fun hpos hlt _ _ _ => ⟨by simpa using hpos, by simpa using hlt⟩
  | cons y path ih =>
    intro x offset hpos hlt hoffset hpath haway
    obtain ⟨hstep, hrest⟩ := List.isChain_cons_cons.mp hpath
    have hy : y ≠ base := fun heq => haway (heq ▸ List.mem_cons_self)
    have hnext : ((offset + signedStep x y : ℤ) : ZMod n) = y - base := by
      rw [Int.cast_add, hoffset, cast_signedStep hstep]
      exact sub_add_sub_cancel' _ _ _
    have hnot : ¬ (n : ℤ) ∣ offset + signedStep x y := by
      rw [← CharP.intCast_eq_zero_iff (ZMod n) n, hnext, sub_eq_zero]
      exact hy
    have hsmall := abs_signedStep_le x y
    have hzero : offset + signedStep x y ≠ 0 := fun h => hnot (h ▸ dvd_zero _)
    have hround : offset + signedStep x y ≠ n := fun h => hnot (h ▸ dvd_rfl)
    have hfinal := ih (by omega) (by omega) hnext hrest fun hmem =>
      haway (List.mem_cons_of_mem _ hmem)
    rw [displacement_cons_cons]
    omega

/-- The beginning of a path. -/
lemma isChain_of_concat {x y : ZMod n} {path : List (ZMod n)}
    (hpath : (x :: (path ++ [y])).IsChain IsStep) : (x :: path).IsChain IsStep := by
  rw [← List.cons_append] at hpath
  exact hpath.left_of_append

/-- **An arrival.**  A path that starts elsewhere and comes to the base for the first time has not
gone round. -/
theorem displacement_arrival [NeZero n] {base x : ZMod n} {mid : List (ZMod n)} (hx : x ≠ base)
    (hpath : (x :: (mid ++ [base])).IsChain IsStep) (haway : base ∉ mid) :
    -n < displacement (x :: (mid ++ [base])) ∧ displacement (x :: (mid ++ [base])) < n := by
  have hpos : 0 < (x - base).val := ZMod.val_pos.mpr (sub_ne_zero.mpr hx)
  have hlt := ZMod.val_lt (x - base)
  have hbetween := @displacement_between n base mid x (x - base).val (by omega) (by omega)
    (by rw [Int.cast_natCast, ZMod.natCast_zmod_val]) (isChain_of_concat hpath) haway
  have hstep := abs_signedStep_le (mid.getLastD x) base
  rw [displacement_concat]
  omega

/-- **A turn.**  A path that comes back to its base for the first time has gone round once, in
one of the two directions, or not at all. -/
theorem displacement_turn {base : ZMod n} (hn : 2 ≤ n) {mid : List (ZMod n)}
    (hpath : (base :: (mid ++ [base])).IsChain IsStep) (haway : base ∉ mid) :
    displacement (base :: (mid ++ [base])) = 0 ∨ displacement (base :: (mid ++ [base])) = n ∨
      displacement (base :: (mid ++ [base])) = -n := by
  have hdvd : (n : ℤ) ∣ displacement (base :: (mid ++ [base])) := by
    rw [← CharP.intCast_eq_zero_iff (ZMod n) n, cast_displacement _ hpath, List.getLastD_concat,
      sub_self]
  have hlast := abs_signedStep_le (mid.getLastD base) base
  have hconcat := displacement_concat mid base base
  have hbounds : -n ≤ displacement (base :: (mid ++ [base])) ∧
      displacement (base :: (mid ++ [base])) ≤ n := by
    cases mid with
    | nil =>
      rw [displacement_singleton] at hconcat
      omega
    | cons y mid =>
      have hy : y ≠ base := fun heq => haway (heq ▸ List.mem_cons_self)
      obtain ⟨hstep, hrest⟩ := List.isChain_cons_cons.mp (isChain_of_concat hpath)
      have haway' : base ∉ mid := fun hmem => haway (List.mem_cons_of_mem _ hmem)
      rw [displacement_cons_cons] at hconcat
      by_cases hup : y = base + 1
      · have hbetween := @displacement_between n base mid y 1 (by omega) (by omega)
          (by rw [hup, add_sub_cancel_left, Int.cast_one]) hrest haway'
        rw [show signedStep base y = 1 from if_pos hup] at hconcat
        omega
      · have hdown : y + 1 = base := (hstep.resolve_left hy).resolve_left hup
        have hbetween := @displacement_between n base mid y (n - 1) (by omega) (by omega)
          (by rw [← hdown]; simp) hrest haway'
        rw [show signedStep base y = -1 from (if_neg hup).trans (if_pos hdown)] at hconcat
        omega
  rcases lt_trichotomy (displacement (base :: (mid ++ [base]))) 0 with hneg | hzero | hpos
  · have hround := Int.le_of_dvd (Int.neg_pos_of_neg hneg) (dvd_neg.mpr hdvd)
    omega
  · exact .inl hzero
  · have hround := Int.le_of_dvd hpos hdvd
    omega

/-! ## The turns of a path -/

lemma turns_of_not_mem {base : ZMod n} {path : List (ZMod n)} (h : base ∉ path) :
    turns base path = 0 := by
  unfold turns
  rw [List.splitOn_eq_singleton h]
  rfl

lemma turns_append_cons {base : ZMod n} {mid : List (ZMod n)} (h : base ∉ mid)
    (path : List (ZMod n)) :
    turns base (mid ++ base :: path) =
      displacement (base :: (mid ++ [base])) / n + turns base path := by
  unfold turns
  rw [List.splitOn_append_cons_self_of_not_mem h,
    List.dropLast_cons_of_ne_nil (List.splitOn_ne_nil base path), List.map_cons, List.sum_cons]

/-- A path that does not reach the base does not go round. -/
lemma winding_of_not_mem {base : ZMod n} {path : List (ZMod n)} (h : base ∉ path) :
    winding base path = 0 := by
  unfold winding
  rw [List.splitOn_eq_singleton h]
  rfl

/-- From its first visit of the base on, a path makes its turns. -/
lemma winding_append_cons {base : ZMod n} {before : List (ZMod n)} (h : base ∉ before)
    (path : List (ZMod n)) : winding base (before ++ base :: path) = turns base path := by
  unfold winding turns
  rw [List.splitOn_append_cons_self_of_not_mem h, List.tail_cons]

end Winding
