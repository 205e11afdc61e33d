import Mathlib.Data.List.Basic
import Mathlib.Tactic.Common

/-!
# Chains of steps that stop at the first failure

A transaction makes its steps one after another and gives up as soon as one of them fails.  A
chain is the list of these steps, each with the code the environment answers it with.  The steps
that take effect are those in front of the first failing one; when the power is lost the chain
is cut short, and what took effect is a prefix of what would have taken effect.
-/

namespace FaultChain

variable {ι ε : Type*} [DecidableEq ε] (good : ε)

/-- The steps of a chain that take effect: those in front of the first one that fails. -/
def effective : List (ι × ε) → List ι
  | [] => []
  | (step, code) :: rest => if code = good then step :: effective rest else []

/-- The code a chain ends with: that of the first step that fails. -/
def code : List (ι × ε) → ε
  | [] => good
  | (_, code') :: rest => if code' = good then code rest else code'

@[simp] lemma effective_cons_good (step : ι) (rest : List (ι × ε)) :
    effective good ((step, good) :: rest) = step :: effective good rest :=
  if_pos rfl

@[simp] lemma code_cons_good (step : ι) (rest : List (ι × ε)) :
    code good ((step, good) :: rest) = code good rest :=
  if_pos rfl

lemma effective_cons_of_ne {err : ε} (h : err ≠ good) (step : ι) (rest : List (ι × ε)) :
    effective good ((step, err) :: rest) = [] :=
  if_neg h

/-- What takes effect before the power is lost is the beginning of what would have. -/
lemma effective_take_prefix (calls : List (ι × ε)) (n : ℕ) :
    effective good (calls.take n) <+: effective good calls := by
  induction calls generalizing n with
  | nil => simp
  | cons call rest ih =>
    obtain ⟨step, err⟩ := call
    cases n with
    | zero => exact List.nil_prefix
    | succ n =>
      rw [List.take_succ_cons]
      by_cases herr : err = good
      · subst herr
        rw [effective_cons_good, effective_cons_good]
        exact List.cons_prefix_cons.mpr ⟨rfl, ih n⟩
      · rw [effective_cons_of_ne good herr]
        exact List.nil_prefix

/-- Only steps of the chain take effect. -/
lemma mem_of_mem_effective {calls : List (ι × ε)} {step : ι} (h : step ∈ effective good calls) :
    step ∈ calls.map Prod.fst := by
  induction calls with
  | nil => exact absurd h List.not_mem_nil
  | cons call rest ih =>
    obtain ⟨first, err⟩ := call
    by_cases herr : err = good
    · subst herr
      rw [effective_cons_good] at h
      rcases List.mem_cons.mp h with rfl | hrest
      · exact List.mem_cons_self
      · exact List.mem_cons_of_mem _ (ih hrest)
    · rw [effective_cons_of_ne good herr] at h
      exact absurd h List.not_mem_nil

end FaultChain
