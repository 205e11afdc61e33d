import Mathlib.Data.List.Basic
import Mathlib.Tactic.Common

/-!
# Tasks behind a handle

A program creates worker tasks of one kind and keeps the handle of the last one in a variable.  A
task that comes to its end sets the variable to `NULL` itself and goes on for a few more
steps before it is gone.  A `TaskSlot` is the variable together with all the tasks created so
far: `current` is the task the variable names, `others` are those it does not name, each with the
point its program has reached.

Nothing in this keeps a second task from being created while the first one runs.  A slot is `Tidy`
when the points before the handle is given back are those of the current task alone; it stays so as
long as tasks are created only while the variable is `NULL`.
-/

/-- The variable that holds the handle of a task, and the tasks created so far. -/
structure TaskSlot (κ : Type*) where
  current : Option κ
  others : List κ
  deriving DecidableEq

namespace TaskSlot

variable {κ : Type*}

/-- No task was created yet. -/
def empty : TaskSlot κ := ⟨none, []⟩

/-- The point a task has reached: `none` is the current task, `some i` one of the others. -/
def point (slot : TaskSlot κ) : Option ℕ → Option κ
  | none => slot.current
  | some i => slot.others[i]?

/-- A task goes on to the point `k`. -/
def move (slot : TaskSlot κ) (which : Option ℕ) (k : κ) : TaskSlot κ :=
  match which with
  | none => { slot with current := some k }
  | some i => { slot with others := slot.others.set i k }

/-- The variable is set to `NULL`. -/
def forget (slot : TaskSlot κ) : TaskSlot κ := ⟨none, slot.current.toList ++ slot.others⟩

/-- A task that starts at `k` is created, and the variable names it. -/
def create (slot : TaskSlot κ) (k : κ) : TaskSlot κ :=
  ⟨some k, slot.current.toList ++ slot.others⟩

/-- A variable that is `NULL` already is not changed. -/
lemma forget_of_current_eq_none {slot : TaskSlot κ} (h : slot.current = none) :
    slot.forget = slot := by
  obtain ⟨current, others⟩ := slot
  subst h
  rfl

/-- The steps of a task leave the variable alone. -/
lemma current_move_eq_none_iff {slot : TaskSlot κ} {which : Option ℕ} {k k' : κ}
    (h : slot.point which = some k) :
    (slot.move which k').current = none ↔ slot.current = none := by
  cases which with
  | none =>
    have hcurrent : slot.current = some k := h
    simp [move, hcurrent]
  | some i => rfl

/-- A task goes on to the point `k`; in the step in which it `clears` the variable, that is `NULL`
afterwards. -/
def advance (slot : TaskSlot κ) (which : Option ℕ) (k : κ) (clears : Bool) : TaskSlot κ :=
  if clears then (slot.move which k).forget else slot.move which k

/-- The variable is not set by the steps of a task. -/
lemma isSome_current_of_advance {slot : TaskSlot κ} {which : Option ℕ} {k k' : κ} {clears : Bool}
    (h : slot.point which = some k) (hsome : (slot.advance which k' clears).current.isSome = true) :
    slot.current.isSome = true := by
  unfold advance at hsome
  cases clears with
  | true => cases hsome
  | false =>
    rw [if_neg Bool.false_ne_true, Option.isSome_iff_ne_none, ne_eq,
      current_move_eq_none_iff h] at hsome
    exact Option.isSome_iff_ne_none.mpr hsome

/-! ## One task at a time -/

/-- The tasks that have not given the handle back are the current one. -/
structure Tidy (holds : κ → Bool) (slot : TaskSlot κ) : Prop where
  current : ∀ k, slot.current = some k → holds k = true
  others : ∀ k ∈ slot.others, holds k = false

section Tidy

variable {holds : κ → Bool} {slot : TaskSlot κ} {which : Option ℕ} {k k' : κ} {clears : Bool}

/-- A slot without tasks is tidy. -/
lemma tidy_empty : (empty : TaskSlot κ).Tidy holds :=
  ⟨fun _ h => absurd h.symm (Option.some_ne_none _), List.forall_mem_nil _⟩

/-- A task that has not given the handle back is the current one. -/
lemma Tidy.eq_none (h : slot.Tidy holds) (hpoint : slot.point which = some k)
    (hk : holds k = true) : which = none := by
  cases which with
  | none => rfl
  | some i =>
    have hother := h.others k (List.mem_of_getElem? hpoint)
    rw [hk] at hother
    cases hother

/-- A task that has given it back is one of the others. -/
lemma Tidy.exists_eq_some (h : slot.Tidy holds) (hpoint : slot.point which = some k)
    (hk : holds k = false) : ∃ i, which = some i := by
  cases which with
  | none =>
    have hcurrent := h.current k hpoint
    rw [hk] at hcurrent
    cases hcurrent
  | some i => exact ⟨i, rfl⟩

/-- A step that does not concern the handle keeps a slot tidy. -/
lemma Tidy.move (h : slot.Tidy holds) (hpoint : slot.point which = some k)
    (hk : holds k' = holds k) : (slot.move which k').Tidy holds := by
  cases which with
  | none =>
    refine ⟨fun k'' hk'' => ?_, h.others⟩
    rw [← Option.some.inj hk'', hk]
    exact h.current k hpoint
  | some i =>
    refine ⟨h.current, fun k'' hk'' => ?_⟩
    rcases List.mem_or_eq_of_mem_set hk'' with hmem | heq
    · exact h.others k'' hmem
    · rw [heq, hk]
      exact h.others k (List.mem_of_getElem? hpoint)

/-- So does the step in which a task gives the handle back. -/
lemma Tidy.forget (h : slot.Tidy holds) (hpoint : slot.point which = some k)
    (hk : holds k = true) (hk' : holds k' = false) : (slot.move which k').forget.Tidy holds := by
  have hwhich := h.eq_none hpoint hk
  subst hwhich
  refine ⟨fun _ hnone => absurd hnone.symm (Option.some_ne_none _), fun k'' hk'' => ?_⟩
  rcases List.mem_append.mp hk'' with hmem | hmem
  · rw [List.mem_singleton.mp hmem]
    exact hk'
  · exact h.others k'' hmem

/-- A task that gives the handle back when it clears the variable, and only then, keeps a slot
tidy. -/
lemma Tidy.advance (h : slot.Tidy holds) (hpoint : slot.point which = some k)
    (hclears : clears = true → holds k = true) (hk' : holds k' = (holds k && !clears)) :
    (slot.advance which k' clears).Tidy holds := by
  unfold TaskSlot.advance
  cases clears with
  | true => exact h.forget hpoint (hclears rfl) (by rw [hk', Bool.not_true, Bool.and_false])
  | false => exact h.move hpoint (by rw [hk', Bool.not_false, Bool.and_true])

/-- So does the creation of a task while the variable is `NULL`. -/
lemma Tidy.create (h : slot.Tidy holds) (hnone : slot.current = none) (hk : holds k = true) :
    (slot.create k).Tidy holds := by
  refine ⟨fun k' hk' => ?_, fun k' hk' => ?_⟩
  · rw [← Option.some.inj hk']
    exact hk
  · rw [show (slot.create k).others = slot.others by simp [TaskSlot.create, hnone]] at hk'
    exact h.others k' hk'

/-- A step of a task that has given the handle back leaves the current task where it is. -/
lemma Tidy.current_advance_of_not (h : slot.Tidy holds) (hpoint : slot.point which = some k)
    (hclears : clears = true → holds k = true) (hk : holds k = false) :
    (slot.advance which k' clears).current = slot.current := by
  obtain ⟨i, rfl⟩ := h.exists_eq_some hpoint hk
  cases clears with
  | true =>
    have hcontra := hclears rfl
    rw [hk] at hcontra
    cases hcontra
  | false => rfl

/-- What only a task with the handle can have is read off the task that makes the step. -/
lemma Tidy.current_advance (h : slot.Tidy holds) (hpoint : slot.point which = some k)
    (hk : holds k = true) (hk' : holds k' = (holds k && !clears)) {γ : Type*} (read : κ → γ)
    (default : γ) (hread : ∀ k, holds k = false → read k = default) :
    slot.current.elim default read = read k ∧
      (slot.advance which k' clears).current.elim default read = read k' := by
  have hwhich := h.eq_none hpoint hk
  subst hwhich
  have hcurrent : slot.current = some k := hpoint
  refine ⟨by rw [hcurrent]; rfl, ?_⟩
  cases clears with
  | true => exact (hread k' (by rw [hk', Bool.not_true, Bool.and_false])).symm
  | false => rfl

end Tidy

end TaskSlot
