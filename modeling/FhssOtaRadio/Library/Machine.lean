import Mathlib.Data.List.Induction
import Mathlib.Tactic.Common

/-!
# Runs of a deterministic labelled machine

A program that reacts to one input after another is a function
`step : σ → α → σ × β`: it consumes a label `α` (the input together with the results the
environment hands back during the step), moves to a new state and produces an output `β`.
This file develops the runs of such a machine over a list of labels: the state reached
(`finalState`), the outputs produced (`outputs`), the runs all of whose steps meet a guard
(`Guarded`), the reachable states (`Reachable`), and the invariant rules that turn a step
lemma into a statement about whole runs.
-/

namespace Machine

variable {σ α β : Type*} (step : σ → α → σ × β)

/-- The state a machine is in after consuming the labels `l` one by one. -/
def finalState : σ → List α → σ
  | s, [] => s
  | s, a :: l => finalState (step s a).1 l

/-- The outputs a machine produces while consuming the labels `l`, oldest first. -/
def outputs : σ → List α → List β
  | _, [] => []
  | s, a :: l => (step s a).2 :: outputs (step s a).1 l

/-- A run is guarded when every label meets `Ok` in the state it is consumed in. -/
def Guarded (Ok : σ → α → Prop) : σ → List α → Prop
  | _, [] => True
  | s, a :: l => Ok s a ∧ Guarded Ok (step s a).1 l

instance decidableGuarded (Ok : σ → α → Prop) [∀ s a, Decidable (Ok s a)] :
    ∀ s l, Decidable (Guarded step Ok s l)
  | _, [] => inferInstanceAs (Decidable True)
  | s, a :: l =>
      have := decidableGuarded Ok (step s a).1 l
      inferInstanceAs (Decidable (Ok s a ∧ Guarded step Ok (step s a).1 l))

/-- The states reached from an initial state by some finite run. -/
def Reachable (init : σ → Prop) (s : σ) : Prop :=
  ∃ s₀ l, init s₀ ∧ finalState step s₀ l = s

@[simp] lemma finalState_nil (s : σ) : finalState step s [] = s := rfl

@[simp] lemma finalState_cons (s : σ) (a : α) (l : List α) :
    finalState step s (a :: l) = finalState step (step s a).1 l := rfl

@[simp] lemma outputs_nil (s : σ) : outputs step s [] = [] := rfl

@[simp] lemma outputs_cons (s : σ) (a : α) (l : List α) :
    outputs step s (a :: l) = (step s a).2 :: outputs step (step s a).1 l := rfl

@[simp] lemma guarded_nil (Ok : σ → α → Prop) (s : σ) : Guarded step Ok s [] := trivial

@[simp] lemma guarded_cons (Ok : σ → α → Prop) (s : σ) (a : α) (l : List α) :
    Guarded step Ok s (a :: l) ↔ Ok s a ∧ Guarded step Ok (step s a).1 l := Iff.rfl

/-- A run produces one output for each label. -/
@[simp] lemma length_outputs (s : σ) (l : List α) : (outputs step s l).length = l.length := by
  induction l generalizing s with
  | nil => rfl
  | cons a l ih => simp [ih]

/-- Consuming `l ++ l'` is consuming `l` and then `l'`. -/
lemma finalState_append (s : σ) (l l' : List α) :
    finalState step s (l ++ l') = finalState step (finalState step s l) l' := by
  induction l generalizing s with
  | nil => rfl
  | cons a l ih => exact ih (step s a).1

/-- The outputs of `l ++ l'` are those of `l` followed by those of `l'`. -/
lemma outputs_append (s : σ) (l l' : List α) :
    outputs step s (l ++ l') = outputs step s l ++ outputs step (finalState step s l) l' := by
  induction l generalizing s with
  | nil => rfl
  | cons a l ih => simp [ih (step s a).1]

/-- The first outputs are those of the first labels. -/
lemma take_outputs (s : σ) (l : List α) (k : ℕ) :
    (outputs step s l).take k = outputs step s (l.take k) := by
  induction l generalizing s k with
  | nil => simp
  | cons a l ih =>
    cases k with
    | zero => rfl
    | succ k => simp [ih (step s a).1]

/-- Two machines whose states, labels and outputs correspond step by step, in what `h` and `h'` see
of the outputs, correspond in their runs. -/
lemma map_outputs_eq {σ' α' β' γ : Type*} {step' : σ' → α' → σ' × β'} {f : σ → σ'} {g : α → α'}
    {h : β → γ} {h' : β' → γ} (hstate : ∀ s a, (step' (f s) (g a)).1 = f (step s a).1)
    (houtput : ∀ s a, h' (step' (f s) (g a)).2 = h (step s a).2) (s : σ) (l : List α) :
    (outputs step s l).map h = (outputs step' (f s) (l.map g)).map h' := by
  induction l generalizing s with
  | nil => rfl
  | cons a l ih => simp [hstate, houtput, ih (step s a).1]

/-- The output of a label is produced in the state the labels before it lead to. -/
lemma getElem?_outputs (s : σ) (l : List α) (k : ℕ) :
    (outputs step s l)[k]? = l[k]?.map fun a => (step (finalState step s (l.take k)) a).2 := by
  induction l generalizing s k with
  | nil => rfl
  | cons a l ih =>
    cases k with
    | zero => rfl
    | succ k => exact ih (step s a).1 k

/-- A run over `l ++ l'` is guarded exactly when both parts are. -/
lemma guarded_append {Ok : σ → α → Prop} {s : σ} {l l' : List α} :
    Guarded step Ok s (l ++ l') ↔
      Guarded step Ok s l ∧ Guarded step Ok (finalState step s l) l' := by
  induction l generalizing s with
  | nil => simp
  | cons a l ih => simp [ih (s := (step s a).1), and_assoc]

/-- A run stays guarded when the guard is weakened. -/
lemma Guarded.mono {Ok Ok' : σ → α → Prop} (himp : ∀ s a, Ok s a → Ok' s a) {s : σ}
    {l : List α} (h : Guarded step Ok s l) : Guarded step Ok' s l := by
  induction l generalizing s with
  | nil => trivial
  | cons a l ih => exact ⟨himp s a h.1, ih h.2⟩

/-- The invariant rule: what holds initially and is preserved by every guarded step holds
after every guarded run. -/
theorem invariant_finalState {Inv : σ → Prop} {Ok : σ → α → Prop}
    (hstep : ∀ s a, Inv s → Ok s a → Inv (step s a).1) {s : σ} (h₀ : Inv s) {l : List α}
    (hl : Guarded step Ok s l) : Inv (finalState step s l) := by
  induction l generalizing s with
  | nil => exact h₀
  | cons a l ih => exact ih (hstep s a h₀ hl.1) hl.2

/-- The invariant rule for all runs: what holds initially and is preserved by every step holds
after every run. -/
theorem invariant_run {Inv : σ → Prop} (hstep : ∀ s a, Inv s → Inv (step s a).1) {s : σ}
    (h₀ : Inv s) (l : List α) : Inv (finalState step s l) := by
  induction l generalizing s with
  | nil => exact h₀
  | cons a l ih => exact ih (hstep s a h₀)

/-- The invariant rule with history: the invariant may also speak about the labels consumed
so far. -/
theorem invariant_labels {Inv : List α → σ → Prop} {Ok : σ → α → Prop} {s : σ}
    (h₀ : Inv [] s)
    (hstep : ∀ l a, Inv l (finalState step s l) → Ok (finalState step s l) a →
      Inv (l ++ [a]) (step (finalState step s l) a).1) {l : List α}
    (hl : Guarded step Ok s l) : Inv l (finalState step s l) := by
  induction l using List.reverseRecOn with
  | nil => exact h₀
  | append_singleton l a ih =>
    rw [guarded_append] at hl
    rw [finalState_append]
    exact hstep l a (ih hl.1) hl.2.1

/-- The invariant rule with a full history: the invariant may also speak about the labels
consumed and the outputs produced so far. -/
theorem invariant_history (Inv : List α → List β → σ → Prop)
    (hstep : ∀ l bs s a, Inv l bs s → Inv (l ++ [a]) (bs ++ [(step s a).2]) (step s a).1) {s : σ}
    (h₀ : Inv [] [] s) (l : List α) : Inv l (outputs step s l) (finalState step s l) := by
  induction l using List.reverseRecOn with
  | nil => exact h₀
  | append_singleton l a ih =>
    rw [finalState_append, outputs_append]
    exact hstep l _ _ a ih

/-- A property of all prefixes, one label at a time. -/
lemma forall_prefix_cons {P : List α → Prop} {a : α} {l : List α} :
    (∀ l', l' <+: a :: l → P l') ↔ P [] ∧ ∀ l', l' <+: l → P (a :: l') := by
  constructor
  · intro h
    exact ⟨h [] List.nil_prefix, fun l' hl' => h (a :: l') (List.cons_prefix_cons.mpr ⟨rfl, hl'⟩)⟩
  · rintro ⟨hnil, hcons⟩ l' hl'
    cases l' with
    | nil => exact hnil
    | cons b l' =>
      obtain ⟨rfl, htail⟩ := List.cons_prefix_cons.mp hl'
      exact hcons l' htail

/-- The exact rule: when a step keeps the invariant exactly if it meets the guard, the invariant
holds all along a run exactly if the run is guarded. -/
theorem forall_prefix_iff_guarded {Inv : σ → Prop} {Ok : σ → α → Prop}
    (hstep : ∀ s a, Inv s → (Inv (step s a).1 ↔ Ok s a)) {s : σ} (h₀ : Inv s) {l : List α} :
    (∀ l', l' <+: l → Inv (finalState step s l')) ↔ Guarded step Ok s l := by
  induction l generalizing s with
  | nil =>
    refine ⟨fun _ => trivial, fun _ l' hl' => ?_⟩
    rw [List.prefix_nil.mp hl']
    exact h₀
  | cons a l ih =>
    rw [forall_prefix_cons]
    constructor
    · rintro ⟨-, hrest⟩
      have hfirst : Inv (step s a).1 := hrest [] List.nil_prefix
      exact ⟨(hstep s a h₀).mp hfirst, (ih hfirst).mp hrest⟩
    · rintro ⟨hok, hrest⟩
      exact ⟨h₀, (ih ((hstep s a h₀).mpr hok)).mpr hrest⟩

/-- A step taken in a guarded run: the run up to it is guarded, and the step meets the guard. -/
lemma Guarded.split {Ok : σ → α → Prop} {s : σ} {l l' : List α} {a : α}
    (h : Guarded step Ok s (l ++ a :: l')) :
    Guarded step Ok s l ∧ Ok (finalState step s l) a := by
  rw [guarded_append] at h
  exact ⟨h.1, h.2.1⟩

end Machine
