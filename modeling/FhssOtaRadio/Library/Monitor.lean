import FhssOtaRadio.Library.Machine

/-!
# Monitored machines

A machine whose steps emit lists of calls is watched by a monitor: a second machine that reads
the calls one by one and says of each whether it is allowed.  When the monitor's state is a
function of the machine's (`view`) as long as an invariant holds, it is enough to look at the
calls of one step (`Orderly`); the calls of a whole run are then allowed, one after the other
(`guarded_trace`).
-/

namespace Monitor

open Machine

variable {σ α ρ β γ : Type*}

/-- The calls that a run emits, in order. -/
def trace (step : σ → α → σ × List β) (s : σ) (l : List α) : List β := (outputs step s l).flatten

section Orderly

variable (monitor : ρ → β → ρ × γ) (Allowed : ρ → β → Prop)

/-- A list of calls is allowed from `before` on, and takes the monitor to `after`. -/
structure Orderly (before : ρ) (calls : List β) (after : ρ) : Prop where
  guarded : Guarded monitor Allowed before calls
  final : finalState monitor before calls = after

variable {monitor Allowed}

/-- No call takes the monitor nowhere. -/
lemma Orderly.nil (before : ρ) : Orderly monitor Allowed before [] before := ⟨trivial, rfl⟩

/-- One call, and then the others. -/
lemma Orderly.cons {before after : ρ} {call : β} {calls : List β} (hcall : Allowed before call)
    (h : Orderly monitor Allowed (monitor before call).1 calls after) :
    Orderly monitor Allowed before (call :: calls) after :=
  ⟨⟨hcall, h.guarded⟩, h.final⟩

/-- Some calls, and then the others. -/
lemma Orderly.append {before between after : ρ} {calls calls' : List β}
    (h : Orderly monitor Allowed before calls between)
    (h' : Orderly monitor Allowed between calls' after) :
    Orderly monitor Allowed before (calls ++ calls') after := by
  refine ⟨(guarded_append monitor).mpr ⟨h.guarded, ?_⟩, ?_⟩
  · rw [h.final]
    exact h'.guarded
  · rw [finalState_append, h.final]
    exact h'.final

/-- **The calls of a guarded run are allowed** when those of every step that meets the guard are. -/
theorem guarded_trace_of_guarded {step : σ → α → σ × List β} {Inv : σ → Prop} {Ok : σ → α → Prop}
    {view : σ → ρ}
    (hstep : ∀ s a, Inv s → Ok s a →
      Inv (step s a).1 ∧ Orderly monitor Allowed (view s) (step s a).2 (view (step s a).1))
    {s : σ} (h₀ : Inv s) {l : List α} (hl : Guarded step Ok s l) :
    Inv (finalState step s l) ∧
      Orderly monitor Allowed (view s) (trace step s l) (view (finalState step s l)) := by
  induction l generalizing s with
  | nil => exact ⟨h₀, .nil _⟩
  | cons a l ih =>
      obtain ⟨hinv, horderly⟩ := hstep s a h₀ hl.1
      obtain ⟨hinv', hrest⟩ := ih hinv hl.2
      exact ⟨hinv', horderly.append hrest⟩

/-- The calls of a run are allowed when those of every step are. -/
theorem guarded_trace {step : σ → α → σ × List β} {Inv : σ → Prop} {view : σ → ρ}
    (hstep : ∀ s a, Inv s →
      Inv (step s a).1 ∧ Orderly monitor Allowed (view s) (step s a).2 (view (step s a).1))
    {s : σ} (h₀ : Inv s) (l : List α) :
    Inv (finalState step s l) ∧
      Orderly monitor Allowed (view s) (trace step s l) (view (finalState step s l)) := by
  have hl : Guarded step (fun _ _ => True) s l := by
    induction l generalizing s with
    | nil => trivial
    | cons a l ih => exact ⟨trivial, ih (hstep s a h₀).1⟩
  exact guarded_trace_of_guarded (fun s a hinv _ => hstep s a hinv) h₀ hl

end Orderly

end Monitor
