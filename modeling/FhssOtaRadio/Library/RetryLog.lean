import Mathlib.Data.List.Basic
import Mathlib.Tactic.Common

/-!
# Items taken in order, with retries

A worker takes items one after another and logs every attempt at one, with a flag that says
whether the attempt was the last at this item.  `Passes log items rest` says that the attempts of
`log` went through the list `items` from the front, repeating an item until its last attempt, and
that `rest` is what they leave.
-/

namespace RetryLog

variable {α : Type*}

/-- The attempts of a log go through the items in order and leave the rest. -/
def Passes : List (α × Bool) → List α → List α → Prop
  | [], items, rest => items = rest
  | (a, last) :: log, items, rest =>
      ∃ tail, items = a :: tail ∧ Passes log (if last then tail else items) rest

/-- The items whose last attempt is in the log. -/
def finished (log : List (α × Bool)) : List α := (log.filter Prod.snd).map Prod.fst

@[simp] lemma finished_nil : finished ([] : List (α × Bool)) = [] := rfl

@[simp] lemma finished_append (log log' : List (α × Bool)) :
    finished (log ++ log') = finished log ++ finished log' := by
  unfold finished
  rw [List.filter_append, List.map_append]

@[simp] lemma finished_last (a : α) : finished [(a, true)] = [a] := rfl

@[simp] lemma finished_retry (a : α) : finished [(a, false)] = [] := rfl

/-- Without attempts everything is left. -/
@[simp] lemma passes_nil {items rest : List α} : Passes [] items rest ↔ items = rest := Iff.rfl

/-- Nothing is lost: the items are the finished ones followed by the rest. -/
lemma Passes.items_eq {log : List (α × Bool)} {items rest : List α} (h : Passes log items rest) :
    items = finished log ++ rest := by
  induction log generalizing items with
  | nil => exact h
  | cons attempt log ih =>
    obtain ⟨a, last⟩ := attempt
    obtain ⟨tail, rfl, hrest⟩ := h
    cases last with
    | true => exact congrArg (a :: ·) (ih hrest)
    | false => exact ih hrest

/-- An item that arrives behind the others is left behind the rest. -/
lemma Passes.arrive {log : List (α × Bool)} {items rest : List α} (h : Passes log items rest)
    (b : α) : Passes log (items ++ [b]) (rest ++ [b]) := by
  induction log generalizing items with
  | nil =>
    obtain rfl := passes_nil.mp h
    exact rfl
  | cons attempt log ih =>
    obtain ⟨a, last⟩ := attempt
    obtain ⟨tail, rfl, hrest⟩ := h
    refine ⟨tail ++ [b], rfl, ?_⟩
    cases last with
    | true => exact ih hrest
    | false => exact ih hrest

/-- Logs compose. -/
lemma Passes.append {log log' : List (α × Bool)} {items middle rest : List α}
    (h : Passes log items middle) (h' : Passes log' middle rest) :
    Passes (log ++ log') items rest := by
  induction log generalizing items with
  | nil =>
    obtain rfl := passes_nil.mp h
    exact h'
  | cons attempt log ih =>
    obtain ⟨a, last⟩ := attempt
    obtain ⟨tail, rfl, hrest⟩ := h
    exact ⟨tail, rfl, ih hrest⟩

/-- The last attempt at the first item left. -/
lemma Passes.last {log : List (α × Bool)} {items rest : List α} {a : α}
    (h : Passes log items (a :: rest)) : Passes (log ++ [(a, true)]) items rest :=
  h.append ⟨rest, rfl, rfl⟩

/-- An attempt at the first item left that will be repeated. -/
lemma Passes.retry {log : List (α × Bool)} {items rest : List α} {a : α}
    (h : Passes log items (a :: rest)) : Passes (log ++ [(a, false)]) items (a :: rest) :=
  h.append ⟨rest, rfl, rfl⟩

/-- What a log leaves is determined by its length. -/
lemma Passes.length_eq {log : List (α × Bool)} {items rest : List α}
    (h : Passes log items rest) : items.length = (finished log).length + rest.length := by
  rw [h.items_eq, List.length_append]

end RetryLog
