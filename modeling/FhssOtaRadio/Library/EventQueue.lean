import Mathlib.Data.List.Basic
import Mathlib.Tactic.Common

/-!
# Machines that take their events from a queue

Several tasks post events to a bounded queue, and one task takes them out in order and lets a
machine `next : σ → ε → σ` react to each.  What the machine will do with the events that are
already queued is settled, whatever is posted behind them.  `Leads through goal s q` says that
the machine, started in `s` on the queue `q`, passes through states in `through` until it meets
`goal`, which may speak about the events still queued at that moment.
-/

namespace EventQueue

variable {σ ε : Type*}

/-- Post an event to a queue that holds at most `capacity` events; a full queue drops it. -/
def post (capacity : ℕ) (queue : List ε) (event : ε) : List ε :=
  if queue.length < capacity then queue ++ [event] else queue

/-- A queue that has room takes the event. -/
lemma post_of_room {capacity : ℕ} {queue : List ε} (h : queue.length < capacity) (event : ε) :
    post capacity queue event = queue ++ [event] :=
  if_pos h

/-- A post appends the event or nothing. -/
lemma post_eq (capacity : ℕ) (queue : List ε) (event : ε) :
    post capacity queue event = queue ++ [event] ∨ post capacity queue event = queue := by
  unfold post
  by_cases h : queue.length < capacity
  · exact .inl (if_pos h)
  · exact .inr (if_neg h)

/-- A post adds no other event. -/
lemma mem_of_mem_post {capacity : ℕ} {queue : List ε} {event e : ε}
    (h : e ∈ post capacity queue event) (hne : e ≠ event) : e ∈ queue := by
  rcases post_eq capacity queue event with heq | heq
  · rw [heq, List.mem_append, List.mem_singleton] at h
    exact h.resolve_right hne
  · rwa [heq] at h

/-- The machine started in a state on a queue passes through `through` until it meets `goal`. -/
def Leads (next : σ → ε → σ) (through : σ → Prop) (goal : σ → List ε → Prop) :
    σ → List ε → Prop
  | s, [] => goal s []
  | s, e :: queue => goal s (e :: queue) ∨ (through s ∧ Leads next through goal (next s e) queue)

section

variable {next : σ → ε → σ} {through : σ → Prop} {goal : σ → List ε → Prop}

instance decidableLeads [DecidablePred through] [∀ s queue, Decidable (goal s queue)] :
    ∀ s queue, Decidable (Leads next through goal s queue)
  | s, [] => inferInstanceAs (Decidable (goal s []))
  | s, e :: queue =>
      have := decidableLeads (next s e) queue
      inferInstanceAs (Decidable (goal s (e :: queue) ∨ (through s ∧ _)))

/-- A machine that meets the goal has nowhere to go. -/
lemma leads_of_goal {s : σ} {queue : List ε} (h : goal s queue) :
    Leads next through goal s queue := by
  cases queue with
  | nil => exact h
  | cons e queue => exact .inl h

/-- Once the queue is drained the goal is met. -/
@[simp] lemma leads_nil {s : σ} : Leads next through goal s [] ↔ goal s [] := Iff.rfl

/-- A machine that does not meet the goal goes on with the next event. -/
lemma Leads.take {s : σ} {e : ε} {queue : List ε} (h : Leads next through goal s (e :: queue))
    (hgoal : ¬ goal s (e :: queue)) : Leads next through goal (next s e) queue :=
  (h.resolve_left hgoal).2

/-- The state is one on the way, or meets the goal. -/
lemma Leads.through_or_goal {s : σ} {queue : List ε} (h : Leads next through goal s queue) :
    through s ∨ goal s queue := by
  cases queue with
  | nil => exact .inr h
  | cons e queue => exact h.symm.imp And.left id

/-- Events posted behind the queued ones do not keep the machine from its goal, when they do not
spoil the goal itself. -/
lemma Leads.append {s : σ} {queue events : List ε} (h : Leads next through goal s queue)
    (hgoal : ∀ s queue, goal s queue → goal s (queue ++ events)) :
    Leads next through goal s (queue ++ events) := by
  induction queue generalizing s with
  | nil => exact leads_of_goal (hgoal s [] h)
  | cons e queue ih =>
    rcases h with hmet | ⟨hthrough, hrest⟩
    · exact leads_of_goal (hgoal s _ hmet)
    · exact .inr ⟨hthrough, ih hrest⟩

/-- The same for a bounded queue, which may drop the event. -/
lemma Leads.post {s : σ} {queue : List ε} {event : ε} (capacity : ℕ)
    (h : Leads next through goal s queue)
    (hgoal : ∀ s queue, goal s queue → goal s (queue ++ [event])) :
    Leads next through goal s (post capacity queue event) := by
  rcases post_eq capacity queue event with heq | heq
  · rw [heq]
    exact h.append hgoal
  · rwa [heq]

end

end EventQueue
