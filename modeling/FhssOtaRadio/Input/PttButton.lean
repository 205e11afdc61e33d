import FhssOtaRadio.Library.Debounce

/-!
# The push-to-talk button (`ptt_button.c`)

A task polls the button and reports a level that it has read `PTT_BUTTON_DEBOUNCE_COUNT` times in
a row, if that is not the level reported before.  The counting is `Debounce.step`; its state are
the variables `candidate`, `stable_count` and `s_pressed`.
-/

namespace FhssOtaRadio

open Machine

/-- `PTT_BUTTON_DEBOUNCE_COUNT`. -/
def pttButtonDebounceCount : ℕ := 6

/-- `PTT_BUTTON_ACTIVE_LOW`. -/
def pttButtonActiveLow : Bool := true

/-- `raw_level_pressed`, at the level that `gpio_get_level` reads. -/
def rawLevelPressed (level : Bool) : Bool := if pttButtonActiveLow then !level else level

/-- What `ptt_button_task` begins with. -/
def pttButtonTaskStart (level : Bool) : Debounce.State :=
  Debounce.start pttButtonDebounceCount (rawLevelPressed level)

/-- A turn of the loop of `ptt_button_task`: the state afterwards and the level that `s_cb` is
called with; `registered` says that `s_cb` is not `NULL`. -/
def pttButtonPoll (registered : Bool) (state : Debounce.State) (level : Bool) :
    Debounce.State × Option Bool :=
  let (state, pressed) :=
    Debounce.step pttButtonDebounceCount state (rawLevelPressed level)
  (state, if registered then pressed else none)

/-- The calls of `s_cb` in a run of `ptt_button_task`, poll by poll. -/
def pttButtonCallbacks (first : Bool) (levels : List Bool) : List (Option Bool) :=
  outputs (pttButtonPoll true) (pttButtonTaskStart first) levels

/-- The task debounces the samples that `raw_level_pressed` reads. -/
lemma pttButtonCallbacks_eq (first : Bool) (levels : List Bool) :
    pttButtonCallbacks first levels =
      outputs (Debounce.step pttButtonDebounceCount)
        (Debounce.start pttButtonDebounceCount (rawLevelPressed first))
        (levels.map rawLevelPressed) := by
  have hruns := @map_outputs_eq _ _ _ (pttButtonPoll true) _ _ _ _
    (Debounce.step pttButtonDebounceCount) id rawLevelPressed id id (fun _ _ => rfl)
    (fun _ _ => rfl) (pttButtonTaskStart first) levels
  rw [List.map_id, List.map_id] at hruns
  exact hruns

end FhssOtaRadio
