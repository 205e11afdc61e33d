import FhssOtaRadio.Input.PttButton
import FhssOtaRadio.Library.Winding
import FhssOtaRadio.Product.Fsm
import Mathlib.Data.Fin.VecNotation

/-!
# The rotary encoder (`rotary_encoder.c`)

A task polls the contacts A and B of the encoder and its switch.  The contacts run through four
positions in each detent; the task counts the steps between the positions, and moves the cursor
of the menu when the contacts come back to the position of rest with a full detent counted.  On
the cycle of the four positions the count is the displacement since the last visit of the
position of rest, and the cursor follows the winding number of the path.
-/

namespace FhssOtaRadio

open Machine Winding

/-! ## The task -/

/-- `ROTARY_ENCODER_MENU_COUNT`. -/
def rotaryEncoderMenuCount : ℤ := 3

/-- `ROTARY_ENCODER_STEPS_PER_DETENT`. -/
def rotaryEncoderStepsPerDetent : ℤ := 4

/-- `ROTARY_ENCODER_SW_DEBOUNCE_COUNT`. -/
def rotaryEncoderSwDebounceCount : ℕ := 6

/-- `ROTARY_ENCODER_SW_ACTIVE_LOW`. -/
def rotaryEncoderSwActiveLow : Bool := true

/-- The value of a menu entry in `rotary_encoder_menu_t`. -/
def MenuItem.toInt : MenuItem → ℤ
  | .comm => 0
  | .idle => 1
  | .ota => 2

/-- The menu entry of a value below the menu count. -/
def MenuItem.ofInt (value : ℤ) : MenuItem :=
  if value = 0 then .comm else if value = 1 then .idle else .ota

/-- What `gpio_get_level` reads in one poll at A, B and SW. -/
structure RotaryPoll where
  a : Bool
  b : Bool
  sw : Bool
  deriving DecidableEq

/-- The variables of `rotary_encoder_task`, and `s_cursor`. -/
structure RotaryState where
  prevAb : Fin 4
  accum : ℤ
  sw : Debounce.State
  cursor : MenuItem

/-- `REST_AB`. -/
def restAb : Fin 4 := 3

/-- `s_gray_to_step`. -/
def sGrayToStep : Fin 4 → ℤ := ![0, 1, 3, 2]

/-- `read_ab`. -/
def readAb (poll : RotaryPoll) : Fin 4 :=
  ⟨(poll.b.toNat <<< 1) ||| poll.a.toNat, by cases poll.a <;> cases poll.b <;> decide⟩

/-- `sw_raw_pressed`. -/
def swRawPressed (poll : RotaryPoll) : Bool :=
  if rotaryEncoderSwActiveLow then !poll.sw else poll.sw

/-- `move_cursor`: the cursor afterwards and what `s_cursor_cb` is called with. -/
def moveCursor (registered : Bool) (cursor : MenuItem) (deltaDetents : ℤ) :
    MenuItem × Option MenuItem :=
  let next := (cursor.toInt + deltaDetents).tmod rotaryEncoderMenuCount
  let next := if next < 0 then next + rotaryEncoderMenuCount else next
  if MenuItem.ofInt next = cursor then (cursor, none)
  else (MenuItem.ofInt next, if registered then some (MenuItem.ofInt next) else none)

/-- The quadrature decoding of a poll: `accum` afterwards. -/
def decodeStep (accum : ℤ) (prevAb currAb : Fin 4) : ℤ :=
  if currAb = prevAb then accum
  else
    let delta := (sGrayToStep currAb - sGrayToStep prevAb + 4).tmod 4
    if delta = 3 then accum + 1 else if delta = 1 then accum - 1 else accum

/-- The confirmation of a detent: `accum` and the cursor afterwards, and what `s_cursor_cb` is
called with. -/
def confirmDetent (registered : Bool) (cursor : MenuItem) (accum : ℤ) (currAb : Fin 4) :
    ℤ × MenuItem × Option MenuItem :=
  if currAb = restAb ∧ accum ≠ 0 then
    if rotaryEncoderStepsPerDetent ≤ accum then (0, moveCursor registered cursor 1)
    else if accum ≤ -rotaryEncoderStepsPerDetent then (0, moveCursor registered cursor (-1))
    else (0, cursor, none)
  else (accum, cursor, none)

/-- What `rotary_encoder_task` begins with. -/
def rotaryEncoderTaskStart (poll : RotaryPoll) (cursor : MenuItem) : RotaryState :=
  ⟨readAb poll, 0, Debounce.start rotaryEncoderSwDebounceCount (swRawPressed poll), cursor⟩

/-- A turn of the loop of `rotary_encoder_task`: the state afterwards, and what `s_cursor_cb` and
`s_select_cb` are called with; `registered` says of each that it is not `NULL`. -/
def rotaryEncoderPoll (registered : Bool × Bool) (state : RotaryState) (poll : RotaryPoll) :
    RotaryState × (Option MenuItem × Option MenuItem) :=
  let currAb := readAb poll
  let accum := decodeStep state.accum state.prevAb currAb
  let (accum, cursor, moved) := confirmDetent registered.1 state.cursor accum currAb
  let (sw, pressed) :=
    Debounce.step rotaryEncoderSwDebounceCount state.sw (swRawPressed poll)
  (⟨currAb, accum, sw, cursor⟩,
    (moved, if pressed = some true ∧ registered.2 = true then some cursor else none))

/-! ## The path of the contacts -/

/-- The place of a position on the cycle, counted clockwise from the position of rest: one detent
clockwise reads 11, 01, 00, 10 and 11 again. -/
def quadrature : Fin 4 → ZMod 4 := ![2, 1, 3, 0]

/-- The place that a poll reads. -/
def RotaryPoll.place (poll : RotaryPoll) : ZMod 4 := quadrature (readAb poll)

/-- The poll reads the position of rest. -/
def RotaryPoll.AtRest (poll : RotaryPoll) : Prop := readAb poll = restAb

instance (poll : RotaryPoll) : Decidable poll.AtRest := inferInstanceAs (Decidable (_ = _))

/-- Two polls differ in one of the contacts at most. -/
def RotaryPoll.OneBit (poll poll' : RotaryPoll) : Prop := poll'.a = poll.a ∨ poll'.b = poll.b

instance (poll poll' : RotaryPoll) : Decidable (poll.OneBit poll') :=
  inferInstanceAs (Decidable (_ ∨ _))

/-- The position of rest is the base of the cycle. -/
lemma RotaryPoll.atRest_iff (poll : RotaryPoll) : poll.AtRest ↔ poll.place = 0 := by
  obtain ⟨a, b, sw⟩ := poll
  cases a <;> cases b <;> decide +revert

/-- Polls that differ in one contact read neighbouring places. -/
lemma RotaryPoll.OneBit.isStep {poll poll' : RotaryPoll} (h : poll.OneBit poll') :
    IsStep poll.place poll'.place := by
  obtain ⟨a, b, sw⟩ := poll
  obtain ⟨a', b', sw'⟩ := poll'
  unfold IsStep
  cases a <;> cases b <;> cases a' <;> cases b' <;> revert h <;> decide +revert

/-- The decoder counts signed steps. -/
lemma decodeStep_eq (accum : ℤ) (prevAb currAb : Fin 4) :
    decodeStep accum prevAb currAb =
      accum + signedStep (quadrature prevAb) (quadrature currAb) := by
  have hstep : ∀ prevAb currAb, decodeStep 0 prevAb currAb =
      signedStep (quadrature prevAb) (quadrature currAb) := by decide
  rw [← hstep]
  unfold decodeStep
  dsimp only
  split_ifs <;> omega

/-- A detent moves the cursor on by one, around the menu, and reports it. -/
lemma moveCursor_detent (cursor : MenuItem) {deltaDetents : ℤ}
    (h : deltaDetents = 1 ∨ deltaDetents = -1) :
    ∃ next, moveCursor true cursor deltaDetents = (next, some next) ∧
      next.toInt = (cursor.toInt + deltaDetents) % rotaryEncoderMenuCount := by
  rcases h with rfl | rfl
  · exact ⟨(moveCursor true cursor 1).1, by cases cursor <;> decide⟩
  · exact ⟨(moveCursor true cursor (-1)).1, by cases cursor <;> decide⟩

/-! ## Runs of polls -/

/-- The places that a run reads after its first poll. -/
def places (polls : List RotaryPoll) : List (ZMod 4) := polls.map RotaryPoll.place

/-- The calls of `s_cursor_cb` in a run from a state, poll by poll. -/
def cursorCalls (selectRegistered : Bool) (state : RotaryState) (polls : List RotaryPoll) :
    List (Option MenuItem) :=
  (outputs (rotaryEncoderPoll (true, selectRegistered)) state polls).map Prod.fst

/-- The state that a run from a state reaches. -/
def rotaryEncoderRun (selectRegistered : Bool) (state : RotaryState) (polls : List RotaryPoll) :
    RotaryState :=
  finalState (rotaryEncoderPoll (true, selectRegistered)) state polls

/-- What rotating the encoder does: the cursor follows the winding number of the path; a turn from
one visit of the position of rest to the next is a detent, which is reported once with the new
cursor, or none, which is not reported; before the second visit nothing is. -/
structure WindingLaw (selectRegistered : Bool) (start : RotaryPoll) (cursor : MenuItem)
    (polls : List RotaryPoll) : Prop where
  cursor_eq :
    (rotaryEncoderRun selectRegistered (rotaryEncoderTaskStart start cursor)
      polls).cursor.toInt =
        (cursor.toInt + winding 0 (places (start :: polls))) % rotaryEncoderMenuCount
  turn : ∀ before mid close after, polls = before ++ (mid ++ close :: after) →
    (before.getLastD start).AtRest → (∀ poll ∈ mid, ¬ poll.AtRest) → close.AtRest →
    let net := displacement (0 :: (places mid ++ [0]))
    let calls := cursorCalls selectRegistered (rotaryEncoderTaskStart start cursor) polls
    (net = 0 ∨ net = 4 ∨ net = -4) ∧
      (calls.drop before.length).take (mid.length + 1) =
        List.replicate mid.length none ++
          [if net = 0 then none
            else some (rotaryEncoderRun selectRegistered (rotaryEncoderTaskStart start cursor)
              (before ++ (mid ++ [close]))).cursor]
  early : ∀ before after, polls = before ++ after →
    (∀ poll ∈ (start :: before).dropLast, ¬ poll.AtRest) →
    ∀ call ∈ (cursorCalls selectRegistered (rotaryEncoderTaskStart start cursor)
      polls).take before.length, call = none

section Runs

variable {selectRegistered : Bool} {state : RotaryState}

/-- The value of a menu entry is below the menu count. -/
lemma MenuItem.toInt_emod (cursor : MenuItem) :
    cursor.toInt % rotaryEncoderMenuCount = cursor.toInt := by
  cases cursor <;> rfl

/-- Away from the position of rest a path avoids the base. -/
lemma zero_not_mem_places {polls : List RotaryPoll} (haway : ∀ poll ∈ polls, ¬ poll.AtRest) :
    0 ∉ places polls := by
  intro hmem
  obtain ⟨poll, hpoll, hzero⟩ := List.mem_map.mp hmem
  exact haway poll hpoll (poll.atRest_iff.mpr hzero)

/-- Away from the position of rest a poll only counts. -/
lemma rotaryEncoderPoll_away {poll : RotaryPoll} (haway : ¬ poll.AtRest) :
    let after := rotaryEncoderPoll (true, selectRegistered) state poll
    after.2.1 = none ∧ after.1.cursor = state.cursor ∧ after.1.prevAb = readAb poll ∧
      after.1.accum = state.accum + signedStep (quadrature state.prevAb) poll.place := by
  have hconfirm : confirmDetent true state.cursor
      (decodeStep state.accum state.prevAb (readAb poll)) (readAb poll) =
        (decodeStep state.accum state.prevAb (readAb poll), state.cursor, none) :=
    if_neg fun hrest => haway hrest.1
  unfold rotaryEncoderPoll
  dsimp only
  rw [hconfirm]
  exact ⟨rfl, rfl, rfl, decodeStep_eq _ _ _⟩

/-- At the position of rest a poll begins a new count, and a full detent moves the cursor. -/
lemma rotaryEncoderPoll_rest {poll : RotaryPoll} (hrest : poll.AtRest) :
    let after := rotaryEncoderPoll (true, selectRegistered) state poll
    let counted := state.accum + signedStep (quadrature state.prevAb) 0
    after.1.prevAb = restAb ∧ after.1.accum = 0 ∧
      ((-4 < counted ∧ counted < 4 ∧ after.2.1 = none ∧ after.1.cursor = state.cursor) ∨
        (4 ≤ counted ∧ after.2.1 = some after.1.cursor ∧
          after.1.cursor.toInt = (state.cursor.toInt + 1) % rotaryEncoderMenuCount) ∨
        (counted ≤ -4 ∧ after.2.1 = some after.1.cursor ∧
          after.1.cursor.toInt = (state.cursor.toInt + -1) % rotaryEncoderMenuCount)) := by
  have hcounted : decodeStep state.accum state.prevAb (readAb poll) =
      state.accum + signedStep (quadrature state.prevAb) 0 := by
    rw [decodeStep_eq, hrest]
    rfl
  unfold rotaryEncoderPoll
  dsimp only
  rw [hcounted, hrest]
  generalize state.accum + signedStep (quadrature state.prevAb) 0 = counted
  obtain ⟨next, hnext, hvalue⟩ := moveCursor_detent state.cursor (.inl rfl)
  obtain ⟨next', hnext', hvalue'⟩ := moveCursor_detent state.cursor (.inr rfl)
  unfold confirmDetent rotaryEncoderStepsPerDetent
  by_cases hzero : counted = 0
  · rw [if_neg fun h => h.2 hzero]
    exact ⟨rfl, hzero, .inl ⟨by omega, by omega, rfl, rfl⟩⟩
  rw [if_pos ⟨rfl, hzero⟩]
  by_cases hforward : 4 ≤ counted
  · rw [if_pos hforward, hnext]
    exact ⟨rfl, rfl, .inr (.inl ⟨hforward, rfl, hvalue⟩)⟩
  rw [if_neg hforward]
  by_cases hback : counted ≤ -4
  · rw [if_pos hback, hnext']
    exact ⟨rfl, rfl, .inr (.inr ⟨hback, rfl, hvalue'⟩)⟩
  · rw [if_neg hback]
    exact ⟨rfl, rfl, .inl ⟨by omega, by omega, rfl, rfl⟩⟩

/-- Away from the position of rest the task only counts. -/
lemma rotaryEncoderRun_away (polls : List RotaryPoll) : ∀ {state : RotaryState},
    (∀ poll ∈ polls, ¬ poll.AtRest) →
    let reached := rotaryEncoderRun selectRegistered state polls
    cursorCalls selectRegistered state polls = List.replicate polls.length none ∧
      reached.cursor = state.cursor ∧
      quadrature reached.prevAb = (places polls).getLastD (quadrature state.prevAb) ∧
      reached.accum =
        state.accum + displacement (quadrature state.prevAb :: places polls) := by
  induction polls with
  | nil => exact fun _ => ⟨rfl, rfl, rfl, (add_zero _).symm⟩
  | cons poll polls ih =>
    intro state haway
    obtain ⟨hcall, hcursor, hprev, haccum⟩ := @rotaryEncoderPoll_away selectRegistered state poll
      (haway poll List.mem_cons_self)
    obtain ⟨hcalls, hcursor', hprev', haccum'⟩ := @ih
      (rotaryEncoderPoll (true, selectRegistered) state poll).1
      fun poll' hmem => haway poll' (List.mem_cons_of_mem _ hmem)
    have hplace : quadrature (rotaryEncoderPoll (true, selectRegistered) state poll).1.prevAb =
        poll.place := congrArg quadrature hprev
    refine ⟨?_, hcursor'.trans hcursor, ?_, ?_⟩
    · change (rotaryEncoderPoll (true, selectRegistered) state poll).2.1 ::
        cursorCalls selectRegistered _ polls = _
      rw [hcall, hcalls]
      rfl
    · rw [hplace] at hprev'
      change _ = (poll.place :: places polls).getLastD _
      rw [List.getLastD_cons]
      exact hprev'
    · rw [hplace, haccum] at haccum'
      change _ = _ + displacement (_ :: poll.place :: places polls)
      rw [displacement_cons_cons, ← add_assoc]
      exact haccum'

/-- The last poll of a stretch that ends at the position of rest. -/
lemma rotaryEncoderRun_concat (polls : List RotaryPoll) (poll : RotaryPoll) :
    rotaryEncoderRun selectRegistered state (polls ++ [poll]) =
        (rotaryEncoderPoll (true, selectRegistered)
          (rotaryEncoderRun selectRegistered state polls) poll).1 ∧
      cursorCalls selectRegistered state (polls ++ [poll]) =
        cursorCalls selectRegistered state polls ++
          [(rotaryEncoderPoll (true, selectRegistered)
            (rotaryEncoderRun selectRegistered state polls) poll).2.1] := by
  unfold rotaryEncoderRun cursorCalls
  rw [finalState_append, outputs_append, List.map_append]
  exact ⟨rfl, rfl⟩

/-- The state in which the last poll has read the position of rest. -/
def RotaryState.Resting (state : RotaryState) : Prop :=
  state.prevAb = restAb ∧ state.accum = 0

/-- **A turn.**  From one visit of the position of rest to the next the cursor moves by the rounds
that the contacts have made, and the move is reported. -/
lemma rotaryEncoderRun_turn (hresting : state.Resting) {mid : List RotaryPoll}
    {close : RotaryPoll} (hpath : (0 :: (places mid ++ [0])).IsChain IsStep)
    (haway : ∀ poll ∈ mid, ¬ poll.AtRest) (hclose : close.AtRest) :
    let net := displacement (0 :: (places mid ++ [0]))
    let reached := rotaryEncoderRun selectRegistered state (mid ++ [close])
    reached.Resting ∧ (net = 0 ∨ net = 4 ∨ net = -4) ∧
      reached.cursor.toInt = (state.cursor.toInt + net / 4) % rotaryEncoderMenuCount ∧
      cursorCalls selectRegistered state (mid ++ [close]) =
        List.replicate mid.length none ++ [if net = 0 then none else some reached.cursor] := by
  intro net reached
  obtain ⟨hrun, hcall⟩ := @rotaryEncoderRun_concat selectRegistered state mid close
  obtain ⟨hcalls, hcursor, hprev, haccum⟩ := @rotaryEncoderRun_away selectRegistered mid state haway
  obtain ⟨hprev', haccum', hmoves⟩ := @rotaryEncoderPoll_rest selectRegistered
    (rotaryEncoderRun selectRegistered state mid) close hclose
  have hplace : quadrature state.prevAb = 0 := by rw [hresting.1]; rfl
  have hnet : net = 0 ∨ net = 4 ∨ net = -4 :=
    displacement_turn (by decide) hpath (zero_not_mem_places haway)
  have hcounted : (rotaryEncoderRun selectRegistered state mid).accum +
      signedStep (quadrature (rotaryEncoderRun selectRegistered state mid).prevAb) 0 = net := by
    rw [haccum, hprev, hplace, hresting.2, zero_add]
    exact (displacement_concat (places mid) 0 0).symm
  rw [hcounted, hcursor] at hmoves
  rw [← hrun] at hprev' haccum' hmoves
  rw [hcall, hcalls]
  rcases hmoves with ⟨hlow, hhigh, hnone, hsame⟩ | ⟨hforward, hsome, hmoved⟩ |
    ⟨hback, hsome, hmoved⟩
  · have hzero : net = 0 := by omega
    refine ⟨⟨hprev', haccum'⟩, hnet, ?_, ?_⟩
    · rw [hzero, hsame]
      exact (state.cursor.toInt_emod).symm.trans (congrArg (· % _) (add_zero _).symm)
    · rw [if_pos hzero, hnone]
  · have hfour : net = 4 := by omega
    refine ⟨⟨hprev', haccum'⟩, hnet, ?_, ?_⟩
    · rw [hfour]
      exact hmoved
    · rw [if_neg (by omega), hsome]
  · have hfour : net = -4 := by omega
    refine ⟨⟨hprev', haccum'⟩, hnet, ?_, ?_⟩
    · rw [hfour]
      exact hmoved
    · rw [if_neg (by omega), hsome]

/-- **An arrival.**  The first visit of the position of rest moves nothing. -/
lemma rotaryEncoderRun_arrival (haccum₀ : state.accum = 0) (hstart : quadrature state.prevAb ≠ 0)
    {mid : List RotaryPoll} {close : RotaryPoll}
    (hpath : (quadrature state.prevAb :: (places mid ++ [0])).IsChain IsStep)
    (haway : ∀ poll ∈ mid, ¬ poll.AtRest) (hclose : close.AtRest) :
    let reached := rotaryEncoderRun selectRegistered state (mid ++ [close])
    reached.Resting ∧ reached.cursor = state.cursor ∧
      cursorCalls selectRegistered state (mid ++ [close]) =
        List.replicate (mid.length + 1) none := by
  intro reached
  obtain ⟨hrun, hcall⟩ := @rotaryEncoderRun_concat selectRegistered state mid close
  obtain ⟨hcalls, hcursor, hprev, haccum⟩ := @rotaryEncoderRun_away selectRegistered mid state haway
  obtain ⟨hprev', haccum', hmoves⟩ := @rotaryEncoderPoll_rest selectRegistered
    (rotaryEncoderRun selectRegistered state mid) close hclose
  have hcounted : (rotaryEncoderRun selectRegistered state mid).accum +
      signedStep (quadrature (rotaryEncoderRun selectRegistered state mid).prevAb) 0 =
        displacement (quadrature state.prevAb :: (places mid ++ [0])) := by
    rw [haccum, hprev, haccum₀, zero_add]
    exact (displacement_concat (places mid) _ 0).symm
  obtain ⟨hlow, hhigh⟩ := displacement_arrival hstart hpath (zero_not_mem_places haway)
  rw [hcounted, hcursor] at hmoves
  rw [← hrun] at hprev' haccum' hmoves
  rcases hmoves with ⟨-, -, hnone, hsame⟩ | ⟨hforward, -⟩ | ⟨hback, -⟩
  · rw [hcall, hcalls, hnone, ← List.replicate_succ']
    exact ⟨⟨hprev', haccum'⟩, hsame, rfl⟩
  · exact absurd hhigh (by push_cast; omega)
  · exact absurd hlow (by push_cast; omega)

/-- Polls stay away from the position of rest, or reach it for a first time. -/
lemma away_or_first_rest (polls : List RotaryPoll) :
    (∀ poll ∈ polls, ¬ poll.AtRest) ∨
      ∃ mid close after, polls = mid ++ close :: after ∧ (∀ poll ∈ mid, ¬ poll.AtRest) ∧
        close.AtRest := by
  induction polls with
  | nil => exact .inl fun poll hpoll => absurd hpoll List.not_mem_nil
  | cons poll polls ih =>
    by_cases hpoll : poll.AtRest
    · exact .inr ⟨[], poll, polls, rfl, fun poll' h => absurd h List.not_mem_nil, hpoll⟩
    rcases ih with haway | ⟨mid, close, after, rfl, haway, hclose⟩
    · exact .inl (List.forall_mem_cons.mpr ⟨hpoll, haway⟩)
    · exact .inr ⟨poll :: mid, close, after, rfl, List.forall_mem_cons.mpr ⟨hpoll, haway⟩, hclose⟩

/-- The places of a stretch that ends at the position of rest. -/
lemma places_append_rest (mid after : List RotaryPoll) {close : RotaryPoll}
    (hclose : close.AtRest) : places (mid ++ close :: after) = places mid ++ 0 :: places after := by
  unfold places
  rw [List.map_append, List.map_cons, close.atRest_iff.mp hclose]

lemma rotaryEncoderRun_append (polls polls' : List RotaryPoll) :
    rotaryEncoderRun selectRegistered state (polls ++ polls') =
      rotaryEncoderRun selectRegistered (rotaryEncoderRun selectRegistered state polls) polls' :=
  finalState_append _ state polls polls'

lemma cursorCalls_append (polls polls' : List RotaryPoll) :
    cursorCalls selectRegistered state (polls ++ polls') =
      cursorCalls selectRegistered state polls ++
        cursorCalls selectRegistered (rotaryEncoderRun selectRegistered state polls) polls' := by
  unfold cursorCalls
  rw [outputs_append, List.map_append]
  rfl

/-- From a visit of the position of rest on, the cursor follows the turns. -/
lemma rotaryEncoderRun_turns (length : ℕ) : ∀ {state : RotaryState} {polls : List RotaryPoll},
    polls.length = length → state.Resting → (0 :: places polls).IsChain IsStep →
    (rotaryEncoderRun selectRegistered state polls).cursor.toInt =
      (state.cursor.toInt + turns 0 (places polls)) % rotaryEncoderMenuCount := by
  induction length using Nat.strong_induction_on with
  | _ length ih =>
    rintro state polls rfl hresting hpath
    rcases away_or_first_rest polls with haway | ⟨mid, close, after, rfl, haway, hclose⟩
    · obtain ⟨-, hcursor, -⟩ := @rotaryEncoderRun_away selectRegistered polls state haway
      rw [hcursor, turns_of_not_mem (zero_not_mem_places haway), add_zero,
        state.cursor.toInt_emod]
    · rw [places_append_rest mid after hclose] at hpath ⊢
      have hsplit : mid ++ close :: after = (mid ++ [close]) ++ after := by simp
      have hfirst : (0 :: (places mid ++ [0])).IsChain IsStep :=
        hpath.infix ⟨[], places after, by simp⟩
      have hrest : (0 :: places after).IsChain IsStep :=
        hpath.infix ⟨0 :: places mid, [], by simp⟩
      obtain ⟨hresting', -, hcursor, -⟩ := @rotaryEncoderRun_turn selectRegistered state hresting
        mid close hfirst haway hclose
      have hshorter : after.length < (mid ++ close :: after).length := by
        rw [List.length_append, List.length_cons]
        omega
      have hlater := ih after.length hshorter rfl hresting' hrest
      rw [hsplit, rotaryEncoderRun_append, hlater, hcursor,
        turns_append_cons (zero_not_mem_places haway), Int.emod_add_emod, add_assoc]
      rfl

/-- A run that ends at the position of rest ends in a state of rest. -/
lemma resting_rotaryEncoderRun {start : RotaryPoll} (cursor : MenuItem)
    (polls : List RotaryPoll) (hrest : (polls.getLastD start).AtRest) :
    (rotaryEncoderRun selectRegistered (rotaryEncoderTaskStart start cursor) polls).Resting := by
  induction polls using List.reverseRecOn with
  | nil => exact ⟨hrest, rfl⟩
  | append_singleton polls poll ih =>
    rw [List.getLastD_concat] at hrest
    obtain ⟨hprev, haccum, -⟩ := @rotaryEncoderPoll_rest selectRegistered
      (rotaryEncoderRun selectRegistered (rotaryEncoderTaskStart start cursor) polls) poll hrest
    rw [(rotaryEncoderRun_concat polls poll).1]
    exact ⟨hprev, haccum⟩

/-- Polls that differ in one contact at most make a path. -/
lemma isChain_places {polls : List RotaryPoll} (h : polls.IsChain RotaryPoll.OneBit) :
    (places polls).IsChain IsStep := by
  unfold places
  rw [List.isChain_map]
  exact h.imp fun poll poll' => RotaryPoll.OneBit.isStep

/-- A stretch of a path, with the place where it starts. -/
lemma isChain_stretch {start : RotaryPoll} {before stretch after : List RotaryPoll}
    (hpath : (start :: (before ++ (stretch ++ after))).IsChain RotaryPoll.OneBit) :
    ((before.getLastD start).place :: places stretch).IsChain IsStep := by
  have hlast : (start :: before).dropLast ++ [before.getLastD start] = start :: before := by
    rw [← List.getLast_eq_getLastD (List.cons_ne_nil start before)]
    exact List.dropLast_concat_getLast _
  have hinfix : before.getLastD start :: stretch <:+: start :: (before ++ (stretch ++ after)) := by
    refine ⟨(start :: before).dropLast, after, ?_⟩
    rw [List.append_cons, hlast]
    simp
  have hstretch := hpath.infix hinfix
  exact isChain_places hstretch

lemma length_cursorCalls (polls : List RotaryPoll) :
    (cursorCalls selectRegistered state polls).length = polls.length := by
  unfold cursorCalls
  rw [List.length_map, length_outputs]

/-- The cursor of a run from the start follows the winding number. -/
lemma rotaryEncoderRun_winding {start : RotaryPoll} {polls : List RotaryPoll}
    (hpath : (start :: polls).IsChain RotaryPoll.OneBit) (cursor : MenuItem) :
    (rotaryEncoderRun selectRegistered (rotaryEncoderTaskStart start cursor) polls).cursor.toInt =
      (cursor.toInt + winding 0 (places (start :: polls))) % rotaryEncoderMenuCount := by
  by_cases hstart : start.AtRest
  · have hplaces : places (start :: polls) = [] ++ 0 :: places polls :=
      places_append_rest [] polls hstart
    have hrest := isChain_places hpath
    rw [hplaces] at hrest
    rw [hplaces, winding_append_cons List.not_mem_nil]
    exact rotaryEncoderRun_turns polls.length rfl ⟨hstart, rfl⟩ hrest
  rcases away_or_first_rest polls with haway | ⟨mid, close, after, rfl, haway, hclose⟩
  · obtain ⟨-, hcursor, -⟩ := @rotaryEncoderRun_away selectRegistered polls
      (rotaryEncoderTaskStart start cursor) haway
    have hnone := zero_not_mem_places (List.forall_mem_cons.mpr ⟨hstart, haway⟩)
    rw [hcursor, winding_of_not_mem hnone, add_zero, cursor.toInt_emod]
    rfl
  · have hplaces : places (start :: (mid ++ close :: after)) =
        places (start :: mid) ++ 0 :: places after :=
      places_append_rest (start :: mid) after hclose
    have hwhole := isChain_places hpath
    rw [hplaces] at hwhole
    have hfirst : (start.place :: (places mid ++ [0])).IsChain IsStep :=
      hwhole.infix ⟨[], places after, by simp [places]⟩
    have hrest : (0 :: places after).IsChain IsStep :=
      hwhole.infix ⟨places (start :: mid), [], by simp⟩
    obtain ⟨hresting, hcursor, -⟩ := @rotaryEncoderRun_arrival selectRegistered
      (rotaryEncoderTaskStart start cursor) rfl (start.atRest_iff.not.mp hstart) mid close hfirst
      haway hclose
    have hsplit : mid ++ close :: after = (mid ++ [close]) ++ after := by simp
    rw [hplaces, winding_append_cons
      (zero_not_mem_places (List.forall_mem_cons.mpr ⟨hstart, haway⟩)), hsplit,
      rotaryEncoderRun_append, rotaryEncoderRun_turns after.length rfl hresting hrest, hcursor]
    rfl

/-- Nothing is reported before the second visit of the position of rest. -/
lemma cursorCalls_early {start : RotaryPoll} (cursor : MenuItem) {polls : List RotaryPoll}
    (hpath : (start :: polls).IsChain RotaryPoll.OneBit)
    (haway : ∀ poll ∈ (start :: polls).dropLast, ¬ poll.AtRest) :
    ∀ call ∈ cursorCalls selectRegistered (rotaryEncoderTaskStart start cursor) polls,
      call = none := by
  cases polls using List.reverseRecOn with
  | nil => exact fun call hcall => absurd hcall List.not_mem_nil
  | append_singleton mid close =>
    rw [← List.cons_append, List.dropLast_concat, List.forall_mem_cons] at haway
    obtain ⟨hstart, hmid⟩ := haway
    by_cases hclose : close.AtRest
    · have hwhole := isChain_places hpath
      rw [← List.cons_append, places_append_rest (start :: mid) [] hclose] at hwhole
      obtain ⟨-, -, hcalls⟩ := @rotaryEncoderRun_arrival selectRegistered
        (rotaryEncoderTaskStart start cursor) rfl (start.atRest_iff.not.mp hstart) mid close
        hwhole hmid hclose
      rw [hcalls]
      exact fun call hcall => List.eq_of_mem_replicate hcall
    · have haway' : ∀ poll ∈ mid ++ [close], ¬ poll.AtRest := by
        intro poll hpoll
        rcases List.mem_append.mp hpoll with hmem | hmem
        · exact hmid poll hmem
        · exact List.mem_singleton.mp hmem ▸ hclose
      obtain ⟨hcalls, -⟩ := @rotaryEncoderRun_away selectRegistered (mid ++ [close])
        (rotaryEncoderTaskStart start cursor) haway'
      rw [hcalls]
      exact fun call hcall => List.eq_of_mem_replicate hcall

end Runs

/-- **Rotary decoding is the winding number.**  Whatever contacts the polls read, as long as two
polls in a row differ in one contact at most. -/
theorem rotaryEncoder_winding {start : RotaryPoll} {polls : List RotaryPoll}
    (hpath : (start :: polls).IsChain RotaryPoll.OneBit) (cursor : MenuItem)
    (selectRegistered : Bool) : WindingLaw selectRegistered start cursor polls := by
  refine ⟨rotaryEncoderRun_winding hpath cursor, ?_, ?_⟩
  · rintro before mid close after rfl hrest haway hclose net calls
    have hresting := @resting_rotaryEncoderRun selectRegistered start cursor before hrest
    have hsplit : mid ++ close :: after = (mid ++ [close]) ++ after := by simp
    rw [hsplit] at hpath
    have hstretch := isChain_stretch hpath
    rw [(before.getLastD start).atRest_iff.mp hrest, places_append_rest mid [] hclose]
      at hstretch
    obtain ⟨-, hnet, -, hcalls⟩ := @rotaryEncoderRun_turn selectRegistered _ hresting mid close
      hstretch haway hclose
    refine ⟨hnet, ?_⟩
    have hsegment : (calls.drop before.length).take (mid.length + 1) =
        cursorCalls selectRegistered (rotaryEncoderRun selectRegistered
          (rotaryEncoderTaskStart start cursor) before) (mid ++ [close]) := by
      change ((cursorCalls _ _ (before ++ (mid ++ close :: after))).drop _).take _ = _
      rw [hsplit, cursorCalls_append, cursorCalls_append,
        List.drop_left' (length_cursorCalls before),
        List.take_left' (by rw [length_cursorCalls, List.length_append, List.length_singleton])]
    rw [hsegment, hcalls, rotaryEncoderRun_append before]
  · rintro before after rfl haway call hcall
    rw [cursorCalls_append, List.take_left' (length_cursorCalls before)] at hcall
    rw [← List.cons_append] at hpath
    exact cursorCalls_early cursor (hpath.left_of_append) haway call hcall

/-- A start off the position of rest, a bounce at its first visit, and a detent clockwise. -/
def sampleDetent : List RotaryPoll :=
  [⟨true, true, true⟩, ⟨true, false, true⟩, ⟨true, true, true⟩, ⟨true, false, true⟩,
    ⟨false, false, true⟩, ⟨false, true, true⟩, ⟨true, true, true⟩]

/-- The sample detent moves the cursor on from the last entry of the menu to the first. -/
theorem rotaryEncoder_winding_detent :
    WindingLaw true ⟨false, true, true⟩ .ota sampleDetent ∧
      (rotaryEncoderRun true (rotaryEncoderTaskStart ⟨false, true, true⟩ .ota)
        sampleDetent).cursor = .comm :=
  ⟨rotaryEncoder_winding (by decide) .ota true, by decide⟩

/-! ## The switch -/

/-- The calls of `s_select_cb` in a run from a start, poll by poll. -/
def selectCalls (cursorRegistered : Bool) (start : RotaryPoll) (cursor : MenuItem)
    (polls : List RotaryPoll) : List (Option MenuItem) :=
  (outputs (rotaryEncoderPoll (cursorRegistered, true)) (rotaryEncoderTaskStart start cursor)
    polls).map Prod.snd

/-- The switch is debounced like the push-to-talk button, and its presses are reported. -/
lemma isSome_selectCalls (cursorRegistered : Bool) (start : RotaryPoll) (cursor : MenuItem)
    (polls : List RotaryPoll) :
    (selectCalls cursorRegistered start cursor polls).map Option.isSome =
      (outputs (Debounce.step rotaryEncoderSwDebounceCount)
        (Debounce.start rotaryEncoderSwDebounceCount (swRawPressed start))
        (polls.map swRawPressed)).map (· == some true) := by
  unfold selectCalls
  rw [List.map_map]
  refine @map_outputs_eq _ _ _ (rotaryEncoderPoll (cursorRegistered, true)) _ _ _ _
    (Debounce.step rotaryEncoderSwDebounceCount) RotaryState.sw swRawPressed
    (Option.isSome ∘ Prod.snd) (· == some true) (fun _ _ => rfl) (fun state poll => ?_)
    (rotaryEncoderTaskStart start cursor) polls
  unfold rotaryEncoderPoll
  dsimp only [Function.comp_apply]
  generalize Debounce.step rotaryEncoderSwDebounceCount state.sw (swRawPressed poll) = counted
  by_cases hpressed : counted.2 = some true
  · rw [if_pos ⟨hpressed, rfl⟩, hpressed]
    rfl
  · rw [if_neg fun h => hpressed h.1]
    exact beq_false_of_ne hpressed

/-- **The buttons are debounced.**  The callback of the push-to-talk button is called by the law of
debouncing, whatever the samples are; so would be one of the switch of the encoder, of which only
the presses are reported. -/
theorem buttons_debounced :
    (∀ first levels, Debounce.Law pttButtonDebounceCount (rawLevelPressed first)
      (levels.map rawLevelPressed) (pttButtonCallbacks first levels)) ∧
    ∀ cursorRegistered start cursor polls, ∃ reports : List (Option Bool),
      Debounce.Law rotaryEncoderSwDebounceCount (swRawPressed start) (polls.map swRawPressed)
        reports ∧
      (selectCalls cursorRegistered start cursor polls).map Option.isSome =
        reports.map (· == some true) := by
  constructor
  · intro first levels
    rw [pttButtonCallbacks_eq]
    exact Debounce.law_run (by decide) _ _
  · intro cursorRegistered start cursor polls
    exact ⟨_, Debounce.law_run (by decide) _ _,
      isSome_selectCalls cursorRegistered start cursor polls⟩

end FhssOtaRadio
