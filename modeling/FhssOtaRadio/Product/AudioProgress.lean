import FhssOtaRadio.Library.Progress
import FhssOtaRadio.Product.SpeakerChannel

/-!
# The waits for the audio tasks end (`main/fsm.c`)

`stop_tx_audio_task` and `stop_rx_audio_task` wait in a loop until another task has cleared its
handle, and an event that arrives meanwhile waits in the queue.  The wait ends whatever the
task was doing when the flag was raised: it sees the flag at most one frame later.  So
`fsm_task` is through with the audio side of the entry into a state after a bounded number of rounds
in which each of the three tasks makes a step (`audioWaits_end`), in any order and with any steps of
the others in between.  What else an entry does, with the wait of `stop_ota_radio` for the OTA radio
task, is not part of these rounds.
-/

namespace FhssOtaRadio

open Machine Progress

/-! ## The measure -/

/-- The steps that are left to an RX task that has been asked to end, until it clears its handle. -/
def RxAudioPoint.rank : RxAudioPoint → ℕ
  | .receive _ => 5
  | .play _ => 4
  | .silence _ => 4
  | .test _ => 3
  | .disableSpeaker _ => 2
  | .clearHandle _ => 1
  | _ => 0

/-- The same for a TX task. -/
def TxAudioPoint.rank : TxAudioPoint → ℕ
  | .capture => 4
  | .submit => 3
  | .test => 2
  | .clearHandle => 1
  | .deleted => 0

/-- The steps that are left until the handle is cleared. -/
def AudioSystem.toEnd (s : AudioSystem) : AudioTask → ℕ
  | .tx => s.tx.current.elim 0 TxAudioPoint.rank
  | .rx => s.rx.current.elim 0 RxAudioPoint.rank

/-- What an action may cost that `fsm_task` has not begun. -/
def AudioAction.weight : AudioAction → ℕ
  | .stopAudioTask _ => 9
  | _ => 1

/-- What the first action may still cost. -/
def AudioSystem.headWeight (s : AudioSystem) : AudioAction → ℕ
  | .stopAudioTask task =>
      match s.stage with
      | .start => 9
      | .raise => 8
      | .await => 2 + s.toEnd task
      | .lower => 1
  | _ => 1

/-- What `fsm_task` still has to do of the entry, with the steps of the tasks it waits for. -/
def AudioSystem.toDo (s : AudioSystem) : ℕ :=
  match s.todo with
  | [] => 0
  | action :: rest => s.headWeight action + (rest.map AudioAction.weight).sum

/-- The task that `fsm_task` waits for. -/
def AudioSystem.waitsFor (s : AudioSystem) : Option AudioTask :=
  match s.todo with
  | .stopAudioTask task :: _ => if s.stage = .await ∧ s.running task = true then some task else none
  | _ => none

/-- The steps that bring `fsm_task` on: those of the task it waits for, or its own. -/
def HelpsFsmTask (s : AudioSystem) (a : AudioStep) : Prop :=
  match s.waitsFor with
  | none => ∃ ok, a = .fsmTask ok
  | some .rx => a = .rxAudioTask none
  | some .tx => ∃ captured, a = .txAudioTask none captured

/-- `fsm_task` has nothing left to do of the audio side of an entry. -/
def AudioEntered (s : AudioSystem) : Prop := s.todo = []

section Ranks

/-- Once it is asked to end, every step brings an RX task closer to that. -/
lemma RxAudioPoint.rank_next_lt (point : RxAudioPoint) (h : point.hasHandle = true)
    (queue : List Bytes) : (point.next true queue).1.rank < point.rank := by
  cases point with
  | receive idleMs =>
    cases queue with
    | nil => exact (by decide : 4 < 5)
    | cons frame queue => exact (by decide : 4 < 5)
  | silence idleMs =>
    dsimp only [next]
    split
    · exact (by decide : 2 < 4)
    · exact (by decide : 3 < 4)
  | test => exact (by decide : 2 < 3)
  | play => exact (by decide : 3 < 4)
  | disableSpeaker => exact (by decide : 1 < 2)
  | clearHandle => exact (by decide : 0 < 1)
  | _ => cases h

/-- The same for a TX task. -/
lemma TxAudioPoint.rank_next_lt (point : TxAudioPoint) (h : point.hasHandle = true)
    (captured : Bool) : (point.next true captured).rank < point.rank := by
  cases point with
  | deleted => cases h
  | _ => cases captured <;> decide

lemma RxAudioPoint.rank_of_not (point : RxAudioPoint) (h : point.hasHandle = false) :
    point.rank = 0 := by
  cases point with
  | check => rfl
  | postRxDone => rfl
  | deleted => rfl
  | _ => cases h

lemma TxAudioPoint.rank_of_not (point : TxAudioPoint) (h : point.hasHandle = false) :
    point.rank = 0 := by
  cases point with
  | deleted => rfl
  | _ => cases h

lemma RxAudioPoint.rank_le (point : RxAudioPoint) : point.rank ≤ 5 := by
  unfold rank
  split <;> omega

lemma TxAudioPoint.rank_le (point : TxAudioPoint) : point.rank ≤ 5 := by
  cases point <;> decide

/-- A wait costs less than the function that waits may cost. -/
lemma AudioSystem.toEnd_le (s : AudioSystem) (task : AudioTask) : s.toEnd task ≤ 5 := by
  cases task with
  | tx =>
    unfold toEnd
    cases s.tx.current with
    | none => exact Nat.zero_le _
    | some point => exact point.rank_le
  | rx =>
    unfold toEnd
    cases s.rx.current with
    | none => exact Nat.zero_le _
    | some point => exact point.rank_le

/-- A task without a handle has no steps left. -/
lemma AudioSystem.toEnd_of_not_running {s : AudioSystem} {task : AudioTask}
    (h : s.running task = false) : s.toEnd task = 0 := by
  cases task with
  | tx =>
    have hnone : s.tx.current = none := Option.not_isSome_iff_eq_none.mp
      (by rw [show s.tx.current.isSome = false from h]; exact Bool.false_ne_true)
    unfold toEnd
    rw [hnone]
    rfl
  | rx =>
    have hnone : s.rx.current = none := Option.not_isSome_iff_eq_none.mp
      (by rw [show s.rx.current.isSome = false from h]; exact Bool.false_ne_true)
    unfold toEnd
    rw [hnone]
    rfl

end Ranks

section Measure

variable {s : AudioSystem} {action : AudioAction} {rest : List AudioAction}

/-- With work left the measure is that of the first action and of the others. -/
lemma toDo_of_cons (htodo : s.todo = action :: rest) :
    s.toDo = s.headWeight action + (rest.map AudioAction.weight).sum := by
  unfold AudioSystem.toDo
  rw [htodo]

/-- Every action costs something. -/
lemma headWeight_pos (s : AudioSystem) (action : AudioAction) : 0 < s.headWeight action := by
  unfold AudioSystem.headWeight
  split
  · split <;> omega
  · exact Nat.one_pos

/-- Outside the functions that stop a task, no action has begun. -/
lemma toDo_of_start (hstage : s.stage = .start) : s.toDo = (s.todo.map AudioAction.weight).sum := by
  unfold AudioSystem.toDo
  cases htodo : s.todo with
  | nil => rfl
  | cons action rest =>
    rw [List.map_cons, List.sum_cons]
    refine congrArg (· + _) ?_
    unfold AudioSystem.headWeight
    rw [hstage]
    cases action <;> rfl

/-- An action that has begun does not cost more than one that has not. -/
lemma toDo_le_sum (s : AudioSystem) : s.toDo ≤ (s.todo.map AudioAction.weight).sum := by
  unfold AudioSystem.toDo
  cases htodo : s.todo with
  | nil => exact Nat.zero_le _
  | cons action rest =>
    rw [List.map_cons, List.sum_cons]
    refine Nat.add_le_add_right ?_ _
    unfold AudioSystem.headWeight
    split
    · next task =>
      have hle := s.toEnd_le task
      change _ ≤ 9
      split <;> omega
    · cases action <;> first | exact Nat.le_refl _ | exact (by decide : 1 ≤ 9)

/-- No entry costs more than twenty steps. -/
lemma AudioInv.toDo_le (h : AudioInv s) : s.toDo ≤ 20 := by
  have hall : ∀ fsm, (enterAudio fsm).tails.all
      (fun todo => decide ((todo.map AudioAction.weight).sum ≤ 20)) = true := by
    intro fsm
    cases fsm <;> rfl
  have hone := List.all_eq_true.mp (hall s.fsm) s.todo ((List.mem_tails _ _).mpr h.script)
  exact (toDo_le_sum s).trans (of_decide_eq_true hone)

end Measure

/-! ## The steps -/

section Steps

variable {s : AudioSystem}

/-- What `fsm_task` waits for is the first thing it has to do. -/
lemma waitsFor_eq_some_iff {task : AudioTask} : s.waitsFor = some task ↔
    s.todo.head? = some (.stopAudioTask task) ∧ s.stage = .await ∧ s.running task = true := by
  unfold AudioSystem.waitsFor
  cases htodo : s.todo with
  | nil => simp
  | cons action rest =>
    cases action with
    | stopAudioTask task' =>
      dsimp only
      constructor
      · intro h
        split at h
        · next hwaits =>
          injection h with h
          subst h
          exact ⟨rfl, hwaits⟩
        · cases h
      · rintro ⟨hhead, hwaits⟩
        injection hhead with hhead
        injection hhead with hhead
        subst hhead
        exact if_pos hwaits
    | _ => simp

/-- `fsm_task` is not kept waiting: its step lowers the measure. -/
lemma toDo_fsmTask_lt (h : AudioInv s) (hentry : ¬ AudioEntered s) (hwaits : s.waitsFor = none)
    (ok : Bool) : (s.fsmTask ok).1.toDo < s.toDo := by
  rcases s.fsmTask_cases ok with ⟨action, rest, htodo, heq⟩ | ⟨-, -, htodo, -, -⟩ | ⟨htodo, -⟩
  rotate_left
  · exact absurd htodo hentry
  · exact absurd htodo hentry
  rw [heq, toDo_of_cons htodo]
  -- an action that is done
  have hdone : ∀ s' : AudioSystem, s'.todo <:+ rest → s'.stage = .start →
      s'.toDo < s.headWeight action + (rest.map AudioAction.weight).sum := by
    intro s' hsuffix hstage
    rw [toDo_of_start hstage]
    have hle : (s'.todo.map AudioAction.weight).sum ≤ (rest.map AudioAction.weight).sum := by
      obtain ⟨dropped, hdropped⟩ := hsuffix
      rw [← hdropped, List.map_append, List.sum_append]
      exact Nat.le_add_left _ _
    exact (Nat.lt_add_of_pos_left (headWeight_pos s action)).trans_le' hle
  by_cases hstop : ∃ task, action = .stopAudioTask task
  · obtain ⟨task, rfl⟩ := hstop
    have hhead : s.todo.head? = some (.stopAudioTask task) := by rw [htodo]; rfl
    -- the function goes on
    have hon : ∀ s' : AudioSystem, s'.todo = s.todo →
        s'.headWeight (.stopAudioTask task) < s.headWeight (.stopAudioTask task) →
        s'.toDo < s.headWeight (.stopAudioTask task) + (rest.map AudioAction.weight).sum := by
      intro s' htodo' hlt
      rw [toDo_of_cons (htodo'.trans htodo)]
      exact Nat.add_lt_add_right hlt _
    have hend : ∀ s' : AudioSystem, s'.toEnd task ≤ 5 := fun s' => s'.toEnd_le task
    change (s.stopAudioTask task rest).toDo < _
    unfold AudioSystem.stopAudioTask
    cases hstage : s.stage with
    | start =>
      by_cases hrun : s.running task = true
      · simp only [hrun, if_true]
        refine hon _ rfl ?_
        simp [AudioSystem.headWeight, hstage]
      · simp only [hrun]
        exact hdone _ (List.suffix_refl _) rfl
    | raise =>
      refine hon _ ?_ ?_
      · cases task <;> rfl
      · simp only [AudioSystem.headWeight, hstage]
        exact Nat.lt_of_le_of_lt (Nat.add_le_add_left (hend _) 2) (by decide)
    | await =>
      have hstopped : ¬ s.running task = true := by
        intro hrun
        rw [waitsFor_eq_some_iff.mpr ⟨hhead, hstage, hrun⟩] at hwaits
        cases hwaits
      simp only [if_neg hstopped]
      refine hon _ rfl ?_
      simp only [AudioSystem.headWeight, hstage]
      omega
    | lower =>
      refine hdone _ ?_ rfl
      exact List.suffix_refl _
  · have hne : ∀ task, action ≠ .stopAudioTask task := fun task heq => hstop ⟨task, heq⟩
    obtain ⟨hstage, -⟩ := h.of_head htodo hne
    cases action with
    | stopAudioTask task => exact absurd rfl (hne task)
    | beginTx =>
      cases ok with
      | true => exact hdone _ (List.suffix_refl _) hstage
      | false => exact hdone _ List.nil_suffix hstage
    | createTxAudioTask =>
      cases ok with
      | true => exact hdone _ (List.suffix_refl _) hstage
      | false => exact hdone _ (List.suffix_refl _) hstage
    | createRxAudioTask =>
      cases ok with
      | true => exact hdone _ List.nil_suffix hstage
      | false => exact hdone _ (List.suffix_refl _) hstage
    | ifTxAudioTask =>
      refine hdone _ ?_ hstage
      change (if _ then _ else _) <:+ rest
      split
      · exact List.suffix_refl _
      · exact List.tail_suffix rest
    | _ => exact hdone _ (List.suffix_refl _) hstage

/-- While `fsm_task` waits, its own step changes nothing. -/
lemma fsmTask_of_waitsFor {task : AudioTask} (hwaits : s.waitsFor = some task) (ok : Bool) :
    (s.fsmTask ok).1 = s := by
  obtain ⟨hhead, hstage, hrun⟩ := waitsFor_eq_some_iff.mp hwaits
  rcases s.fsmTask_cases ok with ⟨action, rest, htodo, heq⟩ | ⟨-, -, htodo, -, -⟩ | ⟨htodo, -⟩
  · rw [htodo] at hhead
    injection hhead with hhead
    subst hhead
    rw [heq]
    change s.stopAudioTask task rest = s
    unfold AudioSystem.stopAudioTask
    rw [hstage]
    exact if_pos hrun
  · rw [htodo] at hhead
    cases hhead
  · rw [htodo] at hhead
    cases hhead

/-- A step of another task leaves `fsm_task` where it is, sets no handle, and moves an audio task
only if it is the step of that task. -/
lemma audioStep_others (h : AudioInv s) {a : AudioStep} (ha : ∀ ok, a ≠ .fsmTask ok) :
    (audioStep s a).1.todo = s.todo ∧ (audioStep s a).1.stage = s.stage ∧
      (∀ task, (audioStep s a).1.running task = true → s.running task = true) ∧
      ((audioStep s a).1.rx.current = s.rx.current ∨ a = .rxAudioTask none) ∧
      ((audioStep s a).1.tx.current = s.tx.current ∨
        ∃ captured, a = .txAudioTask none captured) := by
  have hsame : ∀ s' : AudioSystem, s'.todo = s.todo → s'.stage = s.stage → s'.rx = s.rx →
      s'.tx = s.tx → s'.todo = s.todo ∧ s'.stage = s.stage ∧
      (∀ task, s'.running task = true → s.running task = true) ∧
      (s'.rx.current = s.rx.current ∨ a = .rxAudioTask none) ∧
      (s'.tx.current = s.tx.current ∨ ∃ captured, a = .txAudioTask none captured) := by
    intro s' htodo hstage hrx htx
    refine ⟨htodo, hstage, fun task hrun => ?_, .inl (congrArg _ hrx), .inl (congrArg _ htx)⟩
    cases task with
    | tx => exact (congrArg (fun slot => slot.current.isSome) htx).symm.trans hrun
    | rx => exact (congrArg (fun slot => slot.current.isSome) hrx).symm.trans hrun
  cases a with
  | fsmTask ok => exact absurd rfl (ha ok)
  | postEvent event => exact hsame _ rfl rfl rfl rfl
  | rxAudioTask which =>
    dsimp only [audioStep]
    unfold AudioSystem.rxAudioTask
    cases hpoint : s.rx.point which with
    | none => exact hsame s rfl rfl rfl rfl
    | some point =>
      have hslot : ∀ s' : AudioSystem, s'.todo = s.todo → s'.stage = s.stage → s'.tx = s.tx →
          s'.rx = s.rx.advance which (point.next s.rxShouldStop s.rxAudioQueue).1
            point.clearsHandle →
          s'.todo = s.todo ∧ s'.stage = s.stage ∧
          (∀ task, s'.running task = true → s.running task = true) ∧
          (s'.rx.current = s.rx.current ∨ AudioStep.rxAudioTask which = .rxAudioTask none) ∧
          (s'.tx.current = s.tx.current ∨
            ∃ captured, AudioStep.rxAudioTask which = .txAudioTask none captured) := by
        intro s' htodo hstage htx hrx
        refine ⟨htodo, hstage, fun task hrun => ?_, ?_, .inl (congrArg _ htx)⟩
        · cases task with
          | tx => exact (congrArg (fun slot => slot.current.isSome) htx).symm.trans hrun
          | rx =>
            have hrun' : s'.rx.current.isSome = true := hrun
            rw [hrx] at hrun'
            exact TaskSlot.isSome_current_of_advance hpoint hrun'
        · cases hhandle : point.hasHandle with
          | true =>
            have hwhich := h.rx.eq_none hpoint hhandle
            exact .inr (by rw [hwhich])
          | false =>
            rw [hrx]
            exact .inl (h.rx.current_advance_of_not hpoint point.hasHandle_of_clearsHandle hhandle)
      dsimp only
      split
      · exact hslot _ rfl rfl rfl rfl
      · exact hslot _ rfl rfl rfl rfl
  | txAudioTask which captured =>
    dsimp only [audioStep]
    unfold AudioSystem.txAudioTask
    cases hpoint : s.tx.point which with
    | none => exact hsame s rfl rfl rfl rfl
    | some point =>
      refine ⟨rfl, rfl, fun task hrun => ?_, .inl rfl, ?_⟩
      · cases task with
        | tx => exact TaskSlot.isSome_current_of_advance hpoint hrun
        | rx => exact hrun
      · cases hhandle : point.hasHandle with
        | true =>
          have hwhich := h.tx.eq_none hpoint hhandle
          exact .inr ⟨captured, by rw [hwhich]⟩
        | false =>
          exact .inl (h.tx.current_advance_of_not hpoint point.hasHandle_of_clearsHandle hhandle)
  | micTestTask which captured =>
    dsimp only [audioStep]
    unfold AudioSystem.micTestTask
    split
    · exact hsame s rfl rfl rfl rfl
    · exact hsame _ rfl rfl rfl rfl
  | pttEvent pressed =>
    dsimp only [audioStep]
    split
    · exact hsame _ rfl rfl rfl rfl
    · exact hsame s rfl rfl rfl rfl
  | onPttEvent created =>
    dsimp only [audioStep]
    unfold AudioSystem.onPttEvent
    split
    · exact hsame s rfl rfl rfl rfl
    · split
      · split
        · exact hsame _ rfl rfl rfl rfl
        · exact hsame _ rfl rfl rfl rfl
      · exact hsame _ rfl rfl rfl rfl
    · exact hsame _ rfl rfl rfl rfl
  | postRxAudioFrame data =>
    dsimp only [audioStep]
    unfold AudioSystem.fsmPostRxAudioFrame
    split
    · exact hsame s rfl rfl rfl rfl
    · split
      · exact hsame _ rfl rfl rfl rfl
      · exact hsame s rfl rfl rfl rfl

/-- The task that `fsm_task` waits for gets closer to its end. -/
lemma toEnd_lt_of_waitsFor (h : AudioInv s) {task : AudioTask} (hwaits : s.waitsFor = some task)
    {a : AudioStep} (hhelps : HelpsFsmTask s a) :
    (audioStep s a).1.toEnd task < s.toEnd task := by
  obtain ⟨hhead, hstage, hrun⟩ := waitsFor_eq_some_iff.mp hwaits
  have hasked := h.asked task hhead (.inl hstage)
  unfold HelpsFsmTask at hhelps
  rw [hwaits] at hhelps
  cases task with
  | rx =>
    subst hhelps
    obtain ⟨point, hpoint⟩ := Option.isSome_iff_exists.mp hrun
    have hhandle := h.rx.current point hpoint
    have hpoint' : s.rx.point none = some point := hpoint
    have hflag : s.rxShouldStop = true := hasked
    obtain ⟨hbefore, hafter⟩ := h.rx.current_advance hpoint' hhandle
      (point.hasHandle_next s.rxShouldStop s.rxAudioQueue) RxAudioPoint.rank 0
      RxAudioPoint.rank_of_not
    have hlt := point.rank_next_lt hhandle s.rxAudioQueue
    rw [← hflag] at hlt
    have hcurrent : ((audioStep s (.rxAudioTask none)).1).rx =
        s.rx.advance none (point.next s.rxShouldStop s.rxAudioQueue).1 point.clearsHandle := by
      dsimp only [audioStep]
      unfold AudioSystem.rxAudioTask
      rw [hpoint']
      dsimp only
      split <;> rfl
    change (audioStep s (.rxAudioTask none)).1.rx.current.elim 0 RxAudioPoint.rank <
      s.rx.current.elim 0 RxAudioPoint.rank
    rw [hcurrent, hbefore, hafter]
    exact hlt
  | tx =>
    obtain ⟨captured, rfl⟩ := hhelps
    obtain ⟨point, hpoint⟩ := Option.isSome_iff_exists.mp hrun
    have hhandle := h.tx.current point hpoint
    have hpoint' : s.tx.point none = some point := hpoint
    have hflag : s.txShouldStop = true := hasked
    obtain ⟨hbefore, hafter⟩ := h.tx.current_advance hpoint' hhandle
      (point.hasHandle_next s.txShouldStop captured) TxAudioPoint.rank 0
      TxAudioPoint.rank_of_not
    have hlt := point.rank_next_lt hhandle captured
    rw [← hflag] at hlt
    have hcurrent : ((audioStep s (.txAudioTask none captured)).1).tx =
        s.tx.advance none (point.next s.txShouldStop captured) point.clearsHandle := by
      dsimp only [audioStep]
      unfold AudioSystem.txAudioTask
      rw [hpoint']
    change (audioStep s (.txAudioTask none captured)).1.tx.current.elim 0 TxAudioPoint.rank <
      s.tx.current.elim 0 TxAudioPoint.rank
    rw [hcurrent, hbefore, hafter]
    exact hlt

/-- A step of another task that does not help leaves the task that `fsm_task` waits for alone. -/
lemma waited_of_not_helps (h : AudioInv s) {a : AudioStep} (ha : ∀ ok, a ≠ .fsmTask ok)
    (hhelps : ¬ HelpsFsmTask s a) {task : AudioTask} (hwaits : s.waitsFor = some task) :
    (audioStep s a).1.running task = s.running task ∧
      (audioStep s a).1.toEnd task = s.toEnd task := by
  obtain ⟨-, -, -, hrx, htx⟩ := audioStep_others h ha
  unfold HelpsFsmTask at hhelps
  rw [hwaits] at hhelps
  cases task with
  | rx =>
    have hcurrent := hrx.resolve_right hhelps
    exact ⟨congrArg Option.isSome hcurrent, congrArg (Option.elim · 0 RxAudioPoint.rank) hcurrent⟩
  | tx =>
    have hcurrent := htx.resolve_right hhelps
    exact ⟨congrArg Option.isSome hcurrent, congrArg (Option.elim · 0 TxAudioPoint.rank) hcurrent⟩

/-- So `fsm_task` goes on to wait for it, or does not wait as before. -/
lemma waitsFor_of_not_helps (h : AudioInv s) {a : AudioStep} (ha : ∀ ok, a ≠ .fsmTask ok)
    (hhelps : ¬ HelpsFsmTask s a) : (audioStep s a).1.waitsFor = s.waitsFor := by
  obtain ⟨htodo, hstage, hrunning, -, -⟩ := audioStep_others h ha
  cases hwaits : s.waitsFor with
  | some task =>
    obtain ⟨hhead, hawait, hrun⟩ := waitsFor_eq_some_iff.mp hwaits
    have hsame := (waited_of_not_helps h ha hhelps hwaits).1
    exact waitsFor_eq_some_iff.mpr ⟨htodo ▸ hhead, hstage.trans hawait, hsame.trans hrun⟩
  | none =>
    cases hafter : (audioStep s a).1.waitsFor with
    | none => rfl
    | some task =>
      obtain ⟨hhead, hawait, hrun⟩ := waitsFor_eq_some_iff.mp hafter
      have hcontra := waitsFor_eq_some_iff.mpr
        ⟨htodo ▸ hhead, hstage.symm.trans hawait, hrunning task hrun⟩
      rw [hwaits] at hcontra
      cases hcontra

/-- Nor does it get more to do. -/
lemma toDo_le_of_not_helps (h : AudioInv s) {a : AudioStep} (ha : ∀ ok, a ≠ .fsmTask ok)
    (hhelps : ¬ HelpsFsmTask s a) : (audioStep s a).1.toDo ≤ s.toDo := by
  obtain ⟨htodo, hstage, hrunning, -, -⟩ := audioStep_others h ha
  cases hcase : s.todo with
  | nil =>
    rw [hcase] at htodo
    unfold AudioSystem.toDo
    rw [htodo, hcase]
  | cons action rest =>
    rw [toDo_of_cons (htodo.trans hcase), toDo_of_cons hcase]
    refine Nat.add_le_add_right ?_ _
    unfold AudioSystem.headWeight
    rw [hstage]
    split
    · next task =>
      split
      · exact le_refl _
      · exact le_refl _
      · next hawait =>
        refine Nat.add_le_add_left ?_ 2
        by_cases hrun : s.running task = true
        · have hwaits := waitsFor_eq_some_iff.mpr
            ⟨show s.todo.head? = some (.stopAudioTask task) by rw [hcase]; rfl, hawait, hrun⟩
          exact (waited_of_not_helps h ha hhelps hwaits).2.le
        · have hstopped : (audioStep s a).1.running task = false :=
            Bool.eq_false_iff.mpr fun hrun' => hrun (hrunning task hrun')
          rw [AudioSystem.toEnd_of_not_running hstopped]
          exact Nat.zero_le _
      · exact le_refl _
    · exact le_refl _

/-- A step of the task that `fsm_task` waits for lowers the measure. -/
lemma toDo_lt_of_waitsFor (h : AudioInv s) {task : AudioTask} (hwaits : s.waitsFor = some task)
    {a : AudioStep} (hhelps : HelpsFsmTask s a) : (audioStep s a).1.toDo < s.toDo := by
  have ha : ∀ ok, a ≠ .fsmTask ok := by
    intro ok heq
    subst heq
    unfold HelpsFsmTask at hhelps
    rw [hwaits] at hhelps
    cases task with
    | rx => cases hhelps
    | tx =>
      obtain ⟨captured, hcontra⟩ := hhelps
      cases hcontra
  obtain ⟨htodo, hstage, -, -, -⟩ := audioStep_others h ha
  obtain ⟨hhead, hawait, -⟩ := waitsFor_eq_some_iff.mp hwaits
  have hlt := toEnd_lt_of_waitsFor h hwaits hhelps
  obtain ⟨rest, hcase⟩ := List.head?_eq_some_iff.mp hhead
  rw [toDo_of_cons (htodo.trans hcase), toDo_of_cons hcase]
  refine Nat.add_lt_add_right ?_ _
  unfold AudioSystem.headWeight
  rw [hstage, hawait]
  exact Nat.add_lt_add_left hlt 2

end Steps

/-! ## Rounds -/

/-- What is left of the audio side of an entry is a measure for the way to its end. -/
lemma ranked_toDo :
    Ranked audioStep AudioInv AudioEntered HelpsFsmTask AudioSystem.toDo where
  keeps s a h := h.step a
  zero s _ hzero := by
    unfold AudioEntered
    cases htodo : s.todo with
    | nil => rfl
    | cons action rest =>
      have hpos := headWeight_pos s action
      rw [toDo_of_cons htodo] at hzero
      omega
  lower s a h hentry hhelps := by
    cases hwaits : s.waitsFor with
    | some task => exact toDo_lt_of_waitsFor h hwaits hhelps
    | none =>
      unfold HelpsFsmTask at hhelps
      rw [hwaits] at hhelps
      obtain ⟨ok, rfl⟩ := hhelps
      exact toDo_fsmTask_lt h hentry hwaits ok
  level s a h _ hhelps := by
    by_cases ha : ∃ ok, a = .fsmTask ok
    · obtain ⟨ok, rfl⟩ := ha
      cases hwaits : s.waitsFor with
      | none =>
        unfold HelpsFsmTask at hhelps
        rw [hwaits] at hhelps
        exact absurd ⟨ok, rfl⟩ hhelps
      | some task =>
        have hsame : (audioStep s (.fsmTask ok)).1 = s := fsmTask_of_waitsFor hwaits ok
        rw [hsame]
        exact ⟨le_refl _, fun _ => id⟩
    · have ha' : ∀ ok, a ≠ .fsmTask ok := fun ok heq => ha ⟨ok, heq⟩
      refine ⟨toDo_le_of_not_helps h ha' hhelps, fun b hb => ?_⟩
      unfold HelpsFsmTask at hb ⊢
      rwa [waitsFor_of_not_helps h ha' hhelps]

/-- Each of the three tasks makes a step. -/
def IsRound (round : List AudioStep) : Prop :=
  (∃ ok, .fsmTask ok ∈ round) ∧ .rxAudioTask none ∈ round ∧
    ∃ captured, .txAudioTask none captured ∈ round

/-- **The waits for the audio tasks end.**  After any run, in whatever state and at whatever point
the tasks are, twenty rounds in which `fsm_task` and the two audio tasks make a step each, in any
order and with any steps of the others in between, bring `fsm_task` through the audio side of the
entry it is in. -/
theorem audioWaits_end (l : List AudioStep) (rounds : List (List AudioStep))
    (hrounds : ∀ round ∈ rounds, IsRound round) (hlength : 20 ≤ rounds.length) :
    Reaches audioStep AudioEntered (finalState audioStep .boot l) rounds.flatten := by
  have hinv := AudioInv.run l
  refine reaches_of_rounds ranked_toDo hinv ?_ (hinv.toDo_le.trans hlength)
  intro round hmem s _ _
  obtain ⟨⟨ok, hfsm⟩, hrx, ⟨captured, htx⟩⟩ := hrounds round hmem
  unfold HelpsFsmTask
  cases s.waitsFor with
  | none => exact ⟨_, hfsm, ok, rfl⟩
  | some task =>
    cases task with
    | rx => exact ⟨_, hrx, rfl⟩
    | tx => exact ⟨_, htx, captured, rfl⟩

theorem audioWaits_end_sync_lost :
    Reaches audioStep AudioEntered
      (finalState audioStep .boot
        (stepsToMenuComm ++ stepsToRxAudio ++ [.postEvent .syncLost, .fsmTask true]))
      (List.replicate 20
        [.txAudioTask none true, .fsmTask true, .rxAudioTask none]).flatten :=
  audioWaits_end _ _
    (fun round hmem => by
      rw [List.eq_of_mem_replicate hmem]
      exact ⟨⟨true, by decide⟩, by decide, true, by decide⟩)
    (by decide)

end FhssOtaRadio
