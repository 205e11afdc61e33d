import FhssOtaRadio.Library.Machine
import FhssOtaRadio.Product.AudioTasks
import Mathlib.Data.List.Infix

/-!
# Creating and stopping the audio tasks

The handles and flags of the audio tasks are written by several tasks without a lock.  What keeps
them consistent is the order in which `fsm_task` goes through the entry into a state
(`AudioInv`): a task is created when its handle is `NULL`, its state is left only for `MENU_COMM`
and `ERROR`, whose entries stop both tasks, and `fsm_task` does not take the next event before the
handle has been cleared.
-/

namespace FhssOtaRadio

open Machine

/-! ## What `fsm_task` has to do -/

/-- While it works these actions off, `fsm_task` has the speaker channel. -/
def holdsSpeaker : List AudioAction → Bool
  | [] => false
  | .speakerEnable :: _ => false
  | .speakerWrite _ :: _ | .speakerDisable :: _ | .createRxAudioTask :: _ => true
  | _ :: rest => holdsSpeaker rest

/-- What the first of the actions relies on: the state of the FSM, who has the speaker channel after
it, and what comes after it. -/
def Fits (fsm : FsmState) : List AudioAction → Bool
  | [] => true
  | .speakerEnable :: rest => (fsm == .txAudio || fsm == .rxAudio) && holdsSpeaker rest
  | .speakerWrite _ :: rest => holdsSpeaker rest
  | .createRxAudioTask :: rest => fsm == .rxAudio && holdsSpeaker rest
  | .beginTx :: rest => fsm == .txAudio && !holdsSpeaker rest
  | .createTxAudioTask :: rest => fsm == .txAudio && rest == []
  | .clearRxHandle :: rest => fsm == .rxAudio && !holdsSpeaker rest
  | .stopAudioTask task :: rest => !rest.contains (.stopAudioTask task) && !holdsSpeaker rest
  | .ifTxAudioTask :: rest => rest.head? == some (.stopAudioTask .tx) && !holdsSpeaker rest.tail
  | .resetRxAudioQueue :: rest => fsm == .menuComm && rest == []
  | _ :: rest => !holdsSpeaker rest

/-- Every action of an entry finds what it relies on. -/
lemma fits_of_suffix {fsm : FsmState} {todo : List AudioAction} (h : todo <:+ enterAudio fsm) :
    Fits fsm todo = true := by
  have hall : (enterAudio fsm).tails.all (Fits fsm) = true := by cases fsm <;> rfl
  exact List.all_eq_true.mp hall todo ((List.mem_tails todo _).mpr h)

/-- Only the entries into the two audio states use the speaker. -/
lemma fsm_of_holdsSpeaker {fsm : FsmState} {todo : List AudioAction} (h : todo <:+ enterAudio fsm)
    (hholds : holdsSpeaker todo = true) : fsm = .txAudio ∨ fsm = .rxAudio := by
  have hall : (enterAudio fsm).tails.all fun todo =>
      !holdsSpeaker todo || (fsm == .txAudio || fsm == .rxAudio) := by cases fsm <;> rfl
  have hone := List.all_eq_true.mp hall todo ((List.mem_tails todo _).mpr h)
  simpa [hholds] using hone

/-- The entries that stop a task are those into `MENU_COMM` and `ERROR`, and they stop both. -/
lemma mem_enterAudio_stop_iff {fsm : FsmState} (task : AudioTask) :
    .stopAudioTask task ∈ enterAudio fsm ↔ fsm = .menuComm ∨ fsm = .error := by
  cases fsm <;> cases task <;> decide

/-- A task is left for one of the entries that stop it. -/
lemma mem_enterAudio_of_transition {task : AudioTask} {event : FsmEvent} {next : FsmState}
    (h : fsmTaskReaction task.state event = .transitionTo next) (hne : next ≠ task.state) :
    .stopAudioTask task ∈ enterAudio next := by
  rw [mem_enterAudio_stop_iff]
  cases task <;> cases event <;> first
    | (injection h with hnext
       subst hnext
       first
         | exact absurd rfl hne
         | decide)
    | cases h

/-- The sessions of the OTA client are given up elsewhere. -/
lemma fsmTaskReaction_task (task : AudioTask) (event : FsmEvent) :
    fsmTaskReaction task.state event ≠ .abortSession ∧
      fsmTaskReaction task.state event ≠ .armResyncTimer := by
  cases task <;> cases event <;> decide

/-- A step of `fsm_task` is an action of the entry, the reaction to an event, or a wait for one. -/
lemma AudioSystem.fsmTask_cases (s : AudioSystem) (ok : Bool) :
    (∃ action rest, s.todo = action :: rest ∧ s.fsmTask ok = s.perform ok action rest) ∨
      (∃ event events, s.todo = [] ∧ s.events = event :: events ∧
        s.fsmTask ok = ({ s with events := events }.react ok event, [])) ∨
      (s.todo = [] ∧ s.fsmTask ok = (s, [])) := by
  unfold fsmTask
  cases htodo : s.todo with
  | cons action rest => exact .inl ⟨action, rest, rfl, rfl⟩
  | nil =>
    cases hevents : s.events with
    | cons event events => exact .inr (.inl ⟨event, events, rfl, rfl, rfl⟩)
    | nil => exact .inr (.inr ⟨rfl, rfl⟩)

/-! ## The invariant -/

/-- What holds at every moment: a task whose handle is not `NULL` runs in its own state, or is about
to be stopped by `fsm_task`, and the flags are raised only while that waits for it. -/
structure AudioInv (s : AudioSystem) : Prop where
  script : s.todo <:+ enterAudio s.fsm
  rx : s.rx.Tidy RxAudioPoint.hasHandle
  tx : s.tx.Tidy TxAudioPoint.hasHandle
  runs : ∀ task, s.running task = true →
    (s.fsm = task.state ∧ s.todo = []) ∨ .stopAudioTask task ∈ s.todo
  stage : s.stage ≠ .start → ∃ task, s.todo.head? = some (.stopAudioTask task)
  raised : ∀ task, s.shouldStop task = true →
    s.todo.head? = some (.stopAudioTask task) ∧ (s.stage = .await ∨ s.stage = .lower)
  asked : ∀ task, s.todo.head? = some (.stopAudioTask task) →
    s.stage = .await ∨ s.stage = .lower → s.shouldStop task = true
  lowered : ∀ task, s.todo.head? = some (.stopAudioTask task) → s.stage = .lower →
    s.running task = false

namespace AudioInv

variable {s : AudioSystem}

/-- Nothing runs when `fsm_task` starts. -/
lemma boot : AudioInv .boot where
  script := List.suffix_rfl
  rx := TaskSlot.tidy_empty
  tx := TaskSlot.tidy_empty
  runs task h := by cases task <;> cases h
  stage h := absurd rfl h
  raised task h := by cases task <;> cases h
  asked _ _ h := h.elim (fun h => by cases h) (fun h => by cases h)
  lowered _ _ h := by cases h

/-- Steps of tasks that leave `fsm_task` and the flags alone keep the invariant when the slots stay
tidy and no handle is set. -/
lemma of_slots {s' : AudioSystem} (h : AudioInv s) (hfsm : s'.fsm = s.fsm)
    (htodo : s'.todo = s.todo) (hstage : s'.stage = s.stage)
    (hshouldStop : ∀ task, s'.shouldStop task = s.shouldStop task)
    (hrx : s'.rx.Tidy RxAudioPoint.hasHandle) (htx : s'.tx.Tidy TxAudioPoint.hasHandle)
    (hrunning : ∀ task, s'.running task = true → s.running task = true) : AudioInv s' where
  script := by rw [htodo, hfsm]; exact h.script
  rx := hrx
  tx := htx
  runs task hrun := by rw [htodo, hfsm]; exact h.runs task (hrunning task hrun)
  stage hne := by rw [htodo]; exact h.stage (hstage ▸ hne)
  raised task hraised := by
    rw [htodo, hstage]
    exact h.raised task (hshouldStop task ▸ hraised)
  asked task hhead hlate := by
    rw [hshouldStop]
    exact h.asked task (htodo ▸ hhead) (hstage ▸ hlate)
  lowered task hhead hlower := by
    rw [htodo] at hhead
    rw [hstage] at hlower
    have hstopped := h.lowered task hhead hlower
    cases hcase : s'.running task with
    | false => rfl
    | true =>
      rw [hrunning task hcase] at hstopped
      exact hstopped

/-- Posting an event concerns none of this. -/
lemma post (h : AudioInv s) (event : FsmEvent) : AudioInv (s.post event) :=
  h.of_slots rfl rfl rfl (fun task => by cases task <;> rfl) h.rx h.tx
    (fun task => by cases task <;> exact id)

/-- Outside the entries that stop a task, and outside its own state, it does not run. -/
lemma not_running (h : AudioInv s) {task : AudioTask} (hfsm : s.fsm ≠ task.state ∨ s.todo ≠ [])
    (hmem : .stopAudioTask task ∉ s.todo) : s.running task = false := by
  cases hcase : s.running task with
  | false => rfl
  | true =>
    rcases h.runs task hcase with ⟨hstate, htodo⟩ | hstop
    · exact absurd htodo (hfsm.resolve_left (not_not.mpr hstate))
    · exact absurd hstop hmem

/-- While `fsm_task` waits for an event no flag is raised. -/
lemma shouldStop_of_todo_nil (h : AudioInv s) (htodo : s.todo = []) (task : AudioTask) :
    s.shouldStop task = false := by
  cases hcase : s.shouldStop task with
  | false => rfl
  | true =>
    have hhead := (h.raised task hcase).1
    rw [htodo] at hhead
    cases hhead

/-- In front of an action that stops nothing no flag is raised either, and `fsm_task` is not inside
the functions that stop a task. -/
lemma of_head (h : AudioInv s) {action : AudioAction} {rest : List AudioAction}
    (htodo : s.todo = action :: rest) (haction : ∀ task, action ≠ .stopAudioTask task) :
    s.stage = .start ∧ ∀ task, s.shouldStop task = false := by
  have hhead : ∀ task, s.todo.head? ≠ some (.stopAudioTask task) := by
    intro task heq
    rw [htodo] at heq
    exact haction task (Option.some.inj heq)
  constructor
  · by_contra hstage
    obtain ⟨task, htask⟩ := h.stage hstage
    exact hhead task htask
  · intro task
    cases hcase : s.shouldStop task with
    | false => rfl
    | true => exact absurd (h.raised task hcase).1 (hhead task)

/-- `fsm_task` goes on with the rest of the entry, or a part of it. -/
lemma of_rest {s' : AudioSystem} (h : AudioInv s) {action : AudioAction}
    {rest : List AudioAction} (htodo : s.todo = action :: rest)
    (hsuffix : s'.todo <:+ rest) (hfsm : s'.fsm = s.fsm) (hstage : s'.stage = .start)
    (hshouldStop : ∀ task, s'.shouldStop task = false)
    (hrx : s'.rx.Tidy RxAudioPoint.hasHandle) (htx : s'.tx.Tidy TxAudioPoint.hasHandle)
    (hruns : ∀ task, s'.running task = true →
      (s'.fsm = task.state ∧ s'.todo = []) ∨ .stopAudioTask task ∈ s'.todo) : AudioInv s' where
  script := by
    rw [hfsm]
    exact (hsuffix.trans (htodo ▸ List.suffix_cons action rest)).trans h.script
  rx := hrx
  tx := htx
  runs := hruns
  stage hne := absurd hstage hne
  raised task hraised := by
    rw [hshouldStop task] at hraised
    cases hraised
  asked _ _ hlate := by
    rw [hstage] at hlate
    exact hlate.elim (fun h => by cases h) (fun h => by cases h)
  lowered _ _ hlower := by
    rw [hstage] at hlower
    cases hlower

/-! ### The steps of `fsm_task` -/

/-- In the audio states there is nothing to stop. -/
lemma not_mem_stop (h : AudioInv s) (hfsm : s.fsm = .txAudio ∨ s.fsm = .rxAudio)
    (task : AudioTask) : .stopAudioTask task ∉ s.todo := by
  intro hmem
  have hentry := (mem_enterAudio_stop_iff task).mp (h.script.subset hmem)
  rcases hfsm with heq | heq <;> rw [heq] at hentry <;> simp at hentry

/-- A task that runs during an entry is one of those it still has to stop. -/
lemma mem_rest_of_running (h : AudioInv s) {action : AudioAction} {rest : List AudioAction}
    (htodo : s.todo = action :: rest) {task : AudioTask} (haction : action ≠ .stopAudioTask task)
    (hrun : s.running task = true) : .stopAudioTask task ∈ rest := by
  rcases h.runs task hrun with ⟨-, hnil⟩ | hmem
  · rw [hnil] at htodo
    cases htodo
  · rw [htodo] at hmem
    rcases List.mem_cons.mp hmem with heq | hmem
    · exact absurd heq.symm haction
    · exact hmem

/-- During the entry into an audio state no task runs. -/
lemma not_running_of_audio (h : AudioInv s) (hfsm : s.fsm = .txAudio ∨ s.fsm = .rxAudio)
    (htodo : s.todo ≠ []) (task : AudioTask) : s.running task = false :=
  h.not_running (.inr htodo) (h.not_mem_stop hfsm task)

/-- The flag of the other task is not raised while one is stopped. -/
lemma eq_of_shouldStop (h : AudioInv s) {task task' : AudioTask}
    (hhead : s.todo.head? = some (.stopAudioTask task)) (hraised : s.shouldStop task' = true) :
    task' = task := by
  have heq := (h.raised task' hraised).1
  rw [hhead] at heq
  injection heq with heq
  injection heq with heq
  exact heq.symm

/-- Before a flag is raised, none is. -/
lemma shouldStop_of_stage (h : AudioInv s) (hstage : s.stage = .start ∨ s.stage = .raise)
    (task : AudioTask) : s.shouldStop task = false := by
  cases hcase : s.shouldStop task with
  | false => rfl
  | true =>
    obtain ⟨-, hlate⟩ := h.raised task hcase
    rcases hstage with heq | heq <;> rw [heq] at hlate <;> simp at hlate

/-- The stop of a task goes on within the function. -/
lemma of_stage {s' : AudioSystem} (h : AudioInv s) {task : AudioTask}
    (hhead : s.todo.head? = some (.stopAudioTask task)) (hfsm : s'.fsm = s.fsm)
    (htodo : s'.todo = s.todo) (hrx : s'.rx = s.rx) (htx : s'.tx = s.tx)
    (hraised : ∀ task', s'.shouldStop task' = true →
      task' = task ∧ (s'.stage = .await ∨ s'.stage = .lower))
    (hasked : s'.stage = .await ∨ s'.stage = .lower → s'.shouldStop task = true)
    (hlower : s'.stage = .lower → s.running task = false) : AudioInv s' := by
  have hrunning : ∀ task', s'.running task' = s.running task' := by
    intro task'
    cases task' with
    | tx => exact congrArg (fun slot => slot.current.isSome) htx
    | rx => exact congrArg (fun slot => slot.current.isSome) hrx
  exact
    { script := by rw [htodo, hfsm]; exact h.script
      rx := by rw [hrx]; exact h.rx
      tx := by rw [htx]; exact h.tx
      runs := fun task' hrun => by
        rw [htodo, hfsm]
        exact h.runs task' (hrunning task' ▸ hrun)
      stage := fun _ => ⟨task, htodo ▸ hhead⟩
      raised := fun task' hflag => by
        obtain ⟨heq, hlate⟩ := hraised task' hflag
        exact ⟨by rw [htodo, heq]; exact hhead, hlate⟩
      asked := fun task' hhead' hlate => by
        rw [htodo, hhead] at hhead'
        injection hhead' with heq
        injection heq with heq
        rw [← heq]
        exact hasked hlate
      lowered := fun task' hhead' hstage => by
        rw [htodo, hhead] at hhead'
        injection hhead' with heq
        injection heq with heq
        rw [hrunning, ← heq]
        exact hlower hstage }

/-- The functions that stop a task keep the invariant. -/
lemma stopAudioTask (h : AudioInv s) {task : AudioTask} {rest : List AudioAction}
    (htodo : s.todo = .stopAudioTask task :: rest) : AudioInv (s.stopAudioTask task rest) := by
  have hhead : s.todo.head? = some (.stopAudioTask task) := by rw [htodo]; rfl
  have hrest : ∀ task', s.running task' = true → s.running task = false →
      .stopAudioTask task' ∈ rest := by
    intro task' hrun hstopped
    refine h.mem_rest_of_running htodo ?_ hrun
    intro heq
    injection heq with heq
    rw [heq, hrun] at hstopped
    cases hstopped
  have hstages : s.stage = .start ∨ s.stage = .raise ∨ s.stage = .await ∨ s.stage = .lower := by
    cases s.stage <;> decide
  unfold AudioSystem.stopAudioTask
  rcases hstages with hstage | hstage | hstage | hstage <;> rw [hstage] <;> dsimp only
  · have hflags := h.shouldStop_of_stage (.inl hstage)
    by_cases hrun : s.running task = true
    · rw [if_pos hrun]
      refine h.of_stage hhead rfl rfl rfl rfl (fun task' hflag => ?_)
        (fun hlate => hlate.elim (fun h => by cases h) (fun h => by cases h))
        (fun hlower => by cases hlower)
      exact absurd ((hflags task').symm.trans (by cases task' <;> exact hflag)) Bool.false_ne_true
    · rw [if_neg hrun]
      refine h.of_rest htodo (List.suffix_refl rest) rfl rfl
        (fun task' => Eq.trans (by cases task' <;> rfl) (hflags task')) h.rx h.tx ?_
      intro task' hrun'
      exact .inr (hrest task' (by cases task' <;> exact hrun') (Bool.eq_false_iff.mpr hrun))
  · have hflags := h.shouldStop_of_stage (.inr hstage)
    refine h.of_stage hhead ?_ ?_ ?_ ?_ (fun task' hflag => ⟨?_, .inl rfl⟩)
      (fun _ => by cases task <;> rfl) (fun hlower => by cases hlower)
    · cases task <;> rfl
    · cases task <;> rfl
    · cases task <;> rfl
    · cases task <;> rfl
    · have hfalse := hflags task'
      cases task <;> cases task' <;> first
        | rfl
        | exact absurd (hfalse.symm.trans hflag) Bool.false_ne_true
  · by_cases hrun : s.running task = true
    · rw [if_pos hrun]
      exact h
    · rw [if_neg hrun]
      have hflag : s.shouldStop task = true := h.asked task hhead (.inl hstage)
      refine h.of_stage hhead rfl rfl rfl rfl (fun task' hflag => ⟨?_, .inr rfl⟩)
        (fun _ => Eq.trans (by cases task <;> rfl) hflag) (fun _ => Bool.eq_false_iff.mpr hrun)
      exact h.eq_of_shouldStop hhead (by cases task' <;> exact hflag)
  · have hstopped := h.lowered task hhead hstage
    refine h.of_rest htodo (List.suffix_refl rest) ?_ rfl ?_ ?_ ?_ ?_
    · cases task <;> rfl
    · intro task'
      have hother : s.shouldStop task' = true → task' = task := h.eq_of_shouldStop hhead
      cases hcase : s.shouldStop task' with
      | true =>
        have heq := hother hcase
        subst heq
        cases task' <;> rfl
      | false => cases task <;> cases task' <;> first | rfl | exact hcase
    · cases task <;> exact h.rx
    · cases task <;> exact h.tx
    · intro task' hrun'
      exact .inr (hrest task' (by cases task <;> cases task' <;> exact hrun') hstopped)

/-- Every action of an entry keeps the invariant. -/
lemma perform (h : AudioInv s) (ok : Bool) {action : AudioAction} {rest : List AudioAction}
    (htodo : s.todo = action :: rest) : AudioInv (s.perform ok action rest).1 := by
  have hfits := fits_of_suffix h.script
  rw [htodo] at hfits
  by_cases hstop : ∃ task, action = .stopAudioTask task
  · obtain ⟨task, rfl⟩ := hstop
    exact h.stopAudioTask htodo
  have hne : ∀ task, action ≠ .stopAudioTask task := fun task heq => hstop ⟨task, heq⟩
  obtain ⟨hstage, hflags⟩ := h.of_head htodo hne
  have hruns : ∀ task, s.running task = true → .stopAudioTask task ∈ rest :=
    fun task => h.mem_rest_of_running htodo (hne task)
  have hidle : s.fsm = .txAudio ∨ s.fsm = .rxAudio → ∀ task, s.running task = false :=
    fun hfsm => h.not_running_of_audio hfsm (by rw [htodo]; exact List.cons_ne_nil _ _)
  -- what most of the actions have in common
  have hplain : ∀ s' : AudioSystem, s'.todo = rest → s'.fsm = s.fsm → s'.stage = s.stage →
      (∀ task, s'.shouldStop task = s.shouldStop task) → s'.rx = s.rx → s'.tx = s.tx →
      AudioInv s' := by
    intro s' htodo' hfsm hstage' hflags' hrx htx
    refine h.of_rest htodo (by rw [htodo']) hfsm (hstage'.trans hstage)
      (fun task => (hflags' task).trans (hflags task)) (by rw [hrx]; exact h.rx)
      (by rw [htx]; exact h.tx) ?_
    intro task hrun
    rw [htodo']
    refine .inr (hruns task ?_)
    cases task with
    | tx => exact (congrArg (fun slot => slot.current.isSome) htx).symm.trans hrun
    | rx => exact (congrArg (fun slot => slot.current.isSome) hrx).symm.trans hrun
  cases action with
  | speakerEnable => exact hplain _ rfl rfl rfl (fun task => by cases task <;> rfl) rfl rfl
  | speakerWrite _ => exact hplain _ rfl rfl rfl (fun task => by cases task <;> rfl) rfl rfl
  | speakerDisable => exact hplain _ rfl rfl rfl (fun task => by cases task <;> rfl) rfl rfl
  | postError => exact hplain _ rfl rfl rfl (fun task => by cases task <;> rfl) rfl rfl
  | resetRxAudioQueue => exact hplain _ rfl rfl rfl (fun task => by cases task <;> rfl) rfl rfl
  | stopAudioTask task => exact absurd rfl (hne task)
  | beginTx =>
    have hfsm : s.fsm = .txAudio := by
      simp only [Fits, Bool.and_eq_true, beq_iff_eq] at hfits
      exact hfits.1
    cases ok with
    | true => exact hplain _ rfl rfl rfl (fun task => by cases task <;> rfl) rfl rfl
    | false =>
      refine h.of_rest htodo (List.nil_suffix) rfl hstage
        (fun task => Eq.trans (by cases task <;> rfl) (hflags task)) h.rx h.tx ?_
      intro task hrun
      have hidle' := hidle (.inl hfsm) task
      cases task <;> exact absurd (hidle'.symm.trans hrun) Bool.false_ne_true
  | createTxAudioTask =>
    simp only [Fits, Bool.and_eq_true, beq_iff_eq] at hfits
    obtain ⟨hfsm, hrest⟩ := hfits
    have hidle' := hidle (.inl hfsm)
    cases ok with
    | false => exact hplain _ rfl rfl rfl (fun task => by cases task <;> rfl) rfl rfl
    | true =>
      have hnone : s.tx.current = none := Option.not_isSome_iff_eq_none.mp
        (by rw [show s.tx.current.isSome = false from hidle' .tx]; exact Bool.false_ne_true)
      refine h.of_rest htodo (List.suffix_refl rest) rfl hstage
        (fun task => Eq.trans (by cases task <;> rfl) (hflags task)) h.rx (h.tx.create hnone rfl) ?_
      intro task hrun
      cases task with
      | tx => exact .inl ⟨hfsm, hrest⟩
      | rx => exact absurd ((hidle' .rx).symm.trans hrun) Bool.false_ne_true
  | createRxAudioTask =>
    simp only [Fits, Bool.and_eq_true, beq_iff_eq] at hfits
    have hfsm := hfits.1
    have hidle' := hidle (.inr hfsm)
    cases ok with
    | false => exact hplain _ rfl rfl rfl (fun task => by cases task <;> rfl) rfl rfl
    | true =>
      have hnone : s.rx.current = none := Option.not_isSome_iff_eq_none.mp
        (by rw [show s.rx.current.isSome = false from hidle' .rx]; exact Bool.false_ne_true)
      refine h.of_rest htodo List.nil_suffix rfl hstage
        (fun task => Eq.trans (by cases task <;> rfl) (hflags task)) (h.rx.create hnone rfl) h.tx ?_
      intro task hrun
      cases task with
      | rx => exact .inl ⟨hfsm, rfl⟩
      | tx => exact absurd ((hidle' .tx).symm.trans hrun) Bool.false_ne_true
  | clearRxHandle =>
    simp only [Fits, Bool.and_eq_true, beq_iff_eq] at hfits
    have hnone : s.rx.current = none := Option.not_isSome_iff_eq_none.mp
      (by
        rw [show s.rx.current.isSome = false from hidle (.inr hfits.1) .rx]
        exact Bool.false_ne_true)
    exact hplain _ rfl rfl rfl (fun task => by cases task <;> rfl)
      (TaskSlot.forget_of_current_eq_none hnone) rfl
  | ifTxAudioTask =>
    simp only [Fits, Bool.and_eq_true, beq_iff_eq] at hfits
    unfold AudioSystem.perform
    by_cases hrun : s.running .tx = true
    · rw [if_pos hrun]
      exact hplain _ rfl rfl rfl (fun task => by cases task <;> rfl) rfl rfl
    · rw [if_neg hrun]
      refine h.of_rest htodo (List.tail_suffix rest) rfl hstage
        (fun task => Eq.trans (by cases task <;> rfl) (hflags task)) h.rx h.tx ?_
      intro task hrun'
      cases task with
      | tx => exact absurd hrun' hrun
      | rx =>
        have hmem := hruns .rx hrun'
        obtain ⟨rest', rfl⟩ := List.head?_eq_some_iff.mp hfits.1
        rcases List.mem_cons.mp hmem with heq | hmem
        · cases heq
        · exact .inr hmem

/-- So does the entry into another state, when it stops the task of the state that is left. -/
lemma enter (h : AudioInv s) (htodo : s.todo = []) {next : FsmState}
    (hnext : ∀ task, s.fsm = task.state → .stopAudioTask task ∈ enterAudio next) :
    AudioInv (s.enter next) where
  script := List.suffix_rfl
  rx := h.rx
  tx := h.tx
  runs task hrun := by
    have hrun' : s.running task = true := by cases task <;> exact hrun
    rcases h.runs task hrun' with ⟨hfsm, -⟩ | hmem
    · exact .inr (hnext task hfsm)
    · rw [htodo] at hmem
      cases hmem
  stage hne := absurd rfl hne
  raised task hraised := by
    have hfalse := h.shouldStop_of_todo_nil htodo task
    cases task <;> exact absurd (hfalse.symm.trans hraised) Bool.false_ne_true
  asked _ _ hlate := hlate.elim (fun h => by cases h) (fun h => by cases h)
  lowered _ _ hlower := by cases hlower

/-- So does `fsm_transition_to`. -/
lemma transitionTo (h : AudioInv s) (htodo : s.todo = []) {next : FsmState}
    (hnext : ∀ task, s.fsm = task.state → next ≠ task.state →
      .stopAudioTask task ∈ enterAudio next) : AudioInv (s.transitionTo next) := by
  unfold AudioSystem.transitionTo
  by_cases heq : next = s.fsm
  · rw [if_pos heq]
    exact h
  · rw [if_neg heq]
    exact h.enter htodo (fun task hfsm => hnext task hfsm (hfsm ▸ heq))

/-- So does the reaction to an event. -/
lemma react (h : AudioInv s) (htodo : s.todo = []) (ok : Bool) (event : FsmEvent) :
    AudioInv (s.react ok event) := by
  unfold AudioSystem.react
  have hgiveUp : fsmTaskReaction s.fsm event = .abortSession ∨
      fsmTaskReaction s.fsm event = .armResyncTimer → AudioInv (s.transitionTo .menuOta) := by
    intro hreaction
    refine h.transitionTo htodo (fun task hfsm => ?_)
    rw [hfsm] at hreaction
    exact absurd hreaction (not_or.mpr (fsmTaskReaction_task task event))
  cases hreaction : fsmTaskReaction s.fsm event with
  | ignore => exact h
  | stopResyncTimer => exact h
  | abortSession => exact hgiveUp (.inl hreaction)
  | armResyncTimer =>
    cases ok with
    | true => exact h
    | false => exact hgiveUp (.inr hreaction)
  | transitionTo next =>
    refine h.transitionTo htodo (fun task hfsm hne => ?_)
    rw [hfsm] at hreaction
    exact mem_enterAudio_of_transition hreaction hne

/-- So does every step of `fsm_task`. -/
lemma fsmTask (h : AudioInv s) (ok : Bool) : AudioInv (s.fsmTask ok).1 := by
  rcases s.fsmTask_cases ok with ⟨action, rest, htodo, heq⟩ | ⟨event, events, htodo, -, heq⟩ |
    ⟨-, heq⟩
  · rw [heq]
    exact h.perform ok htodo
  · rw [heq]
    have hevents : AudioInv { s with events := events } :=
      h.of_slots rfl rfl rfl (fun task => by cases task <;> rfl) h.rx h.tx
        (fun task hrun => by cases task <;> exact hrun)
    exact hevents.react htodo ok event
  · rw [heq]
    exact h

/-! ### The steps of the others -/

/-- A step of an RX task keeps the invariant. -/
lemma rxAudioTask (h : AudioInv s) (which : Option ℕ) : AudioInv (s.rxAudioTask which).1 := by
  unfold AudioSystem.rxAudioTask
  cases hpoint : s.rx.point which with
  | none => exact h
  | some point =>
    have hslot : AudioInv
        { s with
          rx := s.rx.advance which (point.next s.rxShouldStop s.rxAudioQueue).1 point.clearsHandle
          rxAudioQueue := (point.next s.rxShouldStop s.rxAudioQueue).2.1 } := by
      refine h.of_slots rfl rfl rfl (fun task => by cases task <;> rfl) ?_ h.tx ?_
      · exact h.rx.advance hpoint (point.hasHandle_of_clearsHandle)
          (point.hasHandle_next s.rxShouldStop s.rxAudioQueue)
      · intro task hrun
        cases task with
        | tx => exact hrun
        | rx => exact TaskSlot.isSome_current_of_advance hpoint hrun
    dsimp only
    by_cases hpost : point = .postRxDone
    · rw [if_pos hpost]
      exact hslot.post .rxDone
    · rw [if_neg hpost]
      exact hslot

/-- So does a step of a TX task. -/
lemma txAudioTask (h : AudioInv s) (which : Option ℕ) (captured : Bool) :
    AudioInv (s.txAudioTask which captured) := by
  unfold AudioSystem.txAudioTask
  cases hpoint : s.tx.point which with
  | none => exact h
  | some point =>
    refine h.of_slots rfl rfl rfl (fun task => by cases task <;> rfl) h.rx ?_ ?_
    · exact h.tx.advance hpoint (point.hasHandle_of_clearsHandle)
        (point.hasHandle_next s.txShouldStop captured)
    · intro task hrun
      cases task with
      | tx => exact TaskSlot.isSome_current_of_advance hpoint hrun
      | rx => exact hrun

/-- Every step keeps the invariant. -/
lemma step (h : AudioInv s) (a : AudioStep) : AudioInv (audioStep s a).1 := by
  have hsame : ∀ s' : AudioSystem, s'.fsm = s.fsm → s'.todo = s.todo → s'.stage = s.stage →
      (∀ task, s'.shouldStop task = s.shouldStop task) → s'.rx = s.rx → s'.tx = s.tx →
      AudioInv s' := by
    intro s' hfsm htodo hstage hflags hrx htx
    refine h.of_slots hfsm htodo hstage hflags (by rw [hrx]; exact h.rx) (by rw [htx]; exact h.tx)
      (fun task hrun => ?_)
    cases task with
    | tx => exact (congrArg (fun slot => slot.current.isSome) htx).symm.trans hrun
    | rx => exact (congrArg (fun slot => slot.current.isSome) hrx).symm.trans hrun
  cases a with
  | fsmTask ok => exact h.fsmTask ok
  | rxAudioTask which => exact h.rxAudioTask which
  | txAudioTask which captured => exact h.txAudioTask which captured
  | postEvent event => exact h.post event
  | micTestTask which captured =>
    change AudioInv (s.micTestTask which captured).1
    unfold AudioSystem.micTestTask
    split
    · exact h
    · exact hsame _ rfl rfl rfl (fun task => by cases task <;> rfl) rfl rfl
  | pttEvent pressed =>
    dsimp only [audioStep]
    split
    · exact hsame _ rfl rfl rfl (fun task => by cases task <;> rfl) rfl rfl
    · exact h
  | onPttEvent created =>
    dsimp only [audioStep]
    unfold AudioSystem.onPttEvent
    split
    · exact h
    · split
      · split
        · exact hsame _ rfl rfl rfl (fun task => by cases task <;> rfl) rfl rfl
        · exact hsame _ rfl rfl rfl (fun task => by cases task <;> rfl) rfl rfl
      · exact hsame _ rfl rfl rfl (fun task => by cases task <;> rfl) rfl rfl
    · exact hsame _ rfl rfl rfl (fun task => by cases task <;> rfl) rfl rfl
  | postRxAudioFrame data =>
    dsimp only [audioStep]
    unfold AudioSystem.fsmPostRxAudioFrame
    split
    · exact h
    · split
      · exact hsame _ rfl rfl rfl (fun task => by cases task <;> rfl) rfl rfl
      · exact h

/-- In every run the invariant holds. -/
lemma run (l : List AudioStep) : AudioInv (finalState audioStep .boot l) :=
  invariant_run audioStep (fun _ a h => h.step a) boot l

end AudioInv
end FhssOtaRadio
