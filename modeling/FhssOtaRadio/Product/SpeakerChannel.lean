import FhssOtaRadio.Library.Monitor
import FhssOtaRadio.Product.AudioInvariant

/-!
# Who has the speaker (`main/fsm.c`, `components/audio_io/audio_io.c`)

The I2S channel of the speaker must not be enabled twice: `audio_io_speaker_enable` is an
`ESP_ERROR_CHECK`, which restarts the device.  Who has the channel is nowhere written down.  It
goes from `fsm_task` to the RX task that it creates, which gives it up before it clears its
handle; so the points that the tasks have reached decide whether the channel is on (`speakerOn`).

The loopback test takes the channel too, after the button was pressed in `MENU_IDLE`, and nothing
stops it when the menu is left.  In the runs in which `TX_AUDIO` and `RX_AUDIO` are entered only
when no test is on, each call finds the channel as it needs it (`audioTasks_run`); a test that is
still on then can take the channel a second time (`loopback_test_overlaps`).
-/

namespace FhssOtaRadio

open Machine Monitor

/-- What a call makes of the speaker channel. -/
def speakerMonitor (on : Bool) : AudioCall → Bool × Unit
  | .speakerEnable => (true, ())
  | .speakerDisable => (false, ())
  | _ => (on, ())

/-- The channel is enabled when it is off; it is written and disabled when it is on. -/
def SpeakerAllowed (on : Bool) : AudioCall → Prop
  | .speakerEnable => on = false
  | .speakerDisable | .speakerWrite | .play _ => on = true
  | .accept _ | .reset => True

instance decidableSpeakerAllowed : ∀ on call, Decidable (SpeakerAllowed on call)
  | on, .speakerEnable => inferInstanceAs (Decidable (on = false))
  | on, .speakerDisable => inferInstanceAs (Decidable (on = true))
  | on, .speakerWrite => inferInstanceAs (Decidable (on = true))
  | on, .play _ => inferInstanceAs (Decidable (on = true))
  | _, .accept _ => inferInstanceAs (Decidable True)
  | _, .reset => inferInstanceAs (Decidable True)

namespace AudioSystem

/-- A loopback test is on, or the button that starts one has been seen. -/
def testOn (s : AudioSystem) : Bool :=
  s.micTest.current.isSome || s.ptt == some (true, .menuIdle)

/-- One of the tasks has the speaker channel. -/
def speakerOn (s : AudioSystem) : Bool :=
  holdsSpeaker s.todo || s.rx.current.elim false RxAudioPoint.hasSpeaker ||
    s.micTest.current.elim false MicTestPoint.hasSpeaker

end AudioSystem

/-- An audio state is entered only when no loopback test is on. -/
def NoOverlap (s : AudioSystem) (a : AudioStep) : Prop :=
  (audioStep s a).1.fsm ≠ s.fsm →
    (audioStep s a).1.fsm = .txAudio ∨ (audioStep s a).1.fsm = .rxAudio → s.testOn = false

instance (s : AudioSystem) (a : AudioStep) : Decidable (NoOverlap s a) := by
  unfold NoOverlap
  infer_instance

/-- No audio task runs while a loopback test is on, and the FSM is in no audio state. -/
structure TestApart (s : AudioSystem) : Prop where
  micTest : s.micTest.Tidy MicTestPoint.hasHandle
  apart : s.testOn = true →
    s.fsm ≠ .txAudio ∧ s.fsm ≠ .rxAudio ∧ ∀ task, s.running task = false

/-! ## The loopback test keeps apart -/

section FsmTask

/-- What the functions that stop a task leave alone. -/
lemma stopAudioTask_frame (s : AudioSystem) (task : AudioTask) (rest : List AudioAction) :
    (s.stopAudioTask task rest).micTest = s.micTest ∧ (s.stopAudioTask task rest).ptt = s.ptt ∧
      (s.stopAudioTask task rest).rx = s.rx ∧ (s.stopAudioTask task rest).tx = s.tx ∧
      (s.stopAudioTask task rest).rxAudioQueue = s.rxAudioQueue := by
  unfold AudioSystem.stopAudioTask
  split
  · split <;> exact ⟨rfl, rfl, rfl, rfl, rfl⟩
  · cases task <;> exact ⟨rfl, rfl, rfl, rfl, rfl⟩
  · split <;> exact ⟨rfl, rfl, rfl, rfl, rfl⟩
  · cases task <;> exact ⟨rfl, rfl, rfl, rfl, rfl⟩

/-- What the reaction to an event leaves alone. -/
lemma react_frame (s : AudioSystem) (ok : Bool) (event : FsmEvent) :
    (s.react ok event).micTest = s.micTest ∧ (s.react ok event).ptt = s.ptt ∧
      (s.react ok event).rx = s.rx ∧ (s.react ok event).tx = s.tx ∧
      (s.react ok event).rxAudioQueue = s.rxAudioQueue := by
  have htransition : ∀ next, (s.transitionTo next).micTest = s.micTest ∧
      (s.transitionTo next).ptt = s.ptt ∧ (s.transitionTo next).rx = s.rx ∧
      (s.transitionTo next).tx = s.tx ∧
      (s.transitionTo next).rxAudioQueue = s.rxAudioQueue := by
    intro next
    unfold AudioSystem.transitionTo
    split <;> exact ⟨rfl, rfl, rfl, rfl, rfl⟩
  unfold AudioSystem.react
  split
  · exact htransition _
  · exact htransition _
  · cases ok
    · exact htransition _
    · exact ⟨rfl, rfl, rfl, rfl, rfl⟩
  · exact ⟨rfl, rfl, rfl, rfl, rfl⟩
  · exact ⟨rfl, rfl, rfl, rfl, rfl⟩

variable {s : AudioSystem}

/-- `fsm_task` leaves the loopback test and the button alone. -/
lemma testOn_fsmTask (ok : Bool) :
    (s.fsmTask ok).1.micTest = s.micTest ∧ (s.fsmTask ok).1.testOn = s.testOn := by
  have hframe : (s.fsmTask ok).1.micTest = s.micTest ∧ (s.fsmTask ok).1.ptt = s.ptt := by
    rcases s.fsmTask_cases ok with ⟨action, rest, -, heq⟩ | ⟨event, events, -, -, heq⟩ |
      ⟨-, heq⟩ <;> rw [heq]
    · cases action with
      | stopAudioTask task =>
        obtain ⟨hmic, hptt, -⟩ := stopAudioTask_frame s task rest
        exact ⟨hmic, hptt⟩
      | _ => cases ok <;> exact ⟨rfl, rfl⟩
    · exact ⟨(react_frame _ ok event).1, (react_frame _ ok event).2.1⟩
    · exact ⟨rfl, rfl⟩
  refine ⟨hframe.1, ?_⟩
  unfold AudioSystem.testOn
  rw [hframe.1, hframe.2]

/-- `fsm_task` creates a task in the state of the task only. -/
lemma running_of_fsmTask (h : AudioInv s) (ok : Bool) {task : AudioTask}
    (hrun : (s.fsmTask ok).1.running task = true) :
    s.running task = true ∨ s.fsm = .txAudio ∨ s.fsm = .rxAudio := by
  by_cases haudio : s.fsm = .txAudio ∨ s.fsm = .rxAudio
  · exact .inr haudio
  refine .inl ?_
  rcases s.fsmTask_cases ok with ⟨action, rest, htodo, heq⟩ | ⟨event, events, -, -, heq⟩ |
    ⟨-, heq⟩ <;> rw [heq] at hrun
  · have hfits := fits_of_suffix h.script
    rw [htodo] at hfits
    cases action with
    | stopAudioTask task' =>
      obtain ⟨-, -, hrx, htx, -⟩ := stopAudioTask_frame s task' rest
      cases task with
      | tx => exact (congrArg (fun slot => slot.current.isSome) htx).symm.trans hrun
      | rx => exact (congrArg (fun slot => slot.current.isSome) hrx).symm.trans hrun
    | createTxAudioTask =>
      simp only [Fits, Bool.and_eq_true, beq_iff_eq] at hfits
      exact absurd (.inl hfits.1) haudio
    | createRxAudioTask =>
      simp only [Fits, Bool.and_eq_true, beq_iff_eq] at hfits
      exact absurd (.inr hfits.1) haudio
    | clearRxHandle =>
      simp only [Fits, Bool.and_eq_true, beq_iff_eq] at hfits
      exact absurd (.inr hfits.1) haudio
    | _ => cases ok <;> cases task <;> exact hrun
  · obtain ⟨-, -, hrx, htx, -⟩ := react_frame { s with events := events } ok event
    cases task with
    | tx => exact (congrArg (fun slot => slot.current.isSome) htx).symm.trans hrun
    | rx => exact (congrArg (fun slot => slot.current.isSome) hrx).symm.trans hrun
  · exact hrun

end FsmTask

namespace TestApart

variable {s : AudioSystem}

/-- No test is on when `fsm_task` starts. -/
lemma boot : TestApart .boot := ⟨TaskSlot.tidy_empty, fun h => by cases h⟩

/-- A step keeps the test apart when it starts none, enters no audio state while one is on and
creates no audio task. -/
lemma of_testOn {s' : AudioSystem} (h : TestApart s)
    (hmic : s'.micTest.Tidy MicTestPoint.hasHandle) (htest : s'.testOn = true → s.testOn = true)
    (hfsm : s'.fsm = s.fsm) (hrunning : ∀ task, s'.running task = true → s.running task = true) :
    TestApart s' := by
  refine ⟨hmic, fun hon => ?_⟩
  obtain ⟨htx, hrx, hidle⟩ := h.apart (htest hon)
  refine ⟨hfsm ▸ htx, hfsm ▸ hrx, fun task => ?_⟩
  cases hcase : s'.running task with
  | false => rfl
  | true => exact absurd ((hidle task).symm.trans (hrunning task hcase)) Bool.false_ne_true

/-- The steps of `fsm_task` keep it apart. -/
lemma fsmTask (h : TestApart s) (hinv : AudioInv s) (ok : Bool)
    (hguard : NoOverlap s (.fsmTask ok)) : TestApart (s.fsmTask ok).1 := by
  obtain ⟨hmic, htest⟩ := testOn_fsmTask (s := s) ok
  refine ⟨hmic ▸ h.micTest, fun hon => ?_⟩
  rw [htest] at hon
  obtain ⟨htx, hrx, hidle⟩ := h.apart hon
  have hstay : ¬ ((s.fsmTask ok).1.fsm = .txAudio ∨ (s.fsmTask ok).1.fsm = .rxAudio) := by
    intro haudio
    have hne : (s.fsmTask ok).1.fsm ≠ s.fsm := by
      intro heq
      rw [heq] at haudio
      exact haudio.elim htx hrx
    have hoff := hguard hne haudio
    rw [hon] at hoff
    cases hoff
  refine ⟨fun heq => hstay (.inl heq), fun heq => hstay (.inr heq), fun task => ?_⟩
  cases hcase : (s.fsmTask ok).1.running task with
  | false => rfl
  | true =>
    rcases running_of_fsmTask hinv ok hcase with hrun | haudio
    · exact absurd ((hidle task).symm.trans hrun) Bool.false_ne_true
    · exact absurd haudio (not_or.mpr ⟨htx, hrx⟩)

/-- The button is seen in `MENU_IDLE` only while no audio task runs. -/
lemma pttEvent (h : TestApart s) (hinv : AudioInv s) (pressed : Bool) :
    TestApart { s with ptt := some (pressed, s.fsm) } := by
  refine ⟨h.micTest, fun hon => ?_⟩
  have hcause : s.testOn = true ∨ s.fsm = .menuIdle := by
    unfold AudioSystem.testOn at hon ⊢
    simp only [Bool.or_eq_true, beq_iff_eq, Option.some.injEq, Prod.mk.injEq] at hon
    rcases hon with hmic | ⟨-, hfsm⟩
    · exact .inl (by rw [hmic, Bool.true_or])
    · exact .inr hfsm
  rcases hcause with hon | hfsm
  · obtain ⟨htx, hrx, hidle⟩ := h.apart hon
    exact ⟨htx, hrx, fun task => by cases task <;> first | exact hidle .tx | exact hidle .rx⟩
  · have hidle : ∀ task, s.running task = false := by
      intro task
      refine hinv.not_running (.inl ?_) ?_
      · rw [hfsm]
        cases task <;> decide
      · intro hmem
        have hentry := (mem_enterAudio_stop_iff task).mp (hinv.script.subset hmem)
        rw [hfsm] at hentry
        rcases hentry with heq | heq <;> cases heq
    refine ⟨?_, ?_, fun task => by cases task <;> first | exact hidle .tx | exact hidle .rx⟩
    · change s.fsm ≠ .txAudio
      rw [hfsm]
      decide
    · change s.fsm ≠ .rxAudio
      rw [hfsm]
      decide

/-- The button starts a test when it was seen in `MENU_IDLE`. -/
lemma onPttEvent (h : TestApart s) (created : Bool) : TestApart (s.onPttEvent created) := by
  have hless : ∀ s' : AudioSystem, s'.micTest = s.micTest → s'.ptt = none → s'.fsm = s.fsm →
      s'.rx = s.rx → s'.tx = s.tx → TestApart s' := by
    intro s' hmic hptt hfsm hrx htx
    refine h.of_testOn (hmic ▸ h.micTest) (fun hon => ?_) hfsm (fun task hrun => ?_)
    · unfold AudioSystem.testOn at hon ⊢
      rw [hmic, hptt] at hon
      simp only [Bool.or_eq_true] at hon ⊢
      exact hon.imp_right fun hcontra => by cases hcontra
    · cases task with
      | tx => exact (congrArg (fun slot => slot.current.isSome) htx).symm.trans hrun
      | rx => exact (congrArg (fun slot => slot.current.isSome) hrx).symm.trans hrun
  unfold AudioSystem.onPttEvent
  split
  · exact h
  · next pressed hptt =>
    split
    · next hpressed =>
      split
      · exact hless _ rfl rfl rfl rfl rfl
      · next hnone =>
        have hon : s.testOn = true := by
          unfold AudioSystem.testOn
          rw [hptt, hpressed]
          exact Bool.or_true _
        have hnone' : s.micTest.current = none := Option.not_isSome_iff_eq_none.mp hnone
        obtain ⟨htx, hrx, hidle⟩ := h.apart hon
        refine ⟨?_, fun _ => ⟨htx, hrx, fun task => ?_⟩⟩
        · cases created with
          | true => exact h.micTest.create hnone' rfl
          | false => exact h.micTest
        · cases task <;> first | exact hidle .tx | exact hidle .rx
    · exact hless _ rfl rfl rfl rfl rfl
  · exact hless _ rfl rfl rfl rfl rfl

/-- Every step that meets the guard keeps the test apart. -/
lemma step (h : TestApart s) (hinv : AudioInv s) (a : AudioStep) (hguard : NoOverlap s a) :
    TestApart (audioStep s a).1 := by
  have hsame : ∀ s' : AudioSystem, s'.micTest = s.micTest → s'.ptt = s.ptt → s'.fsm = s.fsm →
      (∀ task, s'.running task = true → s.running task = true) → TestApart s' := by
    intro s' hmic hptt hfsm hrunning
    refine h.of_testOn (hmic ▸ h.micTest) (fun hon => ?_) hfsm hrunning
    unfold AudioSystem.testOn at hon ⊢
    rwa [hmic, hptt] at hon
  cases a with
  | fsmTask ok => exact h.fsmTask hinv ok hguard
  | onPttEvent created => exact h.onPttEvent created
  | postEvent event => exact hsame _ rfl rfl rfl (fun task => by cases task <;> exact id)
  | pttEvent pressed =>
    dsimp only [audioStep]
    split
    · exact h.pttEvent hinv pressed
    · exact h
  | rxAudioTask which =>
    change TestApart (s.rxAudioTask which).1
    unfold AudioSystem.rxAudioTask
    cases hpoint : s.rx.point which with
    | none => exact h
    | some point =>
      dsimp only
      split
      · refine hsame _ rfl rfl rfl (fun task hrun => ?_)
        cases task with
        | tx => exact hrun
        | rx => exact TaskSlot.isSome_current_of_advance hpoint hrun
      · refine hsame _ rfl rfl rfl (fun task hrun => ?_)
        cases task with
        | tx => exact hrun
        | rx => exact TaskSlot.isSome_current_of_advance hpoint hrun
  | txAudioTask which captured =>
    change TestApart (s.txAudioTask which captured)
    unfold AudioSystem.txAudioTask
    cases hpoint : s.tx.point which with
    | none => exact h
    | some point =>
      refine hsame _ rfl rfl rfl (fun task hrun => ?_)
      cases task with
      | tx => exact TaskSlot.isSome_current_of_advance hpoint hrun
      | rx => exact hrun
  | micTestTask which captured =>
    change TestApart (s.micTestTask which captured).1
    unfold AudioSystem.micTestTask
    cases hpoint : s.micTest.point which with
    | none => exact h
    | some point =>
      refine h.of_testOn ?_ (fun hon => ?_) rfl (fun task => by cases task <;> exact id)
      · exact h.micTest.advance hpoint (point.hasHandle_of_clearsHandle)
          (point.hasHandle_next s.micTestRecording captured)
      · unfold AudioSystem.testOn at hon ⊢
        rcases Bool.or_eq_true_iff.mp hon with hmic | hptt
        · rw [TaskSlot.isSome_current_of_advance hpoint hmic, Bool.true_or]
        · exact Bool.or_eq_true_iff.mpr (.inr hptt)
  | postRxAudioFrame data =>
    change TestApart (s.fsmPostRxAudioFrame data).1
    unfold AudioSystem.fsmPostRxAudioFrame
    split
    · exact h
    · split
      · exact hsame _ rfl rfl rfl (fun task => by cases task <;> exact id)
      · exact h

end TestApart

/-! ## The calls of one step -/

/-- The calls of an RX task are allowed while it has the channel, and leave it as its point says. -/
lemma RxAudioPoint.orderly_next (point : RxAudioPoint) (shouldStop : Bool) (queue : List Bytes) :
    Orderly speakerMonitor SpeakerAllowed point.hasSpeaker (point.next shouldStop queue).2.2
      (point.next shouldStop queue).1.hasSpeaker := by
  cases point with
  | test => cases shouldStop <;> exact .nil _
  | receive => cases queue <;> exact .nil _
  | play frame => exact .cons rfl (.nil _)
  | silence idleMs =>
    have hon : (RxAudioPoint.next shouldStop queue (.silence idleMs)).1.hasSpeaker = true := by
      dsimp only [next]
      split <;> rfl
    rw [hon]
    exact .cons rfl (.nil _)
  | disableSpeaker => exact .cons rfl (.nil _)
  | clearHandle => exact .nil _
  | check timedOut => cases timedOut <;> cases shouldStop <;> exact .nil _
  | postRxDone => exact .nil _
  | deleted => exact .nil _

/-- A task that has given its handle back calls nothing. -/
lemma RxAudioPoint.calls_next_of_not (point : RxAudioPoint) (h : point.hasHandle = false)
    (shouldStop : Bool) (queue : List Bytes) : (point.next shouldStop queue).2.2 = [] := by
  cases point with
  | check => rfl
  | postRxDone => rfl
  | deleted => rfl
  | _ => cases h

/-- The channel is not left behind with the handle. -/
lemma RxAudioPoint.hasSpeaker_of_not (point : RxAudioPoint) (h : point.hasHandle = false) :
    point.hasSpeaker = false := by
  cases point with
  | check => rfl
  | postRxDone => rfl
  | deleted => rfl
  | _ => cases h

/-- The same for the loopback test, which takes the channel itself. -/
lemma MicTestPoint.orderly_next (point : MicTestPoint) (recording captured : Bool) :
    Orderly speakerMonitor SpeakerAllowed point.hasSpeaker (point.next recording captured).2
      (point.next recording captured).1.hasSpeaker := by
  cases point with
  | test frameCount =>
    have hoff : (MicTestPoint.next recording captured (.test frameCount)).1.hasSpeaker = false := by
      dsimp only [next]
      split <;> rfl
    rw [hoff]
    exact .nil _
  | capture => exact .nil _
  | enableSpeaker => exact .cons rfl (.nil _)
  | play left => cases left <;> exact .cons rfl (.nil _)
  | clearHandle => exact .nil _
  | deleted => exact .nil _

lemma MicTestPoint.calls_next_of_not (point : MicTestPoint) (h : point.hasHandle = false)
    (recording captured : Bool) : (point.next recording captured).2 = [] := by
  cases point with
  | deleted => rfl
  | _ => cases h

lemma MicTestPoint.hasSpeaker_of_not (point : MicTestPoint) (h : point.hasHandle = false) :
    point.hasSpeaker = false := by
  cases point with
  | deleted => rfl
  | _ => cases h

/-- The calls of a step take the speaker channel from where it is to where it is afterwards. -/
def SpeakerStep (s : AudioSystem) (result : AudioSystem × List AudioCall) : Prop :=
  Orderly speakerMonitor SpeakerAllowed s.speakerOn result.2 result.1.speakerOn

section SpeakerStep

variable {s : AudioSystem}

/-- A step that calls nothing and moves no owner. -/
lemma SpeakerStep.of_eq {s' : AudioSystem} {calls : List AudioCall}
    (hcalls : calls = [] ∨ calls = [.reset] ∨ ∃ frame, calls = [.accept frame])
    (h : s'.speakerOn = s.speakerOn) : SpeakerStep s (s', calls) := by
  unfold SpeakerStep
  dsimp only
  rw [h]
  rcases hcalls with rfl | rfl | ⟨frame, rfl⟩
  · exact .nil _
  · exact .cons trivial (.nil _)
  · exact .cons trivial (.nil _)

/-- While an audio task or a loopback test runs, `fsm_task` does not have the channel. -/
lemma not_holdsSpeaker (h : AudioInv s) {task : AudioTask} (hrun : s.running task = true) :
    holdsSpeaker s.todo = false := by
  cases hcase : holdsSpeaker s.todo with
  | false => rfl
  | true =>
    have haudio := fsm_of_holdsSpeaker h.script hcase
    have hne : s.todo ≠ [] := by
      intro hnil
      rw [hnil] at hcase
      cases hcase
    rw [h.not_running_of_audio haudio hne task] at hrun
    cases hrun

/-- The other owners have nothing while `fsm_task` goes through the entry into an audio state. -/
lemma speakerOn_of_audio (h : AudioInv s) (happart : TestApart s)
    (hfsm : s.fsm = .txAudio ∨ s.fsm = .rxAudio) (htodo : s.todo ≠ []) :
    s.rx.current = none ∧ s.micTest.current = none := by
  constructor
  · have hidle := h.not_running_of_audio hfsm htodo .rx
    exact Option.not_isSome_iff_eq_none.mp
      (by rw [show s.rx.current.isSome = false from hidle]; exact Bool.false_ne_true)
  · have hoff : s.testOn = false := by
      cases hcase : s.testOn with
      | false => rfl
      | true =>
        obtain ⟨htx, hrx, -⟩ := happart.apart hcase
        exact absurd hfsm (not_or.mpr ⟨htx, hrx⟩)
    have hmic := (Bool.or_eq_false_iff.mp hoff).1
    exact Option.not_isSome_iff_eq_none.mp (by rw [hmic]; exact Bool.false_ne_true)

/-- The actions of an entry. -/
lemma speakerStep_perform (h : AudioInv s) (happart : TestApart s) (ok : Bool)
    {action : AudioAction} {rest : List AudioAction} (htodo : s.todo = action :: rest) :
    SpeakerStep s (s.perform ok action rest) := by
  have hfits := fits_of_suffix h.script
  rw [htodo] at hfits
  have hne : s.todo ≠ [] := by rw [htodo]; exact List.cons_ne_nil _ _
  -- what an action does that neither calls the speaker nor moves a task
  have hplain : ∀ s' : AudioSystem, holdsSpeaker s'.todo = holdsSpeaker s.todo →
      s'.rx.current = s.rx.current → s'.micTest = s.micTest → s'.speakerOn = s.speakerOn := by
    intro s' htodo' hrx hmic
    unfold AudioSystem.speakerOn
    rw [htodo', hrx, hmic]
  -- what it does when nobody else has the channel
  have hown : s.rx.current = none ∧ s.micTest.current = none → ∀ todo : List AudioAction,
      s.speakerOn = holdsSpeaker s.todo ∧
        ({ s with todo := todo } : AudioSystem).speakerOn = holdsSpeaker todo := by
    intro hnone todo
    unfold AudioSystem.speakerOn
    rw [hnone.1, hnone.2]
    exact ⟨by simp, by simp⟩
  have halone : holdsSpeaker s.todo = true → s.rx.current = none ∧ s.micTest.current = none :=
    fun hholds => speakerOn_of_audio h happart (fsm_of_holdsSpeaker h.script hholds) hne
  cases action with
  | speakerEnable =>
    simp only [Fits, Bool.and_eq_true, Bool.or_eq_true, beq_iff_eq] at hfits
    obtain ⟨hon, hon'⟩ := hown (speakerOn_of_audio h happart hfits.1 hne) rest
    rw [htodo] at hon
    unfold SpeakerStep
    change Orderly speakerMonitor SpeakerAllowed s.speakerOn [AudioCall.speakerEnable]
      ({ s with todo := rest } : AudioSystem).speakerOn
    rw [hon, hon', hfits.2]
    exact .cons rfl (.nil _)
  | speakerWrite samples =>
    have hholds : holdsSpeaker s.todo = true := by rw [htodo]; rfl
    obtain ⟨hon, hon'⟩ := hown (halone hholds) rest
    unfold SpeakerStep
    change Orderly speakerMonitor SpeakerAllowed s.speakerOn [AudioCall.speakerWrite]
      ({ s with todo := rest } : AudioSystem).speakerOn
    rw [hon, hon', hholds, show holdsSpeaker rest = true from hfits]
    exact .cons rfl (.nil _)
  | speakerDisable =>
    have hholds : holdsSpeaker s.todo = true := by rw [htodo]; rfl
    obtain ⟨hon, hon'⟩ := hown (halone hholds) rest
    have hfree : holdsSpeaker rest = false := by simpa [Fits] using hfits
    unfold SpeakerStep
    change Orderly speakerMonitor SpeakerAllowed s.speakerOn [AudioCall.speakerDisable]
      ({ s with todo := rest } : AudioSystem).speakerOn
    rw [hon, hon', hholds, hfree]
    exact .cons rfl (.nil _)
  | createRxAudioTask =>
    simp only [Fits, Bool.and_eq_true, beq_iff_eq] at hfits
    have hholds : holdsSpeaker s.todo = true := by rw [htodo]; rfl
    have hnone := halone hholds
    cases ok with
    | false =>
      refine .of_eq (.inl rfl) (hplain _ ?_ rfl rfl)
      rw [hholds]
      exact hfits.2
    | true =>
      refine .of_eq (.inl rfl) ?_
      rw [(hown hnone rest).1, hholds]
      change (false || true || s.micTest.current.elim false MicTestPoint.hasSpeaker) = true
      rw [hnone.2]
      rfl
  | beginTx =>
    simp only [Fits, Bool.and_eq_true, Bool.not_eq_true'] at hfits
    have hholds : holdsSpeaker s.todo = false := by rw [htodo]; exact hfits.2
    cases ok with
    | true => exact .of_eq (.inl rfl) (hplain _ (hfits.2.trans hholds.symm) rfl rfl)
    | false => exact .of_eq (.inl rfl) (hplain _ hholds.symm rfl rfl)
  | createTxAudioTask =>
    simp only [Fits, Bool.and_eq_true, beq_iff_eq] at hfits
    have hholds : holdsSpeaker rest = holdsSpeaker s.todo := by rw [htodo]; rfl
    cases ok with
    | true => exact .of_eq (.inl rfl) (hplain _ hholds rfl rfl)
    | false => exact .of_eq (.inl rfl) (hplain _ hholds rfl rfl)
  | clearRxHandle =>
    simp only [Fits, Bool.and_eq_true, beq_iff_eq] at hfits
    have hholds : holdsSpeaker rest = holdsSpeaker s.todo := by rw [htodo]; rfl
    have hnone := (speakerOn_of_audio h happart (.inr hfits.1) hne).1
    exact .of_eq (.inl rfl) (hplain _ hholds hnone.symm rfl)
  | postError =>
    have hholds : holdsSpeaker rest = holdsSpeaker s.todo := by rw [htodo]; rfl
    exact .of_eq (.inl rfl) (hplain _ hholds rfl rfl)
  | resetRxAudioQueue =>
    have hholds : holdsSpeaker rest = holdsSpeaker s.todo := by rw [htodo]; rfl
    exact .of_eq (.inr (.inl rfl)) (hplain _ hholds rfl rfl)
  | ifTxAudioTask =>
    simp only [Fits, Bool.and_eq_true, beq_iff_eq, Bool.not_eq_true'] at hfits
    obtain ⟨rest', hrest⟩ := List.head?_eq_some_iff.mp hfits.1
    subst hrest
    have hholds : holdsSpeaker s.todo = false := by rw [htodo]; exact hfits.2
    refine .of_eq (.inl rfl) (hplain _ ?_ rfl rfl)
    rw [hholds]
    change holdsSpeaker (if _ then _ else _) = false
    split
    · exact hfits.2
    · exact hfits.2
  | stopAudioTask task =>
    simp only [Fits, Bool.and_eq_true, Bool.not_eq_true'] at hfits
    obtain ⟨hmic, -, hrx, -, -⟩ := stopAudioTask_frame s task rest
    have hholds : holdsSpeaker s.todo = false := by rw [htodo]; exact hfits.2
    refine .of_eq (.inl rfl) (hplain _ ?_ (congrArg TaskSlot.current hrx) hmic)
    have hafter : (s.stopAudioTask task rest).todo = s.todo ∨
        (s.stopAudioTask task rest).todo = rest := by
      unfold AudioSystem.stopAudioTask
      split
      · split
        · exact .inl rfl
        · exact .inr rfl
      · cases task <;> exact .inl rfl
      · split <;> exact .inl rfl
      · exact .inr rfl
    rcases hafter with heq | heq
    · exact congrArg holdsSpeaker heq
    · exact (congrArg holdsSpeaker heq).trans (hfits.2.trans hholds.symm)

/-- The steps of `fsm_task`. -/
lemma speakerStep_fsmTask (h : AudioInv s) (happart : TestApart s) (ok : Bool) :
    SpeakerStep s (s.fsmTask ok) := by
  rcases s.fsmTask_cases ok with ⟨action, rest, htodo, heq⟩ | ⟨event, events, htodo, -, heq⟩ |
    ⟨-, heq⟩ <;> rw [heq]
  · exact speakerStep_perform h happart ok htodo
  · obtain ⟨hmic, -, hrx, -, -⟩ := react_frame { s with events := events } ok event
    refine .of_eq (.inl rfl) ?_
    unfold AudioSystem.speakerOn
    -- no entry starts with the speaker in hand
    have hholds : ∀ fsm, holdsSpeaker (enterAudio fsm) = false := by
      intro fsm
      cases fsm <;> rfl
    have htransition : ∀ next,
        holdsSpeaker (({ s with events := events } : AudioSystem).transitionTo next).todo =
          false := by
      intro next
      unfold AudioSystem.transitionTo
      split
      · exact congrArg holdsSpeaker htodo
      · exact hholds next
    have hafter :
        holdsSpeaker (({ s with events := events } : AudioSystem).react ok event).todo = false := by
      unfold AudioSystem.react
      split
      · exact htransition _
      · exact htransition _
      · cases ok
        · exact htransition _
        · exact congrArg holdsSpeaker htodo
      · exact congrArg holdsSpeaker htodo
      · exact congrArg holdsSpeaker htodo
    have hbefore : holdsSpeaker s.todo = false := congrArg holdsSpeaker htodo
    rw [hmic, hrx, hafter, hbefore]
  · exact .of_eq (.inl rfl) rfl

/-- The steps of an RX task. -/
lemma speakerStep_rxAudioTask (h : AudioInv s) (happart : TestApart s) (which : Option ℕ) :
    SpeakerStep s (s.rxAudioTask which) := by
  unfold AudioSystem.rxAudioTask
  cases hpoint : s.rx.point which with
  | none => exact .of_eq (.inl rfl) rfl
  | some point =>
    have hpost : ∀ (s' : AudioSystem) (condition : Prop) [Decidable condition],
        (if condition then s'.post .rxDone else s').speakerOn = s'.speakerOn := by
      intro s' condition _
      split <;> rfl
    unfold SpeakerStep
    dsimp only
    rw [hpost]
    unfold AudioSystem.speakerOn
    dsimp only
    cases hhandle : point.hasHandle with
    | false =>
      rw [point.calls_next_of_not hhandle, h.rx.current_advance_of_not hpoint
        point.hasHandle_of_clearsHandle hhandle]
      exact .nil _
    | true =>
      have hrun : s.running .rx = true := by
        have hwhich := h.rx.eq_none hpoint hhandle
        subst hwhich
        exact congrArg Option.isSome hpoint
      have hmic : s.micTest.current = none := by
        cases hcase : s.micTest.current with
        | none => rfl
        | some k =>
          have hon : s.testOn = true := by
            unfold AudioSystem.testOn
            rw [hcase]
            rfl
          rw [(happart.apart hon).2.2 .rx] at hrun
          cases hrun
      obtain ⟨hbefore, hafter⟩ := h.rx.current_advance hpoint hhandle
        (point.hasHandle_next s.rxShouldStop s.rxAudioQueue) RxAudioPoint.hasSpeaker false
        RxAudioPoint.hasSpeaker_of_not
      rw [not_holdsSpeaker h hrun, hmic, hbefore, hafter]
      simpa using point.orderly_next s.rxShouldStop s.rxAudioQueue

/-- The steps of a loopback test. -/
lemma speakerStep_micTestTask (h : AudioInv s) (happart : TestApart s) (which : Option ℕ)
    (captured : Bool) : SpeakerStep s (s.micTestTask which captured) := by
  unfold AudioSystem.micTestTask
  cases hpoint : s.micTest.point which with
  | none => exact .of_eq (.inl rfl) rfl
  | some point =>
    unfold SpeakerStep AudioSystem.speakerOn
    dsimp only
    cases hhandle : point.hasHandle with
    | false =>
      rw [point.calls_next_of_not hhandle, happart.micTest.current_advance_of_not hpoint
        point.hasHandle_of_clearsHandle hhandle]
      exact .nil _
    | true =>
      have hon : s.testOn = true := by
        have hwhich := happart.micTest.eq_none hpoint hhandle
        subst hwhich
        unfold AudioSystem.testOn
        rw [show s.micTest.current = some point from hpoint]
        rfl
      obtain ⟨htx, hrx, hidle⟩ := happart.apart hon
      have hfree : holdsSpeaker s.todo = false := by
        cases hcase : holdsSpeaker s.todo with
        | false => rfl
        | true => exact absurd (fsm_of_holdsSpeaker h.script hcase) (not_or.mpr ⟨htx, hrx⟩)
      have hnone : s.rx.current = none := Option.not_isSome_iff_eq_none.mp
        (by rw [show s.rx.current.isSome = false from hidle .rx]; exact Bool.false_ne_true)
      obtain ⟨hbefore, hafter⟩ := happart.micTest.current_advance hpoint hhandle
        (point.hasHandle_next s.micTestRecording captured) MicTestPoint.hasSpeaker false
        MicTestPoint.hasSpeaker_of_not
      rw [hfree, hnone, hbefore, hafter]
      simpa using point.orderly_next s.micTestRecording captured

/-- **One step** of any task finds the speaker channel as it needs it. -/
lemma speakerStep_audioStep (h : AudioInv s) (happart : TestApart s) (a : AudioStep) :
    SpeakerStep s (audioStep s a) := by
  cases a with
  | fsmTask ok => exact speakerStep_fsmTask h happart ok
  | rxAudioTask which => exact speakerStep_rxAudioTask h happart which
  | micTestTask which captured => exact speakerStep_micTestTask h happart which captured
  | txAudioTask which captured =>
    refine .of_eq (.inl rfl) ?_
    unfold AudioSystem.txAudioTask
    split <;> rfl
  | pttEvent pressed =>
    refine .of_eq (.inl rfl) ?_
    split <;> rfl
  | postEvent event => exact .of_eq (.inl rfl) rfl
  | onPttEvent created =>
    refine .of_eq (.inl rfl) ?_
    have hcreate : ∀ slot : TaskSlot MicTestPoint, slot.current.isSome = false →
        (if created then slot.create (.test 0) else slot).current.elim false
          MicTestPoint.hasSpeaker = slot.current.elim false MicTestPoint.hasSpeaker := by
      intro slot hnone
      cases created with
      | false => rfl
      | true =>
        have hnone' : slot.current = none :=
          Option.not_isSome_iff_eq_none.mp (by rw [hnone]; exact Bool.false_ne_true)
        rw [hnone']
        rfl
    unfold AudioSystem.onPttEvent
    split
    · rfl
    · split
      · split
        · rfl
        · next hnone =>
          unfold AudioSystem.speakerOn
          rw [hcreate s.micTest (Bool.eq_false_iff.mpr hnone)]
      · rfl
    · rfl
  | postRxAudioFrame data =>
    change SpeakerStep s (s.fsmPostRxAudioFrame data)
    unfold AudioSystem.fsmPostRxAudioFrame
    split
    · exact .of_eq (.inl rfl) rfl
    · split
      · exact .of_eq (.inr (.inr ⟨data, rfl⟩)) rfl
      · exact .of_eq (.inl rfl) rfl

end SpeakerStep

/-! ## Runs -/

/-- **The speaker and the audio tasks over a run.**  In every run in which the audio states are
entered only when no loopback test is on, nor about to begin for a press that was read in
`MENU_IDLE`, the channel is enabled only when it is off and written and disabled only when it is on;
at most one task of each kind has its handle, no audio task runs beside a loopback test, and while
`fsm_task` waits for an event a task runs in its own state only and is not being stopped. -/
theorem audioTasks_run (l : List AudioStep) (hl : Guarded audioStep NoOverlap .boot l) :
    Guarded speakerMonitor SpeakerAllowed false (trace audioStep .boot l) ∧
      (finalState audioStep .boot l).rx.Tidy RxAudioPoint.hasHandle ∧
      (finalState audioStep .boot l).tx.Tidy TxAudioPoint.hasHandle ∧
      (finalState audioStep .boot l).micTest.Tidy MicTestPoint.hasHandle ∧
      ((finalState audioStep .boot l).micTest.current.isSome = true →
        ∀ task, (finalState audioStep .boot l).running task = false) ∧
      ((finalState audioStep .boot l).todo = [] → ∀ task,
        (finalState audioStep .boot l).shouldStop task = false ∧
        ((finalState audioStep .boot l).running task = true →
          (finalState audioStep .boot l).fsm = task.state)) := by
  have hstep : ∀ s a, AudioInv s ∧ TestApart s → NoOverlap s a →
      (AudioInv (audioStep s a).1 ∧ TestApart (audioStep s a).1) ∧
        SpeakerStep s (audioStep s a) := by
    intro s a ⟨hinv, happart⟩ hguard
    exact ⟨⟨hinv.step a, happart.step hinv a hguard⟩, speakerStep_audioStep hinv happart a⟩
  obtain ⟨⟨hinv, happart⟩, horderly⟩ := guarded_trace_of_guarded hstep ⟨.boot, .boot⟩ hl
  refine ⟨horderly.guarded, hinv.rx, hinv.tx, happart.micTest, fun hmic => ?_, fun htodo task => ?_⟩
  · refine (happart.apart ?_).2.2
    unfold AudioSystem.testOn
    rw [hmic, Bool.true_or]
  · refine ⟨hinv.shouldStop_of_todo_nil htodo task, fun hrunning => ?_⟩
    rcases hinv.runs task hrunning with ⟨hfsm, -⟩ | hmem
    · exact hfsm
    · rw [htodo] at hmem
      cases hmem

/-- From the boot to `MENU_COMM`. -/
def stepsToMenuComm : List AudioStep := .postEvent .initDone :: List.replicate 4 (.fsmTask true)

/-- A frame is received in `MENU_COMM`: up to the moment at which the RX task is there. -/
def stepsToRxAudio : List AudioStep :=
  [.postRxAudioFrame [1], .postEvent .rxFrame] ++ List.replicate 3 (.fsmTask true)

theorem audioTasks_run_sync_lost :
    let l := stepsToMenuComm ++ stepsToRxAudio ++ List.replicate 3 (.rxAudioTask none) ++
      .postEvent .syncLost :: List.replicate 4 (.fsmTask true) ++
      List.replicate 3 (.rxAudioTask none) ++ List.replicate 3 (.fsmTask true)
    Guarded speakerMonitor SpeakerAllowed false (trace audioStep .boot l) ∧
      trace audioStep .boot l =
        [.reset, .accept [1], .speakerEnable, .play [1], .speakerDisable, .reset] :=
  ⟨(audioTasks_run _ (by decide)).1, by decide⟩

/-- A loopback test that is still on when `RX_AUDIO` is entered takes the channel a second time. -/
theorem loopback_test_overlaps :
    ¬ Guarded speakerMonitor SpeakerAllowed false
      (trace audioStep .boot
        (stepsToMenuComm ++
          [.postEvent .menuSelectIdle, .fsmTask true, .pttEvent true, .onPttEvent true,
            .pttEvent false, .onPttEvent true, .micTestTask none true,
            .postEvent .menuSelectComm] ++
          List.replicate 4 (.fsmTask true) ++ stepsToRxAudio ++ [.micTestTask none true])) := by
  decide

end FhssOtaRadio
