import FhssOtaRadio.Product.SpeakerChannel

/-!
# From the queue of received frames to the speaker (`main/fsm.c`)

Received frames are queued whatever state the FSM is in, and an RX task takes them out one by one.
The entry into `MENU_COMM` empties the queue, after it has stopped the RX task, so that no frame
from before reaches the speaker later.  At every moment of every run, loopback tests or not, the
frames played since the last reset, the one an RX task has in hand and those in the queue are
together the frames accepted since then, each once and in their order (`playout_run`).
-/

namespace FhssOtaRadio

open Machine Monitor

/-- The frames that were accepted and not played, after a call. -/
def playoutMonitor (waiting : List Bytes) : AudioCall → List Bytes × Unit
  | .accept frame => (waiting ++ [frame], ())
  | .play _ => (waiting.tail, ())
  | .reset => ([], ())
  | _ => (waiting, ())

/-- A frame is played when it is the oldest of those that wait. -/
def PlayoutAllowed (waiting : List Bytes) : AudioCall → Prop
  | .play frame => waiting.head? = some frame
  | _ => True

/-- The calls after the last reset. -/
def sinceReset (calls : List AudioCall) : List AudioCall :=
  calls.foldl (fun since call => if call = .reset then [] else since ++ [call]) []

/-- The frames accepted in the course of some calls. -/
def accepted (calls : List AudioCall) : List Bytes :=
  calls.filterMap fun
    | .accept frame => some frame
    | _ => none

/-- The frames played in the course of some calls. -/
def played (calls : List AudioCall) : List Bytes :=
  calls.filterMap fun
    | .play frame => some frame
    | _ => none

/-- The frames that were accepted and not played yet. -/
def AudioSystem.waiting (s : AudioSystem) : List Bytes :=
  s.rx.current.elim [] RxAudioPoint.inHand ++ s.rxAudioQueue

/-! ## Calls in order -/

/-- Allowed calls play, since the last reset, what was accepted since then and does not wait. -/
lemma played_append_waiting {calls : List AudioCall} {waiting : List Bytes}
    (h : Orderly playoutMonitor PlayoutAllowed [] calls waiting) :
    played (sinceReset calls) ++ waiting = accepted (sinceReset calls) := by
  induction calls using List.reverseRecOn generalizing waiting with
  | nil => exact h.final.symm
  | append_singleton calls call ih =>
    obtain ⟨hguarded, hfinal⟩ := h
    obtain ⟨hcalls, hcall, -⟩ := (guarded_append playoutMonitor).mp hguarded
    have hbefore := ih ⟨hcalls, rfl⟩
    rw [finalState_append] at hfinal
    generalize finalState playoutMonitor [] calls = before at hcall hbefore hfinal
    subst hfinal
    have hsince : sinceReset (calls ++ [call]) =
        if call = .reset then [] else sinceReset calls ++ [call] := List.foldl_concat _ _ _ _
    rw [hsince]
    cases call with
    | reset => rfl
    | play frame =>
      obtain ⟨rest, rfl⟩ := List.head?_eq_some_iff.mp hcall
      rw [if_neg (fun h => by cases h)]
      simpa [played, accepted, playoutMonitor] using hbefore
    | accept frame =>
      rw [if_neg (fun h => by cases h)]
      simp only [played, accepted, List.filterMap_append] at hbefore ⊢
      simp [← hbefore, playoutMonitor]
    | _ =>
      rw [if_neg (fun h => by cases h)]
      simpa [played, accepted, playoutMonitor] using hbefore

/-! ## The calls of one step -/

/-- The steps of an RX task with its handle move frames from the queue to the speaker. -/
lemma RxAudioPoint.playout_next (point : RxAudioPoint) (shouldStop : Bool) (queue : List Bytes) :
    Orderly playoutMonitor PlayoutAllowed (point.inHand ++ queue)
      (point.next shouldStop queue).2.2
      ((point.next shouldStop queue).1.inHand ++ (point.next shouldStop queue).2.1) := by
  cases point with
  | test => cases shouldStop <;> exact .nil _
  | receive => cases queue <;> exact .nil _
  | play frame => exact .cons rfl (.nil _)
  | silence idleMs =>
    have hempty : (RxAudioPoint.next shouldStop queue (.silence idleMs)).1.inHand = [] := by
      dsimp only [next]
      split <;> rfl
    rw [hempty]
    exact .cons trivial (.nil _)
  | disableSpeaker => exact .cons trivial (.nil _)
  | clearHandle => exact .nil _
  | check timedOut => cases timedOut <;> cases shouldStop <;> exact .nil _
  | postRxDone => exact .nil _
  | deleted => exact .nil _

/-- A task that has given its handle back has no frame and leaves the queue alone. -/
lemma RxAudioPoint.inHand_of_not (point : RxAudioPoint) (h : point.hasHandle = false) :
    point.inHand = [] := by
  cases point with
  | check => rfl
  | postRxDone => rfl
  | deleted => rfl
  | _ => cases h

lemma RxAudioPoint.queue_next_of_not (point : RxAudioPoint) (h : point.hasHandle = false)
    (shouldStop : Bool) (queue : List Bytes) : (point.next shouldStop queue).2.1 = queue := by
  cases point with
  | check => rfl
  | postRxDone => rfl
  | deleted => rfl
  | _ => cases h

/-- The calls of a step take the waiting frames from what they are to what they are afterwards. -/
def PlayoutStep (s : AudioSystem) (result : AudioSystem × List AudioCall) : Prop :=
  Orderly playoutMonitor PlayoutAllowed s.waiting result.2 result.1.waiting

section PlayoutStep

variable {s : AudioSystem}

/-- A step that moves no frame. -/
lemma PlayoutStep.of_eq {s' : AudioSystem} {calls : List AudioCall}
    (hcalls : ∀ call ∈ calls, ∀ waiting, PlayoutAllowed waiting call ∧
      (playoutMonitor waiting call).1 = waiting) (h : s'.waiting = s.waiting) :
    PlayoutStep s (s', calls) := by
  unfold PlayoutStep
  dsimp only
  rw [h]
  clear h
  induction calls with
  | nil => exact .nil _
  | cons call calls ih =>
    obtain ⟨hallowed, hsame⟩ := hcalls call List.mem_cons_self s.waiting
    refine .cons hallowed ?_
    rw [hsame]
    exact ih (fun call' hmem => hcalls call' (List.mem_cons_of_mem _ hmem))

/-- Calls that concern the channel alone move no frame. -/
lemma channel_only {calls : List AudioCall}
    (h : calls = [] ∨ calls = [.speakerEnable] ∨ calls = [.speakerDisable] ∨
      calls = [.speakerWrite]) :
    ∀ call ∈ calls, ∀ waiting, PlayoutAllowed waiting call ∧
      (playoutMonitor waiting call).1 = waiting := by
  intro call hmem waiting
  rcases h with rfl | rfl | rfl | rfl
  · cases hmem
  · rw [List.mem_singleton.mp hmem]
    exact ⟨trivial, rfl⟩
  · rw [List.mem_singleton.mp hmem]
    exact ⟨trivial, rfl⟩
  · rw [List.mem_singleton.mp hmem]
    exact ⟨trivial, rfl⟩

/-- The actions of an entry: the queue is emptied while no RX task has its handle. -/
lemma playoutStep_perform (h : AudioInv s) (ok : Bool) {action : AudioAction}
    {rest : List AudioAction} (htodo : s.todo = action :: rest) :
    PlayoutStep s (s.perform ok action rest) := by
  have hfits := fits_of_suffix h.script
  rw [htodo] at hfits
  have hne : s.todo ≠ [] := by rw [htodo]; exact List.cons_ne_nil _ _
  have hnone : (∀ task, s.running task = false) → s.rx.current = none := fun hidle =>
    Option.not_isSome_iff_eq_none.mp
      (by rw [show s.rx.current.isSome = false from hidle .rx]; exact Bool.false_ne_true)
  cases action with
  | speakerEnable => exact .of_eq (channel_only (.inr (.inl rfl))) rfl
  | speakerDisable => exact .of_eq (channel_only (.inr (.inr (.inl rfl)))) rfl
  | speakerWrite => exact .of_eq (channel_only (.inr (.inr (.inr rfl)))) rfl
  | beginTx => cases ok <;> exact .of_eq (channel_only (.inl rfl)) rfl
  | createTxAudioTask => cases ok <;> exact .of_eq (channel_only (.inl rfl)) rfl
  | postError => exact .of_eq (channel_only (.inl rfl)) rfl
  | ifTxAudioTask => exact .of_eq (channel_only (.inl rfl)) rfl
  | createRxAudioTask =>
    simp only [Fits, Bool.and_eq_true, beq_iff_eq] at hfits
    have hcurrent := hnone (h.not_running_of_audio (.inr hfits.1) hne)
    cases ok with
    | false => exact .of_eq (channel_only (.inl rfl)) rfl
    | true =>
      refine .of_eq (channel_only (.inl rfl)) ?_
      unfold AudioSystem.waiting
      rw [hcurrent]
      rfl
  | clearRxHandle =>
    simp only [Fits, Bool.and_eq_true, beq_iff_eq] at hfits
    have hcurrent := hnone (h.not_running_of_audio (.inr hfits.1) hne)
    refine .of_eq (channel_only (.inl rfl)) ?_
    unfold AudioSystem.waiting
    rw [hcurrent]
    rfl
  | stopAudioTask task =>
    obtain ⟨-, -, hrx, -, hqueue⟩ := stopAudioTask_frame s task rest
    refine .of_eq (channel_only (.inl rfl)) ?_
    unfold AudioSystem.waiting
    rw [hrx, hqueue]
  | resetRxAudioQueue =>
    simp only [Fits, Bool.and_eq_true, beq_iff_eq] at hfits
    have hstopped : s.running .rx = false := by
      refine h.not_running (.inr hne) ?_
      rw [htodo, hfits.2]
      decide
    have hcurrent : s.rx.current = none := Option.not_isSome_iff_eq_none.mp
      (by rw [show s.rx.current.isSome = false from hstopped]; exact Bool.false_ne_true)
    have hafter : (s.perform ok .resetRxAudioQueue rest).1.waiting = [] := by
      change s.rx.current.elim [] RxAudioPoint.inHand ++ [] = []
      rw [hcurrent]
      rfl
    unfold PlayoutStep
    rw [hafter]
    exact .cons trivial (.nil _)

/-- **One step** of any task takes the waiting frames as they come. -/
lemma playoutStep_audioStep (h : AudioInv s) (a : AudioStep) : PlayoutStep s (audioStep s a) := by
  cases a with
  | fsmTask ok =>
    change PlayoutStep s (s.fsmTask ok)
    rcases s.fsmTask_cases ok with ⟨action, rest, htodo, heq⟩ | ⟨event, events, -, -, heq⟩ |
      ⟨-, heq⟩ <;> rw [heq]
    · exact playoutStep_perform h ok htodo
    · obtain ⟨-, -, hrx, -, hqueue⟩ := react_frame { s with events := events } ok event
      refine .of_eq (channel_only (.inl rfl)) ?_
      unfold AudioSystem.waiting
      rw [hrx, hqueue]
    · exact .of_eq (channel_only (.inl rfl)) rfl
  | rxAudioTask which =>
    change PlayoutStep s (s.rxAudioTask which)
    unfold AudioSystem.rxAudioTask
    cases hpoint : s.rx.point which with
    | none => exact .of_eq (channel_only (.inl rfl)) rfl
    | some point =>
      have hpost : ∀ (s' : AudioSystem) (condition : Prop) [Decidable condition],
          (if condition then s'.post .rxDone else s').waiting = s'.waiting := by
        intro s' condition _
        split <;> rfl
      unfold PlayoutStep
      dsimp only
      rw [hpost]
      unfold AudioSystem.waiting
      dsimp only
      cases hhandle : point.hasHandle with
      | false =>
        rw [point.calls_next_of_not hhandle, point.queue_next_of_not hhandle,
          h.rx.current_advance_of_not hpoint point.hasHandle_of_clearsHandle hhandle]
        exact .nil _
      | true =>
        obtain ⟨hbefore, hafter⟩ := h.rx.current_advance hpoint hhandle
          (point.hasHandle_next s.rxShouldStop s.rxAudioQueue) RxAudioPoint.inHand []
          RxAudioPoint.inHand_of_not
        rw [hbefore, hafter]
        exact point.playout_next s.rxShouldStop s.rxAudioQueue
  | txAudioTask which captured =>
    refine .of_eq (channel_only (.inl rfl)) ?_
    unfold AudioSystem.txAudioTask
    split <;> rfl
  | micTestTask which captured =>
    change PlayoutStep s (s.micTestTask which captured)
    unfold AudioSystem.micTestTask
    split
    · exact .of_eq (channel_only (.inl rfl)) rfl
    · next point _ =>
      refine .of_eq (channel_only ?_) rfl
      cases point with
      | enableSpeaker => exact .inr (.inl rfl)
      | play left =>
        cases left with
        | zero => exact .inr (.inr (.inl rfl))
        | succ left => exact .inr (.inr (.inr rfl))
      | _ => exact .inl rfl
  | pttEvent pressed =>
    refine .of_eq (channel_only (.inl rfl)) ?_
    split <;> rfl
  | onPttEvent created =>
    refine .of_eq (channel_only (.inl rfl)) ?_
    unfold AudioSystem.onPttEvent
    split
    · rfl
    · split
      · split <;> rfl
      · rfl
    · rfl
  | postEvent event => exact .of_eq (channel_only (.inl rfl)) rfl
  | postRxAudioFrame data =>
    change PlayoutStep s (s.fsmPostRxAudioFrame data)
    unfold AudioSystem.fsmPostRxAudioFrame
    split
    · exact .of_eq (channel_only (.inl rfl)) rfl
    · split
      · refine .cons trivial ?_
        have hafter : ({ s with rxAudioQueue := s.rxAudioQueue ++ [data] } : AudioSystem).waiting =
            s.waiting ++ [data] := (List.append_assoc _ _ _).symm
        rw [hafter]
        exact .nil _
      · exact .of_eq (channel_only (.inl rfl)) rfl

end PlayoutStep

/-! ## Runs -/

/-- **No frame is lost, repeated or played late.**  In every run, whatever the order of the steps,
the frames played since the queue was last emptied, the frame an RX task has in hand and those in
the queue are the frames accepted since then, in their order. -/
theorem playout_run (l : List AudioStep) :
    played (sinceReset (trace audioStep .boot l)) ++
        (finalState audioStep .boot l).rx.current.elim [] RxAudioPoint.inHand ++
        (finalState audioStep .boot l).rxAudioQueue =
      accepted (sinceReset (trace audioStep .boot l)) := by
  have hstep : ∀ s a, AudioInv s → AudioInv (audioStep s a).1 ∧
      Orderly playoutMonitor PlayoutAllowed s.waiting (audioStep s a).2
        (audioStep s a).1.waiting :=
    fun s a hinv => ⟨hinv.step a, playoutStep_audioStep hinv a⟩
  obtain ⟨-, horderly⟩ := guarded_trace hstep AudioInv.boot l
  rw [List.append_assoc]
  exact played_append_waiting horderly

end FhssOtaRadio
