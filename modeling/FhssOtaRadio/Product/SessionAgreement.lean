import FhssOtaRadio.Product.SessionEvents

/-!
# The FSM follows the session

The consumer opens and closes sessions by the state of the client, and the FSM learns of it from
the events it takes later.  `CanReceive` and `CanApply` say that the events which are already
queued bring the FSM to where the session is.  Every step of the session keeps these two
(`agreeInv_step`), except the three places where FSM and session part: a session is opened or
closed that the FSM cannot follow, or the FSM leaves a session whose image is being verified.
-/

namespace FhssOtaRadio

open EventQueue Machine

/-! ## Where the queued events lead -/

/-- Through the OTA modes the queued events lead the FSM to `OTA_RECEIVING`, with no event of an
earlier session behind. -/
def CanReceive (state : FsmState) (events : List FsmEvent) : Prop :=
  Leads fsmNext (fun state => fsmOtaModeCallback state = true)
    (fun state events =>
      state = .otaReceiving ∧ .otaComplete ∉ events ∧ .otaVerifyFail ∉ events)
    state events

/-- Through the OTA modes and `OTA_RECEIVING` the queued events lead the FSM to `OTA_APPLYING`,
with no failure of an earlier session behind, or to `ERROR`. -/
def CanApply (state : FsmState) (events : List FsmEvent) : Prop :=
  Leads fsmNext (fun state => fsmOtaModeCallback state = true ∨ state = .otaReceiving)
    (fun state events => state = .error ∨ (state = .otaApplying ∧ .otaVerifyFail ∉ events))
    state events

instance (state : FsmState) (events : List FsmEvent) : Decidable (CanReceive state events) :=
  inferInstanceAs (Decidable (Leads _ _ _ _ _))

instance (state : FsmState) (events : List FsmEvent) : Decidable (CanApply state events) :=
  inferInstanceAs (Decidable (Leads _ _ _ _ _))

section Leads

variable {state : FsmState} {event : FsmEvent} {events : List FsmEvent}

/-- Events that no session posts can come behind. -/
lemma CanReceive.post (h : CanReceive state events) (hevent : event.isOfSession = false) :
    CanReceive state (post fsmEventQueueDepth events event) := by
  refine Leads.post fsmEventQueueDepth h fun state events hgoal => ?_
  obtain ⟨hstate, hcomplete, hfail⟩ := hgoal
  refine ⟨hstate, ?_, ?_⟩
  · rw [List.mem_append, List.mem_singleton]
    rintro (hmem | rfl)
    · exact hcomplete hmem
    · cases hevent
  · rw [List.mem_append, List.mem_singleton]
    rintro (hmem | rfl)
    · exact hfail hmem
    · cases hevent

/-- So they can behind an image that is being verified. -/
lemma CanApply.post (h : CanApply state events) (hevent : event.isOfSession = false) :
    CanApply state (post fsmEventQueueDepth events event) := by
  refine Leads.post fsmEventQueueDepth h fun state events hgoal => ?_
  rcases hgoal with hstate | ⟨hstate, hfail⟩
  · exact .inl hstate
  · refine .inr ⟨hstate, ?_⟩
    rw [List.mem_append, List.mem_singleton]
    rintro (hmem | rfl)
    · exact hfail hmem
    · cases hevent

/-- The FSM takes the next event on its way to `OTA_RECEIVING`, stays there, or gives the session
up. -/
lemma CanReceive.take (h : CanReceive state (event :: events)) :
    CanReceive (fsmNext state event) events ∨
      (state = .otaReceiving ∧ (event = .error ∨ event = .otaFhssResyncTimeout)) := by
  rcases h with ⟨rfl, hcomplete, hfail⟩ | ⟨-, hrest⟩
  · rw [List.mem_cons, not_or] at hcomplete hfail
    by_cases hends : event = .error ∨ event = .otaFhssResyncTimeout
    · exact .inr ⟨rfl, hends⟩
    · have hstays : fsmNext .otaReceiving event = .otaReceiving := by
        have hcomplete' := hcomplete.1
        revert hends hcomplete'
        cases event <;> decide
      refine .inl (leads_of_goal ⟨hstays, hcomplete.2, hfail.2⟩)
  · exact .inl hrest

/-- The FSM takes the next event on its way to `OTA_APPLYING` or `ERROR`, and stays there unless
synchronization is lost or the button is pressed. -/
lemma CanApply.take (h : CanApply state (event :: events))
    (happlying : state = .otaApplying → event ≠ .syncLost)
    (herror : state = .error → event ≠ .retry) : CanApply (fsmNext state event) events := by
  rcases h with (rfl | ⟨rfl, hfail⟩) | ⟨-, hrest⟩
  · refine leads_of_goal (.inl ?_)
    rw [fsmNext_error]
    exact if_neg (herror rfl)
  · rw [List.mem_cons, not_or] at hfail
    have hlost := happlying rfl
    by_cases hevent : event = .error
    · refine leads_of_goal (.inl ?_)
      rw [hevent, fsmNext_of_error]
    · have hstays : fsmNext .otaApplying event = .otaApplying := by
        have hfail' := hfail.1
        revert hevent hlost hfail'
        cases event <;> decide
      exact leads_of_goal (.inr ⟨hstays, hfail.2⟩)
  · exact hrest

/-- On its way to `OTA_RECEIVING` the FSM is not in a menu that takes the radio away. -/
lemma CanReceive.keepsRadio (h : CanReceive state events) :
    state ≠ .menuComm ∧ state ≠ .menuIdle := by
  rcases Leads.through_or_goal h with hmode | ⟨rfl, -, -⟩
  · constructor <;> rintro rfl <;> cases hmode
  · decide

/-- Nor is it on its way to `OTA_APPLYING`. -/
lemma CanApply.keepsRadio (h : CanApply state events) :
    state ≠ .menuComm ∧ state ≠ .menuIdle := by
  rcases Leads.through_or_goal h with (hmode | rfl) | rfl | ⟨rfl, -⟩
  · constructor <;> rintro rfl <;> cases hmode
  · decide
  · decide
  · decide

end Leads

/-! ## The invariant -/

/-- An abort of the session is in hand. -/
def SessionState.aborting (s : SessionState) : Prop :=
  .abort ∈ s.task ∨ .abortInterrupted ∈ s.task

/-- An abort is in hand in `OTA_RECEIVING` and in `ERROR` only. -/
lemma TaskShape.of_aborting {state : FsmState} {task : List FsmAction}
    (h : TaskShape state task) (haborting : .abort ∈ task ∨ .abortInterrupted ∈ task) :
    state = .otaReceiving ∨ state = .error := by
  rcases h with h | ⟨-, h⟩ | ⟨hfsm, -⟩
  · rcases haborting with hmem | hmem
    · exact absurd (h.subset hmem) (not_mem_sEnterActions state .menuOta).2.2.1
    · exact .inr (mem_sEnterActions.2 (h.subset hmem))
  · have hfirst : ∀ a ∈ task, a = .initAdapter ∨ a = .initClient :=
      fun a ha => by simpa using h.subset ha
    rcases haborting with hmem | hmem
    · simpa using hfirst _ hmem
    · simpa using hfirst _ hmem
  · exact .inl hfsm

/-- FSM and session agree, or the events that bring them together are queued. -/
structure AgreeInv (s : SessionState) : Prop where
  shape : TaskShape s.fsm s.task
  receiving : s.client = .receiving → s.aborting ∨ CanReceive s.heading s.events
  verified : s.client = .verifying ∨ s.client = .readyToReboot → CanApply s.heading s.events
  consumer_verifying : ∀ fields, s.consumer = .verifying fields → s.client = .verifying
  showing : s.consumer = .showingFailure → s.client = .error ∨ s.client = .idle
  boot : s.bootInitDone = false ∨ .initClient ∈ s.task →
    s.client = .uninitialized ∧ s.consumer.isOrdinary = true
  booting : .initClient ∈ s.task → s.bootInitDone = true

/-- What keeps FSM and session together in a step of a kind: a session is opened or closed only
when the FSM can follow, and a verified image is not left. -/
def Follows (s : SessionState) : SessionKind → Prop
  | .opened => s.events.length < fsmEventQueueDepth ∧
      CanReceive s.heading (s.events ++ [.otaStart])
  | .finishing => s.events.length < fsmEventQueueDepth ∧
      CanApply s.heading (s.events ++ [.otaComplete])
  | .taken event => s.client = .verifying ∨ s.client = .readyToReboot →
      (s.fsm = .otaApplying → event ≠ .syncLost) ∧ (s.fsm = .error → event ≠ .retry)
  | .acted action done => s.client = .verifying ∨ s.client = .readyToReboot →
      action = .armTimer .resync → done = true
  | _ => True

section Step

variable {s s' : SessionState} {event : FsmEvent}

/-- Posting an event that no session posts. -/
lemma AgreeInv.post (h : AgreeInv s) (hevent : event.isOfSession = false) :
    AgreeInv (s.post event) where
  shape := h.shape
  receiving hclient := (h.receiving hclient).imp id fun hleads => hleads.post hevent
  verified hclient := (h.verified hclient).post hevent
  consumer_verifying := h.consumer_verifying
  showing := h.showing
  boot := h.boot
  booting := h.booting

/-- A consumer that is not verifying does not begin to. -/
lemma AgreeInv.moved (h : AgreeInv s) {phase : ConsumerPhase} (hto : phase.isOrdinary = true) :
    AgreeInv { s with consumer := phase } where
  shape := h.shape
  receiving := h.receiving
  verified := h.verified
  consumer_verifying fields hphase := by
    rw [show phase = .verifying fields from hphase] at hto
    cases hto
  showing hphase := by
    rw [show phase = .showingFailure from hphase] at hto
    cases hto
  boot hboot := ⟨(h.boot hboot).1, hto⟩
  booting := h.booting

/-- A client that is neither receiving nor verifying has no claim on the FSM. -/
lemma AgreeInv.of_ended {events : List FsmEvent} {client : OtaClientState}
    {phase : ConsumerPhase} (h : AgreeInv s) (hended : client = .error ∨ client = .idle)
    (hphase : ∀ fields, phase ≠ .verifying fields)
    (hboot : ¬ (s.bootInitDone = false ∨ .initClient ∈ s.task)) :
    AgreeInv { s with events := events, client := client, consumer := phase } where
  shape := h.shape
  receiving hclient := by
    rw [show client = .receiving from hclient] at hended
    simp at hended
  verified hclient := by
    have hclient' : client = .verifying ∨ client = .readyToReboot := hclient
    rcases hended with rfl | rfl <;> simp at hclient'
  consumer_verifying fields hverifying := absurd hverifying (hphase fields)
  showing _ := hended
  boot hfirst := absurd hfirst hboot
  booting := h.booting

/-- `fsm_task` changes the FSM and what it has in hand only. -/
lemma frame_transitionTo (next : FsmState) :
    (s.transitionTo next).client = s.client ∧ (s.transitionTo next).consumer = s.consumer ∧
      (s.transitionTo next).bootInitDone = s.bootInitDone := by
  unfold SessionState.transitionTo
  split_ifs
  · exact ⟨rfl, rfl, rfl⟩
  · exact ⟨rfl, rfl, rfl⟩

/-- So does its reaction to an event. -/
lemma frame_react (event : FsmEvent) :
    (s.react event).client = s.client ∧ (s.react event).consumer = s.consumer ∧
      (s.react event).bootInitDone = s.bootInitDone := by
  unfold SessionState.react
  split
  · exact ⟨rfl, rfl, rfl⟩
  · exact frame_transitionTo _
  · exact ⟨rfl, rfl, rfl⟩
  · exact ⟨rfl, rfl, rfl⟩
  · exact ⟨rfl, rfl, rfl⟩

/-- No event sets up the client. -/
lemma initClient_not_mem_react (htask : s.task = []) (event : FsmEvent) :
    .initClient ∉ (s.react event).task := by
  unfold SessionState.react
  split
  · simp [htask]
  · unfold SessionState.transitionTo
    split_ifs
    · simp [htask]
    · rw [htask, List.append_nil]
      exact (not_mem_sEnterActions _ .menuOta).2.2.2
  · simp [htask]
  · simp
  · simp

/-- An error and the end of the grace abort a session that is being received. -/
lemma aborting_react (hfsm : s.fsm = .otaReceiving)
    (hevent : event = .error ∨ event = .otaFhssResyncTimeout) : (s.react event).aborting := by
  unfold SessionState.react
  rw [hfsm]
  rcases hevent with rfl | rfl
  · have hreaction : fsmTaskReaction .otaReceiving .error = .transitionTo .error := by decide
    rw [hreaction]
    unfold SessionState.transitionTo
    dsimp only
    rw [hfsm, if_neg (by decide)]
    exact .inr (List.mem_append_left _ (by decide))
  · have hreaction : fsmTaskReaction .otaReceiving .otaFhssResyncTimeout = .abortSession := by
      decide
    rw [hreaction]
    exact .inl List.mem_cons_self

/-- An action leaves the rest of what is to be done. -/
lemma mem_task_act_of_mem {action a : FsmAction} (done : Bool) (hmem : a ∈ s.task) :
    a ∈ (s.act done action).task := by
  unfold SessionState.act
  cases action with
  | transitionTo next =>
    unfold SessionState.transitionTo
    dsimp only
    split_ifs
    · exact hmem
    · exact List.mem_append_right _ hmem
  | armTimer timer =>
    cases timer with
    | sync => cases done <;> exact hmem
    | resync =>
      cases done with
      | true => exact hmem
      | false => exact List.mem_cons_of_mem _ (List.mem_cons_of_mem _ hmem)
  | bootInit =>
    dsimp only
    split_ifs
    · exact hmem
    · exact List.mem_cons_of_mem _ (List.mem_cons_of_mem _ hmem)
  | _ => cases done <;> exact hmem

/-- An action leaves the client alone, aborts its session, or sets it up. -/
lemma client_act (action : FsmAction) (done : Bool) :
    ((s.act done action).client = s.client ∧ action ≠ .abort ∧ action ≠ .abortInterrupted) ∨
      (s.act done action).client = abortedState s.client ∨
      (action = .initClient ∧ (s.act done action).client = .idle) := by
  unfold SessionState.act
  cases action with
  | transitionTo next => exact .inl ⟨(frame_transitionTo next).1, by simp, by simp⟩
  | abort => exact .inr (.inl rfl)
  | abortInterrupted => exact .inr (.inl rfl)
  | armTimer timer => cases timer <;> cases done <;> exact .inl ⟨rfl, by decide, by decide⟩
  | bootInit =>
    dsimp only
    split_ifs <;> exact .inl ⟨rfl, by decide, by decide⟩
  | initClient =>
    cases done with
    | true => exact .inr (.inr ⟨rfl, rfl⟩)
    | false => exact .inl ⟨rfl, by decide, by decide⟩
  | _ => cases done <;> exact .inl ⟨rfl, by decide, by decide⟩

/-- An abort ends a session that is being received or has failed, and no other. -/
lemma abortedState_cases (state : OtaClientState) :
    abortedState state = .idle ∨
      (abortedState state = state ∧ state ≠ .receiving ∧ state ≠ .error) := by
  cases state <;> decide

/-- An action opens no session, and an abort leaves none that is being received or has failed. -/
lemma client_of_act {action : FsmAction} {done : Bool} {state : OtaClientState}
    (hidle : state ≠ .idle) (hstate : (s.act done action).client = state) :
    s.client = state ∧ (state = .receiving ∨ state = .error →
      action ≠ .abort ∧ action ≠ .abortInterrupted) := by
  rcases @client_act s action done with ⟨hkept, hnot⟩ | haborted | ⟨-, hready⟩
  · exact ⟨hkept ▸ hstate, fun _ => hnot⟩
  · rw [haborted] at hstate
    rcases abortedState_cases s.client with heq | ⟨heq, hreceiving, herror⟩
    · exact absurd (hstate ▸ heq) hidle
    · have hsame : s.client = state := heq ▸ hstate
      rw [hsame] at hreceiving herror
      exact ⟨hsame, fun hopen => absurd hopen (not_or.mpr ⟨hreceiving, herror⟩)⟩
  · exact absurd (hstate ▸ hready) hidle

/-- What holds of the events, and whatever is posted that no session posts, holds after an
action. -/
lemma events_act_of {P : List FsmEvent → Prop} (action : FsmAction) (done : Bool)
    (h : P s.events)
    (hpost : ∀ event, FsmEvent.isOfSession event = false → P (s.post event).events) :
    P (s.act done action).events := by
  rcases @events_act s action done with heq | ⟨event, hevent, heq⟩
  · rw [heq]
    exact h
  · rw [heq]
    refine hpost event ?_
    rcases hevent with rfl | rfl <;> rfl

/-- An action that is no abort leaves an abort in hand, or the FSM where the events lead it; when
the grace cannot be started, it puts an abort in hand. -/
lemma aborting_or_act {P : FsmState → List FsmEvent → Prop} {action : FsmAction}
    {rest : List FsmAction} {done : Bool} (hshape : TaskShape s.fsm s.task)
    (htask : s.task = action :: rest) (hnot : action ≠ .abort ∧ action ≠ .abortInterrupted)
    (h : s.aborting ∨ P s.heading s.events)
    (hpost : P s.heading s.events → ∀ event, FsmEvent.isOfSession event = false →
      P s.heading (s.post event).events) :
    ({ s with task := rest }.act done action).aborting ∨
      P ({ s with task := rest }.act done action).heading
        ({ s with task := rest }.act done action).events := by
  rcases h with haborting | hleads
  · left
    unfold SessionState.aborting at haborting ⊢
    rw [htask, List.mem_cons, List.mem_cons, or_iff_right hnot.1.symm,
      or_iff_right hnot.2.symm] at haborting
    exact haborting.imp (@mem_task_act_of_mem { s with task := rest } action _ done)
      (@mem_task_act_of_mem { s with task := rest } action _ done)
  · by_cases harm : action = .armTimer .resync → done = true
    · right
      rw [heading_act hshape htask harm]
      exact @events_act_of { s with task := rest } (P s.heading) action done hleads (hpost hleads)
    · push Not at harm
      obtain ⟨rfl, hdone⟩ := harm
      rw [Bool.eq_false_iff.mpr hdone]
      exact .inl (.inl List.mem_cons_self)

/-- An action keeps the phase of the consumer. -/
lemma consumer_act (action : FsmAction) (done : Bool) :
    (s.act done action).consumer = s.consumer := by
  unfold SessionState.act
  cases action with
  | transitionTo next => exact (frame_transitionTo next).2.1
  | armTimer timer => cases timer <;> cases done <;> rfl
  | bootInit =>
    dsimp only
    split_ifs <;> rfl
  | _ => cases done <;> rfl

/-- The first boot is begun once, and puts the initialization of the client in hand. -/
lemma boot_act (action : FsmAction) (done : Bool) :
    (s.bootInitDone = true → (s.act done action).bootInitDone = true) ∧
      (.initClient ∈ (s.act done action).task →
        .initClient ∈ s.task ∨
          (s.bootInitDone = false ∧ (s.act done action).bootInitDone = true)) := by
  unfold SessionState.act
  cases action with
  | transitionTo next =>
    refine ⟨fun hdone => (frame_transitionTo next).2.2.trans hdone, fun hmem => .inl ?_⟩
    unfold SessionState.transitionTo at hmem
    dsimp only at hmem
    by_cases hnext : next = s.fsm
    · rwa [if_pos hnext] at hmem
    · rw [if_neg hnext, List.mem_append] at hmem
      exact hmem.resolve_left (not_mem_sEnterActions next next).2.2.2
  | armTimer timer =>
    cases timer with
    | sync => cases done <;> exact ⟨id, .inl⟩
    | resync =>
      cases done with
      | true => exact ⟨id, .inl⟩
      | false => exact ⟨id, fun hmem => .inl (by simpa using hmem)⟩
  | bootInit =>
    dsimp only
    split_ifs with hfirst
    · exact ⟨id, .inl⟩
    · exact ⟨fun _ => rfl, fun _ => .inr ⟨by simpa using hfirst, rfl⟩⟩
  | _ => cases done <;> exact ⟨id, .inl⟩

/-- The initialization of the client is the last action of the first boot. -/
lemma TaskShape.of_initClient {state : FsmState} {rest : List FsmAction}
    (h : TaskShape state (.initClient :: rest)) : rest = [] := by
  rcases h with h | ⟨-, h⟩ | ⟨-, h | h⟩
  · exact absurd (mem_and_suffix_of_cons_suffix h).1 (not_mem_sEnterActions state state).2.2.2
  · obtain ⟨before, hsplit⟩ := h
    have hlength := congrArg List.length hsplit
    cases before with
    | nil => simp at hsplit
    | cons first before =>
      simp only [List.length_append, List.length_cons, List.length_nil] at hlength
      exact List.length_eq_zero_iff.mp (by omega)
  · cases h
  · have hmem := (mem_and_suffix_of_cons_suffix h).1
    simp at hmem

/-- `fsm_task` takes an event. -/
lemma agreeInv_taken {rest : List FsmEvent} (h : AgreeInv s) (htask : s.task = [])
    (hevents : s.events = event :: rest) (hfollows : Follows s (.taken event)) :
    AgreeInv ({ s with events := rest }.react event) := by
  obtain ⟨hclient, hconsumer, hboot⟩ := @frame_react { s with events := rest } event
  have hheading := heading_react (s := { s with events := rest }) htask event
  have hbefore := heading_of_task_eq_nil htask
  have hqueue := @events_react { s with events := rest } event
  constructor
  · exact taskShape_step h.shape (.taken s event rest htask hevents)
  · intro hreceiving
    rw [hclient] at hreceiving
    rcases h.receiving hreceiving with haborting | hleads
    · unfold SessionState.aborting at haborting
      simp [htask] at haborting
    · rw [hbefore, hevents] at hleads
      rcases hleads.take with hnext | ⟨hfsm, hends⟩
      · refine .inr ?_
        rw [hheading, hqueue]
        exact hnext
      · exact .inl (aborting_react hfsm hends)
  · intro hverified
    rw [hclient] at hverified
    have hleads := h.verified hverified
    rw [hbefore, hevents] at hleads
    obtain ⟨hlost, hretry⟩ := hfollows hverified
    rw [hheading, hqueue]
    exact hleads.take hlost hretry
  · intro fields hverifying
    rw [hclient]
    exact h.consumer_verifying fields (hconsumer ▸ hverifying)
  · intro hshowing
    rw [hclient]
    exact h.showing (hconsumer ▸ hshowing)
  · intro hfirst
    rw [hclient, hconsumer]
    refine h.boot (hfirst.imp (fun hdone => ?_) fun hmem => ?_)
    · rw [hboot] at hdone
      exact hdone
    · exact absurd hmem
        (initClient_not_mem_react (s := { s with events := rest }) htask event)
  · intro hmem
    exact absurd hmem (initClient_not_mem_react (s := { s with events := rest }) htask event)

/-- `fsm_task` performs an action. -/
lemma agreeInv_acted {action : FsmAction} {rest : List FsmAction} {done : Bool} (h : AgreeInv s)
    (htask : s.task = action :: rest) (hfollows : Follows s (.acted action done)) :
    AgreeInv ({ s with task := rest }.act done action) := by
  obtain ⟨hkeeps, hputs⟩ := @boot_act { s with task := rest } action done
  have hrest : ∀ a ∈ rest, a ∈ s.task := fun a ha => htask ▸ List.mem_cons_of_mem _ ha
  constructor
  · exact taskShape_step h.shape (.acted s action rest done htask)
  · intro hreceiving
    obtain ⟨hbefore, hnot⟩ := client_of_act (by decide) hreceiving
    exact aborting_or_act h.shape htask (hnot (.inl rfl)) (h.receiving hbefore)
      fun hleads event hevent => hleads.post hevent
  · intro hverified
    have hbefore : s.client = .verifying ∨ s.client = .readyToReboot :=
      hverified.imp
        (fun hstate => (client_of_act (s := { s with task := rest }) (by decide) hstate).1)
        fun hstate => (client_of_act (s := { s with task := rest }) (by decide) hstate).1
    have hleads := h.verified hbefore
    rw [heading_act h.shape htask (hfollows hbefore)]
    exact @events_act_of { s with task := rest } (CanApply s.heading) action done hleads
      fun event hevent => hleads.post hevent
  · intro fields hverifying
    rw [consumer_act] at hverifying
    have hbefore := h.consumer_verifying fields hverifying
    rcases @client_act { s with task := rest } action done with
      ⟨hkept, -⟩ | haborted | ⟨rfl, -⟩
    · exact hkept.trans hbefore
    · rw [haborted]
      dsimp only
      rw [hbefore]
      rfl
    · have hfirst := (h.boot (.inr (htask ▸ List.mem_cons_self))).1
      rw [hbefore] at hfirst
      cases hfirst
  · intro hshowing
    rw [consumer_act] at hshowing
    rcases @client_act { s with task := rest } action done with
      ⟨hkept, -⟩ | haborted | ⟨-, hready⟩
    · rw [hkept]
      exact h.showing hshowing
    · refine .inr (haborted.trans ?_)
      dsimp only
      rcases h.showing hshowing with hclient | hclient
      · rw [hclient]
        rfl
      · rw [hclient]
        rfl
    · exact .inr hready
  · intro hfirst
    have hbefore : s.bootInitDone = false ∨ .initClient ∈ rest := by
      rcases hfirst with hdone | hmem
      · refine .inl (Bool.eq_false_iff.mpr fun hbegun => ?_)
        rw [hkeeps hbegun] at hdone
        cases hdone
      · exact (hputs hmem).symm.imp And.left id
    obtain ⟨huninit, hordinary⟩ := h.boot (hbefore.imp id (hrest _))
    rw [consumer_act]
    refine ⟨?_, hordinary⟩
    rcases @client_act { s with task := rest } action done with
      ⟨hkept, -⟩ | haborted | ⟨rfl, -⟩
    · exact hkept.trans huninit
    · rw [haborted]
      dsimp only
      rw [huninit]
      rfl
    · have hnil := TaskShape.of_initClient (htask ▸ h.shape)
      rw [hnil, h.booting (htask ▸ List.mem_cons_self)] at hbefore
      simp at hbefore
  · intro hmem
    rcases hputs hmem with hin | ⟨-, hdone⟩
    · exact hkeeps (h.booting (hrest _ hin))
    · exact hdone

/-- The client cannot be set up. -/
lemma agreeInv_initFailed {rest : List FsmAction} {client : OtaClientState} (h : AgreeInv s)
    (htask : s.task = .initClient :: rest)
    (hclient : client = s.client ∨ client = .uninitialized ∨ client = .idle) :
    AgreeInv ({ s with task := rest, client := client }.post .error) := by
  have hnil := TaskShape.of_initClient (htask ▸ h.shape)
  have hmem : .initClient ∈ s.task := htask ▸ List.mem_cons_self
  obtain ⟨huninit, hordinary⟩ := h.boot (.inr hmem)
  have hstate : client = .uninitialized ∨ client = .idle := by
    rcases hclient with rfl | hclient
    · exact .inl huninit
    · exact hclient
  refine AgreeInv.post ?_ rfl
  constructor
  · exact (taskShape_step h.shape (SessionStep.initFailed s rest client htask hclient) :)
  · rintro rfl
    simp at hstate
  · intro hverified
    have hverified' : client = .verifying ∨ client = .readyToReboot := hverified
    rcases hstate with rfl | rfl <;> simp at hverified'
  · intro fields hverifying
    rw [show s.consumer = .verifying fields from hverifying] at hordinary
    cases hordinary
  · intro hshowing
    rw [show s.consumer = .showingFailure from hshowing] at hordinary
    cases hordinary
  · rintro (hdone | hin)
    · have hbegun := h.booting hmem
      rw [show s.bootInitDone = false from hdone] at hbegun
      cases hbegun
    · rw [show rest = [] from hnil] at hin
      cases hin
  · intro hin
    rw [show rest = [] from hnil] at hin
    cases hin

/-- A session is opened. -/
lemma agreeInv_opened (h : AgreeInv s) (hclient : s.client = .idle)
    (hfollows : Follows s .opened) :
    AgreeInv ({ s with client := .receiving, consumer := .waiting }.post .otaStart) := by
  obtain ⟨hroom, hleads⟩ := hfollows
  constructor
  · exact h.shape
  · intro _
    right
    unfold SessionState.post
    dsimp only
    rw [post_of_room hroom]
    exact hleads
  · rintro (hstate | hstate) <;> cases hstate
  · rintro fields ⟨⟩
  · rintro ⟨⟩
  · intro hfirst
    have huninit := (h.boot hfirst).1
    rw [hclient] at huninit
    cases huninit
  · exact h.booting

/-- An END is accepted. -/
lemma agreeInv_finishing {fields : OtaEndFields} (h : AgreeInv s) (hclient : s.client = .receiving)
    (hfollows : Follows s .finishing) :
    AgreeInv
      ({ s with client := .verifying, consumer := .verifying fields }.post .otaComplete) := by
  obtain ⟨hroom, hleads⟩ := hfollows
  constructor
  · exact h.shape
  · rintro ⟨⟩
  · intro _
    unfold SessionState.post
    dsimp only
    rw [post_of_room hroom]
    exact hleads
  · intro _ _
    rfl
  · rintro ⟨⟩
  · intro hfirst
    have huninit := (h.boot hfirst).1
    rw [hclient] at huninit
    cases huninit
  · exact h.booting

/-- The image has been verified. -/
lemma agreeInv_completed {fields : OtaEndFields} (h : AgreeInv s)
    (hphase : s.consumer = .verifying fields) :
    AgreeInv { s with client := .readyToReboot, consumer := .waiting } := by
  have hverifying := h.consumer_verifying fields hphase
  constructor
  · exact h.shape
  · rintro ⟨⟩
  · intro _
    exact h.verified (.inl hverifying)
  · rintro fields ⟨⟩
  · rintro ⟨⟩
  · intro hfirst
    have huninit := (h.boot hfirst).1
    rw [hverifying] at huninit
    cases huninit
  · exact h.booting

/-- **FSM and session agree.**  Every step keeps them together, unless a session is opened or
closed that the FSM cannot follow, or the FSM leaves a verified image. -/
lemma agreeInv_step {kind : SessionKind} (h : AgreeInv s) (hstep : SessionStep s kind s')
    (hfollows : Follows s kind) : AgreeInv s' := by
  cases hstep with
  | idle => exact h
  | posted event hevent => exact h.post hevent
  | moved phase hfrom hto => exact h.moved hto
  | movedPosted phase event hfrom hto hevent => exact (h.moved hto).post hevent
  | taken event rest htask hevents => exact agreeInv_taken h htask hevents hfollows
  | acted action rest done htask => exact agreeInv_acted h htask hfollows
  | initFailed rest client htask hclient => exact agreeInv_initFailed h htask hclient
  | opened hphase hclient => exact agreeInv_opened h hclient hfollows
  | finishing fields hphase hclient => exact agreeInv_finishing h hclient hfollows
  | completed fields hphase => exact agreeInv_completed h hphase
  | failed hphase hclient =>
    have hbooted : ¬ (s.bootInitDone = false ∨ .initClient ∈ s.task) := by
      intro hfirst
      obtain ⟨huninit, hordinary⟩ := h.boot hfirst
      have hclient' := hclient hordinary
      rw [huninit] at hclient'
      simp at hclient'
    unfold SessionState.fail
    by_cases happlying : s.fsm = .otaApplying
    · rw [if_pos happlying]
      exact h.of_ended (.inl rfl) (by simp) hbooted
    · rw [if_neg happlying]
      exact h.of_ended (.inl rfl) (by simp) hbooted
  | failureShown hphase =>
    have hbooted : ¬ (s.bootInitDone = false ∨ .initClient ∈ s.task) := by
      intro hfirst
      have hordinary := (h.boot hfirst).2
      rw [hphase] at hordinary
      cases hordinary
    exact h.of_ended (h.showing hphase) (by simp) hbooted

end Step

/-! ## The product -/

/-- `fsm_task` takes a loss of synchronization in `OTA_APPLYING` or a retry in `ERROR`, or cannot
start the grace. -/
def Product.leavesImage (product : Product) : ProductInput → Bool
  | .fsmTask hal =>
      match product.task, product.events with
      | .armTimer .resync :: _, _ => !hal.timerCommand
      | [], .syncLost :: _ => product.fsm == .otaApplying
      | [], .retry :: _ => product.fsm == .error
      | _, _ => false
  | _ => false

section Product

variable (protocol : OtaProtocol) (sha256 : Bytes → Sha256Digest)
  (deriveSessionHopSeed : UInt32 → UInt32)

/-- The FSM can follow a step: a session is opened only when the event queue has room and the FSM,
once it has taken the queued events, receives it; an END is accepted only when it will apply it;
and a verified image is not left. -/
def Product.FsmFollows (product : Product) (input : ProductInput) : Prop :=
  (product.opensSession input = true → product.events.length < fsmEventQueueDepth ∧
      CanReceive product.session.heading (product.events ++ [.otaStart])) ∧
    (product.acceptsEnd protocol input = true → product.events.length < fsmEventQueueDepth ∧
      CanApply product.session.heading (product.events ++ [.otaComplete])) ∧
    (product.client.state = .verifying ∨ product.client.state = .readyToReboot →
      product.leavesImage input = false)

instance (product : Product) : DecidablePred (product.FsmFollows protocol) := fun input => by
  unfold Product.FsmFollows
  infer_instance

/-- The invariant of the product. -/
structure Product.AgreeInv (product : Product) : Prop where
  configured : product.Configured
  session : FhssOtaRadio.AgreeInv product.session

variable {product : Product} {input : ProductInput}

/-- An event that `fsm_task` takes without leaving the image. -/
lemma keepsImage_taken {event : FsmEvent} {rest : List FsmEvent} {hal : FsmTaskHal}
    (hkept : product.leavesImage (.fsmTask hal) = false) (htask : product.task = [])
    (hevents : product.events = event :: rest) :
    (product.fsm = .otaApplying → event ≠ .syncLost) ∧
      (product.fsm = .error → event ≠ .retry) := by
  unfold Product.leavesImage at hkept
  rw [htask, hevents] at hkept
  constructor
  · rintro hfsm rfl
    rw [hfsm] at hkept
    cases hkept
  · rintro hfsm rfl
    rw [hfsm] at hkept
    cases hkept

/-- The grace is started without leaving the image. -/
lemma keepsImage_arm {rest : List FsmAction} {hal : FsmTaskHal}
    (hkept : product.leavesImage (.fsmTask hal) = false)
    (htask : product.task = .armTimer .resync :: rest) : hal.timerCommand = true := by
  unfold Product.leavesImage at hkept
  rw [htask] at hkept
  simpa using hkept

/-- A step that the FSM can follow is one of the session that it can follow. -/
lemma follows_of_fsmFollows {kind : SessionKind} {s' : SessionState}
    (hfollows : product.FsmFollows protocol input) (hstep : SessionStep product.session kind s')
    (hshown : kind.Shown protocol product input
      (productStep protocol sha256 deriveSessionHopSeed product input).2) :
    Follows product.session kind := by
  obtain ⟨hopens, hends, hkeeps⟩ := hfollows
  cases hstep with
  | opened hphase hclient =>
    exact hopens (productStep_raises protocol sha256 deriveSessionHopSeed hshown)
  | finishing fields hphase hclient =>
    exact hends (productStep_raises protocol sha256 deriveSessionHopSeed hshown)
  | taken event rest htask hevents =>
    intro hverified
    obtain ⟨hal, rfl⟩ := hshown
    exact keepsImage_taken (hkeeps hverified) htask hevents
  | acted action rest done htask =>
    rintro hverified rfl
    obtain ⟨hal, rfl, -, harm⟩ := hshown
    exact (harm rfl).symm.trans (keepsImage_arm (hkeeps hverified) htask)
  | initFailed rest client htask hclient =>
    rintro - ⟨⟩
  | _ => trivial

/-- A step that the FSM can follow keeps the invariant. -/
lemma agreeInv_productStep (h : product.AgreeInv) (hfollows : product.FsmFollows protocol input) :
    (productStep protocol sha256 deriveSessionHopSeed product input).1.AgreeInv := by
  obtain ⟨kind, hstep, hshown⟩ :=
    productStep_session protocol sha256 deriveSessionHopSeed h.configured input
  exact ⟨configured_productStep protocol sha256 deriveSessionHopSeed h.configured input,
    agreeInv_step h.session hstep
      (follows_of_fsmFollows protocol sha256 deriveSessionHopSeed hfollows hstep hshown)⟩

/-- The invariant holds at boot. -/
lemma agreeInv_boot (store : FhssConfigStore) : (Product.boot store).AgreeInv where
  configured := fun hconsumer => absurd hconsumer Bool.false_ne_true
  session :=
    { shape := .inl List.suffix_rfl
      receiving := fun hstate => by cases hstate
      verified := fun hstate => by rcases hstate with hstate | hstate <;> cases hstate
      consumer_verifying := fun fields hphase => by cases hphase
      showing := fun hphase => by cases hphase
      boot := fun _ => ⟨rfl, rfl⟩
      booting := fun hmem => by
        have hmem' : FsmAction.initClient ∈ [FsmAction.bootInit] := hmem
        simp at hmem' }

/-- Once the events are processed, the FSM is where the session is. -/
lemma AgreeInv.drained {s : SessionState} (h : AgreeInv s) (hevents : s.events = [])
    (htask : s.task = []) :
    (s.client = .receiving → s.fsm = .otaReceiving) ∧
      (s.client = .verifying ∨ s.client = .readyToReboot →
        s.fsm = .otaApplying ∨ s.fsm = .error) := by
  have hheading := heading_of_task_eq_nil htask
  constructor
  · intro hreceiving
    rcases h.receiving hreceiving with haborting | hleads
    · unfold SessionState.aborting at haborting
      simp [htask] at haborting
    · rw [hheading, hevents] at hleads
      exact hleads.1
  · intro hverified
    have hleads := h.verified hverified
    rw [hheading, hevents] at hleads
    rcases hleads with herror | ⟨happlying, -⟩
    · exact .inr herror
    · exact .inl happlying

/-- In the menus that take the radio away no image is received or verified. -/
lemma AgreeInv.keepsRadio {s : SessionState} (h : AgreeInv s)
    (hmenu : s.fsm = .menuComm ∨ s.fsm = .menuIdle) :
    s.client ≠ .receiving ∧ s.client ≠ .verifying := by
  have hheading : s.heading = s.fsm := by
    rcases h.shape.heading_eq_or with heq | heq
    · exact heq
    · rw [heq] at hmenu
      simp at hmenu
  have hleft : ¬ (s.heading ≠ .menuComm ∧ s.heading ≠ .menuIdle) := by
    rw [hheading]
    tauto
  constructor
  · intro hreceiving
    rcases h.receiving hreceiving with haborting | hleads
    · rcases h.shape.of_aborting haborting with hfsm | hfsm
      · rw [hfsm] at hmenu
        simp at hmenu
      · rw [hfsm] at hmenu
        simp at hmenu
    · exact hleft hleads.keepsRadio
  · intro hverifying
    exact hleft (h.verified (.inl hverifying)).keepsRadio

/-- In every run of the product from boot whose steps the FSM can follow, whatever fails and in
any order: when the queued events are processed, the FSM is in `OTA_RECEIVING` while the client
receives, and in `OTA_APPLYING` or `ERROR` while it verifies or has verified; and at no time is
the FSM in a menu that takes the radio away while an image is received or verified. -/
theorem fsm_agrees_with_session (store : FhssConfigStore) {inputs : List ProductInput}
    (h : Guarded (productStep protocol sha256 deriveSessionHopSeed)
      (fun product input => product.FsmFollows protocol input) (Product.boot store) inputs) :
    let product := finalState (productStep protocol sha256 deriveSessionHopSeed)
      (Product.boot store) inputs
    (product.events = [] → product.task = [] →
      (product.client.state = .receiving → product.fsm = .otaReceiving) ∧
        (product.client.state = .verifying ∨ product.client.state = .readyToReboot →
          product.fsm = .otaApplying ∨ product.fsm = .error)) ∧
      (product.fsm = .menuComm ∨ product.fsm = .menuIdle →
        product.client.state ≠ .receiving ∧ product.client.state ≠ .verifying) := by
  intro product
  have hinv : product.AgreeInv := @invariant_finalState _ _ _
    (productStep protocol sha256 deriveSessionHopSeed) Product.AgreeInv
    (fun product input => product.FsmFollows protocol input)
    (fun _ _ hs hok => agreeInv_productStep protocol sha256 deriveSessionHopSeed hs hok) _
    (agreeInv_boot store) inputs h
  exact ⟨fun hevents htask => hinv.session.drained hevents htask,
    fun hmenu => hinv.session.keepsRadio hmenu⟩

end Product

/-- An update over the hopping link, from the menu to the open session. -/
def sampleHoppingSession : List ProductInput :=
  sampleMenuOta ++ sampleHopping 8 ++ sampleAcquire 8 ++
    [sampleCallback, sampleCallback, sampleFsmTask] ++ sampleOpen

/-- The FSM follows the session of an update over the hopping link. -/
theorem fsm_agrees_with_session_hopping :
    let product := finalState (productStep plainProtocol sampleSha256 sampleDerive)
      (Product.boot sampleStore) sampleHoppingSession
    product.client.state = .receiving ∧ product.fsm = .otaReceiving := by
  have hagrees := @fsm_agrees_with_session plainProtocol sampleSha256 sampleDerive sampleStore
    sampleHoppingSession (by decide +kernel)
  have hreceiving : (finalState (productStep plainProtocol sampleSha256 sampleDerive)
      (Product.boot sampleStore) sampleHoppingSession).client.state = .receiving := by
    decide +kernel
  exact ⟨hreceiving, (hagrees.1 (by decide +kernel) (by decide +kernel)).1 hreceiving⟩

/-- Without a hopping link START is accepted in `MENU_OTA`, where the FSM ignores `OTA_START`; with
every event processed the client receives, and a menu selection takes the radio away. -/
theorem fsm_parts_from_session :
    let product := finalState (productStep plainProtocol sampleSha256 sampleDerive)
      (Product.boot sampleStore) (sampleMenuOta ++ sampleOpen)
    let left := finalState (productStep plainProtocol sampleSha256 sampleDerive) product
      ([.menuSelect .idle] ++ List.replicate 3 sampleFsmTask)
    product.events = [] ∧ product.task = [] ∧ product.client.state = .receiving ∧
      product.fsm = .menuOta ∧ left.events = [] ∧ left.task = [] ∧
      left.client.state = .receiving ∧ left.fsm = .menuIdle := by
  decide +kernel

end FhssOtaRadio
