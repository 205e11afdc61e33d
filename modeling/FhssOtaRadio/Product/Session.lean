import FhssOtaRadio.Product.System

/-!
# The FSM and the OTA session

What the product FSM and the OTA session know of each other is small: the state of the FSM, its
queued events, what `fsm_task` still has to do, the state of the client and where its consumer
is.  `SessionState` is this part of the product and `SessionStep` says how it can change; every
step of the product is such a change (`productStep_session` in `Product.SessionRefinement`), so
that the invariants about the session are proved on the abstract steps.
-/

namespace FhssOtaRadio

open EventQueue

/-! ## The abstraction -/

/-- What the FSM and the session know of each other. -/
structure SessionState where
  fsm : FsmState
  events : List FsmEvent
  task : List FsmAction
  bootInitDone : Bool
  client : OtaClientState
  consumer : ConsumerPhase

/-- The session part of the product. -/
def Product.session (product : Product) : SessionState :=
  ⟨product.fsm, product.events, product.task, product.bootInitDone, product.client.state,
    product.consumer⟩

/-- The phases in which the consumer is neither verifying an image nor showing a failure. -/
def ConsumerPhase.isOrdinary : ConsumerPhase → Bool
  | .verifying _ => false
  | .showingFailure => false
  | _ => true

/-- The events that only an OTA session posts. -/
def FsmEvent.isOfSession : FsmEvent → Bool
  | .otaStart => true
  | .otaComplete => true
  | .otaVerifyFail => true
  | _ => false

/-- Post an event. -/
def SessionState.post (s : SessionState) (event : FsmEvent) : SessionState :=
  { s with events := EventQueue.post fsmEventQueueDepth s.events event }

/-- The FSM changes its state. -/
def SessionState.transitionTo (s : SessionState) (next : FsmState) : SessionState :=
  if next = s.fsm then s else { s with fsm := next, task := sEnterActions next ++ s.task }

/-- `fsm_task` reacts to an event. -/
def SessionState.react (s : SessionState) (event : FsmEvent) : SessionState :=
  match fsmTaskReaction s.fsm event with
  | .ignore => s
  | .transitionTo next => s.transitionTo next
  | .stopResyncTimer => s
  | .armResyncTimer => { s with task := [.armTimer .resync] }
  | .abortSession => { s with task := [.abort, .transitionTo .menuOta] }

/-- The state an abort leaves the client in. -/
def abortedState (state : OtaClientState) : OtaClientState :=
  if state = .receiving ∨ state = .error then .idle else state

/-- An action of `fsm_task`; `done` says that it succeeded. -/
def SessionState.act (s : SessionState) (done : Bool) : FsmAction → SessionState
  | .transitionTo next => s.transitionTo next
  | .abort => { s with client := abortedState s.client }
  | .abortInterrupted => { s with client := abortedState s.client }
  | .armTimer .resync =>
      if done then s else { s with task := .abort :: .transitionTo .menuOta :: s.task }
  | .bootInit =>
      if s.bootInitDone then s.post .initDone
      else { s with bootInitDone := true, task := .initAdapter :: .initClient :: s.task }
  | .initClient => if done then { s with client := .idle } else s.post .error
  | _ => if done then s else s.post .error

/-- A session has failed: the client is in `ERROR`, and the event callback posts `ERROR` or, in
`OTA_APPLYING`, shows the failure. -/
def SessionState.fail (s : SessionState) : SessionState :=
  if s.fsm = .otaApplying then { s with client := .error, consumer := .showingFailure }
  else { s with client := .error, consumer := .waiting }.post .error

/-- The kinds of steps. -/
inductive SessionKind where
  /-- A step that is not about the session. -/
  | other
  /-- `fsm_task` takes an event. -/
  | taken (event : FsmEvent)
  /-- `fsm_task` performs an action, which succeeds or not. -/
  | acted (action : FsmAction) (done : Bool)
  /-- A START opens a session. -/
  | opened
  /-- A session fails. -/
  | failed
  /-- An END is accepted. -/
  | finishing
  /-- The image has been verified. -/
  | completed
  /-- A failure has been shown. -/
  | failureShown

/-- How the session part of the product changes. -/
inductive SessionStep : SessionState → SessionKind → SessionState → Prop where
  | idle (s) : SessionStep s .other s
  | posted (s event) (hevent : FsmEvent.isOfSession event = false) :
      SessionStep s .other (s.post event)
  | moved (s phase) (hfrom : s.consumer.isOrdinary = true)
      (hto : ConsumerPhase.isOrdinary phase = true) :
      SessionStep s .other { s with consumer := phase }
  | movedPosted (s phase event) (hfrom : s.consumer.isOrdinary = true)
      (hto : ConsumerPhase.isOrdinary phase = true)
      (hevent : FsmEvent.isOfSession event = false) :
      SessionStep s .other ({ s with consumer := phase }.post event)
  | taken (s event rest) (htask : s.task = []) (hevents : s.events = event :: rest) :
      SessionStep s (.taken event) ({ s with events := rest }.react event)
  | acted (s action rest done) (htask : s.task = action :: rest) :
      SessionStep s (.acted action done) ({ s with task := rest }.act done action)
  /-- The initialization of the client fails, before or after the client was set up. -/
  | initFailed (s rest client) (htask : s.task = .initClient :: rest)
      (hclient : client = s.client ∨ client = .uninitialized ∨ client = .idle) :
      SessionStep s (.acted .initClient false)
        ({ s with task := rest, client := client }.post .error)
  | opened (s) (hphase : s.consumer.isOrdinary = true) (hclient : s.client = .idle) :
      SessionStep s .opened
        ({ s with client := .receiving, consumer := .waiting }.post .otaStart)
  | failed (s) (hphase : s.consumer ≠ .showingFailure)
      (hclient : s.consumer.isOrdinary = true → s.client = .idle ∨ s.client = .receiving) :
      SessionStep s .failed s.fail
  | finishing (s fields) (hphase : s.consumer.isOrdinary = true)
      (hclient : s.client = .receiving) :
      SessionStep s .finishing
        ({ s with client := .verifying, consumer := .verifying fields }.post .otaComplete)
  | completed (s fields) (hphase : s.consumer = .verifying fields) :
      SessionStep s .completed { s with client := .readyToReboot, consumer := .waiting }
  | failureShown (s) (hphase : s.consumer = .showingFailure) :
      SessionStep s .failureShown ({ s with consumer := .waiting }.post .otaVerifyFail)

/-! ## What `fsm_task` has in hand -/

/-- What `fsm_task` can still have to do in a state: the rest of its enter actions, of the first
boot, or of its reaction to a loss of synchronization. -/
def TaskShape (state : FsmState) (task : List FsmAction) : Prop :=
  task <:+ sEnterActions state ∨
    (state = .bootInit ∧ task <:+ [.initAdapter, .initClient]) ∨
    (state = .otaReceiving ∧
      (task = [.armTimer .resync] ∨ task <:+ [.abort, .transitionTo .menuOta]))

/-- The state the FSM is in, or goes to once it has given a session up. -/
def heading (state : FsmState) (task : List FsmAction) : FsmState :=
  if .transitionTo .menuOta ∈ task then .menuOta else state

/-- `heading` of the session part. -/
def SessionState.heading (s : SessionState) : FsmState := FhssOtaRadio.heading s.fsm s.task

section Task

variable {s s' : SessionState} {kind : SessionKind}

/-- The head of a suffix is an element, and its tail is a suffix. -/
lemma mem_and_suffix_of_cons_suffix {α : Type*} {a : α} {l l' : List α} (h : a :: l <:+ l') :
    a ∈ l' ∧ l <:+ l' :=
  ⟨h.subset List.mem_cons_self, (List.suffix_cons a l).trans h⟩

/-- Of the enter actions none changes the state or starts the grace. -/
lemma not_mem_sEnterActions (state next : FsmState) :
    .transitionTo next ∉ sEnterActions state ∧ .armTimer .resync ∉ sEnterActions state ∧
      .abort ∉ sEnterActions state ∧ .initClient ∉ sEnterActions state := by
  cases state <;> simp [sEnterActions, stopOtaRadio]

/-- The boot actions are those of `BOOT_INIT`, and the abort that of `ERROR`. -/
lemma mem_sEnterActions {state : FsmState} :
    (.bootInit ∈ sEnterActions state → state = .bootInit) ∧
      (.abortInterrupted ∈ sEnterActions state → state = .error) := by
  cases state <;> simp [sEnterActions, stopOtaRadio]

/-- The actions that touch neither the state nor what is left to do. -/
def FsmAction.isPlain : FsmAction → Bool
  | .transitionTo _ => false
  | .armTimer .resync => false
  | .bootInit => false
  | _ => true

/-- A plain action touches neither the state nor what is left to do. -/
lemma act_of_isPlain {action : FsmAction} (h : action.isPlain = true) (done : Bool) :
    (s.act done action).fsm = s.fsm ∧ (s.act done action).task = s.task := by
  unfold SessionState.act
  cases action with
  | transitionTo next => cases h
  | bootInit => cases h
  | armTimer timer =>
    cases timer with
    | sync => cases done <;> exact ⟨rfl, rfl⟩
    | resync => cases h
  | _ => cases done <;> exact ⟨rfl, rfl⟩

/-- What is in hand keeps its shape. -/
lemma taskShape_step (h : TaskShape s.fsm s.task) (hstep : SessionStep s kind s') :
    TaskShape s'.fsm s'.task := by
  cases hstep with
  | idle => exact h
  | posted event hevent => exact h
  | moved phase hfrom hto => exact h
  | movedPosted phase event hfrom hto hevent => exact h
  | opened hphase hclient => exact h
  | finishing fields hphase hclient => exact h
  | completed fields hphase => exact h
  | failureShown hphase => exact h
  | failed hphase hclient =>
    unfold SessionState.fail
    split_ifs
    · exact h
    · exact h
  | taken event rest htask hevents =>
    rw [htask] at h
    unfold SessionState.react
    dsimp only
    cases hreaction : fsmTaskReaction s.fsm event with
    | ignore => exact htask ▸ h
    | stopResyncTimer => exact htask ▸ h
    | transitionTo next =>
      unfold SessionState.transitionTo
      dsimp only
      split_ifs
      · exact htask ▸ h
      · rw [htask, List.append_nil]
        exact .inl List.suffix_rfl
    | armResyncTimer =>
      obtain ⟨hfsm, -⟩ := (fsmTaskReaction_eq_armResyncTimer_iff s.fsm event).mp hreaction
      exact .inr (.inr ⟨hfsm, .inl rfl⟩)
    | abortSession =>
      obtain ⟨hfsm, -⟩ := (fsmTaskReaction_eq_abortSession_iff s.fsm event).mp hreaction
      exact .inr (.inr ⟨hfsm, .inr List.suffix_rfl⟩)
  | initFailed rest client htask hclient =>
    rw [htask] at h
    rcases h with h | ⟨hfsm, h⟩ | ⟨hfsm, h | h⟩
    · exact .inl (mem_and_suffix_of_cons_suffix h).2
    · exact .inr (.inl ⟨hfsm, (mem_and_suffix_of_cons_suffix h).2⟩)
    · cases h
    · have hmem := (mem_and_suffix_of_cons_suffix h).1
      simp at hmem
  | acted action rest done htask =>
    rw [htask] at h
    have hplain : action.isPlain = true → TaskShape s.fsm rest →
        TaskShape ({ s with task := rest }.act done action).fsm
          ({ s with task := rest }.act done action).task := by
      intro hplain hrest
      obtain ⟨hfsm, htask'⟩ := @act_of_isPlain { s with task := rest } action hplain done
      rw [hfsm, htask']
      exact hrest
    rcases h with h | ⟨hfsm, h⟩ | ⟨hfsm, h | h⟩
    · obtain ⟨hmem, hrest⟩ := mem_and_suffix_of_cons_suffix h
      have hshape : TaskShape s.fsm rest := .inl hrest
      cases action with
      | transitionTo next => exact absurd hmem (not_mem_sEnterActions s.fsm next).1
      | armTimer timer =>
        cases timer with
        | sync => exact hplain rfl hshape
        | resync => exact absurd hmem (not_mem_sEnterActions s.fsm s.fsm).2.1
      | bootInit =>
        have hboot := mem_sEnterActions.1 hmem
        have hnil : rest = [] := by
          rw [hboot] at h
          obtain ⟨before, hsplit⟩ := h
          cases before with
          | nil => exact (List.cons.inj hsplit).2
          | cons first before => simp [sEnterActions] at hsplit
        unfold SessionState.act
        dsimp only
        split_ifs
        · exact hshape
        · rw [hnil]
          exact .inr (.inl ⟨hboot, List.suffix_rfl⟩)
      | _ => exact hplain rfl hshape
    · obtain ⟨hmem, hrest⟩ := mem_and_suffix_of_cons_suffix h
      have hshape : TaskShape s.fsm rest := .inr (.inl ⟨hfsm, hrest⟩)
      rw [List.mem_cons, List.mem_singleton] at hmem
      rcases hmem with rfl | rfl
      · exact hplain rfl hshape
      · exact hplain rfl hshape
    · obtain ⟨rfl, rfl⟩ := List.cons.inj h
      unfold SessionState.act
      dsimp only
      split_ifs
      · exact .inl List.nil_suffix
      · exact .inr (.inr ⟨hfsm, .inr List.suffix_rfl⟩)
    · obtain ⟨hmem, hrest⟩ := mem_and_suffix_of_cons_suffix h
      rw [List.mem_cons, List.mem_singleton] at hmem
      rcases hmem with rfl | rfl
      · exact hplain rfl (.inr (.inr ⟨hfsm, .inr hrest⟩))
      · have hnil : rest = [] := by
          obtain ⟨before, hsplit⟩ := h
          have hlength := congrArg List.length hsplit
          cases before with
          | nil => simp at hsplit
          | cons first before =>
            simp only [List.length_append, List.length_cons, List.length_nil] at hlength
            exact List.length_eq_zero_iff.mp (by omega)
        unfold SessionState.act SessionState.transitionTo
        dsimp only
        rw [hnil, if_neg (by rw [hfsm]; decide), List.append_nil]
        exact .inl List.suffix_rfl

/-- A pending change of state is the one that gives a session up. -/
lemma TaskShape.of_transitionTo {state next : FsmState} {task : List FsmAction}
    (h : TaskShape state task) (hmem : .transitionTo next ∈ task) :
    state = .otaReceiving ∧ next = .menuOta := by
  rcases h with h | ⟨-, h⟩ | ⟨hstate, h | h⟩
  · exact absurd (h.subset hmem) (not_mem_sEnterActions state next).1
  · have := h.subset hmem
    simp at this
  · rw [h] at hmem
    simp at hmem
  · have := h.subset hmem
    exact ⟨hstate, by simpa using this⟩

/-- The FSM is where it is heading, unless it gives a session up. -/
lemma TaskShape.heading_eq_or (h : TaskShape s.fsm s.task) :
    s.heading = s.fsm ∨ s.fsm = .otaReceiving := by
  unfold SessionState.heading FhssOtaRadio.heading
  split_ifs with hmem
  · exact .inr (h.of_transitionTo hmem).1
  · exact .inl rfl

/-- With nothing in hand the FSM is where it is heading. -/
lemma heading_of_task_eq_nil (h : s.task = []) : s.heading = s.fsm := by
  unfold SessionState.heading FhssOtaRadio.heading
  rw [h]
  exact if_neg List.not_mem_nil

/-- An event leads where `fsmNext` says. -/
lemma heading_react (htask : s.task = []) (event : FsmEvent) :
    (s.react event).heading = fsmNext s.fsm event := by
  have hstay := heading_of_task_eq_nil htask
  unfold SessionState.react fsmNext
  cases hreaction : fsmTaskReaction s.fsm event with
  | ignore => exact hstay
  | stopResyncTimer => exact hstay
  | transitionTo next =>
    unfold SessionState.transitionTo
    dsimp only
    by_cases hnext : next = s.fsm
    · rw [if_pos hnext, hstay, hnext]
    · rw [if_neg hnext, htask, List.append_nil]
      exact if_neg (not_mem_sEnterActions next .menuOta).1
  | armResyncTimer =>
    unfold SessionState.heading FhssOtaRadio.heading
    exact if_neg (by simp)
  | abortSession =>
    unfold SessionState.heading FhssOtaRadio.heading
    exact if_pos (by simp)

/-- An action does not change where the FSM is heading, unless the grace cannot be started. -/
lemma heading_act {action : FsmAction} {rest : List FsmAction} {done : Bool}
    (h : TaskShape s.fsm s.task) (htask : s.task = action :: rest)
    (hdone : action = .armTimer .resync → done = true) :
    ({ s with task := rest }.act done action).heading = s.heading := by
  have hplain : action.isPlain = true →
      ({ s with task := rest }.act done action).heading = s.heading := by
    intro hplain
    obtain ⟨hfsm, htask'⟩ := @act_of_isPlain { s with task := rest } action hplain done
    have hne : .transitionTo .menuOta ≠ action := by
      rintro rfl
      cases hplain
    unfold SessionState.heading FhssOtaRadio.heading
    rw [hfsm, htask']
    exact if_congr (by rw [htask, List.mem_cons, or_iff_right hne]) rfl rfl
  cases action with
  | transitionTo next =>
    obtain ⟨hfsm, rfl⟩ := h.of_transitionTo (htask ▸ List.mem_cons_self)
    have hnil : .transitionTo .menuOta ∉ rest := by
      rcases h with h | ⟨hboot, -⟩ | ⟨-, h | h⟩
      · have hmem := h.subset (htask ▸ List.mem_cons_self)
        exact absurd hmem (not_mem_sEnterActions s.fsm .menuOta).1
      · rw [hfsm] at hboot
        cases hboot
      · rw [htask] at h
        cases h
      · have hsub := (htask ▸ h).sublist
        intro hmem
        have htwice := (List.Sublist.trans
          ((List.singleton_sublist.mpr hmem).cons_cons (.transitionTo .menuOta)) hsub).count_le
          (.transitionTo .menuOta)
        simp at htwice
    have hleft : s.heading = .menuOta := if_pos (htask ▸ List.mem_cons_self)
    rw [hleft]
    unfold SessionState.act SessionState.transitionTo
    dsimp only
    rw [if_neg (by rw [hfsm]; decide)]
    refine if_neg fun hmem => ?_
    rcases List.mem_append.mp hmem with hmem | hmem
    · exact (not_mem_sEnterActions .menuOta .menuOta).1 hmem
    · exact hnil hmem
  | armTimer timer =>
    cases timer with
    | sync => exact hplain rfl
    | resync =>
      rw [hdone rfl]
      unfold SessionState.heading FhssOtaRadio.heading SessionState.act
      simp [htask]
  | bootInit =>
    unfold SessionState.heading FhssOtaRadio.heading SessionState.act
    dsimp only
    split_ifs with hdone' <;> simp_all [SessionState.post]
  | _ => exact hplain rfl

/-- What is in hand besides the start of the grace does not start it later. -/
lemma TaskShape.of_armTimer {rest : List FsmAction}
    (h : TaskShape s.fsm (.armTimer .resync :: rest)) : rest = [] := by
  rcases h with h | ⟨-, h⟩ | ⟨-, h | h⟩
  · exact absurd (mem_and_suffix_of_cons_suffix h).1 (not_mem_sEnterActions s.fsm s.fsm).2.1
  · have hmem := (mem_and_suffix_of_cons_suffix h).1
    simp at hmem
  · exact (List.cons.inj h).2
  · have hmem := (mem_and_suffix_of_cons_suffix h).1
    simp at hmem

/-- Reacting to an event posts nothing. -/
lemma events_react (event : FsmEvent) : (s.react event).events = s.events := by
  unfold SessionState.react
  split
  · rfl
  · unfold SessionState.transitionTo
    split_ifs <;> rfl
  · rfl
  · rfl
  · rfl

/-- An action leaves the events alone or posts `ERROR` or `INIT_DONE`. -/
lemma events_act (action : FsmAction) (done : Bool) :
    (s.act done action).events = s.events ∨
      ∃ event, (event = .error ∨ event = .initDone) ∧
        (s.act done action).events = (s.post event).events := by
  unfold SessionState.act
  cases action with
  | transitionTo next =>
    refine .inl ?_
    unfold SessionState.transitionTo
    dsimp only
    split_ifs <;> rfl
  | bootInit =>
    dsimp only
    split_ifs
    · exact .inr ⟨.initDone, .inr rfl, rfl⟩
    · exact .inl rfl
  | armTimer timer =>
    cases timer with
    | sync =>
      cases done with
      | true => exact .inl rfl
      | false => exact .inr ⟨.error, .inl rfl, rfl⟩
    | resync => cases done <;> exact .inl rfl
  | abort => exact .inl rfl
  | abortInterrupted => exact .inl rfl
  | _ =>
    cases done with
    | true => exact .inl rfl
    | false => exact .inr ⟨.error, .inl rfl, rfl⟩

end Task

end FhssOtaRadio
