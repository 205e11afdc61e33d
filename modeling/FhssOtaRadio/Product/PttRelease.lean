import FhssOtaRadio.Product.Frame

/-!
# Releasing PTT (`main/fsm.c`)

`TX_AUDIO` is left by the event of the released button, which is posted without waiting and lost
when the event queue is full, and which is not posted at all when the callback finds the FSM in
`MENU_IDLE`, where the button works the loopback test.  What the queued events will do to the FSM
does not depend on what is posted behind them, so a released button stays without effect exactly if
it is not queued while the queued events lead into `TX_AUDIO`.
-/

namespace FhssOtaRadio

open EventQueue Machine

variable (protocol : OtaProtocol) (sha256 : Bytes → Sha256Digest)
  (deriveSessionHopSeed : UInt32 → UInt32)

/-! ## The button -/

/-- The product with what the PTT callback has reported last, the last time that it returned. -/
structure PttProduct where
  product : Product
  pressed : Bool

/-- A step of the product; what the callback reports counts from when it has had its effect. -/
def pttStep (s : PttProduct) (input : ProductInput) : PttProduct × List ProductEffect :=
  let (product, effects) := productStep protocol sha256 deriveSessionHopSeed s.product input
  (⟨product,
    match input with
    | .onPttEvent => (s.product.ptt.map Prod.fst).getD s.pressed
    | _ => s.pressed⟩, effects)

/-- The queued events lead the FSM out of `TX_AUDIO`, whether or not the timer of the resync grace
can be started on the way. -/
def LeadsOut : FsmState → List FsmEvent → Prop
  | state, [] => state ≠ .txAudio
  | state, event :: events =>
      LeadsOut (fsmNext state event) events ∧
        (fsmTaskReaction state event = .armResyncTimer → LeadsOut .menuOta events)

instance decidableLeadsOut : ∀ state events, Decidable (LeadsOut state events)
  | state, [] => inferInstanceAs (Decidable (state ≠ .txAudio))
  | state, event :: events =>
      have := decidableLeadsOut (fsmNext state event) events
      have := decidableLeadsOut .menuOta events
      inferInstanceAs (Decidable (LeadsOut (fsmNext state event) events ∧
        (fsmTaskReaction state event = .armResyncTimer → LeadsOut .menuOta events)))

/-- From where it is heading, and from where it goes when the grace cannot be started, the FSM is
led out of `TX_AUDIO`. -/
def OutOfTx (s : SessionState) : Prop :=
  LeadsOut s.heading s.events ∧ (.armTimer .resync ∈ s.task → LeadsOut .menuOta s.events)

instance (s : SessionState) : Decidable (OutOfTx s) := by unfold OutOfTx; infer_instance

/-- When the button is reported released, the callback has found another state than `MENU_IDLE` and
the event queue has room, or the queued events lead out of `TX_AUDIO` anyway. -/
def ReleaseLeadsOut (s : PttProduct) : ProductInput → Prop
  | .onPttEvent => ∀ report ∈ s.product.ptt, report.1 = false →
      (report.2 ≠ .menuIdle ∧ s.product.events.length < fsmEventQueueDepth) ∨
        OutOfTx s.product.session
  | _ => True

instance (s : PttProduct) (input : ProductInput) : Decidable (ReleaseLeadsOut s input) := by
  unfold ReleaseLeadsOut
  split <;> infer_instance

/-! ## What is posted behind the queued events -/

/-- Only a pressed button leads into `TX_AUDIO`. -/
lemma fsmNext_ne_txAudio {state : FsmState} {event : FsmEvent} (hevent : event ≠ .pttPress)
    (hstate : state ≠ .txAudio) : fsmNext state event ≠ .txAudio := by
  revert hevent hstate
  cases state <;> cases event <;> decide

/-- A released button leads out of `TX_AUDIO` from everywhere. -/
lemma fsmNext_pttRelease_ne_txAudio (state : FsmState) :
    fsmNext state .pttRelease ≠ .txAudio := by
  cases state <;> decide

/-- Events other than a pressed button can be posted behind. -/
lemma LeadsOut.append {state : FsmState} {events : List FsmEvent} {event : FsmEvent}
    (h : LeadsOut state events) (hevent : event ≠ .pttPress) :
    LeadsOut state (events ++ [event]) := by
  induction events generalizing state with
  | nil => exact ⟨fsmNext_ne_txAudio hevent h, fun _ => by decide⟩
  | cons first events ih => exact ⟨ih h.1, fun harm => ih (h.2 harm)⟩

/-- So they can be in a queue that may drop them. -/
lemma LeadsOut.post {state : FsmState} {events : List FsmEvent} {event : FsmEvent}
    (h : LeadsOut state events) (hevent : event ≠ .pttPress) :
    LeadsOut state (post fsmEventQueueDepth events event) := by
  rcases post_eq fsmEventQueueDepth events event with heq | heq
  · rw [heq]
    exact h.append hevent
  · rwa [heq]

/-- A released button that is queued leads out. -/
lemma leadsOut_append_pttRelease (state : FsmState) (events : List FsmEvent) :
    LeadsOut state (events ++ [.pttRelease]) := by
  induction events generalizing state with
  | nil => exact ⟨fsmNext_pttRelease_ne_txAudio state, fun _ => by decide⟩
  | cons first events ih => exact ⟨ih _, fun _ => ih _⟩

section Session

variable {s s' : SessionState}

/-- Posting an event other than a pressed button keeps the FSM led out. -/
lemma OutOfTx.post {event : FsmEvent} (h : OutOfTx s) (hevent : event ≠ .pttPress) :
    OutOfTx (s.post event) :=
  ⟨h.1.post hevent, fun harm => (h.2 harm).post hevent⟩

/-- Only a loss of synchronization puts the start of the grace in hand. -/
lemma mem_task_react (htask : s.task = []) {event : FsmEvent}
    (hmem : .armTimer .resync ∈ (s.react event).task) :
    fsmTaskReaction s.fsm event = .armResyncTimer := by
  unfold SessionState.react at hmem
  cases hreaction : fsmTaskReaction s.fsm event with
  | armResyncTimer => rfl
  | ignore =>
    rw [hreaction] at hmem
    simp [htask] at hmem
  | stopResyncTimer =>
    rw [hreaction] at hmem
    simp [htask] at hmem
  | abortSession =>
    rw [hreaction] at hmem
    simp at hmem
  | transitionTo next =>
    rw [hreaction] at hmem
    unfold SessionState.transitionTo at hmem
    dsimp only at hmem
    by_cases hnext : next = s.fsm
    · rw [if_pos hnext, htask] at hmem
      cases hmem
    · rw [if_neg hnext, htask, List.append_nil] at hmem
      exact absurd hmem (not_mem_sEnterActions next next).2.1

/-- Posting keeps the FSM led out when it adds no pressed button. -/
lemma OutOfTx.post_of_count {event : FsmEvent} (h : OutOfTx s)
    (hcount : (s.post event).events.count .pttPress ≤ s.events.count .pttPress) :
    OutOfTx (s.post event) := by
  by_cases hevent : event = .pttPress
  · have hsame : (s.post event).events = s.events := by
      rcases post_eq fsmEventQueueDepth s.events event with heq | heq
      · exfalso
        unfold SessionState.post at hcount
        rw [heq, hevent, List.count_append, List.count_singleton_self] at hcount
        omega
      · exact heq
    unfold OutOfTx SessionState.heading
    rw [hsame]
    exact h
  · exact h.post hevent

/-- An action puts no start of the grace in hand. -/
lemma mem_task_act {action : FsmAction} {done : Bool} (hresync : action ≠ .armTimer .resync)
    (hmem : .armTimer .resync ∈ (s.act done action).task) : .armTimer .resync ∈ s.task := by
  unfold SessionState.act at hmem
  cases action with
  | transitionTo next =>
    unfold SessionState.transitionTo at hmem
    dsimp only at hmem
    by_cases hnext : next = s.fsm
    · rwa [if_pos hnext] at hmem
    · rw [if_neg hnext, List.mem_append] at hmem
      exact hmem.resolve_left (not_mem_sEnterActions next next).2.1
  | bootInit =>
    dsimp only at hmem
    split_ifs at hmem
    · exact hmem
    · simpa using hmem
  | armTimer timer =>
    cases timer with
    | sync => cases done <;> exact hmem
    | resync => exact absurd rfl hresync
  | _ => cases done <;> exact hmem

/-- The start of the grace leaves the FSM where it is heading, or sends it to `MENU_OTA`. -/
lemma outOfTx_armTimer {rest : List FsmAction} (hshape : TaskShape s.fsm s.task) (h : OutOfTx s)
    (htask : s.task = .armTimer .resync :: rest) (done : Bool) :
    OutOfTx ({ s with task := rest }.act done (.armTimer .resync)) := by
  have harm : LeadsOut .menuOta s.events := h.2 (htask ▸ List.mem_cons_self)
  have hnil : rest = [] := TaskShape.of_armTimer (htask ▸ hshape)
  cases done with
  | true =>
    have hheading := heading_act hshape htask (fun _ => rfl)
    refine ⟨hheading ▸ h.1, fun hmem => ?_⟩
    rw [hnil] at hmem
    cases hmem
  | false =>
    refine ⟨?_, fun _ => harm⟩
    have hmem : .transitionTo .menuOta ∈
        ({ s with task := rest }.act false (.armTimer .resync)).task :=
      List.mem_cons_of_mem _ List.mem_cons_self
    have hheading : ({ s with task := rest }.act false (.armTimer .resync)).heading =
        .menuOta := by
      unfold SessionState.heading FhssOtaRadio.heading
      exact if_pos hmem
    rw [hheading]
    exact harm

/-- An action keeps the FSM led out. -/
lemma outOfTx_act {action : FsmAction} {rest : List FsmAction} {done : Bool}
    (hshape : TaskShape s.fsm s.task) (h : OutOfTx s) (htask : s.task = action :: rest) :
    OutOfTx ({ s with task := rest }.act done action) := by
  by_cases hresync : action = .armTimer .resync
  · subst hresync
    exact outOfTx_armTimer hshape h htask done
  have hheading := @heading_act s action rest done hshape htask (fun heq => absurd heq hresync)
  have hmem : .armTimer .resync ∈ ({ s with task := rest }.act done action).task →
      .armTimer .resync ∈ s.task := by
    intro hmem
    rw [htask]
    exact List.mem_cons_of_mem _ (mem_task_act hresync hmem)
  unfold OutOfTx
  rw [hheading]
  rcases @events_act { s with task := rest } action done with heq | ⟨event, hevent, heq⟩
  · rw [heq]
    exact ⟨h.1, fun harm => h.2 (hmem harm)⟩
  · have hpress : event ≠ .pttPress := by
      rcases hevent with rfl | rfl <;> decide
    rw [heq]
    exact ⟨h.1.post hpress, fun harm => (h.2 (hmem harm)).post hpress⟩

/-- A step that posts no pressed button keeps the FSM led out. -/
lemma outOfTx_step {kind : SessionKind} (hshape : TaskShape s.fsm s.task) (h : OutOfTx s)
    (hstep : SessionStep s kind s')
    (hcount : s'.events.count .pttPress ≤ s.events.count .pttPress) : OutOfTx s' := by
  cases hstep with
  | idle => exact h
  | posted event hevent => exact h.post_of_count hcount
  | moved phase hfrom hto => exact h
  | movedPosted phase event hfrom hto hevent =>
    exact OutOfTx.post_of_count (s := { s with consumer := phase }) h hcount
  | opened hphase hclient =>
    exact OutOfTx.post (s := { s with client := .receiving, consumer := .waiting }) h (by decide)
  | finishing fields hphase hclient =>
    exact OutOfTx.post (s := { s with client := .verifying, consumer := .verifying fields }) h
      (by decide)
  | completed fields hphase => exact h
  | failureShown hphase =>
    exact OutOfTx.post (s := { s with consumer := .waiting }) h (by decide)
  | failed hphase hclient =>
    unfold SessionState.fail
    by_cases happlying : s.fsm = .otaApplying
    · rw [if_pos happlying]
      exact h
    · rw [if_neg happlying]
      exact OutOfTx.post (s := { s with client := .error, consumer := .waiting }) h (by decide)
  | taken event rest htask hevents =>
    have hout := h.1
    rw [heading_of_task_eq_nil htask, hevents] at hout
    have hheading := heading_react (s := { s with events := rest }) htask event
    refine ⟨?_, fun harm => ?_⟩
    · rw [hheading, events_react]
      exact hout.1
    · rw [events_react]
      exact hout.2 (mem_task_react (s := { s with events := rest }) htask harm)
  | initFailed rest client htask hclient =>
    have hheading := @heading_act s .initClient rest true hshape htask (fun heq => by cases heq)
    have hbefore : OutOfTx { s with task := rest, client := client } :=
      ⟨(hheading ▸ h.1 :), fun harm => h.2 (htask ▸ List.mem_cons_of_mem _ harm)⟩
    exact hbefore.post (by decide)
  | acted action rest done htask => exact outOfTx_act hshape h htask

end Session

/-! ## Who posts a pressed button -/

/-- The number of pressed buttons in the event queue. -/
def Product.presses (product : Product) : ℕ := product.events.count .pttPress

section Presses

variable {product : Product}

/-- A step that only posts other events adds no pressed button. -/
lemma Posts.presses_le {product' : Product} (h : Posts product product') :
    product'.presses ≤ product.presses := by
  obtain ⟨posted, hpress, hevents⟩ := h.events_eq
  unfold Product.presses
  rw [hevents]
  clear hevents
  generalize product.events = events
  induction posted generalizing events with
  | nil => exact le_rfl
  | cons event posted ih =>
    obtain ⟨hevent, hrest⟩ := not_or.mp (List.mem_cons.not.mp hpress)
    refine (ih hrest (post fsmEventQueueDepth events event)).trans ?_
    rcases post_eq fsmEventQueueDepth events event with heq | heq
    · rw [heq, List.count_append, List.count_singleton, if_neg (by simpa using Ne.symm hevent)]
      exact le_rfl
    · rw [heq]

/-- Another event adds no pressed button. -/
lemma presses_post {event : FsmEvent} (hevent : event ≠ .pttPress) :
    (product.post event).presses ≤ product.presses :=
  (posts_post product hevent).presses_le

/-- Posting `ERROR` adds no pressed button. -/
lemma presses_orError (answer : Product × Bool) :
    (Product.orError answer).presses ≤ answer.1.presses := by
  obtain ⟨product, _ | _⟩ := answer
  · exact presses_post (by decide)
  · exact le_rfl

/-- A transition posts nothing. -/
lemma events_transitionTo (next : FsmState) (hal : FsmTaskHal) :
    (product.transitionTo next hal).events = product.events := by
  unfold Product.transitionTo
  by_cases hnext : next = product.fsm
  · rw [if_pos hnext]
  · rw [if_neg hnext]

/-- Nor does reacting to an event. -/
lemma events_productReact (event : FsmEvent) (hal : FsmTaskHal) :
    (product.react event hal).events = product.events := by
  unfold Product.react
  split
  · rfl
  · exact events_transitionTo _ hal
  · rfl
  · rfl
  · rfl

/-- `fsm_task` posts no pressed button. -/
lemma presses_fsmTask (hal : FsmTaskHal) :
    (product.fsmTask protocol deriveSessionHopSeed hal).1.presses ≤ product.presses := by
  unfold Product.fsmTask
  cases htask : product.task with
  | nil =>
    cases hevents : product.events with
    | nil => exact le_rfl
    | cons event rest =>
      unfold Product.presses
      dsimp only
      rw [events_productReact, hevents]
      exact List.count_le_count_cons
  | cons action rest =>
    dsimp only
    by_cases hblocked : product.blocked action = true
    · rw [if_pos hblocked]
    rw [if_neg hblocked]
    unfold Product.act
    cases action with
    | transitionTo next =>
      unfold Product.presses
      exact le_of_eq (congrArg _ (events_transitionTo next hal))
    | abort => exact (posts_ran _ _).presses_le
    | abortInterrupted =>
      dsimp only
      split_ifs
      · exact (posts_ran _ _).presses_le
      · exact le_rfl
    | armTimer timer =>
      cases timer with
      | sync => exact presses_orError _
      | resync =>
        dsimp only
        split_ifs <;> exact le_rfl
    | startOtaRadio =>
      refine (presses_orError _).trans (le_of_eq ?_)
      have hsession := session_startOtaRadio { product with task := rest } hal
      exact congrArg (fun session => session.events.count .pttPress) hsession
    | bootInit =>
      dsimp only
      split_ifs
      · exact presses_post (by decide)
      · exact le_rfl
    | beginTx => exact presses_orError _
    | startRxAudio => exact presses_orError _
    | initAdapter => exact presses_orError _
    | initClient => exact presses_orError _
    | stopRadioTask => exact le_rfl
    | endOta => exact le_rfl
    | endTx => exact le_rfl

/-- The consumer posts no pressed button. -/
lemma presses_consumerTask (hal : ConsumerTaskHal) :
    (product.consumerTask protocol sha256 deriveSessionHopSeed hal).1.presses ≤
      product.presses := by
  rcases posts_consumerTask protocol sha256 deriveSessionHopSeed product hal with
    hposts | ⟨pending, -, hposts⟩
  · exact hposts.presses_le
  · exact hposts.presses_le

/-- Only the button posts a pressed button. -/
lemma presses_productStep {input : ProductInput} (hinput : input ≠ .onPttEvent) :
    (productStep protocol sha256 deriveSessionHopSeed product input).1.presses ≤
      product.presses := by
  unfold productStep
  cases input with
  | onPttEvent => exact absurd rfl hinput
  | pttEvent pressed =>
    dsimp only
    split_ifs <;> exact le_rfl
  | fsmTask hal => exact presses_fsmTask protocol deriveSessionHopSeed hal
  | consumerTask hal => exact presses_consumerTask protocol sha256 deriveSessionHopSeed hal
  | appMain =>
    dsimp only
    split_ifs
    · exact le_rfl
    · exact presses_post (by decide)
  | timerCommand =>
    dsimp only
    split <;> exact le_rfl
  | timerExpires timer =>
    dsimp only
    split_ifs
    · exact presses_post (by cases timer <;> decide)
    · exact le_rfl
  | menuSelect selected =>
    dsimp only
    split_ifs
    · refine presses_post ?_
      unfold onMenuSelect
      split_ifs
      · decide
      · cases selected <;> decide
    · exact le_rfl
  | rxFrame =>
    dsimp only
    split_ifs
    · exact presses_post (by decide)
    · exact le_rfl
  | rxDone => exact presses_post (by decide)
  | radioPacket packet =>
    dsimp only
    split_ifs <;> exact le_rfl
  | radioError =>
    dsimp only
    split_ifs
    · exact presses_post (by decide)
    · exact le_rfl
  | serviceTurn turn =>
    unfold Product.serviceTurn
    dsimp only
    split_ifs <;> exact le_rfl
  | txError taskEnds =>
    dsimp only
    split_ifs
    · exact presses_post (by decide)
    · exact le_rfl
  | serviceCallback nvs =>
    unfold Product.serviceCallback
    dsimp only
    split
    · exact le_rfl
    · split <;> exact le_rfl
    · exact presses_post (by decide)
    · exact presses_post (by decide)
    · exact presses_post (by split_ifs <;> decide)

end Presses

/-! ## Every run -/

/-- The invariant: what is in hand has its shape, and after a released button the FSM is led out
of `TX_AUDIO`. -/
structure PttInv (s : PttProduct) : Prop where
  configured : s.product.Configured
  shape : TaskShape s.product.fsm s.product.task
  out : s.pressed = false → OutOfTx s.product.session

/-- A step of the product other than the button keeps the FSM led out. -/
lemma outOfTx_productStep {product : Product} {input : ProductInput}
    (hconfigured : product.Configured) (hshape : TaskShape product.fsm product.task)
    (h : OutOfTx product.session) (hinput : input ≠ .onPttEvent) :
    OutOfTx (productStep protocol sha256 deriveSessionHopSeed product input).1.session := by
  obtain ⟨kind, hstep, -⟩ :=
    productStep_session protocol sha256 deriveSessionHopSeed hconfigured input
  exact outOfTx_step hshape h hstep
    (presses_productStep protocol sha256 deriveSessionHopSeed hinput)

/-- A released button that is queued leads the FSM out. -/
lemma outOfTx_pttRelease {product : Product}
    (hroom : product.events.length < fsmEventQueueDepth) :
    OutOfTx (product.post .pttRelease).session := by
  have hevents : (product.post .pttRelease).events = product.events ++ [.pttRelease] :=
    post_of_room hroom .pttRelease
  unfold OutOfTx Product.session
  dsimp only
  rw [hevents]
  exact ⟨leadsOut_append_pttRelease _ _, fun _ => leadsOut_append_pttRelease _ _⟩

/-- After the report of a released button the FSM is led out, if the report is queued or the FSM is
led out anyway. -/
lemma outOfTx_onPttEvent {product : Product} {state : FsmState}
    (hptt : product.ptt = some (false, state))
    (h : (state ≠ .menuIdle ∧ product.events.length < fsmEventQueueDepth) ∨
      OutOfTx product.session) :
    OutOfTx product.onPttEvent.session := by
  unfold Product.onPttEvent
  rw [hptt]
  dsimp only
  unfold FhssOtaRadio.onPttEvent
  by_cases hidle : state = .menuIdle
  · rw [if_pos hidle]
    exact h.resolve_left fun hqueued => hqueued.1 hidle
  · rw [if_neg hidle]
    rcases h with ⟨-, hroom⟩ | hout
    · exact @outOfTx_pttRelease { product with ptt := none } hroom
    · exact hout.post (by decide)

/-- A guarded step keeps the invariant. -/
lemma pttInv_pttStep {s : PttProduct} {input : ProductInput} (h : PttInv s)
    (hok : ReleaseLeadsOut s input) :
    PttInv (pttStep protocol sha256 deriveSessionHopSeed s input).1 := by
  obtain ⟨kind, hstep, -⟩ :=
    productStep_session protocol sha256 deriveSessionHopSeed h.configured input
  refine ⟨configured_productStep protocol sha256 deriveSessionHopSeed h.configured input,
    taskShape_step h.shape hstep, ?_⟩
  intro hreleased
  by_cases hinput : input = .onPttEvent
  · subst hinput
    change (s.product.ptt.map Prod.fst).getD s.pressed = false at hreleased
    change OutOfTx s.product.onPttEvent.session
    cases hptt : s.product.ptt with
    | none =>
      rw [hptt] at hreleased
      unfold Product.onPttEvent
      rw [hptt]
      exact h.out hreleased
    | some report =>
      obtain ⟨pressed, state⟩ := report
      rw [hptt] at hreleased
      obtain rfl : pressed = false := hreleased
      exact outOfTx_onPttEvent hptt (hok _ hptt rfl)
  · have hsame : (pttStep protocol sha256 deriveSessionHopSeed s input).1.pressed = s.pressed := by
      unfold pttStep
      cases input with
      | onPttEvent => exact absurd rfl hinput
      | _ => rfl
    rw [hsame] at hreleased
    exact outOfTx_productStep protocol sha256 deriveSessionHopSeed h.configured h.shape
      (h.out hreleased) hinput

/-- In every run of the product from boot, whatever the interleaving and however long an entry
action takes, in which every released button is queued (it is reported outside of `MENU_IDLE` and
finds room in the event queue) or the queued events lead out of `TX_AUDIO` without it: whenever the
queue is empty, `fsm_task` waits and the button was reported released last, the FSM is not in
`TX_AUDIO`. -/
theorem ptt_released_not_txAudio (store : FhssConfigStore) {inputs : List ProductInput}
    (h : Guarded (pttStep protocol sha256 deriveSessionHopSeed) ReleaseLeadsOut
      ⟨Product.boot store, false⟩ inputs) :
    let s := finalState (pttStep protocol sha256 deriveSessionHopSeed)
      ⟨Product.boot store, false⟩ inputs
    s.product.events = [] → s.product.task = [] → s.pressed = false →
      s.product.fsm ≠ .txAudio := by
  intro s hevents htask hreleased
  have hout : LeadsOut .bootInit [] := by decide
  have hinit : PttInv ⟨Product.boot store, false⟩ :=
    ⟨fun hconsumer => absurd hconsumer Bool.false_ne_true, .inl List.suffix_rfl,
      fun _ => ⟨hout, fun _ => (by decide : LeadsOut .menuOta [])⟩⟩
  have hinv : PttInv s := @invariant_finalState _ _ _
    (pttStep protocol sha256 deriveSessionHopSeed) PttInv ReleaseLeadsOut
    (fun s input hs hok => pttInv_pttStep protocol sha256 deriveSessionHopSeed hs hok) _ hinit
    inputs h
  have hout := (hinv.out hreleased).1
  rw [heading_of_task_eq_nil (s := s.product.session) htask] at hout
  change LeadsOut s.product.fsm s.product.events at hout
  rw [hevents] at hout
  exact hout

/-- Such a run ends outside of `TX_AUDIO`. -/
theorem ptt_released_not_txAudio_sample :
    (finalState (pttStep plainProtocol sampleSha256 sampleDerive)
      ⟨Product.boot sampleStore, false⟩ samplePtt).product.fsm ≠ .txAudio :=
  ptt_released_not_txAudio plainProtocol sampleSha256 sampleDerive sampleStore
    (by decide +kernel) (by decide +kernel) (by decide +kernel) (by decide +kernel)

/-- While `fsm_task` is busy entering `TX_AUDIO`, sixteen voice frames that are still received fill
the event queue; the button is released, and `fsm_task` works the queue off. -/
def lostRelease : List ProductInput :=
  sampleBoot ++ samplePttEvent true ++ [sampleFsmTask] ++ List.replicate 16 .rxFrame ++
    samplePttEvent false ++ List.replicate 17 sampleFsmTask

/-- `MENU_IDLE` and then `MENU_COMM` are selected and the button is pressed before `fsm_task` takes
the first selection; the button is released in `MENU_IDLE`, and `fsm_task` works the queue off. -/
def unpostedRelease : List ProductInput :=
  sampleBoot ++ [.menuSelect .idle, .menuSelect .comm] ++ samplePttEvent true ++ [sampleFsmTask] ++
    samplePttEvent false ++ List.replicate 9 sampleFsmTask

/-- The button has been released, everything is worked off, and the product goes on transmitting. -/
def KeepsTransmitting (s : PttProduct) : Prop :=
  s.product.events = [] ∧ s.product.task = [] ∧ s.product.ptt = none ∧ s.pressed = false ∧
    s.product.fsm = .txAudio ∧ s.product.adapter.txActive = true

instance (s : PttProduct) : Decidable (KeepsTransmitting s) := by
  unfold KeepsTransmitting
  infer_instance

/-- It does when the release is lost, and when it is not posted in `MENU_IDLE`. -/
theorem ptt_lost_release_keeps_txAudio :
    KeepsTransmitting (finalState (pttStep plainProtocol sampleSha256 sampleDerive)
      ⟨Product.boot sampleStore, false⟩ lostRelease) ∧
    KeepsTransmitting (finalState (pttStep plainProtocol sampleSha256 sampleDerive)
      ⟨Product.boot sampleStore, false⟩ unpostedRelease) :=
  ⟨by decide +kernel, by decide +kernel⟩

end FhssOtaRadio
