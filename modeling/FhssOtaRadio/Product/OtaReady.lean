import FhssOtaRadio.Product.SessionAgreement

/-!
# A client that waits for OTA is idle

A session that fails leaves the client in `ERROR`, from where only an abort brings it back to
`IDLE`; a verified one leaves it in `READY_TO_REBOOT` for good.  In the OTA modes the consumer
accepts a START, so that the client must be idle there.  `CanAbort` says that an error event is
queued which makes the FSM enter `ERROR` and abort; every failure is matched by one, unless the
FSM is in `OTA_APPLYING`, where the failure is only shown.
-/

namespace FhssOtaRadio

open EventQueue Machine

/-- An error event is queued that the FSM will take outside `ERROR`. -/
def CanAbort (state : FsmState) (events : List FsmEvent) : Prop :=
  Leads fsmNext (fun _ => True)
    (fun state events => state ≠ .error ∧ events.head? = some .error) state events

instance (state : FsmState) (events : List FsmEvent) : Decidable (CanAbort state events) :=
  inferInstanceAs (Decidable (Leads _ _ _ _ _))

section Leads

variable {state : FsmState} {event : FsmEvent} {events : List FsmEvent}

/-- Whatever is posted, the error stays queued. -/
lemma CanAbort.post (h : CanAbort state events) (event : FsmEvent) :
    CanAbort state (post fsmEventQueueDepth events event) := by
  refine Leads.post fsmEventQueueDepth h fun state events hgoal => ⟨hgoal.1, ?_⟩
  rw [List.head?_append, hgoal.2]
  rfl

/-- The FSM takes the error, or another event before it. -/
lemma CanAbort.take (h : CanAbort state (event :: events)) :
    (state ≠ .error ∧ event = .error) ∨ CanAbort (fsmNext state event) events := by
  rcases h with ⟨hstate, hhead⟩ | ⟨-, hrest⟩
  · exact .inl ⟨hstate, by simpa using hhead⟩
  · exact .inr hrest

end Leads

/-! ## The invariant -/

/-- The client is still to be set up. -/
def SessionState.booting (s : SessionState) : Prop :=
  s.bootInitDone = false ∨ .initClient ∈ s.task

/-- A client that is neither idle nor receiving is matched by what sets it up, by a verification
that goes on, by a queued error, or by an FSM that does not come back to the OTA modes. -/
structure ReadyInv (s : SessionState) : Prop where
  shape : TaskShape s.fsm s.task
  first : s.bootInitDone = false → s.task = [.bootInit]
  uninitialized : s.client = .uninitialized → s.booting
  verifying : s.client = .verifying → s.consumer.isOrdinary = false
  failed : s.client = .error → s.aborting ∨ CanAbort s.heading s.events
  ready : s.client = .readyToReboot → CanApply s.heading s.events
  consumer : s.consumer ≠ .showingFailure

/-- What matches a step of a kind: the client can be set up, a session fails only when the error
can be posted and taken, an image is found good only when the FSM applies it, and the FSM does not
leave it. -/
def Recovers (s : SessionState) : SessionKind → Prop
  | .failed => s.fsm ≠ .otaApplying ∧ s.events.length < fsmEventQueueDepth ∧
      CanAbort s.heading (s.events ++ [.error])
  | .completed => CanApply s.heading s.events
  | .taken event => s.client = .readyToReboot →
      (s.fsm = .otaApplying → event ≠ .syncLost) ∧ (s.fsm = .error → event ≠ .retry)
  | .acted action done => (action = .initClient → done = true) ∧
      (s.client = .readyToReboot → action = .armTimer .resync → done = true)
  | _ => True

section Step

variable {s s' : SessionState} {event : FsmEvent}

/-- Posting an event that no session posts. -/
lemma ReadyInv.post (h : ReadyInv s) (hevent : event.isOfSession = false) :
    ReadyInv (s.post event) where
  shape := h.shape
  first := h.first
  uninitialized := h.uninitialized
  verifying := h.verifying
  failed hclient := (h.failed hclient).imp id fun hleads => hleads.post event
  ready hclient := (h.ready hclient).post hevent
  consumer := h.consumer

/-- A consumer that is not verifying does not begin to. -/
lemma ReadyInv.moved (h : ReadyInv s) {phase : ConsumerPhase}
    (hfrom : s.consumer.isOrdinary = true) (hto : phase.isOrdinary = true) :
    ReadyInv { s with consumer := phase } where
  shape := h.shape
  first := h.first
  uninitialized := h.uninitialized
  verifying hclient := by
    have hnot := h.verifying hclient
    rw [hfrom] at hnot
    cases hnot
  failed := h.failed
  ready := h.ready
  consumer := by
    rintro hphase
    rw [show phase = .showingFailure from hphase] at hto
    cases hto

/-- An error that the FSM takes outside `ERROR` aborts the session. -/
lemma aborting_react_error (hfsm : s.fsm ≠ .error) : (s.react .error).aborting := by
  have hreaction : fsmTaskReaction s.fsm .error = .transitionTo .error := if_pos ⟨rfl, hfsm⟩
  unfold SessionState.react SessionState.transitionTo
  rw [hreaction]
  dsimp only
  rw [if_neg hfsm.symm]
  exact .inr (List.mem_append_left _ (by decide))

/-- `fsm_task` takes an event. -/
lemma readyInv_taken {rest : List FsmEvent} (h : ReadyInv s) (htask : s.task = [])
    (hevents : s.events = event :: rest) (hrecovers : Recovers s (.taken event)) :
    ReadyInv ({ s with events := rest }.react event) := by
  obtain ⟨hclient, hconsumer, hboot⟩ := @frame_react { s with events := rest } event
  have hheading := heading_react (s := { s with events := rest }) htask event
  have hbefore := heading_of_task_eq_nil htask
  have hqueue := @events_react { s with events := rest } event
  constructor
  · exact taskShape_step h.shape (.taken s event rest htask hevents)
  · intro hfirst
    have hbefore' := h.first (hboot ▸ hfirst)
    rw [htask] at hbefore'
    cases hbefore'
  · intro huninit
    rw [hclient] at huninit
    rcases h.uninitialized huninit with hfirst | hmem
    · have hbefore' := h.first hfirst
      rw [htask] at hbefore'
      cases hbefore'
    · rw [htask] at hmem
      cases hmem
  · intro hverifying
    rw [hclient] at hverifying
    rw [hconsumer]
    exact h.verifying hverifying
  · intro hfailed
    rw [hclient] at hfailed
    rcases h.failed hfailed with haborting | hleads
    · unfold SessionState.aborting at haborting
      simp [htask] at haborting
    · rw [hbefore, hevents] at hleads
      rcases hleads.take with ⟨hfsm, rfl⟩ | hnext
      · exact .inl (aborting_react_error (s := { s with events := rest }) hfsm)
      · refine .inr ?_
        rw [hheading, hqueue]
        exact hnext
  · intro hready
    rw [hclient] at hready
    have hleads := h.ready hready
    rw [hbefore, hevents] at hleads
    obtain ⟨hlost, hretry⟩ := hrecovers hready
    rw [hheading, hqueue]
    exact hleads.take hlost hretry
  · rw [hconsumer]
    exact h.consumer

/-- Until the client is set up, an action other than its initialization leaves it to be set up. -/
lemma booting_act {action : FsmAction} {rest : List FsmAction} {done : Bool}
    (hfirst : s.bootInitDone = false → s.task = [.bootInit]) (htask : s.task = action :: rest)
    (hinit : action ≠ .initClient) (h : s.booting) :
    ({ s with task := rest }.act done action).booting := by
  rcases h with hnew | hmem
  · have hbefore := htask.symm.trans (hfirst hnew)
    obtain ⟨rfl, -⟩ := List.cons.inj hbefore
    unfold SessionState.act
    dsimp only
    rw [hnew]
    exact .inr (List.mem_cons_of_mem _ List.mem_cons_self)
  · rw [htask, List.mem_cons, or_iff_right hinit.symm] at hmem
    exact .inr (mem_task_act_of_mem (s := { s with task := rest }) done hmem)

/-- `fsm_task` performs an action. -/
lemma readyInv_acted {action : FsmAction} {rest : List FsmAction} {done : Bool} (h : ReadyInv s)
    (htask : s.task = action :: rest) (hrecovers : Recovers s (.acted action done)) :
    ReadyInv ({ s with task := rest }.act done action) := by
  obtain ⟨hinit, harm⟩ := hrecovers
  obtain ⟨hkeeps, -⟩ := @boot_act { s with task := rest } action done
  constructor
  · exact taskShape_step h.shape (.acted s action rest done htask)
  · intro hfirst
    have hbefore : s.bootInitDone = false :=
      Bool.eq_false_iff.mpr fun hdone => by
        rw [hkeeps hdone] at hfirst
        cases hfirst
    obtain ⟨rfl, -⟩ := List.cons.inj (htask.symm.trans (h.first hbefore))
    unfold SessionState.act at hfirst
    dsimp only at hfirst
    rw [hbefore] at hfirst
    cases hfirst
  · intro huninit
    obtain ⟨hbefore, -⟩ := client_of_act (by decide) huninit
    refine booting_act h.first htask ?_ (h.uninitialized hbefore)
    rintro rfl
    rw [hinit rfl] at huninit
    cases huninit
  · intro hverifying
    rw [consumer_act]
    exact h.verifying (client_of_act (by decide) hverifying).1
  · intro hfailed
    obtain ⟨hbefore, hnot⟩ := client_of_act (by decide) hfailed
    exact aborting_or_act h.shape htask (hnot (.inr rfl)) (h.failed hbefore)
      fun hleads event _ => hleads.post event
  · intro hready
    obtain ⟨hbefore, -⟩ := client_of_act (by decide) hready
    have hleads := h.ready hbefore
    rw [heading_act h.shape htask (harm hbefore)]
    exact @events_act_of { s with task := rest } (CanApply s.heading) action done hleads
      fun event hevent => hleads.post hevent
  · rw [consumer_act]
    exact h.consumer

/-- A client that is receiving or verifying is not among those to be matched. -/
lemma ReadyInv.of_open {events : List FsmEvent} {client : OtaClientState} {phase : ConsumerPhase}
    (h : ReadyInv s) (hopen : client = .receiving ∨
      (client = .verifying ∧ phase.isOrdinary = false))
    (hphase : phase ≠ .showingFailure) :
    ReadyInv { s with events := events, client := client, consumer := phase } := by
  constructor
  · exact h.shape
  · exact h.first
  · rintro rfl
    simp at hopen
  · rintro rfl
    exact (hopen.resolve_left (by decide)).2
  · rintro rfl
    simp at hopen
  · rintro rfl
    simp at hopen
  · exact hphase

/-- Every step keeps the invariant when it is matched. -/
lemma readyInv_step {kind : SessionKind} (h : ReadyInv s) (hstep : SessionStep s kind s')
    (hrecovers : Recovers s kind) : ReadyInv s' := by
  cases hstep with
  | idle => exact h
  | posted event hevent => exact h.post hevent
  | moved phase hfrom hto => exact h.moved hfrom hto
  | movedPosted phase event hfrom hto hevent => exact (h.moved hfrom hto).post hevent
  | taken event rest htask hevents => exact readyInv_taken h htask hevents hrecovers
  | acted action rest done htask => exact readyInv_acted h htask hrecovers
  | initFailed rest client htask hclient => exact absurd (hrecovers.1 rfl) Bool.false_ne_true
  | opened hphase hclient => exact h.of_open (.inl rfl) (by simp)
  | finishing fields hphase hclient => exact h.of_open (.inr ⟨rfl, rfl⟩) (by simp)
  | failureShown hphase => exact absurd hphase h.consumer
  | failed hphase hclient =>
    obtain ⟨happlying, hroom, hleads⟩ := hrecovers
    unfold SessionState.fail
    rw [if_neg happlying]
    constructor
    · exact h.shape
    · exact h.first
    · rintro ⟨⟩
    · rintro ⟨⟩
    · intro _
      right
      unfold SessionState.post
      dsimp only
      rw [post_of_room hroom]
      exact hleads
    · rintro ⟨⟩
    · rintro ⟨⟩
  | completed fields hphase =>
    constructor
    · exact h.shape
    · exact h.first
    · rintro ⟨⟩
    · rintro ⟨⟩
    · rintro ⟨⟩
    · intro _
      exact hrecovers
    · rintro ⟨⟩

/-- The client is set up in `BOOT_INIT` only. -/
lemma TaskShape.of_boot {state : FsmState} {task : List FsmAction} (h : TaskShape state task)
    (hmem : .bootInit ∈ task ∨ .initClient ∈ task) : state = .bootInit := by
  rcases h with h | ⟨hfsm, -⟩ | ⟨-, h | h⟩
  · rcases hmem with hmem | hmem
    · exact mem_sEnterActions.1 (h.subset hmem)
    · exact absurd (h.subset hmem) (not_mem_sEnterActions state state).2.2.2
  · exact hfsm
  · rw [h] at hmem
    simp at hmem
  · have hin : ∀ a ∈ task, a = .abort ∨ a = .transitionTo .menuOta :=
      fun a ha => by simpa using h.subset ha
    rcases hmem with hmem | hmem
    · simpa using hin _ hmem
    · simpa using hin _ hmem

/-- In the OTA modes the client has been set up. -/
lemma ReadyInv.not_booting (h : ReadyInv s) (hmode : fsmOtaModeCallback s.fsm = true) :
    ¬ s.booting := by
  intro hbooting
  have hboot : s.fsm = .bootInit := by
    rcases hbooting with hfirst | hmem
    · exact h.shape.of_boot (.inl (h.first hfirst ▸ List.mem_cons_self))
    · exact h.shape.of_boot (.inr hmem)
  rw [hboot] at hmode
  cases hmode

/-- In the OTA modes, with the events processed and the consumer waiting, the client is idle unless
it receives. -/
lemma ReadyInv.idle (h : ReadyInv s) (hevents : s.events = []) (hconsumer : s.consumer = .waiting)
    (hmode : fsmOtaModeCallback s.fsm = true) (hclient : s.client ≠ .receiving) :
    s.client = .idle := by
  have hheading : s.heading = s.fsm := by
    rcases h.shape.heading_eq_or with heq | heq
    · exact heq
    · rw [heq] at hmode
      cases hmode
  cases hstate : s.client with
  | idle => rfl
  | receiving => exact absurd hstate hclient
  | uninitialized =>
    exact absurd (h.uninitialized hstate) (h.not_booting hmode)
  | verifying =>
    have hphase := h.verifying hstate
    rw [hconsumer] at hphase
    cases hphase
  | error =>
    rcases h.failed hstate with haborting | hleads
    · rcases h.shape.of_aborting haborting with hfsm | hfsm
      · rw [hfsm] at hmode
        cases hmode
      · rw [hfsm] at hmode
        cases hmode
    · rw [hevents] at hleads
      cases hleads.2
  | readyToReboot =>
    have hleads := h.ready hstate
    rw [hheading, hevents] at hleads
    rcases hleads with hfsm | ⟨hfsm, -⟩
    · rw [hfsm] at hmode
      cases hmode
    · rw [hfsm] at hmode
      cases hmode

end Step

/-! ## The product -/

section Product

variable (protocol : OtaProtocol) (sha256 : Bytes → Sha256Digest)
  (deriveSessionHopSeed : UInt32 → UInt32)

/-- The client is set up at the first boot. -/
def Product.setsUpClient (product : Product) : ProductInput → Bool
  | .fsmTask hal =>
      product.task.head? != some .initClient || (initClient protocol product.client hal).2
  | _ => true

/-- Every session that ends is matched by what brings the client back, or keeps the FSM away from
the OTA modes: the client can be set up at boot; a session fails outside `OTA_APPLYING`, with room
for the error event, which the FSM takes outside `ERROR`; an image is found good when the FSM
comes to apply it; and a good image is not left. -/
def Product.FsmRecovers (product : Product) (input : ProductInput) : Prop :=
  product.setsUpClient protocol input = true ∧
    (product.failsSession protocol sha256 input = true → product.fsm ≠ .otaApplying ∧
      product.events.length < fsmEventQueueDepth ∧
      CanAbort product.session.heading (product.events ++ [.error])) ∧
    (product.completesSession sha256 input = true →
      CanApply product.session.heading product.events) ∧
    (product.client.state = .readyToReboot → product.leavesImage input = false)

instance (product : Product) : DecidablePred (product.FsmRecovers protocol sha256) :=
  fun input => by
    unfold Product.FsmRecovers
    infer_instance

/-- The client has been set up with the settings of the product. -/
def Product.SetUp (product : Product) : Prop :=
  ¬ product.session.booting →
    product.client.consumerTask = true ∧ product.client.config.otaModeCallback = true

/-- The invariant of the product. -/
structure Product.ReadyInv (product : Product) : Prop where
  configured : product.Configured
  session : FhssOtaRadio.ReadyInv product.session
  setUp : product.SetUp

variable {product : Product} {input : ProductInput}

/-- A matched step is one of the session that is matched. -/
lemma recovers_of_fsmRecovers {kind : SessionKind} {s' : SessionState}
    (hrecovers : product.FsmRecovers protocol sha256 input)
    (hstep : SessionStep product.session kind s')
    (hshown : kind.Shown protocol product input
      (productStep protocol sha256 deriveSessionHopSeed product input).2) :
    Recovers product.session kind := by
  obtain ⟨hsets, hfails, hcompletes, hkeeps⟩ := hrecovers
  have hinit : ∀ {hal rest}, product.task = .initClient :: rest → input = .fsmTask hal →
      (initClient protocol product.client hal).2 = true := by
    rintro hal rest htask rfl
    unfold Product.setsUpClient at hsets
    rw [htask] at hsets
    simpa using hsets
  cases hstep with
  | failed hphase hclient =>
    exact hfails (productStep_raises protocol sha256 deriveSessionHopSeed hshown)
  | completed fields hphase =>
    exact hcompletes (productStep_raises protocol sha256 deriveSessionHopSeed hshown)
  | taken event rest htask hevents =>
    intro hready
    obtain ⟨hal, rfl⟩ := hshown
    exact keepsImage_taken (hkeeps hready) htask hevents
  | acted action rest done htask =>
    obtain ⟨hal, rfl, hset, harm⟩ := hshown
    constructor
    · rintro rfl
      exact (hset rfl).symm.trans (hinit htask rfl)
    · rintro hready rfl
      exact (harm rfl).symm.trans (keepsImage_arm (hkeeps hready) htask)
  | initFailed rest client htask hclient =>
    obtain ⟨hal, rfl, hset, -⟩ := hshown
    have hfailed := hset rfl
    rw [hinit htask rfl] at hfailed
    cases hfailed
  | _ => trivial

/-- While the client is to be set up, it stays so until it is. -/
lemma booting_step {s s' : SessionState} {kind : SessionKind} (hready : ReadyInv s)
    (hstep : SessionStep s kind s') (h : s.booting) :
    s'.booting ∨
      ∃ done rest, kind = .acted .initClient done ∧ s.task = .initClient :: rest := by
  cases hstep with
  | taken event rest htask hevents =>
    left
    rcases h with hfirst | hmem
    · exact .inl ((@frame_react { s with events := rest } event).2.2.trans hfirst)
    · rw [htask] at hmem
      cases hmem
  | acted action rest done htask =>
    by_cases hinit : action = .initClient
    · exact .inr ⟨done, rest, by rw [hinit], by rw [htask, hinit]⟩
    · exact .inl (booting_act hready.first htask hinit h)
  | initFailed rest client htask hclient => exact .inr ⟨false, rest, rfl, htask⟩
  | failed hphase hclient =>
    left
    unfold SessionState.fail
    split_ifs
    · exact h
    · exact h
  | _ => exact .inl h

/-- The client that `fsm_task` sets up. -/
lemma client_productStep_initClient {rest : List FsmAction} {hal : FsmTaskHal}
    (htask : product.task = .initClient :: rest) :
    (productStep protocol sha256 deriveSessionHopSeed product (.fsmTask hal)).1.client =
      (initClient protocol product.client hal).1 := by
  unfold productStep Product.fsmTask
  rw [htask]
  exact client_orError _

/-- A matched step keeps the invariant. -/
lemma readyInv_productStep (h : product.ReadyInv)
    (hrecovers : product.FsmRecovers protocol sha256 input) :
    (productStep protocol sha256 deriveSessionHopSeed product input).1.ReadyInv := by
  obtain ⟨kind, hstep, hshown⟩ :=
    productStep_session protocol sha256 deriveSessionHopSeed h.configured input
  have hmatched :=
    recovers_of_fsmRecovers protocol sha256 deriveSessionHopSeed hrecovers hstep hshown
  refine ⟨configured_productStep protocol sha256 deriveSessionHopSeed h.configured input,
    readyInv_step h.session hstep hmatched, fun hbooted => ?_⟩
  by_cases hbooting : product.session.booting
  · rcases booting_step h.session hstep hbooting with
      hbooting' | ⟨done, rest, rfl, htask⟩
    · exact absurd hbooting' hbooted
    · have hdone : done = true := hmatched.1 rfl
      obtain ⟨hal, rfl, hset, -⟩ := hshown
      rw [client_productStep_initClient protocol sha256 deriveSessionHopSeed htask]
      have hready := (hset rfl).trans hdone
      rcases initClient_cases protocol product.client hal with
        ⟨client', hinit, -, htask', hconfig⟩ | ⟨client', hinit, -⟩
      · rw [hinit]
        exact ⟨htask', hconfig ▸ rfl⟩
      · rw [hinit] at hready
        cases hready
  · have hsetUp := h.setUp hbooting
    rcases sameSettings_productStep protocol sha256 deriveSessionHopSeed h.configured input with
      hsettings | ⟨hal, rest, -, htask, -⟩
    · rw [hsettings.consumerTask_eq, hsettings.config_eq]
      exact hsetUp
    · have hmem : .initClient ∈ product.task := htask ▸ List.mem_cons_self
      exact absurd (.inr hmem) hbooting

/-- The invariant holds at boot. -/
lemma readyInv_boot (store : FhssConfigStore) : (Product.boot store).ReadyInv where
  configured := fun hconsumer => absurd hconsumer Bool.false_ne_true
  session :=
    { shape := .inl List.suffix_rfl
      first := fun _ => rfl
      uninitialized := fun _ => .inl rfl
      verifying := fun hstate => by cases hstate
      failed := fun hstate => by cases hstate
      ready := fun hstate => by cases hstate
      consumer := fun hphase => by cases hphase }
  setUp := fun hbooted => absurd (.inl rfl) hbooted

/-- In every run of the product from boot whose steps are matched, whatever else fails and in any
order: when the event queue is drained, the consumer waits, the FSM is in an OTA mode and the
client does not receive, the client is idle, and a START for the device passes the checks of the
consumer, so that it is not refused as busy. -/
theorem ota_ready_is_idle (store : FhssConfigStore) {inputs : List ProductInput}
    (h : Guarded (productStep protocol sha256 deriveSessionHopSeed)
      (fun product input => product.FsmRecovers protocol sha256 input) (Product.boot store)
      inputs) :
    let product := finalState (productStep protocol sha256 deriveSessionHopSeed)
      (Product.boot store) inputs
    product.events = [] → product.consumer = .waiting →
      fsmOtaModeCallback product.fsm = true → product.client.state ≠ .receiving →
      product.client.state = .idle ∧
        ∀ packet fields, protocol.decodeStart packet = some fields →
          fields.targetDeviceId = product.client.config.deviceId →
          otaConsumerStartChecks protocol product.client packet
            (fsmOtaModeCallback product.fsm) = .inr fields := by
  intro product hevents hconsumer hmode hclient
  have hinv : product.ReadyInv := @invariant_finalState _ _ _
    (productStep protocol sha256 deriveSessionHopSeed) Product.ReadyInv
    (fun product input => product.FsmRecovers protocol sha256 input)
    (fun _ _ hs hok => readyInv_productStep protocol sha256 deriveSessionHopSeed hs hok) _
    (readyInv_boot store) inputs h
  have hidle : product.client.state = .idle :=
    hinv.session.idle hevents hconsumer hmode hclient
  refine ⟨hidle, fun packet fields hdecode htarget => ?_⟩
  obtain ⟨-, hset⟩ := hinv.setUp (hinv.session.not_booting hmode)
  have hotaMode : otaConsumerIsOtaMode product.client (fsmOtaModeCallback product.fsm) = true := by
    unfold otaConsumerIsOtaMode
    rw [hset, hmode]
    rfl
  unfold otaConsumerStartChecks
  rw [hdecode]
  simp [htarget, hclient, hotaMode]

end Product

/-- The flash cannot be written; the user retries from `ERROR` and selects OTA again. -/
def sampleFailedWrite : List ProductInput :=
  sampleHoppingSession ++ [.radioPacket sampleData, .consumerTask { ConsumerTaskHal.succeeding with
    ota := { OtaHal.succeeding 0x100000 with otaWrite := .fail } }] ++
    List.replicate 5 sampleFsmTask ++ [.menuSelect .ota] ++ List.replicate 6 sampleFsmTask ++
    [.menuSelect .ota] ++ List.replicate 4 sampleFsmTask

/-- After a failed write and a retry the client is idle again. -/
theorem ota_ready_is_idle_after_failed_write :
    let product := finalState (productStep plainProtocol sampleSha256 sampleDerive)
      (Product.boot sampleStore) sampleFailedWrite
    product.fsm = .menuOta ∧ product.client.state = .idle := by
  have hidle := ota_ready_is_idle plainProtocol sampleSha256 sampleDerive sampleStore
    (show Guarded _ _ _ sampleFailedWrite by decide +kernel) (by decide +kernel)
    (by decide +kernel) (by decide +kernel) (by decide +kernel)
  exact ⟨by decide +kernel, hidle.1⟩

/-- A digest that differs from the one announced for the sample image. -/
def sampleOtherSha256 (_ : Bytes) : Sha256Digest := Vector.replicate 32 1

/-- The verification of the image fails in `OTA_APPLYING`.  The failure is shown, the FSM returns
to `MENU_OTA`, and nothing aborts the session: with every event processed and the consumer waiting
in an OTA mode the client stays in `ERROR`, and the next START is refused as busy. -/
theorem ota_ready_stays_in_error :
    let product := finalState (productStep plainProtocol sampleOtherSha256 sampleDerive)
      (Product.boot sampleStore)
      (sampleHoppingSession ++ sampleFinish ++ List.replicate 2 sampleConsumerTask ++
        List.replicate 5 sampleFsmTask)
    product.events = [] ∧ product.task = [] ∧ product.consumer = .waiting ∧
      product.fsm = .menuOta ∧ product.client.state = .error ∧
      (outputs (productStep plainProtocol sampleOtherSha256 sampleDerive) product
        [.radioPacket sampleStart, sampleConsumerTask, sampleConsumerTask]).flatten =
        [.send (.response .nack ⟨7, .start, plainProtocol.controlSequence, .busy⟩
          (5 :: (u32LeBytes 7 ++ u32LeBytes plainProtocol.controlSequence)))] := by
  decide +kernel

end FhssOtaRadio
