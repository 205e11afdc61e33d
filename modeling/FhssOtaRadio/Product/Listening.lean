import FhssOtaRadio.Product.Frame

/-!
# A listening radio in `MENU_COMM` (`main/fsm.c`, `fhss_audio_adapter.c`, `fhss_service.c`)

Entering a talkspurt or OTA takes the radio away from the RX task, and leaving them gives it back;
the flags of the adapter say which of the two has it.  A role change ends the running task before
it knows whether it will succeed, and the clean-up is done only under the flags that a failed
operation never set.
-/

namespace FhssOtaRadio

open EventQueue Machine

/-! ## Role changes -/

/-- A role change that will succeed: the task runs in that role already, or the radio, the
controller and the operating system go along. -/
def RoleChangeSucceeds (service : FhssService) (role : FhssServiceRole) (hal : FhssRoleHal) :
    Prop :=
  (service.config.role = role ∧ service.taskRunning = true) ∨
    (hal.recovered = true ∧
      (fhssSyncControllerInit service.config.controllerConfig).isOk = true ∧
      hal.taskCreated = true)

instance (service : FhssService) (role : FhssServiceRole) (hal : FhssRoleHal) :
    Decidable (RoleChangeSucceeds service role hal) := by
  unfold RoleChangeSucceeds
  infer_instance

/-- The task of the service runs in a role. -/
structure RunsAs (service : FhssService) (role : FhssServiceRole) : Prop where
  initialized : service.initialized = true
  role_eq : service.config.role = role
  running : service.taskRunning = true

/-- After such a change the task runs in the role. -/
lemma RoleChangeSucceeds.runsAs {service : FhssService} {role : FhssServiceRole}
    {hal : FhssRoleHal} (h : RoleChangeSucceeds service role hal)
    (hinit : service.initialized = true) :
    ∃ service', fhssServiceSetRole service role hal = (service', true) ∧ RunsAs service' role := by
  unfold fhssServiceSetRole
  rw [if_neg (by simp [hinit])]
  by_cases hsame : service.config.role = role ∧ service.taskRunning = true
  · rw [if_pos hsame]
    exact ⟨service, rfl, hinit, hsame.1, hsame.2⟩
  rw [if_neg hsame]
  obtain ⟨hrecovered, haccepted, hcreated⟩ := h.resolve_left hsame
  dsimp only
  rw [if_neg (by simp [hrecovered])]
  rcases resetController_cases { service with taskRunning := false, fsm := fhssFsmInit } with
    ⟨hreset, hrejected⟩ | ⟨controller, hbuilt, hreset⟩
  · exfalso
    apply hrejected
    unfold FhssServiceConfig.Accepted
    cases hcontroller : fhssSyncControllerInit service.config.controllerConfig with
    | error status =>
      rw [hcontroller] at haccepted
      cases haccepted
    | ok controller => exact ⟨controller, rfl⟩
  rw [hreset]
  unfold fhssServiceStart
  dsimp only
  rw [if_neg (by simp [hinit]), hcreated]
  exact ⟨_, rfl, hinit, rfl, rfl⟩

/-- The end of OTA succeeds, if there is an OTA to end. -/
def EndOtaSucceeds (adapter : FhssAudioAdapter) (hal : OtaRoleHal) : Prop :=
  adapter.otaActive = true →
    hal.mutexTaken = true ∧ RoleChangeSucceeds adapter.service .rx hal.role

instance (adapter : FhssAudioAdapter) (hal : OtaRoleHal) :
    Decidable (EndOtaSucceeds adapter hal) := by
  unfold EndOtaSucceeds
  infer_instance

/-- If OTA cannot begin, the way back succeeds. -/
def BeginOtaRecovers (adapter : FhssAudioAdapter) (hal : BeginOtaHal) : Prop :=
  hal.mutexTaken = true → (hal.recovered && hal.channelSet && hal.receiveStarted) = false →
    RoleChangeSucceeds (fhssServicePause adapter.service hal.recovered).1 .rx hal.fallback

instance (adapter : FhssAudioAdapter) (hal : BeginOtaHal) :
    Decidable (BeginOtaRecovers adapter hal) := by
  unfold BeginOtaRecovers
  infer_instance

variable (protocol : OtaProtocol) (sha256 : Bytes → Sha256Digest)
  (deriveSessionHopSeed : UInt32 → UInt32)

/-- The role changes of an action of `fsm_task` succeed, and the boot does. -/
def ActionSucceeds (product : Product) (hal : FsmTaskHal) : FsmAction → Prop
  | .initAdapter => (fhssAudioAdapterInit protocol product.store hal.adapterInit).2 = true
  | .endOta => EndOtaSucceeds product.adapter hal.endOta
  | .endTx => product.adapter.txActive = true →
      RoleChangeSucceeds product.adapter.service .rx hal.txRole
  | .beginTx => product.adapter.isListening = true →
      RoleChangeSucceeds { product.adapter.service with
        config := { product.adapter.service.config with
          publicSeed := hal.random, hopSeed := deriveSessionHopSeed hal.random } } .tx hal.txRole
  | .startOtaRadio => product.radioTask = false → product.adapter.isListening = true →
      BeginOtaRecovers product.adapter hal.beginOta ∧
        (hal.taskCreated = false →
          EndOtaSucceeds (fhssAudioAdapterBeginOta product.adapter hal.beginOta).1 hal.endOta)
  | _ => True

/-- In a step of `fsm_task` the role changes succeed. -/
def RoleChangesSucceed (product : Product) : ProductInput → Prop
  | .fsmTask hal =>
      match product.task with
      | [] => True
      | action :: _ => ActionSucceeds protocol deriveSessionHopSeed product hal action
  | _ => True

instance (product : Product) (hal : FsmTaskHal) (action : FsmAction) :
    Decidable (ActionSucceeds protocol deriveSessionHopSeed product hal action) := by
  unfold ActionSucceeds
  cases action <;> infer_instance

instance (product : Product) (input : ProductInput) :
    Decidable (RoleChangesSucceed protocol deriveSessionHopSeed product input) := by
  unfold RoleChangesSucceed
  split
  · split <;> infer_instance
  · infer_instance

/-! ## Who has the radio -/

/-- The states in which OTA may have the radio. -/
def FsmState.mayOta (state : FsmState) : Bool :=
  fsmOtaModeCallback state || state == .otaReceiving || state == .otaApplying

/-- The flags of the adapter fit the FSM: a talkspurt or OTA goes on in its states or is about to
be ended; and when neither goes on, the task of the service receives. -/
structure RadioFits (state : FsmState) (task : List FsmAction) (adapter : FhssAudioAdapter) :
    Prop where
  initialized : adapter.initialized = true → adapter.service.initialized = true
  flags : adapter.txActive = true ∨ adapter.otaActive = true → adapter.initialized = true
  tx : adapter.txActive = true → state = .txAudio ∨ .endTx ∈ task
  ota : adapter.otaActive = true → state.mayOta = true ∨ .endOta ∈ task
  listening : adapter.isListening = true → RunsAs adapter.service .rx

/-- As long as the adapter is not initialized, the boot is going to do that. -/
def Booting (product : Product) : Prop :=
  product.adapter.initialized = false →
    (product.bootInitDone = false ∧ .bootInit ∈ product.task) ∨ .initAdapter ∈ product.task

section Adapter

variable {state : FsmState} {task task' : List FsmAction} {adapter : FhssAudioAdapter}

/-- What is left to do may change when what ends a talkspurt or OTA stays. -/
lemma RadioFits.of_task (h : RadioFits state task adapter) (htx : .endTx ∈ task → .endTx ∈ task')
    (hota : .endOta ∈ task → .endOta ∈ task') : RadioFits state task' adapter :=
  ⟨h.initialized, h.flags, fun hactive => (h.tx hactive).imp id htx,
    fun hactive => (h.ota hactive).imp id hota, h.listening⟩

/-- Another service that runs as much fits as well. -/
lemma RadioFits.of_service (h : RadioFits state task adapter) {service : FhssService}
    (hinit : service.initialized = adapter.service.initialized)
    (hruns : adapter.isListening = true → RunsAs adapter.service .rx → RunsAs service .rx) :
    RadioFits state task { adapter with service := service } :=
  ⟨fun hready => hinit.trans (h.initialized hready), h.flags, h.tx, h.ota,
    fun hlistening => hruns hlistening (h.listening hlistening)⟩

/-- A listening adapter is initialized and has neither flag set. -/
lemma isListening_iff : adapter.isListening = true ↔
    adapter.initialized = true ∧ adapter.txActive = false ∧ adapter.otaActive = false := by
  unfold FhssAudioAdapter.isListening
  cases adapter.initialized <;> cases adapter.txActive <;> cases adapter.otaActive <;> decide

/-- The end of OTA gives the radio back. -/
lemma RadioFits.endOta (h : RadioFits state task adapter) {hal : OtaRoleHal}
    (hok : EndOtaSucceeds adapter hal) (htx : .endTx ∈ task → .endTx ∈ task') :
    RadioFits state task' (fhssAudioAdapterEndOta adapter hal).1 ∧
      (fhssAudioAdapterEndOta adapter hal).1.initialized = adapter.initialized := by
  unfold fhssAudioAdapterEndOta
  by_cases hactive : adapter.otaActive = true
  · have hready : adapter.initialized = true := h.flags (.inr hactive)
    obtain ⟨hmutex, hrole⟩ := hok hactive
    obtain ⟨service, hset, hruns⟩ := hrole.runsAs (h.initialized hready)
    rw [if_neg (by simp [hready, hactive]), if_neg (by simp [hmutex]), hset]
    refine ⟨⟨fun _ => hruns.initialized, fun _ => hready, fun htalk => ?_, ?_, ?_⟩, rfl⟩
    · exact (h.tx htalk).imp id htx
    · intro hover
      cases hover
    · exact fun _ => hruns
  · have hover : adapter.otaActive = false := by simpa using hactive
    rw [if_pos (.inr hover)]
    refine ⟨⟨h.initialized, h.flags, fun htalk => (h.tx htalk).imp id htx, ?_, h.listening⟩, rfl⟩
    exact fun hota => absurd hota hactive

/-- The end of a talkspurt gives the radio back. -/
lemma RadioFits.endTx (h : RadioFits state task adapter) {hal : FhssRoleHal}
    (hok : adapter.txActive = true → RoleChangeSucceeds adapter.service .rx hal)
    (hota : .endOta ∈ task → .endOta ∈ task') :
    RadioFits state task' (fhssAudioAdapterEndTx adapter hal) ∧
      (fhssAudioAdapterEndTx adapter hal).initialized = adapter.initialized := by
  unfold fhssAudioAdapterEndTx
  by_cases hactive : adapter.txActive = true
  · have hready : adapter.initialized = true := h.flags (.inl hactive)
    obtain ⟨service, hset, hruns⟩ := (hok hactive).runsAs (h.initialized hready)
    rw [if_neg (by simp [hready, hactive]), hset]
    refine ⟨⟨fun _ => hruns.initialized, fun _ => hready, ?_, fun hotaActive => ?_, ?_⟩, rfl⟩
    · intro hover
      cases hover
    · exact (h.ota hotaActive).imp id hota
    · exact fun _ => hruns
  · have hover : adapter.txActive = false := by simpa using hactive
    rw [if_pos (.inr hover)]
    refine ⟨⟨h.initialized, h.flags, ?_, fun hotaActive => (h.ota hotaActive).imp id hota,
      h.listening⟩, rfl⟩
    exact fun htalk => absurd htalk hactive

/-- A talkspurt takes the radio in `TX_AUDIO`, or nothing happens. -/
lemma RadioFits.beginTx (h : RadioFits .txAudio task adapter) {publicSeed : UInt32}
    {hal : FhssRoleHal}
    (hok : adapter.isListening = true →
      RoleChangeSucceeds { adapter.service with
        config := { adapter.service.config with
          publicSeed := publicSeed, hopSeed := deriveSessionHopSeed publicSeed } } .tx hal)
    (hota : .endOta ∈ task → .endOta ∈ task') :
    RadioFits .txAudio task'
        (fhssAudioAdapterBeginTx deriveSessionHopSeed adapter publicSeed hal).1 ∧
      (fhssAudioAdapterBeginTx deriveSessionHopSeed adapter publicSeed hal).1.initialized =
        adapter.initialized := by
  unfold fhssAudioAdapterBeginTx
  by_cases hlistening : adapter.isListening = true
  · obtain ⟨hready, htx, hnoOta⟩ := isListening_iff.mp hlistening
    obtain ⟨service, hset, hruns⟩ := (hok hlistening).runsAs (h.initialized hready)
    rw [if_neg (by simp [hready, htx, hnoOta])]
    dsimp only
    rw [hset]
    refine ⟨⟨fun _ => hruns.initialized, fun _ => hready, fun _ => .inl rfl, ?_, ?_⟩, rfl⟩
    · exact fun hotaActive => (h.ota hotaActive).imp id hota
    · intro hover
      have htalk := (isListening_iff.mp hover).2.1
      cases htalk
  · have hrefused : adapter.initialized = false ∨ adapter.txActive = true ∨
        adapter.otaActive = true := by
      by_contra hnot
      push Not at hnot
      exact hlistening (isListening_iff.mpr (by simpa using hnot))
    rw [if_pos hrefused]
    exact ⟨⟨h.initialized, h.flags, fun _ => .inl rfl,
      fun hotaActive => (h.ota hotaActive).imp id hota, h.listening⟩, rfl⟩

/-- OTA takes the radio in `MENU_OTA`, gives it back at once, or nothing happens. -/
lemma RadioFits.beginOta (h : RadioFits .menuOta task adapter) {hal : BeginOtaHal}
    (hok : adapter.isListening = true → BeginOtaRecovers adapter hal)
    (htx : .endTx ∈ task → .endTx ∈ task') :
    RadioFits .menuOta task' (fhssAudioAdapterBeginOta adapter hal).1 ∧
      (fhssAudioAdapterBeginOta adapter hal).1.initialized = adapter.initialized := by
  have hkeep : RadioFits .menuOta task' adapter :=
    ⟨h.initialized, h.flags, fun htalk => (h.tx htalk).imp id htx, fun _ => .inl rfl,
      h.listening⟩
  unfold fhssAudioAdapterBeginOta
  by_cases hlistening : adapter.isListening = true
  · obtain ⟨hready, hnoTx, hnoOta⟩ := isListening_iff.mp hlistening
    rw [if_neg (by simp [hready, hnoTx, hnoOta])]
    by_cases hmutex : hal.mutexTaken = false
    · rw [if_pos hmutex]
      exact ⟨hkeep, rfl⟩
    rw [if_neg hmutex]
    have hinit : adapter.service.initialized = true := h.initialized hready
    have hpause : fhssServicePause adapter.service hal.recovered =
        ({ adapter.service with
          taskRunning := false, fsm := (fhssFsmHandle adapter.service.fsm .stop).1 },
          hal.recovered) := by
      unfold fhssServicePause
      rw [if_neg (by simp [hinit])]
    have hrecovers := hok hlistening (by simpa using hmutex)
    rw [hpause] at hrecovers ⊢
    dsimp only at hrecovers ⊢
    by_cases hfixed : (hal.recovered && hal.channelSet && hal.receiveStarted) = false
    · obtain ⟨service, hset, hruns⟩ := (hrecovers hfixed).runsAs hinit
      rw [if_pos hfixed, hset]
      refine ⟨⟨fun _ => hruns.initialized, fun _ => hready, ?_, fun _ => .inl rfl, ?_⟩, rfl⟩
      · exact fun htalk => absurd (hnoTx.symm.trans htalk) (by decide)
      · exact fun _ => hruns
    · rw [if_neg hfixed]
      have hstarted : (hal.recovered && hal.channelSet && hal.receiveStarted) = true := by
        simpa [and_assoc] using hfixed
      refine ⟨⟨fun _ => hinit, fun _ => hready, ?_, fun _ => .inl rfl, ?_⟩, rfl⟩
      · exact fun htalk => absurd (hnoTx.symm.trans htalk) (by decide)
      · intro hover
        have hota := (isListening_iff.mp hover).2.2
        exact absurd (hstarted.symm.trans hota) (by decide)
  · have hrefused : adapter.initialized = false ∨ adapter.txActive = true ∨
        adapter.otaActive = true := by
      by_contra hnot
      push Not at hnot
      exact hlistening (isListening_iff.mpr (by simpa using hnot))
    rw [if_pos hrefused]
    exact ⟨hkeep, rfl⟩

/-- A late activation finds the radio with OTA, or with a task that receives anyway. -/
lemma RadioFits.enterOtaFhss (h : RadioFits state task adapter) (config : OtaFhssConfigFields)
    (hal : OtaRoleHal) :
    RadioFits state task
        (fhssAudioAdapterEnterOtaFhss deriveSessionHopSeed adapter config hal).1 ∧
      (fhssAudioAdapterEnterOtaFhss deriveSessionHopSeed adapter config hal).1.initialized =
        adapter.initialized := by
  unfold fhssAudioAdapterEnterOtaFhss
  by_cases hmutex : hal.mutexTaken = false
  · rw [if_pos hmutex]
    exact ⟨h, rfl⟩
  rw [if_neg hmutex]
  dsimp only
  by_cases hlistening : adapter.isListening = true
  · have hruns := h.listening hlistening
    have hset : fhssServiceSetRole { adapter.service with
        config := adapter.service.config.withOta deriveSessionHopSeed config } .rx hal.role =
          ({ adapter.service with
            config := adapter.service.config.withOta deriveSessionHopSeed config }, true) := by
      unfold fhssServiceSetRole
      rw [if_neg (by simp [hruns.initialized]), if_pos ⟨hruns.role_eq, hruns.running⟩]
    rw [hset]
    exact ⟨⟨h.initialized, h.flags, h.tx, h.ota,
      fun _ => ⟨hruns.initialized, hruns.role_eq, hruns.running⟩⟩, rfl⟩
  · have hinit : adapter.initialized = true → ∀ answer, fhssServiceSetRole { adapter.service with
        config := adapter.service.config.withOta deriveSessionHopSeed config } .rx hal.role =
          answer → answer.1.initialized = true := by
      rintro hready answer rfl
      have hservice : ({ adapter.service with
          config := adapter.service.config.withOta deriveSessionHopSeed config } :
            FhssService).initialized = true := h.initialized hready
      exact (voice_fhssServiceSetRole hservice hal.role).2
    cases hset : fhssServiceSetRole { adapter.service with
        config := adapter.service.config.withOta deriveSessionHopSeed config } .rx hal.role with
    | mk service ok =>
      have hready := fun hready => hinit hready _ hset
      cases ok with
      | true => exact ⟨⟨hready, h.flags, h.tx, h.ota,
          fun hover => absurd hover hlistening⟩, rfl⟩
      | false => exact ⟨⟨hready, h.flags, h.tx, h.ota,
          fun hover => absurd hover hlistening⟩, rfl⟩

end Adapter

/-! ## The steps of `fsm_task` -/

/-- The invariant. -/
structure ListenInv (product : Product) : Prop where
  configured : product.Configured
  shape : TaskShape product.fsm product.task
  booting : Booting product
  radio : RadioFits product.fsm product.task product.adapter

/-- An event leads out of `TX_AUDIO` and out of OTA through their clean-up only. -/
lemma fsmNext_cleansUp (state : FsmState) (event : FsmEvent) :
    (state = .txAudio →
        fsmNext state event = .txAudio ∨ .endTx ∈ sEnterActions (fsmNext state event)) ∧
      (state.mayOta = true →
        (fsmNext state event).mayOta = true ∨
          .endOta ∈ sEnterActions (fsmNext state event)) := by
  cases state <;> cases event <;> decide

section Task

variable {product : Product}

/-- Reacting to an event leaves the adapter alone. -/
lemma adapter_react (event : FsmEvent) (hal : FsmTaskHal) :
    (product.react event hal).adapter = product.adapter ∧
      (product.react event hal).bootInitDone = product.bootInitDone := by
  unfold Product.react
  split
  · exact ⟨rfl, rfl⟩
  · unfold Product.transitionTo
    split_ifs <;> exact ⟨rfl, rfl⟩
  · exact ⟨rfl, rfl⟩
  · exact ⟨rfl, rfl⟩
  · exact ⟨rfl, rfl⟩

/-- After an event the flags of the adapter fit the new state. -/
lemma radioFits_react (h : RadioFits product.fsm product.task product.adapter)
    (htask : product.task = []) (event : FsmEvent) (hal : FsmTaskHal) :
    RadioFits (product.react event hal).fsm (product.react event hal).task
      (product.react event hal).adapter := by
  have htx : product.adapter.txActive = true → product.fsm = .txAudio := fun hactive =>
    (h.tx hactive).resolve_right (by simp [htask])
  have hota : product.adapter.otaActive = true → product.fsm.mayOta = true := fun hactive =>
    (h.ota hactive).resolve_right (by simp [htask])
  have hsame : ∀ task, RadioFits product.fsm task product.adapter := fun task =>
    ⟨h.initialized, h.flags, fun hactive => .inl (htx hactive), fun hactive => .inl (hota hactive),
      h.listening⟩
  unfold Product.react
  cases hreaction : fsmTaskReaction product.fsm event with
  | ignore => exact hsame _
  | stopResyncTimer => exact hsame _
  | armResyncTimer => exact hsame _
  | abortSession => exact hsame _
  | transitionTo next =>
    have hnext : fsmNext product.fsm event = next := by
      unfold fsmNext
      rw [hreaction]
    obtain ⟨hleaveTx, hleaveOta⟩ := fsmNext_cleansUp product.fsm event
    rw [hnext] at hleaveTx hleaveOta
    dsimp only
    unfold Product.transitionTo
    by_cases hstay : next = product.fsm
    · rw [if_pos hstay]
      exact hsame _
    · rw [if_neg hstay]
      refine ⟨h.initialized, h.flags, fun hactive => ?_, fun hactive => ?_, h.listening⟩
      · exact (hleaveTx (htx hactive)).imp id (List.mem_append_left _)
      · exact (hleaveOta (hota hactive)).imp id (List.mem_append_left _)

/-- What is pending beside an action is pending behind it. -/
lemma mem_rest {pending action : FsmAction} {rest : List FsmAction} (hne : pending ≠ action)
    (hmem : pending ∈ action :: rest) : pending ∈ rest :=
  (List.mem_cons.mp hmem).resolve_left hne

/-- OTA is started in `MENU_OTA` and a talkspurt in `TX_AUDIO`. -/
lemma TaskShape.begins {state : FsmState} {task : List FsmAction} (h : TaskShape state task) :
    (.startOtaRadio ∈ task → state = .menuOta) ∧ (.beginTx ∈ task → state = .txAudio) := by
  rcases h with h | ⟨-, h⟩ | ⟨-, h | h⟩
  · refine ⟨fun hmem => ?_, fun hmem => ?_⟩
    · have henter := h.subset hmem
      revert henter
      cases state <;> decide
    · have henter := h.subset hmem
      revert henter
      cases state <;> decide
  · refine ⟨fun hmem => ?_, fun hmem => ?_⟩
    · have := h.subset hmem
      simp at this
    · have := h.subset hmem
      simp at this
  · rw [h]
    simp
  · refine ⟨fun hmem => ?_, fun hmem => ?_⟩
    · have := h.subset hmem
      simp at this
    · have := h.subset hmem
      simp at this

/-- The radio after an operation that posts `ERROR` when it fails. -/
lemma radio_orError (answer : Product × Bool) :
    (Product.orError answer).fsm = answer.1.fsm ∧ (Product.orError answer).task = answer.1.task ∧
      (Product.orError answer).adapter = answer.1.adapter ∧
      (Product.orError answer).bootInitDone = answer.1.bootInitDone := by
  obtain ⟨product, _ | _⟩ := answer <;> exact ⟨rfl, rfl, rfl, rfl⟩

/-- What the invariant asks of a product besides its shape. -/
def RadioInv (product : Product) : Prop :=
  Booting product ∧ RadioFits product.fsm product.task product.adapter

/-- It depends on the state, the actions in hand, the boot and the adapter only. -/
lemma RadioInv.congr {product' : Product} (h : RadioInv product)
    (hfsm : product'.fsm = product.fsm) (htask : product'.task = product.task)
    (hboot : product'.bootInitDone = product.bootInitDone)
    (hadapter : product'.adapter = product.adapter) : RadioInv product' := by
  unfold RadioInv Booting
  rw [hfsm, htask, hboot, hadapter]
  exact h

/-- Posting events keeps it. -/
lemma RadioInv.of_posts {product' : Product} (h : RadioInv product)
    (hposts : Posts product product') : RadioInv product' :=
  h.congr hposts.fsm_eq hposts.task_eq hposts.bootInitDone_eq hposts.adapter_eq

/-- So does an operation that posts `ERROR` when it fails. -/
lemma RadioInv.orError {answer : Product × Bool} (h : RadioInv answer.1) :
    RadioInv (Product.orError answer) := by
  obtain ⟨hfsm, htask, hadapter, hboot⟩ := radio_orError answer
  exact h.congr hfsm htask hboot hadapter

/-- An action that neither boots nor cleans up can be taken in hand. -/
lemma RadioInv.rest {action : FsmAction} {rest : List FsmAction} (h : RadioInv product)
    (htask : product.task = action :: rest)
    (hne : ∀ pending ∈ [FsmAction.endTx, .endOta, .bootInit, .initAdapter], pending ≠ action) :
    RadioInv { product with task := rest } := by
  obtain ⟨hboot, hradio⟩ := h
  unfold Booting at hboot
  rw [htask] at hboot hradio
  constructor
  · intro hready
    rcases hboot hready with ⟨hdone, hmem⟩ | hmem
    · exact .inl ⟨hdone, mem_rest (hne _ (by simp)) hmem⟩
    · exact .inr (mem_rest (hne _ (by simp)) hmem)
  · exact hradio.of_task (mem_rest (hne _ (by simp))) (mem_rest (hne _ (by simp)))

/-- The start of the OTA radio keeps the invariant. -/
lemma radioInv_startOtaRadio {rest : List FsmAction} {hal : FsmTaskHal}
    (h : RadioInv { product with task := rest }) (hfsm : product.fsm = .menuOta)
    (hok : ActionSucceeds protocol deriveSessionHopSeed product hal .startOtaRadio) :
    RadioInv (Product.orError ({ product with task := rest }.startOtaRadio hal)) := by
  refine RadioInv.orError ?_
  obtain ⟨hboot, hradio⟩ := h
  dsimp only at hradio
  rw [hfsm] at hradio
  unfold Product.startOtaRadio
  dsimp only
  by_cases hrunning : product.radioTask = true
  · rw [if_pos hrunning]
    exact ⟨hboot, hfsm ▸ hradio⟩
  rw [if_neg hrunning]
  have hstopped : product.radioTask = false := by simpa using hrunning
  obtain ⟨hfits, hready⟩ := hradio.beginOta (fun hlistening => (hok hstopped hlistening).1) id
  have hbooting : ∀ adapter : FhssAudioAdapter, adapter.initialized = product.adapter.initialized →
      ∀ radioTask, Booting { product with
        task := rest, adapter := adapter, radioTask := radioTask } := by
    intro adapter hsame radioTask hnot
    exact hboot (hsame.symm.trans hnot)
  cases hbegin : fhssAudioAdapterBeginOta product.adapter hal.beginOta with
  | mk adapter ok =>
    rw [hbegin] at hfits hready
    have hmenu : ∀ {adapter task}, RadioFits .menuOta task adapter →
        RadioFits product.fsm task adapter := fun hfits => hfsm ▸ hfits
    cases ok with
    | false => exact ⟨hbooting adapter hready _, hmenu hfits⟩
    | true =>
      dsimp only
      by_cases hcreated : hal.taskCreated = false
      · rw [if_pos hcreated]
        have hlistening : product.adapter.isListening = true := by
          by_contra hnot
          have hrefused : fhssAudioAdapterBeginOta product.adapter hal.beginOta =
              (product.adapter, false) := by
            unfold fhssAudioAdapterBeginOta
            rw [if_pos]
            by_contra hall
            push Not at hall
            exact hnot (isListening_iff.mpr (by simpa using hall))
          rw [hrefused] at hbegin
          cases hbegin
        have hend := (hok hstopped hlistening).2 hcreated
        rw [hbegin] at hend
        obtain ⟨hfits', hready'⟩ := hfits.endOta hend
          (id : FsmAction.endTx ∈ rest → FsmAction.endTx ∈ rest)
        exact ⟨hbooting _ (hready'.trans hready) _, hmenu hfits'⟩
      · rw [if_neg hcreated]
        exact ⟨hbooting adapter hready _, hmenu hfits⟩

/-- A successful initialization leaves a listening adapter. -/
lemma fhssAudioAdapterInit_listening {store : FhssConfigStore} {hal : FhssAudioAdapterInitHal}
    (h : (fhssAudioAdapterInit protocol store hal).2 = true) (state : FsmState)
    (task : List FsmAction) :
    (fhssAudioAdapterInit protocol store hal).1.initialized = true ∧
      RadioFits state task (fhssAudioAdapterInit protocol store hal).1 := by
  cases hinit : fhssAudioAdapterInit protocol store hal with
  | mk adapter ok =>
    rw [hinit] at h
    obtain rfl : ok = true := h
    obtain ⟨service, service', hservice, hstarted, hready, hfresh, rfl⟩ :=
      fhssAudioAdapterInit_started protocol hinit
    refine ⟨rfl, ⟨fun _ => hready, fun _ => rfl, ?_, ?_,
      fun _ => ⟨hready, hfresh.role, hfresh.running⟩⟩⟩
    · intro hactive
      cases hactive
    · intro hactive
      cases hactive

/-- An action whose role changes succeed keeps the invariant. -/
lemma radioInv_act {action : FsmAction} {rest : List FsmAction} {hal : FsmTaskHal}
    (hshape : TaskShape product.fsm product.task) (h : RadioInv product)
    (htask : product.task = action :: rest)
    (hok : ActionSucceeds protocol deriveSessionHopSeed product hal action) :
    RadioInv ({ product with task := rest }.act protocol deriveSessionHopSeed action hal).1 := by
  have hrest := fun hne => h.rest htask hne
  have hmem : action ∈ product.task := htask ▸ List.mem_cons_self
  obtain ⟨hboot, hradio⟩ := h
  unfold Booting at hboot
  unfold Product.act
  cases action with
  | abort => exact (hrest (by simp)).of_posts (posts_ran _ _)
  | abortInterrupted =>
    dsimp only
    split_ifs
    · exact (hrest (by simp)).of_posts (posts_ran _ _)
    · exact hrest (by simp)
  | stopRadioTask => exact (hrest (by simp)).congr rfl rfl rfl rfl
  | startRxAudio => exact (hrest (by simp)).orError
  | startOtaRadio =>
    exact radioInv_startOtaRadio protocol deriveSessionHopSeed (hrest (by simp))
      (hshape.begins.1 hmem) hok
  | armTimer timer =>
    cases timer with
    | sync => exact RadioInv.orError ((hrest (by simp)).congr rfl rfl rfl rfl)
    | resync =>
      obtain ⟨hboot', hradio'⟩ := hrest (by simp)
      dsimp only
      split_ifs
      · exact ⟨hboot', hradio'⟩
      · refine ⟨fun hready => ?_, hradio'.of_task (fun hmem => ?_) fun hmem => ?_⟩
        · refine (hboot' hready).imp (And.imp id fun hmem => ?_) fun hmem => ?_
          · exact List.mem_cons_of_mem _ (List.mem_cons_of_mem _ hmem)
          · exact List.mem_cons_of_mem _ (List.mem_cons_of_mem _ hmem)
        · exact List.mem_cons_of_mem _ (List.mem_cons_of_mem _ hmem)
        · exact List.mem_cons_of_mem _ (List.mem_cons_of_mem _ hmem)
  | transitionTo next =>
    obtain ⟨hfsm, rfl⟩ := hshape.of_transitionTo hmem
    obtain ⟨hboot', hradio'⟩ := hrest (by simp)
    dsimp only
    unfold Product.transitionTo
    dsimp only
    rw [if_neg (by rw [hfsm]; decide)]
    refine ⟨fun hready => ?_, hradio'.initialized, hradio'.flags, fun hactive => ?_,
      fun _ => .inl rfl, hradio'.listening⟩
    · refine (hboot' hready).imp (And.imp id fun hmem => ?_) fun hmem => ?_
      · exact List.mem_append_right _ hmem
      · exact List.mem_append_right _ hmem
    · rcases hradio'.tx hactive with htx | hpending
      · exact absurd (hfsm.symm.trans htx) (by decide)
      · exact .inr (List.mem_append_right _ hpending)
  | bootInit =>
    dsimp only
    rw [htask] at hboot hradio
    have hfits := hradio.of_task (mem_rest (by simp)) (mem_rest (by simp))
    by_cases hdone : product.bootInitDone = true
    · rw [if_pos hdone]
      refine ⟨fun hready => ?_, hfits⟩
      rcases hboot hready with ⟨hnot, -⟩ | hpending
      · exact absurd (hdone.symm.trans hnot) (by decide)
      · exact .inr (mem_rest (by simp) hpending)
    · rw [if_neg hdone]
      refine ⟨fun _ => .inr List.mem_cons_self, hfits.of_task (fun hmem => ?_) fun hmem => ?_⟩
      · exact List.mem_cons_of_mem _ (List.mem_cons_of_mem _ hmem)
      · exact List.mem_cons_of_mem _ (List.mem_cons_of_mem _ hmem)
  | initAdapter =>
    obtain ⟨hready, hfits⟩ := fhssAudioAdapterInit_listening protocol hok product.fsm rest
    refine RadioInv.orError ⟨fun hnot => ?_, hfits⟩
    exact absurd (hready.symm.trans hnot) (by decide)
  | initClient => exact RadioInv.orError ((hrest (by simp)).congr rfl rfl rfl rfl)
  | endOta =>
    rw [htask] at hboot hradio
    obtain ⟨hfits, hready⟩ := hradio.endOta hok (@mem_rest .endTx _ rest (by simp))
    refine ⟨fun hnot => ?_, hfits⟩
    rcases hboot (hready.symm.trans hnot) with ⟨hdone, hpending⟩ | hpending
    · exact .inl ⟨hdone, mem_rest (by simp) hpending⟩
    · exact .inr (mem_rest (by simp) hpending)
  | endTx =>
    rw [htask] at hboot hradio
    obtain ⟨hfits, hready⟩ := hradio.endTx hok (@mem_rest .endOta _ rest (by simp))
    refine ⟨fun hnot => ?_, hfits⟩
    rcases hboot (hready.symm.trans hnot) with ⟨hdone, hpending⟩ | hpending
    · exact .inl ⟨hdone, mem_rest (by simp) hpending⟩
    · exact .inr (mem_rest (by simp) hpending)
  | beginTx =>
    have hfsm := hshape.begins.2 hmem
    obtain ⟨hboot', hradio'⟩ := hrest (by simp)
    dsimp only at hradio'
    rw [hfsm] at hradio'
    obtain ⟨hfits, hready⟩ := hradio'.beginTx deriveSessionHopSeed hok
      (id : FsmAction.endOta ∈ rest → FsmAction.endOta ∈ rest)
    exact RadioInv.orError ⟨fun hnot => hboot' (hready.symm.trans hnot), hfsm ▸ hfits⟩

/-- Reacting to the next event keeps the invariant. -/
lemma radioInv_react (h : RadioInv product) (htask : product.task = []) (event : FsmEvent)
    (rest : List FsmEvent) (hal : FsmTaskHal) :
    RadioInv ({ product with events := rest, task := [] }.react event hal) := by
  obtain ⟨hbooting, hradio⟩ := h
  unfold Booting at hbooting
  rw [htask] at hbooting hradio
  refine ⟨fun hnot => ?_,
    @radioFits_react { product with events := rest, task := [] } hradio rfl event hal⟩
  have hadapter :=
    (@adapter_react { product with events := rest, task := [] } event hal).1
  rw [hadapter] at hnot
  rcases hbooting hnot with ⟨-, hmem⟩ | hmem <;> cases hmem

/-- A step of `fsm_task` whose role changes succeed keeps the invariant. -/
lemma radioInv_fsmTask {hal : FsmTaskHal} (hshape : TaskShape product.fsm product.task)
    (h : RadioInv product)
    (hok : RoleChangesSucceed protocol deriveSessionHopSeed product (.fsmTask hal)) :
    RadioInv (product.fsmTask protocol deriveSessionHopSeed hal).1 := by
  unfold RoleChangesSucceed at hok
  unfold Product.fsmTask
  cases htask : product.task with
  | nil =>
    cases product.events with
    | nil => exact h
    | cons event rest =>
      exact radioInv_react h htask event rest hal
  | cons action rest =>
    rw [htask] at hok
    dsimp only at hok ⊢
    by_cases hblocked : product.blocked action = true
    · rw [if_pos hblocked]
      exact h
    · rw [if_neg hblocked]
      exact radioInv_act protocol deriveSessionHopSeed hshape h htask hok

/-- A step of the consumer keeps the invariant. -/
lemma radioInv_consumerTask (h : RadioInv product) (hal : ConsumerTaskHal) :
    RadioInv (product.consumerTask protocol sha256 deriveSessionHopSeed hal).1 := by
  rcases posts_consumerTask protocol sha256 deriveSessionHopSeed product hal with
    hposts | ⟨pending, -, hposts⟩
  · exact h.of_posts hposts
  · obtain ⟨hfits, hready⟩ := h.2.enterOtaFhss deriveSessionHopSeed pending hal.role
    have hinv : RadioInv { product with
        adapter := (fhssAudioAdapterEnterOtaFhss deriveSessionHopSeed product.adapter pending
          hal.role).1 } := ⟨fun hnot => h.1 (hready.symm.trans hnot), hfits⟩
    exact hinv.of_posts hposts

/-- A turn of the RX task keeps the invariant. -/
lemma radioInv_serviceTurn (h : RadioInv product) (turn : RxTurn) :
    RadioInv (product.serviceTurn protocol deriveSessionHopSeed turn) := by
  unfold Product.serviceTurn
  split_ifs
  · obtain ⟨hconfig, hrunning, hinit⟩ := sameService_rxTaskTurn protocol
      (some deriveSessionHopSeed) product.adapter.service (product.adapter.answered turn)
    refine ⟨h.1, h.2.of_service hinit fun _ hruns => ?_⟩
    exact ⟨hinit.trans hruns.initialized,
      (congrArg FhssServiceConfig.role hconfig).trans hruns.role_eq, hrunning.trans hruns.running⟩
  · exact h

/-- So does an error of the TX task, since then the task does not receive. -/
lemma radioInv_txError (h : RadioInv product) (hrole : product.adapter.service.config.role = .tx)
    (taskEnds : Bool) :
    RadioInv ({ product with
      adapter := { product.adapter with
        service := { product.adapter.service with taskRunning := !taskEnds } } }.post .error) := by
  refine RadioInv.of_posts ?_ (posts_post _ (by decide : FsmEvent.error ≠ .pttPress))
  refine ⟨h.1, h.2.of_service rfl fun _ hruns => ?_⟩
  exact absurd (hrole.symm.trans hruns.role_eq) (by decide)

end Task

/-! ## Every run -/

/-- A step in which the role changes succeed keeps the invariant of the radio. -/
lemma radioInv_productStep {product : Product} {input : ProductInput}
    (hshape : TaskShape product.fsm product.task) (h : RadioInv product)
    (hok : RoleChangesSucceed protocol deriveSessionHopSeed product input) :
    RadioInv (productStep protocol sha256 deriveSessionHopSeed product input).1 := by
  have hkeep : ∀ {product' : Product}, product'.fsm = product.fsm → product'.task = product.task →
      product'.bootInitDone = product.bootInitDone → product'.adapter = product.adapter →
      RadioInv product' := h.congr
  unfold productStep
  cases input with
  | fsmTask hal => exact radioInv_fsmTask protocol deriveSessionHopSeed hshape h hok
  | consumerTask hal => exact radioInv_consumerTask protocol sha256 deriveSessionHopSeed h hal
  | serviceTurn turn => exact radioInv_serviceTurn protocol deriveSessionHopSeed h turn
  | txError taskEnds =>
    dsimp only
    split_ifs with hruns
    · exact radioInv_txError h hruns.2 taskEnds
    · exact h
  | appMain =>
    dsimp only
    split_ifs
    · exact h
    · exact hkeep rfl rfl rfl rfl
  | timerCommand =>
    dsimp only
    split
    · exact h
    · exact hkeep rfl rfl rfl rfl
  | rxDone => exact hkeep rfl rfl rfl rfl
  | serviceCallback nvs =>
    unfold Product.serviceCallback
    dsimp only
    split
    · exact h
    · split <;> exact hkeep rfl rfl rfl rfl
    · exact hkeep rfl rfl rfl rfl
    · exact hkeep rfl rfl rfl rfl
    · exact hkeep rfl rfl rfl rfl
  | timerExpires timer =>
    dsimp only
    split_ifs
    · exact hkeep rfl rfl rfl rfl
    · exact h
  | menuSelect selected =>
    dsimp only
    split_ifs
    · exact hkeep rfl rfl rfl rfl
    · exact h
  | pttEvent pressed =>
    dsimp only
    split_ifs
    · exact hkeep rfl rfl rfl rfl
    · exact h
  | onPttEvent =>
    dsimp only
    obtain hsame | ⟨pressed, hposted⟩ := onPttEvent_cases product
    · rw [hsame]
      exact hkeep rfl rfl rfl rfl
    · rw [hposted]
      exact hkeep rfl rfl rfl rfl
  | rxFrame =>
    dsimp only
    split_ifs
    · exact hkeep rfl rfl rfl rfl
    · exact h
  | radioPacket packet =>
    dsimp only
    split_ifs
    · exact hkeep rfl rfl rfl rfl
    · exact h
  | radioError =>
    dsimp only
    split_ifs
    · exact hkeep rfl rfl rfl rfl
    · exact h

/-- A step in which the role changes succeed keeps the invariant. -/
lemma listenInv_productStep {product : Product} {input : ProductInput} (h : ListenInv product)
    (hok : RoleChangesSucceed protocol deriveSessionHopSeed product input) :
    ListenInv (productStep protocol sha256 deriveSessionHopSeed product input).1 := by
  obtain ⟨kind, hstep, -⟩ :=
    productStep_session protocol sha256 deriveSessionHopSeed h.configured input
  obtain ⟨hbooting, hradio⟩ := radioInv_productStep protocol sha256 deriveSessionHopSeed
    h.shape ⟨h.booting, h.radio⟩ hok
  exact ⟨configured_productStep protocol sha256 deriveSessionHopSeed h.configured input,
    taskShape_step h.shape hstep, hbooting, hradio⟩

/-- The invariant holds at boot. -/
lemma listenInv_boot (store : FhssConfigStore) : ListenInv (Product.boot store) where
  configured := fun hconsumer => absurd hconsumer Bool.false_ne_true
  shape := .inl List.suffix_rfl
  booting := fun _ => .inl ⟨rfl, List.mem_cons_self⟩
  radio :=
    ⟨fun hready => absurd hready Bool.false_ne_true,
      fun hactive => hactive.elim (absurd · Bool.false_ne_true) (absurd · Bool.false_ne_true),
      fun hactive => absurd hactive Bool.false_ne_true,
      fun hactive => absurd hactive Bool.false_ne_true,
      fun hlistening => absurd hlistening Bool.false_ne_true⟩

/-- Once the actions are done, a product in `MENU_COMM` listens. -/
lemma ListenInv.listens {product : Product} (h : ListenInv product) (htask : product.task = [])
    (hfsm : product.fsm = .menuComm) : RunsAs product.adapter.service .rx := by
  have hready : product.adapter.initialized = true := by
    by_contra hnot
    have hpending := h.booting (by simpa using hnot)
    rw [htask] at hpending
    simp at hpending
  have htx : product.adapter.txActive = false := by
    by_contra hactive
    rcases h.radio.tx (by simpa using hactive) with hstate | hmem
    · exact absurd (hfsm.symm.trans hstate) (by decide)
    · rw [htask] at hmem
      cases hmem
  have hota : product.adapter.otaActive = false := by
    by_contra hactive
    rcases h.radio.ota (by simpa using hactive) with hstate | hmem
    · rw [hfsm] at hstate
      exact absurd hstate (by decide)
    · rw [htask] at hmem
      cases hmem
  exact h.radio.listening (isListening_iff.mpr ⟨hready, htx, hota⟩)

/-- In every run of the product from boot in which the initialization of the adapter and the role
changes made for a talkspurt and for OTA succeed, whatever else fails and in any order: whenever
the event queue is drained and the FSM is in `MENU_COMM`, the task of the service runs and
receives. -/
theorem menuComm_listens (store : FhssConfigStore) {inputs : List ProductInput}
    (h : Guarded (productStep protocol sha256 deriveSessionHopSeed)
      (RoleChangesSucceed protocol deriveSessionHopSeed) (Product.boot store) inputs) :
    let product := finalState (productStep protocol sha256 deriveSessionHopSeed)
      (Product.boot store) inputs
    product.events = [] → product.task = [] → product.fsm = .menuComm →
      product.adapter.service.taskRunning = true ∧
        product.adapter.service.config.role = .rx := by
  intro product _ htask hfsm
  have hinv : ListenInv product := @invariant_finalState _ _ _
    (productStep protocol sha256 deriveSessionHopSeed) ListenInv
    (RoleChangesSucceed protocol deriveSessionHopSeed)
    (fun _ _ hs hok => listenInv_productStep protocol sha256 deriveSessionHopSeed hs hok) _
    (listenInv_boot store) inputs h
  have hruns := hinv.listens htask hfsm
  exact ⟨hruns.running, hruns.role_eq⟩

/-- After a talkspurt the product listens again. -/
theorem menuComm_listens_after_talk :
    let product := finalState (productStep plainProtocol sampleSha256 sampleDerive)
      (Product.boot sampleStore) samplePtt
    product.adapter.service.taskRunning = true ∧ product.adapter.service.config.role = .rx :=
  menuComm_listens plainProtocol sampleSha256 sampleDerive sampleStore
    (by decide +kernel) (by decide +kernel) (by decide +kernel) (by decide +kernel)

/-- `begin_tx` cannot recover the radio; the user retries from `ERROR`, and everything succeeds. -/
def failedTalk : List ProductInput :=
  sampleBoot ++ samplePttEvent true ++ [sampleFsmTask,
    .fsmTask { FsmTaskHal.succeeding with txRole := ⟨false, true⟩ }] ++
    List.replicate 5 sampleFsmTask ++ [.menuSelect .comm] ++ List.replicate 6 sampleFsmTask

/-- The product is back in `MENU_COMM`, and no task receives. -/
theorem menuComm_deaf_after_failed_talk :
    let product := finalState (productStep plainProtocol sampleSha256 sampleDerive)
      (Product.boot sampleStore) failedTalk
    product.events = [] ∧ product.task = [] ∧ product.fsm = .menuComm ∧
      product.adapter.initialized = true ∧ product.adapter.service.taskRunning = false := by
  decide +kernel

end FhssOtaRadio
