import FhssOtaRadio.Product.Frame
import FhssOtaRadio.Product.SessionEvents

/-!
# Only a proven generation is promoted

The configuration of the service is written before the role change that builds a controller from
it, and the role change returns at once when the RX task runs already; the pending configuration
in NVS can be overwritten while another one of its generation is on the air.  `KeepsProven` says
that neither happens.  The invariant then keeps three copies together: the configuration of the
service, the controller that raises the events, and the pending configuration that is promoted.
-/

namespace FhssOtaRadio

open EventQueue Machine

variable (protocol : OtaProtocol) (sha256 : Bytes → Sha256Digest)
  (deriveSessionHopSeed : UInt32 → UInt32)

/-! ## Copies of a configuration -/

/-- If a configuration has the generation of a core, it has its hop sequence too. -/
def HopsLike (fields : OtaFhssConfigFields) (core : FhssCore) : Prop :=
  fields.generation = core.generation →
    fhssHopSequenceInitSeeded (hopChannels fields) (deriveSessionHopSeed fields.seed)
      fields.reservedChannel = .ok core.hopSequence

instance (fields : OtaFhssConfigFields) (core : FhssCore) :
    Decidable (HopsLike deriveSessionHopSeed fields core) :=
  inferInstanceAs (Decidable (_ → _))

/-- The controller behind a callback. -/
def ServiceCallback.raisedBy : ServiceCallback → FhssSyncController
  | .report _ raisedBy => raisedBy
  | .promote _ raisedBy => raisedBy

/-- The core whose generation is going to be promoted. -/
def ServiceCallback.promotes : ServiceCallback → Option FhssCore
  | .report _ _ => none
  | .promote _ raisedBy => some raisedBy.core

/-- The cores that OTA hops by: the one of the service, and those behind the promotions that have
begun. -/
def Product.liveCores (product : Product) : List FhssCore :=
  (if product.adapter.otaFhssActive = true then [product.adapter.service.controller.core]
    else []) ++ product.callbacks.filterMap ServiceCallback.promotes

/-- The configuration of an activation that is going on. -/
def ConsumerPhase.inHand : ConsumerPhase → Option OtaFhssConfigFields
  | .activating pending => some pending
  | .enteringFhss pending => some pending
  | _ => none

/-! ## The condition -/

/-- The configuration that a step writes to NVS as the pending one. -/
def Product.storesConfig (product : Product) : ProductInput → Option OtaFhssConfigFields
  | .consumerTask hal =>
      match product.nextPacket with
      | none => none
      | some (packet, client) =>
          match protocol.peekType packet, protocol.decodeFhssConfig packet with
          | some .fhssConfig, some fields =>
              if (otaConsumerTargetMatches protocol client fields.targetDeviceId &&
                  otaConsumerIsOtaMode client (fsmOtaModeCallback product.fsm) &&
                  configIsSupported protocol fields && hal.nvs.openReadWrite == .ok &&
                  hal.nvs.setBlob == .ok) = true then some fields
              else none
          | _, _ => none
  | _ => none

/-- An activation takes the radio outside OTA mode or while the RX task runs. -/
def Product.entersRunning (product : Product) : ProductInput → Bool
  | .consumerTask _ =>
      match product.consumer with
      | .enteringFhss _ =>
          !product.mustWait .rx && (!product.adapter.otaActive ||
            (product.adapter.service.config.role == .rx &&
              product.adapter.service.taskRunning))
      | _ => false
  | _ => false

/-- A step keeps what is on the air proven: an activation finds the adapter in OTA mode without a
running RX task, and a configuration that is stored is like every one of its generation that is on
the air. -/
def Product.KeepsProven (product : Product) (input : ProductInput) : Prop :=
  product.entersRunning input = false ∧
    ∀ fields, product.storesConfig protocol input = some fields →
      ∀ core ∈ product.liveCores, HopsLike deriveSessionHopSeed fields core

instance (product : Product) : DecidablePred (product.KeepsProven protocol deriveSessionHopSeed) :=
  fun input => by
    unfold Product.KeepsProven
    infer_instance

/-! ## The adapter -/

section Adapter

variable {adapter : FhssAudioAdapter}

/-- OTA hops in OTA mode only, and in OTA mode nothing is transmitted. -/
structure FlagsFit (adapter : FhssAudioAdapter) : Prop where
  ota : adapter.otaFhssActive = true → adapter.otaActive = true
  tx : adapter.otaActive = true → adapter.txActive = false

/-- An operation leaves the adapter alone or OTA does not hop afterwards. -/
structure Yields (adapter adapter' : FhssAudioAdapter) : Prop where
  flags : FlagsFit adapter → FlagsFit adapter'
  same : FlagsFit adapter → adapter'.otaFhssActive = true → adapter' = adapter

lemma Yields.refl (adapter : FhssAudioAdapter) : Yields adapter adapter :=
  ⟨id, fun _ _ => rfl⟩

lemma Yields.trans {adapter' adapter'' : FhssAudioAdapter} (h : Yields adapter adapter')
    (h' : Yields adapter' adapter'') : Yields adapter adapter'' := by
  refine ⟨fun hflags => h'.flags (h.flags hflags), fun hflags hactive => ?_⟩
  have heq := h'.same (h.flags hflags) hactive
  rw [heq] at hactive
  exact heq.trans (h.same hflags hactive)

/-- An adapter in which OTA does not hop. -/
lemma Yields.of_inactive {adapter' : FhssAudioAdapter} (hfhss : adapter'.otaFhssActive = false)
    (htx : FlagsFit adapter → adapter'.otaActive = true → adapter'.txActive = false) :
    Yields adapter adapter' := by
  have hnot : adapter'.otaFhssActive ≠ true := by simp [hfhss]
  exact ⟨fun hflags => ⟨fun h => absurd h hnot, htx hflags⟩, fun _ h => absurd h hnot⟩

/-- Outside OTA mode OTA does not hop. -/
lemma FlagsFit.inactive (h : FlagsFit adapter) (hota : adapter.otaActive = false) :
    adapter.otaFhssActive = false := by
  by_contra hfhss
  have := h.ota (by simpa using hfhss)
  rw [hota] at this
  cases this

/-- The end of OTA. -/
lemma yields_endOta (hal : OtaRoleHal) :
    Yields adapter (fhssAudioAdapterEndOta adapter hal).1 := by
  unfold fhssAudioAdapterEndOta
  by_cases hmode : adapter.initialized = false ∨ adapter.otaActive = false
  · rw [if_pos hmode]
    exact .refl adapter
  rw [if_neg hmode]
  by_cases hmutex : hal.mutexTaken = false
  · rw [if_pos hmutex]
    exact .refl adapter
  rw [if_neg hmutex]
  exact .of_inactive rfl fun _ h => by cases h

/-- The begin of OTA. -/
lemma yields_beginOta (hal : BeginOtaHal) :
    Yields adapter (fhssAudioAdapterBeginOta adapter hal).1 := by
  unfold fhssAudioAdapterBeginOta
  by_cases hmode : adapter.initialized = false ∨ adapter.txActive = true ∨
      adapter.otaActive = true
  · rw [if_pos hmode]
    exact .refl adapter
  rw [if_neg hmode]
  have htx : adapter.txActive = false := by
    by_contra htx
    exact hmode (.inr (.inl (by simpa using htx)))
  by_cases hmutex : hal.mutexTaken = false
  · rw [if_pos hmutex]
    exact .refl adapter
  rw [if_neg hmutex]
  dsimp only
  split_ifs
  · exact .of_inactive rfl fun _ _ => htx
  · exact .of_inactive rfl fun _ _ => htx

/-- The begin of a talkspurt, which OTA mode rejects. -/
lemma yields_beginTx (publicSeed : UInt32) (hal : FhssRoleHal) :
    Yields adapter (fhssAudioAdapterBeginTx deriveSessionHopSeed adapter publicSeed hal).1 := by
  unfold fhssAudioAdapterBeginTx
  by_cases hmode : adapter.initialized = false ∨ adapter.txActive = true ∨
      adapter.otaActive = true
  · rw [if_pos hmode]
    exact .refl adapter
  rw [if_neg hmode]
  have hota : adapter.otaActive = false := by
    by_contra hota
    exact hmode (.inr (.inr (by simpa using hota)))
  have hyields : ∀ (service : FhssService) (tx : Bool),
      Yields adapter { adapter with service := service, txActive := tx } := by
    intro service tx
    refine ⟨fun h => ⟨h.ota, fun h' => ?_⟩, fun h h' => ?_⟩
    · rw [hota] at h'
      cases h'
    · rw [h.inactive hota] at h'
      cases h'
  dsimp only
  split
  · exact hyields _ adapter.txActive
  · exact hyields _ true

/-- The end of a talkspurt. -/
lemma yields_endTx (hal : FhssRoleHal) :
    Yields adapter (fhssAudioAdapterEndTx adapter hal) := by
  unfold fhssAudioAdapterEndTx
  by_cases hmode : adapter.initialized = false ∨ adapter.txActive = false
  · rw [if_pos hmode]
    exact .refl adapter
  rw [if_neg hmode]
  have htx : adapter.txActive = true := by
    by_contra htx
    exact hmode (.inr (by simpa using htx))
  have hota : FlagsFit adapter → adapter.otaActive = false := by
    intro h
    by_contra hota
    have := h.tx (by simpa using hota)
    rw [htx] at this
    cases this
  refine ⟨fun h => ⟨h.ota, fun _ => rfl⟩, fun h h' => ?_⟩
  rw [h.inactive (hota h)] at h'
  cases h'

/-- The initialization of the adapter. -/
lemma yields_init (store : FhssConfigStore) (hal : FhssAudioAdapterInitHal) :
    Yields adapter (fhssAudioAdapterInit protocol store hal).1 := by
  have hflags : (fhssAudioAdapterInit protocol store hal).1.otaFhssActive = false ∧
      (fhssAudioAdapterInit protocol store hal).1.otaActive = false := by
    unfold fhssAudioAdapterInit
    split_ifs
    · exact ⟨rfl, rfl⟩
    · split
      · exact ⟨rfl, rfl⟩
      · split <;> exact ⟨rfl, rfl⟩
  refine .of_inactive hflags.1 fun _ h => ?_
  rw [hflags.2] at h
  cases h

/-- An activation that finds no running RX task fails without hopping on, or builds the
controller from the configuration it has written. -/
lemma fhssAudioAdapterEnterOtaFhss_stopped
    (hstopped : ¬ (adapter.service.config.role = .rx ∧ adapter.service.taskRunning = true))
    (config : OtaFhssConfigFields) (hal : OtaRoleHal) :
    let answer := fhssAudioAdapterEnterOtaFhss deriveSessionHopSeed adapter config hal
    (answer.2 ≠ .ok ∧ Yields adapter answer.1) ∨
      (answer.2 = .ok ∧ ∃ service, FreshRxSession service ∧
        service.config =
          { adapter.service.config.withOta deriveSessionHopSeed config with role := .rx } ∧
        answer.1 =
          { adapter with service := service, otaRxQueue := [], otaFhssActive := true }) := by
  unfold fhssAudioAdapterEnterOtaFhss
  by_cases hmutex : hal.mutexTaken = false
  · rw [if_pos hmutex]
    exact .inl ⟨(fun heq => by cases heq), .refl adapter⟩
  rw [if_neg hmutex]
  dsimp only
  generalize hwritten : { adapter.service with
    config := adapter.service.config.withOta deriveSessionHopSeed config } = written
  have hfails : ∀ service : FhssService, Yields adapter
      { adapter with service := service, otaRxQueue := [], otaFhssActive := false } :=
    fun service => .of_inactive rfl fun h => h.tx
  by_cases hinit : written.initialized = false
  · have hset : fhssServiceSetRole written .rx hal.role = (written, false) := by
      unfold fhssServiceSetRole
      rw [if_pos hinit]
    rw [hset]
    exact .inl ⟨(fun heq => by cases heq), hfails written⟩
  · rcases fhssServiceSetRole_rx_cases (by simpa using hinit) hal.role with
      ⟨hrole, hrunning, -⟩ | ⟨-, service, -, hconfig, ⟨hset, -⟩ | ⟨hset, hfresh, -⟩⟩
    · subst hwritten
      exact absurd ⟨hrole, hrunning⟩ hstopped
    · rw [hset]
      exact .inl ⟨(fun heq => by cases heq), hfails service⟩
    · rw [hset]
      refine .inr ⟨rfl, service, hfresh, ?_, rfl⟩
      rw [hconfig, hfresh.role, ← hwritten]

end Adapter

/-! ## The invariant -/

/-- The configuration of the service, the controllers behind the callbacks and the pending
configuration agree while OTA hops. -/
structure ProvenInv (product : Product) : Prop where
  flags : FlagsFit product.adapter
  generation : product.adapter.otaFhssActive = true →
    product.adapter.service.controller.core.generation =
      product.adapter.service.config.generation
  raised : product.adapter.otaFhssActive = true → ∀ callback ∈ product.callbacks,
    SameCore product.adapter.service.controller.core callback.raisedBy.core
  promoting : ∀ generation raisedBy, .promote generation raisedBy ∈ product.callbacks →
    raisedBy.core.generation = generation
  alike : ∀ blob, product.store.pending = some blob → ∀ core ∈ product.liveCores,
    HopsLike deriveSessionHopSeed blob.stored.fields core
  inHand : ∀ fields blob, product.consumer.inHand = some fields →
    product.store.pending = some blob → blob.stored.fields = fields

/-- A step that puts nothing on the air, stores nothing and takes nothing in hand. -/
structure AddsNothing (product product' : Product) : Prop where
  pending : ∀ blob, product'.store.pending = some blob → product.store.pending = some blob
  callbacks : ∀ callback ∈ product'.callbacks, callback ∈ product.callbacks
  inHand : ∀ fields, product'.consumer.inHand = some fields →
    product.consumer.inHand = some fields
  adapter : Yields product.adapter product'.adapter

section Step

variable {product product' product'' : Product}

/-- What is on the air. -/
lemma mem_liveCores {core : FhssCore} : core ∈ product.liveCores ↔
    (product.adapter.otaFhssActive = true ∧
      core = product.adapter.service.controller.core) ∨
    ∃ generation raisedBy, .promote generation raisedBy ∈ product.callbacks ∧
      core = raisedBy.core := by
  unfold Product.liveCores
  rw [List.mem_append, List.mem_filterMap]
  constructor
  · rintro (hcore | ⟨callback, hmem, hpromotes⟩)
    · by_cases hactive : product.adapter.otaFhssActive = true
      · rw [if_pos hactive] at hcore
        exact .inl ⟨hactive, List.mem_singleton.mp hcore⟩
      · rw [if_neg hactive] at hcore
        cases hcore
    · cases callback with
      | report event raisedBy => cases hpromotes
      | promote generation raisedBy =>
        exact .inr ⟨generation, raisedBy, hmem, (Option.some.inj hpromotes).symm⟩
  · rintro (⟨hactive, rfl⟩ | ⟨generation, raisedBy, hmem, rfl⟩)
    · rw [if_pos hactive]
      exact .inl (List.mem_singleton_self _)
    · exact .inr ⟨_, hmem, rfl⟩

/-- Cores that hop the same way are like the same configurations. -/
lemma HopsLike.congr {fields : OtaFhssConfigFields} {core core' : FhssCore}
    (h : HopsLike deriveSessionHopSeed fields core) (hsame : SameCore core core') :
    HopsLike deriveSessionHopSeed fields core' := by
  intro hgeneration
  rw [hsame.hopSequence_eq]
  exact h (hgeneration.trans hsame.generation_eq)

lemma AddsNothing.refl (product : Product) : AddsNothing product product :=
  ⟨fun _ => id, fun _ => id, fun _ => id, .refl _⟩

lemma AddsNothing.trans (h : AddsNothing product product')
    (h' : AddsNothing product' product'') : AddsNothing product product'' where
  pending blob hblob := h.pending blob (h'.pending blob hblob)
  callbacks callback hmem := h.callbacks callback (h'.callbacks callback hmem)
  inHand fields hfields := h.inHand fields (h'.inHand fields hfields)
  adapter := h.adapter.trans h'.adapter

/-- The store, the callbacks, the consumer and the adapter are as they were. -/
lemma AddsNothing.of_same (hstore : product'.store = product.store)
    (hcallbacks : product'.callbacks = product.callbacks)
    (hconsumer : product'.consumer = product.consumer)
    (hadapter : product'.adapter = product.adapter) : AddsNothing product product' := by
  constructor
  · rw [hstore]
    exact fun _ => id
  · rw [hcallbacks]
    exact fun _ => id
  · rw [hconsumer]
    exact fun _ => id
  · rw [hadapter]
    exact .refl _

/-- Another adapter. -/
lemma AddsNothing.of_adapter (product : Product) {adapter : FhssAudioAdapter}
    (hyields : Yields product.adapter adapter) :
    AddsNothing product { product with adapter := adapter } :=
  ⟨fun _ => id, fun _ => id, fun _ => id, hyields⟩

/-- A phase without an activation. -/
lemma AddsNothing.of_consumer (product : Product) (client : OtaClientContext)
    {phase : ConsumerPhase} (hphase : phase.inHand = none) :
    AddsNothing product { product with client := client, consumer := phase } := by
  refine ⟨fun _ => id, fun _ => id, fun fields hfields => ?_, .refl _⟩
  rw [show phase.inHand = some fields from hfields] at hphase
  cases hphase

lemma addsNothing_post (product : Product) (event : FsmEvent) :
    AddsNothing product (product.post event) :=
  ⟨fun _ => id, fun _ => id, fun _ => id, .refl _⟩

lemma addsNothing_clientEvent (product : Product) (event : OtaClientEvent) :
    AddsNothing product (product.clientEvent event) := by
  unfold Product.clientEvent
  split
  · exact .refl product
  · exact addsNothing_post product _
  · exact .of_consumer product product.client rfl

lemma addsNothing_clientEvents (product : Product) (events : List OtaClientEventCall) :
    AddsNothing product (product.clientEvents events).1 := by
  unfold Product.clientEvents
  dsimp only
  induction events generalizing product with
  | nil => exact .refl product
  | cons call events ih => exact (addsNothing_clientEvent product call.event).trans (ih _)

lemma addsNothing_ran (product : Product) (outcome : OtaClientOutcome) :
    AddsNothing product (product.ran outcome).1 :=
  (show AddsNothing product { product with client := outcome.context } from
    ⟨fun _ => id, fun _ => id, fun _ => id, .refl _⟩).trans (addsNothing_clientEvents _ _)

lemma AddsNothing.orError {answer : Product × Bool} (h : AddsNothing product answer.1) :
    AddsNothing product (Product.orError answer) := by
  obtain ⟨product', _ | _⟩ := answer
  · exact h.trans (addsNothing_post product' .error)
  · exact h

/-- What adds nothing keeps the invariant. -/
lemma ProvenInv.of_addsNothing (h : ProvenInv deriveSessionHopSeed product)
    (hadds : AddsNothing product product') : ProvenInv deriveSessionHopSeed product' := by
  have hsame := hadds.adapter.same h.flags
  constructor
  · exact hadds.adapter.flags h.flags
  · intro hactive
    have heq := hsame hactive
    rw [heq] at hactive ⊢
    exact h.generation hactive
  · intro hactive callback hmem
    have heq := hsame hactive
    rw [heq] at hactive ⊢
    exact h.raised hactive callback (hadds.callbacks callback hmem)
  · intro generation raisedBy hmem
    exact h.promoting generation raisedBy (hadds.callbacks _ hmem)
  · intro blob hblob core hcore
    refine h.alike blob (hadds.pending blob hblob) core (mem_liveCores.mpr ?_)
    rcases mem_liveCores.mp hcore with ⟨hactive, rfl⟩ | ⟨generation, raisedBy, hmem, rfl⟩
    · have heq := hsame hactive
      rw [heq] at hactive ⊢
      exact .inl ⟨hactive, rfl⟩
    · exact .inr ⟨generation, raisedBy, hadds.callbacks _ hmem, rfl⟩
  · intro fields blob hfields hblob
    exact h.inHand fields blob (hadds.inHand fields hfields) (hadds.pending blob hblob)

/-! ## `fsm_task` -/

lemma addsNothing_transitionTo (product : Product) (next : FsmState) (hal : FsmTaskHal) :
    AddsNothing product (product.transitionTo next hal) := by
  unfold Product.transitionTo
  split_ifs
  · exact .refl product
  all_goals exact ⟨fun _ => id, fun _ => id, fun _ => id, .refl _⟩

lemma addsNothing_react (product : Product) (event : FsmEvent) (hal : FsmTaskHal) :
    AddsNothing product (product.react event hal) := by
  unfold Product.react
  split
  · exact .refl product
  · exact addsNothing_transitionTo product _ hal
  all_goals exact ⟨fun _ => id, fun _ => id, fun _ => id, .refl _⟩

lemma addsNothing_startOtaRadio (product : Product) (hal : FsmTaskHal) :
    AddsNothing product (product.startOtaRadio hal).1 := by
  unfold Product.startOtaRadio
  by_cases htask : product.radioTask = true
  · rw [if_pos htask]
    exact .refl product
  rw [if_neg htask]
  have hbegin := @yields_beginOta product.adapter hal.beginOta
  generalize fhssAudioAdapterBeginOta product.adapter hal.beginOta = begun at hbegin ⊢
  obtain ⟨adapter, _ | _⟩ := begun
  · exact .of_adapter product hbegin
  · dsimp only
    split_ifs
    · exact .of_adapter product (hbegin.trans (yields_endOta hal.endOta))
    · exact ⟨fun _ => id, fun _ => id, fun _ => id, hbegin⟩

lemma addsNothing_act (product : Product) (action : FsmAction) (hal : FsmTaskHal) :
    AddsNothing product (product.act protocol deriveSessionHopSeed action hal).1 := by
  unfold Product.act
  cases action with
  | transitionTo next => exact addsNothing_transitionTo product next hal
  | abort => exact addsNothing_ran product _
  | abortInterrupted =>
    dsimp only
    split_ifs
    · exact addsNothing_ran product _
    · exact .refl product
  | armTimer timer =>
    cases timer with
    | sync =>
      dsimp only
      exact .orError (.of_same rfl rfl rfl rfl)
    | resync =>
      dsimp only
      split_ifs
      · exact .of_same rfl rfl rfl rfl
      · exact .of_same rfl rfl rfl rfl
  | stopRadioTask => exact .of_same rfl rfl rfl rfl
  | endOta => exact .of_adapter product (yields_endOta hal.endOta)
  | startOtaRadio =>
    dsimp only
    exact .orError (addsNothing_startOtaRadio product hal)
  | beginTx =>
    dsimp only
    exact .orError (.of_adapter product
      (yields_beginTx deriveSessionHopSeed hal.random hal.txRole))
  | endTx => exact .of_adapter product (yields_endTx hal.txRole)
  | startRxAudio =>
    dsimp only
    exact .orError (.refl product)
  | bootInit =>
    dsimp only
    split_ifs
    · exact addsNothing_post product .initDone
    · exact .of_same rfl rfl rfl rfl
  | initAdapter =>
    dsimp only
    exact .orError (.of_adapter product
      (yields_init protocol product.store hal.adapterInit))
  | initClient =>
    dsimp only
    exact .orError (.of_same rfl rfl rfl rfl)

/-- A step of `fsm_task` adds nothing. -/
lemma addsNothing_fsmTask (product : Product) (hal : FsmTaskHal) :
    AddsNothing product (product.fsmTask protocol deriveSessionHopSeed hal).1 := by
  have htaken : ∀ (task : List FsmAction) (events : List FsmEvent),
      AddsNothing product { product with task := task, events := events } :=
    fun _ _ => ⟨fun _ => id, fun _ => id, fun _ => id, .refl _⟩
  unfold Product.fsmTask
  split
  · split_ifs
    · exact .refl product
    · exact (htaken _ product.events).trans (addsNothing_act protocol deriveSessionHopSeed _ _ hal)
  · split
    · exact .refl product
    · exact (htaken product.task _).trans (addsNothing_react _ _ hal)

/-! ## The consumer task -/

/-- A handler that leaves the store alone. -/
lemma addsNothing_handled (product : Product) {outcome : OtaConsumerOutcome}
    (hstore : outcome.state.store = product.store) :
    AddsNothing product (product.handled outcome).1 := by
  have hclient : AddsNothing product { product with
      client := outcome.state.context, store := outcome.state.store } := by
    rw [hstore]
    exact ⟨fun _ => id, fun _ => id, fun _ => id, .refl _⟩
  exact hclient.trans (addsNothing_clientEvents _ _)

/-- A receive timeout leaves the store alone. -/
lemma store_otaConsumerHandleReceiveTimeout (state : OtaConsumerState)
    (timeoutTicks now : UInt32) :
    (otaConsumerHandleReceiveTimeout protocol state timeoutTicks now).state.store =
      state.store := by
  unfold otaConsumerHandleReceiveTimeout
  dsimp only
  split_ifs <;> rfl

/-- Of the packets only CONFIG writes to the store. -/
lemma otaConsumerProcessPacket_store (state : OtaConsumerState) (packet : Bytes)
    (env : OtaConsumerEnv) :
    (otaConsumerProcessPacket protocol sha256 state packet env).state.store = state.store ∨
      ∃ fields, protocol.peekType packet = some .fhssConfig ∧
        protocol.decodeFhssConfig packet = some fields ∧
        otaConsumerTargetMatches protocol state.context fields.targetDeviceId = true ∧
        otaConsumerIsOtaMode state.context env.otaMode = true ∧
        (otaConsumerProcessPacket protocol sha256 state packet env).state.store =
          (fhssConfigStoreSavePending protocol state.store fields env.nvs).2 := by
  unfold otaConsumerProcessPacket
  split
  · refine .inl ?_
    unfold otaConsumerHandleDiscover
    split_ifs
    · rfl
    · rfl
    · dsimp only
      split <;> rfl
    · rfl
  · refine .inl ?_
    unfold otaConsumerHandleStart
    split <;> rfl
  · refine .inl ?_
    unfold otaConsumerHandleData
    split
    · split_ifs <;> rfl
    · dsimp only
      split_ifs <;> rfl
  · refine .inl ?_
    unfold otaConsumerHandleEnd
    split <;> rfl
  · rename_i hpeek
    unfold otaConsumerHandleFhssConfig
    cases hdecode : protocol.decodeFhssConfig packet with
    | none => exact .inl rfl
    | some fields =>
      dsimp only
      by_cases htarget : otaConsumerTargetMatches protocol state.context
          fields.targetDeviceId = false
      · rw [if_pos htarget]
        exact .inl rfl
      rw [if_neg htarget]
      by_cases hmode : otaConsumerIsOtaMode state.context env.otaMode = false
      · rw [if_pos hmode]
        exact .inl rfl
      rw [if_neg hmode]
      refine .inr ⟨fields, hpeek, rfl, by simpa using htarget, by simpa using hmode, ?_⟩
      split_ifs <;> rfl
  · refine .inl ?_
    unfold otaConsumerHandleFhssActivate
    split
    · rfl
    · dsimp only
      split_ifs <;> rfl
  · exact .inl rfl

/-- An activation that passes its checks takes the pending configuration in hand. -/
lemma otaConsumerActivateChecks_inr {state : OtaConsumerState} {packet : Bytes} {send : EspErr}
    {nvs : NvsHal} {sends : List OtaSend} {pending : OtaFhssConfigFields}
    (h : otaConsumerActivateChecks protocol state packet send nvs = .inr (sends, pending)) :
    fhssConfigStoreLoadPending protocol state.store nvs = .ok pending := by
  unfold otaConsumerActivateChecks at h
  cases hdecode : protocol.decodeFhssActivate packet with
  | none =>
    rw [hdecode] at h
    cases h
  | some activate =>
    rw [hdecode] at h
    dsimp only at h
    by_cases htarget : otaConsumerTargetMatches protocol state.context
        activate.targetDeviceId = false
    · rw [if_pos htarget] at h
      cases h
    rw [if_neg htarget] at h
    cases hload : fhssConfigStoreLoadPending protocol state.store nvs with
    | error err =>
      rw [hload] at h
      cases h
    | ok pending' =>
      rw [hload] at h
      dsimp only at h
      split_ifs at h
      obtain ⟨-, rfl⟩ := Prod.mk.inj (Sum.inr.inj h)
      rfl

/-- Another pending configuration, while none is in hand. -/
lemma ProvenInv.store (h : ProvenInv deriveSessionHopSeed product) {store : FhssConfigStore}
    (hhand : product.consumer.inHand = none)
    (halike : ∀ blob, store.pending = some blob → product.store.pending = some blob ∨
      ∀ core ∈ product.liveCores, HopsLike deriveSessionHopSeed blob.stored.fields core) :
    ProvenInv deriveSessionHopSeed { product with store := store } where
  flags := h.flags
  generation := h.generation
  raised := h.raised
  promoting := h.promoting
  alike blob hblob := by
    rcases halike blob hblob with hsame | hlike
    · exact h.alike blob hsame
    · exact hlike
  inHand fields blob hfields := by
    rw [show product.consumer.inHand = some fields from hfields] at hhand
    cases hhand

/-- The pending configuration is taken in hand. -/
lemma ProvenInv.take (h : ProvenInv deriveSessionHopSeed product) {nvs : NvsHal}
    {pending : OtaFhssConfigFields} {phase : ConsumerPhase}
    (hload : fhssConfigStoreLoadPending protocol product.store nvs = .ok pending)
    (hphase : phase.inHand = some pending) :
    ProvenInv deriveSessionHopSeed { product with consumer := phase } where
  flags := h.flags
  generation := h.generation
  raised := h.raised
  promoting := h.promoting
  alike := h.alike
  inHand fields blob hfields hblob := by
    obtain ⟨blob', hblob', heq⟩ := pending_of_loadPending protocol hload
    have hsame : blob' = blob := Option.some.inj (hblob'.symm.trans hblob)
    have hfields' : pending = fields := Option.some.inj (hphase.symm.trans hfields)
    rw [← hsame, heq, hfields']

/-- What the consumer stores. -/
lemma storesConfig_eq {packet : Bytes} {client : OtaClientContext} {hal : ConsumerTaskHal}
    {fields : OtaFhssConfigFields} (hnext : product.nextPacket = some (packet, client))
    (hpeek : protocol.peekType packet = some .fhssConfig)
    (hdecode : protocol.decodeFhssConfig packet = some fields)
    (htarget : otaConsumerTargetMatches protocol client fields.targetDeviceId = true)
    (hmode : otaConsumerIsOtaMode client (fsmOtaModeCallback product.fsm) = true)
    (hsupported : configIsSupported protocol fields = true)
    (hopen : hal.nvs.openReadWrite = .ok) (hset : hal.nvs.setBlob = .ok) :
    product.storesConfig protocol (.consumerTask hal) = some fields := by
  unfold Product.storesConfig
  dsimp only
  rw [hnext]
  dsimp only
  rw [hpeek, hdecode]
  dsimp only
  rw [htarget, hmode, hsupported, hopen, hset]
  exact if_pos rfl

/-- A packet that the consumer takes. -/
lemma provenInv_processPacket {packet : Bytes} {client : OtaClientContext}
    {hal : ConsumerTaskHal} (h : ProvenInv deriveSessionHopSeed product)
    (hnext : product.nextPacket = some (packet, client))
    (hkeeps : product.KeepsProven protocol deriveSessionHopSeed (.consumerTask hal)) :
    ProvenInv deriveSessionHopSeed
      ({ product with client := client }.processPacket protocol sha256 packet hal).1 := by
  have hreceived : ProvenInv deriveSessionHopSeed { product with client := client } :=
    h.of_addsNothing deriveSessionHopSeed ⟨fun _ => id, fun _ => id, fun _ => id, .refl _⟩
  have hwaiting := consumer_of_nextPacket hnext
  unfold Product.processPacket
  dsimp only
  split
  · split
    · exact hreceived
    · exact hreceived.of_addsNothing _ (.of_consumer _ client rfl)
  · split
    · exact hreceived
    · split
      · exact hreceived
      · exact hreceived.of_addsNothing _
          ((AddsNothing.of_consumer _ client.applying rfl).trans (addsNothing_clientEvents _ _))
  · split
    · exact hreceived
    · rename_i hchecks
      have hload := otaConsumerActivateChecks_inr protocol hchecks
      exact (hreceived.take protocol deriveSessionHopSeed hload rfl).of_addsNothing _
        (addsNothing_clientEvents _ _)
  · rcases otaConsumerProcessPacket_store protocol sha256 ⟨client, product.store⟩ packet
        (hal.env { product with client := client }) with
      hsame | ⟨fields, hpeek, hdecode, htarget, hmode, hstore⟩
    · exact hreceived.of_addsNothing _ (addsNothing_handled _ hsame)
    · generalize otaConsumerProcessPacket protocol sha256 ⟨client, product.store⟩ packet
        (hal.env { product with client := client }) = outcome at hstore ⊢
      have hsaved : ProvenInv deriveSessionHopSeed
          { product with client := client, store := outcome.state.store } := by
        refine hreceived.store deriveSessionHopSeed ?_ fun blob hblob => ?_
        · rw [show ({ product with client := client } : Product).consumer = .waiting from
            hwaiting]
          rfl
        · rw [hstore] at hblob
          rcases pending_savePending protocol hblob with
            hold | ⟨hsupported, hopen, hset, rfl⟩
          · exact .inl hold
          · exact .inr (hkeeps.2 fields (storesConfig_eq protocol hnext hpeek hdecode htarget
              hmode hsupported hopen hset))
      exact hsaved.of_addsNothing _ (addsNothing_handled _ rfl)

/-- The controller of a fresh session hops by the configuration written for it. -/
lemma hopsLike_of_fresh {service : FhssService} {config : FhssServiceConfig}
    {fields : OtaFhssConfigFields} (hfresh : FreshRxSession service)
    (hconfig : service.config =
      { config.withOta deriveSessionHopSeed fields with role := .rx }) :
    service.controller.core.generation = service.config.generation ∧
      HopsLike deriveSessionHopSeed fields service.controller.core := by
  obtain ⟨-, -, hcore⟩ := controllerReady_init hfresh.built
  obtain ⟨-, -, -, hgeneration, hhop⟩ := coreReady_init hcore
  refine ⟨hgeneration, fun _ => ?_⟩
  rw [hconfig] at hhop
  exact hhop

/-- An activation puts the configuration in hand on the air. -/
lemma ProvenInv.enter (h : ProvenInv deriveSessionHopSeed product) {service : FhssService}
    {fields : OtaFhssConfigFields} (hhand : product.consumer.inHand = some fields)
    (hidle : product.callbacks = []) (hota : product.adapter.otaActive = true)
    (hfresh : FreshRxSession service)
    (hconfig : service.config =
      { product.adapter.service.config.withOta deriveSessionHopSeed fields with role := .rx }) :
    ProvenInv deriveSessionHopSeed { product with
      adapter := { product.adapter with
        service := service, otaRxQueue := [], otaFhssActive := true }
      consumer := .waiting } := by
  obtain ⟨hgeneration, hlike⟩ := hopsLike_of_fresh deriveSessionHopSeed hfresh hconfig
  have hnone : ∀ callback, callback ∉ product.callbacks := by
    intro callback
    rw [hidle]
    exact List.not_mem_nil
  constructor
  · exact ⟨fun _ => hota, h.flags.tx⟩
  · exact fun _ => hgeneration
  · exact fun _ callback hmem => absurd hmem (hnone callback)
  · exact fun generation raisedBy hmem => absurd hmem (hnone _)
  · intro blob hblob core hcore
    rcases mem_liveCores.mp hcore with ⟨-, rfl⟩ | ⟨generation, raisedBy, hmem, -⟩
    · rw [h.inHand fields blob hhand hblob]
      exact hlike
    · exact absurd hmem (hnone _)
  · intro fields' blob hfields'
    cases hfields'

/-- The end of an activation. -/
lemma addsNothing_activationDone (product : Product) (pending : OtaFhssConfigFields)
    (err : EspErr) : AddsNothing product (product.activationDone pending err).1 := by
  unfold Product.activationDone
  by_cases hok : err = .ok
  · rw [if_pos hok]
    exact .refl product
  · rw [if_neg hok]
    exact addsNothing_clientEvents product _

/-- An activation that takes the radio finds OTA mode, no running RX task and no callback. -/
lemma of_entersRunning_eq_false {pending : OtaFhssConfigFields} {hal : ConsumerTaskHal}
    (hconsumer : product.consumer = .enteringFhss pending) (hwait : ¬ product.mustWait .rx = true)
    (h : product.entersRunning (.consumerTask hal) = false) :
    product.adapter.otaActive = true ∧
      ¬ (product.adapter.service.config.role = .rx ∧
        product.adapter.service.taskRunning = true) ∧
      product.callbacks = [] := by
  have hfound : product.adapter.otaActive = true ∧
      ¬ (product.adapter.service.config.role = .rx ∧
        product.adapter.service.taskRunning = true) := by
    unfold Product.entersRunning at h
    simpa [hconsumer, hwait] using h
  refine ⟨hfound.1, hfound.2, ?_⟩
  by_contra hbusy
  exact hwait (decide_eq_true ⟨hbusy, hfound.2⟩)

/-- A step of the consumer keeps the invariant. -/
lemma provenInv_consumerTask (h : ProvenInv deriveSessionHopSeed product)
    {hal : ConsumerTaskHal}
    (hkeeps : product.KeepsProven protocol deriveSessionHopSeed (.consumerTask hal)) :
    ProvenInv deriveSessionHopSeed
      (product.consumerTask protocol sha256 deriveSessionHopSeed hal).1 := by
  unfold Product.consumerTask
  by_cases htask : product.client.consumerTask = false
  · rw [if_pos htask]
    exact h
  rw [if_neg htask]
  have hwaits : AddsNothing product { product with consumer := .waiting } :=
    .of_consumer product product.client rfl
  cases hconsumer : product.consumer with
  | waiting =>
    dsimp only
    split
    · rename_i packet client hreceive
      have hnext := nextPacket_of_receive hconsumer hreceive
      have hprocessed := provenInv_processPacket protocol sha256 deriveSessionHopSeed h hnext hkeeps
      rw [hconsumer] at hprocessed
      exact hprocessed
    · rename_i err client hreceive
      have hclient : AddsNothing product { product with client := client } :=
        ⟨fun _ => id, fun _ => id, fun _ => id, .refl _⟩
      rw [hconsumer] at hclient
      exact h.of_addsNothing _ (hclient.trans (addsNothing_handled _
        (store_otaConsumerHandleReceiveTimeout protocol ⟨client, product.store⟩ _ _)))
  | starting fields =>
    exact h.of_addsNothing _ (hwaits.trans (addsNothing_handled _ rfl))
  | verifying fields =>
    exact h.of_addsNothing _ (hwaits.trans (addsNothing_ran _ _))
  | activating pending =>
    dsimp only
    split_ifs
    · exact h.of_addsNothing _ (hwaits.trans (addsNothing_activationDone _ _ _))
    · exact h.of_addsNothing _ (hwaits.trans (addsNothing_activationDone _ _ _))
    · refine h.of_addsNothing _ ⟨fun _ => id, fun _ => id, fun fields hfields => ?_, .refl _⟩
      rw [hconsumer]
      exact hfields
  | enteringFhss pending =>
    dsimp only
    by_cases hwait : product.mustWait .rx = true
    · rw [if_pos hwait]
      exact h
    rw [if_neg hwait]
    obtain ⟨hota, hstopped, hidle⟩ := of_entersRunning_eq_false hconsumer hwait hkeeps.1
    have hanswer := fhssAudioAdapterEnterOtaFhss_stopped deriveSessionHopSeed hstopped pending
      hal.role
    generalize fhssAudioAdapterEnterOtaFhss deriveSessionHopSeed product.adapter pending
      hal.role = answer at hanswer ⊢
    obtain ⟨adapter, err⟩ := answer
    rcases hanswer with ⟨-, hyields⟩ | ⟨-, service, hfresh, hconfig, rfl⟩
    · exact h.of_addsNothing _ ((hwaits.trans (.of_adapter _ hyields)).trans
        (addsNothing_activationDone _ _ _))
    · have hhand : product.consumer.inHand = some pending := by
        rw [hconsumer]
        rfl
      exact (h.enter deriveSessionHopSeed hhand hidle hota hfresh hconfig).of_addsNothing _
        (addsNothing_activationDone _ _ _)
  | showingFailure =>
    exact h.of_addsNothing _ (hwaits.trans (addsNothing_post _ _))

/-! ## The service task -/

/-- What is reported was raised by the controller of the turn. -/
lemma mem_reports {events : List RxEvent} {raisedBy : FhssSyncController}
    {callback : ServiceCallback} (h : callback ∈ reports events raisedBy) :
    ∃ event, callback = .report event raisedBy := by
  obtain ⟨event, -, hevent⟩ := List.mem_filterMap.mp h
  cases event with
  | report event => exact ⟨event, (Option.some.inj hevent).symm⟩
  | _ => cases hevent

/-- A turn of the RX task keeps the hops of OTA and begins no promotion. -/
lemma provenInv_serviceTurn (h : ProvenInv deriveSessionHopSeed product) (turn : RxTurn) :
    ProvenInv deriveSessionHopSeed (product.serviceTurn protocol deriveSessionHopSeed turn) := by
  unfold Product.serviceTurn
  by_cases hturn : product.callbacks = [] ∧ product.adapter.service.taskRunning = true ∧
      product.adapter.service.config.role = .rx
  swap
  · rw [if_neg hturn]
    exact h
  rw [if_pos hturn]
  have hsame : product.adapter.otaFhssActive = true → SameHops product.adapter.service
      (rxTaskTurn protocol (some deriveSessionHopSeed) product.adapter.service
        (product.adapter.answered turn)).1 := by
    intro hactive
    rw [FhssAudioAdapter.answered, if_pos hactive]
    exact sameHops_rxTaskTurn_withoutVoice protocol (some deriveSessionHopSeed) _ turn
  generalize rxTaskTurn protocol (some deriveSessionHopSeed) product.adapter.service
    (product.adapter.answered turn) = taken at hsame ⊢
  obtain ⟨service, events⟩ := taken
  dsimp only at hsame ⊢
  have hreport : ∀ generation raisedBy,
      .promote generation raisedBy ∉ reports events service.controller := by
    intro generation raisedBy hmem
    obtain ⟨event, heq⟩ := mem_reports hmem
    cases heq
  constructor
  · exact ⟨h.flags.ota, h.flags.tx⟩
  · intro hactive
    have hhops := hsame hactive
    exact (hhops.core.generation_eq.trans (h.generation hactive)).trans
      (congrArg FhssServiceConfig.generation hhops.config_eq.symm)
  · intro hactive callback hmem
    obtain ⟨event, rfl⟩ := mem_reports hmem
    exact .refl _
  · exact fun generation raisedBy hmem => absurd hmem (hreport generation raisedBy)
  · intro blob hblob core hcore
    rcases mem_liveCores.mp hcore with ⟨hactive, rfl⟩ | ⟨generation, raisedBy, hmem, -⟩
    · have hlike := h.alike blob hblob _ (mem_liveCores.mpr (.inl ⟨hactive, rfl⟩))
      exact hlike.congr deriveSessionHopSeed (hsame hactive).core
    · exact absurd hmem (hreport generation raisedBy)
  · exact h.inHand

/-- The callback of SYNC_ACQUIRED has read the generation that OTA hops by. -/
lemma ProvenInv.promote (h : ProvenInv deriveSessionHopSeed product)
    {raisedBy : FhssSyncController} {rest : List ServiceCallback}
    (hcallbacks : product.callbacks = .report .syncAcquired raisedBy :: rest)
    (hactive : product.adapter.otaFhssActive = true) :
    ProvenInv deriveSessionHopSeed { product with
      callbacks := .promote product.adapter.service.config.generation raisedBy :: rest } := by
  have hraised := h.raised hactive (.report .syncAcquired raisedBy)
    (by rw [hcallbacks]; exact List.mem_cons_self)
  have hrest : ∀ callback ∈ rest, callback ∈ product.callbacks := by
    intro callback hmem
    rw [hcallbacks]
    exact List.mem_cons_of_mem _ hmem
  have hlive : ∀ blob, product.store.pending = some blob →
      HopsLike deriveSessionHopSeed blob.stored.fields product.adapter.service.controller.core :=
    fun blob hblob => h.alike blob hblob _ (mem_liveCores.mpr (.inl ⟨hactive, rfl⟩))
  constructor
  · exact h.flags
  · exact h.generation
  · intro _ callback hmem
    rcases List.mem_cons.mp hmem with rfl | hmem
    · exact hraised
    · exact h.raised hactive callback (hrest callback hmem)
  · intro generation raisedBy' hmem
    rcases List.mem_cons.mp hmem with heq | hmem
    · obtain ⟨rfl, rfl⟩ := ServiceCallback.promote.inj heq
      exact hraised.generation_eq.trans (h.generation hactive)
    · exact h.promoting generation raisedBy' (hrest _ hmem)
  · intro blob hblob core hcore
    rcases mem_liveCores.mp hcore with ⟨-, rfl⟩ | ⟨generation, raisedBy', hmem, rfl⟩
    · exact hlive blob hblob
    · rcases List.mem_cons.mp hmem with heq | hmem
      · obtain ⟨rfl, rfl⟩ := ServiceCallback.promote.inj heq
        exact (hlive blob hblob).congr deriveSessionHopSeed hraised
      · exact h.alike blob hblob _
          (mem_liveCores.mpr (.inr ⟨generation, raisedBy', hrest _ hmem, rfl⟩))
  · exact h.inHand

/-- A callback of the service keeps the invariant. -/
lemma provenInv_serviceCallback (h : ProvenInv deriveSessionHopSeed product) (nvs : NvsHal) :
    ProvenInv deriveSessionHopSeed (product.serviceCallback protocol nvs).1 := by
  have hdrops : ∀ {callback rest}, product.callbacks = callback :: rest →
      AddsNothing product { product with callbacks := rest } := by
    intro callback rest hcallbacks
    refine ⟨fun _ => id, fun callback' hmem => ?_, fun _ => id, .refl _⟩
    rw [hcallbacks]
    exact List.mem_cons_of_mem _ hmem
  unfold Product.serviceCallback
  split
  · exact h
  · rename_i raisedBy rest hcallbacks
    unfold fhssAudioAdapterGetOtaFhssGeneration
    by_cases hactive : product.adapter.otaFhssActive = false
    · rw [if_pos hactive]
      exact h.of_addsNothing _ (hdrops hcallbacks)
    · rw [if_neg hactive]
      exact h.promote deriveSessionHopSeed hcallbacks (by simpa using hactive)
  · rename_i hcallbacks
    exact h.of_addsNothing _ ((hdrops hcallbacks).trans (addsNothing_post _ _))
  · rename_i hcallbacks
    exact h.of_addsNothing _ ((hdrops hcallbacks).trans (addsNothing_post _ _))
  · rename_i generation raisedBy rest hcallbacks
    dsimp only
    refine h.of_addsNothing _ (AddsNothing.trans ?_ (addsNothing_post _ _))
    exact ⟨fun blob hblob => pending_activate protocol hblob, (hdrops hcallbacks).callbacks,
      fun _ => id, .refl _⟩

/-- **A step keeps what is proven.** -/
lemma provenInv_productStep (h : ProvenInv deriveSessionHopSeed product) {input : ProductInput}
    (hkeeps : product.KeepsProven protocol deriveSessionHopSeed input) :
    ProvenInv deriveSessionHopSeed
      (productStep protocol sha256 deriveSessionHopSeed product input).1 := by
  have hsame : ∀ {product' : Product}, product'.store = product.store →
      product'.callbacks = product.callbacks → product'.consumer = product.consumer →
      product'.adapter = product.adapter → ProvenInv deriveSessionHopSeed product' :=
    fun hstore hcallbacks hconsumer hadapter =>
      h.of_addsNothing _ (.of_same hstore hcallbacks hconsumer hadapter)
  unfold productStep
  cases input with
  | fsmTask hal =>
    exact h.of_addsNothing _ (addsNothing_fsmTask protocol deriveSessionHopSeed product hal)
  | consumerTask hal =>
    exact provenInv_consumerTask protocol sha256 deriveSessionHopSeed h hkeeps
  | serviceTurn turn => exact provenInv_serviceTurn protocol deriveSessionHopSeed h turn
  | serviceCallback nvs => exact provenInv_serviceCallback protocol deriveSessionHopSeed h nvs
  | txError taskEnds =>
    dsimp only
    split_ifs
    · have hended : ProvenInv deriveSessionHopSeed { product with
          adapter := { product.adapter with
            service := { product.adapter.service with taskRunning := !taskEnds } } } :=
        ⟨⟨h.flags.ota, h.flags.tx⟩, h.generation, h.raised, h.promoting, h.alike, h.inHand⟩
      exact hended.of_addsNothing _ (addsNothing_post _ _)
    · exact h
  | timerCommand =>
    dsimp only
    split <;> exact hsame rfl rfl rfl rfl
  | rxDone => exact hsame rfl rfl rfl rfl
  | onPttEvent =>
    dsimp only
    obtain heq | ⟨pressed, heq⟩ := onPttEvent_cases product
    · rw [heq]
      exact hsame rfl rfl rfl rfl
    · rw [heq]
      exact hsame rfl rfl rfl rfl
  | _ =>
    dsimp only
    split_ifs <;> exact hsame rfl rfl rfl rfl

/-! ## Promotions and activations -/

/-- An event of the client, or a packet. -/
def ProductEffect.IsOutward : ProductEffect → Prop
  | .client _ => True
  | .send _ => True
  | _ => False

lemma isOutward_sends (sends : List OtaSend) :
    ∀ effect ∈ sends.map ProductEffect.send, effect.IsOutward := by
  intro effect hmem
  obtain ⟨send, -, rfl⟩ := List.mem_map.mp hmem
  trivial

lemma isOutward_clientEvents (product : Product) (events : List OtaClientEventCall) :
    ∀ effect ∈ (product.clientEvents events).2, effect.IsOutward := by
  intro effect hmem
  obtain ⟨call, -, rfl⟩ := List.mem_map.mp hmem
  trivial

lemma isOutward_append {effects effects' : List ProductEffect}
    (h : ∀ effect ∈ effects, effect.IsOutward) (h' : ∀ effect ∈ effects', effect.IsOutward) :
    ∀ effect ∈ effects ++ effects', effect.IsOutward :=
  List.forall_mem_append.mpr ⟨h, h'⟩

lemma isOutward_handled (product : Product) (outcome : OtaConsumerOutcome) :
    ∀ effect ∈ (product.handled outcome).2, effect.IsOutward :=
  isOutward_append (isOutward_clientEvents { product with
    client := outcome.state.context, store := outcome.state.store } _) (isOutward_sends _)

/-- `fsm_task` neither promotes nor activates. -/
lemma isOutward_fsmTask (product : Product) (hal : FsmTaskHal) :
    ∀ effect ∈ (product.fsmTask protocol deriveSessionHopSeed hal).2, effect.IsOutward := by
  have hnone : ∀ effect ∈ ([] : List ProductEffect), effect.IsOutward :=
    fun _ hmem => absurd hmem List.not_mem_nil
  unfold Product.fsmTask
  split
  · split_ifs
    · exact hnone
    · rename_i action rest _ _
      unfold Product.act
      cases action with
      | abort => exact isOutward_clientEvents _ _
      | abortInterrupted =>
        dsimp only
        split_ifs
        · exact isOutward_clientEvents _ _
        · exact hnone
      | armTimer timer =>
        cases timer with
        | sync => exact hnone
        | resync =>
          dsimp only
          split_ifs <;> exact hnone
      | bootInit =>
        dsimp only
        split_ifs <;> exact hnone
      | _ => exact hnone
  · split <;> exact hnone

/-- Nor does a packet. -/
lemma isOutward_processPacket (product : Product) (packet : Bytes) (hal : ConsumerTaskHal) :
    ∀ effect ∈ (product.processPacket protocol sha256 packet hal).2, effect.IsOutward := by
  unfold Product.processPacket
  dsimp only
  split
  · split
    · exact isOutward_sends _
    · exact fun _ hmem => absurd hmem List.not_mem_nil
  · split
    · exact isOutward_sends _
    · split
      · exact isOutward_sends _
      · exact isOutward_clientEvents _ _
  · split
    · exact isOutward_sends _
    · exact isOutward_append (isOutward_clientEvents _ _) (isOutward_sends _)
  · exact isOutward_handled _ _

/-- What the end of an activation lets the outside see. -/
lemma effects_activationDone {pending : OtaFhssConfigFields} {err : EspErr}
    {effect : ProductEffect} (hmem : effect ∈ (product.activationDone pending err).2) :
    effect.IsOutward ∨ effect = .activated pending err := by
  unfold Product.activationDone at hmem
  by_cases hok : err = .ok
  · rw [if_pos hok] at hmem
    exact .inr (List.mem_singleton.mp hmem)
  · rw [if_neg hok] at hmem
    rcases List.mem_cons.mp hmem with heq | hmem
    · exact .inr heq
    · exact .inl (isOutward_clientEvents _ _ effect hmem)

/-- The consumer does not promote; an activation that it reports as successful is one for which the
adapter has taken the radio. -/
lemma effects_consumerTask {hal : ConsumerTaskHal} {effect : ProductEffect}
    (hmem : effect ∈ (product.consumerTask protocol sha256 deriveSessionHopSeed hal).2) :
    effect.IsOutward ∨ ∃ pending err, effect = .activated pending err ∧
      (err = .ok → product.consumer = .enteringFhss pending ∧ ¬ product.mustWait .rx = true ∧
        (fhssAudioAdapterEnterOtaFhss deriveSessionHopSeed product.adapter pending
          hal.role).2 = .ok ∧
        (product.consumerTask protocol sha256 deriveSessionHopSeed hal).1.adapter =
          (fhssAudioAdapterEnterOtaFhss deriveSessionHopSeed product.adapter pending
            hal.role).1) := by
  unfold Product.consumerTask at hmem ⊢
  by_cases htask : product.client.consumerTask = false
  · rw [if_pos htask] at hmem
    cases hmem
  rw [if_neg htask] at hmem ⊢
  cases hconsumer : product.consumer with
  | waiting =>
    rw [hconsumer] at hmem
    dsimp only at hmem
    split at hmem
    · exact .inl (isOutward_processPacket protocol sha256 _ _ hal effect hmem)
    · exact .inl (isOutward_handled _ _ effect hmem)
  | starting fields =>
    rw [hconsumer] at hmem
    exact .inl (isOutward_handled _ _ effect hmem)
  | verifying fields =>
    rw [hconsumer] at hmem
    exact .inl (isOutward_append (isOutward_clientEvents _ _) (isOutward_sends _) effect hmem)
  | activating pending =>
    rw [hconsumer] at hmem
    dsimp only at hmem
    split_ifs at hmem
    · rcases effects_activationDone hmem with houtward | rfl
      · exact .inl houtward
      · exact .inr ⟨pending, .fail, rfl, fun heq => by cases heq⟩
    · rcases effects_activationDone hmem with houtward | rfl
      · exact .inl houtward
      · exact .inr ⟨pending, .invalidArg, rfl, fun heq => by cases heq⟩
    · cases hmem
  | enteringFhss pending =>
    rw [hconsumer] at hmem
    dsimp only at hmem ⊢
    by_cases hwait : product.mustWait .rx = true
    · rw [if_pos hwait] at hmem
      cases hmem
    rw [if_neg hwait] at hmem ⊢
    rcases effects_activationDone hmem with houtward | rfl
    · exact .inl houtward
    · refine .inr ⟨pending, _, rfl, fun hok => ⟨rfl, hwait, hok, ?_⟩⟩
      rw [(posts_activationDone _ _ _).adapter_eq]
  | showingFailure =>
    rw [hconsumer] at hmem
    cases hmem

/-- A callback of the service lets the outside see a promotion at most. -/
lemma effects_serviceCallback {nvs : NvsHal} {effect : ProductEffect}
    (hmem : effect ∈ (product.serviceCallback protocol nvs).2) :
    ∃ generation err raisedBy rest, effect = .promoted generation err ∧
      product.callbacks = .promote generation raisedBy :: rest := by
  unfold Product.serviceCallback at hmem
  split at hmem
  · cases hmem
  · split at hmem <;> cases hmem
  · cases hmem
  · cases hmem
  · rename_i generation raisedBy rest hcallbacks
    exact ⟨generation, _, raisedBy, rest, List.mem_singleton.mp hmem, hcallbacks⟩

/-- Only the callbacks of the service promote, and only the consumer activates. -/
lemma effects_productStep {input : ProductInput} {effect : ProductEffect}
    (hmem : effect ∈ (productStep protocol sha256 deriveSessionHopSeed product input).2) :
    effect.IsOutward ∨
      (∃ generation err raisedBy rest, effect = .promoted generation err ∧
        product.callbacks = .promote generation raisedBy :: rest) ∨
      ∃ hal pending err, input = .consumerTask hal ∧ effect = .activated pending err ∧
        (err = .ok → product.consumer = .enteringFhss pending ∧ ¬ product.mustWait .rx = true ∧
          (fhssAudioAdapterEnterOtaFhss deriveSessionHopSeed product.adapter pending
            hal.role).2 = .ok ∧
          (productStep protocol sha256 deriveSessionHopSeed product input).1.adapter =
            (fhssAudioAdapterEnterOtaFhss deriveSessionHopSeed product.adapter pending
              hal.role).1) := by
  unfold productStep at hmem ⊢
  cases input with
  | fsmTask hal => exact .inl (isOutward_fsmTask protocol deriveSessionHopSeed product hal _ hmem)
  | consumerTask hal =>
    rcases effects_consumerTask protocol sha256 deriveSessionHopSeed hmem with
      houtward | ⟨pending, err, heq, hentered⟩
    · exact .inl houtward
    · exact .inr (.inr ⟨hal, pending, err, rfl, heq, hentered⟩)
  | serviceCallback nvs => exact .inr (.inl (effects_serviceCallback protocol hmem))
  | serviceTurn turn => cases hmem
  | rxDone => cases hmem
  | onPttEvent => cases hmem
  | timerCommand =>
    dsimp only at hmem
    split at hmem <;> cases hmem
  | _ =>
    dsimp only at hmem
    split_ifs at hmem <;> cases hmem

/-- A core takes SYNC packets of its own generation only. -/
lemma generation_of_processRx {core : FhssCore} {buffer : Bytes}
    {expectedRxTimeUs actualRxTimeUs : ℤ} {result : FhssCoreRxResult}
    (h : (fhssCoreProcessRx protocol core buffer expectedRxTimeUs actualRxTimeUs).2 =
      .ok result) : result.packet.generation = core.generation := by
  unfold fhssCoreProcessRx at h
  by_cases hinit : core.initialized = false
  · rw [if_pos hinit] at h
    cases h
  rw [if_neg hinit] at h
  cases hdecode : fhssSyncPacketDecode protocol buffer with
  | error status =>
    rw [hdecode] at h
    cases h
  | ok packet =>
    rw [hdecode] at h
    dsimp only at h
    by_cases hgeneration : packet.generation ≠ core.generation
    · rw [if_pos hgeneration] at h
      cases h
    rw [if_neg hgeneration] at h
    split at h
    · cases h
    split at h
    · cases h
    split at h
    · cases h
    split at h
    · cases h
    split at h
    · obtain rfl := Except.ok.inj h
      exact not_ne_iff.mp hgeneration
    · cases h

/-- A step promotes only what has been proven: the controller behind a promotion has its generation,
takes SYNC packets of no other one and hops by the pending configuration of that generation; and an
activation that returns `ESP_OK` has built the controller anew from its configuration. -/
structure Product.PromotesProven (product : Product) (input : ProductInput) : Prop where
  promoted : ∀ generation err,
    .promoted generation err ∈ (productStep protocol sha256 deriveSessionHopSeed product input).2 →
    ∃ raisedBy rest, product.callbacks = .promote generation raisedBy :: rest ∧
      raisedBy.core.generation = generation ∧
      (∀ buffer expectedRxTimeUs actualRxTimeUs result,
        (fhssCoreProcessRx protocol raisedBy.core buffer expectedRxTimeUs actualRxTimeUs).2 =
          .ok result → result.packet.generation = generation) ∧
      ∀ nvs pending, fhssConfigStoreLoadPending protocol product.store nvs = .ok pending →
        pending.generation = generation →
        fhssHopSequenceInitSeeded (hopChannels pending) (deriveSessionHopSeed pending.seed)
          pending.reservedChannel = .ok raisedBy.core.hopSequence
  activated : ∀ config,
    .activated config .ok ∈ (productStep protocol sha256 deriveSessionHopSeed product input).2 →
    let after := (productStep protocol sha256 deriveSessionHopSeed product input).1.adapter
    after.otaFhssActive = true ∧ FreshRxSession after.service ∧ after.service.config =
      { product.adapter.service.config.withOta deriveSessionHopSeed config with role := .rx }

/-- A promotion is the step of the callback that has read its generation. -/
lemma callbacks_of_promoted {input : ProductInput} {generation : UInt32} {err : EspErr}
    (hmem : .promoted generation err ∈
      (productStep protocol sha256 deriveSessionHopSeed product input).2) :
    ∃ raisedBy rest, product.callbacks = .promote generation raisedBy :: rest := by
  rcases effects_productStep protocol sha256 deriveSessionHopSeed hmem with
    houtward | ⟨generation', err', raisedBy, rest, heq, hcallbacks⟩ | ⟨_, _, _, _, heq, _⟩
  · exact houtward.elim
  · obtain ⟨rfl, -⟩ := ProductEffect.promoted.inj heq
    exact ⟨raisedBy, rest, hcallbacks⟩
  · cases heq

/-- A successful activation is the step of the consumer that takes the radio. -/
lemma of_activated {input : ProductInput} {config : OtaFhssConfigFields}
    (hmem : .activated config .ok ∈
      (productStep protocol sha256 deriveSessionHopSeed product input).2) :
    ∃ hal, input = .consumerTask hal ∧ product.consumer = .enteringFhss config ∧
      ¬ product.mustWait .rx = true ∧
      (fhssAudioAdapterEnterOtaFhss deriveSessionHopSeed product.adapter config
        hal.role).2 = .ok ∧
      (productStep protocol sha256 deriveSessionHopSeed product input).1.adapter =
        (fhssAudioAdapterEnterOtaFhss deriveSessionHopSeed product.adapter config
          hal.role).1 := by
  rcases effects_productStep protocol sha256 deriveSessionHopSeed hmem with
    houtward | ⟨_, _, _, _, heq, _⟩ | ⟨hal, pending, err, rfl, heq, hentered⟩
  · exact houtward.elim
  · cases heq
  · obtain ⟨rfl, rfl⟩ := ProductEffect.activated.inj heq
    exact ⟨hal, rfl, hentered rfl⟩

/-- What the invariant says about the next step. -/
lemma ProvenInv.promotesProven (h : ProvenInv deriveSessionHopSeed product) {input : ProductInput}
    (hkeeps : product.KeepsProven protocol deriveSessionHopSeed input) :
    product.PromotesProven protocol sha256 deriveSessionHopSeed input where
  promoted generation err hmem := by
    obtain ⟨raisedBy, rest, hcallbacks⟩ :=
      callbacks_of_promoted protocol sha256 deriveSessionHopSeed hmem
    have hpromote : .promote generation raisedBy ∈ product.callbacks := by
      rw [hcallbacks]
      exact List.mem_cons_self
    have hgeneration := h.promoting generation raisedBy hpromote
    refine ⟨raisedBy, rest, hcallbacks, hgeneration, ?_, fun nvs pending hload hsame => ?_⟩
    · intro buffer expectedRxTimeUs actualRxTimeUs result hresult
      exact (generation_of_processRx protocol hresult).trans hgeneration
    · obtain ⟨blob, hblob, rfl⟩ := pending_of_loadPending protocol hload
      exact h.alike blob hblob raisedBy.core
        (mem_liveCores.mpr (.inr ⟨generation, raisedBy, hpromote, rfl⟩))
        (hsame.trans hgeneration.symm)
  activated config hmem := by
    obtain ⟨hal, rfl, hconsumer, hwait, hok, hadapter⟩ :=
      of_activated protocol sha256 deriveSessionHopSeed hmem
    obtain ⟨-, hstopped, -⟩ := of_entersRunning_eq_false hconsumer hwait hkeeps.1
    rcases fhssAudioAdapterEnterOtaFhss_stopped deriveSessionHopSeed hstopped config hal.role with
      ⟨hfails, -⟩ | ⟨-, service, hfresh, hconfig, hentered⟩
    · exact absurd hok hfails
    · rw [hadapter, hentered]
      exact ⟨rfl, hfresh, hconfig⟩

/-- At boot nothing is on the air. -/
lemma provenInv_boot (store : FhssConfigStore) :
    ProvenInv deriveSessionHopSeed (Product.boot store) where
  flags := ⟨(fun h => by cases h), (fun h => by cases h)⟩
  generation := fun h => by cases h
  raised := fun h => by cases h
  promoting := fun _ _ hmem => absurd hmem List.not_mem_nil
  alike := fun _ _ _ hmem => absurd hmem List.not_mem_nil
  inHand := fun _ _ h => by cases h

end Step

/-- **Only a proven generation is promoted.**  In a run from boot whose steps keep what is on the
air proven, every step promotes only what has been proven. -/
theorem product_promotesProven (store : FhssConfigStore) {before after : List ProductInput}
    {input : ProductInput}
    (h : Guarded (productStep protocol sha256 deriveSessionHopSeed)
      (Product.KeepsProven protocol deriveSessionHopSeed) (Product.boot store)
      (before ++ input :: after)) :
    (finalState (productStep protocol sha256 deriveSessionHopSeed) (Product.boot store)
      before).PromotesProven protocol sha256 deriveSessionHopSeed input := by
  obtain ⟨hbefore, hkeeps⟩ := h.split
  have hinv : ProvenInv deriveSessionHopSeed
      (finalState (productStep protocol sha256 deriveSessionHopSeed) (Product.boot store)
        before) :=
    @invariant_finalState _ _ _ (productStep protocol sha256 deriveSessionHopSeed)
      (ProvenInv deriveSessionHopSeed) (Product.KeepsProven protocol deriveSessionHopSeed)
      (fun _ _ hs hok => provenInv_productStep protocol sha256 deriveSessionHopSeed hs hok) _
      (provenInv_boot deriveSessionHopSeed store) before hbefore
  exact hinv.promotesProven protocol sha256 deriveSessionHopSeed hkeeps

/-- The generation that is acquired after its activation is the one that is promoted. -/
theorem product_promotesProven_first :
    let acquired := finalState (productStep plainProtocol sampleSha256 sampleDerive)
      (Product.boot sampleStore)
      (sampleMenuOta ++ sampleHopping 8 ++ sampleAcquire 8 ++ [sampleCallback])
    acquired.PromotesProven plainProtocol sampleSha256 sampleDerive sampleCallback ∧
      .promoted 8 .ok ∈
        (productStep plainProtocol sampleSha256 sampleDerive acquired sampleCallback).2 :=
  ⟨@product_promotesProven plainProtocol sampleSha256 sampleDerive sampleStore
    (sampleMenuOta ++ sampleHopping 8 ++ sampleAcquire 8 ++ [sampleCallback]) [] sampleCallback
    (by decide +kernel), by decide +kernel⟩

/-- Generation 9 is configured and activated while generation 8 is still syncing.  The activation
returns `ESP_OK` with the controller of generation 8, and when that one has acquired, generation 9
is promoted. -/
theorem product_promotes_unheard_generation :
    let step := productStep plainProtocol sampleSha256 sampleDerive
    let activating := sampleMenuOta ++ sampleHopping 8 ++ sampleHopping 9
    let activated := finalState step (Product.boot sampleStore) activating
    let acquired := finalState step activated (sampleAcquire 8 ++ [sampleCallback])
    .activated (sampleHopFields 9) .ok ∈
        (outputs step (Product.boot sampleStore) activating).flatten ∧
      activated.adapter.service.controller.core.generation = 8 ∧
      .promoted 9 .ok ∈ (step acquired sampleCallback).2 ∧
      (acquired.callbacks.filterMap ServiceCallback.promotes).map FhssCore.generation = [8] := by
  decide +kernel

end FhssOtaRadio
