import FhssOtaRadio.Product.Promotion
import FhssOtaRadio.Product.SessionAgreement

/-!
# The resync grace

While an update is received over the hopping link, `fsm_task` answers a loss of synchronization with
a timer and keeps the session; the recovery stops the timer.  A recovery is another acquisition,
though, and at every acquisition the callback promotes the pending configuration, which the first
promotion has erased; and the timer can expire when the recovery is queued but not yet handled.
`KeepsSession` says that neither happens.
-/

namespace FhssOtaRadio

open EventQueue Machine

variable (protocol : OtaProtocol) (sha256 : Bytes → Sha256Digest)
  (deriveSessionHopSeed : UInt32 → UInt32)

/-! ## The condition -/

/-- The pending configuration has this generation, and NVS lets it be promoted. -/
def FhssConfigStore.promotable (store : FhssConfigStore) (generation : UInt32) (nvs : NvsHal) :
    Bool :=
  match fhssConfigStoreLoadPending protocol store nvs with
  | .error _ => false
  | .ok pending => pending.generation == generation && nvs.openReadWrite == .ok &&
      nvs.setBlob == .ok && nvs.eraseKey == .ok && nvs.commit == .ok

/-- An event does not lead out of `OTA_RECEIVING`. -/
def FsmEvent.KeepsReceiving (event : FsmEvent) : Prop :=
  fsmNext .otaReceiving event = .otaReceiving

instance : DecidablePred FsmEvent.KeepsReceiving := fun event =>
  inferInstanceAs (Decidable (fsmNext .otaReceiving event = .otaReceiving))

/-- An image is received in `OTA_RECEIVING`, where `fsm_task` waits for an event or starts the
grace, and no event is queued that leads out of the state. -/
structure Product.HoldsSession (product : Product) : Prop where
  fsm : product.fsm = .otaReceiving
  client : product.client.state = .receiving
  task : product.task = [] ∨ product.task = [.armTimer .resync]
  events : ∀ event ∈ product.events, event.KeepsReceiving

/-- A step of the service task, of the timer task or of `fsm_task` keeps the session: the command
that starts the grace has room, the grace does not expire, the service reports no error, and what
is acquired can be promoted. -/
def Product.keepsSession (product : Product) : ProductInput → Bool
  | .fsmTask hal => decide (product.task = []) || hal.timerCommand
  | .timerCommand => true
  | .timerExpires timer => decide (timer ≠ .resync ∨ .resync ∉ product.timers.running)
  | .serviceTurn _ => true
  | .serviceCallback nvs =>
      match product.callbacks with
      | .report .error _ :: _ => false
      | .promote generation _ :: _ => product.store.promotable protocol generation nvs
      | _ => true
  | _ => false

section Step

variable {product : Product}

/-- A generation is promoted when it can be, and only then. -/
lemma fhssConfigStoreActivate_ok_iff (store : FhssConfigStore) (generation : UInt32)
    (nvs : NvsHal) : (fhssConfigStoreActivate protocol store generation nvs).1 = .ok ↔
      store.promotable protocol generation nvs = true := by
  unfold fhssConfigStoreActivate FhssConfigStore.promotable
  cases fhssConfigStoreLoadPending protocol store nvs with
  | error err => simp
  | ok pending =>
    dsimp only
    by_cases hgeneration : pending.generation = generation
    · by_cases hopen : nvs.openReadWrite = .ok
      · by_cases hset : nvs.setBlob = .ok
        · by_cases herase : nvs.eraseKey = .ok
          · simp [hgeneration, hopen, hset, herase]
          · simp [hgeneration, hopen, hset, herase]
        · simp [hgeneration, hopen, hset]
      · simp [hgeneration, hopen]
    · simp [hgeneration]

/-- An event that keeps the session is posted. -/
lemma Product.HoldsSession.post (h : product.HoldsSession) {event : FsmEvent}
    (hkeeps : event.KeepsReceiving) : (product.post event).HoldsSession where
  fsm := h.fsm
  client := h.client
  task := h.task
  events event' hmem := by
    by_cases hnew : event' = event
    · rw [hnew]
      exact hkeeps
    · exact h.events event' (mem_of_mem_post hmem hnew)

/-- What `fsm_task` does with an event that keeps the session. -/
lemma fsmTaskReaction_of_keepsReceiving {event : FsmEvent} (h : event.KeepsReceiving) :
    fsmTaskReaction .otaReceiving event = .ignore ∨
      fsmTaskReaction .otaReceiving event = .transitionTo .otaReceiving ∨
      fsmTaskReaction .otaReceiving event = .stopResyncTimer ∨
      fsmTaskReaction .otaReceiving event = .armResyncTimer := by
  revert h
  cases event <;> decide

/-- The reaction to such an event. -/
lemma holdsSession_react (h : product.HoldsSession) {event : FsmEvent}
    (hevent : event.KeepsReceiving) (hal : FsmTaskHal) :
    (product.react event hal).HoldsSession ∧
      (product.react event hal).client = product.client := by
  have hreaction := fsmTaskReaction_of_keepsReceiving hevent
  rw [← h.fsm] at hreaction
  unfold Product.react
  rcases hreaction with hreact | hreact | hreact | hreact
  · rw [hreact]
    exact ⟨h, rfl⟩
  · rw [hreact]
    dsimp only
    unfold Product.transitionTo
    rw [if_pos rfl]
    exact ⟨h, rfl⟩
  · rw [hreact]
    exact ⟨⟨h.fsm, h.client, h.task, h.events⟩, rfl⟩
  · rw [hreact]
    exact ⟨⟨h.fsm, h.client, .inr rfl, h.events⟩, rfl⟩

/-- `fsm_task` keeps the session. -/
lemma holdsSession_fsmTask (h : product.HoldsSession) {hal : FsmTaskHal}
    (hkeeps : product.keepsSession protocol (.fsmTask hal) = true) :
    (product.fsmTask protocol deriveSessionHopSeed hal).1.HoldsSession ∧
      (product.fsmTask protocol deriveSessionHopSeed hal).1.client = product.client ∧
      (product.fsmTask protocol deriveSessionHopSeed hal).2 = [] := by
  unfold Product.fsmTask
  rcases h.task with htask | htask
  · rw [htask]
    cases hevents : product.events with
    | nil => exact ⟨h, rfl, rfl⟩
    | cons event rest =>
      have hqueued := h.events
      rw [hevents, List.forall_mem_cons] at hqueued
      have htaken : Product.HoldsSession { product with events := rest } :=
        ⟨h.fsm, h.client, h.task, hqueued.2⟩
      have hreact := holdsSession_react htaken hqueued.1 hal
      rw [htask] at hreact
      exact ⟨hreact.1, hreact.2, rfl⟩
  · have hroom : hal.timerCommand = true := by
      unfold Product.keepsSession at hkeeps
      simpa [htask] using hkeeps
    rw [htask]
    dsimp only
    rw [if_neg (by unfold Product.blocked; exact Bool.false_ne_true)]
    unfold Product.act
    dsimp only
    rw [if_pos hroom]
    exact ⟨⟨h.fsm, h.client, .inl rfl, h.events⟩, rfl, rfl⟩

/-- So does a callback of the service that promotes what can be promoted. -/
lemma holdsSession_serviceCallback (h : product.HoldsSession) {nvs : NvsHal}
    (hkeeps : product.keepsSession protocol (.serviceCallback nvs) = true) :
    (product.serviceCallback protocol nvs).1.HoldsSession ∧
      (product.serviceCallback protocol nvs).1.client = product.client := by
  have hnext : ∀ (callbacks : List ServiceCallback) (store : FhssConfigStore),
      Product.HoldsSession { product with callbacks := callbacks, store := store } :=
    fun _ _ => ⟨h.fsm, h.client, h.task, h.events⟩
  unfold Product.keepsSession at hkeeps
  unfold Product.serviceCallback
  split
  · exact ⟨h, rfl⟩
  · split
    · exact ⟨hnext _ product.store, rfl⟩
    · exact ⟨hnext _ product.store, rfl⟩
  · exact ⟨(hnext _ product.store).post (by decide), rfl⟩
  · rename_i hcallbacks
    rw [hcallbacks] at hkeeps
    cases hkeeps
  · rename_i generation raisedBy rest hcallbacks
    rw [hcallbacks] at hkeeps
    have hok := (fhssConfigStoreActivate_ok_iff protocol product.store generation nvs).mpr hkeeps
    dsimp only
    rw [if_pos hok]
    exact ⟨(hnext rest _).post (by decide), rfl⟩

/-- A step keeps the session, its client as a whole, and what the client shows. -/
lemma holdsSession_productStep (h : product.HoldsSession) {input : ProductInput}
    (hkeeps : product.keepsSession protocol input = true) :
    (productStep protocol sha256 deriveSessionHopSeed product input).1.HoldsSession ∧
      (productStep protocol sha256 deriveSessionHopSeed product input).1.client =
        product.client ∧
      ∀ event, .client event ∉
        (productStep protocol sha256 deriveSessionHopSeed product input).2 := by
  unfold productStep
  cases input with
  | fsmTask hal =>
    obtain ⟨hholds, hclient, heffects⟩ :=
      holdsSession_fsmTask protocol deriveSessionHopSeed h hkeeps
    dsimp only
    rw [heffects]
    exact ⟨hholds, hclient, fun _ => List.not_mem_nil⟩
  | timerCommand =>
    dsimp only
    split
    · exact ⟨h, rfl, fun _ => List.not_mem_nil⟩
    · exact ⟨⟨h.fsm, h.client, h.task, h.events⟩, rfl, fun _ => List.not_mem_nil⟩
  | timerExpires timer =>
    dsimp only
    have hstopped : Product.HoldsSession
        { product with timers := product.timers.handle (.stop timer) } :=
      ⟨h.fsm, h.client, h.task, h.events⟩
    by_cases hrunning : timer ∈ product.timers.running
    · rw [if_pos hrunning]
      cases timer with
      | sync => exact ⟨hstopped.post (by decide), rfl, fun _ => List.not_mem_nil⟩
      | resync =>
        unfold Product.keepsSession at hkeeps
        simp [hrunning] at hkeeps
    · rw [if_neg hrunning]
      exact ⟨h, rfl, fun _ => List.not_mem_nil⟩
  | serviceTurn turn =>
    dsimp only
    unfold Product.serviceTurn
    split_ifs
    · exact ⟨⟨h.fsm, h.client, h.task, h.events⟩, rfl, fun _ => List.not_mem_nil⟩
    · exact ⟨h, rfl, fun _ => List.not_mem_nil⟩
  | serviceCallback nvs =>
    obtain ⟨hholds, hclient⟩ := holdsSession_serviceCallback protocol h hkeeps
    refine ⟨hholds, hclient, fun event hmem => ?_⟩
    obtain ⟨_, _, _, _, heq, -⟩ := effects_serviceCallback protocol hmem
    cases heq
  | _ => cases hkeeps

/-! ## Without a pending configuration -/

/-- The events of the client store nothing. -/
lemma store_clientEvents (product : Product) (events : List OtaClientEventCall) :
    (product.clientEvents events).1.store = product.store := by
  unfold Product.clientEvents
  dsimp only
  induction events generalizing product with
  | nil => rfl
  | cons call events ih =>
    rw [List.foldl_cons, ih]
    unfold Product.clientEvent
    split <;> rfl

/-- Nor does the end of an activation. -/
lemma store_activationDone (product : Product) (pending : OtaFhssConfigFields) (err : EspErr) :
    (product.activationDone pending err).1.store = product.store := by
  unfold Product.activationDone
  split_ifs
  · rfl
  · exact store_clientEvents product _

/-- A packet stores no pending configuration but a CONFIG that is to be stored. -/
lemma pending_processPacket {packet : Bytes} {client : OtaClientContext} {hal : ConsumerTaskHal}
    (hnext : product.nextPacket = some (packet, client))
    (hnone : product.storesConfig protocol (.consumerTask hal) = none)
    (hpending : product.store.pending = none) :
    ({ product with client := client }.processPacket protocol sha256 packet
      hal).1.store.pending = none := by
  unfold Product.processPacket
  dsimp only
  split
  · split <;> exact hpending
  · split
    · exact hpending
    · split
      · exact hpending
      · rw [store_clientEvents]
        exact hpending
  · split
    · exact hpending
    · rw [store_clientEvents]
      exact hpending
  · unfold Product.handled
    dsimp only
    rw [store_clientEvents]
    rcases otaConsumerProcessPacket_store protocol sha256 ⟨client, product.store⟩ packet
        (hal.env { product with client := client }) with
      hsame | ⟨fields, hpeek, hdecode, htarget, hmode, hstore⟩
    · rw [hsame]
      exact hpending
    · rw [hstore]
      cases hsaved : (fhssConfigStoreSavePending protocol product.store fields
          hal.nvs).2.pending with
      | none => exact hsaved
      | some blob =>
        rcases pending_savePending protocol hsaved with hold | ⟨hsupported, hopen, hset, -⟩
        · rw [hpending] at hold
          cases hold
        · rw [storesConfig_eq protocol hnext hpeek hdecode htarget hmode hsupported hopen
            hset] at hnone
          cases hnone

/-- A step that stores no configuration leaves none pending. -/
lemma pending_productStep {input : ProductInput}
    (hnone : product.storesConfig protocol input = none) (hpending : product.store.pending = none) :
    (productStep protocol sha256 deriveSessionHopSeed product input).1.store.pending = none := by
  unfold productStep
  cases input with
  | fsmTask hal =>
    rw [Option.eq_none_iff_forall_ne_some]
    intro blob hblob
    have hbefore := (addsNothing_fsmTask protocol deriveSessionHopSeed product hal).pending blob
      hblob
    rw [hpending] at hbefore
    cases hbefore
  | consumerTask hal =>
    dsimp only
    unfold Product.consumerTask
    by_cases htask : product.client.consumerTask = false
    · rw [if_pos htask]
      exact hpending
    rw [if_neg htask]
    cases hconsumer : product.consumer with
    | waiting =>
      dsimp only
      split
      · rename_i packet client hreceive
        have hnext := nextPacket_of_receive hconsumer hreceive
        have hprocessed := pending_processPacket protocol sha256 hnext hnone hpending
        rw [hconsumer] at hprocessed
        exact hprocessed
      · unfold Product.handled
        dsimp only
        rw [store_clientEvents, store_otaConsumerHandleReceiveTimeout]
        exact hpending
    | starting fields =>
      unfold Product.handled
      dsimp only
      rw [store_clientEvents]
      exact hpending
    | verifying fields =>
      unfold Product.ran
      dsimp only
      rw [store_clientEvents]
      exact hpending
    | activating pending =>
      dsimp only
      split_ifs
      · rw [store_activationDone]
        exact hpending
      · rw [store_activationDone]
        exact hpending
      · exact hpending
    | enteringFhss pending =>
      dsimp only
      split_ifs
      · exact hpending
      · rw [store_activationDone]
        exact hpending
    | showingFailure => exact hpending
  | serviceTurn turn =>
    dsimp only
    unfold Product.serviceTurn
    split_ifs <;> exact hpending
  | serviceCallback nvs =>
    dsimp only
    unfold Product.serviceCallback
    split
    · exact hpending
    · split <;> exact hpending
    · exact hpending
    · exact hpending
    · rw [fhssConfigStoreActivate_of_pending_eq_none protocol hpending]
      exact hpending
  | timerCommand =>
    dsimp only
    split <;> exact hpending
  | rxDone => exact hpending
  | onPttEvent =>
    dsimp only
    obtain heq | ⟨pressed, heq⟩ := onPttEvent_cases product
    · rw [heq]
      exact hpending
    · rw [heq]
      exact hpending
  | _ =>
    dsimp only
    split_ifs <;> exact hpending

/-- **A second acquisition fails.**  When a promotion has left no configuration pending and none is
stored afterwards, whatever is acquired is not promoted and `ERROR` is posted. -/
theorem reacquisition_posts_error {inputs : List ProductInput}
    (h : Guarded (productStep protocol sha256 deriveSessionHopSeed)
      (fun product input => product.storesConfig protocol input = none) product inputs)
    (hpending : product.store.pending = none) {generation : UInt32}
    {raisedBy : FhssSyncController} {rest : List ServiceCallback}
    (hcallbacks : (finalState (productStep protocol sha256 deriveSessionHopSeed) product
      inputs).callbacks = .promote generation raisedBy :: rest) (nvs : NvsHal) :
    let reached := finalState (productStep protocol sha256 deriveSessionHopSeed) product inputs
    productStep protocol sha256 deriveSessionHopSeed reached (.serviceCallback nvs) =
      ({ reached with callbacks := rest }.post .error, [.promoted generation .invalidState]) := by
  have hkept : (finalState (productStep protocol sha256 deriveSessionHopSeed) product
      inputs).store.pending = none :=
    @invariant_finalState _ _ _ (productStep protocol sha256 deriveSessionHopSeed)
      (fun product => product.store.pending = none)
      (fun product input => product.storesConfig protocol input = none)
      (fun _ _ hs hok => pending_productStep protocol sha256 deriveSessionHopSeed hok hs) _
      hpending inputs h
  intro reached
  change reached.store.pending = none at hkept
  change reached.callbacks = _ at hcallbacks
  unfold productStep Product.serviceCallback
  dsimp only
  rw [hcallbacks]
  dsimp only
  rw [fhssConfigStoreActivate_of_pending_eq_none protocol hkept]
  rfl

end Step

/-- **Resync within the grace preserves the session.**  From a state that holds a session, in any
order of the steps of the service task, the timer task and `fsm_task` that keep it, the FSM stays in
`OTA_RECEIVING` with no `ERROR` posted, and the client is as it was and raises no event. -/
theorem resync_preserves_session (store : FhssConfigStore) {before during : List ProductInput}
    (hholds : (finalState (productStep protocol sha256 deriveSessionHopSeed) (Product.boot store)
      before).HoldsSession)
    (h : Guarded (productStep protocol sha256 deriveSessionHopSeed)
      (fun product input => product.keepsSession protocol input = true)
      (finalState (productStep protocol sha256 deriveSessionHopSeed) (Product.boot store) before)
      during) :
    let step := productStep protocol sha256 deriveSessionHopSeed
    let received := finalState step (Product.boot store) before
    let product := finalState step received during
    product.fsm = .otaReceiving ∧ .error ∉ product.events ∧ product.client = received.client ∧
      product.client.state = .receiving ∧
      ∀ event, .client event ∉ (outputs step received during).flatten := by
  intro step received product
  -- What the run so far has shown is part of the invariant.
  have hinv : product.HoldsSession ∧ product.client = received.client ∧
      ∀ event, .client event ∉ (outputs step received during).flatten := by
    refine @invariant_labels _ _ _ step
      (fun l product => product.HoldsSession ∧ product.client = received.client ∧
        ∀ event, .client event ∉ (outputs step received l).flatten)
      (fun product input => product.keepsSession protocol input = true) received
      ⟨hholds, rfl, fun _ => List.not_mem_nil⟩ ?_ during h
    rintro l input ⟨hheld, hclient, hquiet⟩ hkeeps
    obtain ⟨hheld', hclient', hquiet'⟩ :=
      holdsSession_productStep protocol sha256 deriveSessionHopSeed hheld hkeeps
    refine ⟨hheld', hclient'.trans hclient, fun event hmem => ?_⟩
    rw [outputs_append, List.flatten_append, List.mem_append] at hmem
    rcases hmem with hearlier | hlast
    · exact hquiet event hearlier
    · rw [outputs_cons, outputs_nil, List.flatten_singleton] at hlast
      exact hquiet' event hlast
  obtain ⟨hheld, hclient, hquiet⟩ := hinv
  refine ⟨hheld.fsm, fun hmem => ?_, hclient, hheld.client, hquiet⟩
  exact absurd (hheld.events .error hmem) (by decide)

/-- Five slots without a SYNC packet; the loss is reported, and the grace starts. -/
def sampleLoss : List ProductInput :=
  [sampleOtaMiss 1400100, sampleOtaMiss 1600100, sampleOtaMiss 1800100, sampleOtaMiss 2000100,
    sampleOtaMiss 2200100, sampleCallback, sampleFsmTask, sampleFsmTask] ++
    List.replicate 3 .timerCommand

/-- Generation 8 is acquired again, and `fsm_task` and the timer task handle it. -/
def sampleRecovery : List ProductInput :=
  [sampleOtaSync 8 2500000 8 2600000, sampleOtaSync 8 2600100 9 2800000,
    sampleOtaSync 8 2800100 10 3000000, sampleCallback, sampleCallback, sampleFsmTask,
    .timerCommand]

/-- The gateway sends the configuration of generation 8 once more before it opens the session. -/
def sampleResentSession : List ProductInput :=
  sampleMenuOta ++ sampleHopping 8 ++ sampleAcquire 8 ++
    [sampleCallback, sampleCallback, sampleFsmTask] ++
    [.radioPacket (sampleFhssConfig 8), sampleConsumerTask, sampleFsmTask] ++ sampleOpen

/-- With the configuration pending again, the session outlives the loss. -/
theorem resync_preserves_session_resent :
    let step := productStep plainProtocol sampleSha256 sampleDerive
    let received := finalState step (Product.boot sampleStore) sampleResentSession
    let product := finalState step received (sampleLoss ++ sampleRecovery)
    product.fsm = .otaReceiving ∧ .error ∉ product.events ∧ product.client = received.client ∧
      product.client.state = .receiving ∧
      ∀ event, .client event ∉ (outputs step received (sampleLoss ++ sampleRecovery)).flatten :=
  @resync_preserves_session plainProtocol sampleSha256 sampleDerive sampleStore
    sampleResentSession (sampleLoss ++ sampleRecovery)
    ⟨by decide +kernel, by decide +kernel, .inl (by decide +kernel), by decide +kernel⟩
    (by decide +kernel)

/-- Without it, the recovery in time ends the session: the FSM is in `ERROR`, and the client has
been aborted.  With it, but with the grace expiring while the recovery is queued, the client is
aborted as well. -/
theorem resync_loses_session :
    let step := productStep plainProtocol sampleSha256 sampleDerive
    let received := finalState step (Product.boot sampleStore) sampleHoppingSession
    let product := finalState step received
      (sampleLoss ++ sampleRecovery ++ List.replicate 5 sampleFsmTask)
    let resent := finalState step (Product.boot sampleStore) sampleResentSession
    let expired := finalState step resent (sampleLoss ++ sampleRecovery.take 5 ++
      [.timerExpires .resync] ++ List.replicate 5 sampleFsmTask)
    received.fsm = .otaReceiving ∧ received.client.state = .receiving ∧
      product.fsm = .error ∧ product.client.state = .idle ∧
      resent.fsm = .otaReceiving ∧ resent.client.state = .receiving ∧
      expired.fsm = .menuOta ∧ expired.client.state = .idle := by
  decide +kernel

end FhssOtaRadio
