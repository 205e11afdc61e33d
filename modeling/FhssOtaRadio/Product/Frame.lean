import FhssOtaRadio.Product.SessionRefinement

/-!
# What the consumer leaves alone

The consumer task works on the client, the store and its own phase, and posts events; everything
else it reaches through the adapter, when an activation takes the radio.  `Posts` says that a step
has only posted, and the lemmas go through the steps of the consumer.
-/

namespace FhssOtaRadio

open EventQueue

variable (protocol : OtaProtocol) (sha256 : Bytes → Sha256Digest)
  (deriveSessionHopSeed : UInt32 → UInt32)

/-- As far as the FSM, the radio and the timers are concerned, events have been posted and nothing
else has changed; a pressed button is not among them. -/
structure Posts (product product' : Product) : Prop where
  fsm_eq : product'.fsm = product.fsm
  task_eq : product'.task = product.task
  bootInitDone_eq : product'.bootInitDone = product.bootInitDone
  timers_eq : product'.timers = product.timers
  radioTask_eq : product'.radioTask = product.radioTask
  adapter_eq : product'.adapter = product.adapter
  callbacks_eq : product'.callbacks = product.callbacks
  events_eq : ∃ posted : List FsmEvent, .pttPress ∉ posted ∧
    product'.events = posted.foldl (post fsmEventQueueDepth) product.events

section

variable {product product' product'' : Product}

/-- Nothing has been posted. -/
lemma Posts.refl (product : Product) : Posts product product :=
  ⟨rfl, rfl, rfl, rfl, rfl, rfl, rfl, [], List.not_mem_nil, rfl⟩

lemma Posts.trans (h : Posts product product') (h' : Posts product' product'') :
    Posts product product'' := by
  obtain ⟨posted, hpress, hevents⟩ := h.events_eq
  obtain ⟨posted', hpress', hevents'⟩ := h'.events_eq
  refine ⟨h'.fsm_eq.trans h.fsm_eq, h'.task_eq.trans h.task_eq,
    h'.bootInitDone_eq.trans h.bootInitDone_eq, h'.timers_eq.trans h.timers_eq,
    h'.radioTask_eq.trans h.radioTask_eq, h'.adapter_eq.trans h.adapter_eq,
    h'.callbacks_eq.trans h.callbacks_eq, posted ++ posted', ?_, ?_⟩
  · rw [List.mem_append]
    exact not_or.mpr ⟨hpress, hpress'⟩
  · rw [hevents', hevents, List.foldl_append]

/-- Another client, store or phase posts nothing. -/
lemma Posts.of_client (product : Product) (client : OtaClientContext) (consumer : ConsumerPhase)
    (store : FhssConfigStore) :
    Posts product { product with client := client, consumer := consumer, store := store } :=
  ⟨rfl, rfl, rfl, rfl, rfl, rfl, rfl, [], List.not_mem_nil, rfl⟩

/-- One event is posted. -/
lemma posts_post (product : Product) {event : FsmEvent} (hevent : event ≠ .pttPress) :
    Posts product (product.post event) :=
  ⟨rfl, rfl, rfl, rfl, rfl, rfl, rfl, [event], by simpa using hevent.symm, rfl⟩

/-- An event of the client. -/
lemma posts_clientEvent (product : Product) (event : OtaClientEvent) :
    Posts product (product.clientEvent event) := by
  unfold Product.clientEvent fsmOtaEventCallback
  cases event with
  | failed =>
    dsimp only
    by_cases happlying : product.fsm = .otaApplying
    · rw [if_pos happlying]
      exact .of_client product product.client .showingFailure product.store
    · rw [if_neg happlying]
      exact posts_post product (by decide)
  | progress => exact .refl product
  | completed => exact .refl product
  | aborted => exact .refl product
  | _ => exact posts_post product (by decide)

/-- Several events of the client. -/
lemma posts_clientEvents (product : Product) (events : List OtaClientEventCall) :
    Posts product (product.clientEvents events).1 := by
  unfold Product.clientEvents
  dsimp only
  induction events generalizing product with
  | nil => exact .refl product
  | cons call events ih => exact (posts_clientEvent product call.event).trans (ih _)

/-- A client operation. -/
lemma posts_ran (product : Product) (outcome : OtaClientOutcome) :
    Posts product (product.ran outcome).1 :=
  (Posts.of_client product outcome.context product.consumer product.store).trans
    (posts_clientEvents _ outcome.events)

/-- A handler of the consumer. -/
lemma posts_handled (product : Product) (outcome : OtaConsumerOutcome) :
    Posts product (product.handled outcome).1 :=
  (Posts.of_client product outcome.state.context product.consumer outcome.state.store).trans
    (posts_clientEvents _ outcome.events)

/-- The end of an activation. -/
lemma posts_activationDone (product : Product) (pending : OtaFhssConfigFields) (err : EspErr) :
    Posts product (product.activationDone pending err).1 := by
  unfold Product.activationDone
  by_cases hok : err = .ok
  · rw [if_pos hok]
    exact .refl product
  · rw [if_neg hok]
    exact posts_clientEvents product _

/-- A packet. -/
lemma posts_processPacket (product : Product) (packet : Bytes) (hal : ConsumerTaskHal) :
    Posts product (product.processPacket protocol sha256 packet hal).1 := by
  unfold Product.processPacket
  dsimp only
  split
  · split
    · exact .refl product
    · exact .of_client product product.client _ product.store
  · split
    · exact .refl product
    · split
      · exact .refl product
      · exact (Posts.of_client product _ _ product.store).trans (posts_clientEvents _ _)
  · split
    · exact .refl product
    · exact (Posts.of_client product product.client _ product.store).trans
        (posts_clientEvents _ _)
  · exact posts_handled product _

/-- A step of the consumer only posts, unless an activation takes the radio. -/
lemma posts_consumerTask (product : Product) (hal : ConsumerTaskHal) :
    Posts product (product.consumerTask protocol sha256 deriveSessionHopSeed hal).1 ∨
      ∃ pending, product.consumer = .enteringFhss pending ∧
        Posts { product with
          adapter := (fhssAudioAdapterEnterOtaFhss deriveSessionHopSeed product.adapter pending
            hal.role).1 }
          (product.consumerTask protocol sha256 deriveSessionHopSeed hal).1 := by
  unfold Product.consumerTask
  by_cases htask : product.client.consumerTask = false
  · rw [if_pos htask]
    exact .inl (.refl product)
  rw [if_neg htask]
  cases hconsumer : product.consumer with
  | waiting =>
    refine .inl ?_
    dsimp only
    split
    · exact (Posts.of_client product _ _ product.store).trans
        (posts_processPacket protocol sha256 _ _ hal)
    · exact (Posts.of_client product _ _ product.store).trans (posts_handled _ _)
  | starting fields =>
    exact .inl ((Posts.of_client product product.client .waiting product.store).trans
      (posts_handled _ _))
  | verifying fields =>
    exact .inl ((Posts.of_client product product.client .waiting product.store).trans
      (posts_ran _ _))
  | activating pending =>
    refine .inl ?_
    have hwaiting := Posts.of_client product product.client .waiting product.store
    dsimp only
    split_ifs
    · exact hwaiting.trans (posts_activationDone _ _ _)
    · exact hwaiting.trans (posts_activationDone _ _ _)
    · exact .of_client product product.client _ product.store
  | enteringFhss pending =>
    dsimp only
    by_cases hwait : product.mustWait .rx = true
    · rw [if_pos hwait]
      exact .inl ⟨rfl, rfl, rfl, rfl, rfl, rfl, rfl, [], List.not_mem_nil, rfl⟩
    · rw [if_neg hwait]
      refine .inr ⟨pending, rfl, ?_⟩
      exact (Posts.of_client _ product.client .waiting product.store).trans
        (posts_activationDone _ _ _)
  | showingFailure =>
    exact .inl ((Posts.of_client product product.client .waiting product.store).trans
      (posts_post _ (by decide)))

end

end FhssOtaRadio
