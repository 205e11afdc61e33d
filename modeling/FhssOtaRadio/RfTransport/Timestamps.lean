import FhssOtaRadio.RfTransport.Operations

/-!
# Receive timestamps

The GDO0 interrupt writes the time of every sync word into a queue of depth one, at any moment
between the calls of the driver.  A timestamp from before a channel was selected must not be taken
for one of the packets on this channel: it would look almost a slot early.  Whatever interrupts
come, and whatever is in the queue to begin with, a timestamp that is handed out after a channel
was selected is that of an edge after the selection.
-/

namespace FhssOtaRadio

open Dialogue World

/-- A moment in a session with interrupts. -/
inductive RadioMoment where
  /-- `cc1101_gdo0_isr`, with the time it reads. -/
  | edge (timestampUs : ℤ)
  /-- A call of the driver. -/
  | call (e : Event RadioCall RadioCall.Answer)

/-- The queue after `xQueueReceive`: what was received is gone. -/
def receivedFrom (queue : Option ℤ) : Option ℤ → Option ℤ
  | some _ => none
  | none => queue

/-- The queue after a call. -/
def queueAfterCall (queue : Option ℤ) : (c : RadioCall) → c.Answer → Option ℤ
  | .spiTransfer _, _ => queue
  | .resetRadio, _ => queue
  | .releaseCs, _ => queue
  | .espTimerGetTime, _ => queue
  | .vTaskDelay _, _ => queue
  | .xQueueReset, _ => none
  | .xQueueReceive _, answer => receivedFrom queue answer

/-- The queue after a moment: an edge overwrites what is in it. -/
def queueAfter (queue : Option ℤ) : RadioMoment → Option ℤ
  | .edge timestampUs => some timestampUs
  | .call e => queueAfterCall queue e.1 e.2

/-- What `xQueueReceive` answers is what is in the queue. -/
def AnswersFrom (queue : Option ℤ) : RadioMoment → Prop
  | .edge _ => True
  | .call e => ∀ ticks answer, e = ⟨.xQueueReceive ticks, answer⟩ → answer = queue

/-- A session with interrupts, in which the queue is one. -/
def Interrupted : Option ℤ → List RadioMoment → Prop
  | _, [] => True
  | queue, moment :: moments =>
      AnswersFrom queue moment ∧ Interrupted (queueAfter queue moment) moments

/-- The calls among the moments. -/
def callsOf : List RadioMoment → List (Event RadioCall RadioCall.Answer)
  | [] => []
  | .edge _ :: moments => callsOf moments
  | .call e :: moments => e :: callsOf moments

variable {queue : Option ℤ} {moments moments' : List RadioMoment}

lemma interrupted_append :
    Interrupted queue (moments ++ moments') ↔
      Interrupted queue moments ∧ Interrupted (moments.foldl queueAfter queue) moments' := by
  induction moments generalizing queue with
  | nil => exact (and_iff_right trivial).symm
  | cons moment moments ih =>
    exact (and_congr_right fun _ => ih).trans and_assoc.symm

lemma callsOf_append : callsOf (moments ++ moments') = callsOf moments ++ callsOf moments' := by
  induction moments with
  | nil => rfl
  | cons moment moments ih =>
    cases moment with
    | edge timestampUs => exact ih
    | call e => exact congrArg (e :: ·) ih

/-- Moments can be split where their calls can. -/
lemma exists_split {calls rest : List (Event RadioCall RadioCall.Answer)}
    {e : Event RadioCall RadioCall.Answer} (h : callsOf moments = calls ++ e :: rest) :
    ∃ before after, moments = before ++ .call e :: after ∧ callsOf before = calls ∧
      callsOf after = rest := by
  induction moments generalizing calls with
  | nil => simp [callsOf] at h
  | cons moment moments ih =>
    cases moment with
    | edge timestampUs =>
      obtain ⟨before, after, rfl, hbefore, hafter⟩ := ih h
      exact ⟨.edge timestampUs :: before, after, rfl, hbefore, hafter⟩
    | call e' =>
      cases calls with
      | nil =>
        obtain ⟨rfl, hrest⟩ := List.cons.inj h
        exact ⟨[], moments, rfl, rfl, hrest⟩
      | cons e'' calls =>
        obtain ⟨rfl, hcalls⟩ := List.cons.inj h
        obtain ⟨before, after, rfl, hbefore, hafter⟩ := ih hcalls
        exact ⟨.call e' :: before, after, rfl, congrArg _ hbefore, hafter⟩

/-- A call puts nothing into the queue. -/
lemma queue_of_call {timestampUs : ℤ} {e : Event RadioCall RadioCall.Answer}
    (h : queueAfter queue (.call e) = some timestampUs) : queue = some timestampUs := by
  obtain ⟨c, answer⟩ := e
  cases c with
  | xQueueReset => cases h
  | xQueueReceive ticks =>
    change receivedFrom queue answer = some timestampUs at h
    cases hanswer : (answer : Option ℤ) with
    | some received =>
      rw [hanswer] at h
      cases h
    | none =>
      rw [hanswer] at h
      exact h
  | spiTransfer txData => exact h
  | resetRadio => exact h
  | releaseCs => exact h
  | espTimerGetTime => exact h
  | vTaskDelay ticks => exact h

/-- What is in the queue has been there from the beginning, or it comes from the latest edge. -/
lemma exists_edge {timestampUs : ℤ}
    (h : moments.foldl queueAfter queue = some timestampUs) :
    (queue = some timestampUs ∧ ∀ t, .edge t ∉ moments) ∨
      ∃ before after, moments = before ++ .edge timestampUs :: after ∧ ∀ t, .edge t ∉ after := by
  induction moments generalizing queue with
  | nil => exact .inl ⟨h, fun _ => List.not_mem_nil⟩
  | cons moment moments ih =>
    obtain ⟨hqueue, hnone⟩ | ⟨before, after, rfl, hlatest⟩ := ih h
    · cases moment with
      | edge timestampUs' =>
        obtain rfl := Option.some.inj hqueue
        exact .inr ⟨[], moments, rfl, hnone⟩
      | call e =>
        refine .inl ⟨?_, fun t ht => ?_⟩
        · exact queue_of_call hqueue
        · obtain hcall | ht := List.mem_cons.mp ht
          · cases hcall
          · exact hnone t ht
    · exact .inr ⟨moment :: before, after, rfl, hlatest⟩

/-! ## What the operations do to the queue -/

/-- The world that keeps a record of the calls. -/
def recording : World RadioCall RadioCall.Answer (List (Event RadioCall RadioCall.Answer)) where
  next events e := events ++ [e]
  Allowed _ _ := True
  Possible _ _ := True

lemma recording_after (recorded events : List (Event RadioCall RadioCall.Answer)) :
    recording.after recorded events = recorded ++ events := by
  induction events generalizing recorded with
  | nil => exact (List.append_nil recorded).symm
  | cons e events ih =>
    rw [World.after_cons, ih]
    exact List.append_assoc recorded [e] events

lemma meets_recording {α : Type} {p : Program RadioCall RadioCall.Answer α}
    {events : List (Event RadioCall RadioCall.Answer)}
    {Q : α → List (Event RadioCall RadioCall.Answer) → Prop} (h : ∀ a events, Q a events) :
    recording.Meets True p events Q := by
  induction p generalizing events with
  | ret a => exact h a events
  | ask c next ih => exact ⟨trivial, fun answer _ => ih answer⟩
  | unfinished => trivial

/-- Recording allows everything, so a program owes it what holds of every result and record. -/
lemma fulfils_recording {α : Type} {x : RadioOp α}
    {events : List (Event RadioCall RadioCall.Answer)}
    {Q : α → List (Event RadioCall RadioCall.Answer) → Prop} (h : ∀ a events, Q a events) :
    recording.Fulfils True x events Q fun _ _ => True := by
  refine meets_recording ?_
  rintro (e | a) events
  · trivial
  · exact h a events

/-- The record of an operation that has succeeded. -/
lemma recorded_of_result {transport : RfTransport} {turn : DriverTurn}
    (h : turn.Genuine transport) {result : RadioResult} (hresult : turn.result = some (.ok result))
    {Q : RadioResult → List (Event RadioCall RadioCall.Answer) → Prop}
    (hop : recording.Fulfils True (turn.op.toOp transport turn.rounds) [] Q fun _ _ => True) :
    Q result turn.events := by
  have hafter := (hop.run h (real_of_possible (fun _ _ => trivial) _ _)).2 _ hresult
  rwa [recording_after, List.nil_append] at hafter

/-- A wait that succeeds is one call, which hands out the timestamp; there is a queue then. -/
lemma events_of_wait {transport : RfTransport} {timeoutMs : ℕ} {timestampUs : ℤ}
    {turn : DriverTurn} (h : turn.Genuine transport) (hop : turn.op = .waitRxTimestamp timeoutMs)
    (hresult : turn.result = some (.ok (.timestamp timestampUs))) :
    turn.events = [⟨.xQueueReceive timeoutMs, some timestampUs⟩] ∧
      transport.rxTimestampQueue.isSome := by
  have hrecord : ∀ t, RadioResult.timestamp timestampUs = .timestamp t →
      turn.events = [⟨.xQueueReceive timeoutMs, some t⟩] ∧
        transport.rxTimestampQueue.isSome := by
    refine recorded_of_result (Q := fun result events => ∀ t, result = .timestamp t →
      events = [⟨.xQueueReceive timeoutMs, some t⟩] ∧ transport.rxTimestampQueue.isSome)
      h hresult ?_
    rw [hop, RadioOperation.toOp, fulfils_bind]
    unfold rfTransportWaitRxTimestamp
    split
    · trivial
    rename_i hready
    rw [not_or, not_or] at hready
    rw [fulfils_bind]
    refine ⟨trivial, fun answer _ => ?_⟩
    cases hanswer : (answer : Option ℤ) with
    | none => trivial
    | some received =>
      rintro t ht
      obtain rfl := RadioResult.timestamp.inj ht
      exact ⟨rfl, Option.isSome_iff_ne_none.mpr fun hnone => hready.2.2 (hnone ▸ rfl)⟩
  exact hrecord timestampUs rfl

/-- A selection that succeeds empties the queue last. -/
lemma events_of_setChannel {transport : RfTransport} {channel : UInt8} {turn : DriverTurn}
    (hqueue : transport.rxTimestampQueue.isSome) (h : turn.Genuine transport)
    (hop : turn.op = .setChannel channel) (hok : turn.succeeded = true) :
    ∃ earlier, turn.events = earlier ++ [⟨.xQueueReset, ()⟩] := by
  obtain ⟨result, hresult⟩ := DriverTurn.ok_of_succeeded hok
  refine recorded_of_result (Q := fun _ events => ∃ earlier, events = earlier ++
    [⟨.xQueueReset, ()⟩]) h hresult ?_
  rw [hop, RadioOperation.toOp, fulfils_bind]
  unfold rfTransportSetChannel
  split
  · trivial
  rw [fulfils_bind]
  refine fulfils_recording fun _ _ => ?_
  rw [fulfils_bind]
  refine fulfils_recording fun _ _ => ?_
  rw [fulfils_bind]
  refine fulfils_recording fun _ _ => ?_
  rw [fulfils_bind]
  refine fulfils_recording fun _ recorded => ?_
  exact ⟨trivial, fun _ _ => ⟨recorded, rfl⟩⟩

/-! ## A timestamp is fresh -/

/-- **A timestamp that is handed out after a channel was selected is that of an edge after the
selection**, and of the last one before it was handed out: `rx_task` measures the phase of the slot
by it. -/
theorem timestamp_fresh {transport : RfTransport} {channel : UInt8} {timeoutMs : ℕ}
    {timestampUs : ℤ} {pre mid : List DriverTurn} {select wait : DriverTurn}
    (hselect : select.Genuine transport) (hchannel : select.op = .setChannel channel)
    (hok : select.succeeded = true) (hwait : wait.Genuine transport)
    (htimeout : wait.op = .waitRxTimestamp timeoutMs)
    (hresult : wait.result = some (.ok (.timestamp timestampUs)))
    {queue : Option ℤ} {moments : List RadioMoment} (hmoments : Interrupted queue moments)
    (hcalls : callsOf moments = (pre ++ select :: mid ++ [wait]).flatMap Turn.events) :
    ∃ before between after,
      moments = before ++ .edge timestampUs :: between ++
        .call ⟨.xQueueReceive timeoutMs, some timestampUs⟩ :: after ∧
      (∀ t, .edge t ∉ between) ∧ callsOf after = [] ∧
      (pre ++ [select]).flatMap Turn.events <+: callsOf before := by
  obtain ⟨hreceive, hqueue⟩ := events_of_wait hwait htimeout hresult
  obtain ⟨earlier, hreset⟩ := events_of_setChannel hqueue hselect hchannel hok
  simp only [List.flatMap_append, List.flatMap_cons, List.flatMap_nil, hreceive, hreset,
    List.append_nil, List.append_assoc, List.singleton_append] at hcalls ⊢
  rw [← List.append_assoc] at hcalls
  obtain ⟨before, rest, rfl, hbefore, hrest⟩ := exists_split hcalls
  obtain ⟨during, after, rfl, hduring, hafter⟩ := exists_split hrest
  -- the queue is empty after the selection, so what is received has come in between
  obtain ⟨-, -, hduring'⟩ := interrupted_append.mp hmoments
  obtain ⟨-, hanswer, -⟩ := interrupted_append.mp hduring'
  have hlast : during.foldl queueAfter none = some timestampUs := (hanswer timeoutMs _ rfl).symm
  obtain ⟨hnone, -⟩ | ⟨earlier', between, rfl, hbetween⟩ := exists_edge hlast
  · cases hnone
  refine ⟨before ++ .call ⟨.xQueueReset, ()⟩ :: earlier', between, after, ?_, hbetween, hafter, ?_⟩
  · simp
  · refine ⟨callsOf earlier', ?_⟩
    rw [callsOf_append, hbefore, callsOf, List.append_assoc, List.append_assoc, List.append_assoc]
    rfl

/-- Channel 5 is selected. -/
def benchSelect : DriverTurn :=
  ⟨.setChannel 5, 0, [benchTransfer [0x36] [0],
    benchTransfer [0x0A, 5] [0, 0], benchTransfer [0x3A] [0],
    benchTransfer [0x3B] [0], ⟨.xQueueReset, ()⟩], some (.ok .done)⟩

/-- A timestamp is waited for. -/
def benchWait : DriverTurn :=
  ⟨.waitRxTimestamp 9, 0, [⟨.xQueueReceive 9, some (700 : ℤ)⟩], some (.ok (.timestamp 700))⟩

/-- An edge comes while the channel is selected, and one before the timestamp is waited for. -/
def benchMoments : List RadioMoment :=
  (benchSelect.events.take 2).map .call ++ .edge 300 :: (benchSelect.events.drop 2).map .call ++
    [.edge 700, .call ⟨.xQueueReceive 9, some (700 : ℤ)⟩]

theorem timestamp_fresh_bench :
    ∃ before between after,
      benchMoments = before ++ .edge 700 :: between ++
        .call ⟨.xQueueReceive 9, some (700 : ℤ)⟩ :: after ∧
      benchSelect.events <+: callsOf before := by
  have hselect : benchSelect.Genuine benchTransport :=
    .ask (.ask (.ask (.ask (.ask (.ret _)))))
  have hwait : benchWait.Genuine benchTransport := .ask (.ret _)
  have hmoments : Interrupted (some 100) benchMoments := by
    refine ⟨nofun, nofun, trivial, nofun, nofun, nofun, trivial, fun ticks answer h => ?_, trivial⟩
    cases h
    rfl
  have hcalls : callsOf benchMoments =
      (([] : List DriverTurn) ++ benchSelect :: [] ++ [benchWait]).flatMap Turn.events := rfl
  obtain ⟨before, between, after, hsplit, -, -, hprefix⟩ :=
    timestamp_fresh hselect rfl rfl hwait rfl rfl hmoments hcalls
  exact ⟨before, between, after, hsplit, hprefix⟩

end FhssOtaRadio
