import FhssOtaRadio.AudioAdapter.FrameOrder
import FhssOtaRadio.Library.LastKey

/-!
# The end of a talkspurt at the receiver (`on_service_data`)

The END packet of a talkspurt is sent three times, and the application is to be told once.  The
adapter remembers the session id and the final sequence of the last END packet it reported, and
takes an END packet with the same two numbers for a repetition.  The ids of a talker run through
1 to 65535 and start over, so two talkspurts carry the same id exactly when their distance is a
multiple of 65535.
-/

namespace FhssOtaRadio

open Machine

/-- A packet that reaches `on_service_data` during a talkspurt: a copy of its END packet, or
another packet, such as one of audio or an announcement. -/
inductive HeardPacket where
  | endCopy
  | other (data : Bytes) (hdata : fhssAudioEndPacketUnpack data = none)

/-- What the receiver hears of one talkspurt.  Nothing is heard of a `begin_tx` that failed, but
it takes a session id too. -/
structure HeardTalkspurt where
  finalSequence : UInt16
  packets : List HeardPacket

/-- The packet is a copy of END. -/
def HeardPacket.isEnd : HeardPacket → Bool
  | .endCopy => true
  | .other .. => false

/-- Its bytes, in a talkspurt with this END packet. -/
def HeardPacket.data (packetEnd : FhssAudioEndPacket) : HeardPacket → Bytes
  | .endCopy => fhssAudioEndPacketPack packetEnd
  | .other data _ => data

/-- At least one copy of END is heard. -/
def HeardTalkspurt.hearsEnd (talkspurt : HeardTalkspurt) : Bool :=
  talkspurt.packets.any HeardPacket.isEnd

section

variable (deriveSessionHopSeed : UInt32 → UInt32)

/-- `on_service_data` as a step; its answer is what it returns and what the application gets. -/
def hearStep (voice : VoiceAdapter) (data : Bytes) :
    VoiceAdapter × (FhssServiceDataAction × List VoiceRxEvent) :=
  onServiceData deriveSessionHopSeed voice data

/-- A talkspurt, with the receiver and the session id of the talker before it. -/
def talkspurtStep (state : VoiceAdapter × UInt16) (talkspurt : HeardTalkspurt) :
    (VoiceAdapter × UInt16) × List (FhssServiceDataAction × List VoiceRxEvent) :=
  let sessionId := nextTxSessionId state.2
  let received := talkspurt.packets.map (HeardPacket.data ⟨sessionId, talkspurt.finalSequence⟩)
  ((finalState (hearStep deriveSessionHopSeed) state.1 received, sessionId),
    outputs (hearStep deriveSessionHopSeed) state.1 received)

end

/-- How often the application is told that a talkspurt ended. -/
def endedEvents (answers : List (FhssServiceDataAction × List VoiceRxEvent)) : ℕ :=
  (answers.flatMap Prod.snd).count .talkspurtEnded

/-- The END packet reported last. -/
def VoiceAdapter.lastRxEnd (voice : VoiceAdapter) : Option FhssAudioEndPacket :=
  if voice.haveLastRxEnd = true then some ⟨voice.lastRxEndSessionId, voice.lastRxEndSequence⟩
  else none

/-- Talkspurt `k` follows a twin: the last talkspurt before it whose END was heard ended with the
same final sequence, a multiple of 65535 talkspurts ago. -/
def FollowsTwin (talkspurts : List HeardTalkspurt) (k : ℕ) (talkspurt : HeardTalkspurt) : Prop :=
  ∃ j < k, ∃ twin, talkspurts[j]? = some twin ∧ twin.hearsEnd = true ∧
    (∀ i between, j < i → i < k → talkspurts[i]? = some between → between.hearsEnd = false) ∧
    65535 ∣ k - j ∧ twin.finalSequence = talkspurt.finalSequence

/-! ## The session ids of a talker -/

/-- The id after this one, as a number. -/
lemma toNat_nextTxSessionId (txSessionId : UInt16) :
    (nextTxSessionId txSessionId).toNat = txSessionId.toNat % 65535 + 1 := by
  have hlt := txSessionId.toNat_lt
  have hsucc : (txSessionId + 1).toNat = (txSessionId.toNat + 1) % 2 ^ 16 := UInt16.toNat_add _ _
  unfold nextTxSessionId
  split_ifs with hzero
  · rw [hzero] at hsucc
    have hzeroNat : (0 : UInt16).toNat = 0 := rfl
    rw [show (1 : UInt16).toNat = 1 from rfl]
    omega
  · have hne : (txSessionId + 1).toNat ≠ 0 := fun h => hzero (UInt16.toNat_inj.mp h)
    omega

/-- The ids of a talker run through 1 to 65535 and start over. -/
lemma toNat_iterate_nextTxSessionId (start : UInt16) (k : ℕ) :
    (nextTxSessionId^[k + 1] start).toNat = (start.toNat + k) % 65535 + 1 := by
  induction k with
  | zero => exact toNat_nextTxSessionId start
  | succ k ih =>
    rw [Function.iterate_succ_apply', toNat_nextTxSessionId, ih]
    omega

/-- Two talkspurts have the same id when their distance is a multiple of 65535. -/
lemma iterate_nextTxSessionId_eq_iff (start : UInt16) {j k : ℕ} (hle : j ≤ k) :
    nextTxSessionId^[j + 1] start = nextTxSessionId^[k + 1] start ↔ 65535 ∣ k - j := by
  rw [← UInt16.toNat_inj, toNat_iterate_nextTxSessionId, toNat_iterate_nextTxSessionId]
  omega

/-! ## One call of `on_service_data` -/

section

variable {deriveSessionHopSeed : UInt32 → UInt32} {voice : VoiceAdapter}

lemma repeatsEnd_iff (voice : VoiceAdapter) (packetEnd : FhssAudioEndPacket) :
    voice.repeatsEnd packetEnd = true ↔ voice.lastRxEnd = some packetEnd := by
  obtain ⟨sessionId, finalSequence⟩ := packetEnd
  unfold VoiceAdapter.repeatsEnd VoiceAdapter.lastRxEnd
  rw [Bool.and_eq_true, Bool.and_eq_true, beq_iff_eq, beq_iff_eq]
  split_ifs with hlast
  · simp [hlast, eq_comm]
  · simp [hlast]

/-- A packet that is no END packet leaves the last END alone and ends nothing. -/
lemma hearStep_other (hvoice : voice.adapter.otaFhssActive = false)
    (packetEnd : FhssAudioEndPacket) {data : Bytes}
    (hdata : fhssAudioEndPacketUnpack data = none) :
    let answer := hearStep deriveSessionHopSeed voice
      (HeardPacket.data packetEnd (.other data hdata))
    answer.1.lastRxEnd = voice.lastRxEnd ∧ answer.1.adapter.otaFhssActive = false ∧
      answer.2.2.count .talkspurtEnded = 0 := by
  unfold hearStep onServiceData
  dsimp only [HeardPacket.data]
  rw [if_neg (by simp [hvoice])]
  cases fhssAudioSeedAnnouncePacketUnpack data with
  | some announce =>
    dsimp only
    split_ifs
    · exact ⟨rfl, hvoice, rfl⟩
    · exact ⟨rfl, hvoice, rfl⟩
  | none =>
    rw [hdata]
    dsimp only
    cases fhssAudioPacketUnpack data with
    | none => exact ⟨rfl, hvoice, rfl⟩
    | some packet =>
      refine ⟨rfl, hvoice, List.count_eq_zero.mpr ?_⟩
      intro hmem
      obtain ⟨frame, -, hframe⟩ := List.mem_map.mp hmem
      cases hframe

/-- An END packet is remembered, and reported unless it is the one remembered. -/
lemma hearStep_end (hvoice : voice.adapter.otaFhssActive = false)
    (packetEnd : FhssAudioEndPacket) :
    let answer := hearStep deriveSessionHopSeed voice (HeardPacket.data packetEnd .endCopy)
    answer.1.lastRxEnd = some packetEnd ∧ answer.1.adapter.otaFhssActive = false ∧
      answer.2 = (.sessionEnd,
        if voice.lastRxEnd = some packetEnd then [] else [.talkspurtEnded]) := by
  have hunpack := fhssAudioEndPacketUnpack_pack packetEnd
  unfold hearStep onServiceData
  dsimp only [HeardPacket.data]
  rw [if_neg (by simp [hvoice]), (voiceBytes_end hunpack).seedAnnounce_eq_none (by decide), hunpack]
  dsimp only
  by_cases hrepeat : voice.repeatsEnd packetEnd = true
  · have hlast := (repeatsEnd_iff voice packetEnd).mp hrepeat
    rw [if_pos hrepeat, if_pos hlast]
    exact ⟨hlast, hvoice, rfl⟩
  · rw [if_neg hrepeat, if_neg fun hlast => hrepeat ((repeatsEnd_iff voice packetEnd).mpr hlast)]
    exact ⟨rfl, hvoice, rfl⟩

/-! ## One talkspurt -/

/-- What the packets of a talkspurt with this END packet do. -/
structure HearsTalkspurt (voice voice' : VoiceAdapter) (packetEnd : FhssAudioEndPacket)
    (packets : List HeardPacket) (answers : List (FhssServiceDataAction × List VoiceRxEvent)) :
    Prop where
  outsideOta : voice'.adapter.otaFhssActive = false
  lastRxEnd : voice'.lastRxEnd =
    LastKey.remember voice.lastRxEnd (packetEnd, packets.any HeardPacket.isEnd)
  endedEvents : endedEvents answers =
    if packets.any HeardPacket.isEnd = true ∧ voice.lastRxEnd ≠ some packetEnd then 1 else 0
  sessionEnd : ∀ heard ∈ packets.zip answers, heard.1.isEnd = true → heard.2.1 = .sessionEnd

lemma endedEvents_cons (answer : FhssServiceDataAction × List VoiceRxEvent)
    (answers : List (FhssServiceDataAction × List VoiceRxEvent)) :
    endedEvents (answer :: answers) = answer.2.count .talkspurtEnded + endedEvents answers := by
  unfold endedEvents
  rw [List.flatMap_cons, List.count_append]

/-- Over the packets of a talkspurt, the first copy of END is reported if it is not the END that
was reported last, and every copy ends the session. -/
lemma hearsTalkspurt (hvoice : voice.adapter.otaFhssActive = false)
    (packetEnd : FhssAudioEndPacket) (packets : List HeardPacket) :
    let received := packets.map (HeardPacket.data packetEnd)
    HearsTalkspurt voice (finalState (hearStep deriveSessionHopSeed) voice received) packetEnd
      packets (outputs (hearStep deriveSessionHopSeed) voice received) := by
  induction packets generalizing voice with
  | nil => exact ⟨hvoice, rfl, rfl, fun heard hheard => by cases hheard⟩
  | cons packet packets ih =>
    cases packet with
    | endCopy =>
      obtain ⟨hlast, hoff, hanswer⟩ :=
        @hearStep_end deriveSessionHopSeed voice hvoice packetEnd
      have hrest := ih hoff
      have hlater := hrest.endedEvents
      rw [hlast, if_neg fun h => h.2 rfl] at hlater
      refine ⟨hrest.outsideOta, ?_, ?_, ?_⟩
      · refine hrest.lastRxEnd.trans ?_
        rw [hlast]
        cases packets.any HeardPacket.isEnd <;> rfl
      · refine (endedEvents_cons _ _).trans ?_
        rw [hlater]
        rw [hanswer]
        by_cases hrepeat : voice.lastRxEnd = some packetEnd
        · rw [if_pos hrepeat, if_neg fun h => h.2 hrepeat]
          rfl
        · rw [if_neg hrepeat, if_pos ⟨rfl, hrepeat⟩]
          rfl
      · exact List.forall_mem_cons.mpr ⟨fun _ => congrArg Prod.fst hanswer, hrest.sessionEnd⟩
    | other data hdata =>
      obtain ⟨hlast, hoff, hquiet⟩ :=
        @hearStep_other deriveSessionHopSeed voice hvoice packetEnd _ hdata
      have hrest := ih hoff
      have hlater := hrest.endedEvents
      rw [hlast] at hlater
      refine ⟨hrest.outsideOta, ?_, ?_, ?_⟩
      · refine hrest.lastRxEnd.trans ?_
        rw [hlast]
        rfl
      · refine (endedEvents_cons _ _).trans ?_
        rw [hlater, hquiet, Nat.zero_add]
        rfl
      · exact List.forall_mem_cons.mpr ⟨fun h => (by cases h), hrest.sessionEnd⟩

lemma talkspurtStep_hears (state : VoiceAdapter × UInt16)
    (hvoice : state.1.adapter.otaFhssActive = false) (talkspurt : HeardTalkspurt) :
    HearsTalkspurt state.1 (talkspurtStep deriveSessionHopSeed state talkspurt).1.1
      ⟨nextTxSessionId state.2, talkspurt.finalSequence⟩ talkspurt.packets
      (talkspurtStep deriveSessionHopSeed state talkspurt).2 :=
  hearsTalkspurt hvoice _ _

/-! ## All talkspurts -/

/-- The END packet of talkspurt `k`, and whether it is heard. -/
def endRounds (start : UInt16) (talkspurts : List HeardTalkspurt) :
    List (FhssAudioEndPacket × Bool) :=
  talkspurts.mapIdx fun k talkspurt =>
    (⟨nextTxSessionId^[k + 1] start, talkspurt.finalSequence⟩, talkspurt.hearsEnd)

/-- After a run of talkspurts the talker holds its last id, and the receiver remembers the last
END it heard. -/
lemma talkspurtStep_run (hvoice : voice.adapter.otaFhssActive = false) (start : UInt16)
    (talkspurts : List HeardTalkspurt) :
    let final := finalState (talkspurtStep deriveSessionHopSeed) (voice, start) talkspurts
    final.1.adapter.otaFhssActive = false ∧
      final.2 = nextTxSessionId^[talkspurts.length] start ∧
      final.1.lastRxEnd = (endRounds start talkspurts).foldl LastKey.remember voice.lastRxEnd := by
  induction talkspurts using List.reverseRecOn with
  | nil => exact ⟨hvoice, rfl, rfl⟩
  | append_singleton talkspurts talkspurt ih =>
    obtain ⟨hoff, hid, hlast⟩ := ih
    have hheard := @talkspurtStep_hears deriveSessionHopSeed _ hoff talkspurt
    rw [hid, ← Function.iterate_succ_apply' nextTxSessionId] at hheard
    rw [finalState_append, List.length_append, List.length_singleton]
    refine ⟨hheard.outsideOta, ?_, ?_⟩
    · rw [Function.iterate_succ_apply', ← hid]
      rfl
    · refine hheard.lastRxEnd.trans ?_
      rw [hlast]
      unfold endRounds
      rw [List.mapIdx_concat, List.foldl_append]
      rfl

/-- The END remembered before talkspurt `k` is its own exactly when it follows a twin. -/
lemma remembered_iff_followsTwin {start : UInt16} {talkspurts : List HeardTalkspurt} {k : ℕ}
    {talkspurt : HeardTalkspurt} :
    (endRounds start (talkspurts.take k)).foldl LastKey.remember none =
        some ⟨nextTxSessionId^[k + 1] start, talkspurt.finalSequence⟩ ↔
      FollowsTwin talkspurts k talkspurt := by
  have hround : ∀ j, (endRounds start (talkspurts.take k))[j]? =
      if j < k then talkspurts[j]?.map fun twin =>
        (⟨nextTxSessionId^[j + 1] start, twin.finalSequence⟩, twin.hearsEnd) else none := by
    intro j
    unfold endRounds
    rw [List.getElem?_mapIdx, List.getElem?_take]
    split_ifs <;> rfl
  rw [LastKey.foldl_remember_eq_some_iff]
  constructor
  · rintro ⟨j, hheard, hunheard⟩
    rw [hround] at hheard
    split_ifs at hheard with hj
    obtain ⟨twin, htwin, heq⟩ := Option.map_eq_some_iff.mp hheard
    obtain ⟨hend, hhears⟩ := Prod.mk.inj heq
    obtain ⟨hid, hfinal⟩ := FhssAudioEndPacket.mk.inj hend
    refine ⟨j, hj, twin, htwin, hhears, fun i between hij hik hbetween => ?_,
      (iterate_nextTxSessionId_eq_iff start hj.le).mp hid, hfinal⟩
    refine hunheard i (⟨nextTxSessionId^[i + 1] start, between.finalSequence⟩,
      between.hearsEnd) hij ?_
    rw [hround, if_pos hik, hbetween]
    rfl
  · rintro ⟨j, hj, twin, htwin, hhears, hbetween, hdvd, hfinal⟩
    refine ⟨j, ?_, fun i round hij hroundi => ?_⟩
    · rw [hround, if_pos hj, htwin, Option.map_some, hhears, hfinal,
        (iterate_nextTxSessionId_eq_iff start hj.le).mpr hdvd]
    · rw [hround] at hroundi
      split_ifs at hroundi with hik
      obtain ⟨between, hget, rfl⟩ := Option.map_eq_some_iff.mp hroundi
      exact hbetween i between hij hik hget

/-- A receiver that has reported no END yet answers talkspurt `k` in this way. -/
lemma hears_getElem (hvoice : voice.adapter.otaFhssActive = false)
    (hfresh : voice.haveLastRxEnd = false) (start : UInt16) {talkspurts : List HeardTalkspurt}
    {k : ℕ} {talkspurt : HeardTalkspurt} (hk : talkspurts[k]? = some talkspurt) :
    ∃ before after answers,
      (outputs (talkspurtStep deriveSessionHopSeed) (voice, start) talkspurts)[k]? =
        some answers ∧
      before.lastRxEnd = (endRounds start (talkspurts.take k)).foldl LastKey.remember none ∧
      HearsTalkspurt before after
        ⟨nextTxSessionId^[k + 1] start, talkspurt.finalSequence⟩ talkspurt.packets answers := by
  obtain ⟨hoff, hid, hlast⟩ :=
    @talkspurtStep_run deriveSessionHopSeed voice hvoice start (talkspurts.take k)
  have hlength : (talkspurts.take k).length = k :=
    List.length_take_of_le (List.getElem?_eq_some_iff.mp hk).1.le
  have hnone : voice.lastRxEnd = none := by
    unfold VoiceAdapter.lastRxEnd
    rw [hfresh]
    rfl
  have hheard := @talkspurtStep_hears deriveSessionHopSeed _ hoff talkspurt
  rw [hid, hlength, ← Function.iterate_succ_apply' nextTxSessionId] at hheard
  rw [hnone] at hlast
  refine ⟨_, _, _, ?_, hlast, hheard⟩
  rw [getElem?_outputs, hk]
  rfl

/-- **A talkspurt ends once.**  Whatever a receiver hears of the talkspurts of one talker, however
many there are, the application is told once that a talkspurt ended if at least one copy of its
END is heard, unless the last END heard before was the same one (`FollowsTwin`: the ids have gone
all the way round); it is not told otherwise.  Every copy of END ends the session of the
service. -/
theorem talkspurtEnded_once (hvoice : voice.adapter.otaFhssActive = false)
    (hfresh : voice.haveLastRxEnd = false) (start : UInt16) (talkspurts : List HeardTalkspurt) :
    ∀ k talkspurt, talkspurts[k]? = some talkspurt → ∃ answers,
      (outputs (talkspurtStep deriveSessionHopSeed) (voice, start) talkspurts)[k]? =
        some answers ∧
      (talkspurt.hearsEnd = true → ¬ FollowsTwin talkspurts k talkspurt →
        endedEvents answers = 1) ∧
      (talkspurt.hearsEnd = false ∨ FollowsTwin talkspurts k talkspurt →
        endedEvents answers = 0) ∧
      ∀ heard ∈ talkspurt.packets.zip answers, heard.1.isEnd = true →
        heard.2.1 = .sessionEnd := by
  intro k talkspurt hk
  obtain ⟨before, after, answers, hanswers, hlast, hheard⟩ :=
    @hears_getElem deriveSessionHopSeed voice hvoice hfresh start talkspurts k talkspurt hk
  have hcount := hheard.endedEvents
  have hrepeats : before.lastRxEnd =
      some ⟨nextTxSessionId^[k + 1] start, talkspurt.finalSequence⟩ ↔
        FollowsTwin talkspurts k talkspurt := by
    rw [hlast]
    exact remembered_iff_followsTwin
  refine ⟨answers, hanswers, fun hhears htwin => ?_, fun hnot => ?_, hheard.sessionEnd⟩
  · rw [hcount, if_pos ⟨hhears, fun h => htwin (hrepeats.mp h)⟩]
  · rw [hcount, if_neg]
    rintro ⟨hhears, hne⟩
    rcases hnot with hsilent | htwin
    · exact Bool.false_ne_true (hsilent.symm.trans hhears)
    · exact hne (hrepeats.mpr htwin)

end

/-- A device that has just booted hears voice. -/
lemma otaFhssActive_sampleVoice : sampleVoice.adapter.otaFhssActive = false := by decide +kernel

/-- Two talkspurts without audio in a row are reported once each. -/
theorem talkspurtEnded_once_two :
    ∃ answers, (outputs (talkspurtStep sampleDerive) (sampleVoice, 0)
        [⟨0xFFFF, [.endCopy, .endCopy]⟩, ⟨0xFFFF, [.endCopy]⟩])[1]? = some answers ∧
      endedEvents answers = 1 := by
  obtain ⟨answers, hanswers, honce, -⟩ := @talkspurtEnded_once sampleDerive sampleVoice
    otaFhssActive_sampleVoice rfl 0 [⟨0xFFFF, [.endCopy, .endCopy]⟩, ⟨0xFFFF, [.endCopy]⟩] 1
    ⟨0xFFFF, [.endCopy]⟩ rfl
  refine ⟨answers, hanswers, honce rfl ?_⟩
  rintro ⟨j, hj, -, -, -, -, hdvd, -⟩
  omega

/-- Talkspurts of which nothing is heard in between do not tell two talkspurts apart. -/
lemma followsTwin_of_silence {heard silent : HeardTalkspurt} (hheard : heard.hearsEnd = true)
    (hsilent : silent.hearsEnd = false) {n : ℕ} (hround : 65535 ∣ n + 1) :
    (heard :: (List.replicate n silent ++ [heard]))[n + 1]? = some heard ∧
      FollowsTwin (heard :: (List.replicate n silent ++ [heard])) (n + 1) heard := by
  constructor
  · rw [List.getElem?_cons_succ, List.getElem?_append_right (by simp), List.length_replicate,
      Nat.sub_self]
    rfl
  · refine ⟨0, n.succ_pos, heard, rfl, hheard, fun i between hi hin hbetween => ?_, hround, rfl⟩
    obtain ⟨i, rfl⟩ := Nat.exists_eq_succ_of_ne_zero hi.ne'
    have hlt : i < n := Nat.succ_lt_succ_iff.mp hin
    rw [List.getElem?_cons_succ, List.getElem?_append_left (by simpa using hlt),
      List.getElem?_replicate, if_pos hlt] at hbetween
    rw [← Option.some.inj hbetween]
    exact hsilent

/-- When only the first and the last of 65536 talkspurts without audio are heard, both have the
id 1, and the end of the last one is not reported. -/
theorem talkspurtEnded_missed_after_round :
    let heard : HeardTalkspurt := ⟨0xFFFF, [.endCopy]⟩
    let talkspurts := heard :: (List.replicate 65534 ⟨0xFFFF, []⟩ ++ [heard])
    ∃ answers, talkspurts[65535]? = some heard ∧ heard.hearsEnd = true ∧
      (outputs (talkspurtStep sampleDerive) (sampleVoice, 0) talkspurts)[65535]? =
        some answers ∧ endedEvents answers = 0 := by
  intro heard talkspurts
  obtain ⟨hlast, htwin⟩ := @followsTwin_of_silence heard ⟨0xFFFF, []⟩ rfl rfl 65534 (by decide)
  obtain ⟨before, after, answers, hanswers, hremembered, hhears⟩ :=
    @hears_getElem sampleDerive sampleVoice otaFhssActive_sampleVoice rfl 0 talkspurts 65535 heard
      hlast
  refine ⟨answers, hlast, rfl, hanswers, ?_⟩
  rw [hhears.endedEvents, if_neg]
  exact fun hnew => hnew.2 (hremembered.trans (remembered_iff_followsTwin.mpr htwin))

end FhssOtaRadio
