import FhssOtaRadio.FhssCore.SlotProgress

/-!
# A rejected SYNC packet changes nothing (`fhss_sync_controller.c`)

The core updates its tracker before the controller asks the scheduler for a reference, so a
rejection after that point would leave a tracker that counted the packet.  There is none: a
corrected start lies between two times that fit (`fhssSyncControllerAnchor_eq`), and the
scheduler is blamed only for a start it did not have before the core was asked.
-/

namespace FhssOtaRadio

open Machine

variable (protocol : OtaProtocol)

/-- A call with its out-parameter: the controller, the status (`none` for `OK`) and what
`out_result` points to afterwards. -/
def acceptSyncInto (entry : SyncEntry) (controller : FhssSyncController) (buffer : Bytes)
    (rxTimestampUs : Int64) (outResult : FhssCoreRxResult) :
    FhssSyncController × Option FhssControllerStatus × FhssCoreRxResult :=
  match acceptSync protocol entry controller buffer rxTimestampUs.toInt with
  | (controller, .ok result) => (controller, none, result)
  | (controller, .error status) => (controller, some status, outResult)

/-- A ready controller that rejects a packet stays as it is, and blames its scheduler only in
`fhss_sync_controller_process_rx`, for a start that is missing. -/
lemma acceptSync_cases {controller : FhssSyncController} (h : ControllerReady controller)
    (entry : SyncEntry) (buffer : Bytes) (rxTimestampUs : Int64) :
    (∃ status, acceptSync protocol entry controller buffer rxTimestampUs.toInt =
        (controller, .error status) ∧
      (status = .schedulerError → entry = .processRx ∧ controller.LacksStart protocol buffer)) ∨
    ∃ controller' result, acceptSync protocol entry controller buffer rxTimestampUs.toInt =
      (controller', .ok result) := by
  cases entry with
  | processRx =>
    rcases fhssSyncControllerProcessRx_cases protocol h buffer
      (toInt_le_int64Max rxTimestampUs) with
      ⟨status, hreject, hblame, -⟩ | ⟨_, _, _, _, _, _, _, -, -, -, -, -, -, -, -, haccept⟩
    · exact .inl ⟨status, hreject, fun hstatus => ⟨rfl, hblame hstatus⟩⟩
    · exact .inr ⟨_, _, haccept⟩
  | recoverRx =>
    rcases fhssSyncControllerRecoverRx_cases protocol h buffer rxTimestampUs.toInt with
      ⟨status, hreject, hblame⟩ | ⟨_, _, _, _, _, _, _, -, -, -, -, -, -, -, haccept⟩
    · exact .inl ⟨status, hreject, fun hstatus => absurd hstatus hblame⟩
    · exact .inr ⟨_, _, haccept⟩

/-- **A rejected SYNC packet leaves the controller as it was.**  When a reachable controller
rejects a packet, the whole controller and `out_result` are unchanged.  The status blames the
scheduler only when `fhss_sync_controller_process_rx` finds no start for the slot before it asks
the core: the later returns of `SCHEDULER_ERROR` are never taken. -/
theorem acceptSyncInto_rejected {controller : FhssSyncController}
    (hreach : Reachable (controllerStep protocol) BuiltController controller)
    (entry : SyncEntry) (buffer : Bytes) (rxTimestampUs : Int64) (outResult : FhssCoreRxResult)
    {status : FhssControllerStatus}
    (hstatus : (acceptSyncInto protocol entry controller buffer rxTimestampUs outResult).2.1 =
      some status) :
    (acceptSyncInto protocol entry controller buffer rxTimestampUs outResult).1 = controller ∧
      (acceptSyncInto protocol entry controller buffer rxTimestampUs outResult).2.2 = outResult ∧
      (status = .schedulerError →
        entry = .processRx ∧ controller.LacksStart protocol buffer) := by
  have hready := controllerReady_of_reachable protocol hreach
  unfold acceptSyncInto at hstatus ⊢
  rcases acceptSync_cases protocol hready entry buffer rxTimestampUs with
    ⟨status', hreject, hblame⟩ | ⟨controller', result, haccept⟩
  · rw [hreject] at hstatus ⊢
    obtain rfl := Option.some.inj hstatus
    exact ⟨rfl, rfl, hblame⟩
  · rw [haccept] at hstatus
    cases hstatus

/-- A packet for slot 3 reaches the sample controller whose reference is slot 5. -/
theorem acceptSyncInto_rejected_before_reference :
    let controller := (controllerStep plainProtocol sampleController (.setReference 5 2000000)).1
    let after := acceptSyncInto plainProtocol .processRx controller (sampleSync 3) 1900000
      (sampleRxResult 0)
    after.1 = controller ∧ after.2.2 = sampleRxResult 0 ∧
      (FhssControllerStatus.schedulerError = .schedulerError →
        SyncEntry.processRx = .processRx ∧
          controller.LacksStart plainProtocol (sampleSync 3)) :=
  acceptSyncInto_rejected plainProtocol
    ⟨sampleController, [.setReference 5 2000000], ⟨_, fhssSyncControllerInit_sample⟩, rfl⟩
    .processRx (sampleSync 3) 1900000 (sampleRxResult 0) (by decide)

end FhssOtaRadio
