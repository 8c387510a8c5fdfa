import Nesting.Mac.Requests
import Nesting.Mac.Timing

/-!
# Counting the bytes of a part

`calculatePreemptedPayloadBytesSent` throws an error when it finds more bytes than the frame has.

* `InTime`         the end of the part in transmission is still to come;
* `Countable`      then the bytes can be counted, where the time of a bit is not rounded;
* `InFrame`        an outcome other than the error;
* `step_inFrame`   where the bytes can be counted, no event ends in the error.
-/

set_option linter.unusedVariables false

namespace Nesting

namespace EtherMac

variable {cfg : MacConfig} {s s' : EtherMac} {e : MacEvent} {frame : Packet}

/-! ## the end of a part -/

/-- the end of the transmission is still to come -/
def InTime (s : EtherMac) : Prop := ∀ t ∈ s.endTxMsg, s.time ≤ t

theorem calculateDuration_nonneg (n : ℕ) : 0 ≤ calculateDuration cfg n := by
  have hr := cfg.txrate_pos
  unfold calculateDuration
  positivity

theorem calculateTransmissionDuration_nonneg {n : ℤ} (h : 0 ≤ n) :
    0 ≤ calculateTransmissionDuration cfg n := by
  have hbit := cfg.bitTime_pos
  have hn : (0 : ℚ) ≤ n := by exact_mod_cast h
  unfold calculateTransmissionDuration
  positivity

theorem InTime.of_frames (h : s.InTime) (hf : s'.frames = s.frames) (ht : s'.time = s.time) :
    s'.InTime := by
  intro t htx
  rw [ht]
  refine h t ?_
  have hf : s'.frames.endTxMsg = s.frames.endTxMsg := congrArg endTxMsg hf
  exact hf.symm.trans htx

theorem InTime.preempt (hp : s.preemptCurrentFrame cfg = .ok s') : s'.InTime := by
  obtain ⟨_, _, rfl⟩ := preemptCurrentFrame_ok hp
  intro t ht
  cases ht
  have hd : 0 ≤ calculateTransmissionDuration cfg 4 := calculateTransmissionDuration_nonneg (by omega)
  exact le_add_of_nonneg_right hd

theorem StartTransmission.inTime (hst : StartTransmission cfg s frame s') : s'.InTime := by
  intro t ht
  cases hst with
  | express =>
    cases ht
    exact le_add_of_nonneg_right (calculateDuration_nonneg _)
  | new =>
    cases ht
    exact le_add_of_nonneg_right (calculateDuration_nonneg _)
  | resumed =>
    cases ht
    exact le_add_of_nonneg_right (calculateDuration_nonneg _)

theorem inTime_of_none (h : s.endTxMsg = none) : s.InTime := by
  intro t ht
  rw [h] at ht
  cases ht

theorem inTime_step (h : s.InTime) (hshape : s.Shape) (hs : s.step cfg e = .ok s') : s'.InTime := by
  obtain htime | ⟨t, rfl, ⟨_, _, _, hdue⟩, rfl⟩ := step_time hs
  · cases step_change hshape hs with
    | quiet hc _ _ => exact h.of_frames hc htime
    | @next m t hm ht _ _ _ hn =>
      obtain ⟨_, s1, hnext, ⟨_, _, _, _, _, hst⟩ | ⟨_, rfl⟩⟩ := nextFrame_ok hn
      · exact hst.inTime
      · have hm' : s1.frames.endTxMsg = m.frames.endTxMsg ∧ s1.time = m.time := by
          cases hnext <;> exact ⟨rfl, rfl⟩
        intro u hu
        have hin : m.InTime := h.of_frames hm ht
        rw [show ({ s1 with transmitState := .TX_IDLE_STATE } : EtherMac).time = m.time from hm'.2]
        exact hin u (hm'.1.symm.trans hu)
    | endTx _ ht =>
      refine inTime_of_none ?_
      have hfinish : ∀ m : EtherMac, m.endTxMsg = none → m.finishTransmission cfg = .ok s' →
          s'.endTxMsg = none := by
        intro m hm hok
        obtain ⟨_, _, _, ⟨t, rfl⟩ | ⟨t, rfl⟩⟩ := finishTransmission_ok hok
        · exact hm
        · exact hm
      unfold handleEndTxPeriod at ht
      split at ht
      · obtain ⟨m, hm, ht⟩ := bind_ok.mp ht
        obtain ⟨_, _, _, _, rfl⟩ := sendPreemptedFrame_ok hm
        refine hfinish _ ?_ ht
        rfl
      · split at ht
        · cases ht
        · refine hfinish _ ?_ ht
          rfl
    | preempt _ _ _ hp => exact InTime.preempt hp
    | @arrive m t packet hm ht _ _ _ _ _ ha =>
      have hin : m.InTime := h.of_frames (frames_of_core hm) ht
      cases ha with
      | preempting _ _ hp => exact InTime.preempt hp
      | inGap => exact hin
      | paused =>
        unfold storeOnHold
        split
        · exact hin
        · exact hin
      | sent _ hst =>
        obtain ⟨_, _, _, _, _, hst⟩ := startFrameTransmission_ok hst
        exact hst.inTime
      | stray => exact hin
  · intro u hu
    exact hdue .endTx (by simp) u (Option.mem_toList.mpr hu)

/-! ## the count of bytes -/

/-- what `calculatePreemptedPayloadBytesSent` throws -/
def moreBytes : SimError :=
  .runtimeError "Supposedly transmitted more bytes than the frame's length."

/-- the outcome is not this error -/
def InFrame {α : Type} (r : Sim α) : Prop := Avoids (fun x => x = moreBytes) r

theorem assert_inFrame (c : Bool) (text : String) : InFrame (ASSERT c text) :=
  Avoids.assertOther nofun

theorem scheduleAt_inFrame (now : SimTime) (msg : Option SimTime) (t : SimTime) :
    InFrame (scheduleAt now msg t) :=
  Avoids.bind (assert_inFrame _ _) fun _ _ => Avoids.bind (assert_inFrame _ _) fun _ _ => .ok _

/-- at this instant the bytes can be counted, with and without the checksum -/
def Countable (cfg : MacConfig) (s : EtherMac) : Prop :=
  ∀ sentCRC, InFrame (s.calculatePreemptedPayloadBytesSent cfg s.time sentCRC)

theorem Timing.bytesUntil_le (h : Timing cfg s) (hin : s.InTime)
    (hexact : cfg.bitTime = 1 / cfg.txrate) (hp : s.transmittingPreemptableFrame = true)
    (hf : s.currentPreemptableFrame = some frame) :
    s.bytesUntil cfg s.time ≤ frame.byteLength + 8 := by
  obtain ⟨_, _, _, frame', t, hf', ht, hends⟩ := h.sending hp
  cases hf.symm.trans hf'
  obtain ⟨_, hw, hcounts⟩ := h.current frame hf
  have hsent := hcounts.lt hexact
  have hmono : s.bytesUntil cfg s.time ≤ s.bytesUntil cfg t := bytesUntil_mono (hin t ht)
  obtain hlast | ⟨_, hrem⟩ := hends.bytes
  · rw [counted_of_exact hexact, remaining_of_le hw (by omega)] at hlast
    omega
  · omega

theorem Timing.countable (h : Timing cfg s) (hin : s.InTime)
    (hexact : cfg.bitTime = 1 / cfg.txrate) : Countable cfg s := by
  intro sentCRC
  unfold calculatePreemptedPayloadBytesSent
  split
  · exact Avoids.ok _
  · rename_i hp
    have hp : s.transmittingPreemptableFrame = true := by simpa using hp
    obtain ⟨n, hn, hle⟩ : ∃ n, s.bytesUntil cfg s.time - (if sentCRC = true then 4 else 0) = n ∧
        n ≤ s.bytesUntil cfg s.time := ⟨_, rfl, by split <;> omega⟩
    dsimp only
    rw [hn]
    split
    · exact Avoids.ok _
    · split
      · exact Avoids.error nofun
      · rename_i frame hf
        have hmax := h.bytesUntil_le hin hexact hp hf
        rw [if_neg (by omega)]
        exact Avoids.ok _

theorem isPreemptionNowPossible_inFrame (h : Countable cfg s) :
    InFrame (s.isPreemptionNowPossible cfg) := by
  unfold isPreemptionNowPossible
  split
  · exact Avoids.ok _
  · split
    · exact Avoids.ok _
    · refine Avoids.bind (h false) fun bytes _ => ?_
      split
      · exact Avoids.error nofun
      · exact Avoids.ok _

theorem isPreemptionLaterPossible_inFrame (h : Countable cfg s) :
    InFrame (s.isPreemptionLaterPossible cfg) := by
  refine Avoids.bind (isPreemptionNowPossible_inFrame h) fun possible _ => ?_
  split
  · exact Avoids.ok _
  · refine Avoids.bind (h false) fun bytes _ => ?_
    split
    · exact Avoids.error nofun
    · exact Avoids.ok _

theorem checkForAndRequestExpressFrame_inFrame (h : Countable cfg s) :
    InFrame (s.checkForAndRequestExpressFrame cfg) :=
  Avoids.bind (isPreemptionNowPossible_inFrame h) fun _ _ =>
    Avoids.bind (assert_inFrame _ _) fun _ _ => .ok _

theorem preemptCurrentFrame_inFrame (h : Countable cfg s) : InFrame (s.preemptCurrentFrame cfg) :=
  Avoids.bind (assert_inFrame _ _) fun _ _ => Avoids.bind (assert_inFrame _ _) fun _ _ =>
    Avoids.bind (assert_inFrame _ _) fun _ _ =>
      Avoids.bind (isPreemptionNowPossible_inFrame h) fun _ _ =>
        Avoids.bind (assert_inFrame _ _) fun _ _ => .ok _

theorem startFrameTransmission_inFrame : InFrame (s.startFrameTransmission cfg) := by
  unfold startFrameTransmission
  split
  · exact Avoids.error nofun
  · refine Avoids.bind (assert_inFrame _ _) fun _ _ => Avoids.bind (assert_inFrame _ _) fun _ _ => ?_
    split
    · exact Avoids.bind (scheduleAt_inFrame _ _ _) fun _ _ => .ok _
    · exact Avoids.bind (scheduleAt_inFrame _ _ _) fun _ _ => .ok _

theorem requestNextFrameFromExtQueue_inFrame : InFrame s.requestNextFrameFromExtQueue :=
  Avoids.bind (assert_inFrame _ _) fun _ _ => .ok _

theorem resumeOrRequest_inFrame : InFrame s.resumeOrRequest := by
  unfold resumeOrRequest
  split
  · exact Avoids.ok _
  · exact requestNextFrameFromExtQueue_inFrame

theorem getNextFrameFromQueue_inFrame (h : Countable cfg s) : InFrame (s.getNextFrameFromQueue cfg) := by
  refine Avoids.bind (assert_inFrame _ _) fun _ _ => ?_
  split
  · exact Avoids.ok _
  · split
    · refine Avoids.bind (checkForAndRequestExpressFrame_inFrame h) fun r _ => ?_
      obtain ⟨s1, requested⟩ := r
      cases requested with
      | true => exact Avoids.ok _
      | false => exact resumeOrRequest_inFrame
    · exact resumeOrRequest_inFrame

theorem nextFrame_inFrame (h : Countable cfg s) :
    InFrame (s.getNextFrameFromQueue cfg >>= fun s => s.beginSendFrames cfg) := by
  refine Avoids.bind (getNextFrameFromQueue_inFrame h) fun s1 _ => ?_
  unfold beginSendFrames
  split
  · exact startFrameTransmission_inFrame
  · exact Avoids.ok _

theorem scheduleEndPausePeriod_inFrame (pauseUnits : Int) :
    InFrame (s.scheduleEndPausePeriod cfg pauseUnits) :=
  Avoids.bind (assert_inFrame _ _) fun _ _ => Avoids.bind (scheduleAt_inFrame _ _ _) fun _ _ => .ok _

theorem finishTransmission_inFrame : InFrame (s.finishTransmission cfg) := by
  unfold finishTransmission
  split
  · exact Avoids.error (by decide)
  · split
    · exact Avoids.error (by decide)
    · split
      · exact Avoids.bind (scheduleEndPausePeriod_inFrame _) fun _ _ => .ok _
      · exact Avoids.bind (assert_inFrame _ _) fun _ _ =>
          Avoids.bind (scheduleAt_inFrame _ _ _) fun _ _ => .ok _

theorem handleEndTxPeriod_inFrame (h : Countable cfg s) : InFrame (s.handleEndTxPeriod cfg) := by
  unfold handleEndTxPeriod
  split
  · refine Avoids.bind ?_ fun _ _ => finishTransmission_inFrame
    unfold sendPreemptedFrame
    split
    · exact Avoids.error nofun
    · exact Avoids.bind (h true) fun _ _ => .ok _
  · split
    · exact Avoids.error nofun
    · exact finishTransmission_inFrame

theorem packetEnqueued_inFrame (h : Countable cfg s) : InFrame (s.packetEnqueued cfg) := by
  unfold packetEnqueued
  split
  · refine Avoids.bind (isPreemptionNowPossible_inFrame h) fun possible _ => ?_
    split
    · exact Avoids.ok _
    · refine Avoids.bind (isPreemptionLaterPossible_inFrame h) fun t _ => ?_
      split
      · unfold scheduleRecheck
        split
        · exact Avoids.error nofun
        · exact Avoids.bind (scheduleAt_inFrame _ _ _) fun _ _ => .ok _
      · exact Avoids.ok _
  · exact Avoids.ok _

theorem hold_inFrame (h : Countable cfg s) (delay : SimTime) : InFrame (s.hold cfg delay) := by
  have hheld : Countable cfg { s with onHold := true } := h
  unfold hold
  split
  · exact Avoids.ok _
  · split
    · unfold preemptOrRequest
      split
      · refine Avoids.bind (isPreemptionNowPossible_inFrame hheld) fun possible _ => ?_
        split
        · exact preemptCurrentFrame_inFrame hheld
        · refine Avoids.bind (isPreemptionLaterPossible_inFrame hheld) fun t _ => ?_
          split
          · exact Avoids.bind (scheduleAt_inFrame _ _ _) fun _ _ => .ok _
          · exact Avoids.ok _
      · split
        · exact getNextFrameFromQueue_inFrame hheld
        · exact Avoids.ok _
    · exact Avoids.bind (scheduleAt_inFrame _ _ _) fun _ _ => .ok _

theorem handleSelfMessage_inFrame (h : Countable cfg s) (timer : MacTimer) :
    InFrame (s.handleSelfMessage cfg timer) := by
  cases timer with
  | endTx => exact handleEndTxPeriod_inFrame (s := { s with endTxMsg := none }) h
  | endIFG =>
    refine Avoids.bind (assert_inFrame _ _) fun _ _ => ?_
    split
    · exact Avoids.error (by decide)
    · exact nextFrame_inFrame (s := { s with endIFGMsg := none }) h
  | endPause =>
    refine Avoids.bind (assert_inFrame _ _) fun _ _ => ?_
    split
    · exact Avoids.error (by decide)
    · exact nextFrame_inFrame (s := { s with endPauseMsg := none }) h
  | recheckForQueuedExpressFrame =>
    exact Avoids.bind (checkForAndRequestExpressFrame_inFrame
      (s := { s with recheckForQueuedExpressFrameMsg := .idle }) h) fun _ _ => .ok _
  | preemptCurrentFrame =>
    exact preemptCurrentFrame_inFrame (s := { s with preemptCurrentFrameMsg := none }) h
  | holdRequest =>
    exact hold_inFrame (s := { s with holdRequests := s.holdRequests.erase s.time }) h 0

theorem release_inFrame (h : Countable cfg s) : InFrame (s.release cfg) := by
  unfold release
  split
  · exact Avoids.ok _
  · dsimp only
    split
    · exact nextFrame_inFrame (s := { s with
        onHold := false
        transmissionSelection := s.transmissionSelection.removePendingRequests }) h
    · exact Avoids.ok _

theorem processPauseCommand_inFrame (pauseUnits : Int) :
    InFrame (s.processPauseCommand cfg pauseUnits) := by
  unfold processPauseCommand
  split
  · split
    · exact scheduleEndPausePeriod_inFrame _
    · exact Avoids.ok _
  · exact scheduleEndPausePeriod_inFrame _
  · exact Avoids.ok _

/-- a text that does not begin with an `S` -/
theorem runtimeError_inFrame {α : Type} {text : String} (h : text.toList.head? ≠ some 'S') :
    InFrame (.error (.runtimeError text) : Sim α) := by
  refine Avoids.error fun hx => h ?_
  rw [SimError.runtimeError.inj hx]
  decide

theorem checkUpperPacket_inFrame (packet : Packet) : InFrame (checkUpperPacket cfg packet) := by
  refine Avoids.bind (assert_inFrame _ _) fun _ _ => ?_
  split
  · exact runtimeError_inFrame (by simp [String.toList_append])
  · split
    · exact runtimeError_inFrame (by simp [String.toList_append])
    · exact Avoids.ok _

theorem takeUpperPacket_inFrame {packet : Packet} (h : Countable cfg s) :
    InFrame (s.takeUpperPacket cfg packet) := by
  refine Avoids.bind (assert_inFrame _ _) fun _ _ => ?_
  refine Avoids.bind ?_ fun r _ => ?_
  · unfold placeUpperPacket
    split
    · exact Avoids.bind (preemptCurrentFrame_inFrame
        (s := { s with currentExpressFrame := some packet }) h) fun _ _ => .ok _
    · split
      · exact Avoids.ok _
      · exact Avoids.ok _
  · obtain ⟨m, nowPreempting⟩ := r
    dsimp only
    split
    · exact startFrameTransmission_inFrame
    · exact Avoids.ok _

theorem handleUpperPacket_inFrame (h : Countable cfg s) (packet : Packet) :
    InFrame (s.handleUpperPacket cfg packet) := by
  refine Avoids.bind (checkUpperPacket_inFrame packet) fun _ _ => ?_
  split
  · exact requestNextFrameFromExtQueue_inFrame
  · refine Avoids.bind ?_ fun m hm => ?_
    · unfold cancelRecheck
      split
      · exact Avoids.ok _
      · exact Avoids.error nofun
      · exact Avoids.ok _
    · obtain ⟨msg, rfl, _⟩ := cancelRecheck_ok hm
      exact takeUpperPacket_inFrame (s := { s with
        recheckForQueuedExpressFrameMsg := msg
        history := s.history ++ [MacRecord.accepted packet] }) h

/-- no event finds more bytes than there are -/
theorem step_inFrame (h : Countable cfg s) (e : MacEvent) : InFrame (s.step cfg e) := by
  cases e with
  | advance t =>
    change InFrame (if s.CanAdvance t then _ else _)
    split
    · exact Avoids.ok _
    · exact Avoids.error nofun
  | timer timer =>
    change InFrame (if s.time ∈ s.scheduled timer then _ else _)
    split
    · exact handleSelfMessage_inFrame h timer
    · exact Avoids.error nofun
  | handleUpperPacket packet => exact handleUpperPacket_inFrame h packet
  | handlePacket gateId packet =>
    refine Avoids.bind ?_ fun r _ => ?_
    · unfold TransmissionSelection.handlePacket
      split
      · exact Avoids.error nofun
      · exact Avoids.bind (assert_inFrame _ _) fun _ _ => .ok _
    · obtain ⟨packet', ts⟩ := r
      exact handleUpperPacket_inFrame (s := { s with transmissionSelection := ts }) h packet'
  | packetEnqueued => exact packetEnqueued_inFrame h
  | hold delay => exact hold_inFrame h delay
  | release => exact release_inFrame h
  | processPauseCommand pauseUnits => exact processPauseCommand_inFrame pauseUnits
  | setGates tGates => exact Avoids.ok _
  | gatePacketEnqueued => exact Avoids.ok _
  | requestPacketMsg =>
    change InFrame (if s.transmissionSelection.requestPacketMsg then _ else _)
    split
    · refine Avoids.bind ?_ fun r _ => .ok _
      unfold TransmissionSelection.handleRequestPacketEvent
      dsimp only
      split
      · exact Avoids.error (by decide)
      · exact Avoids.bind (assert_inFrame _ _) fun _ _ => .ok _
    · exact Avoids.error nofun
  | packetEnqueuedMsg =>
    change InFrame (if s.transmissionSelection.packetEnqueuedMsg then _ else _)
    split
    · split
      · exact packetEnqueued_inFrame (s := { s with
          transmissionSelection := (s.transmissionSelection.handlePacketEnqueuedEvent s.onHold).1 }) h
      · exact Avoids.ok _
    · exact Avoids.error nofun

end EtherMac

end Nesting
