import Nesting.Mac.States

/-!
# What the MAC does to TransmissionSelection

* `Asks`            a call leaves the selection alone, or asks it for a packet;
* `FindsExpress`, `WantsExpress`   `checkForAndRequestExpressFrame` finds an express frame, and is
                    reached and finds one; it does not check for an outstanding request, as the
                    others do;
* `handleSelfMessage_asks`, `hold_asks`, `handleUpperPacket_asks`, ...   one lemma for each call;
* `step_time`       none of them takes time.
-/

set_option linter.unusedVariables false

namespace Nesting

namespace EtherMac

variable {cfg : MacConfig} {s s1 s' : EtherMac} {free : Prop}

/-- the selection is asked at most once, and only if `free` -/
structure Asks (free : Prop) (s s' : EtherMac) : Prop where
  onHold : s'.onHold = s.onHold
  time : s'.time = s.time
  selection : s'.transmissionSelection = s.transmissionSelection ∨
    (s'.transmissionSelection = s.transmissionSelection.requestPacket ∧ free)

namespace Asks

theorem silent (hh : s'.onHold = s.onHold) (ht : s'.time = s.time)
    (hs : s'.transmissionSelection = s.transmissionSelection) : Asks free s s' := ⟨hh, ht, .inl hs⟩

theorem mono {free' : Prop} (h : Asks free s s') (hf : free → free') : Asks free' s s' :=
  ⟨h.onHold, h.time, h.selection.imp_right fun ⟨hs, hfree⟩ => ⟨hs, hf hfree⟩⟩

/-- nothing is asked afterwards -/
theorem silent_after (h : Asks free s s1) (h' : Asks False s1 s') : Asks free s s' := by
  refine ⟨h'.onHold.trans h.onHold, h'.time.trans h.time, ?_⟩
  obtain hs | ⟨_, hfalse⟩ := h'.selection
  · rw [hs]
    exact h.selection
  · exact hfalse.elim

end Asks

/-! ## transmissions ask for nothing -/

theorem startFrameTransmission_asks (h : s.startFrameTransmission cfg = .ok s') :
    Asks False s s' := by
  obtain ⟨_, _, _, _, _, hstart⟩ := startFrameTransmission_ok h
  cases hstart with
  | express => exact .silent rfl rfl rfl
  | new => exact .silent rfl rfl rfl
  | resumed => exact .silent rfl rfl rfl

theorem beginSendFrames_asks (h : s.beginSendFrames cfg = .ok s') : Asks False s s' := by
  unfold beginSendFrames at h
  split at h
  · exact startFrameTransmission_asks h
  · cases h
    exact .silent rfl rfl rfl

theorem handleEndTxPeriod_asks (h : s.handleEndTxPeriod cfg = .ok s') : Asks False s s' := by
  have hfinish : ∀ m : EtherMac, m.finishTransmission cfg = .ok s' → m.onHold = s.onHold →
      m.time = s.time → m.transmissionSelection = s.transmissionSelection → Asks False s s' := by
    intro m hm hh ht hts
    obtain ⟨_, _, _, ⟨t, rfl⟩ | ⟨t, rfl⟩⟩ := finishTransmission_ok hm
    · exact .silent hh ht hts
    · exact .silent hh ht hts
  unfold handleEndTxPeriod at h
  split at h
  · obtain ⟨m, hm, h⟩ := bind_ok.mp h
    obtain ⟨_, _, _, _, rfl⟩ := sendPreemptedFrame_ok hm
    exact hfinish _ h rfl rfl rfl
  · split at h
    · cases h
    · exact hfinish _ h rfl rfl rfl

theorem preemptCurrentFrame_asks (h : s.preemptCurrentFrame cfg = .ok s') : Asks False s s' := by
  obtain ⟨_, _, rfl⟩ := preemptCurrentFrame_ok h
  exact .silent rfl rfl rfl

theorem processPauseCommand_asks {pauseUnits : Int}
    (h : s.processPauseCommand cfg pauseUnits = .ok s') : Asks False s s' := by
  unfold processPauseCommand at h
  split at h
  · split at h
    · obtain ⟨_, t, rfl⟩ := scheduleEndPausePeriod_ok h
      exact .silent rfl rfl rfl
    · cases h
      exact .silent rfl rfl rfl
  · obtain ⟨_, t, rfl⟩ := scheduleEndPausePeriod_ok h
    exact .silent rfl rfl rfl
  · cases h
    exact .silent rfl rfl rfl

/-! ## the next frame -/

/-- this one looks for an outstanding request first -/
theorem requestNextFrameFromExtQueue_asks (h : s.requestNextFrameFromExtQueue = .ok s') :
    Asks (s.transmissionSelection.packetRequestedFromUs = false) s s' := by
  obtain ⟨_, _, h⟩ := bind_ok.mp h
  cases h
  split
  · rename_i hnone
    refine ⟨rfl, rfl, .inr ⟨rfl, ?_⟩⟩
    cases hus : s.transmissionSelection.packetRequestedFromUs with
    | false => rfl
    | true =>
      unfold TransmissionSelection.getNumPendingRequests at hnone
      rw [hus] at hnone
      cases hnone
  · exact .silent rfl rfl rfl

/-- `checkForAndRequestExpressFrame` finds an express frame -/
def FindsExpress (s : EtherMac) : Prop :=
  s.transmittingExpressFrame = false ∧ s.expressFrameWaits = true

instance (s : EtherMac) : Decidable s.FindsExpress := inferInstanceAs (Decidable (_ ∧ _))

theorem checkForAndRequestExpressFrame_asks {requested : Bool}
    (h : s.checkForAndRequestExpressFrame cfg = .ok (s', requested)) :
    Asks s.FindsExpress s s' ∧ (requested = false → s' = s) := by
  obtain ⟨_, _, h⟩ := bind_ok.mp h
  obtain ⟨_, _, h⟩ := bind_ok.mp h
  split at h
  · rename_i hfind
    cases h
    rw [Bool.and_eq_true, Bool.not_eq_true'] at hfind
    exact ⟨⟨rfl, rfl, .inr ⟨rfl, hfind⟩⟩, nofun⟩
  · cases h
    exact ⟨.silent rfl rfl rfl, fun _ => rfl⟩

/-- `getNextFrameFromQueue` reaches `checkForAndRequestExpressFrame`, which finds one -/
def WantsExpress (cfg : MacConfig) (s : EtherMac) : Prop :=
  cfg.enablePreemptingFrames = true ∧ s.currentExpressFrame = none ∧ s.FindsExpress

instance (cfg : MacConfig) (s : EtherMac) : Decidable (s.WantsExpress cfg) :=
  inferInstanceAs (Decidable (_ ∧ _ ∧ _))

theorem resumeOrRequest_asks (h : s.resumeOrRequest = .ok s') :
    Asks (s.transmissionSelection.packetRequestedFromUs = false) s s' := by
  unfold resumeOrRequest at h
  split at h
  · cases h
    exact .silent rfl rfl rfl
  · exact requestNextFrameFromExtQueue_asks h

theorem getNextFrameFromQueue_asks (h : s.getNextFrameFromQueue cfg = .ok s') :
    Asks (s.transmissionSelection.packetRequestedFromUs = false ∨ s.WantsExpress cfg) s s' := by
  obtain ⟨_, _, h⟩ := bind_ok.mp h
  cases he : s.currentExpressFrame with
  | some frame =>
    rw [he] at h
    cases h
    exact .silent rfl rfl rfl
  | none =>
    rw [he] at h
    dsimp only at h
    split at h
    · rename_i henable
      obtain ⟨⟨s1, requested⟩, h1, h2⟩ := bind_ok.mp h
      obtain ⟨hasks, hsame⟩ := checkForAndRequestExpressFrame_asks h1
      cases requested with
      | true =>
        cases h2
        exact hasks.mono fun hf => .inr ⟨henable, he, hf⟩
      | false =>
        obtain rfl := hsame rfl
        have h2 : s1.resumeOrRequest = .ok s' := h2
        exact (resumeOrRequest_asks h2).mono .inl
    · exact (resumeOrRequest_asks h).mono .inl

theorem nextFrame_asks
    (h : (s.getNextFrameFromQueue cfg >>= fun s => s.beginSendFrames cfg) = .ok s') :
    Asks (s.transmissionSelection.packetRequestedFromUs = false ∨ s.WantsExpress cfg) s s' := by
  obtain ⟨s1, h1, h2⟩ := bind_ok.mp h
  exact (getNextFrameFromQueue_asks h1).silent_after (beginSendFrames_asks h2)

/-! ## the calls -/

theorem packetEnqueued_asks (h : s.packetEnqueued cfg = .ok s') : Asks True s s' := by
  unfold packetEnqueued at h
  split at h
  · obtain ⟨possible, _, h⟩ := bind_ok.mp h
    split at h
    · cases h
      exact ⟨rfl, rfl, .inr ⟨rfl, trivial⟩⟩
    · obtain ⟨t, _, h⟩ := bind_ok.mp h
      split at h
      · obtain rfl := scheduleRecheck_ok h
        exact .silent rfl rfl rfl
      · cases h
        exact .silent rfl rfl rfl
  · cases h
    exact .silent rfl rfl rfl

/-- with the interface down, the next frame is asked for -/
theorem handleUpperPacket_asks {packet : Packet} (h : s.handleUpperPacket cfg packet = .ok s') :
    Asks (s.transmissionSelection.packetRequestedFromUs = false) s s' := by
  obtain ⟨_, _, h⟩ := bind_ok.mp h
  split at h
  · exact requestNextFrameFromExtQueue_asks h
  · obtain ⟨s1, h1, h⟩ := bind_ok.mp h
    obtain ⟨msg, rfl, _⟩ := cancelRecheck_ok h1
    have hstore : ∀ m : EtherMac, (m.storeOnHold packet).onHold = m.onHold ∧
        (m.storeOnHold packet).time = m.time ∧
        (m.storeOnHold packet).transmissionSelection = m.transmissionSelection := by
      intro m
      unfold storeOnHold
      split
      · exact ⟨rfl, rfl, rfl⟩
      · exact ⟨rfl, rfl, rfl⟩
    cases takeUpperPacket_ok h with
    | preempting _ _ hp =>
      obtain ⟨_, _, rfl⟩ := preemptCurrentFrame_ok hp
      exact .silent rfl rfl rfl
    | inGap => exact .silent rfl rfl rfl
    | paused =>
      obtain ⟨hh, ht, hts⟩ := hstore _
      exact .silent hh ht hts
    | sent _ hs =>
      obtain ⟨hh, ht, hts⟩ := hstore _
      have hbegin := startFrameTransmission_asks hs
      refine .silent (hbegin.onHold.trans hh) (hbegin.time.trans ht) ?_
      obtain hsel | ⟨_, hfalse⟩ := hbegin.selection
      · exact hsel.trans hts
      · exact hfalse.elim
    | stray => exact .silent rfl rfl rfl

/-- the MAC is on hold after `hold(delay)` -/
def heldAfter (cfg : MacConfig) (delay : SimTime) (s : EtherMac) : EtherMac :=
  if cfg.enablePreemptingFrames = true ∧ delay = 0 then { s with onHold := true } else s

/-- an idle MAC looks for an express frame at a hold -/
def HoldWantsExpress (cfg : MacConfig) (s : EtherMac) : Prop :=
  s.transmittingPreemptableFrame = false ∧ s.transmitState = .TX_IDLE_STATE ∧
    { s with onHold := true }.WantsExpress cfg

instance (cfg : MacConfig) (s : EtherMac) : Decidable (s.HoldWantsExpress cfg) :=
  inferInstanceAs (Decidable (_ ∧ _ ∧ _))

theorem preemptOrRequest_asks (h : s.preemptOrRequest cfg = .ok s') :
    Asks (s.transmissionSelection.packetRequestedFromUs = false ∨
      (s.transmittingPreemptableFrame = false ∧ s.transmitState = .TX_IDLE_STATE ∧
        s.WantsExpress cfg)) s s' := by
  unfold preemptOrRequest at h
  split at h
  · obtain ⟨possible, _, h⟩ := bind_ok.mp h
    split at h
    · exact (preemptCurrentFrame_asks h).mono False.elim
    · obtain ⟨t, _, h⟩ := bind_ok.mp h
      split at h
      · obtain ⟨_, _, h⟩ := bind_ok.mp h
        cases h
        exact .silent rfl rfl rfl
      · cases h
        exact .silent rfl rfl rfl
  · rename_i hp
    split at h
    · rename_i hi
      exact (getNextFrameFromQueue_asks h).mono fun hf =>
        hf.imp_right fun hw => ⟨Bool.not_eq_true _ |>.mp hp, hi, hw⟩
    · cases h
      exact .silent rfl rfl rfl

theorem hold_asks {delay : SimTime} (h : s.hold cfg delay = .ok s') :
    Asks (s.transmissionSelection.packetRequestedFromUs = false ∨
      (delay = 0 ∧ s.HoldWantsExpress cfg)) (s.heldAfter cfg delay) s' := by
  unfold hold at h
  split at h
  · rename_i hd
    rw [Bool.not_eq_true'] at hd
    cases h
    have hno : ¬(cfg.enablePreemptingFrames = true ∧ delay = 0) := by
      rw [hd]
      nofun
    rw [heldAfter, if_neg hno]
    exact .silent rfl rfl rfl
  · rename_i henable
    rw [Bool.not_eq_true', Bool.not_eq_false] at henable
    split at h
    · rename_i hzero
      rw [heldAfter, if_pos ⟨henable, hzero⟩]
      exact (preemptOrRequest_asks h).mono fun hf => hf.imp_right fun hw => ⟨hzero, hw⟩
    · rename_i hne
      obtain ⟨_, _, h⟩ := bind_ok.mp h
      cases h
      rw [heldAfter, if_neg fun hc => hne hc.2]
      exact .silent rfl rfl rfl

/-- after a release no request is outstanding -/
theorem release_asks (h : s.release cfg = .ok s') :
    (cfg.enablePreemptingFrames = false ∧ s' = s) ∨
    (cfg.enablePreemptingFrames = true ∧ Asks True { s with
      onHold := false
      transmissionSelection := s.transmissionSelection.removePendingRequests } s') := by
  unfold release at h
  split at h
  · rename_i hd
    rw [Bool.not_eq_true'] at hd
    cases h
    exact .inl ⟨hd, rfl⟩
  · rename_i henable
    rw [Bool.not_eq_true', Bool.not_eq_false] at henable
    refine .inr ⟨henable, ?_⟩
    dsimp only at h
    split at h
    · exact (nextFrame_asks h).mono fun _ => trivial
    · cases h
      exact .silent rfl rfl rfl

/-- the timer reaches `checkForAndRequestExpressFrame`, which finds an express frame -/
def TimerWantsExpress (cfg : MacConfig) (s : EtherMac) : MacTimer → Prop
  | .endIFG => s.WantsExpress cfg
  | .endPause => s.WantsExpress cfg
  | .recheckForQueuedExpressFrame => s.FindsExpress
  | .holdRequest => s.HoldWantsExpress cfg
  | _ => False

instance (cfg : MacConfig) (s : EtherMac) : ∀ timer, Decidable (s.TimerWantsExpress cfg timer)
  | .endTx => isFalse id
  | .endIFG => inferInstanceAs (Decidable (s.WantsExpress cfg))
  | .endPause => inferInstanceAs (Decidable (s.WantsExpress cfg))
  | .recheckForQueuedExpressFrame => inferInstanceAs (Decidable s.FindsExpress)
  | .preemptCurrentFrame => isFalse id
  | .holdRequest => inferInstanceAs (Decidable (s.HoldWantsExpress cfg))

/-- only the timer of a hold request changes the hold -/
def heldAfterTimer (cfg : MacConfig) (s : EtherMac) : MacTimer → EtherMac
  | .holdRequest => s.heldAfter cfg 0
  | _ => s

theorem heldAfter_keeps (s : EtherMac) (cfg : MacConfig) (delay : SimTime) :
    (s.heldAfter cfg delay).transmissionSelection = s.transmissionSelection ∧
    (s.heldAfter cfg delay).time = s.time ∧
    ((s.heldAfter cfg delay).onHold = s.onHold ∨ (s.heldAfter cfg delay).onHold = true) := by
  unfold heldAfter
  split
  · exact ⟨rfl, rfl, .inr rfl⟩
  · exact ⟨rfl, rfl, .inl rfl⟩

theorem heldAfterTimer_keeps (s : EtherMac) (cfg : MacConfig) (timer : MacTimer) :
    (s.heldAfterTimer cfg timer).transmissionSelection = s.transmissionSelection ∧
    (s.heldAfterTimer cfg timer).time = s.time ∧
    ((s.heldAfterTimer cfg timer).onHold = s.onHold ∨
      (s.heldAfterTimer cfg timer).onHold = true) := by
  cases timer with
  | holdRequest => exact heldAfter_keeps s cfg 0
  | _ => exact ⟨rfl, rfl, .inl rfl⟩

theorem handleSelfMessage_asks {timer : MacTimer} (h : s.handleSelfMessage cfg timer = .ok s') :
    Asks (s.transmissionSelection.packetRequestedFromUs = false ∨ s.TimerWantsExpress cfg timer)
      (s.heldAfterTimer cfg timer) s' := by
  cases timer with
  | endTx =>
    have hasks := handleEndTxPeriod_asks h
    exact ⟨hasks.onHold, hasks.time, hasks.selection.imp_right fun ⟨_, hf⟩ => hf.elim⟩
  | endIFG =>
    obtain ⟨_, _, h⟩ := bind_ok.mp h
    split at h
    · cases h
    · have hasks := nextFrame_asks h
      exact ⟨hasks.onHold, hasks.time, hasks.selection⟩
  | endPause =>
    obtain ⟨_, _, h⟩ := bind_ok.mp h
    split at h
    · cases h
    · have hasks := nextFrame_asks h
      exact ⟨hasks.onHold, hasks.time, hasks.selection⟩
  | recheckForQueuedExpressFrame =>
    obtain ⟨⟨s1, requested⟩, h1, h⟩ := bind_ok.mp h
    cases h
    obtain ⟨hasks, _⟩ := checkForAndRequestExpressFrame_asks h1
    exact ⟨hasks.onHold, hasks.time, hasks.selection.imp_right fun ⟨hs, hf⟩ => ⟨hs, .inr hf⟩⟩
  | preemptCurrentFrame =>
    have hasks := preemptCurrentFrame_asks h
    exact ⟨hasks.onHold, hasks.time, hasks.selection.imp_right fun ⟨_, hf⟩ => hf.elim⟩
  | holdRequest =>
    have hasks := hold_asks h
    have hframe : ({ s with holdRequests := s.holdRequests.erase s.time }.heldAfter cfg 0).onHold =
        (s.heldAfter cfg 0).onHold ∧
        ({ s with holdRequests := s.holdRequests.erase s.time }.heldAfter cfg 0).time =
          (s.heldAfter cfg 0).time ∧
        ({ s with holdRequests := s.holdRequests.erase s.time }.heldAfter cfg 0).transmissionSelection =
          (s.heldAfter cfg 0).transmissionSelection := by
      unfold heldAfter
      split
      · exact ⟨rfl, rfl, rfl⟩
      · exact ⟨rfl, rfl, rfl⟩
    obtain ⟨hh, ht, hts⟩ := hframe
    refine ⟨hasks.onHold.trans hh, hasks.time.trans ht, ?_⟩
    have hsel := hasks.selection
    rw [hts] at hsel
    exact hsel.imp_right fun ⟨hs, hf⟩ => ⟨hs, hf.imp_right fun hw => hw.2⟩

/-- time goes on in no other event -/
theorem step_time {e : MacEvent} (h : s.step cfg e = .ok s') :
    s'.time = s.time ∨ ∃ t, e = .advance t ∧ s.CanAdvance t ∧ s' = { s with time := t } := by
  cases e with
  | advance t =>
    change (if s.CanAdvance t then _ else _) = _ at h
    split at h
    · rename_i hc
      cases h
      exact .inr ⟨t, rfl, hc, rfl⟩
    · cases h
  | timer timer =>
    change (if s.time ∈ s.scheduled timer then _ else _) = _ at h
    split at h
    · exact .inl ((handleSelfMessage_asks h).time.trans (heldAfterTimer_keeps s cfg timer).2.1)
    · cases h
  | handleUpperPacket packet => exact .inl (handleUpperPacket_asks h).time
  | handlePacket gateId packet =>
    obtain ⟨⟨p, ts⟩, _, h⟩ := bind_ok.mp h
    exact .inl (handleUpperPacket_asks h).time
  | packetEnqueued => exact .inl (packetEnqueued_asks h).time
  | hold delay => exact .inl ((hold_asks h).time.trans (heldAfter_keeps s cfg delay).2.1)
  | release =>
    obtain ⟨_, rfl⟩ | ⟨_, hasks⟩ := release_asks h
    · exact .inl rfl
    · exact .inl hasks.time
  | processPauseCommand pauseUnits => exact .inl (processPauseCommand_asks h).time
  | setGates tGates =>
    cases h
    exact .inl rfl
  | gatePacketEnqueued =>
    cases h
    exact .inl rfl
  | requestPacketMsg =>
    change (if s.transmissionSelection.requestPacketMsg then _ else _) = _ at h
    split at h
    · obtain ⟨⟨ts, gate⟩, _, h⟩ := bind_ok.mp h
      cases h
      exact .inl rfl
    · cases h
  | packetEnqueuedMsg =>
    change (if s.transmissionSelection.packetEnqueuedMsg then _ else _) = _ at h
    split at h
    · split at h
      · exact .inl (packetEnqueued_asks h).time
      · cases h
        exact .inl rfl
    · cases h

end EtherMac

end Nesting
