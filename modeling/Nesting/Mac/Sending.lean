import Nesting.Mac.ByteCount
import Nesting.Mac.Receive

/-!
# The part in transmission

* `Stops`          the events that may stop it;
* `Course`         a step ends it, leaves it alone, stops it, or puts the stop off;
* `SendStep`       the same with the start of a part.
-/

set_option linter.unusedVariables false

namespace Nesting

namespace EtherMac

variable {cfg : MacConfig} {s s' : EtherMac} {e : MacEvent} {frame : Packet}

/-- the event asks for the end of the part in transmission -/
def Stops (s : EtherMac) : MacEvent → Prop
  | .timer timer => timer = .preemptCurrentFrame ∨ timer = .holdRequest
  | .hold delay => delay = 0
  | .handleUpperPacket packet => packet.express = true
  | .handlePacket gateId packet =>
    Selects (fun packet => packet.express = true)
      (s.transmissionSelection.handlePacket gateId packet)
  | _ => False

instance (s : EtherMac) : DecidablePred s.Stops
  | .timer _ => inferInstanceAs (Decidable (_ ∨ _))
  | .hold delay => inferInstanceAs (Decidable (delay = 0))
  | .handleUpperPacket packet => inferInstanceAs (Decidable (packet.express = true))
  | .handlePacket gateId packet =>
    inferInstanceAs (Decidable (Selects (fun packet => packet.express = true)
      (s.transmissionSelection.handlePacket gateId packet)))
  | .advance _ | .packetEnqueued | .release | .processPauseCommand _ | .setGates _
  | .gatePacketEnqueued | .requestPacketMsg | .packetEnqueuedMsg => isFalse id

theorem Timing.orderly (h : Timing cfg s) : Orderly cfg s :=
  ⟨fun hp => (h.sending hp).enabled, fun frame hf => (h.waiting frame hf).1⟩

/-- the frames, and the request to stop the one in transmission -/
structure Untouched (s s' : EtherMac) : Prop where
  frames : s'.frames = s.frames
  request : s'.preemptCurrentFrameMsg = s.preemptCurrentFrameMsg

/-- while something is sent, a preemptable frame from the upper layer is an error -/
theorem handleUpperPacket_express (hshape : s.Shape) (hp : s.transmittingPreemptableFrame = true)
    {packet : Packet} (h : s.handleUpperPacket cfg packet = .ok s') :
    packet.express = true ∧ ∃ msg m, m = { s with
        recheckForQueuedExpressFrameMsg := msg
        history := s.history ++ [MacRecord.accepted packet]
        currentExpressFrame := some packet } ∧ m.preemptCurrentFrame cfg = .ok s' := by
  have hsending := hshape.transmitting_iff.mpr (.inr hp)
  obtain ⟨_, hc, h⟩ := bind_ok.mp h
  split at h
  · exact absurd (requestNextFrameFromExtQueue_ok h).1 (hshape.sending hsending)
  · obtain ⟨s1, h1, h⟩ := bind_ok.mp h
    obtain ⟨msg, rfl, _⟩ := cancelRecheck_ok h1
    cases takeUpperPacket_ok h with
    | preempting he _ hpre => exact ⟨he, msg, _, rfl, hpre⟩
    | inGap _ hs => exact absurd (hsending.symm.trans hs) nofun
    | paused hs => exact absurd (hsending.symm.trans hs) nofun
    | sent hs => exact absurd (hsending.symm.trans hs) nofun
    | stray _ _ _ hp' => exact absurd (hp.symm.trans hp') nofun

theorem packetEnqueued_untouched (h : s.packetEnqueued cfg = .ok s') : Untouched s s' := by
  unfold packetEnqueued at h
  split at h
  · obtain ⟨possible, _, h⟩ := bind_ok.mp h
    split at h
    · cases h
      exact ⟨rfl, rfl⟩
    · obtain ⟨t, _, h⟩ := bind_ok.mp h
      split at h
      · rw [scheduleRecheck_ok h]
        exact ⟨rfl, rfl⟩
      · cases h
        exact ⟨rfl, rfl⟩
  · cases h
    exact ⟨rfl, rfl⟩

/-- only these events, and the end of the part, concern the part in transmission -/
theorem step_untouched (hshape : s.Shape) (hp : s.transmittingPreemptableFrame = true)
    (hstop : ¬s.Stops e) (hend : e ≠ .timer .endTx) (hs : s.step cfg e = .ok s') :
    Untouched s s' := by
  have hsending := hshape.transmitting_iff.mpr (.inr hp)
  cases e with
  | advance t =>
    change (if s.CanAdvance t then _ else _) = _ at hs
    split at hs
    · cases hs
      exact ⟨rfl, rfl⟩
    · cases hs
  | timer timer =>
    change (if s.time ∈ s.scheduled timer then _ else _) = _ at hs
    split at hs
    · cases timer with
      | endTx => exact absurd rfl hend
      | endIFG =>
        obtain ⟨_, _, hs⟩ := bind_ok.mp hs
        rw [if_pos (by rw [show s.transmitState = _ from hsending]; nofun)] at hs
        cases hs
      | endPause =>
        obtain ⟨_, _, hs⟩ := bind_ok.mp hs
        rw [if_pos (by rw [show s.transmitState = _ from hsending]; nofun)] at hs
        cases hs
      | recheckForQueuedExpressFrame =>
        obtain ⟨⟨s1, requested⟩, h1, hs⟩ := bind_ok.mp hs
        obtain ⟨_, ts, rfl⟩ := checkForAndRequestExpressFrame_ok h1
        cases hs
        exact ⟨rfl, rfl⟩
      | preemptCurrentFrame => exact absurd (.inl rfl) hstop
      | holdRequest => exact absurd (.inr rfl) hstop
    · cases hs
  | handleUpperPacket packet => exact absurd (handleUpperPacket_express hshape hp hs).1 hstop
  | handlePacket gateId packet =>
    obtain ⟨⟨packet', ts⟩, h1, hs⟩ := bind_ok.mp hs
    have hx : ¬Selects (fun packet => packet.express = true)
        (s.transmissionSelection.handlePacket gateId packet) := hstop
    rw [h1] at hx
    have hshape' : { s with transmissionSelection := ts }.Shape := hshape.of_core rfl
    exact absurd (handleUpperPacket_express hshape' hp hs).1 hx
  | packetEnqueued => exact packetEnqueued_untouched hs
  | hold delay =>
    change s.hold cfg delay = _ at hs
    unfold hold at hs
    split at hs
    · cases hs
      exact ⟨rfl, rfl⟩
    · rw [if_neg (show ¬delay = 0 from hstop)] at hs
      obtain ⟨_, _, hs⟩ := bind_ok.mp hs
      cases hs
      exact ⟨rfl, rfl⟩
  | release =>
    change s.release cfg = _ at hs
    unfold release at hs
    split at hs
    · cases hs
      exact ⟨rfl, rfl⟩
    · dsimp only at hs
      split at hs
      · exact absurd (nextFrame_ok hs).1 (hshape.sending hsending)
      · cases hs
        exact ⟨rfl, rfl⟩
  | processPauseCommand pauseUnits =>
    change s.processPauseCommand cfg pauseUnits = _ at hs
    unfold processPauseCommand at hs
    rw [hsending] at hs
    cases hs
    exact ⟨rfl, rfl⟩
  | setGates tGates =>
    cases hs
    exact ⟨rfl, rfl⟩
  | gatePacketEnqueued =>
    cases hs
    exact ⟨rfl, rfl⟩
  | requestPacketMsg =>
    change (if s.transmissionSelection.requestPacketMsg then _ else _) = _ at hs
    split at hs
    · obtain ⟨⟨ts, gate⟩, _, hs⟩ := bind_ok.mp hs
      cases hs
      exact ⟨rfl, rfl⟩
    · cases hs
  | packetEnqueuedMsg =>
    change (if s.transmissionSelection.packetEnqueuedMsg then _ else _) = _ at hs
    split at hs
    · split at hs
      · obtain ⟨hf, hm⟩ := packetEnqueued_untouched hs
        exact ⟨hf, hm⟩
      · cases hs
        exact ⟨rfl, rfl⟩
    · cases hs

/-- the same part of the same frame -/
structure SamePart (s s' : EtherMac) : Prop where
  current : s'.currentPreemptableFrame = s.currentPreemptableFrame
  sent : s'.preemptedBytesSent = s.preemptedBytesSent
  started : s'.preemptableTransmissionStart = s.preemptableTransmissionStart

theorem SamePart.bytesUntil (h : SamePart s s') (t : SimTime) :
    s'.bytesUntil cfg t = s.bytesUntil cfg t := by
  unfold EtherMac.bytesUntil
  rw [h.started]

theorem SamePart.of_frames (h : s'.frames = s.frames) : SamePart s s' := by
  have h : ∀ {α : Type} (f : EtherMac → α), f s'.frames = f s.frames := fun f => congrArg f h
  exact ⟨h currentPreemptableFrame, h preemptedBytesSent, h preemptableTransmissionStart⟩

/-- what a step does while a part of a preemptable frame is in transmission -/
inductive Course (cfg : MacConfig) (s : EtherMac) (e : MacEvent) (s' : EtherMac) : Prop
  | ended (he : e = .timer .endTx) (ht : s.endTxMsg = some s.time)
      (hp' : s'.transmittingPreemptableFrame = false)
      (hf : s'.preemptedFrames.length = s.preemptedFrames.length + 1)
      (hgap : s'.endIFGMsg = none ∨ s'.endIFGMsg = some (s.time + INTERFRAME_GAP_BITS / cfg.txrate))
  | same (hp' : s'.transmittingPreemptableFrame = true) (hsame : SamePart s s')
      (hend : s'.endTxMsg = s.endTxMsg) (hmsg : s'.preemptCurrentFrameMsg = s.preemptCurrentFrameMsg)
      (hno : s.Stops e → s.isPreemptionNowPossible cfg = .ok false ∧
        s.isPreemptionLaterPossible cfg = .ok 0)
  /-- the part is stopped -/
  | stopped (hstop : s.Stops e) (hnow : s.isPreemptionNowPossible cfg = .ok true)
      (hp' : s'.transmittingPreemptableFrame = true) (hsame : SamePart s s')
      (hend : s'.endTxMsg = some (s.time + calculateTransmissionDuration cfg 4))
      (hmsg : (e ≠ .timer .preemptCurrentFrame ∧
          s'.preemptCurrentFrameMsg = s.preemptCurrentFrameMsg) ∨
        (e = .timer .preemptCurrentFrame ∧ s.preemptCurrentFrameMsg = some s.time ∧
          s'.preemptCurrentFrameMsg = none))
  /-- the part is to be stopped later -/
  | later (u : SimTime) (hstop : s.Stops e) (hne : e ≠ .timer .preemptCurrentFrame) (hd : Deferred cfg s u)
      (hp' : s'.transmittingPreemptableFrame = true) (hsame : SamePart s s')
      (hend : s'.endTxMsg = s.endTxMsg) (hmsg : s'.preemptCurrentFrameMsg = some u)

theorem finishTransmission_gap (h : s.finishTransmission cfg = .ok s') (hi : s.endIFGMsg = none) :
    s'.endIFGMsg = none ∨ s'.endIFGMsg = some (s.time + INTERFRAME_GAP_BITS / cfg.txrate) := by
  unfold finishTransmission at h
  split at h
  · cases h
  · split at h
    · cases h
    · split at h
      · obtain ⟨m, hm, h⟩ := bind_ok.mp h
        obtain ⟨_, t, rfl⟩ := scheduleEndPausePeriod_ok hm
        cases h
        exact .inl hi
      · obtain ⟨_, _, h⟩ := bind_ok.mp h
        obtain ⟨t, ht, h⟩ := bind_ok.mp h
        obtain ⟨_, _, rfl⟩ := scheduleAt_ok ht
        cases h
        exact .inr rfl

theorem handleEndTxPeriod_course (hshape : s.Shape) (hp : s.transmittingPreemptableFrame = true)
    (hen : cfg.enablePreemptingFrames = true) (ht : s.endTxMsg = some s.time)
    (h : { s with endTxMsg := none }.handleEndTxPeriod cfg = .ok s') :
    Course cfg s (.timer .endTx) s' := by
  have hi : s.endIFGMsg = none := hshape.endIFG_of_state (by
    rw [hshape.transmitting_iff.mpr (.inr hp)]
    nofun)
  unfold handleEndTxPeriod at h
  rw [if_pos (show (cfg.enablePreemptingFrames && s.transmittingPreemptableFrame) = true by
    rw [hen, hp]; rfl)] at h
  obtain ⟨m, hm, h⟩ := bind_ok.mp h
  obtain ⟨frame, bytes, hf, hb, rfl⟩ := sendPreemptedFrame_ok hm
  obtain ⟨h1, _, _, h4, _⟩ := finishTransmission_part h
  have hgap := finishTransmission_gap h hi
  refine .ended rfl ht h1 ?_ hgap
  rw [preemptedFrames_snoc h4, List.length_append]
  rfl

theorem hold_course (hp : s.transmittingPreemptableFrame = true)
    (hen : cfg.enablePreemptingFrames = true) (hstop : s.Stops e)
    (hne : e ≠ .timer .preemptCurrentFrame) {requests : List SimTime}
    (h : { s with holdRequests := requests }.hold cfg 0 = .ok s') : Course cfg s e s' := by
  unfold hold at h
  rw [hen, Bool.not_true, if_neg nofun, if_pos rfl] at h
  unfold preemptOrRequest at h
  rw [if_pos hp] at h
  obtain ⟨possible, hnow, h⟩ := bind_ok.mp h
  have hnow : s.isPreemptionNowPossible cfg = .ok possible := hnow
  cases possible with
  | true =>
    obtain ⟨_, _, rfl⟩ := preemptCurrentFrame_ok h
    exact .stopped hstop hnow hp ⟨rfl, rfl, rfl⟩ rfl (.inl ⟨hne, rfl⟩)
  | false =>
    obtain ⟨u, hlater, h⟩ := bind_ok.mp h
    have hlater : s.isPreemptionLaterPossible cfg = .ok u := hlater
    split at h
    · rename_i hnonzero
      obtain ⟨msg, hmsg, h⟩ := bind_ok.mp h
      obtain ⟨_, _, rfl⟩ := scheduleAt_ok hmsg
      cases h
      exact .later u hstop hne ⟨hp, hnow, hlater, hnonzero⟩ hp ⟨rfl, rfl, rfl⟩ rfl rfl
    · rename_i hzero
      cases h
      rw [not_not.mp hzero] at hlater
      exact .same hp ⟨rfl, rfl, rfl⟩ rfl rfl fun _ => ⟨hnow, hlater⟩

/-- every step is one of these -/
theorem step_course (hshape : s.Shape) (hp : s.transmittingPreemptableFrame = true)
    (hen : cfg.enablePreemptingFrames = true) (hs : s.step cfg e = .ok s') : Course cfg s e s' := by
  by_cases hstop : s.Stops e
  · cases e with
    | timer timer =>
      change (if s.time ∈ s.scheduled timer then _ else _) = _ at hs
      split at hs
      · rename_i hd
        obtain rfl | rfl := hstop
        · obtain ⟨_, hnow, rfl⟩ := preemptCurrentFrame_ok hs
          exact .stopped (.inl rfl) hnow hp ⟨rfl, rfl, rfl⟩ rfl
            (.inr ⟨rfl, Option.mem_toList.mp hd, rfl⟩)
        · exact hold_course hp hen (.inr rfl) nofun hs
      · cases hs
    | hold delay =>
      have hzero : delay = 0 := hstop
      subst hzero
      exact hold_course hp hen hstop nofun (show { s with
        holdRequests := s.holdRequests }.hold cfg 0 = .ok s' from hs)
    | handleUpperPacket packet =>
      obtain ⟨_, msg, m, rfl, hpre⟩ := handleUpperPacket_express hshape hp hs
      obtain ⟨_, hnow, rfl⟩ := preemptCurrentFrame_ok hpre
      exact .stopped hstop hnow hp ⟨rfl, rfl, rfl⟩ rfl (.inl ⟨nofun, rfl⟩)
    | handlePacket gateId packet =>
      obtain ⟨⟨packet', ts⟩, h1, hs⟩ := bind_ok.mp hs
      have hshape' : { s with transmissionSelection := ts }.Shape := hshape.of_core rfl
      obtain ⟨_, msg, m, rfl, hpre⟩ := handleUpperPacket_express hshape' hp hs
      obtain ⟨_, hnow, rfl⟩ := preemptCurrentFrame_ok hpre
      exact .stopped hstop hnow hp ⟨rfl, rfl, rfl⟩ rfl (.inl ⟨nofun, rfl⟩)
    | _ => exact hstop.elim
  · by_cases hend : e = .timer .endTx
    · subst hend
      change (if s.time ∈ s.scheduled .endTx then _ else _) = _ at hs
      split at hs
      · rename_i hd
        exact handleEndTxPeriod_course hshape hp hen (Option.mem_toList.mp hd) hs
      · cases hs
    · obtain ⟨hf, hmsg⟩ := step_untouched hshape hp hstop hend hs
      have hf' : ∀ {α : Type} (f : EtherMac → α), f s'.frames = f s.frames := fun f => congrArg f hf
      exact .same ((hf' transmittingPreemptableFrame).trans hp) (.of_frames hf) (hf' endTxMsg) hmsg
        fun h => absurd h hstop

/-- what a step does to the part in transmission -/
inductive SendStep (cfg : MacConfig) (s : EtherMac) (e : MacEvent) (s' : EtherMac) : Prop
  | ended (hp' : s'.transmittingPreemptableFrame = false)
  | same (hp : s.transmittingPreemptableFrame = true) (hsame : SamePart s s')
      (hend : s'.endTxMsg = s.endTxMsg)
  | stopped (hp : s.transmittingPreemptableFrame = true) (hstop : s.Stops e)
      (hnow : s.isPreemptionNowPossible cfg = .ok true) (hsame : SamePart s s')
      (hend : s'.endTxMsg = some (s.time + calculateTransmissionDuration cfg 4))
  | started (hp : s.transmittingPreemptableFrame = false)
      (hstart : s'.preemptableTransmissionStart = s'.time)

theorem StartTransmission.send (hst : StartTransmission cfg s frame s')
    (hp : s.transmittingPreemptableFrame = false) :
    s'.transmittingPreemptableFrame = false ∨ s'.preemptableTransmissionStart = s'.time := by
  cases hst with
  | express => exact .inl hp
  | new => exact .inr rfl
  | resumed => exact .inr rfl

/-- every step is one of these -/
theorem step_send (hshape : s.Shape) (horder : Orderly cfg s) (hs : s.step cfg e = .ok s') :
    SendStep cfg s e s' := by
  cases hp : s.transmittingPreemptableFrame with
  | true =>
    cases step_course hshape hp (horder.enabled hp) hs with
    | ended _ _ hp' => exact .ended hp'
    | same _ hsame hend => exact .same hp hsame hend
    | stopped hstop hnow _ hsame hend => exact .stopped hp hstop hnow hsame hend
    | later _ _ _ _ _ hsame hend => exact .same hp hsame hend
  | false =>
    have hflag : ∀ m : EtherMac, m.frames = s.frames → m.transmittingPreemptableFrame = false :=
      fun m hm => (congrArg (fun s => s.transmittingPreemptableFrame) hm).trans hp
    cases step_change hshape hs with
    | quiet hc _ _ => exact .ended (hflag s' hc)
    | @next m t hm _ _ _ _ hn =>
      obtain ⟨_, s1, hnext, hrest⟩ := nextFrame_ok hn
      have hp1 : s1.transmittingPreemptableFrame = false := by
        cases hnext with
        | stored => exact hflag m hm
        | resumed => exact hflag m hm
        | nothing => exact hflag m hm
      obtain ⟨_, _, _, _, _, hst⟩ | ⟨_, rfl⟩ := hrest
      · obtain hover | hstart := hst.send hp1
        · exact .ended hover
        · exact .started hp hstart
      · exact .ended hp1
    | endTx _ ht => exact .ended (handleEndTxPeriod_over ht).1
    | @preempt m t hm _ _ hpre =>
      exact absurd ((hflag m hm).symm.trans (preemptCurrentFrame_ok hpre).1) nofun
    | @arrive m t packet hm _ _ _ _ _ _ ha =>
      have hm := hflag m (frames_of_core hm)
      have hstore : ∀ n : EtherMac, n.transmittingPreemptableFrame = false →
          (n.storeOnHold packet).transmittingPreemptableFrame = false :=
        fun n hn => (storeOnHold_fields packet).1.trans hn
      cases ha with
      | preempting _ htrue => exact absurd (hm.symm.trans htrue) nofun
      | inGap => exact .ended hm
      | paused => exact .ended (hstore _ hm)
      | sent _ hst =>
        obtain ⟨_, _, _, hp1, _, hst⟩ := startFrameTransmission_ok hst
        obtain hover | hstart := hst.send hp1
        · exact .ended hover
        · exact .started hp hstart
      | stray _ _ _ hp' => exact .ended hp'

end EtherMac

end Nesting
