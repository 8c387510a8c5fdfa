import Nesting.Mac.Conserve

/-!
# The assertions of the MAC

`getNextFrameFromQueue`, `startFrameTransmission`, `checkForAndRequestExpressFrame` and
`preemptCurrentFrame` assert that they are entered in the right state.

* `Deadline`       a preemption that was put off is possible when it is due;
* `Holds`          none of these assertions fails;
* `Admits`, `Careful`   the frames and the releases with which they hold;
* `transmitState_sound`   then no run breaks an assertion, and every state has its shape;
* `release_breaks`  a release while a preemptable frame is sent.
-/

set_option linter.unusedVariables false

namespace Nesting

namespace EtherMac

open Lib

variable {cfg : MacConfig} {s s' : EtherMac}

/-! ## preemptions that are put off -/

theorem nextFrame_due {u : SimTime}
    (hn : (s.getNextFrameFromQueue cfg >>= fun s => s.beginSendFrames cfg) = .ok s')
    (hu : s'.Due u) : s.Due u := by
  obtain ⟨_, s1, hnext, ⟨frame, _, _, _, _, hstart⟩ | ⟨_, rfl⟩⟩ := nextFrame_ok hn
  · cases hnext <;> cases hstart <;> exact hu
  · cases hnext <;> exact hu

theorem handleEndTxPeriod_due {u : SimTime}
    (ht : { s with endTxMsg := none }.handleEndTxPeriod cfg = .ok s') (hu : s'.Due u) : s.Due u := by
  have hfinish : ∀ m : EtherMac, (m.Due u → s.Due u) → m.finishTransmission cfg = .ok s' →
      s.Due u := by
    intro m hm hok
    obtain ⟨_, _, _, ⟨t, rfl⟩ | ⟨t, rfl⟩⟩ := finishTransmission_ok hok
    · exact hm hu
    · exact hm hu
  unfold handleEndTxPeriod at ht
  split at ht
  · obtain ⟨m, hm, ht⟩ := bind_ok.mp ht
    obtain ⟨frame, bytes, _, _, rfl⟩ := sendPreemptedFrame_ok hm
    refine hfinish _ ?_ ht
    exact id
  · split at ht
    · cases ht
    · refine hfinish _ ?_ ht
      exact id

/-- what is due at `u` can be done then, while the frame is still sent -/
structure Deadline (cfg : MacConfig) (s : EtherMac) (u : SimTime) : Prop where
  sending : s.transmittingPreemptableFrame = true
  time : s.time ≤ u
  bytes : s.bytesUntil cfg u = 60
  rest : ∃ frame t, s.currentPreemptableFrame = some frame ∧
    s.preemptedBytesSent + 124 ≤ frame.byteLength ∧ s.endTxMsg = some t ∧ u < t

theorem Deadline.of_frames {u : SimTime} (h : Deadline cfg s u) (hc : s'.frames = s.frames)
    (ht : s'.time ≤ u) : Deadline cfg s' u := by
  have hs : Deadline cfg { s.frames with time := s'.time } u := ⟨h.1, ht, h.3, h.4⟩
  rw [← hc] at hs
  exact ⟨hs.1, hs.2, hs.3, hs.4⟩

/-- the time at which a byte is sent tells the order -/
theorem lt_of_bytesUntil_lt {t u : SimTime} (h : s.bytesUntil cfg t < s.bytesUntil cfg u) : t < u :=
  lt_of_not_ge fun hle => absurd (bytesUntil_mono hle) (not_le.mpr h)

theorem bytesUntil_nonneg (h : s.preemptableTransmissionStart ≤ s.time) :
    0 ≤ s.bytesUntil cfg s.time := by
  have hbit := cfg.bitTime_pos
  have hsince : 0 ≤ s.time - s.preemptableTransmissionStart := sub_nonneg.mpr h
  unfold bytesUntil
  positivity

theorem isPreemptionLaterPossible_ok {u : SimTime} (hd : Deferred cfg s u)
    (hs : s.preemptableTransmissionStart ≤ s.time) :
    ∃ frame, s.currentPreemptableFrame = some frame ∧ s.bytesUntil cfg s.time < 60 ∧
      s.preemptedBytesSent + 124 ≤ frame.byteLength ∧
      u = s.time + calculateTransmissionDuration cfg (60 - s.bytesUntil cfg s.time) := by
  obtain ⟨hp, hnow, hlater, hne⟩ := hd
  obtain ⟨possible, hpos, h⟩ := bind_ok.mp hlater
  rw [hnow] at hpos
  cases hpos
  obtain ⟨bytes, hb, h⟩ := bind_ok.mp h
  have hb := calculatePreemptedPayloadBytesSent_ok hp hb
  simp only [Bool.false_eq_true, if_false, Int.sub_zero] at hb
  rw [max_eq_right (bytesUntil_nonneg hs)] at hb
  split at h
  · cases h
  · rename_i frame hf
    have h := (Except.ok.inj h).symm
    unfold kFramePreemptionMinFinalPayloadSize kFramePreemptionMinNonFinalPayloadSize at h
    split at h
    · rename_i hc
      exact ⟨frame, hf, by omega, by omega, by rw [h, hb]⟩
    · exact absurd h hne

/-- a preemption is put off to a time at which it will be possible -/
theorem Deferred.deadline {u : SimTime} (h : Timing cfg s) (hd : Deferred cfg s u) :
    Deadline cfg s u := by
  obtain ⟨_, _, hstart, frame, t, hf, ht, hends⟩ := h.sending hd.sending
  obtain ⟨frame', hf', hlt, hrem, rfl⟩ := isPreemptionLaterPossible_ok hd hstart
  cases hf.symm.trans hf'
  have hbytes : s.bytesUntil cfg (s.time +
      calculateTransmissionDuration cfg (60 - s.bytesUntil cfg s.time)) = 60 := by
    rw [bytesUntil_add]
    omega
  refine ⟨hd.sending, le_of_lt (lt_of_bytesUntil_lt (by rw [hbytes]; exact hlt)), hbytes, frame, t,
    hf, hrem, ht, ?_⟩
  apply lt_of_bytesUntil_lt
  rw [hbytes]
  obtain rfl | ⟨v, hv, _, h60, _⟩ := hends
  · have hw := (h.current frame hf).2.1
    have hcounted := le_counted cfg (remaining frame s.preemptedBytesSent)
    rw [bytesUntil_duration]
    rw [remaining_of_le hw (by omega)] at hcounted ⊢
    omega
  · -- after a preemption the part is long enough
    have hmono : s.bytesUntil cfg v ≤ s.bytesUntil cfg s.time := bytesUntil_mono hv
    omega

theorem Deadline.possible (hen : cfg.enablePreemptingFrames = true) (hshape : s.Shape)
    (h : Deadline cfg s s.time) : s.isPreemptionNowPossible cfg = .ok true := by
  obtain ⟨hp, _, h60, frame, t, hf, hrem, _, _⟩ := h
  rw [isPreemptionNowPossible_eq hen hp (hshape.noExpress hp) hf (by omega) (by omega)]
  exact congrArg Except.ok (decide_eq_true (by omega))

/-- a preemption at a possible instant comes not too early for what is due -/
theorem Deadline.preempt {u : SimTime} (hen : cfg.enablePreemptingFrames = true)
    (h : Deadline cfg s u) (hp : s.preemptCurrentFrame cfg = .ok s') : Deadline cfg s' u := by
  obtain ⟨hpre, hpos, rfl⟩ := preemptCurrentFrame_ok hp
  obtain ⟨frame, hf, h60, _⟩ := isPreemptionNowPossible_ok hen hpre hpos
  obtain ⟨_, htime, hbytes, frame', t, hf', hrem, _, _⟩ := h
  refine ⟨hpre, htime, hbytes, frame', _, hf', hrem, rfl, ?_⟩
  refine lt_of_bytesUntil_lt (show s.bytesUntil cfg _ < s.bytesUntil cfg _ from ?_)
  rw [bytesUntil_add, hbytes]
  omega

/-- every step keeps the deadlines -/
theorem deadline_step (htime : Timing cfg s) (hshape : s.Shape) (h : ∀ u, s.Due u → Deadline cfg s u)
    {e : MacEvent} (hs : s.step cfg e = .ok s') : ∀ u, s'.Due u → Deadline cfg s' u := by
  -- nothing is due unless a preemptable frame is sent
  have hnone : ∀ (m : EtherMac) u, m.frames = s.frames → m.transmittingPreemptableFrame = false →
      ¬s.Due u := by
    intro m u hm hp hu
    have hflag : m.frames.transmittingPreemptableFrame = s.frames.transmittingPreemptableFrame :=
      congrArg transmittingPreemptableFrame hm
    exact absurd ((h u hu).sending.symm.trans hflag.symm) (by
      show ¬true = m.transmittingPreemptableFrame
      rw [hp]
      nofun)
  intro u hu
  cases step_change hshape hs with
  | quiet hc ht hd =>
    obtain ⟨hdue, hle⟩ | ⟨heq, hdef⟩ := hd u hu
    · refine (h u hdue).of_frames hc ?_
      obtain heq | hle := hle
      · rw [heq]
        exact (h u hdue).time
      · exact hle
    · have hdl := hdef.deadline htime
      refine hdl.of_frames hc ?_
      rw [heq]
      exact hdl.time
  | next hm ht hd he hp hn => exact absurd (hd u (nextFrame_due hn hu)) (hnone _ u hm hp)
  | endTx hd ht =>
    obtain ⟨_, hle, _, frame, t, _, _, ht', hlt⟩ := h u (handleEndTxPeriod_due ht hu)
    cases hd.symm.trans ht'
    exact absurd hlt (not_lt.mpr hle)
  | @preempt m t hm ht hd hp =>
    have hu : m.Due u := by
      obtain ⟨_, _, rfl⟩ := preemptCurrentFrame_ok hp
      exact hu
    have hdl := (h u (hd u hu)).of_frames hm (ht ▸ (h u (hd u hu)).time)
    exact hdl.preempt (htime.sending (h u (hd u hu)).sending).enabled hp
  | @arrive m t packet hm ht hd hh hup hw he ha =>
    have hshape' := hshape.of_core hm
    have hfr := frames_of_core hm
    cases ha with
    | preempting hx hpre hp =>
      have hu : m.Due u := by
        obtain ⟨_, _, rfl⟩ := preemptCurrentFrame_ok hp
        exact hu
      have hdl := (h u (hd u hu)).of_frames hfr (ht ▸ (h u (hd u hu)).time)
      have hsaved : Deadline cfg { m with
          history := m.history ++ [MacRecord.accepted packet]
          currentExpressFrame := some packet } u := ⟨hdl.1, hdl.2, hdl.3, hdl.4⟩
      exact hsaved.preempt (htime.sending (h u (hd u hu)).sending).enabled hp
    | inGap hx hst =>
      have hp := (hshape'.flags (by rw [show m.transmitState = _ from hst]; nofun)).2
      exact absurd (hd u hu) (hnone m u hfr hp)
    | paused hst =>
      have hp := (hshape'.flags (by rw [show m.transmitState = _ from hst]; nofun)).2
      refine absurd (hd u ?_) (hnone m u hfr hp)
      unfold storeOnHold at hu
      split at hu
      · exact hu
      · exact hu
    | sent hst hstart =>
      have hp := (hshape'.flags (by rw [show m.transmitState = _ from hst]; nofun)).2
      refine absurd (hd u ?_) (hnone m u hfr hp)
      obtain ⟨frame, _, _, _, _, hst'⟩ := startFrameTransmission_ok hstart
      unfold storeOnHold at hst'
      split at hst'
      · cases hst' <;> exact hu
      · cases hst' <;> exact hu
    | stray hx hst he' hp => exact absurd (hd u hu) (hnone m u hfr hp)

/-! ## the assertions -/

/-- what `getNextFrameFromQueue`, `startFrameTransmission`, `checkForAndRequestExpressFrame` and
`preemptCurrentFrame` assert -/
def entryAssertions : List SimError :=
  [.assertion "nullptr == curTxFrame in getNextFrameFromQueue",
   .assertion "curTxFrame",
   .assertion "!transmittingExpressFrame",
   .assertion "!transmittingPreemptableFrame",
   .assertion "isPreemptionNowPossible()",
   .assertion "transmittingPreemptableFrame",
   .assertion "currentPreemptableFrame"]

/-- none of these assertions fails -/
def Holds {α : Type} (r : Sim α) : Prop := Avoids (fun x => x ∈ entryAssertions) r

/-- `isPreemptionNowPossible` is not false -/
def MayPreempt (cfg : MacConfig) (s : EtherMac) : Prop := s.isPreemptionNowPossible cfg ≠ .ok false

instance (cfg : MacConfig) (s : EtherMac) : Decidable (MayPreempt cfg s) :=
  inferInstanceAs (Decidable (_ ≠ _))

theorem undefinedBehaviour_holds {α : Type} (text : String) :
    Holds (.error (.undefinedBehaviour text) : Sim α) := by
  refine Avoids.error ?_
  simp [entryAssertions]

theorem runtimeError_holds {α : Type} (text : String) :
    Holds (.error (.runtimeError text) : Sim α) := by
  refine Avoids.error ?_
  simp [entryAssertions]

theorem scheduleAt_holds (now : SimTime) (msg : Option SimTime) (t : SimTime) :
    Holds (scheduleAt now msg t) := by
  refine Avoids.bind (.assertOther (by simp [entryAssertions])) fun _ _ => ?_
  exact Avoids.bind (.assertOther (by simp [entryAssertions])) fun _ _ => .ok _

theorem calculatePreemptedPayloadBytesSent_holds (t : SimTime) (sentCRC : Bool) :
    Holds (s.calculatePreemptedPayloadBytesSent cfg t sentCRC) := by
  unfold calculatePreemptedPayloadBytesSent
  split
  · exact Avoids.ok _
  · dsimp only
    generalize s.bytesUntil cfg t - (if sentCRC = true then 4 else 0) = n
    split
    · exact Avoids.ok _
    · split
      · exact undefinedBehaviour_holds _
      · split
        · exact runtimeError_holds _
        · exact Avoids.ok _

theorem isPreemptionNowPossible_holds : Holds (s.isPreemptionNowPossible cfg) := by
  unfold isPreemptionNowPossible
  split
  · exact Avoids.ok _
  · split
    · exact Avoids.ok _
    · refine Avoids.bind (calculatePreemptedPayloadBytesSent_holds _ _) fun bytes _ => ?_
      split
      · exact undefinedBehaviour_holds _
      · exact Avoids.ok _

theorem isPreemptionLaterPossible_holds : Holds (s.isPreemptionLaterPossible cfg) := by
  refine Avoids.bind isPreemptionNowPossible_holds fun possible _ => ?_
  split
  · exact Avoids.ok _
  · refine Avoids.bind (calculatePreemptedPayloadBytesSent_holds _ _) fun bytes _ => ?_
    split
    · exact undefinedBehaviour_holds _
    · exact Avoids.ok _

/-- the test for a preemption, and the assertion that it is possible -/
theorem assert_possible_holds {α : Type} (hm : MayPreempt cfg s) {f : Sim α} (hf : Holds f) :
    Holds (do
      let possible ← s.isPreemptionNowPossible cfg
      ASSERT possible "isPreemptionNowPossible()"
      f) := by
  refine Avoids.bind isPreemptionNowPossible_holds fun possible hp => ?_
  cases possible with
  | false => exact absurd hp hm
  | true => exact Avoids.bind (.assert rfl) fun _ _ => hf

theorem mayPreempt_of_idle (hp : s.transmittingPreemptableFrame = false) : MayPreempt cfg s := by
  unfold MayPreempt isPreemptionNowPossible
  rw [hp]
  simp

/-! ## the functions that assert -/

theorem startFrameTransmission_holds (hc : s.curTxFrame.isSome = true)
    (he : s.transmittingExpressFrame = false) (hp : s.transmittingPreemptableFrame = false) :
    Holds (s.startFrameTransmission cfg) := by
  obtain ⟨frame, hframe⟩ := Option.isSome_iff_exists.mp hc
  unfold startFrameTransmission
  rw [hframe, he, hp]
  refine Avoids.bind (.assert rfl) fun _ _ => Avoids.bind (.assert rfl) fun _ _ => ?_
  split
  · exact Avoids.bind (scheduleAt_holds _ _ _) fun _ _ => .ok _
  · exact Avoids.bind (scheduleAt_holds _ _ _) fun _ _ => .ok _

theorem checkForAndRequestExpressFrame_holds (hm : MayPreempt cfg s) :
    Holds (s.checkForAndRequestExpressFrame cfg) := by
  refine assert_possible_holds hm ?_
  exact Avoids.ok _

theorem preemptCurrentFrame_holds (hp : s.transmittingPreemptableFrame = true)
    (hf : s.currentPreemptableFrame.isSome = true) (he : s.transmittingExpressFrame = false)
    (hm : MayPreempt cfg s) : Holds (s.preemptCurrentFrame cfg) := by
  refine Avoids.bind (.assert hp) fun _ _ => Avoids.bind (.assert hf) fun _ _ => ?_
  refine Avoids.bind (.assert (by rw [he]; rfl)) fun _ _ => ?_
  refine assert_possible_holds hm ?_
  exact Avoids.ok _

theorem requestNextFrameFromExtQueue_holds : Holds s.requestNextFrameFromExtQueue :=
  Avoids.bind (.assertOther (by simp [entryAssertions])) fun _ _ => .ok _

theorem resumeOrRequest_holds : Holds s.resumeOrRequest := by
  unfold resumeOrRequest
  split
  · exact Avoids.ok _
  · exact requestNextFrameFromExtQueue_holds

theorem getNextFrameFromQueue_holds (hc : s.curTxFrame = none)
    (hp : s.transmittingPreemptableFrame = false) : Holds (s.getNextFrameFromQueue cfg) := by
  refine Avoids.bind (.assert (by rw [hc]; rfl)) fun _ _ => ?_
  split
  · exact Avoids.ok _
  · split
    · refine Avoids.bind (checkForAndRequestExpressFrame_holds (mayPreempt_of_idle hp))
        fun r _ => ?_
      obtain ⟨s1, requested⟩ := r
      cases requested with
      | true => exact Avoids.ok _
      | false => exact resumeOrRequest_holds
    · exact resumeOrRequest_holds

theorem nextFrame_holds (hc : s.curTxFrame = none) (he : s.transmittingExpressFrame = false)
    (hp : s.transmittingPreemptableFrame = false) :
    Holds (s.getNextFrameFromQueue cfg >>= fun s => s.beginSendFrames cfg) := by
  refine Avoids.bind (getNextFrameFromQueue_holds hc hp) fun s1 h1 => ?_
  unfold beginSendFrames
  split
  · rename_i hcur
    cases (getNextFrameFromQueue_ok h1).2 with
    | stored => exact startFrameTransmission_holds hcur he hp
    | resumed => exact startFrameTransmission_holds hcur he hp
    | nothing => exact startFrameTransmission_holds hcur he hp
  · exact Avoids.ok _

/-! ## events -/

theorem scheduleEndPausePeriod_holds (pauseUnits : Int) :
    Holds (s.scheduleEndPausePeriod cfg pauseUnits) :=
  Avoids.bind (.assertOther (by simp [entryAssertions])) fun _ _ =>
    Avoids.bind (scheduleAt_holds _ _ _) fun _ _ => .ok _

theorem finishTransmission_holds : Holds (s.finishTransmission cfg) := by
  unfold finishTransmission
  split
  · exact runtimeError_holds _
  · split
    · exact runtimeError_holds _
    · split
      · exact Avoids.bind (scheduleEndPausePeriod_holds _) fun _ _ => .ok _
      · exact Avoids.bind (.assertOther (by simp [entryAssertions])) fun _ _ =>
          Avoids.bind (scheduleAt_holds _ _ _) fun _ _ => .ok _

theorem handleEndTxPeriod_holds : Holds (s.handleEndTxPeriod cfg) := by
  unfold handleEndTxPeriod
  split
  · refine Avoids.bind ?_ fun _ _ => finishTransmission_holds
    unfold sendPreemptedFrame
    split
    · exact undefinedBehaviour_holds _
    · exact Avoids.bind (calculatePreemptedPayloadBytesSent_holds _ _) fun _ _ => .ok _
  · split
    · exact undefinedBehaviour_holds _
    · exact finishTransmission_holds

theorem handleEndIFGPeriod_holds (h : s.Shape) :
    Holds ({ s with endIFGMsg := none }.handleEndIFGPeriod cfg) := by
  refine Avoids.bind (.assertOther (by simp [entryAssertions])) fun _ hc => ?_
  split
  · exact runtimeError_holds _
  · rename_i hst
    have hst : s.transmitState = .WAIT_IFG_STATE := not_not.mp hst
    obtain ⟨he, hp⟩ := h.flags (by rw [hst]; nofun)
    refine nextFrame_holds ?_ he hp
    exact Option.isNone_iff_eq_none.mp (ASSERT_ok.mp hc)

theorem handleEndPausePeriod_holds (h : s.Shape) :
    Holds ({ s with endPauseMsg := none }.handleEndPausePeriod cfg) := by
  refine Avoids.bind (.assertOther (by simp [entryAssertions])) fun _ hc => ?_
  split
  · exact runtimeError_holds _
  · rename_i hst
    have hst : s.transmitState = .PAUSE_STATE := not_not.mp hst
    obtain ⟨he, hp⟩ := h.flags (by rw [hst]; nofun)
    refine nextFrame_holds ?_ he hp
    exact Option.isNone_iff_eq_none.mp (ASSERT_ok.mp hc)

theorem processPauseCommand_holds (pauseUnits : Int) :
    Holds (s.processPauseCommand cfg pauseUnits) := by
  unfold processPauseCommand
  split
  · split
    · exact scheduleEndPausePeriod_holds _
    · exact Avoids.ok _
  · exact scheduleEndPausePeriod_holds _
  · exact Avoids.ok _

theorem packetEnqueued_holds : Holds (s.packetEnqueued cfg) := by
  unfold packetEnqueued
  split
  · refine Avoids.bind isPreemptionNowPossible_holds fun possible _ => ?_
    split
    · exact Avoids.ok _
    · refine Avoids.bind isPreemptionLaterPossible_holds fun t _ => ?_
      split
      · unfold scheduleRecheck
        split
        · exact undefinedBehaviour_holds _
        · exact Avoids.bind (scheduleAt_holds _ _ _) fun _ _ => .ok _
      · exact Avoids.ok _
  · exact Avoids.ok _

/-- a frame that is being sent is there, and no other one is sent -/
theorem Timing.preempt_holds (h : Timing cfg s) (hshape : s.Shape)
    (hp : s.transmittingPreemptableFrame = true) (hm : MayPreempt cfg s) :
    Holds (s.preemptCurrentFrame cfg) := by
  obtain ⟨_, _, _, frame, _, hf, _⟩ := h.sending hp
  exact preemptCurrentFrame_holds hp (by rw [hf]; rfl) (hshape.noExpress hp) hm

theorem hold_holds (h : Timing cfg s) (hshape : s.Shape) (delay : SimTime) :
    Holds (s.hold cfg delay) := by
  unfold hold
  split
  · exact Avoids.ok _
  · split
    · unfold preemptOrRequest
      split
      · rename_i hp
        refine Avoids.bind isPreemptionNowPossible_holds fun possible hpos => ?_
        split
        · rename_i htrue
          rw [htrue] at hpos
          have honHold : Timing cfg { s with onHold := true } := h.of_frames rfl le_rfl
          refine honHold.preempt_holds (hshape.of_core rfl) hp ?_
          unfold MayPreempt
          rw [hpos]
          nofun
        · refine Avoids.bind isPreemptionLaterPossible_holds fun t _ => ?_
          split
          · exact Avoids.bind (scheduleAt_holds _ _ _) fun _ _ => .ok _
          · exact Avoids.ok _
      · split
        · rename_i hi
          refine getNextFrameFromQueue_holds (hshape.idle hi).1 ?_
          exact (hshape.flags (by rw [show s.transmitState = _ from hi]; nofun)).2
        · exact Avoids.ok _
    · exact Avoids.bind (scheduleAt_holds _ _ _) fun _ _ => .ok _

/-- what is due is possible when its time has come -/
theorem Deadline.mayPreempt (htime : Timing cfg s) (hshape : s.Shape)
    (h : Deadline cfg s s.time) : MayPreempt cfg s := by
  unfold MayPreempt
  rw [h.possible (htime.sending h.sending).enabled hshape]
  nofun

theorem handleSelfMessage_holds (htime : Timing cfg s) (hshape : s.Shape)
    (hdue : ∀ u, s.Due u → Deadline cfg s u) {timer : MacTimer} (hd : s.time ∈ s.scheduled timer) :
    Holds (s.handleSelfMessage cfg timer) := by
  cases timer with
  | endTx => exact handleEndTxPeriod_holds
  | endIFG => exact handleEndIFGPeriod_holds hshape
  | endPause => exact handleEndPausePeriod_holds hshape
  | recheckForQueuedExpressFrame =>
    have hdl : Deadline cfg s s.time := by
      refine hdue _ (.inr ?_)
      unfold scheduled at hd
      dsimp only at hd
      split at hd
      · rename_i hmsg
        rw [hmsg, List.mem_singleton.mp hd]
      · cases hd
    have hidle : Timing cfg { s with recheckForQueuedExpressFrameMsg := .idle } :=
      htime.of_frames rfl le_rfl
    refine Avoids.bind (checkForAndRequestExpressFrame_holds ?_) fun _ _ => .ok _
    refine Deadline.mayPreempt hidle (hshape.of_core rfl) ?_
    exact hdl.of_frames rfl le_rfl
  | preemptCurrentFrame =>
    have hdl : Deadline cfg s s.time := hdue _ (.inl (Option.mem_toList.mp hd))
    have hsent : Timing cfg { s with preemptCurrentFrameMsg := none } := htime.of_frames rfl le_rfl
    refine hsent.preempt_holds (hshape.of_core rfl) hdl.sending ?_
    refine Deadline.mayPreempt hsent (hshape.of_core rfl) ?_
    exact hdl.of_frames rfl le_rfl
  | holdRequest =>
    have hheld : Timing cfg { s with holdRequests := s.holdRequests.erase s.time } :=
      htime.of_frames rfl le_rfl
    exact hold_holds hheld (hshape.of_core rfl) 0

/-! ## the frames and the releases with which the assertions hold -/

/-- an express frame may preempt the frame in transmission; a preemptable frame comes to an idle MAC
on hold only while another one is stored; and the frames are `Distinct` -/
def Admits (cfg : MacConfig) (s : EtherMac) (packet : Packet) : Prop :=
  s.Distinct packet ∧
  (packet.express = true → s.transmittingPreemptableFrame = true → MayPreempt cfg s) ∧
  (packet.express = false → s.transmitState = .TX_IDLE_STATE → s.onHold = true →
    s.currentPreemptableFrame ≠ none)

instance (cfg : MacConfig) (s : EtherMac) (packet : Packet) : Decidable (Admits cfg s packet) :=
  inferInstanceAs (Decidable (_ ∧ _ ∧ _))

/-- no preemptable frame is in transmission, and no frame waits for the end of a pause, when `release`
asks for the next frame -/
def Careful (cfg : MacConfig) (s : EtherMac) : MacEvent → Prop
  | .release => cfg.enablePreemptingFrames = true → s.transmittingExpressFrame = false →
    s.endIFGMsg = none → s.curTxFrame = none
  | e => Receives cfg (Admits cfg) s e

instance (cfg : MacConfig) (s : EtherMac) (e : MacEvent) : Decidable (Careful cfg s e) :=
  match e with
  | .release => inferInstanceAs (Decidable (_ → _ → _ → _))
  | .handleUpperPacket p => inferInstanceAs (Decidable (Receives cfg (Admits cfg) s (.handleUpperPacket p)))
  | .handlePacket i p => inferInstanceAs (Decidable (Receives cfg (Admits cfg) s (.handlePacket i p)))
  | .advance _ | .timer _ | .packetEnqueued | .hold _ | .processPauseCommand _
  | .setGates _ | .gatePacketEnqueued | .requestPacketMsg | .packetEnqueuedMsg => isTrue trivial

theorem Careful.receives {e : MacEvent} (h : Careful cfg s e) : Receives cfg (Admits cfg) s e := by
  cases e with
  | release => trivial
  | handleUpperPacket packet => exact h
  | handlePacket gateId packet => exact h
  | _ => trivial

theorem release_holds (hshape : s.Shape) (h : Careful cfg s .release) : Holds (s.release cfg) := by
  unfold release
  split
  · exact Avoids.ok _
  · rename_i hen
    dsimp only
    split
    · rename_i hc
      have hc : s.transmittingExpressFrame = false ∧ s.endIFGMsg = none := by simpa using hc
      have hcur : s.curTxFrame = none := h (by simpa using hen) hc.1 hc.2
      refine nextFrame_holds hcur hc.1 ?_
      exact (hshape.flags fun hst => hshape.sending hst hcur).2
    · exact Avoids.ok _

theorem takeUpperPacket_holds {packet : Packet} (htime : Timing cfg s) (hshape : s.Shape)
    (h : Admits cfg s packet) : Holds (s.takeUpperPacket cfg packet) := by
  obtain ⟨_, hpre, hidle⟩ := h
  refine Avoids.bind (.assertOther (by simp [entryAssertions])) fun _ _ => ?_
  unfold placeUpperPacket
  split
  · -- the frame preempts the one in transmission
    rename_i hc
    have hc : s.transmittingPreemptableFrame = true ∧ packet.express = true := by simpa using hc
    have hwaiting : Holds ({ s with currentExpressFrame := some packet }.preemptCurrentFrame cfg) := by
      obtain ⟨_, _, _, frame, _, hf, _⟩ := htime.sending hc.1
      exact preemptCurrentFrame_holds hc.1 (by rw [hf]; rfl) (hshape.noExpress hc.1) (hpre hc.2 hc.1)
    refine Avoids.bind (Avoids.bind hwaiting fun _ _ => .ok _) fun r hr => ?_
    obtain ⟨m, _, hr⟩ := bind_ok.mp hr
    cases hr
    simp only [Bool.not_true, Bool.and_false, Bool.false_eq_true, if_false]
    exact Avoids.ok _
  · split
    · rename_i hgap
      have hgap : packet.express = true ∧ s.transmitState = .WAIT_IFG_STATE := by simpa using hgap
      refine Avoids.bind (.ok _) fun r hr => ?_
      cases hr
      dsimp only
      rw [storeOnHold_express hgap.1, if_neg (by simp [hgap.2])]
      exact Avoids.ok _
    · refine Avoids.bind (.ok _) fun r hr => ?_
      cases hr
      dsimp only
      split
      · rename_i hstart
        unfold storeOnHold at hstart ⊢
        split at hstart
        · -- on hold there is a frame in the store already
          rename_i hstore
          have hstore : (s.onHold = true ∧ packet.express = false) ∧
              s.currentPreemptableFrame = none := by simpa using hstore
          have hi : s.transmitState = .TX_IDLE_STATE := by simpa using hstart
          exact absurd hstore.2 (hidle hstore.1.2 hi hstore.1.1)
        · rename_i hstore
          rw [if_neg hstore]
          have hi : s.transmitState = .TX_IDLE_STATE := by simpa using hstart
          obtain ⟨he, hp⟩ := hshape.flags (by rw [hi]; nofun)
          exact startFrameTransmission_holds rfl he hp
      · exact Avoids.ok _

theorem handleUpperPacket_holds {packet : Packet} (htime : Timing cfg s) (hshape : s.Shape)
    (h : cfg.connected = true → cfg.disabled = false → Admits cfg s packet) :
    Holds (s.handleUpperPacket cfg packet) := by
  refine Avoids.bind ?_ fun _ _ => ?_
  · refine Avoids.bind (.assertOther (by simp [entryAssertions])) fun _ _ => ?_
    split
    · exact runtimeError_holds _
    · split
      · exact runtimeError_holds _
      · exact Avoids.ok _
  · split
    · exact requestNextFrameFromExtQueue_holds
    · rename_i hup
      have hup : cfg.connected = true ∧ cfg.disabled = false := by simpa using hup
      have hcancel : Holds ({ s with
          history := s.history ++ [MacRecord.accepted packet] }.cancelRecheck packet) := by
        unfold cancelRecheck
        split
        · exact Avoids.ok _
        · exact undefinedBehaviour_holds _
        · exact Avoids.ok _
      refine Avoids.bind hcancel fun m hm => ?_
      obtain ⟨msg, rfl, _⟩ := cancelRecheck_ok hm
      have hadmits := h hup.1 hup.2
      have htime' : Timing cfg { s with
          recheckForQueuedExpressFrameMsg := msg
          history := s.history ++ [MacRecord.accepted packet] } :=
        ⟨htime.1, htime.2, htime.3, fun hp =>
          ⟨(htime.sending hp).1, (htime.sending hp).2, (htime.sending hp).3, (htime.sending hp).4⟩⟩
      refine takeUpperPacket_holds htime' ⟨hshape.1, hshape.2, hshape.3, hshape.4, hshape.5,
        hshape.6, hshape.7⟩ ?_
      exact hadmits

/-- a careful step breaks none of the assertions -/
theorem step_holds (htime : Timing cfg s) (hshape : s.Shape)
    (hdue : ∀ u, s.Due u → Deadline cfg s u) {e : MacEvent} (h : Careful cfg s e) :
    Holds (s.step cfg e) := by
  cases e with
  | advance t =>
    change Holds (if s.CanAdvance t then _ else _)
    split
    · exact Avoids.ok _
    · exact Avoids.error (by simp [entryAssertions])
  | timer timer =>
    change Holds (if s.time ∈ s.scheduled timer then _ else _)
    split
    · rename_i hd
      exact handleSelfMessage_holds htime hshape hdue hd
    · exact Avoids.error (by simp [entryAssertions])
  | handleUpperPacket packet => exact handleUpperPacket_holds htime hshape h
  | handlePacket gateId packet =>
    refine Avoids.bind ?_ fun r hr => ?_
    · unfold TransmissionSelection.handlePacket
      split
      · exact undefinedBehaviour_holds _
      · exact Avoids.bind (.assertOther (by simp [entryAssertions])) fun _ _ => .ok _
    · obtain ⟨packet', ts⟩ := r
      have htime' : Timing cfg { s with transmissionSelection := ts } := htime.of_frames rfl le_rfl
      refine handleUpperPacket_holds htime' (hshape.of_core rfl) fun hc hd => ?_
      have hsel := h hc hd
      rw [hr] at hsel
      exact hsel
  | packetEnqueued => exact packetEnqueued_holds
  | hold delay => exact hold_holds htime hshape delay
  | release => exact release_holds hshape h
  | processPauseCommand pauseUnits => exact processPauseCommand_holds pauseUnits
  | setGates tGates => exact Avoids.ok _
  | gatePacketEnqueued => exact Avoids.ok _
  | requestPacketMsg =>
    change Holds (if s.transmissionSelection.requestPacketMsg then _ else _)
    split
    · refine Avoids.bind ?_ fun r _ => .ok _
      unfold TransmissionSelection.handleRequestPacketEvent
      dsimp only
      split
      · exact runtimeError_holds _
      · exact Avoids.bind (.assertOther (by simp [entryAssertions])) fun _ _ => .ok _
    · exact Avoids.error (by simp [entryAssertions])
  | packetEnqueuedMsg =>
    change Holds (if s.transmissionSelection.packetEnqueuedMsg then _ else _)
    split
    · split
      · exact packetEnqueued_holds
      · exact Avoids.ok _
    · exact Avoids.error (by simp [entryAssertions])

/-! ## runs -/

/-- **The transmit state is sound**: a run of careful steps breaks none of the assertions, and in
every state the flags, the frame in transmission and the timers go together. -/
theorem transmitState_sound (cfg : MacConfig) (preemptedBytesSent : Nat) (tGates : List GateView)
    (es : List MacEvent)
    (hm : Meets (step cfg) (Careful cfg) (start preemptedBytesSent tGates) es) :
    Holds (run (step cfg) (start preemptedBytesSent tGates) es) ∧
      ∀ s, run (step cfg) (start preemptedBytesSent tGates) es = .ok s → s.Shape := by
  have hstep : ∀ s e s', (s.Shape ∧ Timing cfg s ∧ ∀ u, s.Due u → Deadline cfg s u) →
      Careful cfg s e → s.step cfg e = .ok s' →
      s'.Shape ∧ Timing cfg s' ∧ ∀ u, s'.Due u → Deadline cfg s' u := by
    intro s e s' ⟨hshape, htime, hdue⟩ hc hs
    refine ⟨shape_step hshape hs, timing_step htime hshape ?_ hs, deadline_step htime hshape hdue hs⟩
    intro packet hup hw hd
    exact (hc.receives.delivered hup hd).1
  have hstart : (start preemptedBytesSent tGates).Shape ∧
      Timing cfg (start preemptedBytesSent tGates) ∧
      ∀ u, (start preemptedBytesSent tGates).Due u →
        Deadline cfg (start preemptedBytesSent tGates) u :=
    ⟨shape_start _ _, timing_start _ _, fun u hu => hu.elim nofun nofun⟩
  constructor
  · intro x hx
    refine run_error_of hstep ?_ hstart hm hx
    intro s e x ⟨hshape, htime, hdue⟩ hc hx
    exact step_holds htime hshape hdue hc x hx
  · intro s hs
    exact (run_invariant_of hstep hstart hm hs).1

/-- a preemptable frame with 30 of its 500 bytes left, a hold that comes too late to stop it, and ten
bytes later the release -/
def releaseRun : List MacEvent :=
  [.requestPacketMsg,
   .setGates (twoGates true false true true), .gatePacketEnqueued, .packetEnqueuedMsg,
   .handlePacket 0 bulkFrame,
   .advance (byteTimes 470), .hold 0,
   .advance (byteTimes 480), .release]

/-- the release asks for the next frame while the MAC still sends the first one -/
theorem release_breaks : run (step fastMac) (start 0 (twoGates true true true true)) releaseRun =
    .error (.assertion "nullptr == curTxFrame in getNextFrameFromQueue") :=
  eq_error_of (by decide +kernel)

/-- a hold during the express frame that has preempted the first one, and the release after it -/
def heldRun : List MacEvent :=
  preemptionRun ++ [.hold 0, .timer .endTx, .timer .endIFG, .release]

theorem transmitState_sound_heldRun :
    Holds (run (step fastMac) (start 0 (twoGates true true true true)) heldRun) ∧
    ∃ s, run (step fastMac) (start 0 (twoGates true true true true)) heldRun = .ok s ∧ s.Shape ∧
      s.curTxFrame = some bulkFrame := by
  obtain ⟨hholds, hshape⟩ := transmitState_sound fastMac 0 (twoGates true true true true) heldRun
    (by decide +kernel)
  obtain ⟨s, hs, hcur⟩ : ∃ s, run (step fastMac) (start 0 (twoGates true true true true)) heldRun =
      .ok s ∧ s.curTxFrame = some bulkFrame := exists_of_any (by decide +kernel)
  exact ⟨hholds, s, hs, hshape s hs, hcur⟩

end EtherMac

end Nesting
