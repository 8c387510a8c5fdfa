import Nesting.Mac.EtherMac

/-!
# The transmit states of the MAC

* `*_ok`          what a function of the MAC does when it returns;
* `core`          the part of the state that a call or a timer that only waits leaves alone;
* `Shape`         how the transmit state, the flags, the frame pointers and the timers go together;
* `shape_step`    every event keeps it.
-/

set_option linter.unusedVariables false

namespace Nesting

namespace EtherMac

variable {cfg : MacConfig} {s s' : EtherMac}

/-! ## what the functions do -/

/-- the state without what `Shape` and the frames do not depend on -/
def core (s : EtherMac) : EtherMac :=
  { s with
    time := 0
    onHold := false
    pauseUnitsRequested := 0
    endPauseMsg := none
    preemptCurrentFrameMsg := none
    recheckForQueuedExpressFrameMsg := .nullptr
    holdRequests := []
    transmissionSelection := .start [] }

/-- the outcomes of `startFrameTransmission` -/
inductive StartTransmission (cfg : MacConfig) (s : EtherMac) (frame : Packet) : EtherMac → Prop
  | express (h : cfg.enablePreemptingFrames = false ∨ frame.express = true) :
      StartTransmission cfg s frame { s with
        transmittingExpressFrame := true
        endTxMsg := some (s.time + calculateDuration cfg (encapsulatedLength frame))
        transmitState := .TRANSMITTING_STATE
        history := s.history ++ [.express frame] }
  | new (hp : cfg.enablePreemptingFrames = true ∧ frame.express = false)
      (h : s.isNewFrame frame = true) :
      StartTransmission cfg s frame { s with
        preemptedBytesSent := 0
        currentPreemptableFrame := some frame
        transmittingPreemptableFrame := true
        preemptableTransmissionStart := s.time
        endTxMsg := some (s.time + calculateDuration cfg (uint (encapsulatedLength frame - (0 : Nat))))
        transmitState := .TRANSMITTING_STATE
        history := s.history ++ [.preemptable frame s.onHold] }
  | resumed (hp : cfg.enablePreemptingFrames = true ∧ frame.express = false)
      (h : s.isNewFrame frame = false) :
      StartTransmission cfg s frame { s with
        transmittingPreemptableFrame := true
        preemptableTransmissionStart := s.time
        endTxMsg := some (s.time + calculateDuration cfg (uint (encapsulatedLength frame -
          s.preemptedBytesSent)))
        transmitState := .TRANSMITTING_STATE
        history := s.history ++ [.preemptable frame s.onHold] }

theorem startFrameTransmission_ok (h : s.startFrameTransmission cfg = .ok s') :
    ∃ frame, s.curTxFrame = some frame ∧ s.transmittingExpressFrame = false ∧
      s.transmittingPreemptableFrame = false ∧ s.endTxMsg = none ∧
      StartTransmission cfg s frame s' := by
  unfold startFrameTransmission at h
  cases hcur : s.curTxFrame with
  | none =>
    rw [hcur] at h
    cases h
  | some frame =>
    rw [hcur] at h
    obtain ⟨_, he, h⟩ := bind_ok.mp h
    obtain ⟨_, hp, h⟩ := bind_ok.mp h
    have he : s.transmittingExpressFrame = false := by simpa using ASSERT_ok.mp he
    have hp : s.transmittingPreemptableFrame = false := by simpa using ASSERT_ok.mp hp
    refine ⟨frame, rfl, he, hp, ?_⟩
    split at h
    · rename_i hx
      obtain ⟨t, ht, h⟩ := bind_ok.mp h
      obtain ⟨_, hnone, rfl⟩ := scheduleAt_ok ht
      cases h
      exact ⟨hnone, .express (by simpa using hx)⟩
    · rename_i hx
      obtain ⟨t, ht, h⟩ := bind_ok.mp h
      obtain ⟨_, hnone, rfl⟩ := scheduleAt_ok ht
      have hx : cfg.enablePreemptingFrames = true ∧ frame.express = false := by simpa using hx
      refine ⟨hnone, ?_⟩
      cases hnew : s.isNewFrame frame with
      | true =>
        rw [hnew] at h
        cases h
        exact .new hx hnew
      | false =>
        rw [hnew] at h
        cases h
        exact .resumed hx hnew

theorem requestNextFrameFromExtQueue_ok (h : s.requestNextFrameFromExtQueue = .ok s') :
    s.curTxFrame = none ∧ ∃ ts, s' = { s with transmissionSelection := ts } := by
  obtain ⟨_, hcur, h⟩ := bind_ok.mp h
  refine ⟨by simpa using ASSERT_ok.mp hcur, ?_⟩
  cases h
  split
  · exact ⟨_, rfl⟩
  · exact ⟨_, rfl⟩

theorem checkForAndRequestExpressFrame_ok {requested : Bool}
    (h : s.checkForAndRequestExpressFrame cfg = .ok (s', requested)) :
    s.isPreemptionNowPossible cfg = .ok true ∧ ∃ ts, s' = { s with transmissionSelection := ts } := by
  obtain ⟨possible, hp, h⟩ := bind_ok.mp h
  obtain ⟨_, ha, h⟩ := bind_ok.mp h
  rw [ASSERT_ok.mp ha] at hp
  refine ⟨hp, ?_⟩
  split at h
  · cases h
    exact ⟨_, rfl⟩
  · cases h
    exact ⟨_, rfl⟩

/-- the outcomes of `getNextFrameFromQueue` -/
inductive NextFrame (s : EtherMac) : EtherMac → Prop
  | stored (frame : Packet) (hf : s.currentExpressFrame = some frame) :
      NextFrame s { s with curTxFrame := some frame, currentExpressFrame := none }
  | resumed (frame : Packet) (he : s.currentExpressFrame = none) (hh : s.onHold = false)
      (hf : s.currentPreemptableFrame = some frame) (ts : TransmissionSelection) :
      NextFrame s { s with curTxFrame := some frame, transmissionSelection := ts }
  | nothing (he : s.currentExpressFrame = none) (ts : TransmissionSelection) :
      NextFrame s { s with transmissionSelection := ts }

theorem resumeOrRequest_ok (he : s.currentExpressFrame = none)
    (h : s.resumeOrRequest = .ok s') : NextFrame s s' := by
  unfold resumeOrRequest at h
  split at h
  · rename_i frame hh hf
    cases h
    exact .resumed frame he hh hf _
  · obtain ⟨ts, rfl⟩ := (requestNextFrameFromExtQueue_ok h).2
    exact .nothing he ts

theorem getNextFrameFromQueue_ok (h : s.getNextFrameFromQueue cfg = .ok s') :
    s.curTxFrame = none ∧ NextFrame s s' := by
  obtain ⟨_, hcur, h⟩ := bind_ok.mp h
  refine ⟨by simpa using ASSERT_ok.mp hcur, ?_⟩
  cases he : s.currentExpressFrame with
  | some frame =>
    rw [he] at h
    cases h
    exact .stored frame he
  | none =>
    rw [he] at h
    dsimp only at h
    split at h
    · obtain ⟨⟨s1, requested⟩, h1, h2⟩ := bind_ok.mp h
      obtain ⟨_, ts, rfl⟩ := checkForAndRequestExpressFrame_ok h1
      cases requested with
      | true =>
        cases h2
        exact .nothing he ts
      | false =>
        have h2 : { s with transmissionSelection := ts }.resumeOrRequest = .ok s' := h2
        cases resumeOrRequest_ok (s := { s with transmissionSelection := ts }) he h2 with
        | stored frame hf => exact absurd (he.symm.trans hf) nofun
        | resumed frame _ hh hf ts' => exact .resumed frame he hh hf ts'
        | nothing _ ts' => exact .nothing he ts'
    · exact resumeOrRequest_ok he h

/-- `getNextFrameFromQueue` and `beginSendFrames`: a frame is sent or the MAC goes idle -/
theorem nextFrame_ok (h : (s.getNextFrameFromQueue cfg >>= fun s => s.beginSendFrames cfg) = .ok s') :
    s.curTxFrame = none ∧ ∃ s1, NextFrame s s1 ∧
      ((∃ frame, s1.curTxFrame = some frame ∧ s.transmittingExpressFrame = false ∧
        s.transmittingPreemptableFrame = false ∧ s.endTxMsg = none ∧
        StartTransmission cfg s1 frame s') ∨
      (s1.curTxFrame = none ∧ s' = { s1 with transmitState := .TX_IDLE_STATE })) := by
  obtain ⟨s1, h1, h2⟩ := bind_ok.mp h
  obtain ⟨hcur, hnext⟩ := getNextFrameFromQueue_ok h1
  refine ⟨hcur, s1, hnext, ?_⟩
  unfold beginSendFrames at h2
  split at h2
  · obtain ⟨frame, hframe, he, hp, ht, hstart⟩ := startFrameTransmission_ok h2
    refine .inl ⟨frame, hframe, ?_⟩
    cases hnext with
    | stored => exact ⟨he, hp, ht, hstart⟩
    | resumed => exact ⟨he, hp, ht, hstart⟩
    | nothing => exact ⟨he, hp, ht, hstart⟩
  · rename_i hnone
    cases h2
    exact .inr ⟨by simpa using hnone, rfl⟩

theorem scheduleEndIFGPeriod_ok (h : s.scheduleEndIFGPeriod cfg = .ok s') :
    ∃ t, s' = { s with transmitState := .WAIT_IFG_STATE, endIFGMsg := some t } := by
  obtain ⟨_, _, h⟩ := bind_ok.mp h
  obtain ⟨_, ht, h⟩ := bind_ok.mp h
  obtain ⟨_, _, rfl⟩ := scheduleAt_ok ht
  cases h
  exact ⟨_, rfl⟩

theorem scheduleEndPausePeriod_ok {pauseUnits : Int}
    (h : s.scheduleEndPausePeriod cfg pauseUnits = .ok s') :
    s.curTxFrame = none ∧ ∃ t, s' = { s with transmitState := .PAUSE_STATE, endPauseMsg := some t } := by
  obtain ⟨_, hcur, h⟩ := bind_ok.mp h
  obtain ⟨_, ht, h⟩ := bind_ok.mp h
  obtain ⟨_, _, rfl⟩ := scheduleAt_ok ht
  cases h
  exact ⟨by simpa using ASSERT_ok.mp hcur, _, rfl⟩

/-- the frame is gone, and the MAC waits for the end of the gap or of the pause -/
theorem finishTransmission_ok (h : s.finishTransmission cfg = .ok s') :
    s.transmitState = .TRANSMITTING_STATE ∧ ∃ frame, s.curTxFrame = some frame ∧
      ((∃ t, s' = { s with
        curTxFrame := none, transmitState := .WAIT_IFG_STATE, endIFGMsg := some t }) ∨
      (∃ t, s' = { s with
        curTxFrame := none, transmitState := .PAUSE_STATE, endPauseMsg := some t,
        pauseUnitsRequested := 0 })) := by
  unfold finishTransmission at h
  split at h
  · cases h
  · rename_i hstate
    refine ⟨not_not.mp hstate, ?_⟩
    split at h
    · cases h
    · rename_i hcur
      obtain ⟨frame, hframe⟩ := Option.isSome_iff_exists.mp (Option.isSome_iff_ne_none.mpr fun hn =>
        hcur (Option.isNone_iff_eq_none.mpr hn))
      refine ⟨frame, hframe, ?_⟩
      split at h
      · obtain ⟨s1, h1, h2⟩ := bind_ok.mp h
        obtain ⟨_, t, rfl⟩ := scheduleEndPausePeriod_ok h1
        cases h2
        exact .inr ⟨t, rfl⟩
      · obtain ⟨t, rfl⟩ := scheduleEndIFGPeriod_ok h
        exact .inl ⟨t, rfl⟩

theorem sendPreemptedFrame_ok (h : s.sendPreemptedFrame cfg = .ok s') :
    ∃ frame bytes, s.currentPreemptableFrame = some frame ∧
      s.calculatePreemptedPayloadBytesSent cfg s.time true = .ok bytes ∧
      s' = { s with
        preemptedBytesSent := (framelet frame s.preemptedBytesSent (uint bytes)).2
        currentPreemptableFrame :=
          if (framelet frame s.preemptedBytesSent (uint bytes)).2 = frame.byteLength then none
          else some frame
        history := s.history ++ [.preemptedFrame frame
          (framelet frame s.preemptedBytesSent (uint bytes)).2 frame.byteLength
          (framelet frame s.preemptedBytesSent (uint bytes)).1] } := by
  unfold sendPreemptedFrame at h
  cases hf : s.currentPreemptableFrame with
  | none =>
    rw [hf] at h
    cases h
  | some frame =>
    rw [hf] at h
    obtain ⟨bytes, hb, h⟩ := bind_ok.mp h
    cases h
    exact ⟨frame, bytes, rfl, hb, rfl⟩

theorem preemptCurrentFrame_ok (h : s.preemptCurrentFrame cfg = .ok s') :
    s.transmittingPreemptableFrame = true ∧ s.isPreemptionNowPossible cfg = .ok true ∧
      s' = { s with endTxMsg := some (s.time + calculateTransmissionDuration cfg 4) } := by
  obtain ⟨_, hp, h⟩ := bind_ok.mp h
  obtain ⟨_, _, h⟩ := bind_ok.mp h
  obtain ⟨_, _, h⟩ := bind_ok.mp h
  obtain ⟨possible, hpos, h⟩ := bind_ok.mp h
  obtain ⟨_, ha, h⟩ := bind_ok.mp h
  cases h
  rw [ASSERT_ok.mp ha] at hpos
  exact ⟨ASSERT_ok.mp hp, hpos, rfl⟩

theorem scheduleRecheck_ok {t : SimTime} (h : s.scheduleRecheck t = .ok s') :
    s' = { s with recheckForQueuedExpressFrameMsg := .scheduled t } := by
  unfold scheduleRecheck at h
  split at h
  · cases h
  · obtain ⟨_, _, h⟩ := bind_ok.mp h
    cases h
    rfl

/-- a preemption, or the request for it, is due at `u` -/
def Due (s : EtherMac) (u : SimTime) : Prop :=
  s.preemptCurrentFrameMsg = some u ∨ s.recheckForQueuedExpressFrameMsg = .scheduled u

/-- the preemption is put off to `u` -/
structure Deferred (cfg : MacConfig) (s : EtherMac) (u : SimTime) : Prop where
  sending : s.transmittingPreemptableFrame = true
  notNow : s.isPreemptionNowPossible cfg = .ok false
  later : s.isPreemptionLaterPossible cfg = .ok u
  nonzero : u ≠ 0

/-- time may go on and a preemption may be put off, but nothing else happens -/
structure Waits (cfg : MacConfig) (s t : EtherMac) : Prop where
  core : t.core = s.core
  time : s.time ≤ t.time
  due : ∀ u, t.Due u →
    (s.Due u ∧ (t.time = s.time ∨ t.time ≤ u)) ∨ (t.time = s.time ∧ Deferred cfg s u)

theorem Waits.of_due {t : EtherMac} (hc : t.core = s.core) (ht : t.time = s.time)
    (hd : ∀ u, t.Due u → s.Due u) : Waits cfg s t :=
  ⟨hc, ht.ge, fun u hu => .inl ⟨hd u hu, .inl ht⟩⟩

theorem packetEnqueued_ok (h : s.packetEnqueued cfg = .ok s') : Waits cfg s s' := by
  unfold packetEnqueued at h
  split at h
  · rename_i hp
    have hp : s.transmittingPreemptableFrame = true := by
      simp only [Bool.and_eq_true] at hp
      exact hp.1.1
    obtain ⟨possible, hnow, h⟩ := bind_ok.mp h
    split at h
    · cases h
      exact .of_due rfl rfl fun u hu => hu
    · rename_i hno
      rw [Bool.eq_false_iff.mpr hno] at hnow
      obtain ⟨t, hlater, h⟩ := bind_ok.mp h
      split at h
      · rename_i hne
        rw [scheduleRecheck_ok h]
        refine ⟨rfl, le_rfl, fun u hu => ?_⟩
        obtain hu | hu := hu
        · exact .inl ⟨.inl hu, .inl rfl⟩
        · cases hu
          exact .inr ⟨rfl, hp, hnow, hlater, hne⟩
      · cases h
        exact .of_due rfl rfl fun u hu => hu
  · cases h
    exact .of_due rfl rfl fun u hu => hu

/-- a hold stops the frame in transmission, or nothing yet, or asks for another one -/
inductive HoldStep (cfg : MacConfig) (s : EtherMac) : EtherMac → Prop
  | preempt {t : EtherMac} (h : s.preemptCurrentFrame cfg = .ok t) : HoldStep cfg s t
  | later (u : SimTime) (hd : Deferred cfg s u) :
      HoldStep cfg s { s with preemptCurrentFrameMsg := some u }
  | idle {t : EtherMac} (hi : s.transmitState = .TX_IDLE_STATE)
      (h : s.getNextFrameFromQueue cfg = .ok t) : HoldStep cfg s t
  | busy : HoldStep cfg s s

theorem preemptOrRequest_ok (h : s.preemptOrRequest cfg = .ok s') : HoldStep cfg s s' := by
  unfold preemptOrRequest at h
  split at h
  · rename_i hp
    obtain ⟨possible, hnow, h⟩ := bind_ok.mp h
    split at h
    · exact .preempt h
    · rename_i hno
      rw [Bool.eq_false_iff.mpr hno] at hnow
      obtain ⟨t, hlater, h⟩ := bind_ok.mp h
      split at h
      · rename_i hne
        obtain ⟨msg, hmsg, h⟩ := bind_ok.mp h
        obtain ⟨_, _, rfl⟩ := scheduleAt_ok hmsg
        cases h
        exact .later t ⟨hp, hnow, hlater, hne⟩
      · cases h
        exact .busy
  · split at h
    · rename_i hi
      exact .idle hi h
    · cases h
      exact .busy

theorem cancelRecheck_ok {packet : Packet} (h : s.cancelRecheck packet = .ok s') :
    ∃ msg, s' = { s with recheckForQueuedExpressFrameMsg := msg } ∧
      (∀ u, msg = .scheduled u → s.recheckForQueuedExpressFrameMsg = .scheduled u) := by
  unfold cancelRecheck at h
  split at h
  · cases h
    exact ⟨_, rfl, nofun⟩
  · cases h
  · cases h
    exact ⟨_, rfl, fun u hu => hu⟩

theorem checkUpperPacket_ok {packet : Packet} {u : Unit} (h : checkUpperPacket cfg packet = .ok u) :
    MIN_ETHERNET_FRAME_BYTES ≤ packet.byteLength ∧ packet.byteLength ≤ MAX_ETHERNET_FRAME_BYTES := by
  obtain ⟨_, hmin, h⟩ := bind_ok.mp h
  have hmin := of_decide_eq_true (ASSERT_ok.mp hmin)
  split at h
  · cases h
  · split at h
    · cases h
    · rename_i hmax
      exact ⟨hmin, not_lt.mp hmax⟩

/-- what becomes of a frame from the upper layer -/
inductive ArrivalStep (cfg : MacConfig) (s : EtherMac) (packet : Packet) : EtherMac → Prop
  | preempting {t : EtherMac} (he : packet.express = true)
      (hp : s.transmittingPreemptableFrame = true)
      (h : { s with currentExpressFrame := some packet }.preemptCurrentFrame cfg = .ok t) :
      ArrivalStep cfg s packet t
  | inGap (he : packet.express = true) (hs : s.transmitState = .WAIT_IFG_STATE) :
      ArrivalStep cfg s packet { s with currentExpressFrame := some packet }
  | paused (hs : s.transmitState = .PAUSE_STATE) :
      ArrivalStep cfg s packet ({ s with curTxFrame := some packet }.storeOnHold packet)
  | sent {t : EtherMac} (hs : s.transmitState = .TX_IDLE_STATE)
      (h : ({ s with curTxFrame := some packet }.storeOnHold packet).startFrameTransmission cfg
        = .ok t) : ArrivalStep cfg s packet t
  | stray (he : packet.express = true) (hs : s.transmitState = .TRANSMITTING_STATE)
      (hx : s.transmittingExpressFrame = false) (hp : s.transmittingPreemptableFrame = false) :
      ArrivalStep cfg s packet { s with curTxFrame := some packet }

theorem storeOnHold_express {packet : Packet} (he : packet.express = true) :
    s.storeOnHold packet = s := by
  unfold storeOnHold
  rw [he]
  simp

theorem takeUpperPacket_ok {packet : Packet} (h : s.takeUpperPacket cfg packet = .ok s') :
    ArrivalStep cfg s packet s' := by
  obtain ⟨_, ha, h⟩ := bind_ok.mp h
  have ha := ASSERT_ok.mp ha
  obtain ⟨⟨s2, nowPreempting⟩, h2, h⟩ := bind_ok.mp h
  unfold placeUpperPacket at h2
  split at h2
  · rename_i hpe
    obtain ⟨s3, h3, h4⟩ := bind_ok.mp h2
    cases h4
    have hpe : s.transmittingPreemptableFrame = true ∧ packet.express = true := by simpa using hpe
    have hstore : s2.storeOnHold packet = s2 := storeOnHold_express hpe.2
    dsimp only at h
    rw [hstore] at h
    simp only [Bool.not_true, Bool.and_false, Bool.false_eq_true, if_false] at h
    cases h
    exact .preempting hpe.2 hpe.1 h3
  · rename_i hpe
    split at h2
    · rename_i hgap
      cases h2
      have hgap : packet.express = true ∧ s.transmitState = .WAIT_IFG_STATE := by simpa using hgap
      dsimp only at h
      rw [storeOnHold_express hgap.1] at h
      rw [if_neg (by simp [hgap.2])] at h
      cases h
      exact .inGap hgap.1 hgap.2
    · rename_i hgap
      cases h2
      dsimp only at h
      have hst : ∀ m : EtherMac, (m.storeOnHold packet).transmitState = m.transmitState := by
        intro m
        unfold storeOnHold
        split <;> rfl
      cases hs : s.transmitState with
      | TX_IDLE_STATE =>
        rw [if_pos (by simp [hst, hs])] at h
        exact .sent hs h
      | PAUSE_STATE =>
        rw [if_neg (by simp [hst, hs])] at h
        cases h
        exact .paused hs
      | WAIT_IFG_STATE =>
        have he : packet.express = true := by
          simp [hs] at ha
          exact ha.2
        exact absurd (by simp [he, hs]) hgap
      | TRANSMITTING_STATE =>
        have he : s.transmittingExpressFrame = false ∧ packet.express = true := by
          simpa [hs] using ha
        have hp : s.transmittingPreemptableFrame = false := by
          cases hp : s.transmittingPreemptableFrame with
          | false => rfl
          | true => exact absurd (by simp [hp, he.2]) hpe
        rw [storeOnHold_express he.2, if_neg (by simp [hs])] at h
        cases h
        exact .stray he.2 hs he.1 hp

theorem handleUpperPacket_ok {packet : Packet} (h : s.handleUpperPacket cfg packet = .ok s') :
    Waits cfg s s' ∨ (cfg.connected = true ∧ cfg.disabled = false ∧
      MIN_ETHERNET_FRAME_BYTES ≤ packet.byteLength ∧ packet.byteLength ≤ MAX_ETHERNET_FRAME_BYTES ∧
      ∃ msg, (∀ u, msg = .scheduled u → s.recheckForQueuedExpressFrameMsg = .scheduled u) ∧
        ArrivalStep cfg { s with
          recheckForQueuedExpressFrameMsg := msg
          history := s.history ++ [.accepted packet] } packet s') := by
  obtain ⟨_, hc, h⟩ := bind_ok.mp h
  obtain ⟨hmin, hmax⟩ := checkUpperPacket_ok hc
  split at h
  · obtain ⟨_, ts, rfl⟩ := requestNextFrameFromExtQueue_ok h
    exact .inl (.of_due rfl rfl fun u hu => hu)
  · rename_i hup
    have hup : cfg.connected = true ∧ cfg.disabled = false := by simpa using hup
    obtain ⟨s1, h1, h⟩ := bind_ok.mp h
    obtain ⟨msg, rfl, hmsg⟩ := cancelRecheck_ok h1
    exact .inr ⟨hup.1, hup.2, hmin, hmax, msg, hmsg, takeUpperPacket_ok h⟩

/-- what an event does -/
inductive MacStep (cfg : MacConfig) (s : EtherMac) : MacEvent → EtherMac → Prop
  | quiet {e : MacEvent} {t : EtherMac} (h : Waits cfg s t) : MacStep cfg s e t
  | endTx {t : EtherMac} (hd : s.endTxMsg = some s.time)
      (h : { s with endTxMsg := none }.handleEndTxPeriod cfg = .ok t) : MacStep cfg s (.timer .endTx) t
  | endIFG {t : EtherMac} (h : { s with endIFGMsg := none }.handleEndIFGPeriod cfg = .ok t) :
      MacStep cfg s (.timer .endIFG) t
  | endPause {t : EtherMac} (h : { s with endPauseMsg := none }.handleEndPausePeriod cfg = .ok t) :
      MacStep cfg s (.timer .endPause) t
  | preempt {t : EtherMac}
      (h : { s with preemptCurrentFrameMsg := none }.preemptCurrentFrame cfg = .ok t) :
      MacStep cfg s (.timer .preemptCurrentFrame) t
  | hold {e : MacEvent} {delay : SimTime} {requests : List SimTime} {t : EtherMac}
      (h : { s with holdRequests := requests }.hold cfg delay = .ok t) : MacStep cfg s e t
  | release {t : EtherMac} (h : s.release cfg = .ok t) : MacStep cfg s .release t
  | pause {t : EtherMac} {pauseUnits : Int} (h : s.processPauseCommand cfg pauseUnits = .ok t) :
      MacStep cfg s (.processPauseCommand pauseUnits) t
  | upper {t : EtherMac} {packet : Packet} (h : s.handleUpperPacket cfg packet = .ok t) :
      MacStep cfg s (.handleUpperPacket packet) t
  | fromGate {t : EtherMac} {gateId : Nat} {packet packet' : Packet} {ts : TransmissionSelection}
      (hp : s.transmissionSelection.handlePacket gateId packet = .ok (packet', ts))
      (h : { s with transmissionSelection := ts }.handleUpperPacket cfg packet' = .ok t) :
      MacStep cfg s (.handlePacket gateId packet) t

theorem handleSelfMessage_ok {timer : MacTimer} (hd : s.time ∈ s.scheduled timer)
    (h : s.handleSelfMessage cfg timer = .ok s') : MacStep cfg s (.timer timer) s' := by
  cases timer with
  | endTx => exact .endTx (Option.mem_toList.mp hd) h
  | endIFG => exact .endIFG h
  | endPause => exact .endPause h
  | recheckForQueuedExpressFrame =>
    obtain ⟨⟨s1, requested⟩, h1, h2⟩ := bind_ok.mp h
    obtain ⟨_, ts, rfl⟩ := checkForAndRequestExpressFrame_ok h1
    cases h2
    exact .quiet (.of_due rfl rfl fun u hu => hu.imp_right nofun)
  | preemptCurrentFrame => exact .preempt h
  | holdRequest => exact .hold h

theorem step_ok {e : MacEvent} (h : s.step cfg e = .ok s') : MacStep cfg s e s' := by
  cases e with
  | advance t =>
    change (if s.CanAdvance t then _ else _) = _ at h
    split at h
    · rename_i hadv
      cases h
      obtain ⟨hle, _, _, hall⟩ := hadv
      refine .quiet ⟨rfl, hle, fun u hu => .inl ⟨hu, .inr ?_⟩⟩
      obtain hu | hu := hu
      · have hu : s.preemptCurrentFrameMsg = some u := hu
        exact hall .preemptCurrentFrame (by simp) u (by simp [scheduled, hu])
      · have hu : s.recheckForQueuedExpressFrameMsg = .scheduled u := hu
        exact hall .recheckForQueuedExpressFrame (by simp) u (by simp [scheduled, hu])
    · cases h
  | timer timer =>
    change (if s.time ∈ s.scheduled timer then _ else _) = _ at h
    split at h
    · rename_i hd
      exact handleSelfMessage_ok hd h
    · cases h
  | handleUpperPacket packet => exact .upper h
  | handlePacket gateId packet =>
    obtain ⟨⟨p, ts⟩, h1, h2⟩ := bind_ok.mp h
    exact .fromGate h1 h2
  | packetEnqueued => exact .quiet (packetEnqueued_ok h)
  | hold delay => exact .hold h
  | release => exact .release h
  | processPauseCommand pauseUnits => exact .pause h
  | setGates tGates =>
    cases h
    exact .quiet (.of_due rfl rfl fun u hu => hu)
  | gatePacketEnqueued =>
    cases h
    exact .quiet (.of_due rfl rfl fun u hu => hu)
  | requestPacketMsg =>
    change (if s.transmissionSelection.requestPacketMsg then _ else _) = _ at h
    split at h
    · obtain ⟨⟨ts, gate⟩, _, h2⟩ := bind_ok.mp h
      cases h2
      exact .quiet (.of_due rfl rfl fun u hu => hu)
    · cases h
  | packetEnqueuedMsg =>
    change (if s.transmissionSelection.packetEnqueuedMsg then _ else _) = _ at h
    split at h
    · split at h
      · have hq := packetEnqueued_ok h
        exact .quiet ⟨hq.1, hq.2, fun u hu => (hq.due u hu).imp_right fun ⟨ht, hd⟩ =>
          ⟨ht, hd.1, hd.2, hd.3, hd.4⟩⟩
      · cases h
        exact .quiet (.of_due rfl rfl fun u hu => hu)
    · cases h

/-! ## the shape of the states -/

structure Shape (s : EtherMac) : Prop where
  oneAtATime : ¬(s.transmittingExpressFrame = true ∧ s.transmittingPreemptableFrame = true)
  transmitting_iff : s.transmitState = .TRANSMITTING_STATE ↔
    s.transmittingExpressFrame = true ∨ s.transmittingPreemptableFrame = true
  sending : s.transmitState = .TRANSMITTING_STATE → s.curTxFrame ≠ none
  endTx_iff : s.transmitState = .TRANSMITTING_STATE ↔ s.endTxMsg ≠ none
  endIFG_iff : s.transmitState = .WAIT_IFG_STATE ↔ s.endIFGMsg ≠ none
  idle : s.transmitState = .TX_IDLE_STATE → s.curTxFrame = none ∧ s.currentExpressFrame = none
  gap : s.transmitState = .WAIT_IFG_STATE → s.curTxFrame = none

theorem shape_start (preemptedBytesSent : Nat) (tGates : List GateView) :
    (start preemptedBytesSent tGates).Shape where
  oneAtATime := nofun
  transmitting_iff := ⟨nofun, fun h => h.elim nofun nofun⟩
  sending := nofun
  endTx_iff := ⟨nofun, fun h => absurd rfl h⟩
  endIFG_iff := ⟨nofun, fun h => absurd rfl h⟩
  idle := fun _ => ⟨rfl, rfl⟩
  gap := nofun

namespace Shape

theorem of_core (h : s.Shape) (hc : s'.core = s.core) : s'.Shape := by
  have hs : s.core.Shape := ⟨h.1, h.2, h.3, h.4, h.5, h.6, h.7⟩
  rw [← hc] at hs
  exact ⟨hs.1, hs.2, hs.3, hs.4, hs.5, hs.6, hs.7⟩

/-- nothing is sent in another state -/
theorem flags (h : s.Shape) (hs : s.transmitState ≠ .TRANSMITTING_STATE) :
    s.transmittingExpressFrame = false ∧ s.transmittingPreemptableFrame = false := by
  have hnot := fun hf => hs (h.transmitting_iff.mpr hf)
  exact ⟨Bool.eq_false_iff.mpr fun he => hnot (.inl he),
    Bool.eq_false_iff.mpr fun hp => hnot (.inr hp)⟩

theorem endIFG_of_state (h : s.Shape) (hs : s.transmitState ≠ .WAIT_IFG_STATE) :
    s.endIFGMsg = none :=
  not_not.mp fun hi => hs (h.endIFG_iff.mpr hi)

theorem endTx_of_state (h : s.Shape) (hs : s.transmitState ≠ .TRANSMITTING_STATE) :
    s.endTxMsg = none :=
  not_not.mp fun ht => hs (h.endTx_iff.mpr ht)

theorem noExpress (h : s.Shape) (hp : s.transmittingPreemptableFrame = true) :
    s.transmittingExpressFrame = false :=
  Bool.eq_false_iff.mpr fun he => h.oneAtATime ⟨he, hp⟩

/-- a state in which a frame is sent -/
theorem of_sending {frame : Packet} (hs : s.transmitState = .TRANSMITTING_STATE)
    (hone : ¬(s.transmittingExpressFrame = true ∧ s.transmittingPreemptableFrame = true))
    (hsome : s.transmittingExpressFrame = true ∨ s.transmittingPreemptableFrame = true)
    (hcur : s.curTxFrame = some frame) (ht : s.endTxMsg ≠ none) (hi : s.endIFGMsg = none) :
    s.Shape where
  oneAtATime := hone
  transmitting_iff := iff_of_true hs hsome
  sending := fun _ hn => absurd (hcur.symm.trans hn) nofun
  endTx_iff := iff_of_true hs ht
  endIFG_iff := iff_of_false (fun h => absurd (hs.symm.trans h) nofun) fun h => h hi
  idle := fun h => absurd (hs.symm.trans h) nofun
  gap := fun h => absurd (hs.symm.trans h) nofun

/-- a state in which nothing is sent -/
theorem of_silent (hs : s.transmitState ≠ .TRANSMITTING_STATE)
    (he : s.transmittingExpressFrame = false) (hp : s.transmittingPreemptableFrame = false)
    (ht : s.endTxMsg = none) (hifg : s.transmitState = .WAIT_IFG_STATE ↔ s.endIFGMsg ≠ none)
    (hidle : s.transmitState = .TX_IDLE_STATE → s.curTxFrame = none ∧ s.currentExpressFrame = none)
    (hgap : s.transmitState = .WAIT_IFG_STATE → s.curTxFrame = none) : s.Shape where
  oneAtATime := fun h => absurd (he.symm.trans h.1) nofun
  transmitting_iff := iff_of_false hs fun h =>
    h.elim (fun h => absurd (he.symm.trans h) nofun) fun h => absurd (hp.symm.trans h) nofun
  sending := fun h => absurd h hs
  endTx_iff := iff_of_false hs fun h => h ht
  endIFG_iff := hifg
  idle := hidle
  gap := hgap

end Shape

/-- a transmission starts -/
theorem StartTransmission.shape {frame : Packet} (h : StartTransmission cfg s frame s')
    (hcur : s.curTxFrame = some frame) (he : s.transmittingExpressFrame = false)
    (hp : s.transmittingPreemptableFrame = false) (hi : s.endIFGMsg = none) : s'.Shape := by
  cases h with
  | express =>
    exact .of_sending rfl (fun h => absurd (hp.symm.trans h.2) nofun) (.inl rfl) hcur nofun hi
  | new =>
    exact .of_sending rfl (fun h => absurd (he.symm.trans h.1) nofun) (.inr rfl) hcur nofun hi
  | resumed =>
    exact .of_sending rfl (fun h => absurd (he.symm.trans h.1) nofun) (.inr rfl) hcur nofun hi

/-- what comes after a gap, a pause or a release -/
theorem nextFrame_shape (hi : s.endIFGMsg = none) (ht : s.endTxMsg = none)
    (he : s.transmittingExpressFrame = false) (hp : s.transmittingPreemptableFrame = false)
    (h : (s.getNextFrameFromQueue cfg >>= fun s => s.beginSendFrames cfg) = .ok s') : s'.Shape := by
  obtain ⟨hcur, s1, hnext, ⟨frame, hframe, _, _, _, hstart⟩ | ⟨hnone, rfl⟩⟩ := nextFrame_ok h
  · cases hnext with
    | stored => exact hstart.shape hframe he hp hi
    | resumed => exact hstart.shape hframe he hp hi
    | nothing => exact hstart.shape hframe he hp hi
  · cases hnext with
    | stored => cases hnone
    | resumed => cases hnone
    | nothing hx ts =>
      exact .of_silent nofun he hp ht (iff_of_false nofun fun h => h hi) (fun _ => ⟨hcur, hx⟩) nofun

theorem Shape.preempt (h : s.Shape) (hp : s.preemptCurrentFrame cfg = .ok s') : s'.Shape := by
  obtain ⟨hpre, _, rfl⟩ := preemptCurrentFrame_ok hp
  have hs := h.transmitting_iff.mpr (.inr hpre)
  exact ⟨h.1, h.2, h.3, ⟨fun _ => nofun, fun _ => hs⟩, h.5, h.6, h.7⟩

theorem handleEndTxPeriod_shape (h : s.Shape)
    (ht : { s with endTxMsg := none }.handleEndTxPeriod cfg = .ok s') : s'.Shape := by
  -- in both branches the flags are cleared before the common part
  have hfinish : ∀ m : EtherMac, m.transmitState = s.transmitState → m.endTxMsg = none →
      m.endIFGMsg = s.endIFGMsg → m.transmittingExpressFrame = false →
      m.transmittingPreemptableFrame = false → m.finishTransmission cfg = .ok s' → s'.Shape := by
    intro m hstate htx hifg he hp hm
    obtain ⟨hsending, frame, _, ⟨t, rfl⟩ | ⟨t, rfl⟩⟩ := finishTransmission_ok hm
    · exact .of_silent nofun he hp htx (iff_of_true rfl nofun) nofun fun _ => rfl
    · have hi : m.endIFGMsg = none := by
        rw [hifg]
        apply h.endIFG_of_state
        rw [← hstate, hsending]
        nofun
      exact .of_silent nofun he hp htx (iff_of_false nofun fun h => h hi) nofun nofun
  unfold handleEndTxPeriod at ht
  split at ht
  · obtain ⟨m, hm, ht⟩ := bind_ok.mp ht
    obtain ⟨frame, bytes, _, _, rfl⟩ := sendPreemptedFrame_ok hm
    refine hfinish _ ?_ ?_ ?_ ?_ ?_ ht
    all_goals rfl
  · split at ht
    · cases ht
    · refine hfinish _ ?_ ?_ ?_ ?_ ?_ ht
      all_goals rfl

theorem handleEndIFGPeriod_shape (h : s.Shape)
    (hi : { s with endIFGMsg := none }.handleEndIFGPeriod cfg = .ok s') : s'.Shape := by
  obtain ⟨_, _, hi⟩ := bind_ok.mp hi
  split at hi
  · cases hi
  · rename_i hs
    have hs : s.transmitState = .WAIT_IFG_STATE := not_not.mp hs
    have hne : s.transmitState ≠ .TRANSMITTING_STATE := by rw [hs]; nofun
    obtain ⟨he, hp⟩ := h.flags hne
    exact nextFrame_shape (s := { s with endIFGMsg := none }) rfl
      (h.endTx_of_state hne) he hp hi

theorem handleEndPausePeriod_shape (h : s.Shape)
    (hi : { s with endPauseMsg := none }.handleEndPausePeriod cfg = .ok s') : s'.Shape := by
  obtain ⟨_, _, hi⟩ := bind_ok.mp hi
  split at hi
  · cases hi
  · rename_i hs
    have hs : s.transmitState = .PAUSE_STATE := not_not.mp hs
    have hne : s.transmitState ≠ .TRANSMITTING_STATE := by rw [hs]; nofun
    obtain ⟨he, hp⟩ := h.flags hne
    exact nextFrame_shape (s := { s with endPauseMsg := none })
      (h.endIFG_of_state (by rw [hs]; nofun)) (h.endTx_of_state hne) he hp hi

theorem release_shape (h : s.Shape) (hr : s.release cfg = .ok s') : s'.Shape := by
  unfold release at hr
  split at hr
  · cases hr
    exact h
  · dsimp only at hr
    split at hr
    · rename_i hc
      have hc : s.transmittingExpressFrame = false ∧ s.endIFGMsg = none := by simpa using hc
      have hcur : s.curTxFrame = none := (nextFrame_ok hr).1
      have hne : s.transmitState ≠ .TRANSMITTING_STATE := fun hs => h.sending hs hcur
      exact nextFrame_shape (s := { s with
          onHold := false
          transmissionSelection := s.transmissionSelection.removePendingRequests })
        hc.2 (h.endTx_of_state hne) hc.1 (h.flags hne).2 hr
    · cases hr
      exact h.of_core rfl

theorem hold_shape (h : s.Shape) {delay : SimTime} (hh : s.hold cfg delay = .ok s') : s'.Shape := by
  unfold hold at hh
  split at hh
  · cases hh
    exact h
  · split at hh
    · have hon : { s with onHold := true }.Shape := h.of_core rfl
      cases preemptOrRequest_ok hh with
      | preempt hp => exact hon.preempt hp
      | later u hd => exact hon.of_core rfl
      | idle hi hn =>
        -- on hold, an idle MAC has nothing to send
        cases (getNextFrameFromQueue_ok hn).2 with
        | stored frame hf => exact absurd ((hon.idle hi).2.symm.trans hf) nofun
        | resumed frame he hoff => cases hoff
        | nothing he ts => exact hon.of_core rfl
      | busy => exact hon
    · obtain ⟨_, _, hh⟩ := bind_ok.mp hh
      cases hh
      exact h.of_core rfl

theorem processPauseCommand_shape (h : s.Shape) {pauseUnits : Int}
    (hp : s.processPauseCommand cfg pauseUnits = .ok s') : s'.Shape := by
  have hpause : ∀ m : EtherMac, m.core = s.core → s.transmitState ≠ .TRANSMITTING_STATE →
      s.transmitState ≠ .WAIT_IFG_STATE → m.scheduleEndPausePeriod cfg pauseUnits = .ok s' →
      s'.Shape := by
    intro m hm hne hng hok
    obtain ⟨_, t, rfl⟩ := scheduleEndPausePeriod_ok hok
    have hshape := h.of_core hm
    have hst : m.core.transmitState = s.core.transmitState := congrArg transmitState hm
    have hst : m.transmitState = s.transmitState := hst
    obtain ⟨he, hpr⟩ := hshape.flags (by rw [hst]; exact hne)
    have hi := hshape.endIFG_of_state (by rw [hst]; exact hng)
    have ht := hshape.endTx_of_state (by rw [hst]; exact hne)
    exact .of_silent nofun he hpr ht (iff_of_false nofun fun h => h hi) nofun nofun
  unfold processPauseCommand at hp
  split at hp
  · rename_i hs
    split at hp
    · exact hpause s rfl (by rw [hs]; nofun) (by rw [hs]; nofun) hp
    · cases hp
      exact h
  · rename_i hs
    exact hpause { s with endPauseMsg := none } rfl (by rw [hs]; nofun) (by rw [hs]; nofun) hp
  · cases hp
    exact h.of_core rfl

theorem ArrivalStep.shape {packet : Packet} (ha : ArrivalStep cfg s packet s') (h : s.Shape) :
    s'.Shape := by
  cases ha with
  | preempting he hp hpre =>
    have hs := h.transmitting_iff.mpr (.inr hp)
    have hshape : { s with currentExpressFrame := some packet }.Shape :=
      ⟨h.1, h.2, h.3, h.4, h.5, fun hi => absurd (hs.symm.trans hi) nofun, h.7⟩
    exact hshape.preempt hpre
  | inGap he hs =>
    refine ⟨h.1, h.2, h.3, h.4, h.5, fun hi => ?_, h.7⟩
    exact absurd (hs.symm.trans hi) nofun
  | paused hs =>
    have hstore : ∀ m : EtherMac, m.transmitState = .PAUSE_STATE →
        (m.storeOnHold packet).transmitState = .PAUSE_STATE ∧
        (m.storeOnHold packet).transmittingExpressFrame = m.transmittingExpressFrame ∧
        (m.storeOnHold packet).transmittingPreemptableFrame = m.transmittingPreemptableFrame ∧
        (m.storeOnHold packet).endTxMsg = m.endTxMsg ∧
        (m.storeOnHold packet).endIFGMsg = m.endIFGMsg := by
      intro m hm
      unfold storeOnHold
      split
      · exact ⟨hm, rfl, rfl, rfl, rfl⟩
      · exact ⟨hm, rfl, rfl, rfl, rfl⟩
    obtain ⟨h1, h2, h3, h4, h5⟩ := hstore { s with curTxFrame := some packet } hs
    have hne : s.transmitState ≠ .TRANSMITTING_STATE := by rw [hs]; nofun
    obtain ⟨he, hp⟩ := h.flags hne
    have hi : s.endIFGMsg = none := h.endIFG_of_state (by rw [hs]; nofun)
    refine .of_silent ?_ (h2.trans he) (h3.trans hp) (h4.trans (h.endTx_of_state hne)) ?_ ?_ ?_
    · rw [h1]
      nofun
    · rw [h1, h5]
      exact iff_of_false nofun fun hn => hn hi
    · rw [h1]
      nofun
    · rw [h1]
      nofun
  | sent hs hstart =>
    have hne : s.transmitState ≠ .TRANSMITTING_STATE := by rw [hs]; nofun
    have hi : s.endIFGMsg = none := h.endIFG_of_state (by rw [hs]; nofun)
    obtain ⟨frame, hframe, he, hp, _, hst⟩ := startFrameTransmission_ok hstart
    refine hst.shape hframe he hp ?_
    unfold storeOnHold
    split
    · exact hi
    · exact hi
  | stray he hs hx hp =>
    exact absurd (h.transmitting_iff.mp hs) (by rw [hx, hp]; exact fun h => h.elim nofun nofun)

theorem handleUpperPacket_shape (h : s.Shape) {packet : Packet}
    (hp : s.handleUpperPacket cfg packet = .ok s') : s'.Shape := by
  obtain hq | ⟨_, _, _, _, msg, _, ha⟩ := handleUpperPacket_ok hp
  · exact h.of_core hq.core
  · exact ha.shape ⟨h.1, h.2, h.3, h.4, h.5, h.6, h.7⟩

/-- every event keeps the shape -/
theorem shape_step {e : MacEvent} (h : s.Shape) (hs : s.step cfg e = .ok s') : s'.Shape := by
  cases step_ok hs with
  | quiet hq => exact h.of_core hq.core
  | endTx _ ht => exact handleEndTxPeriod_shape h ht
  | endIFG hi => exact handleEndIFGPeriod_shape h hi
  | endPause hp => exact handleEndPausePeriod_shape h hp
  | preempt hp => exact Shape.preempt (s := { s with preemptCurrentFrameMsg := none }) (h.of_core rfl) hp
  | hold hh =>
    refine hold_shape ?_ hh
    exact h.of_core rfl
  | release hr => exact release_shape h hr
  | pause hp => exact processPauseCommand_shape h hp
  | upper hu => exact handleUpperPacket_shape h hu
  | fromGate _ hu =>
    refine handleUpperPacket_shape ?_ hu
    exact h.of_core rfl

/-! ## what a step does to the frames -/

/-- the part of the state that frames and fragments depend on -/
def frames (s : EtherMac) : EtherMac :=
  { s.core with endIFGMsg := none, transmitState := .TX_IDLE_STATE }

theorem frames_of_core (h : s'.core = s.core) : s'.frames = s.frames := by
  unfold frames
  rw [h]

/-- a length that `handleUpperPacket` accepts -/
def WellSized (frame : Packet) : Prop := 64 ≤ frame.byteLength ∧ frame.byteLength ≤ 1526

/-- the event hands the packet to `handleUpperPacket` -/
def Delivers (s : EtherMac) (e : MacEvent) (packet : Packet) : Prop :=
  e = .handleUpperPacket packet ∨ ∃ gateId packet' ts, e = .handlePacket gateId packet' ∧
    s.transmissionSelection.handlePacket gateId packet' = .ok (packet, ts)

/-- what an event does in a state with the right shape -/
inductive Change (cfg : MacConfig) (s : EtherMac) (e : MacEvent) : EtherMac → Prop
  | quiet {t : EtherMac} (hc : t.frames = s.frames) (ht : s.time ≤ t.time)
      (hd : ∀ u, t.Due u →
        (s.Due u ∧ (t.time = s.time ∨ t.time ≤ u)) ∨ (t.time = s.time ∧ Deferred cfg s u)) :
      Change cfg s e t
  | next {m t : EtherMac} (hm : m.frames = s.frames) (ht : m.time = s.time)
      (hd : ∀ u, m.Due u → s.Due u) (he : m.transmittingExpressFrame = false)
      (hp : m.transmittingPreemptableFrame = false)
      (h : (m.getNextFrameFromQueue cfg >>= fun s => s.beginSendFrames cfg) = .ok t) :
      Change cfg s e t
  | endTx {t : EtherMac} (hd : s.endTxMsg = some s.time)
      (h : { s with endTxMsg := none }.handleEndTxPeriod cfg = .ok t) : Change cfg s e t
  | preempt {m t : EtherMac} (hm : m.frames = s.frames) (ht : m.time = s.time)
      (hd : ∀ u, m.Due u → s.Due u) (h : m.preemptCurrentFrame cfg = .ok t) : Change cfg s e t
  | arrive {m t : EtherMac} {packet : Packet} (hm : m.core = s.core) (ht : m.time = s.time)
      (hd : ∀ u, m.Due u → s.Due u)
      (hh : m.onHold = s.onHold) (hup : cfg.connected = true ∧ cfg.disabled = false)
      (hw : WellSized packet) (he : s.Delivers e packet)
      (h : ArrivalStep cfg { m with history := m.history ++ [MacRecord.accepted packet] } packet t) :
      Change cfg s e t

theorem Waits.change {e : MacEvent} (h : Waits cfg s s') : Change cfg s e s' :=
  .quiet (frames_of_core h.core) h.time h.due

theorem hold_change {e : MacEvent} (h : s.Shape) {delay : SimTime} {requests : List SimTime}
    (hh : { s with holdRequests := requests }.hold cfg delay = .ok s') : Change cfg s e s' := by
  unfold hold at hh
  split at hh
  · cases hh
    exact .quiet rfl le_rfl fun u hu => .inl ⟨hu, .inl rfl⟩
  · split at hh
    · cases preemptOrRequest_ok hh with
      | preempt hp =>
        exact .preempt (m := { s with holdRequests := requests, onHold := true }) rfl rfl
          (fun u hu => hu) hp
      | later u hd =>
        refine .quiet rfl le_rfl fun v hv => ?_
        obtain hv | hv := hv
        · cases hv
          exact .inr ⟨rfl, hd.1, hd.2, hd.3, hd.4⟩
        · exact .inl ⟨.inr hv, .inl rfl⟩
      | idle hi hn =>
        cases (getNextFrameFromQueue_ok hn).2 with
        | stored frame hf => exact absurd ((h.idle hi).2.symm.trans hf) nofun
        | resumed frame he hoff => cases hoff
        | nothing he ts => exact .quiet rfl le_rfl fun u hu => .inl ⟨hu, .inl rfl⟩
      | busy => exact .quiet rfl le_rfl fun u hu => .inl ⟨hu, .inl rfl⟩
    · obtain ⟨_, _, hh⟩ := bind_ok.mp hh
      cases hh
      exact .quiet rfl le_rfl fun u hu => .inl ⟨hu, .inl rfl⟩

theorem handleUpperPacket_change {e : MacEvent} {ts : TransmissionSelection} {packet : Packet}
    (hd : s.Delivers e packet)
    (hu : { s with transmissionSelection := ts }.handleUpperPacket cfg packet = .ok s') :
    Change cfg s e s' := by
  obtain hq | ⟨hup, hdown, hmin, hmax, msg, hmsg, ha⟩ := handleUpperPacket_ok hu
  · exact .quiet (frames_of_core hq.core) hq.time fun u hu => (hq.due u hu).imp_right
      fun ⟨ht, hd⟩ => ⟨ht, hd.1, hd.2, hd.3, hd.4⟩
  · exact .arrive (m := { s with
        transmissionSelection := ts
        recheckForQueuedExpressFrameMsg := msg })
      rfl rfl (fun u hu => hu.imp_right (hmsg u)) rfl ⟨hup, hdown⟩ ⟨hmin, hmax⟩ hd ha

theorem step_change {e : MacEvent} (h : s.Shape) (hs : s.step cfg e = .ok s') :
    Change cfg s e s' := by
  cases step_ok hs with
  | quiet hq => exact hq.change
  | endTx hd ht => exact .endTx hd ht
  | endIFG hi =>
    obtain ⟨_, _, hi⟩ := bind_ok.mp hi
    split at hi
    · cases hi
    · rename_i hst
      have hst : s.transmitState = .WAIT_IFG_STATE := not_not.mp hst
      obtain ⟨he, hp⟩ := h.flags (by rw [hst]; nofun)
      exact .next (m := { s with endIFGMsg := none }) rfl rfl (fun u hu => hu) he hp hi
  | endPause hi =>
    obtain ⟨_, _, hi⟩ := bind_ok.mp hi
    split at hi
    · cases hi
    · rename_i hst
      have hst : s.transmitState = .PAUSE_STATE := not_not.mp hst
      obtain ⟨he, hp⟩ := h.flags (by rw [hst]; nofun)
      exact .next (m := { s with endPauseMsg := none }) rfl rfl (fun u hu => hu) he hp hi
  | preempt hp =>
    exact .preempt (m := { s with preemptCurrentFrameMsg := none }) rfl rfl
      (fun u hu => hu.imp_left nofun) hp
  | hold hh => exact hold_change h hh
  | release hr =>
    unfold release at hr
    split at hr
    · cases hr
      exact .quiet rfl le_rfl fun u hu => .inl ⟨hu, .inl rfl⟩
    · dsimp only at hr
      split at hr
      · have hcur : s.curTxFrame = none := (nextFrame_ok hr).1
        obtain ⟨he, hp⟩ := h.flags fun hst => h.sending hst hcur
        exact .next (m := { s with
            onHold := false
            transmissionSelection := s.transmissionSelection.removePendingRequests })
          rfl rfl (fun u hu => hu) he hp hr
      · cases hr
        exact .quiet rfl le_rfl fun u hu => .inl ⟨hu, .inl rfl⟩
  | pause hp =>
    have hpause : ∀ (m : EtherMac) n, m.frames = s.frames → m.time = s.time →
        (∀ u, m.Due u → s.Due u) → m.scheduleEndPausePeriod cfg n = .ok s' →
        ∀ e, Change cfg s e s' := by
      intro m n hm ht hd hn e
      obtain ⟨_, t, rfl⟩ := scheduleEndPausePeriod_ok hn
      exact .quiet hm ht.ge fun u hu => .inl ⟨hd u hu, .inl ht⟩
    unfold processPauseCommand at hp
    split at hp
    · split at hp
      · exact hpause s _ rfl rfl (fun u hu => hu) hp _
      · cases hp
        exact .quiet rfl le_rfl fun u hu => .inl ⟨hu, .inl rfl⟩
    · exact hpause { s with endPauseMsg := none } _ rfl rfl (fun u hu => hu) hp _
    · cases hp
      exact .quiet rfl le_rfl fun u hu => .inl ⟨hu, .inl rfl⟩
  | upper hu => exact handleUpperPacket_change (.inl rfl) hu
  | fromGate hp hu => exact handleUpperPacket_change (.inr ⟨_, _, _, rfl, hp⟩) hu

end EtherMac

end Nesting
