import Nesting.Mac.HoldAdvance
import Nesting.Mac.Link

/-!
# How long an express frame waits

An express frame stops a preemptable one.  It waits for the four bytes of checksum that end the part, and
for the gap after it.

* `expressLatency`   the time that these take;
* `Ahead`            what is still before the waiting frame ends in time;
* `Calm`             nothing else stops the part meanwhile, and no pause is asked for;
* `express_in_time`  **then no express frame waits longer**.
-/

set_option linter.unusedVariables false

namespace Nesting

namespace EtherMac

open Lib

variable {cfg : MacConfig} {s s' : EtherMac} {e : MacEvent} {T : SimTime} {frame : Packet}

/-- four bytes of checksum and the gap between two frames -/
def expressLatency (cfg : MacConfig) : SimTime :=
  calculateTransmissionDuration cfg 4 + INTERFRAME_GAP_BITS / cfg.txrate

/-- the part in transmission and the gap after it are over by then, or the gap is -/
inductive Ahead (cfg : MacConfig) (T : SimTime) (s : EtherMac) : Prop
  | part (hp : s.transmittingPreemptableFrame = true) (hend : ∀ u ∈ s.endTxMsg, gapEnd cfg u ≤ T)
  | gap (hs : s.transmitState = .WAIT_IFG_STATE) (hend : ∀ u ∈ s.endIFGMsg, u ≤ T)

/-- the frame that comes in finds room; while an express frame waits nothing else stops the part, and the
MAC does not pause -/
def Calm (cfg : MacConfig) (s : EtherMac) (e : MacEvent) : Prop :=
  Receives cfg Roomy s e ∧ (s.transmitState ≠ .PAUSE_STATE ∧ s.pauseUnitsRequested ≤ 0) ∧
    (s.transmittingPreemptableFrame = true → s.currentExpressFrame ≠ none → ¬s.Stops e)

instance (cfg : MacConfig) (s : EtherMac) (e : MacEvent) : Decidable (Calm cfg s e) :=
  inferInstanceAs (Decidable (_ ∧ _ ∧ _))

/-! ## what was sent stays sent -/

theorem history_step (hshape : s.Shape) (hs : s.step cfg e = .ok s') : s.history <+: s'.history := by
  have hframes : ∀ m : EtherMac, m.frames = s.frames → m.history = s.history := by
    intro m hm
    have h : m.frames.history = s.frames.history := congrArg history hm
    exact h
  have hstart : ∀ {m t : EtherMac} {frame : Packet}, StartTransmission cfg m frame t →
      m.history <+: t.history := by
    intro m t frame hst
    cases hst with
    | express => exact List.prefix_append _ _
    | new => exact List.prefix_append _ _
    | resumed => exact List.prefix_append _ _
  cases step_change hshape hs with
  | quiet hc _ _ => exact (hframes _ hc) ▸ List.prefix_rfl
  | @next m t hm _ _ _ _ hn =>
    rw [← hframes m hm]
    obtain ⟨_, s1, hnext, hrest⟩ := nextFrame_ok hn
    have h1 : s1.history = m.history := by
      cases hnext with
      | stored => rfl
      | resumed => rfl
      | nothing => rfl
    rw [← h1]
    obtain ⟨_, _, _, _, _, hst⟩ | ⟨_, rfl⟩ := hrest
    · exact hstart hst
    · exact List.prefix_rfl
  | endTx _ ht =>
    unfold handleEndTxPeriod at ht
    split at ht
    · obtain ⟨m, hm, ht⟩ := bind_ok.mp ht
      obtain ⟨_, _, _, _, rfl⟩ := sendPreemptedFrame_ok hm
      rw [(finishTransmission_part ht).2.2.2.1]
      exact List.prefix_append _ _
    · split at ht
      · cases ht
      · rw [(finishTransmission_part ht).2.2.2.1]
  | @preempt m t hm _ _ hp =>
    obtain ⟨_, _, rfl⟩ := preemptCurrentFrame_ok hp
    exact (hframes m hm) ▸ List.prefix_rfl
  | @arrive m t packet hm _ _ _ _ _ _ ha =>
    have hstore : ∀ n : EtherMac, (n.storeOnHold packet).history = n.history :=
      fun n => (storeOnHold_fields packet).2.2.2
    rw [← hframes m (frames_of_core hm)]
    refine (List.prefix_append _ [MacRecord.accepted packet]).trans ?_
    cases ha with
    | preempting _ _ hp =>
      obtain ⟨_, _, rfl⟩ := preemptCurrentFrame_ok hp
      exact List.prefix_rfl
    | inGap => exact List.prefix_rfl
    | paused =>
      rw [hstore]
    | sent _ hst =>
      obtain ⟨_, _, _, _, _, hst⟩ := startFrameTransmission_ok hst
      refine List.IsPrefix.trans ?_ (hstart hst)
      rw [hstore]
    | stray => exact List.prefix_rfl

theorem sentExpress_step (hshape : s.Shape) (hs : s.step cfg e = .ok s') :
    s.sentExpress <+: s'.sentExpress :=
  (history_step hshape hs).filterMap _

/-! ## the frame that waits -/

/-- without a pause the gap begins -/
theorem finishTransmission_calm (h : s.finishTransmission cfg = .ok s')
    (hpause : s.pauseUnitsRequested ≤ 0) :
    s'.transmitState = .WAIT_IFG_STATE ∧ s'.endIFGMsg = some (gapEnd cfg s.time) := by
  unfold finishTransmission at h
  split at h
  · cases h
  · split at h
    · cases h
    · rw [if_neg (not_lt.mpr hpause)] at h
      obtain ⟨_, _, h⟩ := bind_ok.mp h
      obtain ⟨t, ht, h⟩ := bind_ok.mp h
      obtain ⟨_, _, rfl⟩ := scheduleAt_ok ht
      cases h
      exact ⟨rfl, rfl⟩

/-- the part that was stopped ends, and the gap begins -/
theorem handleEndTxPeriod_calm (hen : cfg.enablePreemptingFrames = true)
    (hp : s.transmittingPreemptableFrame = true) (hpause : s.pauseUnitsRequested ≤ 0)
    (h : { s with endTxMsg := none }.handleEndTxPeriod cfg = .ok s') :
    s'.currentExpressFrame = s.currentExpressFrame ∧ s'.sentExpress = s.sentExpress ∧
      s'.transmitState = .WAIT_IFG_STATE ∧ s'.endIFGMsg = some (gapEnd cfg s.time) := by
  have hover := handleEndTxPeriod_over h
  unfold handleEndTxPeriod at h
  rw [if_pos (show (cfg.enablePreemptingFrames && s.transmittingPreemptableFrame) = true by
    rw [hen, hp]; rfl)] at h
  obtain ⟨m, hm, h⟩ := bind_ok.mp h
  obtain ⟨_, _, _, _, rfl⟩ := sendPreemptedFrame_ok hm
  have hhist := (finishTransmission_part h).2.2.2.1
  have hgap := finishTransmission_calm h hpause
  refine ⟨hover.2, ?_, hgap⟩
  unfold sentExpress
  rw [hhist, List.filterMap_append]
  exact List.append_nil _

/-- **In the gap** only its end does anything, and then the waiting frame starts. -/
theorem gap_step (hen : cfg.enablePreemptingFrames = true) (hshape : s.Shape) (htime : Timing cfg s)
    (hs : s.transmitState = .WAIT_IFG_STATE) (hx : s.currentExpressFrame = some frame)
    (hroom : Receives cfg Roomy s e) (h : s.step cfg e = .ok s') :
    s'.core = s.core ∨
      (s'.currentExpressFrame = none ∧ s'.sentExpress = s.sentExpress ++ [frame]) := by
  have hflags := hshape.flags (by rw [hs]; nofun)
  have hpart : s.transmittingPreemptableFrame ≠ true := by
    rw [hflags.2]
    nofun
  have harrive : ∀ {ts : TransmissionSelection} {packet : Packet},
      (cfg.connected = true ∧ cfg.disabled = false → s.Roomy packet) →
      { s with transmissionSelection := ts }.handleUpperPacket cfg packet = .ok s' →
      s'.core = s.core := by
    intro ts packet hr hu
    obtain hq | ⟨hconn, hdis, _, _, msg, _, ha⟩ := handleUpperPacket_ok hu
    · exact hq.core
    · obtain ⟨_, _, hnone⟩ := hr ⟨hconn, hdis⟩
      have hno : packet.express ≠ true := fun he => absurd (hx.symm.trans (hnone he)) nofun
      cases ha with
      | preempting he => exact absurd he hno
      | inGap he => exact absurd he hno
      | paused hs' => exact absurd (hs.symm.trans hs') nofun
      | sent hs' => exact absurd (hs.symm.trans hs') nofun
      | stray he => exact absurd he hno
  cases step_ok h with
  | quiet hq => exact .inl hq.core
  | endTx hd =>
    exact absurd ((hshape.endTx_of_state (by rw [hs]; nofun)).symm.trans hd) nofun
  | endIFG h =>
    obtain ⟨_, _, h⟩ := bind_ok.mp h
    split at h
    · cases h
    · obtain ⟨_, s1, hnext, hrest⟩ := nextFrame_ok h
      cases hnext with
      | stored frame' hf =>
        cases hx.symm.trans hf
        obtain ⟨_, hcur, _, _, _, hst⟩ | ⟨hcur, _⟩ := hrest
        · cases hcur
          cases hst with
          | express =>
            refine .inr ⟨rfl, ?_⟩
            unfold sentExpress
            rw [List.filterMap_append]
            rfl
          | new hno => exact absurd ((htime.waiting frame hx).1.symm.trans hno.2) nofun
          | resumed hno => exact absurd ((htime.waiting frame hx).1.symm.trans hno.2) nofun
        · cases hcur
      | resumed _ hnone => exact absurd (hx.symm.trans hnone) nofun
      | nothing hnone => exact absurd (hx.symm.trans hnone) nofun
  | endPause h =>
    obtain ⟨_, _, h⟩ := bind_ok.mp h
    rw [if_pos (by rw [hs]; nofun)] at h
    cases h
  | preempt h => exact absurd (preemptCurrentFrame_ok h).1 hpart
  | hold h =>
    left
    unfold hold at h
    split at h
    · cases h
      rfl
    · split at h
      · cases preemptOrRequest_ok h with
        | preempt h => exact absurd (preemptCurrentFrame_ok h).1 hpart
        | later _ hd => exact absurd hd.sending hpart
        | idle hi => exact absurd (hs.symm.trans hi) nofun
        | busy => rfl
      · obtain ⟨_, _, h⟩ := bind_ok.mp h
        cases h
        rfl
  | release h =>
    left
    have hend : s.endIFGMsg.isNone = false := by
      rw [Option.isNone_eq_false_iff, Option.isSome_iff_ne_none]
      exact hshape.endIFG_iff.mp hs
    unfold release at h
    split at h
    · cases h
      rfl
    · dsimp only at h
      rw [hend, Bool.and_false, if_neg nofun] at h
      cases h
      rfl
  | pause h =>
    left
    unfold processPauseCommand at h
    split at h
    · rename_i hi
      exact absurd (hs.symm.trans hi) nofun
    · rename_i hi
      exact absurd (hs.symm.trans hi) nofun
    · cases h
      rfl
  | upper hu => exact .inl (harrive (fun hup => hroom hup.1 hup.2) hu)
  | fromGate hp hu =>
    refine .inl (harrive (fun hup => ?_) hu)
    have hsel := hroom hup.1 hup.2
    rw [hp] at hsel
    exact hsel

theorem Ahead.mono {U : SimTime} (h : Ahead cfg T s) (hle : T ≤ U) : Ahead cfg U s := by
  cases h with
  | part hp hend => exact .part hp fun u hu => (hend u hu).trans hle
  | gap hs hend => exact .gap hs fun u hu => (hend u hu).trans hle

theorem Ahead.of_core (h : Ahead cfg T s) (hc : s'.core = s.core) : Ahead cfg T s' := by
  have hs : Ahead cfg T s.core := by
    cases h with
    | part hp hend => exact .part hp hend
    | gap hs hend => exact .gap hs hend
  rw [← hc] at hs
  cases hs with
  | part hp hend => exact .part hp hend
  | gap hs hend => exact .gap hs hend

/-- **The waiting frame** comes nearer to its turn with every step, or has it. -/
theorem ahead_step (hen : cfg.enablePreemptingFrames = true) (h : Regular cfg s)
    (hx : s.currentExpressFrame = some frame) (ha : Ahead cfg T s) (hc : Calm cfg s e)
    (hs : s.step cfg e = .ok s') :
    (s'.currentExpressFrame = some frame ∧ Ahead cfg T s' ∧ s'.sentExpress = s.sentExpress) ∨
      (s'.currentExpressFrame = none ∧ s'.sentExpress = s.sentExpress ++ [frame]) := by
  obtain ⟨hroom, ⟨_, hpause⟩, hstops⟩ := hc
  cases ha with
  | part hp hend =>
    left
    by_cases he : e = .timer .endTx
    · subst he
      change (if s.time ∈ s.scheduled .endTx then _ else _) = _ at hs
      split at hs
      · rename_i hd
        have hs : { s with endTxMsg := none }.handleEndTxPeriod cfg = .ok s' := hs
        obtain ⟨hcur, hsent, hgap, hmsg⟩ := handleEndTxPeriod_calm hen hp hpause hs
        refine ⟨hcur.trans hx, .gap hgap fun u hu => ?_, hsent⟩
        cases hmsg.symm.trans hu
        exact hend _ (Option.mem_toList.mp hd)
      · cases hs
    · have hun := step_untouched h.shape hp (hstops hp (by rw [hx]; nofun)) he hs
      have hcur : s'.frames.currentExpressFrame = s.frames.currentExpressFrame :=
        congrArg currentExpressFrame hun.frames
      have hpart : s'.frames.transmittingPreemptableFrame = s.frames.transmittingPreemptableFrame :=
        congrArg transmittingPreemptableFrame hun.frames
      have hmsg : s'.frames.endTxMsg = s.frames.endTxMsg := congrArg endTxMsg hun.frames
      have hsent : s'.frames.sentExpress = s.frames.sentExpress := congrArg sentExpress hun.frames
      refine ⟨hcur.trans hx, .part (hpart.trans hp) fun u hu => hend u ?_, hsent⟩
      exact hmsg.symm.trans hu
  | gap hst hend =>
    obtain hcore | hsent := gap_step hen h.shape h.timing hst hx hroom hs
    · have hcur : s'.core.currentExpressFrame = s.core.currentExpressFrame :=
        congrArg currentExpressFrame hcore
      have hsent : s'.core.sentExpress = s.core.sentExpress := congrArg sentExpress hcore
      exact .inl ⟨hcur.trans hx, (Ahead.gap hst hend).of_core hcore, hsent⟩
    · exact .inr hsent

/-- a waiting frame has its turn in time -/
def Urgent (cfg : MacConfig) (s : EtherMac) : Prop :=
  ∀ frame ∈ s.currentExpressFrame, Ahead cfg (s.time + expressLatency cfg) s

theorem gapEnd_latency (t : SimTime) :
    gapEnd cfg (t + calculateTransmissionDuration cfg 4) = t + expressLatency cfg := by
  unfold gapEnd expressLatency
  exact add_assoc _ _ _

theorem expressLatency_pos : 0 < expressLatency cfg := by
  have hr := cfg.txrate_pos
  have hbytes : 0 < calculateTransmissionDuration cfg 4 := duration_pos (by omega)
  have hgap : (0 : ℚ) ≤ INTERFRAME_GAP_BITS / cfg.txrate := by positivity
  exact add_pos_of_pos_of_nonneg hbytes hgap

theorem gapEnd_le_latency (t : SimTime) : gapEnd cfg t ≤ t + expressLatency cfg := by
  rw [← gapEnd_latency]
  have hbytes : 0 < calculateTransmissionDuration cfg 4 := duration_pos (by omega)
  exact gapEnd_mono (le_add_of_nonneg_right hbytes.le)

/-- a frame that comes in waits for the part that it stops, or for the gap -/
theorem urgent_step (hen : cfg.enablePreemptingFrames = true) (h : Regular cfg s)
    (hu : Urgent cfg s) (hc : Calm cfg s e) (hs : s.step cfg e = .ok s') : Urgent cfg s' := by
  have hle : s.time ≤ s'.time := by
    obtain htime | ⟨t, _, ⟨hle, _⟩, rfl⟩ := step_time hs
    · exact htime.ge
    · exact hle
  cases hx : s.currentExpressFrame with
  | some frame =>
    intro frame' hf'
    obtain ⟨_, ha, _⟩ | ⟨hnone, _⟩ := ahead_step hen h hx (hu frame hx) hc hs
    · exact ha.mono (add_le_add_left hle _)
    · exact absurd (hnone.symm.trans hf') nofun
  | none =>
    have hnone : ∀ {m : EtherMac}, m.currentExpressFrame = none → Urgent cfg m :=
      fun hm _ hf => absurd (hm.symm.trans hf) nofun
    cases step_change h.shape hs with
    | quiet hq =>
      have hcur : s'.frames.currentExpressFrame = s.frames.currentExpressFrame :=
        congrArg currentExpressFrame hq
      exact hnone (hcur.trans hx)
    | @next m t hm _ _ _ _ hn =>
      have hcur : m.frames.currentExpressFrame = s.frames.currentExpressFrame :=
        congrArg currentExpressFrame hm
      have hcur : m.currentExpressFrame = none := hcur.trans hx
      obtain ⟨_, s1, hnext, hrest⟩ := nextFrame_ok hn
      have h1 : s1.currentExpressFrame = none := by
        cases hnext with
        | stored => rfl
        | resumed => exact hcur
        | nothing => exact hcur
      obtain ⟨_, _, _, _, _, hst⟩ | ⟨_, rfl⟩ := hrest
      · refine hnone ?_
        cases hst with
        | express => exact h1
        | new => exact h1
        | resumed => exact h1
      · exact hnone h1
    | endTx _ ht => exact hnone ((handleEndTxPeriod_over ht).2.trans hx)
    | @preempt m t hm _ _ hp =>
      have hcur : m.frames.currentExpressFrame = s.frames.currentExpressFrame :=
        congrArg currentExpressFrame hm
      obtain ⟨_, _, rfl⟩ := preemptCurrentFrame_ok hp
      exact hnone (hcur.trans hx)
    | @arrive m t packet hm ht _ _ _ _ _ ha =>
      have hcur : m.core.currentExpressFrame = s.core.currentExpressFrame :=
        congrArg currentExpressFrame hm
      have hcur : m.currentExpressFrame = none := hcur.trans hx
      have hstate : m.core.transmitState = s.core.transmitState := congrArg transmitState hm
      have hgap : m.core.endIFGMsg = s.core.endIFGMsg := congrArg endIFGMsg hm
      have hstore : ∀ n : EtherMac,
          (n.storeOnHold packet).currentExpressFrame = n.currentExpressFrame :=
        fun n => (storeOnHold_fields packet).2.1
      cases ha with
      | preempting _ hp h4 =>
        obtain ⟨_, _, rfl⟩ := preemptCurrentFrame_ok h4
        intro _ _
        refine .part hp fun u hu => ?_
        cases hu
        exact (gapEnd_latency _).le
      | inGap _ hst =>
        intro _ _
        refine .gap hst fun u hu => ?_
        have hend := (h.gap u (hgap.symm.trans hu)).2
        rw [← ht] at hend
        exact hend.trans (gapEnd_le_latency _)
      | paused hst => exact absurd (hstate.symm.trans hst) hc.2.1.1
      | sent _ hst =>
        obtain ⟨_, _, _, _, _, hst⟩ := startFrameTransmission_ok hst
        refine hnone ?_
        cases hst with
        | express => exact (hstore _).trans hcur
        | new => exact (hstore _).trans hcur
        | resumed => exact (hstore _).trans hcur
      | stray => exact hnone hcur

/-- a frame that comes in finds room, and has a length that the MAC accepts -/
theorem roomy_distinct (hr : Receives cfg Roomy s e) (hs : s.step cfg e = .ok s') :
    Receives cfg Distinct s e := by
  have hsized : ∀ {m : EtherMac} {packet : Packet}, m.handleUpperPacket cfg packet = .ok s' →
      WellSized packet := by
    intro m packet hu
    obtain ⟨_, hc, _⟩ := bind_ok.mp hu
    exact checkUpperPacket_ok hc
  cases e with
  | handleUpperPacket packet =>
    intro hconn hup
    have hs : s.handleUpperPacket cfg packet = .ok s' := hs
    exact (hr hconn hup).1.distinct (hsized hs)
  | handlePacket gateId packet =>
    intro hconn hup
    obtain ⟨⟨packet', ts⟩, hp, hs⟩ := bind_ok.mp hs
    have hsel := hr hconn hup
    rw [hp] at hsel ⊢
    exact hsel.1.distinct (hsized hs)
  | _ => trivial

/-! ## runs -/

/-- what is kept on the way -/
structure Prompting (cfg : MacConfig) (s : EtherMac) : Prop where
  regular : Regular cfg s
  books : ExpressBooks s
  urgent : Urgent cfg s

theorem prompting_step (hen : cfg.enablePreemptingFrames = true) (h : Prompting cfg s)
    (hc : Calm cfg s e) (hs : s.step cfg e = .ok s') : Prompting cfg s' where
  regular := regular_step h.regular (roomy_distinct hc.1 hs) hs
  books := expressBooks_step hen h.books h.regular.timing h.regular.shape hc.1 hs
  urgent := urgent_step hen h.regular h.urgent hc hs

/-- without a pause only one express frame waits -/
theorem waitingExpress_calm (hshape : s.Shape) (htime : Timing cfg s)
    (hpause : s.transmitState ≠ .PAUSE_STATE) :
    s.waitingExpress = s.currentExpressFrame.toList := by
  unfold waitingExpress
  cases hx : s.transmittingExpressFrame with
  | true => exact List.append_nil _
  | false =>
    have hcur : s.curTxFrame.toList.filter Packet.express = [] := by
      cases hst : s.transmitState with
      | TX_IDLE_STATE => rw [(hshape.idle hst).1]; rfl
      | WAIT_IFG_STATE => rw [hshape.gap hst]; rfl
      | PAUSE_STATE => exact absurd hst hpause
      | TRANSMITTING_STATE =>
        have hp := (hshape.transmitting_iff.mp hst).resolve_left (by rw [hx]; nofun)
        obtain ⟨frame, _, hf, _⟩ := (htime.sending hp).ends
        have hcopy := (htime.sending hp).copy.trans hf
        rw [hcopy]
        have hno : frame.express = false := (htime.current frame hf).1
        simp [hno]
    rw [hcur]
    exact List.append_nil _

/-- the frames have been sent, or the last of them has its turn until then -/
def SentBy (cfg : MacConfig) (T : SimTime) (frames : List Packet) (s : EtherMac) : Prop :=
  frames <+: s.sentExpress ∨
    ∃ frame, s.currentExpressFrame = some frame ∧ Ahead cfg T s ∧ frames = s.sentExpress ++ [frame]

theorem sentBy_step (hen : cfg.enablePreemptingFrames = true) (h : Regular cfg s)
    {frames : List Packet} (hf : SentBy cfg T frames s) (hc : Calm cfg s e)
    (hs : s.step cfg e = .ok s') : SentBy cfg T frames s' := by
  obtain hsent | ⟨frame, hx, ha, rfl⟩ := hf
  · exact .inl (hsent.trans (sentExpress_step h.shape hs))
  · obtain ⟨hx', ha', hsame⟩ | ⟨_, hsent⟩ := ahead_step hen h hx ha hc hs
    · exact .inr ⟨frame, hx', ha', by rw [hsame]⟩
    · exact .inl (by rw [hsent])

/-- what is ahead of the frame is over when its time has come -/
theorem Ahead.time_le (ha : Ahead cfg T s) (h : Regular cfg s) : s.time ≤ T := by
  cases ha with
  | part hp hend =>
    obtain ⟨_, u, _, hu, _⟩ := (h.timing.sending hp).ends
    exact (h.inTime u hu).trans ((le_gapEnd u).trans (hend u hu))
  | gap hs hend =>
    obtain ⟨u, hu⟩ := Option.ne_none_iff_exists'.mp (h.shape.endIFG_iff.mp hs)
    exact (h.gap u hu).1.trans (hend u hu)

/-- **Express frames do not wait for the others**: with preemption, in every run in which each frame
finds room and no pause is asked for, and while an express frame waits nothing else stops the part
in transmission, all express frames that the MAC has accepted have been sent when the time for four
bytes and a gap has gone by, in their order. -/
theorem express_in_time (cfg : MacConfig) (hen : cfg.enablePreemptingFrames = true)
    (preemptedBytesSent : Nat) (tGates : List GateView) (before after : List MacEvent)
    (s t : EtherMac)
    (hm : Meets (step cfg) (Calm cfg) (start preemptedBytesSent tGates) (before ++ after))
    (hs : run (step cfg) (start preemptedBytesSent tGates) before = .ok s)
    (ht : run (step cfg) s after = .ok t) (hlate : s.time + expressLatency cfg < t.time) :
    s.acceptedExpress <+: t.sentExpress := by
  obtain ⟨hbefore, hafter⟩ := meets_append.mp hm
  have hafter := hafter s hs
  have h : Prompting cfg s := run_invariant_of (fun _ _ _ h hc hs => prompting_step hen h hc hs)
    ⟨regular_start _ _, rfl, nofun⟩ hbefore hs
  have hfirst : SentBy cfg (s.time + expressLatency cfg) s.acceptedExpress s := by
    cases after with
    | nil =>
      cases ht
      exact absurd hlate (not_lt.mpr (le_add_of_nonneg_right expressLatency_pos.le))
    | cons e after =>
      rw [h.books, waitingExpress_calm h.regular.shape h.regular.timing hafter.1.2.1.1]
      cases hx : s.currentExpressFrame with
      | none => exact .inl (List.append_nil _ ▸ List.prefix_rfl)
      | some frame => exact .inr ⟨frame, hx, h.urgent frame hx, rfl⟩
  have hlast : Prompting cfg t ∧ SentBy cfg (s.time + expressLatency cfg) s.acceptedExpress t :=
    run_invariant_of (I := fun v => Prompting cfg v ∧ SentBy cfg _ s.acceptedExpress v)
      (fun _ _ _ h hc hs => ⟨prompting_step hen h.1 hc hs, sentBy_step hen h.1.regular h.2 hc hs⟩)
      ⟨h, hfirst⟩ hafter ht
  obtain hsent | ⟨frame, _, ha, _⟩ := hlast.2
  · exact hsent
  · exact absurd (ha.time_le hlast.1.regular) (not_le.mpr hlate)

/-- an express frame that comes in at byte 100 of another one has been sent after byte 104 -/
theorem express_in_time_preemptionRun : ∃ s t,
    run (step fastMac) (start 0 (twoGates true true true true)) (preemptionRun.take 12) = .ok s ∧
    run (step fastMac) s (preemptionRun.drop 12) = .ok t ∧
    (s.currentExpressFrame = some expressFrame ∧ s.transmittingPreemptableFrame = true) ∧
    s.acceptedExpress <+: t.sentExpress := by
  obtain ⟨⟨s, t⟩, hrun, hs, hlate⟩ : ∃ r : EtherMac × EtherMac, (do
      let s ← run (step fastMac) (start 0 (twoGates true true true true)) (preemptionRun.take 12)
      let t ← run (step fastMac) s (preemptionRun.drop 12)
      return (s, t)) = .ok r ∧
        ((r.1.currentExpressFrame = some expressFrame ∧ r.1.transmittingPreemptableFrame = true) ∧
          r.1.time + expressLatency fastMac < r.2.time) :=
    exists_of_any (by decide +kernel)
  obtain ⟨_, h1, hrun⟩ := bind_ok.mp hrun
  obtain ⟨_, h2, hrun⟩ := bind_ok.mp hrun
  cases hrun
  exact ⟨s, t, h1, h2, hs, express_in_time fastMac rfl 0 _ _ _ s t (by decide +kernel) h1 h2 hlate⟩

end EtherMac

end Nesting
