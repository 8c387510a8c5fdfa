import Mathlib.Tactic.FieldSimp
import Mathlib.Tactic.GCongr
import Mathlib.Tactic.Ring
import Nesting.Mac.States

/-!
# The parts of a preemptable frame

* `calculatePreemptedPayloadBytesSent_ok`, `isPreemptionNowPossible_ok`, `framelet_*`   the byte counts;
* `counted`        the bytes that are counted for those that go out;
* `PartEnds`       when the part in transmission ends;
* `Overrun`        more bytes of a frame have been counted than it has;
* `Timing`         lengths and times of the frames in the MAC;
* `Distinct`       a frame does not go on with the counter of another one;
* `timing_step`    then the times and lengths stay right.
-/

set_option linter.unusedVariables false

namespace Nesting

namespace EtherMac

variable {cfg : MacConfig} {s s' : EtherMac}

/-! ## byte counts -/

theorem calculatePreemptedPayloadBytesSent_ok {t : SimTime} {sentCRC : Bool} {bytes : ℤ}
    (hp : s.transmittingPreemptableFrame = true)
    (h : s.calculatePreemptedPayloadBytesSent cfg t sentCRC = .ok bytes) :
    bytes = max 0 (s.bytesUntil cfg t - if sentCRC then 4 else 0) := by
  unfold calculatePreemptedPayloadBytesSent at h
  rw [hp] at h
  simp only [Bool.not_true, Bool.false_eq_true, if_false] at h
  generalize s.bytesUntil cfg t - (if sentCRC = true then 4 else 0) = n at h ⊢
  split at h
  · rename_i hneg
    cases h
    rw [max_eq_left (le_of_lt hneg)]
  · rename_i hpos
    split at h
    · cases h
    · split at h
      · cases h
      · cases h
        rw [max_eq_right (not_lt.mp hpos)]

/-- more bytes than those of the frame with preamble and delimiter are an error -/
theorem calculatePreemptedPayloadBytesSent_le {t : SimTime} {sentCRC : Bool} {bytes : ℤ}
    {frame : Packet} (hp : s.transmittingPreemptableFrame = true)
    (hf : s.currentPreemptableFrame = some frame)
    (h : s.calculatePreemptedPayloadBytesSent cfg t sentCRC = .ok bytes) :
    bytes ≤ frame.byteLength + 8 := by
  unfold calculatePreemptedPayloadBytesSent at h
  rw [hp, hf] at h
  simp only [Bool.not_true, Bool.false_eq_true, if_false] at h
  generalize s.bytesUntil cfg t - (if sentCRC = true then 4 else 0) = n at h
  split at h
  · have hzero : (0 : ℤ) = bytes := Except.ok.inj h
    omega
  · split at h
    · cases h
    · rename_i hle
      have hn : n = bytes := Except.ok.inj h
      exact hn ▸ not_lt.mp hle

/-- a frame that may be preempted has both parts long enough -/
theorem isPreemptionNowPossible_ok (he : cfg.enablePreemptingFrames = true)
    (hp : s.transmittingPreemptableFrame = true) (h : s.isPreemptionNowPossible cfg = .ok true) :
    ∃ frame, s.currentPreemptableFrame = some frame ∧ 60 ≤ s.bytesUntil cfg s.time ∧
      s.bytesUntil cfg s.time + s.preemptedBytesSent + 60 ≤ frame.byteLength := by
  unfold isPreemptionNowPossible at h
  rw [he, hp] at h
  simp only [Bool.not_true, Bool.or_self, Bool.false_eq_true, if_false] at h
  split at h
  · cases h
  · obtain ⟨bytes, hb, h⟩ := bind_ok.mp h
    split at h
    · cases h
    · rename_i frame hf
      have hb := calculatePreemptedPayloadBytesSent_ok hp hb
      have h := of_decide_eq_true (Except.ok.inj h)
      unfold kFramePreemptionMinFinalPayloadSize kFramePreemptionMinNonFinalPayloadSize at h
      simp only [Bool.false_eq_true, if_false, Int.sub_zero] at hb
      exact ⟨frame, hf, by omega, by omega⟩

theorem calculatePreemptedPayloadBytesSent_eq {frame : Packet}
    (hp : s.transmittingPreemptableFrame = true) (hf : s.currentPreemptableFrame = some frame)
    (h0 : 0 ≤ s.bytesUntil cfg s.time) (hle : s.bytesUntil cfg s.time ≤ frame.byteLength + 8) :
    s.calculatePreemptedPayloadBytesSent cfg s.time false = .ok (s.bytesUntil cfg s.time) := by
  unfold calculatePreemptedPayloadBytesSent
  rw [hp, hf]
  simp only [Bool.not_true, Bool.false_eq_true, if_false, Int.sub_zero]
  rw [if_neg (not_lt.mpr h0), if_neg (not_lt.mpr hle)]

theorem isPreemptionNowPossible_eq {frame : Packet} (hen : cfg.enablePreemptingFrames = true)
    (hp : s.transmittingPreemptableFrame = true) (he : s.transmittingExpressFrame = false)
    (hf : s.currentPreemptableFrame = some frame) (h0 : 0 ≤ s.bytesUntil cfg s.time)
    (hle : s.bytesUntil cfg s.time ≤ frame.byteLength + 8) :
    s.isPreemptionNowPossible cfg = .ok (decide (60 ≤ s.bytesUntil cfg s.time ∧
      s.bytesUntil cfg s.time + s.preemptedBytesSent + 60 ≤ frame.byteLength)) := by
  unfold isPreemptionNowPossible
  rw [hp, hen, he]
  simp only [Bool.not_true, Bool.or_self, Bool.false_eq_true, if_false]
  refine bind_ok.mpr ⟨_, calculatePreemptedPayloadBytesSent_eq hp hf h0 hle, ?_⟩
  rw [hf]
  unfold kFramePreemptionMinFinalPayloadSize kFramePreemptionMinNonFinalPayloadSize
  refine congrArg Except.ok (decide_eq_decide.mpr ?_)
  constructor
  · rintro ⟨h1, h2⟩
    omega
  · rintro ⟨h1, h2⟩
    omega

theorem bytesUntil_mono {t u : SimTime} (h : t ≤ u) : s.bytesUntil cfg t ≤ s.bytesUntil cfg u := by
  have hbit := cfg.bitTime_pos.le
  unfold bytesUntil
  apply Int.floor_le_floor
  gcongr

/-- the bytes that are counted while `n` bytes go out: with a bit that is cut by a fifth, a quarter
more -/
def counted (cfg : MacConfig) (n : ℕ) : ℕ := if cfg.bitTime = 1 / cfg.txrate then n else 5 * n / 4

theorem counted_of_exact (hexact : cfg.bitTime = 1 / cfg.txrate) (n : ℕ) : counted cfg n = n :=
  if_pos hexact

theorem counted_of_cut (hcut : cfg.bitTime ≠ 1 / cfg.txrate) (n : ℕ) : counted cfg n = 5 * n / 4 :=
  if_neg hcut

theorem le_counted (cfg : MacConfig) (n : ℕ) : n ≤ counted cfg n := by
  unfold counted
  split <;> omega

theorem bytesUntil_duration (n : ℕ) :
    s.bytesUntil cfg (s.preemptableTransmissionStart + calculateDuration cfg n) =
      counted cfg n := by
  have hr := ne_of_gt cfg.txrate_pos
  unfold bytesUntil calculateDuration
  rw [add_sub_cancel_left]
  by_cases hexact : cfg.bitTime = 1 / cfg.txrate
  · have : (n : ℚ) * 8 / cfg.txrate / cfg.bitTime / 8 = n := by
      rw [hexact]
      field_simp
    rw [this, Int.floor_natCast, counted_of_exact hexact]
  · obtain ⟨-, hcut⟩ := cfg.bitTime_cases.resolve_left hexact
    have : (n : ℚ) * 8 / cfg.txrate / cfg.bitTime / 8 = ((5 * n : ℕ) : ℚ) / (4 : ℕ) := by
      rw [hcut]
      push_cast
      field_simp
    rw [this, Rat.floor_natCast_div_natCast, counted_of_cut hexact]
    rfl

/-- some bytes more -/
theorem bytesUntil_add (t : SimTime) (n : ℤ) :
    s.bytesUntil cfg (t + calculateTransmissionDuration cfg n) = s.bytesUntil cfg t + n := by
  have hbit := ne_of_gt cfg.bitTime_pos
  unfold bytesUntil calculateTransmissionDuration
  have : (t + cfg.bitTime * n * 8 - s.preemptableTransmissionStart) / cfg.bitTime / 8
      = (t - s.preemptableTransmissionStart) / cfg.bitTime / 8 + n := by
    field_simp
    ring
  rw [this, Int.floor_add_intCast]

/-- the last part -/
theorem framelet_last {frame : Packet} {sent n : ℕ} (hmax : frame.byteLength ≤ 1526)
    (hn : sent + n = frame.byteLength + 4) (h4 : 4 ≤ n) :
    framelet frame sent n = (n - 4, frame.byteLength) := by
  unfold framelet
  have h1 : uint (sent + n) = sent + n := by
    exact_mod_cast uint_natCast (n := sent + n) (by omega)
  have h2 : uint (((sent + n : ℕ) : ℤ) + 4) = sent + n + 4 := by
    exact_mod_cast uint_natCast (n := sent + n + 4) (by omega)
  have h3 : uint ((n : ℤ) - 4) = n - 4 := by
    rw [show (n : ℤ) - 4 = ((n - 4 : ℕ) : ℤ) by omega]
    exact uint_natCast (by omega)
  rw [h1]
  dsimp only
  rw [h2, if_pos (by omega), h3, uint_natCast (by omega)]

/-- a part that is counted beyond the end of the frame -/
theorem framelet_over {frame : Packet} {sent n : ℕ} (hmax : frame.byteLength ≤ 1526)
    (hn : frame.byteLength + 5 ≤ sent + n) (hle : sent + n ≤ 2 * frame.byteLength + 8) :
    framelet frame sent n = (n, sent + n) := by
  unfold framelet
  have h1 : uint (sent + n) = sent + n := by
    exact_mod_cast uint_natCast (n := sent + n) (by omega)
  have h2 : uint (((sent + n : ℕ) : ℤ) + 4) = sent + n + 4 := by
    exact_mod_cast uint_natCast (n := sent + n + 4) (by omega)
  rw [h1]
  dsimp only
  rw [h2, if_neg (by omega)]

/-- a part that is not the last one -/
theorem framelet_part {frame : Packet} {sent n : ℕ} (hmax : frame.byteLength ≤ 1526)
    (hn : sent + n ≤ frame.byteLength) : framelet frame sent n = (n, sent + n) := by
  unfold framelet
  have h1 : uint (sent + n) = sent + n := by
    exact_mod_cast uint_natCast (n := sent + n) (by omega)
  have h2 : uint (((sent + n : ℕ) : ℤ) + 4) = sent + n + 4 := by
    exact_mod_cast uint_natCast (n := sent + n + 4) (by omega)
  rw [h1]
  dsimp only
  rw [h2, if_neg (by omega)]

theorem encapsulatedLength_of_wellSized {frame : Packet} (h : WellSized frame) :
    encapsulatedLength frame = frame.byteLength + 8 := by
  unfold encapsulatedLength MIN_ETHERNET_FRAME_BYTES
  rw [max_eq_left h.1]

/-! ## the part in transmission -/

/-- the bytes for which a frame blocks the link when so many of them have gone out -/
def remaining (frame : Packet) (sent : ℕ) : ℕ := uint ((frame.byteLength : ℤ) + 8 - sent)

theorem remaining_of_le {frame : Packet} {sent : ℕ} (hw : WellSized frame)
    (h : sent ≤ frame.byteLength + 8) : remaining frame sent = frame.byteLength + 8 - sent := by
  have hmax := hw.2
  unfold remaining
  rw [show (frame.byteLength : ℤ) + 8 - sent = ((frame.byteLength + 8 - sent : ℕ) : ℤ) by omega]
  exact uint_natCast (by omega)

/-- the difference wraps around -/
theorem le_remaining_of_lt {frame : Packet} {sent : ℕ} (hw : WellSized frame)
    (h : frame.byteLength + 8 < sent) (hle : sent ≤ 2 * frame.byteLength + 8) :
    4294960000 ≤ remaining frame sent := by
  have hmax := hw.2
  unfold remaining uint
  omega

/-- the part ends with the frame, or with four bytes of checksum where the frame has been cut -/
def PartEnds (cfg : MacConfig) (s : EtherMac) (frame : Packet) (t : SimTime) : Prop :=
  t = s.preemptableTransmissionStart
    + calculateDuration cfg (remaining frame s.preemptedBytesSent) ∨
  ∃ u, u ≤ s.time ∧ t = u + calculateTransmissionDuration cfg 4 ∧ 60 ≤ s.bytesUntil cfg u ∧
    s.bytesUntil cfg u + s.preemptedBytesSent + 60 ≤ frame.byteLength

theorem PartEnds.bytes {frame : Packet} {t : SimTime} (h : PartEnds cfg s frame t) :
    s.bytesUntil cfg t = counted cfg (remaining frame s.preemptedBytesSent) ∨
    (64 ≤ s.bytesUntil cfg t ∧ s.bytesUntil cfg t + s.preemptedBytesSent + 56 ≤ frame.byteLength) := by
  obtain rfl | ⟨u, _, rfl, h60, hrem⟩ := h
  · exact .inl (bytesUntil_duration _)
  · right
    rw [bytesUntil_add]
    omega

/-- with a bit that is cut, more bytes of the frame have been counted than it has -/
structure Overrun (cfg : MacConfig) (frame : Packet) (sent : ℕ) : Prop where
  cut : cfg.bitTime ≠ 1 / cfg.txrate
  more : frame.byteLength + 5 ≤ sent
  bound : sent ≤ 2 * frame.byteLength + 8

/-- what the counter says of a stored frame -/
def Counts (cfg : MacConfig) (frame : Packet) (sent : ℕ) : Prop :=
  sent < frame.byteLength ∨ Overrun cfg frame sent

theorem Counts.lt {frame : Packet} {sent : ℕ} (h : Counts cfg frame sent)
    (hexact : cfg.bitTime = 1 / cfg.txrate) : sent < frame.byteLength :=
  h.resolve_right fun ho => ho.cut hexact

theorem Counts.le {frame : Packet} {sent : ℕ} (h : Counts cfg frame sent) :
    sent ≤ 2 * frame.byteLength + 8 := by
  obtain h | h := h
  · omega
  · exact h.bound

/-- a preemptable frame in transmission -/
structure Sending (cfg : MacConfig) (s : EtherMac) : Prop where
  enabled : cfg.enablePreemptingFrames = true
  copy : s.curTxFrame = s.currentPreemptableFrame
  started : s.preemptableTransmissionStart ≤ s.time
  ends : ∃ frame t, s.currentPreemptableFrame = some frame ∧ s.endTxMsg = some t ∧
    PartEnds cfg s frame t

/-- lengths and times of the frames -/
structure Timing (cfg : MacConfig) (s : EtherMac) : Prop where
  cur : ∀ frame ∈ s.curTxFrame, WellSized frame
  waiting : ∀ frame ∈ s.currentExpressFrame, frame.express = true ∧ WellSized frame
  current : ∀ frame ∈ s.currentPreemptableFrame, frame.express = false ∧ WellSized frame ∧
    Counts cfg frame s.preemptedBytesSent
  sending : s.transmittingPreemptableFrame = true → Sending cfg s

theorem timing_start (preemptedBytesSent : Nat) (tGates : List GateView) :
    Timing cfg (start preemptedBytesSent tGates) :=
  ⟨nofun, nofun, nofun, nofun⟩

/-- a preemptable frame is not taken for the one that is stored, and one that is put aside is longer
than what the counter says -/
def Distinct (s : EtherMac) (packet : Packet) : Prop :=
  packet.express = false →
    (s.transmitState = .TX_IDLE_STATE →
      ∀ frame ∈ s.currentPreemptableFrame, frame.name ≠ packet.name) ∧
    (s.onHold = true → s.currentPreemptableFrame = none →
      s.preemptedBytesSent < packet.byteLength)

instance (s : EtherMac) (packet : Packet) : Decidable (s.Distinct packet) :=
  inferInstanceAs (Decidable (_ → _ ∧ _))

/-! ## conditions on the frames that come in -/

/-- a frame that `TransmissionSelection` passes on, if it does, satisfies `P` -/
def Selects (P : Packet → Prop) : Sim (Packet × TransmissionSelection) → Prop
  | .ok r => P r.1
  | .error _ => True

instance (P : Packet → Prop) [DecidablePred P] : DecidablePred (Selects P)
  | .ok r => inferInstanceAs (Decidable (P r.1))
  | .error _ => isTrue trivial

/-- every frame that comes in while the interface is up satisfies `P` -/
def Receives (cfg : MacConfig) (P : EtherMac → Packet → Prop) (s : EtherMac) : MacEvent → Prop
  | .handleUpperPacket packet => cfg.connected = true → cfg.disabled = false → P s packet
  | .handlePacket gateId packet => cfg.connected = true → cfg.disabled = false →
    Selects (P s) (s.transmissionSelection.handlePacket gateId packet)
  | _ => True

instance (cfg : MacConfig) (P : EtherMac → Packet → Prop) [∀ s packet, Decidable (P s packet)]
    (s : EtherMac) (e : MacEvent) : Decidable (Receives cfg P s e) :=
  match e with
  | .handleUpperPacket _ => inferInstanceAs (Decidable (_ → _ → _))
  | .handlePacket _ _ => inferInstanceAs (Decidable (_ → _ → _))
  | .advance _ | .timer _ | .packetEnqueued | .hold _ | .release | .processPauseCommand _
  | .setGates _ | .gatePacketEnqueued | .requestPacketMsg | .packetEnqueuedMsg => isTrue trivial

theorem Receives.delivered {P : EtherMac → Packet → Prop} {e : MacEvent} {packet : Packet}
    (h : Receives cfg P s e) (hup : cfg.connected = true ∧ cfg.disabled = false)
    (hd : s.Delivers e packet) : P s packet := by
  obtain rfl | ⟨gateId, packet', ts, rfl, hp⟩ := hd
  · exact h hup.1 hup.2
  · have hsel := h hup.1 hup.2
    rw [hp] at hsel
    exact hsel

/-! ## what keeps the times -/

namespace Timing

theorem of_frames (h : Timing cfg s) (hc : s'.frames = s.frames) (ht : s.time ≤ s'.time) :
    Timing cfg s' := by
  have hs : Timing cfg { s.frames with time := s.time } :=
    ⟨h.1, h.2, h.3, fun hp => ⟨(h.sending hp).1, (h.sending hp).2, (h.sending hp).3, (h.sending hp).4⟩⟩
  rw [← hc] at hs
  refine ⟨hs.1, hs.2, hs.3, fun hp => ?_⟩
  obtain ⟨henabled, hcopy, hstarted, frame, t, hf, hend, hends⟩ := hs.sending hp
  refine ⟨henabled, hcopy, hstarted.trans ht, frame, t, hf, hend, ?_⟩
  obtain rfl | ⟨u, hu, hrest⟩ := hends
  · exact .inl rfl
  · exact .inr ⟨u, le_trans hu ht, hrest⟩

theorem preempt (h : Timing cfg s) (hp : s.preemptCurrentFrame cfg = .ok s') : Timing cfg s' := by
  obtain ⟨hpre, hpos, rfl⟩ := preemptCurrentFrame_ok hp
  obtain ⟨henabled, hcopy, hstarted, _⟩ := h.sending hpre
  obtain ⟨frame, hf, h60, hrem⟩ := isPreemptionNowPossible_ok henabled hpre hpos
  exact ⟨h.1, h.2, h.3, fun _ => ⟨henabled, hcopy, hstarted, frame, _, hf, rfl,
    .inr ⟨s.time, le_rfl, rfl, h60, hrem⟩⟩⟩

/-- a frame starts -/
theorem start (h : Timing cfg s) {frame : Packet} (hcur : s.curTxFrame = some frame)
    (hsame : s.isNewFrame frame = false → frame.express = false →
      s.currentPreemptableFrame = some frame)
    (hst : StartTransmission cfg s frame s') (hp : s.transmittingPreemptableFrame = false) :
    Timing cfg s' := by
  have hw := h.cur frame hcur
  cases hst with
  | express => exact ⟨h.1, h.2, h.3, fun hpre => absurd (hp.symm.trans hpre) nofun⟩
  | new hx hnew =>
    refine ⟨h.1, h.2, ?_, fun _ => ⟨hx.1, hcur, le_rfl, frame, _, rfl, rfl, .inl ?_⟩⟩
    · intro f hf
      cases hf
      have hpos : 0 < frame.byteLength := lt_of_lt_of_le (by decide) hw.1
      exact ⟨hx.2, hw, .inl hpos⟩
    · rw [encapsulatedLength_of_wellSized hw]
      rfl
  | resumed hx hold =>
    have hf := hsame hold hx.2
    refine ⟨h.1, h.2, h.3, fun _ => ⟨hx.1, hcur.trans hf.symm, le_rfl, frame, _, hf, rfl, .inl ?_⟩⟩
    rw [encapsulatedLength_of_wellSized hw]
    rfl

end Timing

theorem isNewFrame_eq_false {frame : Packet} :
    s.isNewFrame frame = false ↔ ∃ f ∈ s.currentPreemptableFrame, f.name = frame.name := by
  unfold isNewFrame
  cases s.currentPreemptableFrame with
  | none => exact ⟨nofun, fun ⟨f, hf, _⟩ => by cases hf⟩
  | some f => simp

/-- what comes after a gap, a pause or a release -/
theorem nextFrame_timing (h : Timing cfg s)
    (hp : s.transmittingPreemptableFrame = false)
    (hn : (s.getNextFrameFromQueue cfg >>= fun s => s.beginSendFrames cfg) = .ok s') :
    Timing cfg s' := by
  obtain ⟨hc, s1, hnext, ⟨frame, hframe, _, _, _, hstart⟩ | ⟨hnone, rfl⟩⟩ := nextFrame_ok hn
  · cases hnext with
    | stored frame' hw =>
      cases hframe
      obtain ⟨hx, hsize⟩ := h.waiting frame hw
      have hs1 : Timing cfg { s with curTxFrame := some frame, currentExpressFrame := none } :=
        ⟨fun f hf => (Option.some.inj hf) ▸ hsize, nofun, h.3,
          fun hpre => absurd (hp.symm.trans hpre) nofun⟩
      exact hs1.start rfl (fun _ hno => absurd (hx.symm.trans hno) nofun) hstart hp
    | resumed frame' _ hh hf ts =>
      cases hframe
      have hs1 : Timing cfg { s with curTxFrame := some frame, transmissionSelection := ts } :=
        ⟨fun f hf' => (Option.some.inj hf') ▸ (h.current frame hf).2.1, h.2, h.3,
          fun hpre => absurd (hp.symm.trans hpre) nofun⟩
      exact hs1.start rfl (fun _ _ => hf) hstart hp
    | nothing => exact absurd (hc.symm.trans hframe) nofun
  · cases hnext with
    | stored => cases hnone
    | resumed => cases hnone
    | nothing => exact h.of_frames rfl le_rfl

/-- a part has gone out: the whole rest of the frame, a part that leaves enough of it, or one in
which too many bytes are counted -/
inductive SentPart (cfg : MacConfig) (s : EtherMac) (frame : Packet) : EtherMac → Prop
  | last (n : ℕ) (hn : s.preemptedBytesSent + n = frame.byteLength) :
      SentPart cfg s frame { s with
        preemptedBytesSent := frame.byteLength
        currentPreemptableFrame := none
        history := s.history ++ [.preemptedFrame frame frame.byteLength frame.byteLength n] }
  | part (n : ℕ) (h60 : 60 ≤ n) (hrem : s.preemptedBytesSent + n + 60 ≤ frame.byteLength) :
      SentPart cfg s frame { s with
        preemptedBytesSent := s.preemptedBytesSent + n
        history := s.history ++
          [.preemptedFrame frame (s.preemptedBytesSent + n) frame.byteLength n] }
  | exceeds (n : ℕ) (hn : Overrun cfg frame (s.preemptedBytesSent + n)) :
      SentPart cfg s frame { s with
        preemptedBytesSent := s.preemptedBytesSent + n
        history := s.history ++
          [.preemptedFrame frame (s.preemptedBytesSent + n) frame.byteLength n] }

/-- the bytes that a part counts, and its framelet -/
inductive Framelet (cfg : MacConfig) (s : EtherMac) (frame : Packet) (bytes : ℤ) (n : ℕ) : Prop
  /-- the rest of the frame -/
  | last (hsum : s.preemptedBytesSent + n = frame.byteLength)
      (hexact : cfg.bitTime = 1 / cfg.txrate) (hcount : s.bytesUntil cfg s.time = n + 8)
      (hlet : framelet frame s.preemptedBytesSent (uint bytes) = (n, frame.byteLength))
  | part (h60 : 60 ≤ n) (hrem : s.preemptedBytesSent + n + 60 ≤ frame.byteLength)
      (hcount : s.bytesUntil cfg s.time = n + 4)
      (hlet : framelet frame s.preemptedBytesSent (uint bytes) = (n, s.preemptedBytesSent + n))
  /-- the rest of the frame, and a quarter more is counted -/
  | exceeds (hsent : s.preemptedBytesSent ≤ frame.byteLength + 8)
      (hrest : s.bytesUntil cfg s.time =
        (5 * (frame.byteLength + 8 - s.preemptedBytesSent) / 4 : ℕ))
      (hcount : (n : ℤ) = max 0 (s.bytesUntil cfg s.time - 4))
      (hover : Overrun cfg frame (s.preemptedBytesSent + n))
      (hlet : framelet frame s.preemptedBytesSent (uint bytes) = (n, s.preemptedBytesSent + n))

/-- the bytes at the end of a part -/
theorem Timing.framelet_cases (h : Timing cfg s) (ht : s.endTxMsg = some s.time)
    (hp : s.transmittingPreemptableFrame = true) {frame : Packet}
    (hf : s.currentPreemptableFrame = some frame) {bytes : ℤ}
    (hb : s.calculatePreemptedPayloadBytesSent cfg s.time true = .ok bytes) :
    ∃ n, Framelet cfg s frame bytes n := by
  obtain ⟨_, _, _, frame', t, hf', ht', hends⟩ := h.sending hp
  cases hf.symm.trans hf'
  cases ht.symm.trans ht'
  obtain ⟨_, hw, hcounts⟩ := h.current frame hf
  have hmin : 64 ≤ frame.byteLength := hw.1
  have hmax : frame.byteLength ≤ 1526 := hw.2
  have hbytes : bytes = max 0 (s.bytesUntil cfg s.time - 4) :=
    calculatePreemptedPayloadBytesSent_ok hp hb
  have hbound : bytes ≤ frame.byteLength + 8 := calculatePreemptedPayloadBytesSent_le hp hf hb
  obtain ⟨n, hn⟩ : ∃ n : ℕ, bytes = n := ⟨bytes.toNat, by omega⟩
  obtain hrest | ⟨h64, hrem⟩ := hends.bytes
  swap
  · refine ⟨n, .part (by omega) (by omega) (by omega) ?_⟩
    rw [hn, uint_natCast (by omega)]
    exact framelet_part hmax (by omega)
  by_cases hexact : cfg.bitTime = 1 / cfg.txrate
  · have hsent := hcounts.lt hexact
    rw [counted_of_exact hexact, remaining_of_le hw (by omega)] at hrest
    refine ⟨n - 4, .last (by omega) hexact (by omega) ?_⟩
    rw [hn, uint_natCast (by omega)]
    exact framelet_last hmax (by omega) (by omega)
  · have hsent : s.preemptedBytesSent ≤ frame.byteLength + 8 := by
      by_contra hgt
      -- the rest wraps around, and so many bytes are an error
      have hwrap := le_remaining_of_lt hw (not_le.mp hgt) hcounts.le
      have hcounted := le_counted cfg (remaining frame s.preemptedBytesSent)
      omega
    rw [counted_of_cut hexact, remaining_of_le hw hsent] at hrest
    have hover : Overrun cfg frame (s.preemptedBytesSent + n) := by
      obtain hlt | ho := hcounts
      · exact ⟨hexact, by omega, by omega⟩
      · have hmore := ho.more
        exact ⟨hexact, by omega, by omega⟩
    refine ⟨n, .exceeds hsent hrest (by omega) hover ?_⟩
    rw [hn, uint_natCast (by omega)]
    exact framelet_over hmax hover.more hover.bound

theorem sendPreemptedFrame_cases (h : Timing cfg s) (ht : s.endTxMsg = some s.time)
    (hp : s.transmittingPreemptableFrame = true)
    (hs : { s with endTxMsg := none }.sendPreemptedFrame cfg = .ok s') :
    ∃ frame, s.currentPreemptableFrame = some frame ∧
      SentPart cfg { s with endTxMsg := none } frame s' := by
  obtain ⟨frame, bytes, hf, hbytes, rfl⟩ := sendPreemptedFrame_ok hs
  have hf : s.currentPreemptableFrame = some frame := hf
  refine ⟨frame, hf, ?_⟩
  obtain ⟨n, hcase⟩ := h.framelet_cases ht hp hf hbytes
  cases hcase with
  | last hsum _ _ hlet =>
    rw [hlet]
    dsimp only
    rw [if_pos rfl]
    exact .last n hsum
  | part h60 hrem _ hlet =>
    rw [hlet]
    dsimp only
    rw [if_neg (by omega), ← hf]
    exact .part n h60 hrem
  | exceeds _ _ _ hover hlet =>
    have hmore := hover.more
    rw [hlet]
    dsimp only
    rw [if_neg (by omega), ← hf]
    exact .exceeds n hover

/-- the frame in transmission is gone -/
theorem Timing.finish (h : Timing cfg { s with curTxFrame := none })
    (hf : s.finishTransmission cfg = .ok s') : Timing cfg s' := by
  obtain ⟨_, frame, _, ⟨t, rfl⟩ | ⟨t, rfl⟩⟩ := finishTransmission_ok hf
  · exact h.of_frames rfl le_rfl
  · exact h.of_frames rfl le_rfl

theorem handleEndTxPeriod_timing (h : Timing cfg s) (ht : s.endTxMsg = some s.time)
    (hs : { s with endTxMsg := none }.handleEndTxPeriod cfg = .ok s') : Timing cfg s' := by
  unfold handleEndTxPeriod at hs
  split at hs
  · rename_i hp
    have hp : cfg.enablePreemptingFrames = true ∧ s.transmittingPreemptableFrame = true := by
      simpa using hp
    obtain ⟨m, hm, hs⟩ := bind_ok.mp hs
    obtain ⟨frame, hf, hpart⟩ := sendPreemptedFrame_cases h ht hp.2 hm
    obtain ⟨hx, hw, hsent⟩ := h.current frame hf
    cases hpart with
    | last n hn =>
      refine Timing.finish ?_ hs
      exact ⟨nofun, h.2, nofun, nofun⟩
    | part n h60 hrem =>
      refine Timing.finish ?_ hs
      refine ⟨nofun, h.2, fun f hf' => ?_, nofun⟩
      cases hf.symm.trans hf'
      have hrem : s.preemptedBytesSent + n + 60 ≤ frame.byteLength := hrem
      refine ⟨hx, hw, .inl ?_⟩
      show s.preemptedBytesSent + n < _
      omega
    | exceeds n hn =>
      refine Timing.finish ?_ hs
      refine ⟨nofun, h.2, fun f hf' => ?_, nofun⟩
      cases hf.symm.trans hf'
      exact ⟨hx, hw, .inr hn⟩
  · split at hs
    · cases hs
    · refine Timing.finish ?_ hs
      exact ⟨nofun, h.2, h.3, nofun⟩

theorem ArrivalStep.timing (h : Timing cfg s) (hshape : s.Shape) {packet : Packet}
    (hd : s.Distinct packet) (hw : WellSized packet)
    (ha : ArrivalStep cfg { s with history := s.history ++ [MacRecord.accepted packet] } packet s') :
    Timing cfg s' := by
  have hacc : ∀ cur, (∀ frame ∈ cur, WellSized frame) → s.transmittingPreemptableFrame = false →
      Timing cfg { s with
        history := s.history ++ [MacRecord.accepted packet]
        curTxFrame := cur } :=
    fun cur hc hp => ⟨hc, h.2, h.3, fun hpre => absurd (hp.symm.trans hpre) nofun⟩
  have hsome : ∀ frame ∈ some packet, WellSized frame := fun f hf => (Option.some.inj hf) ▸ hw
  -- a frame that is put aside on hold
  have haside : s.transmittingPreemptableFrame = false → Timing cfg ({ s with
      history := s.history ++ [MacRecord.accepted packet]
      curTxFrame := some packet }.storeOnHold packet) := by
    intro hp
    unfold storeOnHold
    split
    · rename_i hstore
      have hstore : (s.onHold = true ∧ packet.express = false) ∧
          s.currentPreemptableFrame = none := by simpa using hstore
      obtain ⟨⟨hhold, hpx⟩, hnone⟩ := hstore
      refine ⟨nofun, h.2, fun f hf => ?_, fun hpre => absurd (hp.symm.trans hpre) nofun⟩
      cases hf
      exact ⟨hpx, hw, .inl ((hd hpx).2 hhold hnone)⟩
    · exact hacc _ hsome hp
  cases ha with
  | preempting he hp hpre =>
    have hsaved : Timing cfg { s with
        history := s.history ++ [MacRecord.accepted packet]
        currentExpressFrame := some packet } :=
      ⟨h.1, fun f hf => (Option.some.inj hf) ▸ ⟨he, hw⟩, h.3,
        fun hp => ⟨(h.sending hp).1, (h.sending hp).2, (h.sending hp).3, (h.sending hp).4⟩⟩
    exact hsaved.preempt hpre
  | inGap he hs =>
    obtain ⟨_, hp⟩ := hshape.flags (by rw [show s.transmitState = _ from hs]; nofun)
    exact ⟨h.1, fun f hf => (Option.some.inj hf) ▸ ⟨he, hw⟩, h.3,
      fun hpre => absurd (hp.symm.trans hpre) nofun⟩
  | paused hs =>
    obtain ⟨_, hp⟩ := hshape.flags (by rw [show s.transmitState = _ from hs]; nofun)
    exact haside hp
  | sent hs hstart =>
    have hs : s.transmitState = .TX_IDLE_STATE := hs
    obtain ⟨_, hp⟩ := hshape.flags (by rw [hs]; nofun)
    obtain ⟨frame, hframe, _, _, _, hst⟩ := startFrameTransmission_ok hstart
    unfold storeOnHold at hframe hst
    split at hframe
    · cases hframe
    · rename_i hstore
      rw [if_neg hstore] at hst
      cases hframe
      refine (hacc _ hsome hp).start rfl (fun hold hpx => ?_) hst hp
      -- a stored frame has another name
      obtain ⟨f, hf, hname⟩ := isNewFrame_eq_false.mp hold
      exact absurd hname ((hd hpx).1 hs f hf)
  | stray he hs hx hp =>
    have hp : s.transmittingPreemptableFrame = false := hp
    exact hacc _ hsome hp

/-- when the frames that come in are distinct from the stored one, a step keeps the times -/
theorem timing_step (h : Timing cfg s) (hshape : s.Shape) {e : MacEvent}
    (hd : ∀ packet, cfg.connected = true ∧ cfg.disabled = false → WellSized packet →
      s.Delivers e packet → s.Distinct packet) (hs : s.step cfg e = .ok s') : Timing cfg s' := by
  cases step_change hshape hs with
  | quiet hc ht _ => exact h.of_frames hc ht
  | next hm ht _ _ hp hn => exact nextFrame_timing (h.of_frames hm ht.ge) hp hn
  | endTx hd ht => exact handleEndTxPeriod_timing h hd ht
  | preempt hm ht _ hp => exact (h.of_frames hm ht.ge).preempt hp
  | @arrive m t packet hm ht _ hh hup hw he ha =>
    have hdist := hd packet hup hw he
    refine ArrivalStep.timing (h.of_frames (frames_of_core hm) ht.ge) (hshape.of_core hm) ?_ hw ha
    have hm1 : m.core.transmitState = s.core.transmitState := congrArg transmitState hm
    have hm2 : m.core.currentPreemptableFrame = s.core.currentPreemptableFrame :=
      congrArg currentPreemptableFrame hm
    have hm3 : m.core.preemptedBytesSent = s.core.preemptedBytesSent :=
      congrArg preemptedBytesSent hm
    unfold Distinct at hdist ⊢
    rw [show m.transmitState = s.transmitState from hm1, show m.currentPreemptableFrame = _ from hm2,
      show m.preemptedBytesSent = _ from hm3, hh]
    exact hdist

end EtherMac

end Nesting
