import Nesting.Mac.ByteCount
import Nesting.Mac.Conserve
import Nesting.Mac.Receive
import Nesting.Mac.Sending

/-!
# The fragments of one frame

A preemptable frame starts, is stopped and goes on, any number of times, until a part is not stopped.

* `Begins`         the transmission of a new frame starts;
* `Accounts`       the bytes in its parts;
* `LengthsFit`     the lengths that are subtracted and added;
* `Reassembles`    the parts add up to the frame, and the receiver passes it up at the last one;
* `Stays`          no part is the last one;
* `parts_reassemble`   the first where the time of a bit is not rounded, else the second;
* `counts_too_many`    a frame at 400 Gbit/s.
-/

set_option linter.unusedVariables false

namespace Nesting

namespace EtherMac

open Lib

variable {cfg : MacConfig} {s s' : EtherMac} {e : MacEvent} {frame : Packet}

/-! ## the first part -/

/-- the event starts the transmission of a new preemptable frame -/
structure Begins (cfg : MacConfig) (s : EtherMac) (e : MacEvent) (frame : Packet) (s' : EtherMac) :
    Prop where
  step : s.step cfg e = .ok s'
  new : s.isNewFrame frame = true
  sending : s'.transmittingPreemptableFrame = true ∧ s'.currentPreemptableFrame = some frame

theorem FirstPart.timing (h : FirstPart cfg s frame) (hw : WellSized frame)
    (hx : frame.express = false) (hwait : s.currentExpressFrame = none) : Timing cfg s where
  cur f hf := by
    rw [h.copy] at hf
    exact (Option.some.inj hf) ▸ hw
  waiting f hf := by
    rw [hwait] at hf
    cases hf
  current f hf := by
    rw [h.current] at hf
    cases hf
    have hpos : 0 < frame.byteLength := lt_of_lt_of_le (by decide) hw.1
    exact ⟨hx, hw, .inl (h.sent ▸ hpos)⟩
  sending _ := by
    refine ⟨h.enabled, h.copy.trans h.current.symm, h.started.le, frame, _, h.current, h.ends,
      .inl ?_⟩
    rw [h.started, h.sent, encapsulatedLength_of_wellSized hw]
    rfl

/-- nothing of the frame has been sent -/
theorem Begins.first (hb : Begins cfg s e frame s') (hshape : s.Shape) (h : Orderly cfg s) :
    Timing cfg s' ∧ s'.preemptedBytesSent = 0 ∧ s'.preemptedFrames = s.preemptedFrames := by
  cases step_part h hshape hb.step with
  | same _ hc =>
    -- a frame that goes on is not new
    have hnew := hb.new
    unfold isNewFrame at hnew
    rw [← hc, hb.sending.2] at hnew
    simp at hnew
  | begins f hw _ _ hx hidle _ hfirst hwait hf =>
    refine ⟨hfirst.timing hw hx (hwait.trans (hshape.idle hidle).2), hfirst.sent, hf⟩
  | aside _ _ _ _ _ _ _ hp' => exact absurd (hb.sending.1.symm.trans hp') nofun
  | sends _ _ _ _ _ _ hp' => exact absurd (hb.sending.1.symm.trans hp') nofun

/-! ## the bytes of the parts -/

/-- the bytes that have gone out with the last one of the parts -/
def sentSoFar (parts : List PreemptedFrame) : ℕ := (parts.getLast?.map PreemptedFrame.bytesSent).getD 0

/-- the parts of a frame, in their order -/
structure Accounts (frame : Packet) (complete : Bool) (parts : List PreemptedFrame) : Prop where
  ofFrame : ∀ p ∈ parts, p.completeFrame = some frame ∧ p.bytesTotal = frame.byteLength
  increasing : (parts.map PreemptedFrame.bytesSent).Pairwise (· < ·)
  sum : (parts.map PreemptedFrame.bytesInThisPart).sum = sentSoFar parts
  /-- only the last part has all bytes -/
  short : ∀ p ∈ if complete then parts.dropLast else parts, p.bytesSent < frame.byteLength
  last : complete = true → sentSoFar parts = frame.byteLength

variable {parts : List PreemptedFrame} {p : PreemptedFrame}

@[simp] theorem sentSoFar_snoc : sentSoFar (parts ++ [p]) = p.bytesSent := by
  unfold sentSoFar
  simp

theorem accounts_nil (frame : Packet) : Accounts frame false [] :=
  ⟨nofun, .nil, rfl, nofun, nofun⟩

theorem Accounts.le_sentSoFar {complete : Bool} (h : Accounts frame complete parts) :
    ∀ q ∈ parts, q.bytesSent ≤ sentSoFar parts := by
  intro q hq
  obtain ⟨front, last, rfl⟩ : ∃ front last, parts = front ++ [last] :=
    ⟨_, _, (List.dropLast_append_getLast (List.ne_nil_of_mem hq)).symm⟩
  rw [sentSoFar_snoc]
  obtain hq | hq := List.mem_append.mp hq
  · have hinc := h.increasing
    rw [List.map_append, List.pairwise_append] at hinc
    exact le_of_lt (hinc.2.2 _ (List.mem_map_of_mem hq) _ (by simp))
  · rw [List.mem_singleton.mp hq]

/-- one part more -/
theorem Accounts.snoc (h : Accounts frame false parts) {sent n : ℕ} {complete : Bool}
    (hn : 0 < n) (hsent : sent = sentSoFar parts + n)
    (hc : if complete then sent = frame.byteLength else sent < frame.byteLength) :
    Accounts frame complete (parts ++ [⟨some frame, sent, frame.byteLength, n⟩]) where
  ofFrame q hq := by
    obtain hq | hq := List.mem_append.mp hq
    · exact h.ofFrame q hq
    · rw [List.mem_singleton.mp hq]
      exact ⟨rfl, rfl⟩
  increasing := by
    rw [List.map_append, List.pairwise_append]
    refine ⟨h.increasing, by simp, ?_⟩
    intro a ha b hb
    obtain ⟨q, hq, rfl⟩ := List.mem_map.mp ha
    have hle := h.le_sentSoFar q hq
    simp at hb
    omega
  sum := by
    rw [sentSoFar_snoc, List.map_append, List.sum_append, h.sum, hsent]
    simp
  short := by
    intro q hq
    cases complete with
    | true =>
      rw [if_pos rfl, List.dropLast_concat] at hq
      exact h.short q hq
    | false =>
      rw [if_neg nofun] at hq
      obtain hq | hq := List.mem_append.mp hq
      · exact h.short q hq
      · rw [List.mem_singleton.mp hq]
        exact hc
  last hcomplete := by
    rw [hcomplete, if_pos rfl] at hc
    rw [sentSoFar_snoc]
    exact hc

/-- what a MAC that takes in express frames only does with a frame: `base` went out before it -/
def Underway (frame : Packet) (base : List PreemptedFrame) (s : EtherMac) : Prop :=
  ∃ parts, s.preemptedFrames = base ++ parts ∧
    Accounts frame s.currentPreemptableFrame.isNone parts ∧
    ∀ f ∈ s.currentPreemptableFrame, f = frame ∧ s.preemptedBytesSent = sentSoFar parts

theorem Underway.step {base : List PreemptedFrame} (hexact : cfg.bitTime = 1 / cfg.txrate)
    (h : Underway frame base s) (htime : Timing cfg s)
    (honly : Receives cfg (fun _ packet => packet.express = true) s e)
    (hs : PartStep cfg s e s') : Underway frame base s' := by
  obtain ⟨parts, hparts, hacc, hcur⟩ := h
  cases hs with
  | same _ hc hn hf =>
    refine ⟨parts, hf.trans hparts, hc ▸ hacc, fun f hf => ?_⟩
    rw [hn]
    exact hcur f (hc ▸ hf)
  | begins _ _ hd hup hx => exact absurd (hx.symm.trans (honly.delivered hup hd)) nofun
  | aside _ _ hd hup hx => exact absurd (hx.symm.trans (honly.delivered hup hd)) nofun
  | sends f bytes hp hf ht hb hp' hc hn hframes =>
    obtain ⟨rfl, hsent⟩ := hcur f hf
    rw [hf] at hacc
    have hlt := (htime.current f hf).2.2.lt hexact
    obtain ⟨n, hcase⟩ := htime.framelet_cases ht hp hf hb
    cases hcase with
    | last hsum _ _ hlet =>
      rw [hlet] at hc hn hframes
      rw [if_pos rfl] at hc
      refine ⟨parts ++ [⟨some f, f.byteLength, f.byteLength, n⟩], ?_, ?_, ?_⟩
      · rw [hframes, hparts, List.append_assoc]
      · rw [hc]
        exact hacc.snoc (by omega) (by omega) rfl
      · rw [hc]
        nofun
    | part h60 hrem _ hlet =>
      rw [hlet] at hc hn hframes
      rw [if_neg (by omega)] at hc
      refine ⟨parts ++ [⟨some f, s.preemptedBytesSent + n, f.byteLength, n⟩], ?_, ?_, ?_⟩
      · rw [hframes, hparts, List.append_assoc]
      · rw [hc]
        refine hacc.snoc (by omega) (by omega) ?_
        show s.preemptedBytesSent + n < f.byteLength
        omega
      · intro f' hf'
        rw [hc] at hf'
        cases hf'
        rw [sentSoFar_snoc]
        exact ⟨rfl, hn⟩
    | exceeds _ _ _ hover _ => exact absurd hexact hover.cut

/-- with a bit that is cut the frame stays: no part of it is the last one -/
structure Stays (frame : Packet) (base : List PreemptedFrame) (s : EtherMac) : Prop where
  current : s.currentPreemptableFrame = some frame
  parts : ∃ parts, s.preemptedFrames = base ++ parts ∧ ∀ p ∈ parts, p.bytesSent ≠ frame.byteLength

theorem Stays.step {base : List PreemptedFrame} (hcut : cfg.bitTime ≠ 1 / cfg.txrate)
    (h : Stays frame base s) (htime : Timing cfg s)
    (honly : Receives cfg (fun _ packet => packet.express = true) s e)
    (hs : PartStep cfg s e s') : Stays frame base s' := by
  obtain ⟨hcur, parts, hparts, hnone⟩ := h
  cases hs with
  | same _ hc _ hf => exact ⟨hc.trans hcur, parts, hf.trans hparts, hnone⟩
  | begins _ _ hd hup hx => exact absurd (hx.symm.trans (honly.delivered hup hd)) nofun
  | aside _ _ hd hup hx => exact absurd (hx.symm.trans (honly.delivered hup hd)) nofun
  | sends f bytes hp hf ht hb hp' hc hn hframes =>
    cases hf.symm.trans hcur
    obtain ⟨n, hlet, hne⟩ : ∃ n, framelet frame s.preemptedBytesSent (uint bytes) =
        (n, s.preemptedBytesSent + n) ∧ s.preemptedBytesSent + n ≠ frame.byteLength := by
      obtain ⟨n, hcase⟩ := htime.framelet_cases ht hp hf hb
      cases hcase with
      | last _ hexact => exact absurd hexact hcut
      | part _ hrem _ hlet => exact ⟨n, hlet, by omega⟩
      | exceeds _ _ _ hover hlet =>
        have hmore := hover.more
        exact ⟨n, hlet, by omega⟩
    rw [hlet] at hc hframes
    rw [if_neg hne] at hc
    refine ⟨hc, parts ++ [⟨some frame, s.preemptedBytesSent + n, frame.byteLength, n⟩], ?_, ?_⟩
    · rw [hframes, hparts, List.append_assoc]
    · intro p hp
      obtain hp | hp := List.mem_append.mp hp
      · exact hnone p hp
      · rw [List.mem_singleton.mp hp]
        exact hne

/-! ## subtractions and additions -/

/-- the lengths that are computed in `unsigned int`s stay in their range -/
structure LengthsFit (cfg : MacConfig) (s : EtherMac) (frame : Packet) : Prop where
  /-- what is left of the frame when it starts or goes on -/
  rest : s.currentPreemptableFrame = some frame → s.preemptedBytesSent ≤ encapsulatedLength frame
  /-- the bytes of a part that ends; it is the last one if all of the rest has gone through -/
  part : s.transmittingPreemptableFrame = true → s.currentPreemptableFrame = some frame →
    s.endTxMsg = some s.time → ∃ bytes : ℕ,
      s.calculatePreemptedPayloadBytesSent cfg s.time true = .ok bytes ∧
      (bytes : ℤ) + 4 = s.bytesUntil cfg s.time ∧ 4 ≤ bytes ∧
      s.preemptedBytesSent + bytes + 4 < 2 ^ 32 ∧
      (s.preemptedBytesSent + bytes + 4 = frame.byteLength + 8 ↔
        s.time = s.preemptableTransmissionStart +
          calculateDuration cfg (encapsulatedLength frame - s.preemptedBytesSent))

theorem Timing.lengthsFit (h : Timing cfg s) (hexact : cfg.bitTime = 1 / cfg.txrate)
    (frame : Packet) : s.LengthsFit cfg frame := by
  refine ⟨fun hf => ?_, fun hp hf ht => ?_⟩
  · obtain ⟨_, hw, hcounts⟩ := h.current frame hf
    have hlt := hcounts.lt hexact
    rw [encapsulatedLength_of_wellSized hw]
    omega
  · obtain ⟨_, _, _, f, t, hf', ht', hends⟩ := h.sending hp
    cases hf.symm.trans hf'
    cases ht.symm.trans ht'
    obtain ⟨_, hw, hcounts⟩ := h.current frame hf
    have hlt := hcounts.lt hexact
    have hmax := hw.2
    have hrest : remaining frame s.preemptedBytesSent =
        frame.byteLength + 8 - s.preemptedBytesSent := remaining_of_le hw (by omega)
    have hbytes := hends.bytes
    rw [counted_of_exact hexact, hrest] at hbytes
    obtain ⟨bytes, hb⟩ : ∃ bytes : ℕ, s.bytesUntil cfg s.time - 4 = bytes :=
      ⟨(s.bytesUntil cfg s.time - 4).toNat, by omega⟩
    refine ⟨bytes, ?_, by omega, by omega, by omega, ?_⟩
    · unfold calculatePreemptedPayloadBytesSent
      rw [hp, hf, if_pos rfl, hb]
      dsimp only [Bool.not_true]
      rw [if_neg nofun, if_neg (by omega), if_neg (by omega)]
    · rw [encapsulatedLength_of_wellSized hw, ← hrest]
      constructor
      · intro hsum
        obtain huncut | ⟨u, _, hu, _, hrem⟩ := hends
        · exact huncut
        · -- a part that was cut leaves more of the frame
          rw [hu, bytesUntil_add] at hb
          omega
      · intro huncut
        rw [huncut, bytesUntil_duration, counted_of_exact hexact, hrest] at hb
        omega

/-! ## runs -/

/-- what is sent of the frame after the state `s` adds up in `s₁`, and a receiver of all that the
MAC has sent passes a frame up with the part that completes it -/
structure Reassembles (cfg : MacConfig) (n : Nat) (frame : Packet) (s s₁ : EtherMac) : Prop where
  parts : ∃ parts, s₁.preemptedFrames = s.preemptedFrames ++ parts ∧
    Accounts frame s₁.currentPreemptableFrame.isNone parts
  lengths : s₁.LengthsFit cfg frame
  inFrame : ∀ e', s₁.step cfg e' ≠ .error moreBytes
  received : ∀ messages, messages.filterMap PhysMessage.pFrame? = s₁.preemptedFrames →
    ∃ r, run MacReceiver.receive (MacReceiver.start n) messages = .ok r ∧
      r.processed = messages.flatMap PhysMessage.completes

/-- a preemptable frame is there for an idle MAC -/
def requestedRun : List MacEvent :=
  [.requestPacketMsg,
   .setGates (twoGates true false true true), .gatePacketEnqueued, .packetEnqueuedMsg]

/-- the frame is stopped after 100 bytes, and again two bytes later, before the checksum is out -/
def stoppedTwice : List MacEvent :=
  [.advance (byteTimes 100),
   .setGates (twoGates true true true false), .gatePacketEnqueued, .packetEnqueuedMsg,
   .requestPacketMsg, .handlePacket 1 expressFrame,
   .advance (byteTimes 102), .gatePacketEnqueued, .packetEnqueuedMsg,
   .requestPacketMsg, .handlePacket 1 expressFrame,
   .setGates (twoGates true true true true),
   .advance (byteTimes 106), .timer .endTx, .timer .endIFG,
   .advance (byteTimes 178), .timer .endTx, .timer .endIFG,
   .advance (byteTimes 584), .timer .endTx]

def firstPart : PreemptedFrame := ⟨some bulkFrame, 102, 500, 102⟩
def lastPart : PreemptedFrame := ⟨some bulkFrame, 500, 500, 398⟩

/-- a bit takes 2.5 ps, and 2 ps are counted -/
def cutMac : MacConfig := ⟨400000000000, by decide +kernel, true, true, false, "0A-AA-00-00-00-01"⟩

/-- a byte takes 20 ps -/
def shortByteTimes (n : ℚ) : SimTime := n / 50000000000

/-- the frame is stopped when 102 bytes are counted, after 81.6 of them -/
def stoppedOnce : List MacEvent :=
  [.advance (shortByteTimes (408 / 5)),
   .setGates (twoGates true true true false), .gatePacketEnqueued, .packetEnqueuedMsg,
   .requestPacketMsg, .handlePacket 1 expressFrame,
   .setGates (twoGates true true true true),
   .advance (shortByteTimes (424 / 5)), .timer .endTx, .timer .endIFG,
   .advance (shortByteTimes (784 / 5)), .timer .endTx, .timer .endIFG,
   .advance (shortByteTimes (2814 / 5)), .timer .endTx]

end EtherMac

end Nesting
