import Nesting.Queue.Column
import Nesting.Queue.ShaperSteps

/-!
# What the messages and timers of a column do

For every message that may fail, or that asks the shaper, what it leaves.
-/

set_option linter.unusedVariables false

namespace Nesting

open Lib

namespace Column

variable {cfg : ShaperConfig} {now : SimTime} {onHold notify : Bool} {c c' : Column}

theorem withShaper_ok {r : Sim (CreditBasedShaper × Bool)} (h : c.withShaper r = .ok c') :
    ∃ s notify, r = .ok (s, notify) ∧ c' = { c with
      shaper := some s
      messages := if notify = true then post .gatePacketEnqueued c.messages else c.messages } := by
  obtain ⟨⟨s, notify⟩, hr, h⟩ := bind_ok.mp h
  cases h
  exact ⟨s, notify, hr, rfl⟩

theorem gateRequest_ok (h : c.handleMessage cfg now onHold .gateRequest = .ok (c', notify)) :
    c.isEmpty onHold = false ∧ c.algorithmEmpty = false ∧ notify = false ∧ c' = { c with
      maxTransmittableBits := c.maxTransferableBits
      messages := post .requestPacketMsg c.messages } := by
  obtain ⟨_, hg, h⟩ := bind_ok.mp h
  obtain ⟨_, ha, h⟩ := bind_ok.mp h
  cases h
  exact ⟨Bool.not_eq_true' _ |>.mp (ASSERT_ok.mp hg), Bool.not_eq_true' _ |>.mp (ASSERT_ok.mp ha),
    rfl, rfl⟩

theorem gateStateChangedMsg_ok
    (h : c.handleMessage cfg now onHold .gateStateChangedMsg = .ok (c', notify)) : notify = false ∧
    ((c.shaper = none ∧ c' = c) ∨ ∃ s s', c.shaper = some s ∧
      s.handleGateStateChangedEvent cfg now c.gateOpen c.ready = .ok s' ∧
      c' = { c with shaper := some s' }) := by
  rw [handleMessage] at h
  cases hs : c.shaper with
  | none =>
    rw [hs] at h
    cases h
    exact ⟨rfl, .inl ⟨rfl, rfl⟩⟩
  | some s =>
    rw [hs] at h
    obtain ⟨s', hs', h⟩ := bind_ok.mp h
    cases h
    exact ⟨rfl, .inr ⟨s, s', rfl, hs', rfl⟩⟩

theorem packetEnqueuedMsg_ok
    (h : c.handleMessage cfg now onHold .packetEnqueuedMsg = .ok (c', notify)) : notify = false ∧
    ((c.shaper = none ∧ c' = { c with messages := post .gatePacketEnqueued c.messages }) ∨
    ∃ s s' notified, c.shaper = some s ∧
      s.handlePacketEnqueuedEvent now c.gateOpen c.ready = .ok (s', notified) ∧
      c' = { c with
        shaper := some s'
        messages := if notified = true then post .gatePacketEnqueued c.messages
          else c.messages }) := by
  rw [handleMessage] at h
  cases hs : c.shaper with
  | none =>
    rw [hs] at h
    cases h
    exact ⟨rfl, .inl ⟨rfl, rfl⟩⟩
  | some s =>
    rw [hs] at h
    obtain ⟨c1, h1, h⟩ := bind_ok.mp h
    cases h
    obtain ⟨s', notified, hs', rfl⟩ := withShaper_ok h1
    exact ⟨rfl, .inr ⟨s, s', notified, rfl, hs', rfl⟩⟩

theorem queueRequest_ok (h : c.handleMessage cfg now onHold .queueRequest = .ok (c', notify)) :
    notify = false ∧ ∃ packet packets capacity, c.packets = packet :: packets ∧ c' = { c with
      packets := packets
      availableBufferCapacity := capacity
      messages := c.messages ++ [.packet packet] } := by
  obtain ⟨c1, h1, h⟩ := bind_ok.mp h
  cases h
  obtain ⟨⟨_, q⟩, _, h1⟩ := bind_ok.mp h1
  cases hp : c.packets with
  | nil =>
    rw [hp] at h1
    cases h1
  | cons packet packets =>
    rw [hp] at h1
    cases h1
    exact ⟨rfl, packet, packets, q.availableBufferCapacity, rfl, rfl⟩

theorem packet_ok {packet : Packet}
    (h : c.handleMessage cfg now onHold (.packet packet) = .ok (c', notify)) : notify = false ∧
    ∃ shaper, c' = { c with
      shaper := shaper
      messages := c.messages ++ [.gatePacket packet] } := by
  obtain ⟨c1, h1, h⟩ := bind_ok.mp h
  cases h
  refine ⟨rfl, ?_⟩
  unfold sendPacket at h1
  cases hs : c.shaper with
  | none =>
    rw [hs] at h1
    cases h1
    exact ⟨none, rfl⟩
  | some s =>
    rw [hs] at h1
    obtain ⟨s', _, h1⟩ := bind_ok.mp h1
    cases h1
    exact ⟨some s', rfl⟩

theorem handleEndSpendingCredit_ok (h : c.handleEndSpendingCredit cfg now = .ok c') :
    ∃ s s' notified, c.shaper = some s ∧ s.endSpendingCreditMessage = some now ∧
      { s with endSpendingCreditMessage := none }.handleEndSpendingCreditEvent cfg now c.gateOpen
        c.ready = .ok (s', notified) ∧
      c' = { c with
        shaper := some s'
        messages := if notified = true then post .gatePacketEnqueued c.messages
          else c.messages } := by
  unfold handleEndSpendingCredit at h
  cases hs : c.shaper with
  | none =>
    rw [hs] at h
    cases h
  | some s =>
    rw [hs] at h
    dsimp only at h
    split at h
    · rename_i hdue
      obtain ⟨s', notified, hs', rfl⟩ := withShaper_ok h
      exact ⟨s, s', notified, rfl, hdue, hs', rfl⟩
    · cases h

theorem handleZeroCreditReached_ok (h : c.handleZeroCreditReached cfg now = .ok c') :
    ∃ s s' notified, c.shaper = some s ∧ s.reachedZeroCreditMessage = some now ∧
      { s with reachedZeroCreditMessage := none }.handleZeroCreditReachedEvent cfg now c.gateOpen
        c.ready = .ok (s', notified) ∧
      c' = { c with
        shaper := some s'
        messages := if notified = true then post .gatePacketEnqueued c.messages
          else c.messages } := by
  unfold handleZeroCreditReached at h
  cases hs : c.shaper with
  | none =>
    rw [hs] at h
    cases h
  | some s =>
    rw [hs] at h
    dsimp only at h
    split at h
    · rename_i hdue
      obtain ⟨s', notified, hs', rfl⟩ := withShaper_ok h
      exact ⟨s, s', notified, rfl, hdue, hs', rfl⟩
    · cases h

end Column
end Nesting
