import Mathlib.Data.List.Nodup
import Mathlib.Data.List.Chain
import Nesting.Sender.TrafGenSched

/-!
# The cycles of the scheduled sender

A cycle has one tick for each entry and one at its end.

* `due`, `gap`     when the tick of an index is due in its cycle, and how long after the tick before;
* `tickTime`       the time of the k-th tick, if the idle times can be waited for;
* `At`             the sender after k ticks;
* `Periodic`       each entry is triggered once in each cycle, at its time;
* `Orderly`        the schedules and start times for which it is.
-/

set_option linter.unusedVariables false

namespace Nesting
namespace VlanEtherTrafGenSched

variable {cfg : SenderConfig} {schedule : HostSchedule Ieee8021QCtrl} {s s' : VlanEtherTrafGenSched}

/-- the start of the entry, and the cycle time behind the last one -/
def due (schedule : HostSchedule Ieee8021QCtrl) (j : Nat) : SimTime :=
  match schedule.entries[j]? with
  | some e => e.time
  | none => schedule.cycle

/-- from the tick before to the one of this index -/
def gap (schedule : HostSchedule Ieee8021QCtrl) (j : Nat) : SimTime :=
  if j = 0 then due schedule 0 else due schedule j - due schedule (j - 1)

/-- a multiple of the clock period -/
def Whole (cfg : SenderConfig) (x : SimTime) : Prop := ∃ z : ℤ, x = z * cfg.clockRate

/-- it can be waited for -/
def Fits (cfg : SenderConfig) (idle : SimTime) : Prop :=
  0 ≤ idle ∧ idle / cfg.clockRate < 2 ^ 32

/-- before the stop time -/
def InTime (cfg : SenderConfig) (t : SimTime) : Prop := cfg.stopTime < 0 ∨ t < cfg.stopTime

instance (cfg : SenderConfig) (t : SimTime) : Decidable (InTime cfg t) :=
  inferInstanceAs (Decidable (_ ∨ _))

/-- the packet of the entry is not empty, unless it is not sent any more -/
def Sendable (cfg : SenderConfig) (schedule : HostSchedule Ieee8021QCtrl) (p : Nat × SimTime) :
    Prop :=
  InTime cfg p.2 → ∀ e, schedule.entries[p.1]? = some e → 0 < e.size

/-! ## what is to be -/

/-- **Every entry is triggered exactly once in every cycle, at its time, and nothing else is; no idle
time is negative.** -/
structure Periodic (cfg : SenderConfig) (schedule : HostSchedule Ieee8021QCtrl) : Prop where
  runs : ∀ k, ∃ s, turns cfg schedule k = .ok s
  idle : ∀ k s, turns cfg schedule k = .ok s → ∀ idle ∈ s.idleTimes, 0 ≤ idle
  once : ∀ i e, schedule.entries[i]? = some e → ∀ n : ℕ, ∃ k, ∀ k' s, k ≤ k' →
    turns cfg schedule k' = .ok s →
    s.triggers.count (i, cfg.startTime + n * schedule.cycle + e.time) = 1
  only : ∀ k s, turns cfg schedule k = .ok s → ∀ i t, (i, t) ∈ s.triggers →
    ∃ e, schedule.entries[i]? = some e ∧ ∃ n : ℕ, t = cfg.startTime + n * schedule.cycle + e.time

/-- The entries are in the order of their starts, which are not negative; the first tick is not in
the past, and on a tick of the clock if there is an entry; no wait has 2 ^ 32 clock periods; and no
packet that is sent before the stop time is empty. -/
structure Orderly (cfg : SenderConfig) (schedule : HostSchedule Ieee8021QCtrl) : Prop where
  ascending : (0 :: schedule.entries.map (·.time)).Pairwise (· ≤ ·)
  first : 0 ≤ cfg.startTime + due schedule 0
  whole : schedule.entries ≠ [] → Whole cfg cfg.startTime
  firstShort : (cfg.startTime + due schedule 0) / cfg.clockRate < 2 ^ 32
  short : ∀ j ≤ schedule.size, gap schedule j / cfg.clockRate < 2 ^ 32
  sized : ∀ e ∈ schedule.entries, InTime cfg (cfg.startTime + e.time) → 0 < e.size

/-! ## idle times -/

theorem due_of_lt {j : Nat} (h : j < schedule.size) :
    ∃ e, schedule.entries[j]? = some e ∧ due schedule j = e.time := by
  have he : schedule.entries[j]? = some schedule.entries[j] := List.getElem?_eq_getElem h
  refine ⟨schedule.entries[j], he, ?_⟩
  rw [due, he]

theorem due_of_entry {j : Nat} {e : HostEntry Ieee8021QCtrl} (h : schedule.entries[j]? = some e) :
    due schedule j = e.time := by
  rw [due, h]

theorem due_size : due schedule schedule.size = schedule.cycle := by
  rw [due, HostSchedule.size, List.getElem?_eq_none le_rfl]

theorem getTime_eq {j : Nat} (h : j < schedule.size) : schedule.getTime j = .ok (due schedule j) := by
  obtain ⟨e, he, hdue⟩ := due_of_lt h
  rw [hdue]
  exact map_ok.mpr ⟨e, HostSchedule.entry_ok.mpr he, rfl⟩

/-- **The four cases of the idle time are one.** -/
theorem scheduleNextTickEvent_eq (h : s.indexSchedule ≤ s.currentSchedule.size) :
    s.scheduleNextTickEvent = .ok (gap s.currentSchedule s.indexSchedule) := by
  unfold scheduleNextTickEvent gap
  dsimp only
  by_cases hempty : s.currentSchedule.size = 0
  · have hindex : s.indexSchedule = 0 := by omega
    rw [if_pos hempty, hindex, if_pos rfl]
    exact congrArg _ (due_size.symm.trans (congrArg (due _) hempty))
  rw [if_neg hempty]
  by_cases hlast : s.indexSchedule = s.currentSchedule.size
  · rw [if_pos hlast, if_neg (by omega : ¬s.indexSchedule = 0)]
    refine bind_ok.mpr ⟨_, getTime_eq (by omega), ?_⟩
    rw [hlast, due_size]
    rfl
  rw [if_neg hlast, Nat.mod_eq_of_lt (by omega)]
  by_cases hfirst : s.indexSchedule = 0
  · rw [if_pos hfirst, if_pos hfirst, getTime_eq (by omega), hfirst]
  · rw [if_neg hfirst, if_neg hfirst]
    refine bind_ok.mpr ⟨_, getTime_eq (by omega), bind_ok.mpr ⟨_, getTime_eq (by omega), rfl⟩⟩

theorem Whole.add {x y : SimTime} (hx : Whole cfg x) (hy : Whole cfg y) : Whole cfg (x + y) := by
  obtain ⟨a, rfl⟩ := hx
  obtain ⟨b, rfl⟩ := hy
  exact ⟨a + b, by push_cast; ring⟩

theorem Whole.sub {x y : SimTime} (hx : Whole cfg x) (hy : Whole cfg y) : Whole cfg (x - y) := by
  obtain ⟨a, rfl⟩ := hx
  obtain ⟨b, rfl⟩ := hy
  exact ⟨a - b, by push_cast; ring⟩

theorem Whole.mul {x : SimTime} (hx : Whole cfg x) (n : ℕ) : Whole cfg (n * x) := by
  obtain ⟨a, rfl⟩ := hx
  exact ⟨n * a, by push_cast; ring⟩

/-- the ticks that fit into the idle time -/
def waited (cfg : SenderConfig) (idle : SimTime) : SimTime := ⌊idle / cfg.clockRate⌋₊ * cfg.clockRate

theorem waited_whole (cfg : SenderConfig) (idle : SimTime) : Whole cfg (waited cfg idle) :=
  ⟨⌊idle / cfg.clockRate⌋₊, by rw [waited]; push_cast; rfl⟩

theorem waited_eq {idle : SimTime} (hrate : 0 < cfg.clockRate) (hw : Whole cfg idle)
    (h : 0 ≤ idle) : waited cfg idle = idle := by
  obtain ⟨z, rfl⟩ := hw
  have hz : (0 : ℚ) ≤ z := nonneg_of_mul_nonneg_left h hrate
  have hz : 0 ≤ z := by exact_mod_cast hz
  obtain ⟨n, rfl⟩ := Int.eq_ofNat_of_zero_le hz
  rw [waited, mul_div_cancel_right₀ _ hrate.ne']
  simp

theorem subscribeTick_ok {now idle : SimTime} (hrate : 0 < cfg.clockRate) (h : Fits cfg idle) :
    s.subscribeTick cfg now idle = .ok { s with
      pendingTick := some (now + waited cfg idle)
      idleTimes := s.idleTimes ++ [idle] } := by
  have hpos : 0 ≤ idle / cfg.clockRate := div_nonneg h.1 hrate.le
  have hticks : toUnsigned (idle / cfg.clockRate) = .ok ⌊idle / cfg.clockRate⌋₊ :=
    toUnsigned_ok.mpr ⟨by linarith, h.2, rfl⟩
  exact bind_ok.mpr ⟨_, hticks, rfl⟩

theorem subscribeTick_range {now idle : SimTime} (h : s.subscribeTick cfg now idle = .ok s') :
    idle / cfg.clockRate < 2 ^ 32 ∧ s' = { s with
      pendingTick := some (now + waited cfg idle)
      idleTimes := s.idleTimes ++ [idle] } := by
  obtain ⟨n, hn, h⟩ := bind_ok.mp h
  obtain ⟨_, hlt, rfl⟩ := toUnsigned_ok.mp hn
  cases h
  exact ⟨hlt, rfl⟩

/-! ## the times of the ticks -/

/-- the k-th tick, the cycles starting at this time -/
def tickTime (schedule : HostSchedule Ieee8021QCtrl) (base : SimTime) (k : Nat) : SimTime :=
  base + (k / (schedule.size + 1) : ℕ) * schedule.cycle + due schedule (k % (schedule.size + 1))

/-- what the k-th tick triggers -/
def trigger (schedule : HostSchedule Ieee8021QCtrl) (base : SimTime) (k : Nat) :
    Option (Nat × SimTime) :=
  if k % (schedule.size + 1) < schedule.size then
    some (k % (schedule.size + 1), tickTime schedule base k)
  else none

/-- the next tick is in the same cycle, or the first one of the next cycle -/
theorem next_tick (m k : Nat) :
    (k % (m + 1) < m ∧ (k + 1) % (m + 1) = k % (m + 1) + 1 ∧ (k + 1) / (m + 1) = k / (m + 1)) ∨
    (k % (m + 1) = m ∧ (k + 1) % (m + 1) = 0 ∧ (k + 1) / (m + 1) = k / (m + 1) + 1) := by
  have hk : k % (m + 1) + (m + 1) * (k / (m + 1)) = k := Nat.mod_add_div k (m + 1)
  have hlt : k % (m + 1) < m + 1 := Nat.mod_lt _ m.succ_pos
  by_cases h : k % (m + 1) < m
  · have hnext := (Nat.div_mod_unique (a := k + 1) (b := m + 1) (c := k % (m + 1) + 1)
      (d := k / (m + 1)) m.succ_pos).mpr ⟨by omega, by omega⟩
    exact .inl ⟨h, hnext.2, hnext.1⟩
  · have hlast : k % (m + 1) = m := by omega
    have hnext := (Nat.div_mod_unique (a := k + 1) (b := m + 1) (c := 0) (d := k / (m + 1) + 1)
      m.succ_pos).mpr ⟨by rw [Nat.mul_succ]; omega, m.succ_pos⟩
    exact .inr ⟨hlast, hnext.2, hnext.1⟩

theorem tickTime_succ (base : SimTime) (k : Nat) : tickTime schedule base (k + 1) =
    tickTime schedule base k + gap schedule ((k + 1) % (schedule.size + 1)) := by
  obtain ⟨hin, hmod, hdiv⟩ | ⟨hlast, hmod, hdiv⟩ := next_tick schedule.size k
  · rw [tickTime, tickTime, gap, hmod, hdiv, if_neg (Nat.succ_ne_zero _), Nat.add_sub_cancel]
    ring
  · rw [tickTime, tickTime, gap, hmod, hdiv, if_pos rfl, hlast, due_size]
    push_cast
    ring

/-! ## one tick -/

/-- the idle times of the first ticks -/
def idles (cfg : SenderConfig) (schedule : HostSchedule Ieee8021QCtrl) (k : Nat) : List SimTime :=
  (cfg.startTime + due schedule 0) ::
    (List.range k).map fun l => gap schedule ((l + 1) % (schedule.size + 1))

/-- after k ticks and their messages -/
structure At (cfg : SenderConfig) (schedule : HostSchedule Ieee8021QCtrl) (base : SimTime) (k : Nat)
    (s : VlanEtherTrafGenSched) : Prop where
  current : s.currentSchedule = schedule
  next : s.nextSchedule = none
  index : s.indexSchedule = k % (schedule.size + 1)
  messages : s.sendEvents = []
  pending : s.pendingTick = some (tickTime schedule base k)
  idleTimes : s.idleTimes = idles cfg schedule k
  triggers : s.triggers = (List.range k).filterMap (trigger schedule base)

theorem InTime.mono {t u : SimTime} (h : InTime cfg u) (htu : t ≤ u) : InTime cfg t :=
  h.imp_right fun hu => lt_of_le_of_lt htu hu

theorem Sendable.mono {i : Nat} {t u : SimTime} (h : Sendable cfg schedule (i, t)) (htu : t ≤ u) :
    Sendable cfg schedule (i, u) := fun hin => h (InTime.mono hin htu)

/-- the packet of an entry -/
def packetOf (e : HostEntry Ieee8021QCtrl) (seqNum : Nat) : ScheduledPacket :=
  ⟨e.scheduledObject.destAddress, e.scheduledObject.pcp, e.scheduledObject.de,
    e.scheduledObject.vid, e.scheduledObject.flowId, seqNum, e.size⟩

/-- **The packet of an entry is sent before the stop time**, unless it is empty. -/
theorem sendPacket_eq (cfg : SenderConfig) (now : SimTime) {i : Nat}
    (hcurrent : s.currentSchedule = schedule) (hi : i < schedule.size) :
    ∃ e, schedule.entries[i]? = some e ∧ s.sendPacket cfg now i =
      if InTime cfg now then
        if e.size = 0 then .error (.runtimeError "Error: chunk is empty")
        else .ok { s with
          flowIdSeqNums := Function.update s.flowIdSeqNums e.scheduledObject.flowId
            (s.flowIdSeqNums e.scheduledObject.flowId + 1)
          TSNpacketsSent := s.TSNpacketsSent + 1
          sent := s.sent ++ [(now, packetOf e (s.flowIdSeqNums e.scheduledObject.flowId))] }
      else .ok s := by
  obtain ⟨e, he, _⟩ := due_of_lt hi
  refine ⟨e, he, ?_⟩
  have hentry : s.currentSchedule.entry (i % s.currentSchedule.size) = .ok e := by
    rw [hcurrent, Nat.mod_eq_of_lt hi]
    exact HostSchedule.entry_ok.mpr he
  have hobject : s.currentSchedule.getScheduledObject (i % s.currentSchedule.size) =
      .ok e.scheduledObject := map_ok.mpr ⟨e, hentry, rfl⟩
  have hsize : s.currentSchedule.getSize (i % s.currentSchedule.size) = .ok e.size :=
    map_ok.mpr ⟨e, hentry, rfl⟩
  unfold sendPacket
  rw [hobject, hsize]
  rfl

theorem sendPacket_ok (cfg : SenderConfig) (now : SimTime) {i : Nat}
    (hi : i < s.currentSchedule.size) (hsend : Sendable cfg s.currentSchedule (i, now)) :
    ∃ seqNums n sent, s.sendPacket cfg now i = .ok { s with
      flowIdSeqNums := seqNums
      TSNpacketsSent := n
      sent := sent } := by
  obtain ⟨e, he, heq⟩ := sendPacket_eq cfg now rfl hi
  by_cases hin : InTime cfg now
  · have hsize := hsend hin e he
    rw [if_pos hin, if_neg hsize.ne'] at heq
    exact ⟨_, _, _, heq⟩
  · rw [if_neg hin] at heq
    exact ⟨s.flowIdSeqNums, s.TSNpacketsSent, s.sent, heq⟩

/-- a packet that can be sent is not empty -/
theorem sendable_of_ok {now : SimTime} {i : Nat} (hi : i < s.currentSchedule.size)
    (h : s.sendPacket cfg now i = .ok s') : Sendable cfg s.currentSchedule (i, now) := by
  intro hin e he
  obtain ⟨e', he', heq⟩ := sendPacket_eq cfg now rfl hi
  cases he.symm.trans he'
  rw [if_pos hin, h] at heq
  by_contra hsize
  rw [if_pos (by omega)] at heq
  cases heq

/-- the message of a tick comes and leaves nothing behind -/
theorem sendAll_one {msg : SendEvent} (hs : s.sendEvents = [msg])
    (hi : msg.index < s.currentSchedule.size)
    (hsend : Sendable cfg s.currentSchedule (msg.index, msg.time)) :
    ∃ seqNums n sent, s.sendAll cfg [msg] = .ok { s with
      flowIdSeqNums := seqNums
      TSNpacketsSent := n
      sent := sent
      sendEvents := []
      triggers := s.triggers ++ [(msg.index, msg.time)] } := by
  obtain ⟨seqNums, n, sent, hsent⟩ := sendPacket_ok cfg msg.time hi hsend
  refine ⟨seqNums, n, sent, bind_ok.mpr ⟨_, bind_ok.mpr ⟨_, hsent, rfl⟩, ?_⟩⟩
  show Except.ok { s with
    flowIdSeqNums := seqNums
    TSNpacketsSent := n
    sent := sent
    sendEvents := s.sendEvents.erase msg
    triggers := s.triggers ++ [(msg.index, msg.time)] } = _
  rw [hs, List.erase_cons_head]

/-- the message that the k-th tick makes -/
def messageOf (schedule : HostSchedule Ieee8021QCtrl) (base : SimTime) (k : Nat) : List SendEvent :=
  (trigger schedule base k).toList.map fun p => ⟨p.2, p.1⟩

/-- **A tick makes the message of its entry, and subscribes for the next index.** -/
theorem At.tick {base : SimTime} {k : Nat} (h : At cfg schedule base k s) : s.tick cfg 0 =
    { s with
      sendEvents := messageOf schedule base k
      indexSchedule := (k + 1) % (schedule.size + 1) }.subscribeTick cfg (tickTime schedule base k)
        (gap schedule ((k + 1) % (schedule.size + 1))) := by
  have hload : s.loadNextSchedule = s := by
    rw [loadNextSchedule, h.next]
  have hcurrent := h.current
  rw [VlanEtherTrafGenSched.tick, h.pending]
  dsimp only
  obtain ⟨hin, hmod, _⟩ | ⟨hlast, hmod, _⟩ := next_tick schedule.size k
  · have hmessage : messageOf schedule base k = s.sendEvents ++
        [⟨tickTime schedule base k + 0, s.indexSchedule⟩] := by
      rw [messageOf, trigger, if_pos hin, h.messages, h.index, add_zero]
      rfl
    rw [if_neg (by rw [h.index, hcurrent]; omega), hmessage, hmod, ← h.index]
    have hassert : ASSERT (decide ((0 : SimTime) ≤ 0)) "t >= simTime()" = .ok () :=
      ASSERT_ok.mpr (decide_eq_true le_rfl)
    rw [hassert]
    show (VlanEtherTrafGenSched.scheduleNextTickEvent _ >>= fun next => _) = _
    rw [scheduleNextTickEvent_eq]
    · show subscribeTick cfg _ (gap s.currentSchedule (s.indexSchedule + 1)) _ = _
      rw [hcurrent]
    · show s.indexSchedule + 1 ≤ s.currentSchedule.size
      rw [h.index, hcurrent]
      omega
  · have hmessage : messageOf schedule base k = s.sendEvents := by
      rw [messageOf, trigger, if_neg (by omega), h.messages]
      rfl
    rw [if_pos (by rw [h.index, hcurrent, hlast]), hmessage, hmod, hload]
    rw [scheduleNextTickEvent_eq (Nat.zero_le _)]
    show subscribeTick cfg _ (gap s.currentSchedule 0) _ = _
    rw [hcurrent, h.pending]

/-- the message comes at the time of its tick -/
theorem sendAll_message (cfg : SenderConfig) {base : SimTime} {k : Nat}
    (hs : s.sendEvents = messageOf schedule base k) (hcurrent : s.currentSchedule = schedule)
    (hsend : ∀ p ∈ trigger schedule base k, Sendable cfg schedule p) :
    ∃ seqNums n sent, s.sendAll cfg s.sendEvents = .ok { s with
      flowIdSeqNums := seqNums
      TSNpacketsSent := n
      sent := sent
      sendEvents := []
      triggers := s.triggers ++ (trigger schedule base k).toList } := by
  rw [hs]
  by_cases hin : k % (schedule.size + 1) < schedule.size
  · have htrigger : trigger schedule base k =
        some (k % (schedule.size + 1), tickTime schedule base k) := if_pos hin
    rw [messageOf, htrigger] at hs ⊢
    exact sendAll_one hs (by rw [hcurrent]; exact hin) (by rw [hcurrent]; exact hsend _ htrigger)
  · have htrigger : trigger schedule base k = none := if_neg hin
    rw [messageOf, htrigger] at hs ⊢
    refine ⟨s.flowIdSeqNums, s.TSNpacketsSent, s.sent, ?_⟩
    rw [Option.toList_none, List.append_nil, List.map_nil] at *
    show Except.ok s = _
    rw [← hs]

/-- a message that comes and does not fail has a packet -/
theorem sendable_of_sendAll {base : SimTime} {k : Nat}
    (hs : s.sendEvents = messageOf schedule base k) (hcurrent : s.currentSchedule = schedule)
    (h : s.sendAll cfg s.sendEvents = .ok s') :
    ∀ p ∈ trigger schedule base k, Sendable cfg schedule p := by
  intro p hp
  obtain ⟨hin, heq⟩ := Option.ite_none_right_eq_some.mp hp
  have hmessage : messageOf schedule base k = [⟨p.2, p.1⟩] := by
    rw [messageOf, show trigger schedule base k = some p from hp]
    rfl
  rw [hs, hmessage] at h
  obtain ⟨m, hm, _⟩ := bind_ok.mp h
  obtain ⟨m', hm', _⟩ := bind_ok.mp hm
  rw [← hcurrent]
  refine sendable_of_ok ?_ hm'
  rw [hcurrent, ← Option.some.inj heq]
  exact hin

/-- a tick that can wait for the next one -/
theorem At.turn_ok {base : SimTime} {k : Nat} (hrate : 0 < cfg.clockRate)
    (h : At cfg schedule base k s) (hsend : ∀ p ∈ trigger schedule base k, Sendable cfg schedule p)
    (hfits : Fits cfg (gap schedule ((k + 1) % (schedule.size + 1))))
    (hwhole : Whole cfg (gap schedule ((k + 1) % (schedule.size + 1)))) :
    ∃ s', s.turn cfg = .ok s' ∧ At cfg schedule base (k + 1) s' := by
  have htick := h.tick.trans (subscribeTick_ok hrate hfits)
  rw [waited_eq hrate hwhole hfits.1, ← tickTime_succ] at htick
  obtain ⟨seqNums, n, sent, hsent⟩ := sendAll_message cfg (s := { s with
      sendEvents := messageOf schedule base k
      indexSchedule := (k + 1) % (schedule.size + 1)
      pendingTick := some (tickTime schedule base (k + 1))
      idleTimes := s.idleTimes ++ [gap schedule ((k + 1) % (schedule.size + 1))] })
    (show _ = messageOf schedule base k from rfl) h.current hsend
  refine ⟨_, bind_ok.mpr ⟨_, htick, hsent⟩, h.current, h.next, rfl, rfl, rfl, ?_, ?_⟩
  · show s.idleTimes ++ _ = _
    rw [h.idleTimes, idles, idles, List.range_succ, List.map_append]
    rfl
  · show s.triggers ++ _ = _
    rw [h.triggers, List.range_succ, List.filterMap_append]
    cases ht : trigger schedule base k with
    | none => rw [List.filterMap_cons_none ht]; rfl
    | some p => rw [List.filterMap_cons_some ht]; rfl

/-- a tick that succeeds has subscribed, and its packet is sent -/
theorem At.turn_range {base : SimTime} {k : Nat} (h : At cfg schedule base k s)
    (hturn : s.turn cfg = .ok s') :
    gap schedule ((k + 1) % (schedule.size + 1)) / cfg.clockRate < 2 ^ 32 ∧
      gap schedule ((k + 1) % (schedule.size + 1)) ∈ s'.idleTimes ∧
      ∀ p ∈ trigger schedule base k, Sendable cfg schedule p := by
  obtain ⟨m, hm, hturn⟩ := bind_ok.mp hturn
  rw [h.tick] at hm
  obtain ⟨hrange, hm⟩ := subscribeTick_range hm
  have hmessage : m.sendEvents = messageOf schedule base k := by rw [hm]
  have hcurrent : m.currentSchedule = schedule := by
    rw [hm]
    exact h.current
  have hsend := sendable_of_sendAll hmessage hcurrent hturn
  obtain ⟨seqNums, n, sent, hsent⟩ := sendAll_message cfg hmessage hcurrent hsend
  cases hsent.symm.trans hturn
  refine ⟨hrange, ?_, hsend⟩
  rw [hm]
  exact List.mem_append_right _ List.mem_cons_self

/-! ## the first tick -/

/-- when the cycles really start: the first tick is cut off to a tick of the clock -/
def effectiveStart (cfg : SenderConfig) (schedule : HostSchedule Ieee8021QCtrl) : SimTime :=
  waited cfg (cfg.startTime + due schedule 0) - due schedule 0

theorem start_eq (hstop : ¬(0 ≤ cfg.stopTime ∧ cfg.stopTime ≤ cfg.startTime)) :
    start cfg schedule =
      (initial schedule).subscribeTick cfg 0 (cfg.startTime + due schedule 0) := by
  have hnext : (initial schedule).scheduleNextTickEvent = .ok (due schedule 0) :=
    scheduleNextTickEvent_eq (s := initial schedule) (Nat.zero_le _)
  rw [start, if_neg hstop, hnext, add_comm cfg.startTime]
  rfl

theorem at_start (hrate : 0 < cfg.clockRate)
    (hstop : ¬(0 ≤ cfg.stopTime ∧ cfg.stopTime ≤ cfg.startTime))
    (hfits : Fits cfg (cfg.startTime + due schedule 0)) :
    ∃ s, turns cfg schedule 0 = .ok s ∧ At cfg schedule (effectiveStart cfg schedule) 0 s := by
  refine ⟨_, (start_eq hstop).trans (subscribeTick_ok hrate hfits), rfl, rfl, ?_, rfl, ?_, ?_, rfl⟩
  · show 0 = _
    rw [Nat.zero_mod]
  · show some (0 + waited cfg (cfg.startTime + due schedule 0)) = _
    rw [tickTime, effectiveStart, Nat.zero_div, Nat.zero_mod]
    congr 1
    push_cast
    ring
  · show [] ++ _ = _
    rw [idles, List.range_zero]
    rfl

theorem index_le (schedule : HostSchedule Ieee8021QCtrl) (k : Nat) :
    (k + 1) % (schedule.size + 1) ≤ schedule.size :=
  Nat.lt_succ_iff.mp (Nat.mod_lt _ (Nat.succ_pos _))

/-- **All ticks come if every idle time can be waited for**, and no packet is empty. -/
theorem at_turns (hrate : 0 < cfg.clockRate)
    (hstop : ¬(0 ≤ cfg.stopTime ∧ cfg.stopTime ≤ cfg.startTime))
    (hfirst : Fits cfg (cfg.startTime + due schedule 0))
    (hfits : ∀ k s, turns cfg schedule k = .ok s →
      At cfg schedule (effectiveStart cfg schedule) k s →
      Fits cfg (gap schedule ((k + 1) % (schedule.size + 1))) ∧
        ∀ p ∈ trigger schedule (effectiveStart cfg schedule) k, Sendable cfg schedule p)
    (hwhole : ∀ j, Whole cfg (gap schedule j)) (k : Nat) :
    ∃ s, turns cfg schedule k = .ok s ∧ At cfg schedule (effectiveStart cfg schedule) k s := by
  induction k with
  | zero => exact at_start hrate hstop hfirst
  | succ k ih =>
    obtain ⟨s, hs, hat⟩ := ih
    obtain ⟨hgap, hsend⟩ := hfits k s hs hat
    obtain ⟨s', hturn, hat'⟩ := hat.turn_ok hrate hsend hgap (hwhole _)
    exact ⟨s', bind_ok.mpr ⟨s, hs, hturn⟩, hat'⟩

/-- if all ticks come and no idle time is negative, every idle time can be waited for, and no packet
is empty -/
theorem fits_of_runs (hrate : 0 < cfg.clockRate)
    (hstop : ¬(0 ≤ cfg.stopTime ∧ cfg.stopTime ≤ cfg.startTime))
    (hwhole : ∀ j, Whole cfg (gap schedule j)) (hruns : ∀ k, ∃ s, turns cfg schedule k = .ok s)
    (hidle : ∀ k s, turns cfg schedule k = .ok s → ∀ idle ∈ s.idleTimes, 0 ≤ idle) :
    Fits cfg (cfg.startTime + due schedule 0) ∧ (∀ j ≤ schedule.size, Fits cfg (gap schedule j)) ∧
      ∀ k, ∀ p ∈ trigger schedule (effectiveStart cfg schedule) k, Sendable cfg schedule p := by
  have hfirst : Fits cfg (cfg.startTime + due schedule 0) := by
    obtain ⟨s, hs⟩ := hruns 0
    obtain ⟨hrange, hs'⟩ := subscribeTick_range ((start_eq hstop).symm.trans hs)
    refine ⟨hidle 0 s hs _ ?_, hrange⟩
    rw [hs']
    exact List.mem_cons_self
  have hstep : ∀ k s, turns cfg schedule k = .ok s →
      At cfg schedule (effectiveStart cfg schedule) k s →
      Fits cfg (gap schedule ((k + 1) % (schedule.size + 1))) ∧
        ∀ p ∈ trigger schedule (effectiveStart cfg schedule) k, Sendable cfg schedule p := by
    intro k s hs hat
    obtain ⟨s', hs'⟩ := hruns (k + 1)
    obtain ⟨m, hm, hturn⟩ := bind_ok.mp hs'
    obtain rfl : s = m := Except.ok.inj (hs.symm.trans hm)
    obtain ⟨hrange, hmem, hsend⟩ := hat.turn_range hturn
    exact ⟨⟨hidle (k + 1) s' hs' _ hmem, hrange⟩, hsend⟩
  have hat := at_turns hrate hstop hfirst hstep hwhole
  have hsend : ∀ k, ∀ p ∈ trigger schedule (effectiveStart cfg schedule) k,
      Sendable cfg schedule p := by
    intro k
    obtain ⟨s, hs, hk⟩ := hat k
    exact (hstep k s hs hk).2
  refine ⟨hfirst, fun j hj => ?_, hsend⟩
  -- the index 0 comes after the end of the first cycle
  cases j with
  | zero =>
    obtain ⟨s, hs, hk⟩ := hat schedule.size
    have hfits := (hstep _ s hs hk).1
    rwa [Nat.mod_self] at hfits
  | succ j =>
    obtain ⟨s, hs, hk⟩ := hat j
    have hfits := (hstep _ s hs hk).1
    rwa [Nat.mod_eq_of_lt (by omega)] at hfits

/-! ## schedules in order -/

theorem due_whole (hcycle : Whole cfg schedule.cycle)
    (hentries : ∀ e ∈ schedule.entries, Whole cfg e.time) (j : Nat) : Whole cfg (due schedule j) := by
  unfold due
  split
  · rename_i e he
    exact hentries e (List.mem_of_getElem? he)
  · exact hcycle

theorem gap_whole (hcycle : Whole cfg schedule.cycle)
    (hentries : ∀ e ∈ schedule.entries, Whole cfg e.time) (j : Nat) : Whole cfg (gap schedule j) := by
  unfold gap
  split
  · exact due_whole hcycle hentries 0
  · exact (due_whole hcycle hentries j).sub (due_whole hcycle hentries (j - 1))

/-- the starts ascend if and only if no entry comes before the one before it -/
theorem ascending_iff (hcycle : 0 < schedule.cycle)
    (hle : ∀ e ∈ schedule.entries, e.time ≤ schedule.cycle) :
    (0 :: schedule.entries.map (·.time)).Pairwise (· ≤ ·) ↔
      ∀ j ≤ schedule.size, 0 ≤ gap schedule j := by
  have htime : ∀ (j : Nat) (h : j < (schedule.entries.map (·.time)).length),
      (schedule.entries.map (·.time))[j] = due schedule j := by
    intro j h
    have hj : j < schedule.entries.length := by simpa using h
    rw [List.getElem_map, due_of_entry (List.getElem?_eq_getElem hj)]
  have hlength : (schedule.entries.map (·.time)).length = schedule.size := List.length_map _
  rw [← List.isChain_iff_pairwise, List.isChain_iff_getElem]
  constructor
  · intro h j hj
    obtain hlt | rfl := lt_or_eq_of_le hj
    · have hstep := h j (by rw [List.length_cons, hlength]; omega)
      rw [List.getElem_cons_succ, htime] at hstep
      cases j with
      | zero =>
        rw [gap, if_pos rfl]
        exact hstep
      | succ j =>
        rw [List.getElem_cons_succ, htime] at hstep
        rw [gap, if_neg (Nat.succ_ne_zero j)]
        exact sub_nonneg.mpr hstep
    · rw [gap]
      split
      · rename_i hzero
        rw [← hzero, due_size]
        exact hcycle.le
      · obtain ⟨e, he, hdue⟩ := due_of_lt (show schedule.size - 1 < schedule.size by omega)
        rw [due_size, hdue]
        exact sub_nonneg.mpr (hle e (List.mem_of_getElem? he))
  · intro h j hj
    rw [List.length_cons, hlength] at hj
    have hgap := h j (by omega)
    rw [List.getElem_cons_succ, htime]
    cases j with
    | zero =>
      rw [gap, if_pos rfl] at hgap
      exact hgap
    | succ j =>
      rw [gap, if_neg (Nat.succ_ne_zero j)] at hgap
      rw [List.getElem_cons_succ, htime]
      exact sub_nonneg.mp hgap

/-! ## every cycle -/

/-- a tick triggers nothing that another one triggers -/
theorem trigger_inj {base : SimTime} (hcycle : 0 < schedule.cycle) {k l : Nat} {p : Nat × SimTime}
    (hk : p ∈ trigger schedule base k) (hl : p ∈ trigger schedule base l) : k = l := by
  obtain ⟨_, hk⟩ := Option.ite_none_right_eq_some.mp hk
  obtain ⟨_, hl⟩ := Option.ite_none_right_eq_some.mp hl
  have hboth := (Option.some.inj hk).trans (Option.some.inj hl).symm
  obtain ⟨hindex, htime⟩ := Prod.mk.inj hboth
  rw [tickTime, tickTime, hindex, add_left_inj, add_right_inj] at htime
  have hcast := mul_right_cancel₀ hcycle.ne' htime
  have hdiv : k / (schedule.size + 1) = l / (schedule.size + 1) := by exact_mod_cast hcast
  rw [← Nat.mod_add_div k (schedule.size + 1), ← Nat.mod_add_div l (schedule.size + 1), hindex, hdiv]

theorem trigger_once {base : SimTime} (hcycle : 0 < schedule.cycle) {i : Nat}
    {e : HostEntry Ieee8021QCtrl} (he : schedule.entries[i]? = some e) (n : ℕ) {k : Nat}
    (hk : n * (schedule.size + 1) + i < k) :
    ((List.range k).filterMap (trigger schedule base)).count
      (i, base + n * schedule.cycle + e.time) = 1 := by
  have hi : i < schedule.size := (List.getElem?_eq_some_iff.mp he).1
  have htick := (Nat.div_mod_unique (a := n * (schedule.size + 1) + i) (b := schedule.size + 1)
    (c := i) (d := n) (Nat.succ_pos _)).mpr ⟨by ring, by omega⟩
  apply List.count_eq_one_of_mem
  · exact List.nodup_range.filterMap fun a b p => trigger_inj hcycle
  · refine List.mem_filterMap.mpr ⟨n * (schedule.size + 1) + i, List.mem_range.mpr hk, ?_⟩
    rw [trigger, if_pos (by rw [htick.2]; exact hi), tickTime, htick.1, htick.2, due_of_entry he]

theorem trigger_only {base : SimTime} {k i : Nat} {t : SimTime}
    (h : (i, t) ∈ (List.range k).filterMap (trigger schedule base)) :
    ∃ e, schedule.entries[i]? = some e ∧ ∃ n : ℕ, t = base + n * schedule.cycle + e.time := by
  obtain ⟨l, _, hl⟩ := List.mem_filterMap.mp h
  obtain ⟨hlt, hl⟩ := Option.ite_none_right_eq_some.mp hl
  obtain ⟨rfl, rfl⟩ := Prod.mk.inj (Option.some.inj hl)
  obtain ⟨e, he, hdue⟩ := due_of_lt hlt
  refine ⟨e, he, l / (schedule.size + 1), ?_⟩
  rw [tickTime, hdue]

/-- what is sent in a later cycle is sent in the first one -/
theorem sendable_of_sized {base : SimTime} (hcycle : 0 < schedule.cycle)
    (hsized : ∀ e ∈ schedule.entries, InTime cfg (base + e.time) → 0 < e.size) {k : Nat}
    {p : Nat × SimTime} (hp : p ∈ trigger schedule base k) : Sendable cfg schedule p := by
  intro hin e he
  obtain ⟨_, heq⟩ := Option.ite_none_right_eq_some.mp hp
  obtain rfl := Option.some.inj heq
  refine hsized e (List.mem_of_getElem? he) (hin.mono ?_)
  rw [tickTime, due_of_entry he]
  have hcycles : 0 ≤ ((k / (schedule.size + 1) : ℕ) : ℚ) * schedule.cycle := by positivity
  linarith

theorem trigger_first {base : SimTime} {i : Nat} {e : HostEntry Ieee8021QCtrl}
    (he : schedule.entries[i]? = some e) : (i, base + e.time) ∈ trigger schedule base i := by
  have hi : i < schedule.size := (List.getElem?_eq_some_iff.mp he).1
  have hmod : i % (schedule.size + 1) = i := Nat.mod_eq_of_lt (by omega)
  have hdiv : i / (schedule.size + 1) = 0 := Nat.div_eq_of_lt (by omega)
  rw [trigger, tickTime, hmod, hdiv, if_pos hi, due_of_entry he]
  simp

/-- the cycles start at the start time if that is a tick of the clock -/
theorem effectiveStart_eq (hrate : 0 < cfg.clockRate) (hcycle : Whole cfg schedule.cycle)
    (hentries : ∀ e ∈ schedule.entries, Whole cfg e.time) (hwhole : Whole cfg cfg.startTime)
    (hfirst : 0 ≤ cfg.startTime + due schedule 0) :
    effectiveStart cfg schedule = cfg.startTime := by
  rw [effectiveStart, waited_eq hrate (hwhole.add (due_whole hcycle hentries 0)) hfirst]
  ring

/-- an entry is triggered at a tick of the clock -/
theorem At.startTime_whole (hcycle : Whole cfg schedule.cycle)
    (hentries : ∀ e ∈ schedule.entries, Whole cfg e.time) (hne : schedule.entries ≠ [])
    (h : At cfg schedule (effectiveStart cfg schedule) 1 s)
    (honly : ∀ i t, (i, t) ∈ s.triggers → ∃ e, schedule.entries[i]? = some e ∧
      ∃ n : ℕ, t = cfg.startTime + n * schedule.cycle + e.time) : Whole cfg cfg.startTime := by
  have hpos : 0 < schedule.size := List.length_pos_of_ne_nil hne
  have htime : tickTime schedule (effectiveStart cfg schedule) 0 =
      waited cfg (cfg.startTime + due schedule 0) := by
    rw [tickTime, effectiveStart, Nat.zero_div, Nat.zero_mod]
    push_cast
    ring
  have hmem : (0, waited cfg (cfg.startTime + due schedule 0)) ∈ s.triggers := by
    rw [h.triggers]
    refine List.mem_filterMap.mpr ⟨0, List.mem_range.mpr Nat.one_pos, ?_⟩
    rw [trigger, Nat.zero_mod, if_pos hpos, htime]
  obtain ⟨e, he, n, hn⟩ := honly _ _ hmem
  have hstart : cfg.startTime =
      waited cfg (cfg.startTime + due schedule 0) - n * schedule.cycle - e.time := by
    rw [hn]
    ring
  rw [hstart]
  exact ((waited_whole cfg _).sub (hcycle.mul n)).sub (hentries e (List.mem_of_getElem? he))

/-- **The sender is periodic if and only if the entries are in order, all its waits are possible,
and no packet that it sends is empty.** -/
theorem periodic_iff {xml : HostElement}
    (hxml : HostScheduleBuilder.createHostScheduleFromXML xml = .ok schedule)
    (hstop : ¬(0 ≤ cfg.stopTime ∧ cfg.stopTime ≤ cfg.startTime)) (hrate : 0 < cfg.clockRate)
    (hpos : 0 < schedule.cycle) (hcycle : Whole cfg schedule.cycle)
    (hentries : ∀ e ∈ schedule.entries, Whole cfg e.time) :
    Periodic cfg schedule ↔ Orderly cfg schedule := by
  obtain ⟨_, hle⟩ := HostScheduleBuilder.createHostScheduleFromXML_ok hxml
  have hwhole := gap_whole hcycle hentries
  have hascending := ascending_iff hpos hle
  constructor
  · intro hp
    obtain ⟨hfirst, hfits, hsend⟩ := fits_of_runs hrate hstop hwhole hp.runs hp.idle
    have hstart : schedule.entries ≠ [] → Whole cfg cfg.startTime := by
      intro hne
      obtain ⟨s, hs, hat⟩ := at_turns hrate hstop hfirst
        (fun k _ _ _ => ⟨hfits _ (index_le schedule k), hsend k⟩) hwhole 1
      exact hat.startTime_whole hcycle hentries hne (hp.only 1 s hs)
    refine ⟨hascending.mpr fun j hj => (hfits j hj).1, hfirst.1, hstart, hfirst.2,
      fun j hj => (hfits j hj).2, fun e he hin => ?_⟩
    obtain ⟨i, hi⟩ := List.mem_iff_getElem?.mp he
    have hfirstSend := hsend i _ (trigger_first hi)
    rw [effectiveStart_eq hrate hcycle hentries (hstart (List.ne_nil_of_mem he)) hfirst.1]
      at hfirstSend
    exact hfirstSend hin e hi
  · intro ho
    have hgap := hascending.mp ho.ascending
    have hbase : schedule.entries ≠ [] → effectiveStart cfg schedule = cfg.startTime :=
      fun hne => effectiveStart_eq hrate hcycle hentries (ho.whole hne) ho.first
    have hsized : ∀ e ∈ schedule.entries, InTime cfg (effectiveStart cfg schedule + e.time) →
        0 < e.size := by
      intro e he
      rw [hbase (List.ne_nil_of_mem he)]
      exact ho.sized e he
    have hat := at_turns hrate hstop ⟨ho.first, ho.firstShort⟩
      (fun k _ _ _ => ⟨⟨hgap _ (index_le schedule k), ho.short _ (index_le schedule k)⟩,
        fun _ => sendable_of_sized hpos hsized⟩) hwhole
    have hat_of : ∀ {k s}, turns cfg schedule k = .ok s →
        At cfg schedule (effectiveStart cfg schedule) k s := by
      intro k s hs
      obtain ⟨s', hs', h⟩ := hat k
      cases hs.symm.trans hs'
      exact h
    refine ⟨fun k => ?_, fun k s hs idle hidle => ?_, fun i e he n => ?_, fun k s hs i t hit => ?_⟩
    · obtain ⟨s, hs, _⟩ := hat k
      exact ⟨s, hs⟩
    · rw [(hat_of hs).idleTimes, idles] at hidle
      obtain rfl | hidle := List.mem_cons.mp hidle
      · exact ho.first
      · obtain ⟨l, _, rfl⟩ := List.mem_map.mp hidle
        exact hgap _ (index_le schedule l)
    · refine ⟨n * (schedule.size + 1) + i + 1, fun k s hk hs => ?_⟩
      rw [(hat_of hs).triggers, ← hbase (List.ne_nil_of_mem (List.mem_of_getElem? he))]
      exact trigger_once hpos he n hk
    · rw [(hat_of hs).triggers] at hit
      obtain ⟨e, he, n, hn⟩ := trigger_only hit
      refine ⟨e, he, n, ?_⟩
      rw [hn, hbase (List.ne_nil_of_mem (List.mem_of_getElem? he))]

/-- a packet of 64 bytes -/
def smallPacket (start : SimTime) : HostEntryElement :=
  ⟨some start, some 64, some "3", some "00:00:00:00:00:02", some "1"⟩

/-- a packet at the start of the cycle, and two at half of it -/
theorem periodic_threePackets :
    let xml : HostElement := ⟨some (10 / 1000000), [smallPacket 0, smallPacket (5 / 1000000),
      smallPacket (5 / 1000000)]⟩
    ∃ schedule, HostScheduleBuilder.createHostScheduleFromXML xml = .ok schedule ∧
      Periodic ⟨2 / 1000000, -1, 1 / 1000000⟩ schedule := by
  intro xml
  obtain ⟨schedule, hxml, hpos, hcycle, hentries, hascending, hfirst, hfirstShort, hshort, hsized⟩ :
      ∃ schedule, HostScheduleBuilder.createHostScheduleFromXML xml = .ok schedule ∧
        0 < schedule.cycle ∧ schedule.cycle = (10 : ℤ) * (1 / 1000000) ∧
        (∀ e ∈ schedule.entries, e.time = (⌊e.time * 1000000⌋ : ℤ) * (1 / 1000000)) ∧
        (0 :: schedule.entries.map (·.time)).Pairwise (· ≤ ·) ∧
        0 ≤ 2 / 1000000 + due schedule 0 ∧
        (2 / 1000000 + due schedule 0) / (1 / 1000000) < 2 ^ 32 ∧
        (∀ j ≤ schedule.size, gap schedule j / (1 / 1000000) < 2 ^ 32) ∧
        ∀ e ∈ schedule.entries, 0 < e.size :=
    exists_of_any (by decide +kernel)
  refine ⟨schedule, hxml, (periodic_iff hxml (by decide +kernel) (by decide +kernel) hpos ⟨_, hcycle⟩
    fun e he => ⟨_, hentries e he⟩).mpr ⟨hascending, hfirst, fun _ => ⟨2, ?_⟩, hfirstShort, hshort,
      fun e he _ => hsized e he⟩⟩
  show (2 / 1000000 : ℚ) = _
  norm_num

/-- The second packet of the file comes before the first one: no tick can be subscribed for it. -/
theorem periodic_violated :
    let xml : HostElement := ⟨some (10 / 1000000), [smallPacket (5 / 1000000), smallPacket 0]⟩
    ∃ schedule, HostScheduleBuilder.createHostScheduleFromXML xml = .ok schedule ∧
      errorOf (turns ⟨0, -1, 1 / 1000000⟩ schedule 1) =
        some (.undefinedBehaviour "static_cast<unsigned>") ∧
      ¬Periodic ⟨0, -1, 1 / 1000000⟩ schedule := by
  intro xml
  obtain ⟨schedule, hxml, herror⟩ : ∃ schedule,
      HostScheduleBuilder.createHostScheduleFromXML xml = .ok schedule ∧
      errorOf (turns ⟨0, -1, 1 / 1000000⟩ schedule 1) =
        some (.undefinedBehaviour "static_cast<unsigned>") :=
    exists_of_any (by decide +kernel)
  refine ⟨schedule, hxml, herror, fun hp => ?_⟩
  obtain ⟨s, hs⟩ := hp.runs 1
  rw [hs] at herror
  cases herror

end VlanEtherTrafGenSched
end Nesting
