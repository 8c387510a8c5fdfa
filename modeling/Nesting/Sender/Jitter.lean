import Nesting.Lib.Run
import Nesting.Sender.Periodic

/-!
# The scheduled sender with jitter

With jitter the message of an entry comes later than its tick, and may be overtaken by later ticks and by
their messages.

* `SenderSystem`, `step`   the ticks and the messages, each at its time, in any order;
* `messages`      the messages that ticks with these jitters make;
* `Jittered`      each of them comes once and at its time, and the packets of a flow are numbered as they
                  are sent;
* `jittered`      **so it is in every run, and no tick and no message fails**.
-/

set_option linter.unusedVariables false

namespace Nesting

open Lib

structure SenderSystem where
  /-- `simTime()` -/
  time : SimTime
  sender : VlanEtherTrafGenSched

inductive SenderEvent where
  /-- time goes on, over nothing that is due -/
  | advance (t : SimTime)
  /-- the subscribed tick, with the value of the parameter `jitter` -/
  | tick (jitter : SimTime)
  | sendDelayed (msg : SendEvent)
  deriving DecidableEq

namespace SenderSystem

open VlanEtherTrafGenSched

variable {cfg : SenderConfig} {schedule : HostSchedule Ieee8021QCtrl} {base : SimTime}
  {s s' : SenderSystem} {js : List SimTime}

def CanAdvance (s : SenderSystem) (t : SimTime) : Prop :=
  s.time ≤ t ∧ (∀ u ∈ s.sender.pendingTick, t ≤ u) ∧ ∀ msg ∈ s.sender.sendEvents, t ≤ msg.time

instance (s : SenderSystem) (t : SimTime) : Decidable (s.CanAdvance t) :=
  inferInstanceAs (Decidable (_ ∧ _ ∧ _))

def step (cfg : SenderConfig) (s : SenderSystem) : SenderEvent → Sim SenderSystem
  | .advance t =>
    if s.CanAdvance t then .ok { s with time := t } else .error (.assertion "an event is due")
  | .tick jitter =>
    if s.sender.pendingTick = some s.time then do
      let sender ← s.sender.tick cfg jitter
      return { s with sender }
    else .error (.assertion "the tick is not due")
  | .sendDelayed msg =>
    if msg ∈ s.sender.sendEvents ∧ msg.time = s.time then do
      let sender ← s.sender.sendDelayed cfg msg
      return { s with sender }
    else .error (.assertion "the message is not due")

/-! ## what is to be -/

/-- the jitters of the ticks -/
def jitters (es : List SenderEvent) : List SimTime :=
  es.filterMap fun e =>
    match e with
    | .tick jitter => some jitter
    | _ => none

/-- the message of the k-th tick -/
def message (schedule : HostSchedule Ieee8021QCtrl) (base : SimTime) (jitter : SimTime) (k : Nat) :
    Option SendEvent :=
  (trigger schedule base k).map fun p => ⟨p.2 + jitter, p.1⟩

/-- the messages of the first ticks -/
def messages (schedule : HostSchedule Ieee8021QCtrl) (base : SimTime) (js : List SimTime) :
    List SendEvent :=
  js.zipIdx.filterMap fun p => message schedule base p.1 p.2

/-- the packet is sent for this entry at this time -/
def SentFor (schedule : HostSchedule Ieee8021QCtrl) (p : Nat × SimTime)
    (q : SimTime × ScheduledPacket) : Prop :=
  q.1 = p.2 ∧ ∃ e, schedule.entries[p.1]? = some e ∧ q.2 = packetOf e q.2.seqNum

/-- the numbers of the packets of this flow -/
def numbers (flowId : Nat) (sent : List (SimTime × ScheduledPacket)) : List Nat :=
  (sent.filter fun q => q.2.flowId = flowId).map fun q => q.2.seqNum

/-- **Every message comes exactly once, at its time; before the stop time its packet is sent, and the
packets of each flow are numbered one after the other.** -/
structure Jittered (cfg : SenderConfig) (schedule : HostSchedule Ieee8021QCtrl) (js : List SimTime)
    (s : SenderSystem) : Prop where
  once : List.Perm (s.sender.triggers.map (fun p => ⟨p.2, p.1⟩) ++ s.sender.sendEvents)
    (messages schedule cfg.startTime js)
  onTime : ∀ msg ∈ s.sender.sendEvents, s.time ≤ msg.time
  ordered : (s.sender.triggers.map Prod.snd).Pairwise (· ≤ ·)
  sent : List.Forall₂ (SentFor schedule) (s.sender.triggers.filter fun p => InTime cfg p.2)
    s.sender.sent
  numbered : ∀ flowId, ∃ n, numbers flowId s.sender.sent = List.range n

/-! ## ticks -/

theorem messages_snoc (schedule : HostSchedule Ieee8021QCtrl) (base : SimTime) (js : List SimTime)
    (jitter : SimTime) : messages schedule base (js ++ [jitter]) =
      messages schedule base js ++ (message schedule base jitter js.length).toList := by
  unfold messages
  rw [List.zipIdx_append, List.filterMap_append, List.zipIdx_singleton, Nat.zero_add]
  cases h : message schedule base jitter js.length with
  | none => simp [h]
  | some msg => simp [h]

theorem jitters_cons (e : SenderEvent) (es : List SenderEvent) :
    jitters (e :: es) = jitters [e] ++ jitters es := by
  unfold jitters
  rw [← List.filterMap_append]
  rfl

/-- what the sender has made and sent after ticks with these jitters -/
structure Going (cfg : SenderConfig) (schedule : HostSchedule Ieee8021QCtrl) (base : SimTime)
    (js : List SimTime) (s : SenderSystem) : Prop where
  current : s.sender.currentSchedule = schedule
  next : s.sender.nextSchedule = none
  index : s.sender.indexSchedule = js.length % (schedule.size + 1)
  pending : s.sender.pendingTick = some (tickTime schedule base js.length)
  once : List.Perm (s.sender.triggers.map (fun p => ⟨p.2, p.1⟩) ++ s.sender.sendEvents)
    (messages schedule base js)
  entries : ∀ msg ∈ s.sender.sendEvents, msg.index < schedule.size
  sized : ∀ msg ∈ s.sender.sendEvents, Sendable cfg schedule (msg.index, msg.time)
  ahead : s.time ≤ tickTime schedule base js.length
  onTime : ∀ msg ∈ s.sender.sendEvents, s.time ≤ msg.time
  ordered : (s.sender.triggers.map Prod.snd).Pairwise (· ≤ ·)
  past : ∀ p ∈ s.sender.triggers, p.2 ≤ s.time
  sent : List.Forall₂ (SentFor schedule) (s.sender.triggers.filter fun p => InTime cfg p.2)
    s.sender.sent
  numbered : ∀ flowId, numbers flowId s.sender.sent = List.range (s.sender.flowIdSeqNums flowId)

/-- **A tick makes its message and subscribes**, whatever is on its way. -/
theorem Going.tick_eq (h : Going cfg schedule base js s) {jitter : SimTime}
    (hj : js.length % (schedule.size + 1) < schedule.size → 0 ≤ jitter) :
    s.sender.tick cfg jitter =
      { s.sender with
        sendEvents := s.sender.sendEvents ++ (message schedule base jitter js.length).toList
        indexSchedule := (js.length + 1) % (schedule.size + 1) }.subscribeTick cfg
          (tickTime schedule base js.length) (gap schedule ((js.length + 1) % (schedule.size + 1))) := by
  have hload : s.sender.loadNextSchedule = s.sender := by
    rw [loadNextSchedule, h.next]
  have hcurrent := h.current
  rw [VlanEtherTrafGenSched.tick, h.pending]
  dsimp only
  obtain ⟨hin, hmod, _⟩ | ⟨hlast, hmod, _⟩ := next_tick schedule.size js.length
  · have hmessage : (message schedule base jitter js.length).toList =
        [⟨tickTime schedule base js.length + jitter, s.sender.indexSchedule⟩] := by
      rw [message, trigger, if_pos hin, h.index]
      rfl
    rw [if_neg (by rw [h.index, hcurrent]; omega), hmessage, hmod, ← h.index]
    have hassert : ASSERT (decide (0 ≤ jitter)) "t >= simTime()" = .ok () :=
      ASSERT_ok.mpr (decide_eq_true (hj hin))
    rw [hassert]
    show (VlanEtherTrafGenSched.scheduleNextTickEvent _ >>= fun next => _) = _
    rw [scheduleNextTickEvent_eq]
    · show subscribeTick cfg _ (gap s.sender.currentSchedule (s.sender.indexSchedule + 1)) _ = _
      rw [hcurrent, h.pending]
    · show s.sender.indexSchedule + 1 ≤ s.sender.currentSchedule.size
      rw [h.index, hcurrent]
      omega
  · have hmessage : (message schedule base jitter js.length).toList = [] := by
      rw [message, trigger, if_neg (by omega)]
      rfl
    rw [if_pos (by rw [h.index, hcurrent, hlast]), hmessage, hmod, hload, List.append_nil]
    rw [scheduleNextTickEvent_eq (Nat.zero_le _)]
    show subscribeTick cfg _ (gap s.sender.currentSchedule 0) _ = _
    rw [hcurrent, h.pending]

/-- a tick that goes well has no negative jitter, if it has a message -/
theorem Going.jitter_nonneg (h : Going cfg schedule base js s) {jitter : SimTime}
    {sender : VlanEtherTrafGenSched} (ht : s.sender.tick cfg jitter = .ok sender)
    (hin : js.length % (schedule.size + 1) < schedule.size) : 0 ≤ jitter := by
  unfold VlanEtherTrafGenSched.tick at ht
  rw [h.pending] at ht
  dsimp only at ht
  rw [if_neg (by rw [h.index, h.current]; omega)] at ht
  obtain ⟨_, hassert, _⟩ := bind_ok.mp ht
  exact of_decide_eq_true (ASSERT_ok.mp hassert)

theorem mem_message {jitter : SimTime} {k : Nat} {msg : SendEvent}
    (h : msg ∈ (message schedule base jitter k).toList) :
    k % (schedule.size + 1) < schedule.size ∧ msg.index = k % (schedule.size + 1) ∧
      msg.time = tickTime schedule base k + jitter ∧
      (msg.index, tickTime schedule base k) ∈ trigger schedule base k := by
  obtain ⟨p, htrigger, rfl⟩ := Option.map_eq_some_iff.mp (Option.mem_toList.mp h)
  obtain ⟨hin, hp⟩ := Option.ite_none_right_eq_some.mp htrigger
  cases hp
  exact ⟨hin, rfl, rfl, htrigger⟩

/-- what the sender has to be able to wait for, and to send -/
structure Waitable (cfg : SenderConfig) (schedule : HostSchedule Ieee8021QCtrl) (base : SimTime) :
    Prop where
  rate : 0 < cfg.clockRate
  whole : ∀ j, Whole cfg (gap schedule j)
  fits : ∀ j ≤ schedule.size, Fits cfg (gap schedule j)
  sendable : ∀ k, ∀ p ∈ trigger schedule base k, Sendable cfg schedule p

/-- a tick that may have its message comes, and the sender goes on -/
theorem Going.tick_ok (hw : Waitable cfg schedule base) (h : Going cfg schedule base js s)
    (hnow : s.sender.pendingTick = some s.time) {jitter : SimTime}
    (hj : js.length % (schedule.size + 1) < schedule.size → 0 ≤ jitter) :
    ∃ sender, s.sender.tick cfg jitter = .ok sender ∧
      Going cfg schedule base (js ++ [jitter]) { s with sender } := by
  have htime : tickTime schedule base js.length = s.time := by
    rw [h.pending] at hnow
    exact Option.some.inj hnow
  have hfits := hw.fits _ (index_le schedule js.length)
  have htick := (h.tick_eq hj).trans (subscribeTick_ok hw.rate hfits)
  rw [waited_eq hw.rate (hw.whole _) hfits.1, ← tickTime_succ] at htick
  refine ⟨_, htick, h.current, h.next, ?_, ?_, ?_, ?_, ?_, ?_, ?_, h.ordered, h.past, h.sent,
    h.numbered⟩
  · rw [List.length_append]
    rfl
  · rw [List.length_append]
    rfl
  · rw [messages_snoc, ← List.append_assoc]
    exact h.once.append_right _
  · intro msg hmsg
    obtain hmsg | hmsg := List.mem_append.mp hmsg
    · exact h.entries msg hmsg
    · obtain ⟨hin, hindex, _⟩ := mem_message hmsg
      rw [hindex]
      exact hin
  · intro msg hmsg
    obtain hmsg | hmsg := List.mem_append.mp hmsg
    · exact h.sized msg hmsg
    · obtain ⟨hin, _, ht, htrigger⟩ := mem_message hmsg
      have hle : tickTime schedule base js.length ≤ msg.time := by
        rw [ht]
        exact le_add_of_nonneg_right (hj hin)
      exact (hw.sendable _ _ htrigger).mono hle
  · rw [List.length_append, List.length_singleton, tickTime_succ, htime]
    exact le_add_of_nonneg_right hfits.1
  · intro msg hmsg
    obtain hmsg | hmsg := List.mem_append.mp hmsg
    · exact h.onTime msg hmsg
    · obtain ⟨hin, _, ht, _⟩ := mem_message hmsg
      rw [ht, htime]
      exact le_add_of_nonneg_right (hj hin)

/-! ## messages -/

theorem numbers_snoc (flowId : Nat) (sent : List (SimTime × ScheduledPacket)) (t : SimTime)
    (e : HostEntry Ieee8021QCtrl) (n : Nat) : numbers flowId (sent ++ [(t, packetOf e n)]) =
      numbers flowId sent ++ if e.scheduledObject.flowId = flowId then [n] else [] := by
  unfold numbers
  rw [List.filter_append, List.map_append]
  by_cases h : e.scheduledObject.flowId = flowId <;> simp [h, packetOf]

/-- **A message comes at its time**, and the sender goes on. -/
theorem Going.sendDelayed_ok (h : Going cfg schedule base js s) {msg : SendEvent}
    (hmem : msg ∈ s.sender.sendEvents) (hnow : msg.time = s.time) :
    ∃ sender, s.sender.sendDelayed cfg msg = .ok sender ∧
      Going cfg schedule base js { s with sender } := by
  obtain ⟨e, he, hsend⟩ := sendPacket_eq cfg msg.time h.current (h.entries msg hmem)
  have hordered : ((s.sender.triggers ++ [(msg.index, msg.time)]).map Prod.snd).Pairwise (· ≤ ·) := by
    rw [List.map_append, List.pairwise_append]
    refine ⟨h.ordered, List.pairwise_singleton _ _, fun t ht u hu => ?_⟩
    obtain ⟨p, hp, rfl⟩ := List.mem_map.mp ht
    rw [List.map_singleton, List.mem_singleton] at hu
    rw [hu, hnow]
    exact h.past p hp
  have hpast : ∀ p ∈ s.sender.triggers ++ [(msg.index, msg.time)], p.2 ≤ s.time := by
    intro p hp
    obtain hp | hp := List.mem_append.mp hp
    · exact h.past p hp
    · rw [List.mem_singleton.mp hp]
      exact hnow.le
  have honce : List.Perm ((s.sender.triggers ++ [(msg.index, msg.time)]).map
      (fun p => (⟨p.2, p.1⟩ : SendEvent)) ++ s.sender.sendEvents.erase msg)
      (messages schedule base js) := by
    refine List.Perm.trans ?_ h.once
    rw [List.map_append, List.append_assoc]
    exact (List.perm_cons_erase hmem).symm.append_left _
  have hentries : ∀ m ∈ s.sender.sendEvents.erase msg, m.index < schedule.size :=
    fun m hm => h.entries m (List.mem_of_mem_erase hm)
  have hsized : ∀ m ∈ s.sender.sendEvents.erase msg, Sendable cfg schedule (m.index, m.time) :=
    fun m hm => h.sized m (List.mem_of_mem_erase hm)
  have honTime : ∀ m ∈ s.sender.sendEvents.erase msg, s.time ≤ m.time :=
    fun m hm => h.onTime m (List.mem_of_mem_erase hm)
  have htriggers : (s.sender.triggers ++ [(msg.index, msg.time)]).filter (fun p => InTime cfg p.2) =
      (s.sender.triggers.filter fun p => InTime cfg p.2) ++
        if InTime cfg msg.time then [(msg.index, msg.time)] else [] := by
    rw [List.filter_append]
    by_cases hin : InTime cfg msg.time <;> simp [hin]
  by_cases hin : InTime cfg msg.time
  · have hpos := h.sized msg hmem hin e he
    rw [if_pos hin] at htriggers
    rw [if_pos hin, if_neg hpos.ne'] at hsend
    refine ⟨_, bind_ok.mpr ⟨_, hsend, rfl⟩, h.current, h.next, h.index, h.pending, honce, hentries,
      hsized, h.ahead, honTime, hordered, hpast, ?_, fun flowId => ?_⟩
    · dsimp only
      rw [htriggers]
      exact List.rel_append h.sent (.cons ⟨rfl, e, he, rfl⟩ .nil)
    · dsimp only
      rw [numbers_snoc, h.numbered]
      by_cases hflow : e.scheduledObject.flowId = flowId
      · subst hflow
        rw [Function.update_self, if_pos rfl, List.range_succ]
      · rw [Function.update_of_ne (Ne.symm hflow), if_neg hflow, List.append_nil]
  · rw [if_neg hin] at hsend htriggers
    rw [List.append_nil] at htriggers
    refine ⟨_, bind_ok.mpr ⟨_, hsend, rfl⟩, h.current, h.next, h.index, h.pending, honce, hentries,
      hsized, h.ahead, honTime, hordered, hpast, ?_, h.numbered⟩
    dsimp only
    rw [htriggers]
    exact h.sent

/-! ## runs -/

theorem Going.advance (h : Going cfg schedule base js s) {t : SimTime} (ht : s.CanAdvance t) :
    Going cfg schedule base js { s with time := t } :=
  ⟨h.current, h.next, h.index, h.pending, h.once, h.entries, h.sized, ht.2.1 _ h.pending, ht.2.2,
    h.ordered, fun p hp => (h.past p hp).trans ht.1, h.sent, h.numbered⟩

theorem going_step (hw : Waitable cfg schedule base) (h : Going cfg schedule base js s)
    {e : SenderEvent} (hs : s.step cfg e = .ok s') :
    Going cfg schedule base (js ++ jitters [e]) s' := by
  cases e with
  | advance t =>
    rw [step] at hs
    split at hs
    · rename_i ht
      cases hs
      rw [show jitters [.advance t] = [] from rfl, List.append_nil]
      exact h.advance ht
    · cases hs
  | tick jitter =>
    rw [step] at hs
    split at hs
    · rename_i hnow
      obtain ⟨sender, htick, hs⟩ := bind_ok.mp hs
      cases hs
      obtain ⟨sender', htick', h'⟩ := h.tick_ok hw hnow (h.jitter_nonneg htick)
      cases htick.symm.trans htick'
      exact h'
    · cases hs
  | sendDelayed msg =>
    rw [step] at hs
    split at hs
    · rename_i hdue
      obtain ⟨sender, hsend, hs⟩ := bind_ok.mp hs
      cases hs
      obtain ⟨sender', hsend', h'⟩ := h.sendDelayed_ok hdue.1 hdue.2
      cases hsend.symm.trans hsend'
      rw [show jitters [.sendDelayed msg] = [] from rfl, List.append_nil]
      exact h'
    · cases hs

theorem going_run (hw : Waitable cfg schedule base) {es : List SenderEvent}
    (h : Going cfg schedule base js s) (hs : run (step cfg) s es = .ok s') :
    Going cfg schedule base (js ++ jitters es) s' := by
  induction es generalizing s js with
  | nil =>
    cases hs
    rwa [show jitters [] = [] from rfl, List.append_nil]
  | cons e es ih =>
    obtain ⟨m, hm, hs⟩ := run_cons_ok.mp hs
    rw [jitters_cons, ← List.append_assoc]
    exact ih (going_step hw h hm) hs

/-- what is due does not fail -/
theorem Going.live (hw : Waitable cfg schedule base) (h : Going cfg schedule base js s) :
    (∀ jitter, 0 ≤ jitter → s.sender.pendingTick = some s.time →
      ∃ s', s.step cfg (.tick jitter) = .ok s') ∧
    ∀ msg ∈ s.sender.sendEvents, msg.time = s.time → ∃ s', s.step cfg (.sendDelayed msg) = .ok s' := by
  constructor
  · intro jitter hj hnow
    obtain ⟨sender, htick, _⟩ := h.tick_ok hw hnow fun _ => hj
    exact ⟨_, (if_pos hnow).trans (bind_ok.mpr ⟨sender, htick, rfl⟩)⟩
  · intro msg hmem hnow
    obtain ⟨sender, hsend, _⟩ := h.sendDelayed_ok hmem hnow
    exact ⟨_, (if_pos ⟨hmem, hnow⟩).trans (bind_ok.mpr ⟨sender, hsend, rfl⟩)⟩

/-- an orderly schedule can be waited for -/
theorem waitable_of_orderly (hrate : 0 < cfg.clockRate) (hpos : 0 < schedule.cycle)
    (hle : ∀ e ∈ schedule.entries, e.time ≤ schedule.cycle) (hcycle : Whole cfg schedule.cycle)
    (hentries : ∀ e ∈ schedule.entries, Whole cfg e.time) (ho : Orderly cfg schedule) :
    Waitable cfg schedule (effectiveStart cfg schedule) := by
  refine ⟨hrate, gap_whole hcycle hentries,
    fun j hj => ⟨(ascending_iff hpos hle).mp ho.ascending j hj, ho.short j hj⟩, fun k p hp => ?_⟩
  refine sendable_of_sized hpos (fun e he => ?_) hp
  rw [effectiveStart_eq hrate hcycle hentries (ho.whole (List.ne_nil_of_mem he)) ho.first]
  exact ho.sized e he

/-- the cycles start at the start time, or there is nothing to send in them -/
theorem messages_start (hrate : 0 < cfg.clockRate) (hcycle : Whole cfg schedule.cycle)
    (hentries : ∀ e ∈ schedule.entries, Whole cfg e.time) (ho : Orderly cfg schedule)
    (js : List SimTime) : messages schedule (effectiveStart cfg schedule) js =
      messages schedule cfg.startTime js := by
  by_cases hne : schedule.entries = []
  · have hnone : ∀ base jitter k, message schedule base jitter k = none := by
      intro base jitter k
      have hsize : schedule.size = 0 := congrArg List.length hne
      rw [message, trigger, hsize, if_neg (Nat.not_lt_zero _)]
      rfl
    unfold messages
    simp [hnone]
  · rw [effectiveStart_eq hrate hcycle hentries (ho.whole hne) ho.first]

theorem going_start (hrate : 0 < cfg.clockRate)
    (hstop : ¬(0 ≤ cfg.stopTime ∧ cfg.stopTime ≤ cfg.startTime))
    (hfits : Fits cfg (cfg.startTime + due schedule 0)) :
    ∃ sender, VlanEtherTrafGenSched.start cfg schedule = .ok sender ∧
      Going cfg schedule (effectiveStart cfg schedule) [] ⟨0, sender⟩ := by
  obtain ⟨sender, hstart, h⟩ := at_start hrate hstop hfits
  have hstart' : VlanEtherTrafGenSched.start cfg schedule = _ :=
    (start_eq hstop).trans (subscribeTick_ok hrate hfits)
  cases hstart.symm.trans hstart'
  refine ⟨_, hstart, h.current, h.next, h.index, h.pending, .nil, nofun, nofun, ?_, nofun, .nil,
    nofun, .nil, fun flowId => rfl⟩
  have htime : tickTime schedule (effectiveStart cfg schedule) 0 =
      waited cfg (cfg.startTime + due schedule 0) := by
    rw [tickTime, effectiveStart, Nat.zero_div, Nat.zero_mod]
    push_cast
    ring
  rw [List.length_nil, htime]
  exact mul_nonneg (Nat.cast_nonneg _) hrate.le

/-- **The sender with jitter**: of an orderly schedule every message comes exactly once, at the time
of its entry in its cycle and its jitter later, and before the stop time its packet is sent under
the next number of its flow, whatever overtakes what; no tick with a jitter that is not negative and
no message fails. -/
theorem jittered {xml : HostElement}
    (hxml : HostScheduleBuilder.createHostScheduleFromXML xml = .ok schedule)
    (hstop : ¬(0 ≤ cfg.stopTime ∧ cfg.stopTime ≤ cfg.startTime)) (hrate : 0 < cfg.clockRate)
    (hpos : 0 < schedule.cycle) (hcycle : Whole cfg schedule.cycle)
    (hentries : ∀ e ∈ schedule.entries, Whole cfg e.time) (ho : Orderly cfg schedule) :
    ∃ sender, VlanEtherTrafGenSched.start cfg schedule = .ok sender ∧
      ∀ es s, run (step cfg) ⟨0, sender⟩ es = .ok s → Jittered cfg schedule (jitters es) s ∧
        (∀ jitter, 0 ≤ jitter → s.sender.pendingTick = some s.time →
          ∃ s', s.step cfg (.tick jitter) = .ok s') ∧
        ∀ msg ∈ s.sender.sendEvents, msg.time = s.time →
          ∃ s', s.step cfg (.sendDelayed msg) = .ok s' := by
  obtain ⟨_, hle⟩ := HostScheduleBuilder.createHostScheduleFromXML_ok hxml
  have hw := waitable_of_orderly hrate hpos hle hcycle hentries ho
  obtain ⟨sender, hstart, h0⟩ := going_start hrate hstop ⟨ho.first, ho.firstShort⟩
  refine ⟨sender, hstart, fun es s hs => ?_⟩
  have h := going_run hw h0 hs
  rw [List.nil_append] at h
  refine ⟨⟨?_, h.onTime, h.ordered, h.sent, fun flowId => ⟨_, h.numbered flowId⟩⟩, h.live hw⟩
  rw [← messages_start hrate hcycle hentries ho]
  exact h.once

/-- a packet at the start of the cycle, and two at half of it -/
def threePackets : HostElement :=
  ⟨some (10 / 1000000), [smallPacket 0, smallPacket (5 / 1000000), smallPacket (5 / 1000000)]⟩

/-- the cycles start at 2, and a tick is one microsecond -/
def microseconds : SenderConfig := ⟨2 / 1000000, -1, 1 / 1000000⟩

/-- the first packet comes after the third one -/
def overtaken : List SenderEvent :=
  [.advance (2 / 1000000), .tick (6 / 1000000), .advance (7 / 1000000), .tick 0, .tick 0,
   .sendDelayed ⟨7 / 1000000, 2⟩, .sendDelayed ⟨7 / 1000000, 1⟩, .advance (8 / 1000000),
   .sendDelayed ⟨8 / 1000000, 0⟩, .advance (12 / 1000000), .tick 0, .tick (1 / 1000000)]

theorem jittered_overtaken : ∃ schedule sender s,
    HostScheduleBuilder.createHostScheduleFromXML threePackets = .ok schedule ∧
    VlanEtherTrafGenSched.start microseconds schedule = .ok sender ∧
    run (step microseconds) ⟨0, sender⟩ overtaken = .ok s ∧
    s.sender.triggers = [(2, 7 / 1000000), (1, 7 / 1000000), (0, 8 / 1000000)] ∧
    Jittered microseconds schedule (jitters overtaken) s := by
  obtain ⟨⟨schedule, sender, s⟩, hall, hpos, hcycle, hentries, hascending, hfirst, hfirstShort, hshort,
      hsized, htriggers⟩ :
      ∃ r : HostSchedule Ieee8021QCtrl × VlanEtherTrafGenSched × SenderSystem,
        ((HostScheduleBuilder.createHostScheduleFromXML threePackets).bind fun schedule =>
          (VlanEtherTrafGenSched.start microseconds schedule).bind fun sender =>
            (run (step microseconds) ⟨0, sender⟩ overtaken).map fun s => (schedule, sender, s)) = .ok r ∧
        0 < r.1.cycle ∧ r.1.cycle = (10 : ℤ) * (1 / 1000000) ∧
        (∀ e ∈ r.1.entries, e.time = (⌊e.time * 1000000⌋ : ℤ) * (1 / 1000000)) ∧
        (0 :: r.1.entries.map (·.time)).Pairwise (· ≤ ·) ∧
        0 ≤ 2 / 1000000 + due r.1 0 ∧ (2 / 1000000 + due r.1 0) / (1 / 1000000) < 2 ^ 32 ∧
        (∀ j ≤ r.1.size, gap r.1 j / (1 / 1000000) < 2 ^ 32) ∧
        (∀ e ∈ r.1.entries, 0 < e.size) ∧
        r.2.2.sender.triggers = [(2, 7 / 1000000), (1, 7 / 1000000), (0, 8 / 1000000)] :=
    exists_of_any (by decide +kernel)
  obtain ⟨_, hxml, hall⟩ := bind_ok.mp hall
  obtain ⟨_, hstart, hall⟩ := bind_ok.mp hall
  obtain ⟨_, hs, hall⟩ := map_ok.mp hall
  cases hall
  obtain ⟨sender', hstart', hruns⟩ :
      ∃ sender', VlanEtherTrafGenSched.start microseconds schedule = .ok sender' ∧ _ :=
    jittered hxml (by decide +kernel) (by decide +kernel) hpos ⟨_, hcycle⟩
      (fun e he => ⟨_, hentries e he⟩)
      ⟨hascending, hfirst, fun _ => ⟨2, by decide +kernel⟩, hfirstShort, hshort,
        fun e he _ => hsized e he⟩
  cases hstart.symm.trans hstart'
  exact ⟨schedule, sender, s, hxml, hstart, hs, htriggers, (hruns _ _ hs).1⟩

end SenderSystem

end Nesting
