import Nesting.Clock.PhaseJump

/-!
# Drift rates, and clocks that are stopped

* `Idle`          a clock that is stopped has no tick subscribed;
* `Undisturbed`   it is not read once a tick went by, nor at a rate of zero;
* `Stands`        it stands still while it is left alone;
* `TwoClocks`     two clocks on one oscillator that differ in their drift rates;
* `Paced`         ticks go by only while both rates are the same, or one clock runs backwards;
* `rates_ordered` **then the clock with the higher drift rate is not behind.**
-/

set_option linter.unusedVariables false

namespace Nesting

open Lib

namespace RealtimeClock

variable {s s' m : RealtimeClock}

/-! ## a clock that is stopped -/

/-- the ticks that are added when the clock is read -/
def unread (s : RealtimeClock) : ℕ := s.tickCount - s.lastTick

theorem shown_of_unread (h : s.unread = 0) : s.shown = s.localTime := by
  show s.localTime + (s.unread : ℕ) * (1 / s.rate) = s.localTime
  rw [h, Nat.cast_zero, zero_mul, add_zero]

/-- no tick is subscribed while the clock is stopped -/
structure Idle (s : RealtimeClock) : Prop where
  sound : s.Sound
  known : s.Known
  idle : s.isStopped = true → s.oscillator.own = []

theorem Aimed.idle (h : s.Aimed) (hstop : s.isStopped = true) : s.oscillator.own = [] := by
  unfold Aimed target at h
  rw [if_pos hstop] at h
  exact List.map_eq_nil_iff.mp h

theorem scheduleNextTimestamp_idles (h : s.Sound) (hk : s.Known)
    (hs : s.scheduleNextTimestamp = .ok s') : s'.Idle ∧ s'.delivered = s.delivered := by
  obtain ⟨haim, hk', hu⟩ := scheduleNextTimestamp_aims h hk hs
  exact ⟨⟨(scheduleNextTimestamp_ok hs h).sound, hk', haim.idle⟩, hu.delivered⟩

/-- scheduling does not read a clock that is stopped -/
theorem scheduleNextTimestamp_stopped (h : s.Sound) (hstop : s'.isStopped = true)
    (hs : s.scheduleNextTimestamp = .ok s') : s'.localTime = s.localTime := by
  obtain ⟨m, hm, _⟩ := bind_ok.mp hs
  have hsame := scheduleNextTimestamp_ok hs h
  have hsame' := cancelNextTick_ok h hm
  have hrate : m.rate = s'.rate := by
    show m.ideal.clockRate + m.ideal.driftRate = s'.ideal.clockRate + s'.ideal.driftRate
    rw [hsame.ideal, hsame'.ideal]
  have hidle : m.target = none := by
    unfold target isStopped
    rw [hrate]
    exact if_pos hstop
  rw [scheduleNextTimestamp_idle hm hidle] at hs
  cases hs
  unfold cancelNextTick at hm
  split at hm
  · cases hm
    rfl
  · obtain ⟨o, _, hm⟩ := bind_ok.mp hm
    cases hm
    rfl

/-- a clock that is stopped is not read once a tick went by, nor at a rate of zero -/
def Undisturbed (s : RealtimeClock) (e : ClockEvent) : Prop :=
  match e with
  | .updateAndGetLocalTime | .subscribeDelta .. => s.isStopped = true → s.rate ≠ 0 ∧ s.unread = 0
  | .advance _ | .handleMessage | .handled | .subscribeTimestamp .. | .unsubscribeTimestamp .. |
    .setLocalTime _ | .fastForward | .setClockRate _ | .setDriftRate _ | .oscillator _ => True

instance (s : RealtimeClock) (e : ClockEvent) : Decidable (s.Undisturbed e) :=
  match e with
  | .updateAndGetLocalTime | .subscribeDelta .. => inferInstanceAs (Decidable (_ → _ ∧ _))
  | .advance _ | .handleMessage | .handled | .subscribeTimestamp .. | .unsubscribeTimestamp .. |
    .setLocalTime _ | .fastForward | .setClockRate _ | .setDriftRate _ | .oscillator _ =>
    inferInstanceAs (Decidable True)

/-- the frequency of an oscillator is positive -/
def PositiveRate (e : ClockEvent) : Prop :=
  match e with
  | .setClockRate f => 0 < f
  | _ => True

instance (e : ClockEvent) : Decidable (PositiveRate e) :=
  match e with
  | .setClockRate f => inferInstanceAs (Decidable (0 < f))
  | .advance _ | .handleMessage | .handled | .updateAndGetLocalTime | .subscribeTimestamp .. |
    .subscribeDelta .. | .unsubscribeTimestamp .. | .setLocalTime _ | .fastForward | .setDriftRate _ |
    .oscillator _ => inferInstanceAs (Decidable True)

/-- what a step does to a clock that was stopped -/
structure Still (s s' : RealtimeClock) : Prop where
  delivered : s'.delivered = s.delivered
  localTime : s'.isStopped = true → s'.localTime = s.localTime

theorem Idle.with_oscillator (h : s.Idle) {o : Oscillator} (hc : o.Coherent)
    (hsame : s.oscillator.SameCount o) (hown : o.own = s.oscillator.own) :
    { s with oscillator := o }.Idle := by
  refine ⟨(same_oscillator h.sound hc hsame).sound, ?_, fun hstop => ?_⟩
  · intro e he
    exact h.known e (hown ▸ he)
  · have hrate : { s with oscillator := o }.rate = s.rate := by
      unfold rate
      rw [hsame.frequency]
    refine hown.trans (h.idle ?_)
    unfold isStopped at hstop ⊢
    rwa [hrate] at hstop

/-- a call that ends in scheduling -/
theorem idle_schedule (hs : m.scheduleNextTimestamp = .ok s') (h : m.Sound) (hk : m.Known)
    (hd : m.delivered = s.delivered) (hl : s.isStopped = true → m.localTime = s.localTime) :
    s'.Idle ∧ (s.isStopped = true → Still s s') := by
  obtain ⟨hidle, hd'⟩ := scheduleNextTimestamp_idles h hk hs
  refine ⟨hidle, fun hstop => ⟨hd'.trans hd, fun hstop' => ?_⟩⟩
  exact (scheduleNextTimestamp_stopped h hstop' hs).trans (hl hstop)

theorem subscribeTimestamp_idle {listener kind : Nat} {eventTime : SimTime} {x : Timestamp}
    (h : s.Idle) (hs : s.subscribeTimestamp listener eventTime kind = .ok (x, s')) :
    s'.Idle ∧ (s.isStopped = true → Still s s') := by
  unfold subscribeTimestamp at hs
  dsimp only at hs
  split at hs
  · obtain ⟨m, hm, hs⟩ := bind_ok.mp hs
    cases hs
    exact idle_schedule hm ⟨h.sound.1, h.sound.2⟩ h.known rfl fun _ => rfl
  · obtain ⟨m, hm, hs⟩ := bind_ok.mp hs
    cases hs
    exact idle_schedule hm ⟨h.sound.1, h.sound.2⟩ h.known rfl fun _ => rfl

theorem onTick_idle (h : s.Sound) (hk : s.Known) (hs : s.onTick = .ok s') : s'.Idle := by
  unfold onTick at hs
  split at hs
  · cases hs
  · rename_i x xs hq
    obtain ⟨_, _, hs⟩ := bind_ok.mp hs
    obtain ⟨⟨t, m⟩, hu, hs⟩ := bind_ok.mp hs
    obtain ⟨m', hm', hs⟩ := bind_ok.mp hs
    cases hs
    have hsound : { s with scheduledEvents := xs }.Sound := ⟨h.1, h.2⟩
    obtain ⟨_, rfl, rfl⟩ := hsound.read_ok hu
    obtain ⟨hidle, _⟩ := scheduleNextTimestamp_idles hsound.updated hk hm'
    exact ⟨⟨hidle.sound.1, hidle.sound.2⟩, hidle.known, hidle.idle⟩

theorem setClockRate_idle {f : ℚ} (h : s.Idle) (hf : 0 < f) (hs : s.setClockRate f = .ok s') :
    s'.Idle ∧ (s.isStopped = true → Still s s') := by
  obtain ⟨o, ho, hs⟩ := bind_ok.mp hs
  obtain ⟨hsound, hknown⟩ := setFrequency_known h.sound h.known hf ho
  exact idle_schedule hs hsound hknown rfl fun _ => rfl

theorem fastForward_idle (h : s.Idle) (hs : s.fastForward = .ok s') : s'.Idle := by
  unfold fastForward at hs
  split at hs
  · cases hs
  · split at hs
    · cases hs
    · split at hs
      · cases hs
        exact ⟨⟨h.sound.1, h.sound.2⟩, h.known, h.idle⟩
      · split at hs
        · cases hs
        · cases hs
          exact ⟨⟨h.sound.1, h.sound.2⟩, h.known, h.idle⟩

/-- **A step keeps a clock idle**, and one that is stopped and left alone stands still. -/
theorem idle_step {e : ClockEvent} (h : s.Idle) (hf : PositiveRate e) (hs : s.step e = .ok s') :
    s'.Idle ∧ (s.isStopped = true → s.Undisturbed e → ¬IsJump e → Still s s') := by
  have hcall : s'.Idle ∧ (s.isStopped = true → Still s s') →
      s'.Idle ∧ (s.isStopped = true → s.Undisturbed e → ¬IsJump e → Still s s') :=
    fun hc => ⟨hc.1, fun hstop _ _ => hc.2 hstop⟩
  have hread : s.updated.Idle := ⟨h.sound.updated, h.known, h.idle⟩
  cases e with
  | advance t =>
    by_cases hcan : s.oscillator.CanAdvance t ∧ s.jumps = []
    · rw [step, if_pos hcan] at hs
      cases hs
      exact hcall ⟨⟨(advance_ok h.sound hcan.1).1, h.known, h.idle⟩, fun _ => ⟨rfl, fun _ => rfl⟩⟩
    · rw [step, if_neg hcan] at hs
      cases hs
  | handleMessage =>
    by_cases hdue : s.oscillator.tickEventNow = false ∧
        s.oscillator.tickMessage = some s.oscillator.time ∧ s.jumps = []
    · rw [step, if_pos hdue] at hs
      obtain ⟨tick, ticks, hq, _⟩ := Oscillator.due_first h.sound.coherent hdue.1 hdue.2.1
      by_cases hl : tick.listener = self
      · obtain ⟨o, htick, hsame, _, hknown, _⟩ :=
          handleMessage_self h.sound h.known hdue.1 hdue.2.1 hq hl
        rw [htick] at hs
        refine hcall ⟨onTick_idle hsame.sound hknown hs, fun hstop => ?_⟩
        have hmem : tick ∈ s.oscillator.own := by
          rw [Oscillator.mem_own, hq]
          exact ⟨List.mem_cons_self, hl⟩
        rw [h.idle hstop] at hmem
        cases hmem
      · obtain ⟨o, htick, hc, hsame, hown⟩ := handleMessage_other h.sound hdue.1 hdue.2.1 hq hl
        rw [htick] at hs
        cases hs
        exact hcall ⟨h.with_oscillator hc hsame hown, fun _ => ⟨rfl, fun _ => rfl⟩⟩
    · rw [step, if_neg hdue] at hs
      cases hs
  | handled =>
    by_cases hn : s.oscillator.tickEventNow = true ∧ s.jumps = []
    · rw [step, if_pos hn] at hs
      obtain ⟨o, ho, hs⟩ := bind_ok.mp hs
      cases hs
      have hcoh := h.sound.coherent
      exact hcall ⟨h.with_oscillator (Oscillator.coherent_handled hcoh ho).1
        (Oscillator.sameCount_handled hcoh ho) (Oscillator.own_handled hcoh ho),
        fun _ => ⟨rfl, fun _ => rfl⟩⟩
    · rw [step, if_neg hn] at hs
      cases hs
  | updateAndGetLocalTime =>
    obtain ⟨⟨t, m⟩, hm, rfl⟩ := map_ok.mp hs
    obtain ⟨_, rfl, rfl⟩ := h.sound.read_ok hm
    exact ⟨hread, fun hstop hu _ => ⟨rfl, fun _ => shown_of_unread (hu hstop).2⟩⟩
  | subscribeTimestamp listener eventTime kind =>
    obtain ⟨⟨x, m⟩, hm, rfl⟩ := map_ok.mp hs
    exact hcall (subscribeTimestamp_idle h hm)
  | subscribeDelta listener delta kind =>
    obtain ⟨⟨x, m⟩, hm, rfl⟩ := map_ok.mp hs
    obtain ⟨⟨t, m'⟩, hm', hm⟩ := bind_ok.mp hm
    obtain ⟨_, rfl, rfl⟩ := h.sound.read_ok hm'
    obtain ⟨hidle, hstill⟩ := subscribeTimestamp_idle hread hm
    refine ⟨hidle, fun hstop hu _ => ⟨(hstill hstop).delivered, fun hstop' => ?_⟩⟩
    exact ((hstill hstop).localTime hstop').trans (shown_of_unread (hu hstop).2)
  | unsubscribeTimestamp listener localTime kind =>
    change s.unsubscribeTimestamp listener localTime kind = .ok s' at hs
    exact hcall (idle_schedule hs ⟨h.sound.1, h.sound.2⟩ h.known rfl fun _ => rfl)
  | setLocalTime newTime =>
    cases hs
    refine ⟨?_, fun _ _ hne => absurd trivial hne⟩
    unfold setLocalTime
    split
    · exact ⟨⟨h.sound.1, h.sound.2⟩, h.known, h.idle⟩
    · exact ⟨⟨h.sound.1, h.sound.2⟩, h.known, h.idle⟩
  | fastForward => exact ⟨fastForward_idle h hs, fun _ _ hne => absurd trivial hne⟩
  | setClockRate f => exact hcall (setClockRate_idle h hf hs)
  | setDriftRate d =>
    change { s with driftRate := d }.scheduleNextTimestamp = .ok s' at hs
    exact hcall (idle_schedule hs ⟨h.sound.1, h.sound.2⟩ h.known rfl fun _ => rfl)
  | oscillator e =>
    by_cases he : Foreign e
    · rw [step, if_pos he] at hs
      obtain ⟨o, ho, hs⟩ := bind_ok.mp hs
      cases hs
      obtain ⟨hc, hsame⟩ := Oscillator.sameCount_foreign h.sound.coherent he ho
      exact hcall ⟨h.with_oscillator hc hsame (Oscillator.own_foreign h.sound.coherent he ho),
        fun _ => ⟨rfl, fun _ => rfl⟩⟩
    · rw [step, if_neg he] at hs
      cases hs

/-- **Reading a clock that is stopped leaves the time as it is exactly when it was read before.** -/
theorem read_stopped_iff (h : s.Sound) :
    s.read = .ok s.localTime ↔ s.rate ≠ 0 ∧ s.unread = 0 := by
  constructor
  · intro hread
    obtain ⟨⟨t, m⟩, hm, ht⟩ := map_ok.mp hread
    obtain ⟨hrate, rfl, _⟩ := h.read_ok hm
    refine ⟨hrate, ?_⟩
    have hshown : s.localTime + (s.unread : ℕ) * (1 / s.rate) = s.localTime := ht
    have hzero : ((s.unread : ℕ) : ℚ) * (1 / s.rate) = 0 := by linarith
    obtain h0 | h0 := mul_eq_zero.mp hzero
    · exact_mod_cast h0
    · exact absurd h0 (one_div_ne_zero hrate)
  · rintro ⟨hrate, h0⟩
    refine (updateAndGetLocalTime_total h hrate).trans (congrArg Except.ok ?_)
    exact shown_of_unread h0

/-- what holds of a clock that is stopped -/
structure Stands (s : RealtimeClock) : Prop where
  /-- no tick of it is subscribed -/
  idle : s.oscillator.own = []
  /-- and it shows the same time while it is not disturbed -/
  read : s.read = .ok s.localTime ↔ s.rate ≠ 0 ∧ s.unread = 0
  still : ∀ e s', PositiveRate e → s.Undisturbed e → ¬IsJump e → s.step e = .ok s' → Still s s'

theorem Idle.stands (h : s.Idle) (hstop : s.isStopped = true) : s.Stands :=
  ⟨h.idle hstop, read_stopped_iff h.sound,
    fun e s' hf hu hne hs => (idle_step h hf hs).2 hstop hu hne⟩

/-! ## changes of the configuration -/

/-- the ticks that went by are added -/
theorem advance_shown {t : SimTime} (h : s.Sound) (hs : s.step (.advance t) = .ok s') :
    s'.driftRate = s.driftRate ∧ s'.shown = s.shown +
      ⌊(t - s.oscillator.settled.timeOfLastTick) * s.oscillator.frequency⌋₊ * (1 / s.rate) := by
  by_cases hcan : s.oscillator.CanAdvance t ∧ s.jumps = []
  · rw [step, if_pos hcan] at hs
    cases hs
    exact ⟨rfl, congrArg IdealClock.localTime (advance_ok h hcan.1).2⟩
  · rw [step, if_neg hcan] at hs
    cases hs

theorem setLocalTime_shown (h : s.Sound) (t : SimTime) :
    (s.setLocalTime t).Sound ∧ (s.setLocalTime t).oscillator = s.oscillator ∧
      (s.setLocalTime t).driftRate = s.driftRate ∧
      (s.setLocalTime t).shown = t + s.unread * (1 / s.rate) := by
  unfold setLocalTime
  split
  · exact ⟨⟨h.1, h.2⟩, rfl, rfl, rfl⟩
  · exact ⟨⟨h.1, h.2⟩, rfl, rfl, rfl⟩

/-- the ticks that are unread are counted at the new rate -/
theorem setDriftRate_shown {d : ℚ} (h : s.Sound) (hs : s.setDriftRate d = .ok s') :
    Same { s with driftRate := d } s' ∧
      s'.shown = s.localTime + s.unread * (1 / (s.oscillator.frequency + d)) := by
  have hsame := scheduleNextTimestamp_ok hs ⟨h.1, h.2⟩
  exact ⟨hsame, congrArg IdealClock.localTime hsame.ideal⟩

theorem setClockRate_shown {f : ℚ} (h : s.Sound) (hf : 0 < f) (hs : s.setClockRate f = .ok s') :
    s'.driftRate = s.driftRate ∧
      s'.shown = s.localTime + (s'.tickCount - s.lastTick : ℕ) * (1 / (f + s.driftRate)) := by
  obtain ⟨o, ho, hs⟩ := bind_ok.mp hs
  obtain ⟨_, hfreq, hlast, _⟩ := Oscillator.setFrequency_left h.coherent hf ho
  have hsound : { s with oscillator := o }.Sound := by
    refine ⟨(Oscillator.coherent_setFrequency h.coherent hf ho).1, ?_⟩
    show s.lastTick ≤ o.lastTick
    rw [hlast]
    exact le_trans h.behind (Nat.le_add_right _ _)
  have hideal := (scheduleNextTimestamp_ok hs hsound).ideal
  refine ⟨congrArg IdealClock.driftRate hideal, ?_⟩
  rw [scheduleNextTimestamp_count hsound hs, ← hfreq]
  exact congrArg IdealClock.localTime hideal

/-- if no tick is unread the time that is shown is kept -/
theorem setDriftRate_kept {d : ℚ} (h : s.Sound) (hs : s.setDriftRate d = .ok s')
    (hread : d = s.driftRate ∨ s.unread = 0) : s'.shown = s.shown := by
  rw [(setDriftRate_shown h hs).2]
  obtain rfl | hread := hread
  · rfl
  · rw [shown_of_unread hread, hread, Nat.cast_zero, zero_mul, add_zero]

end RealtimeClock

/-! ## two clocks -/

/-- two clocks with the same history on one oscillator, except for their drift rates; each has a copy
of the oscillator, with its own ticks -/
structure TwoClocks where
  lower : RealtimeClock
  higher : RealtimeClock
  deriving DecidableEq

inductive ClocksEvent where
  /-- what only one of the clocks does: its ticks, its timestamps and its reads -/
  | lower (e : ClockEvent)
  | higher (e : ClockEvent)
  /-- what happens to both -/
  | advance (t : SimTime)
  | setLocalTime (newTime : SimTime)
  | setClockRate (clockRate : ℚ)
  | setDriftRates (low high : ℚ)
  deriving DecidableEq

namespace TwoClocks

open RealtimeClock

variable {s s' : TwoClocks}

def initializeClocks (frequency : ℚ) : Sim TwoClocks := do
  let clock ← initializeClock frequency
  return ⟨clock, clock⟩

/-- what is not part of the history that the clocks share -/
def Alone (e : ClockEvent) : Prop :=
  match e with
  | .advance _ | .setLocalTime _ | .setClockRate _ | .setDriftRate _ => False
  | _ => True

instance (e : ClockEvent) : Decidable (Alone e) :=
  match e with
  | .advance _ | .setLocalTime _ | .setClockRate _ | .setDriftRate _ =>
    inferInstanceAs (Decidable False)
  | .handleMessage | .handled | .updateAndGetLocalTime | .subscribeTimestamp .. | .subscribeDelta .. |
    .unsubscribeTimestamp .. | .fastForward | .oscillator _ => inferInstanceAs (Decidable True)

/-- the clocks count the same ticks of one oscillator -/
def SameOscillator (s : TwoClocks) : Prop :=
  s.higher.oscillator.time = s.lower.oscillator.time ∧
  s.higher.oscillator.frequency = s.lower.oscillator.frequency ∧
  s.higher.oscillator.settled.timeOfLastTick = s.lower.oscillator.settled.timeOfLastTick ∧
  s.higher.tickCount = s.lower.tickCount

instance (s : TwoClocks) : Decidable s.SameOscillator :=
  inferInstanceAs (Decidable (_ ∧ _ ∧ _ ∧ _))

def both (s : TwoClocks) (low high : ClockEvent) : Sim TwoClocks := do
  let lower ← s.lower.step low
  let higher ← s.higher.step high
  let s : TwoClocks := ⟨lower, higher⟩
  if s.SameOscillator then return s else .error (.assertion "one oscillator")

def step (s : TwoClocks) : ClocksEvent → Sim TwoClocks
  | .lower e =>
    if Alone e then do
      let lower ← s.lower.step e
      return { s with lower }
    else .error (.assertion "both clocks")
  | .higher e =>
    if Alone e then do
      let higher ← s.higher.step e
      return { s with higher }
    else .error (.assertion "both clocks")
  | .advance t => s.both (.advance t) (.advance t)
  | .setLocalTime t => s.both (.setLocalTime t) (.setLocalTime t)
  | .setClockRate f => s.both (.setClockRate f) (.setClockRate f)
  | .setDriftRates low high =>
    if low ≤ high then s.both (.setDriftRate low) (.setDriftRate high)
    else .error (.assertion "the higher drift rate")

/-- a tick does not add more to the lower clock -/
def Even (s : TwoClocks) : Prop :=
  s.lower.rate = s.higher.rate ∨ s.lower.rate ≤ 0 ∧ 0 ≤ s.higher.rate

instance (s : TwoClocks) : Decidable s.Even := inferInstanceAs (Decidable (_ ∨ _ ∧ _))

/-- the clocks do not differ -/
def Alike (s : TwoClocks) : Prop :=
  s.lower.localTime = s.higher.localTime ∧ s.lower.lastTick = s.higher.lastTick ∧
  s.lower.tickCount = s.higher.tickCount ∧ s.lower.driftRate = s.higher.driftRate

instance (s : TwoClocks) : Decidable s.Alike := inferInstanceAs (Decidable (_ ∧ _ ∧ _ ∧ _))

/-- ticks go by only while the rates are the same, or one clock runs backwards; and the rates change
while no tick is unread, or the clocks do not differ -/
def Paced (s : TwoClocks) (e : ClocksEvent) : Prop :=
  match e with
  | .lower _ | .higher _ => True
  | .advance t => s.Even ∨ ⌊(t - s.lower.oscillator.settled.timeOfLastTick) *
    s.lower.oscillator.frequency⌋₊ = 0
  | .setLocalTime _ => s.lower.unread = s.higher.unread ∧ (s.Even ∨ s.lower.unread = 0)
  | .setClockRate f => 0 < f ∧ (s.Alike ∨ s.lower.AtLastTick f ∧ s.higher.AtLastTick f)
  | .setDriftRates low high => s.Alike ∧ low = high ∨
    (low = s.lower.driftRate ∨ s.lower.unread = 0) ∧
      (high = s.higher.driftRate ∨ s.higher.unread = 0)

instance (s : TwoClocks) (e : ClocksEvent) : Decidable (s.Paced e) :=
  match e with
  | .lower _ | .higher _ => inferInstanceAs (Decidable True)
  | .advance _ => inferInstanceAs (Decidable (_ ∨ _))
  | .setLocalTime _ => inferInstanceAs (Decidable (_ ∧ _))
  | .setClockRate _ => inferInstanceAs (Decidable (_ ∧ _))
  | .setDriftRates _ _ => inferInstanceAs (Decidable (_ ∨ _))

/-! ## the clocks are ordered -/

structure Ordered (s : TwoClocks) : Prop where
  lower : s.lower.Idle
  higher : s.higher.Idle
  time : s.higher.oscillator.time = s.lower.oscillator.time
  frequency : s.higher.oscillator.frequency = s.lower.oscillator.frequency
  phase : s.higher.oscillator.settled.timeOfLastTick = s.lower.oscillator.settled.timeOfLastTick
  drift : s.lower.driftRate ≤ s.higher.driftRate
  shown : s.lower.shown ≤ s.higher.shown

/-- the increments of a tick are in order -/
theorem Even.increment (h : s.Even) : 1 / s.lower.rate ≤ 1 / s.higher.rate := by
  obtain heq | ⟨hlow, hhigh⟩ := h
  · rw [heq]
  · exact le_trans (one_div_nonpos.mpr hlow) (one_div_nonneg.mpr hhigh)

theorem alone_positive {e : ClockEvent} (ha : Alone e) : PositiveRate e := by
  cases e <;> first | exact absurd ha id | trivial

/-- what one clock does alone does not show -/
theorem alone_same {c c' : RealtimeClock} {e : ClockEvent} (h : c.Sound) (ha : Alone e)
    (hs : c.step e = .ok c') : Same c c' := by
  have hq : c.Quiet e := by
    cases e <;> first | exact absurd ha id | trivial
  have href := step_ideal h hq hs
  have hc : changeOf e = none := by
    cases e <;> first | exact absurd ha id | rfl
  have ht : timeAfter c.oscillator.time e = c.oscillator.time := by
    cases e <;> first | exact absurd ha id | rfl
  refine ⟨href.sound, href.time.trans ht, href.ideal.trans ?_⟩
  unfold idealStep
  rw [hc, ht]
  exact h.ideal_advance

theorem both_ok {low high : ClockEvent} (hs : s.both low high = .ok s') :
    s.lower.step low = .ok s'.lower ∧ s.higher.step high = .ok s'.higher ∧ s'.SameOscillator := by
  obtain ⟨a, ha, hs⟩ := bind_ok.mp hs
  obtain ⟨b, hb, hs⟩ := bind_ok.mp hs
  dsimp only at hs
  split at hs
  · rename_i hsame
    cases hs
    exact ⟨ha, hb, hsame⟩
  · cases hs

/-- **The clocks stay in order.** -/
theorem ordered_step {e : ClocksEvent} (h : s.Ordered) (hp : s.Paced e) (hs : s.step e = .ok s') :
    s'.Ordered := by
  cases e with
  | lower e =>
    by_cases ha : Alone e
    · rw [step, if_pos ha] at hs
      obtain ⟨c, hc, hs⟩ := bind_ok.mp hs
      cases hs
      have hsame := alone_same h.lower.sound ha hc
      have hi := hsame.ideal
      have hf : PositiveRate e := alone_positive ha
      exact ⟨(idle_step h.lower hf hc).1, h.higher, h.time.trans hsame.time.symm,
        h.frequency.trans (congrArg IdealClock.clockRate hi).symm,
        h.phase.trans (congrArg IdealClock.phase hi).symm,
        le_of_eq_of_le (congrArg IdealClock.driftRate hi) h.drift,
        le_of_eq_of_le (congrArg IdealClock.localTime hi) h.shown⟩
    · rw [step, if_neg ha] at hs
      cases hs
  | higher e =>
    by_cases ha : Alone e
    · rw [step, if_pos ha] at hs
      obtain ⟨c, hc, hs⟩ := bind_ok.mp hs
      cases hs
      have hsame := alone_same h.higher.sound ha hc
      have hi := hsame.ideal
      have hf : PositiveRate e := alone_positive ha
      exact ⟨h.lower, (idle_step h.higher hf hc).1, hsame.time.trans h.time,
        (congrArg IdealClock.clockRate hi).trans h.frequency,
        (congrArg IdealClock.phase hi).trans h.phase,
        le_of_le_of_eq h.drift (congrArg IdealClock.driftRate hi).symm,
        le_of_le_of_eq h.shown (congrArg IdealClock.localTime hi).symm⟩
    · rw [step, if_neg ha] at hs
      cases hs
  | advance t =>
    obtain ⟨hl, hh, htime, hfreq, hphase, _⟩ := both_ok hs
    have hlow := (idle_step (e := .advance t) h.lower trivial hl).1
    have hhigh := (idle_step (e := .advance t) h.higher trivial hh).1
    obtain ⟨hdl, hsl⟩ := advance_shown h.lower.sound hl
    obtain ⟨hdh, hsh⟩ := advance_shown h.higher.sound hh
    refine ⟨hlow, hhigh, htime, hfreq, hphase, ?_, ?_⟩
    · rw [hdl, hdh]
      exact h.drift
    · rw [hsl, hsh, h.phase, h.frequency]
      have hshown := h.shown
      obtain heven | hzero := hp
      · have := mul_le_mul_of_nonneg_left heven.increment (Nat.cast_nonneg (α := ℚ)
          ⌊(t - s.lower.oscillator.settled.timeOfLastTick) * s.lower.oscillator.frequency⌋₊)
        linarith
      · rw [hzero]
        simpa using hshown
  | setLocalTime t =>
    obtain ⟨hl, hh, htime, hfreq, hphase, _⟩ := both_ok hs
    have hlow := (idle_step (e := .setLocalTime t) h.lower trivial hl).1
    have hhigh := (idle_step (e := .setLocalTime t) h.higher trivial hh).1
    obtain ⟨_, _, hdl, hsl⟩ := setLocalTime_shown h.lower.sound t
    obtain ⟨_, _, hdh, hsh⟩ := setLocalTime_shown h.higher.sound t
    rw [show s.lower.setLocalTime t = s'.lower from Except.ok.inj hl] at hdl hsl
    rw [show s.higher.setLocalTime t = s'.higher from Except.ok.inj hh] at hdh hsh
    refine ⟨hlow, hhigh, htime, hfreq, hphase, ?_, ?_⟩
    · rw [hdl, hdh]
      exact h.drift
    · obtain ⟨hunread, hp⟩ := hp
      rw [hsl, hsh, ← hunread]
      obtain heven | hzero := hp
      · have := mul_le_mul_of_nonneg_left heven.increment (Nat.cast_nonneg (α := ℚ) s.lower.unread)
        linarith
      · simp [hzero]
  | setClockRate f =>
    obtain ⟨hl, hh, htime, hfreq, hphase, hcount⟩ := both_ok hs
    have hlow := (idle_step (e := .setClockRate f) h.lower hp.1 hl).1
    have hhigh := (idle_step (e := .setClockRate f) h.higher hp.1 hh).1
    obtain ⟨hdl, hsl⟩ := setClockRate_shown h.lower.sound hp.1 hl
    obtain ⟨hdh, hsh⟩ := setClockRate_shown h.higher.sound hp.1 hh
    refine ⟨hlow, hhigh, htime, hfreq, hphase, ?_, ?_⟩
    · rw [hdl, hdh]
      exact h.drift
    · obtain ⟨h1, h2, _, h4⟩ | ⟨hat, hat'⟩ := hp.2
      · rw [hsl, hsh, h1, h2, h4, hcount]
      · obtain ⟨_, _, hi⟩ := setClockRate_ok h.lower.sound hp.1 hat hl
        obtain ⟨_, _, hi'⟩ := setClockRate_ok h.higher.sound hp.1 hat' hh
        calc s'.lower.shown = s.lower.shown := congrArg IdealClock.localTime hi
          _ ≤ s.higher.shown := h.shown
          _ = s'.higher.shown := (congrArg IdealClock.localTime hi').symm
  | setDriftRates low high =>
    by_cases hle : low ≤ high
    · rw [step, if_pos hle] at hs
      obtain ⟨hl, hh, htime, hfreq, hphase, _⟩ := both_ok hs
      have hlow := (idle_step (e := .setDriftRate low) h.lower trivial hl).1
      have hhigh := (idle_step (e := .setDriftRate high) h.higher trivial hh).1
      obtain ⟨hsame, hsl⟩ := setDriftRate_shown h.lower.sound hl
      obtain ⟨hsame', hsh⟩ := setDriftRate_shown h.higher.sound hh
      have hdl : s'.lower.driftRate = low := congrArg IdealClock.driftRate hsame.ideal
      have hdh : s'.higher.driftRate = high := congrArg IdealClock.driftRate hsame'.ideal
      refine ⟨hlow, hhigh, htime, hfreq, hphase, ?_, ?_⟩
      · rw [hdl, hdh]
        exact hle
      · obtain ⟨⟨h1, h2, h3, _⟩, heq⟩ | ⟨hread, hread'⟩ := hp
        · have hunread : s.lower.unread = s.higher.unread := by
            unfold unread
            rw [h2, h3]
          rw [hsl, hsh, h1, hunread, heq, h.frequency]
        · rw [setDriftRate_kept h.lower.sound hl hread, setDriftRate_kept h.higher.sound hh hread']
          exact h.shown
    · rw [step, if_neg hle] at hs
      cases hs

/-- **A tick puts the clock with the higher rate behind**, if both run forward at different rates. -/
theorem advance_behind {t : SimTime} (h : s.Ordered) (heq : s.lower.shown = s.higher.shown)
    (hpos : 0 < s.lower.rate) (hlt : s.lower.rate < s.higher.rate)
    (htick : ⌊(t - s.lower.oscillator.settled.timeOfLastTick) * s.lower.oscillator.frequency⌋₊ ≠ 0)
    (hs : s.step (.advance t) = .ok s') : s'.higher.shown < s'.lower.shown := by
  obtain ⟨hl, hh, _⟩ := both_ok hs
  rw [(advance_shown h.lower.sound hl).2, (advance_shown h.higher.sound hh).2, h.phase, h.frequency,
    heq]
  have hinc := one_div_lt_one_div_of_lt hpos hlt
  have := mul_lt_mul_of_pos_left hinc (Nat.cast_pos (α := ℚ).mpr (Nat.pos_of_ne_zero htick))
  linarith

/-! ## runs -/

structure InOrder (s : TwoClocks) : Prop where
  /-- the clock with the higher drift rate is not behind -/
  shown : ∀ t t', s.lower.read = .ok t → s.higher.read = .ok t' → t ≤ t'
  lower : s.lower.isStopped = true → s.lower.Stands
  higher : s.higher.isStopped = true → s.higher.Stands

theorem Ordered.inOrder (h : s.Ordered) : s.InOrder := by
  have hread : ∀ c : RealtimeClock, c.Sound → ∀ t, c.read = .ok t → t = c.shown := by
    intro c hc t ht
    obtain ⟨⟨t', m⟩, hm, rfl⟩ := map_ok.mp ht
    exact (hc.read_ok hm).2.1
  refine ⟨fun t t' ht ht' => ?_, h.lower.stands, h.higher.stands⟩
  rw [hread _ h.lower.sound t ht, hread _ h.higher.sound t' ht']
  exact h.shown

/-- **Two clocks that are paced are in order**: the one with the higher drift rate is not behind, and
one that is stopped stands still while it is left alone. -/
theorem rates_ordered {f : ℚ} {es : List ClocksEvent} {s0 : TwoClocks}
    (h0 : initializeClocks f = .ok s0) (hm : Meets step Paced s0 es) (hr : run step s0 es = .ok s) :
    s.InOrder := by
  obtain ⟨c, hc, h0⟩ := bind_ok.mp h0
  cases h0
  obtain ⟨hf, rfl⟩ := initializeClock_ok hc
  have hidle : (started f).Idle :=
    ⟨⟨⟨⟨hf, le_refl _⟩, .nil, nofun, .inl rfl⟩, le_refl _⟩, nofun, fun _ => rfl⟩
  have hstart : (⟨started f, started f⟩ : TwoClocks).Ordered :=
    ⟨hidle, hidle, rfl, rfl, rfl, le_refl _, le_refl _⟩
  exact (run_invariant_of (I := Ordered) (fun _ _ _ hi hp hs => ordered_step hi hp hs) hstart hm
    hr).inOrder

/-- a timestamp on both clocks; then the lower one runs backwards, and is stopped at last -/
def pacedRun : List ClocksEvent :=
  [.setDriftRates 1 1, .lower (.subscribeTimestamp 1 1 0), .higher (.subscribeTimestamp 1 1 0),
   .advance 2, .lower .handleMessage, .lower .handled, .higher .handleMessage, .higher .handled,
   .setDriftRates (-2) 0, .advance 4, .lower (.subscribeTimestamp 1 5 0), .higher .updateAndGetLocalTime]

theorem rates_ordered_pacedRun : ∃ s0 s, initializeClocks 1 = .ok s0 ∧
    run step s0 pacedRun = .ok s ∧ s.InOrder ∧ s.lower.isStopped = true ∧
    s.lower.read = .ok (-1) ∧ s.higher.read = .ok 3 := by
  have h0 : initializeClocks 1 = .ok ⟨started 1, started 1⟩ := by decide +kernel
  have hm : Meets step Paced ⟨started 1, started 1⟩ pacedRun := by decide +kernel
  obtain ⟨s, hr, hread⟩ : ∃ s, run step ⟨started 1, started 1⟩ pacedRun = .ok s ∧
      s.lower.isStopped = true ∧ s.lower.read = .ok (-1) ∧ s.higher.read = .ok 3 :=
    exists_of_any (by decide +kernel)
  exact ⟨_, s, h0, hr, rates_ordered h0 hm hr, hread⟩

/-- **After two ticks the clock with the higher drift rate is behind**; one that is stopped goes back, or
fails when it is read. -/
theorem higher_behind : ∃ s0, initializeClocks 1 = .ok s0 ∧
    (∃ s, run step s0 [.setDriftRates 0 1, .advance 2] = .ok s ∧
      s.lower.read = .ok 2 ∧ s.higher.read = .ok 1) ∧
    (∃ s, run step s0 [.setDriftRates (-2) 0, .advance 3] = .ok s ∧ s.lower.isStopped = true ∧
      s.lower.localTime = 0 ∧ s.lower.read = .ok (-3)) ∧
    ∃ s, run step s0 [.setDriftRates (-1) 0] = .ok s ∧ s.lower.isStopped = true ∧
      s.lower.read = .error (.runtimeError "division by zero") := by
  refine ⟨⟨started 1, started 1⟩, by decide +kernel, exists_of_any (by decide +kernel),
    exists_of_any (by decide +kernel), exists_of_any (by decide +kernel)⟩

end TwoClocks

end Nesting
