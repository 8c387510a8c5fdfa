import Nesting.Clock.Timestamps

/-!
# Timestamps are delivered once, in order and at their ticks

* `Recorded`   every timestamp is delivered, unsubscribed or pending, in order;
* `Punctual`   what holds of a clock whose first timestamp has its tick;
* `Admitted`   targets lie ahead, and the clock runs on as it is;
* `Unread`     the clock was not read at this tick before a timestamp of it is delivered;
* `timestamps_delivered_once`  **while it is unread, every timestamp is delivered once, at its tick.**
-/

set_option linter.unusedVariables false

namespace Nesting

open Lib

theorem Timestamp.key_lt_of_localTime_lt {a b : Timestamp} (h : a.localTime < b.localTime) :
    a.key < b.key := by
  unfold key mkKey
  rw [Prod.Lex.toLex_lt_toLex]
  exact .inl h

theorem Timestamp.localTime_le_of_key_lt {a b : Timestamp} (h : a.key < b.key) :
    a.localTime ≤ b.localTime := by
  by_contra hlt
  exact lt_asymm h (key_lt_of_localTime_lt (not_le.mp hlt))

namespace RealtimeClock

variable {s s' m : RealtimeClock} {f : ℚ}

/-! ## the records -/

structure Recorded (f : ℚ) (s : RealtimeClock) : Prop where
  ascending : Ascending Timestamp.key s.scheduledEvents
  positive : ∀ x ∈ s.scheduledEvents, 0 ≤ x.localTime
  ledger : Ledger Timestamp.object s.objects s.subscribed (s.delivered.map Prod.fst) s.unsubscribed
    s.scheduledEvents
  /-- with the tick, and the local time of that tick -/
  punctual : ∀ d ∈ s.delivered, d.2.1 = dueTick f d.1.localTime ∧ d.2.2 = d.2.1 / f
  past : ∀ d ∈ s.delivered, d.2.1 ≤ s.tickCount
  order : s.delivered.Pairwise fun d d' => d.1.key < d'.1.key
  later : ∀ d ∈ s.delivered, ∀ x ∈ s.scheduledEvents, d.1.key < x.key

/-- ticks that go by and objects that are made -/
theorem Recorded.congr (h : s.Recorded f) (hq : s'.scheduledEvents = s.scheduledEvents)
    (ho : s.objects ≤ s'.objects) (hs : s'.subscribed = s.subscribed)
    (hu : s'.unsubscribed = s.unsubscribed) (hd : s'.delivered = s.delivered)
    (hc : s.tickCount ≤ s'.tickCount) : s'.Recorded f := by
  refine ⟨?_, ?_, ?_, ?_, ?_, ?_, ?_⟩
  · rw [hq]
    exact h.ascending
  · rw [hq]
    exact h.positive
  · rw [hq, hs, hu, hd]
    exact h.ledger.more ho
  · rw [hd]
    exact h.punctual
  · rw [hd]
    exact fun d hdm => le_trans (h.past d hdm) hc
  · rw [hd]
    exact h.order
  · rw [hd, hq]
    exact h.later

theorem Recorded.kept (h : s.Recorded f) (hk : Kept s s') : s'.Recorded f :=
  h.congr hk.scheduledEvents (le_of_eq hk.objects.symm) hk.subscribed hk.unsubscribed hk.delivered
    (le_of_eq hk.count.symm)

/-- a delivered timestamp is not after the local time -/
theorem Recorded.past_shown (h : s.Recorded f) (hs : s.Steady f) {d : Timestamp × Nat × SimTime}
    (hd : d ∈ s.delivered) : d.1.localTime ≤ s.shown := by
  rw [hs.shown_eq, ← dueTick_le hs.pos, ← (h.punctual d hd).1]
  exact h.past d hd

/-- the timestamp that `subscribeTimestamp` makes -/
def newTimestamp (s : RealtimeClock) (listener : Nat) (eventTime : SimTime) (kind : Nat) :
    Timestamp := ⟨s.objects, listener, eventTime, kind⟩

theorem Recorded.insert (h : s.Recorded f) (hs : s.Steady f) {x : Timestamp}
    (hx : x.object = s.objects) (ht : s.shown < x.localTime)
    (hnew : ∀ y ∈ s.scheduledEvents, y.key ≠ x.key) : Recorded f { s with
      objects := s.objects + 1
      scheduledEvents := insertAt Timestamp.key x s.scheduledEvents
      subscribed := s.subscribed ++ [x] } := by
  refine ⟨h.ascending.insertAt hnew, ?_, h.ledger.insert Timestamp.key hx, h.punctual, h.past,
    h.order, ?_⟩
  · intro y hy
    obtain rfl | hy := mem_insertAt.mp hy
    · have hpos : 0 ≤ s.shown := by
        rw [hs.shown_eq]
        exact div_nonneg (Nat.cast_nonneg _) (le_of_lt hs.pos)
      linarith
    · exact h.positive y hy
  · intro d hd y hy
    obtain rfl | hy := mem_insertAt.mp hy
    · exact Timestamp.key_lt_of_localTime_lt (lt_of_le_of_lt (h.past_shown hs hd) ht)
    · exact h.later d hd y hy

theorem Recorded.remove (h : s.Recorded f) (p : Timestamp → Bool) : Recorded f { s with
      scheduledEvents := s.scheduledEvents.filter fun x => !p x
      unsubscribed := s.unsubscribed ++ s.scheduledEvents.filter p } :=
  ⟨h.ascending.filter _, fun x hx => h.positive x (List.mem_of_mem_filter hx), h.ledger.remove p,
    h.punctual, h.past, h.order, fun d hd x hx => h.later d hd x (List.mem_of_mem_filter hx)⟩

/-- the first timestamp is delivered at its tick -/
theorem Recorded.deliver {x : Timestamp} {xs : List Timestamp} {t : SimTime} (h : s.Recorded f)
    (hq : s.scheduledEvents = x :: xs) (hn : s.tickCount = dueTick f x.localTime)
    (ht : t = s.tickCount / f) : Recorded f { s with
      scheduledEvents := xs
      delivered := s.delivered ++ [(x, s.tickCount, t)] } := by
  obtain ⟨h1, h2, h3, h4, h5, h6, h7⟩ := h
  rw [hq] at h1 h2 h3 h7
  refine ⟨h1.tail, fun y hy => h2 y (List.mem_cons_of_mem _ hy), ?_, ?_, ?_, ?_, ?_⟩
  · show Ledger Timestamp.object s.objects s.subscribed ((s.delivered ++ [_]).map Prod.fst)
      s.unsubscribed xs
    rw [List.map_append]
    exact h3.deliver
  · intro d hd
    obtain hd | hd := List.mem_append.mp hd
    · exact h4 d hd
    · rw [List.mem_singleton.mp hd]
      exact ⟨hn, ht⟩
  · intro d hd
    obtain hd | hd := List.mem_append.mp hd
    · exact h5 d hd
    · rw [List.mem_singleton.mp hd]
      exact le_refl _
  · refine List.pairwise_append.mpr ⟨h6, List.pairwise_singleton _ _, ?_⟩
    intro d hd d' hd'
    rw [List.mem_singleton.mp hd']
    exact h7 d hd x List.mem_cons_self
  · intro d hd y hy
    obtain hd | hd := List.mem_append.mp hd
    · exact h7 d hd y (List.mem_cons_of_mem _ hy)
    · rw [List.mem_singleton.mp hd]
      exact h1.head_lt hy

/-! ## the invariant -/

structure Punctual (f : ℚ) (s : RealtimeClock) : Prop where
  steady : s.Steady f
  armed : s.Armed f
  recorded : s.Recorded f

/-- the first timestamp is ahead like its tick, and the others come after it -/
theorem Punctual.ahead (h : s.Punctual f) : s.Ahead f := by
  intro x hx
  refine ⟨h.recorded.positive x hx, ?_⟩
  cases hq : s.scheduledEvents with
  | nil =>
    rw [hq] at hx
    cases hx
  | cons y ys =>
    obtain ⟨e, he, _, _, htick⟩ := h.armed.first y ys hq
    have hgrid := h.steady.coherent.grid e he
    have hahead := hgrid.ahead
    rw [h.steady.books.scheduled hgrid, htick] at hahead
    have hle : y.localTime ≤ x.localTime := by
      have hasc := h.recorded.ascending
      rw [hq] at hasc hx
      obtain rfl | hx := List.mem_cons.mp hx
      · exact le_refl _
      · exact Timestamp.localTime_le_of_key_lt (hasc.head_lt hx)
    refine le_trans hahead (div_le_div_of_nonneg_right ?_ (le_of_lt h.steady.pos))
    exact_mod_cast dueTick_mono h.steady.pos hle

/-- scheduling makes a recorded state punctual -/
theorem punctual_scheduleNextTimestamp (hr : s.Recorded f) (h : s.Steady f) (ho : s.Own)
    (ha : s.Ahead f) : ∃ s', s.scheduleNextTimestamp = .ok s' ∧ s'.Punctual f ∧ Kept s s' := by
  obtain ⟨s', hs, hst, harm, hk⟩ := scheduleNextTimestamp_armed h ho ha
  exact ⟨s', hs, ⟨hst, harm, hr.kept hk⟩, hk⟩

/-! ## calls -/

theorem Punctual.updated (h : s.Punctual f) : s.updated.Punctual f :=
  ⟨h.steady.updated, ⟨⟨h.armed.listener, h.armed.known⟩, h.armed.idle, h.armed.first⟩,
    h.recorded.congr rfl (le_refl _) rfl rfl rfl (le_of_eq
      (Oscillator.sameCount_settled h.steady.coherent.toRunning).count.symm)⟩

/-- a target after the local time lies ahead -/
theorem Steady.target (h : s.Steady f) {t : SimTime} (ht : s.shown < t) :
    s.oscillator.time ≤ dueTick f t / f := by
  have hlt : s.tickCount < dueTick f t := by
    rw [lt_dueTick h.pos, ← h.shown_eq]
    exact ht
  have hsucc : ((s.tickCount + 1 : ℕ) : ℚ) ≤ dueTick f t := by exact_mod_cast hlt
  have hfl := Nat.lt_floor_add_one (s.oscillator.time * f)
  rw [← h.count_eq] at hfl
  rw [le_div_iff₀ h.pos]
  push_cast at hsucc
  linarith

/-- **A pending timestamp is not subscribed again.** -/
theorem subscribeTimestamp_pending (h : s.Punctual f) {p : Timestamp} (hp : p ∈ s.scheduledEvents)
    {listener kind : Nat} {eventTime : SimTime}
    (hk : p.key = Timestamp.mkKey eventTime kind listener) :
    ∃ s', s.subscribeTimestamp listener eventTime kind = .ok (p, s') ∧ s'.Punctual f ∧
      s'.scheduledEvents = s.scheduledEvents := by
  have hst := h.steady
  obtain ⟨s', hs, hpun, hkept⟩ := punctual_scheduleNextTimestamp
    (s := { s with objects := s.objects + 1 })
    (h.recorded.congr rfl (Nat.le_succ _) rfl rfl rfl (le_refl _))
    ⟨hst.1, hst.2, hst.3, hst.4, hst.5, hst.6, hst.7⟩ ⟨h.armed.listener, h.armed.known⟩ h.ahead
  refine ⟨s', ?_, hpun, hkept.scheduledEvents⟩
  unfold subscribeTimestamp
  dsimp only
  rw [show Timestamp.key ⟨s.objects, listener, eventTime, kind⟩ = p.key from hk.symm,
    lookup_eq_some h.recorded.ascending hp]
  exact bind_ok.mpr ⟨s', hs, rfl⟩

/-- **A new timestamp is put into its place.** -/
theorem subscribeTimestamp_new (h : s.Punctual f) {listener kind : Nat} {eventTime : SimTime}
    (ht : s.shown < eventTime)
    (hnew : ∀ y ∈ s.scheduledEvents, y.key ≠ (s.newTimestamp listener eventTime kind).key) :
    ∃ s', s.subscribeTimestamp listener eventTime kind =
        .ok (s.newTimestamp listener eventTime kind, s') ∧ s'.Punctual f ∧
      s'.scheduledEvents =
        insertAt Timestamp.key (s.newTimestamp listener eventTime kind) s.scheduledEvents := by
  have hst := h.steady
  have hrec := h.recorded.insert hst (x := s.newTimestamp listener eventTime kind) rfl ht hnew
  have hahead : ∀ x ∈ insertAt Timestamp.key (s.newTimestamp listener eventTime kind)
      s.scheduledEvents, 0 ≤ x.localTime ∧ s.oscillator.time ≤ dueTick f x.localTime / f := by
    intro x hx
    refine ⟨hrec.positive x hx, ?_⟩
    obtain rfl | hx := mem_insertAt.mp hx
    · exact hst.target ht
    · exact (h.ahead x hx).2
  obtain ⟨s', hs, hpun, hk⟩ := punctual_scheduleNextTimestamp hrec
    ⟨hst.1, hst.2, hst.3, hst.4, hst.5, hst.6, hst.7⟩ ⟨h.armed.listener, h.armed.known⟩ hahead
  refine ⟨s', ?_, hpun, hk.scheduledEvents⟩
  unfold subscribeTimestamp
  dsimp only
  rw [show Timestamp.key ⟨s.objects, listener, eventTime, kind⟩ =
    (s.newTimestamp listener eventTime kind).key from rfl,
    (lookup_eq_none h.recorded.ascending).mpr hnew]
  exact bind_ok.mpr ⟨s', hs, rfl⟩

theorem subscribeTimestamp_total (h : s.Punctual f) (listener : Nat) {eventTime : SimTime}
    (kind : Nat) (ht : s.shown < eventTime) :
    ∃ r, s.subscribeTimestamp listener eventTime kind = .ok r ∧ r.2.Punctual f := by
  cases hl : lookup Timestamp.key (s.newTimestamp listener eventTime kind).key
      s.scheduledEvents with
  | some p =>
    obtain ⟨hp, hk⟩ := lookup_mem hl
    obtain ⟨s', hs, hpun, _⟩ := subscribeTimestamp_pending h hp hk
    exact ⟨_, hs, hpun⟩
  | none =>
    obtain ⟨s', hs, hpun, _⟩ :=
      subscribeTimestamp_new h ht ((lookup_eq_none h.recorded.ascending).mp hl)
    exact ⟨_, hs, hpun⟩

theorem unsubscribeTimestamp_total (h : s.Punctual f) (listener : Nat) (localTime : SimTime)
    (kind : Nat) : ∃ s', s.unsubscribeTimestamp listener localTime kind = .ok s' ∧ s'.Punctual f ∧
      s'.scheduledEvents = s.scheduledEvents.filter fun x =>
        !decide (x.key = Timestamp.mkKey localTime kind listener) := by
  have hst := h.steady
  have hrec := h.recorded.remove fun x => decide (x.key = Timestamp.mkKey localTime kind listener)
  obtain ⟨s', hs, hpun, hk⟩ := punctual_scheduleNextTimestamp hrec
    ⟨hst.1, hst.2, hst.3, hst.4, hst.5, hst.6, hst.7⟩ ⟨h.armed.listener, h.armed.known⟩
    fun x hx => h.ahead x (List.mem_of_mem_filter hx)
  refine ⟨s', ?_, hpun, hk.scheduledEvents⟩
  unfold unsubscribeTimestamp
  dsimp only
  rw [removeAt_eq h.recorded.ascending, lookup_toList h.recorded.ascending]
  simp only [decide_not, ne_eq]
  exact hs

/-! ## ticks -/

theorem Punctual.with_oscillator (h : s.Punctual f) {o : Oscillator}
    (hf : Oscillator.Follows f s.oscillator o)
    (hown : ∀ y : Tick, y.listener = self →
      (y ∈ o.scheduledEvents ↔ y ∈ s.oscillator.scheduledEvents)) :
    { s with oscillator := o }.Punctual f := by
  have hst := h.steady
  refine ⟨⟨hf.coherent, hf.books, hst.running, hst.drift, le_trans hst.behind hf.same.later,
    hst.localTime, hst.jumps⟩, ⟨⟨h.armed.listener, fun e he hl => ?_⟩, h.armed.idle, ?_⟩, ?_⟩
  · exact h.armed.known e ((hown e hl).mp he) hl
  · intro x xs hq
    obtain ⟨e, he, hnext, hk, ht⟩ := h.armed.first x xs hq
    exact ⟨e, (hown e (h.armed.listener e hnext)).mpr he, hnext, hk, ht⟩
  · exact h.recorded.congr rfl (le_refl _) rfl rfl rfl (le_of_eq hf.same.count.symm)

/-- the clock is not ahead of a timestamp of this tick, if it was not read at it -/
theorem Steady.localTime_le_iff (h : s.Steady f) {t : SimTime} (ht : s.tickCount = dueTick f t) :
    s.localTime ≤ t ↔ s.lastTick < s.tickCount ∨ t = s.localTime := by
  rw [ht, lt_dueTick h.pos, ← h.localTime]
  constructor
  · intro hle
    obtain hlt | heq := lt_or_eq_of_le hle
    · exact .inl hlt
    · exact .inr heq.symm
  · intro hor
    obtain hlt | heq := hor
    · exact le_of_lt hlt
    · exact le_of_eq heq.symm

theorem onTick_late {x : Timestamp} {xs : List Timestamp} (hq : s.scheduledEvents = x :: xs)
    (hle : ¬s.localTime ≤ x.localTime) :
    s.onTick = .error (.assertion "localTime <= currentEvent->getLocalTime()") := by
  unfold onTick
  rw [hq]
  dsimp only
  rw [decide_eq_false hle]
  rfl

/-- **The first timestamp is delivered.** -/
theorem onTick_due (h : s.Steady f) (ho : s.Own) (hr : s.Recorded f) (ha : s.Ahead f)
    {x : Timestamp} {xs : List Timestamp} (hq : s.scheduledEvents = x :: xs)
    (hn : s.tickCount = dueTick f x.localTime) (hle : s.localTime ≤ x.localTime) :
    ∃ s', s.onTick = .ok s' ∧ s'.Punctual f ∧ s'.scheduledEvents = xs ∧
      s'.delivered = s.delivered ++ [(x, dueTick f x.localTime, dueTick f x.localTime / f)] := by
  have hst : { s with scheduledEvents := xs }.Steady f :=
    ⟨h.1, h.2, h.3, h.4, h.5, h.6, h.7⟩
  obtain ⟨m, hm, hstm, harm, hk⟩ := scheduleNextTimestamp_armed hst.updated
    ⟨ho.listener, ho.known⟩ fun y hy => ha y (by rw [hq]; exact List.mem_cons_of_mem _ hy)
  have hcount : m.tickCount = s.tickCount :=
    hk.count.trans (Oscillator.sameCount_settled h.coherent.toRunning).count
  have hlast : m.lastTick = s.tickCount :=
    le_antisymm (le_of_le_of_eq hstm.behind_count hcount) hk.later
  have hshown : { s with scheduledEvents := xs }.shown = s.tickCount / f := h.shown_eq
  refine ⟨{ m with delivered := s.delivered ++ [(x, s.tickCount, s.tickCount / f)] }, ?_, ?_,
    hk.scheduledEvents, ?_⟩
  · unfold onTick
    rw [hq]
    dsimp only
    rw [decide_eq_true hle]
    refine bind_ok.mpr ⟨(), rfl, ?_⟩
    refine bind_ok.mpr ⟨_, updateAndGetLocalTime_eq hst, ?_⟩
    refine bind_ok.mpr ⟨m, hm, ?_⟩
    rw [hlast, hshown, hk.delivered]
    rfl
  · refine ⟨⟨hstm.1, hstm.2, hstm.3, hstm.4, hstm.5, hstm.6, hstm.7⟩,
      ⟨⟨harm.listener, harm.known⟩, harm.idle, harm.first⟩, ?_⟩
    exact (hr.deliver hq hn rfl).congr hk.scheduledEvents (le_of_eq hk.objects.symm) hk.subscribed
      hk.unsubscribed rfl (le_of_eq hcount.symm)
  · rw [← hn]

/-- the clock was not read at the tick that is delivered, or the timestamp is that of the tick -/
def Unread (s : RealtimeClock) : Prop :=
  ∀ tick ∈ s.oscillator.scheduledEvents.head?, tick.listener = self →
    ∀ x ∈ s.scheduledEvents.head?, s.lastTick < tick.tick ∨ x.localTime = s.localTime

instance (s : RealtimeClock) : Decidable s.Unread :=
  inferInstanceAs (Decidable (∀ tick ∈ _, _ → ∀ x ∈ _, _))

/-- **What a tick does**, for the clock and for other listeners. -/
theorem handleMessage_due (h : s.Punctual f) (hn : s.oscillator.tickEventNow = false)
    (hm : s.oscillator.tickMessage = some s.oscillator.time) :
    ∃ tick ticks, s.oscillator.scheduledEvents = tick :: ticks ∧
      (tick.listener ≠ self → ∃ s', s.step .handleMessage = .ok s' ∧ s'.Punctual f ∧
        s'.scheduledEvents = s.scheduledEvents ∧ s'.delivered = s.delivered) ∧
      (tick.listener = self → ∃ x xs, s.scheduledEvents = x :: xs ∧
        (s.Unread → ∃ s', s.step .handleMessage = .ok s' ∧ s'.Punctual f ∧
          s'.scheduledEvents = xs ∧
          s'.delivered = s.delivered ++ [(x, dueTick f x.localTime, dueTick f x.localTime / f)]) ∧
        (¬s.Unread → s.step .handleMessage =
          .error (.assertion "localTime <= currentEvent->getLocalTime()"))) := by
  have hst := h.steady
  obtain ⟨tick, ticks, o, ho, hq, hqo, hfol, htick, _⟩ :=
    Oscillator.handleMessage_follows hst.coherent hst.books hn hm
  have hstep : s.step .handleMessage =
      if tick.listener = self then { s with oscillator := o }.onTick
      else .ok { s with oscillator := o } := by
    show (if _ then _ else _) = _
    rw [if_pos ⟨hn, hm, hst.jumps⟩]
    unfold handleMessage
    rw [ho]
    rfl
  refine ⟨tick, ticks, hq, fun hl => ?_, fun hl => ?_⟩
  · rw [hstep, if_neg hl]
    refine ⟨_, rfl, h.with_oscillator hfol fun y hy => ?_, rfl, rfl⟩
    rw [hqo, hq, List.mem_cons]
    have hne : y ≠ tick := by
      rintro rfl
      exact hl hy
    rw [or_iff_right hne]
  · rw [hstep, if_pos hl]
    have hnext := h.armed.known tick (by rw [hq]; exact List.mem_cons_self) hl
    obtain ⟨x, xs, hx⟩ : ∃ x xs, s.scheduledEvents = x :: xs := by
      apply List.exists_cons_of_ne_nil
      intro hx
      rw [h.armed.idle hx] at hnext
      cases hnext
    refine ⟨x, xs, hx, ?_⟩
    obtain ⟨e, _, hnext', _, hdue⟩ := h.armed.first x xs hx
    rw [hnext] at hnext'
    cases hnext'
    have hst' : { s with oscillator := o }.Steady f :=
      ⟨hfol.coherent, hfol.books, hst.running, hst.drift, le_trans hst.behind hfol.same.later,
        hst.localTime, hst.jumps⟩
    have hcount : { s with oscillator := o }.tickCount = dueTick f x.localTime :=
      hfol.same.count.trans (htick.trans hdue)
    have hunread : s.Unread ↔ s.localTime ≤ x.localTime := by
      rw [show s.localTime ≤ x.localTime ↔ _ from hst'.localTime_le_iff hcount, hcount, ← hdue]
      unfold Unread
      rw [hq, hx]
      simp [hl]
    rw [hunread]
    refine ⟨fun hle => ?_, fun hle => onTick_late hx hle⟩
    refine onTick_due hst' ⟨h.armed.listener, fun y hy => h.armed.known y ?_⟩ ?_ ?_ hx hcount hle
    · rw [hq]
      exact List.mem_cons_of_mem _ (by rwa [← hqo])
    · exact h.recorded.congr rfl (le_refl _) rfl rfl rfl (le_of_eq hfol.same.count.symm)
    · intro y hy
      exact ⟨h.recorded.positive y hy, le_of_eq_of_le hfol.same.time (h.ahead y hy).2⟩

/-! ## runs -/

/-- targets lie ahead, nothing is changed, and others subscribe ticks that the oscillator takes -/
def Admitted (s : RealtimeClock) (e : ClockEvent) : Prop :=
  match e with
  | .subscribeTimestamp _ eventTime _ => s.shown < eventTime
  | .subscribeDelta _ delta _ => 0 < delta
  | .setLocalTime _ | .fastForward | .setClockRate _ | .setDriftRate _ => False
  | .oscillator e => Foreign e ∧ s.oscillator.Timely e
  | .advance _ | .handleMessage | .handled | .updateAndGetLocalTime | .unsubscribeTimestamp .. => True

instance (s : RealtimeClock) (e : ClockEvent) : Decidable (s.Admitted e) :=
  match e with
  | .subscribeTimestamp _ eventTime _ => inferInstanceAs (Decidable (s.shown < eventTime))
  | .subscribeDelta _ delta _ => inferInstanceAs (Decidable (0 < delta))
  | .setLocalTime _ | .fastForward | .setClockRate _ | .setDriftRate _ =>
    inferInstanceAs (Decidable False)
  | .oscillator e => inferInstanceAs (Decidable (Foreign e ∧ s.oscillator.Timely e))
  | .advance _ | .handleMessage | .handled | .updateAndGetLocalTime | .unsubscribeTimestamp .. =>
    inferInstanceAs (Decidable True)

def IsCall (e : ClockEvent) : Prop :=
  match e with
  | .advance _ | .handleMessage | .handled => False
  | _ => True

/-- **An admitted call does not fail.** -/
theorem punctual_call (h : s.Punctual f) {e : ClockEvent} (hcall : IsCall e) (ha : s.Admitted e) :
    ∃ s', s.step e = .ok s' ∧ s'.Punctual f := by
  have hst := h.steady
  cases e with
  | advance t => exact absurd hcall id
  | handleMessage => exact absurd hcall id
  | handled => exact absurd hcall id
  | setLocalTime newTime => exact absurd ha id
  | fastForward => exact absurd ha id
  | setClockRate clockRate => exact absurd ha id
  | setDriftRate driftRate => exact absurd ha id
  | updateAndGetLocalTime =>
    exact ⟨s.updated, map_ok.mpr ⟨_, updateAndGetLocalTime_eq hst, rfl⟩, h.updated⟩
  | subscribeTimestamp listener eventTime kind =>
    obtain ⟨r, hr, hp⟩ := subscribeTimestamp_total h listener kind ha
    exact ⟨r.2, map_ok.mpr ⟨r, hr, rfl⟩, hp⟩
  | subscribeDelta listener delta kind =>
    have hlt : s.updated.shown < s.shown + delta := by
      have hshown : s.updated.shown = s.shown := by
        rw [hst.updated.shown_eq, hst.shown_eq]
        exact congrArg (fun n : ℕ => (n : ℚ) / f)
          (Oscillator.sameCount_settled hst.coherent.toRunning).count
      change 0 < delta at ha
      linarith
    obtain ⟨r, hr, hp⟩ := subscribeTimestamp_total h.updated listener kind hlt
    exact ⟨r.2, map_ok.mpr ⟨r, bind_ok.mpr ⟨_, updateAndGetLocalTime_eq hst, hr⟩, rfl⟩, hp⟩
  | unsubscribeTimestamp listener localTime kind =>
    obtain ⟨s', hs, hp, _⟩ := unsubscribeTimestamp_total h listener localTime kind
    exact ⟨s', hs, hp⟩
  | oscillator e =>
    obtain ⟨o, ho⟩ := Oscillator.foreign_call hst.coherent ha.1 ha.2
    obtain ⟨hfol, hown⟩ := Oscillator.foreign_follows hst.coherent hst.books ha.1 ho
    refine ⟨{ s with oscillator := o }, ?_, h.with_oscillator hfol.toFollows hown⟩
    show (if Foreign e then _ else _) = _
    rw [if_pos ha.1]
    exact bind_ok.mpr ⟨o, ho, rfl⟩

theorem punctual_advance (h : s.Punctual f) {t : SimTime} (ht : s.oscillator.CanAdvance t) :
    { s with oscillator := { s.oscillator with time := t } }.Punctual f := by
  have hst := h.steady
  have hstep : s.oscillator.step (.advance t) = .ok { s.oscillator with time := t } := if_pos ht
  have hst' : { s with oscillator := { s.oscillator with time := t } }.Steady f :=
    ⟨Oscillator.coherent_advance hst.coherent ht,
      Oscillator.books_step (e := .advance t) hst.coherent hst.books trivial hstep,
      hst.running, hst.drift, hst.behind, hst.localTime, hst.jumps⟩
  refine ⟨hst', ⟨⟨h.armed.listener, h.armed.known⟩, h.armed.idle, h.armed.first⟩, ?_⟩
  refine h.recorded.congr rfl (le_refl _) rfl rfl rfl ?_
  rw [hst.count_eq, hst'.count_eq]
  exact Nat.floor_le_floor (mul_le_mul_of_nonneg_right ht.2.1 (le_of_lt hst.pos))

theorem punctual_handled (h : s.Punctual f) (hn : s.oscillator.tickEventNow = true) :
    ∃ s', s.step .handled = .ok s' ∧ s'.Punctual f ∧ s'.scheduledEvents = s.scheduledEvents := by
  obtain ⟨o, ho, hfol, hq, _⟩ := Oscillator.handled_follows h.steady.coherent h.steady.books hn
  refine ⟨{ s with oscillator := o }, ?_, h.with_oscillator hfol fun y hy => by rw [hq], rfl⟩
  show (if _ then _ else _) = _
  rw [if_pos ⟨hn, h.steady.jumps⟩]
  exact bind_ok.mpr ⟨o, ho, rfl⟩

theorem punctual_step {e : ClockEvent} (h : s.Punctual f) (ha : s.Admitted e)
    (hs : s.step e = .ok s') : s'.Punctual f := by
  have hcall : IsCall e → s'.Punctual f := by
    intro hc
    obtain ⟨m, hm, hp⟩ := punctual_call h hc ha
    rw [hm] at hs
    cases hs
    exact hp
  cases e with
  | advance t =>
    by_cases hcan : s.oscillator.CanAdvance t ∧ s.jumps = []
    · rw [step, if_pos hcan] at hs
      cases hs
      exact punctual_advance h hcan.1
    · rw [step, if_neg hcan] at hs
      cases hs
  | handleMessage =>
    by_cases hdue : s.oscillator.tickEventNow = false ∧
        s.oscillator.tickMessage = some s.oscillator.time
    · obtain ⟨tick, ticks, _, hother, hself⟩ := handleMessage_due h hdue.1 hdue.2
      by_cases hl : tick.listener = self
      · obtain ⟨x, xs, _, hunread, hread⟩ := hself hl
        by_cases hu : s.Unread
        · obtain ⟨m, hm, hp, _⟩ := hunread hu
          rw [hm] at hs
          cases hs
          exact hp
        · rw [hread hu] at hs
          cases hs
      · obtain ⟨m, hm, hp, _⟩ := hother hl
        rw [hm] at hs
        cases hs
        exact hp
    · rw [step, if_neg fun hand => hdue ⟨hand.1, hand.2.1⟩] at hs
      cases hs
  | handled =>
    by_cases hn : s.oscillator.tickEventNow = true
    · obtain ⟨m, hm, hp, _⟩ := punctual_handled h hn
      rw [hm] at hs
      cases hs
      exact hp
    · rw [step, if_neg fun hand => hn hand.1] at hs
      cases hs
  | setLocalTime newTime => exact absurd ha id
  | fastForward => exact absurd ha id
  | setClockRate clockRate => exact absurd ha id
  | setDriftRate driftRate => exact absurd ha id
  | updateAndGetLocalTime => exact hcall trivial
  | subscribeTimestamp listener eventTime kind => exact hcall trivial
  | subscribeDelta listener delta kind => exact hcall trivial
  | unsubscribeTimestamp listener localTime kind => exact hcall trivial
  | oscillator e => exact hcall trivial

theorem punctual_initializeClock (hf : minEffectiveClockRate ≤ f) (hs : initializeClock f = .ok s) :
    s.Punctual f := by
  obtain ⟨hpos, rfl⟩ := initializeClock_ok hs
  have hzero : (0 : ℚ) = (0 : ℕ) / f := by rw [Nat.cast_zero, zero_div]
  refine ⟨⟨⟨⟨hpos, le_refl _⟩, .nil, nofun, .inl rfl⟩,
    ⟨rfl, hzero, .nil, nofun, List.nodup_nil, nofun⟩, hf, rfl, le_refl _, hzero, rfl⟩,
    ⟨⟨nofun, nofun⟩, fun _ => rfl, nofun⟩, ⟨.nil, nofun, .empty, nofun, nofun, .nil, nofun⟩⟩

/-- an assertion of `onTick` fails -/
def late : SimError := .assertion "localTime <= currentEvent->getLocalTime()"

/-- a tick is delivered while it is unread -/
def Fresh (s : RealtimeClock) (e : ClockEvent) : Prop :=
  e = .handleMessage → s.oscillator.tickEventNow = false →
    s.oscillator.tickMessage = some s.oscillator.time → s.Unread

instance (s : RealtimeClock) (e : ClockEvent) : Decidable (s.Fresh e) :=
  inferInstanceAs (Decidable (_ → _ → _ → _))

theorem ok_ne_late : (.ok m : Sim RealtimeClock) ≠ .error late := by
  intro h
  cases h

/-- **The assertion fails exactly when the tick was read.** -/
theorem step_late_iff (h : s.Punctual f) {e : ClockEvent} (ha : s.Admitted e) :
    s.step e = .error late ↔ ¬s.Fresh e := by
  have hcall : IsCall e → (s.step e = .error late ↔ ¬s.Fresh e) := by
    intro hc
    obtain ⟨m, hm, _⟩ := punctual_call h hc ha
    refine iff_of_false ?_ (not_not_intro ?_)
    · rw [hm]
      exact ok_ne_late
    · rintro rfl
      exact absurd hc id
  cases e with
  | advance t =>
    refine iff_of_false ?_ (not_not_intro ?_)
    · rw [step]
      split
      · exact ok_ne_late
      · simp [late]
    · intro he
      cases he
  | handleMessage =>
    by_cases hdue : s.oscillator.tickEventNow = false ∧
        s.oscillator.tickMessage = some s.oscillator.time
    · obtain ⟨tick, ticks, hq, hother, hself⟩ := handleMessage_due h hdue.1 hdue.2
      have hfresh : s.Fresh .handleMessage ↔ s.Unread :=
        ⟨fun hf => hf rfl hdue.1 hdue.2, fun hu _ _ _ => hu⟩
      rw [hfresh]
      by_cases hl : tick.listener = self
      · obtain ⟨x, xs, _, hunread, hread⟩ := hself hl
        by_cases hu : s.Unread
        · obtain ⟨m, hm, _⟩ := hunread hu
          rw [hm]
          exact iff_of_false ok_ne_late (not_not_intro hu)
        · exact iff_of_true (hread hu) hu
      · obtain ⟨m, hm, _⟩ := hother hl
        rw [hm]
        refine iff_of_false ok_ne_late (not_not_intro ?_)
        unfold Unread
        rw [hq]
        simp [hl]
    · refine iff_of_false ?_ (not_not_intro fun _ hn hm => absurd ⟨hn, hm⟩ hdue)
      rw [step, if_neg fun hand => hdue ⟨hand.1, hand.2.1⟩]
      simp [late]
  | handled =>
    refine iff_of_false ?_ (not_not_intro ?_)
    · by_cases hn : s.oscillator.tickEventNow = true
      · obtain ⟨m, hm, _⟩ := punctual_handled h hn
        rw [hm]
        exact ok_ne_late
      · rw [step, if_neg fun hand => hn hand.1]
        simp [late]
    · intro he
      cases he
  | setLocalTime newTime => exact absurd ha id
  | fastForward => exact absurd ha id
  | setClockRate clockRate => exact absurd ha id
  | setDriftRate driftRate => exact absurd ha id
  | updateAndGetLocalTime => exact hcall trivial
  | subscribeTimestamp listener eventTime kind => exact hcall trivial
  | subscribeDelta listener delta kind => exact hcall trivial
  | unsubscribeTimestamp listener localTime kind => exact hcall trivial
  | oscillator e => exact hcall trivial

/-- the timestamps of a run so far; each has an object of its own -/
structure Delivers (f : ℚ) (s : RealtimeClock) : Prop where
  /-- strictly sorted by local time, kind and listener -/
  ascending : Ascending Timestamp.key s.scheduledEvents
  order : s.delivered.Pairwise fun d d' => d.1.key < d'.1.key
  once : s.subscribed.Perm (s.delivered.map Prod.fst ++ s.unsubscribed ++ s.scheduledEvents)
  distinct : (s.subscribed.map Timestamp.object).Nodup
  /-- delivered at the first tick at which the local time has reached them -/
  punctual : ∀ d ∈ s.delivered, IsLeast {n : ℕ | d.1.localTime ≤ n / f} d.2.1 ∧ d.2.2 = d.2.1 / f
  shown : Prod.fst <$> s.updateAndGetLocalTime = .ok (⌊s.oscillator.time * f⌋₊ / f)
  /-- the tick of the first timestamp is subscribed -/
  armed : ∀ x xs, s.scheduledEvents = x :: xs → ∃ tick ∈ s.oscillator.scheduledEvents,
    tick.listener = self ∧ IsLeast {n : ℕ | x.localTime ≤ n / f} tick.tick ∧
      s.oscillator.time ≤ tick.globalSchedulingTime
  message : s.oscillator.tickEventNow = false → s.oscillator.AtFirst

/-- what is done next -/
structure Answers (f : ℚ) (s : RealtimeClock) : Prop where
  calls : ∀ e, IsCall e → s.Admitted e → ∃ s', s.step e = .ok s'
  new : ∀ listener eventTime kind, s.shown < eventTime →
    (∀ y ∈ s.scheduledEvents, y.key ≠ Timestamp.mkKey eventTime kind listener) →
    ∃ s', s.subscribeTimestamp listener eventTime kind =
        .ok (s.newTimestamp listener eventTime kind, s') ∧
      s'.scheduledEvents =
        insertAt Timestamp.key (s.newTimestamp listener eventTime kind) s.scheduledEvents
  merged : ∀ p ∈ s.scheduledEvents, ∃ s',
    s.subscribeTimestamp p.listener p.localTime p.kind = .ok (p, s') ∧
      s'.scheduledEvents = s.scheduledEvents
  unsubscribed : ∀ listener localTime kind, ∃ s',
    s.unsubscribeTimestamp listener localTime kind = .ok s' ∧
      s'.scheduledEvents = s.scheduledEvents.filter fun x =>
        !decide (x.key = Timestamp.mkKey localTime kind listener)
  /-- the first timestamp is delivered, if its tick was not read -/
  due : s.oscillator.tickEventNow = false →
    s.oscillator.tickMessage = some s.oscillator.time → ∃ tick ticks,
      s.oscillator.scheduledEvents = tick :: ticks ∧
      (tick.listener ≠ self → ∃ s', s.step .handleMessage = .ok s' ∧
        s'.scheduledEvents = s.scheduledEvents ∧ s'.delivered = s.delivered) ∧
      (tick.listener = self → ∃ x xs, s.scheduledEvents = x :: xs ∧
        (s.Unread → ∃ s', s.step .handleMessage = .ok s' ∧ s'.scheduledEvents = xs ∧
          ∃ d, s'.delivered = s.delivered ++ [d] ∧ d.1 = x) ∧
        (¬s.Unread → s.step .handleMessage = .error late))
  handled : s.oscillator.tickEventNow = true →
    ∃ s', s.step .handled = .ok s' ∧ s'.scheduledEvents = s.scheduledEvents

theorem Punctual.delivers (h : s.Punctual f) : s.Delivers f := by
  have hst := h.steady
  refine ⟨h.recorded.ascending, h.recorded.order, h.recorded.ledger.once, h.recorded.ledger.distinct,
    ?_, ?_, ?_, ?_⟩
  · intro d hd
    obtain ⟨htick, htime⟩ := h.recorded.punctual d hd
    refine ⟨?_, htime⟩
    rw [htick]
    exact isLeast_dueTick hst.pos _
  · rw [updateAndGetLocalTime_eq hst, ← hst.count_eq, ← hst.shown_eq]
    rfl
  · intro x xs hq
    obtain ⟨tick, hmem, hnext, _, htick⟩ := h.armed.first x xs hq
    refine ⟨tick, hmem, h.armed.listener tick hnext, ?_, (hst.coherent.grid tick hmem).ahead⟩
    rw [htick]
    exact isLeast_dueTick hst.pos _
  · intro hn
    refine hst.coherent.message.resolve_right fun hnow => ?_
    rw [hn] at hnow
    cases hnow.1

theorem Punctual.answers (h : s.Punctual f) : s.Answers f := by
  refine ⟨?_, ?_, ?_, ?_, ?_, ?_⟩
  · intro e hcall ha
    obtain ⟨s', hs, _⟩ := punctual_call h hcall ha
    exact ⟨s', hs⟩
  · intro listener eventTime kind ht hnew
    obtain ⟨s', hs, _, hq⟩ := subscribeTimestamp_new h ht hnew
    exact ⟨s', hs, hq⟩
  · intro p hp
    have hk : p.key = Timestamp.mkKey p.localTime p.kind p.listener := rfl
    obtain ⟨s', hs, _, hq⟩ := subscribeTimestamp_pending h hp hk
    exact ⟨s', hs, hq⟩
  · intro listener localTime kind
    obtain ⟨s', hs, _, hq⟩ := unsubscribeTimestamp_total h listener localTime kind
    exact ⟨s', hs, hq⟩
  · intro hn hm
    obtain ⟨tick, ticks, hq, hother, hself⟩ := handleMessage_due h hn hm
    refine ⟨tick, ticks, hq, fun hl => ?_, fun hl => ?_⟩
    · obtain ⟨s', hs, _, hrest⟩ := hother hl
      exact ⟨s', hs, hrest⟩
    · obtain ⟨x, xs, hx, hunread, hread⟩ := hself hl
      refine ⟨x, xs, hx, fun hu => ?_, hread⟩
      obtain ⟨s', hs, _, hrest, hd⟩ := hunread hu
      exact ⟨s', hs, hrest, _, hd, rfl⟩
  · intro hn
    obtain ⟨s', hs, _, hq⟩ := punctual_handled h hn
    exact ⟨s', hs, hq⟩

/-- **Every timestamp that is not unsubscribed is delivered once, in order, at its tick; while every
tick is unread when it is delivered, and only then, no assertion of `onTick` fails.** -/
theorem timestamps_delivered_once {es : List ClockEvent} {s0 : RealtimeClock}
    (hf : minEffectiveClockRate ≤ f) (h0 : initializeClock f = .ok s0)
    (hm : Meets step Admitted s0 es) :
    (Meets step Fresh s0 es ↔ run step s0 es ≠ .error late) ∧
      ∀ s, run step s0 es = .ok s → s.Delivers f ∧ s.Answers f := by
  have hstart := punctual_initializeClock hf h0
  constructor
  · clear h0
    induction es generalizing s0 with
    | nil => exact iff_of_true trivial nofun
    | cons e es ih =>
      have hlate := step_late_iff hstart hm.1
      rw [run_cons, meets_cons_iff]
      cases hs : s0.step e with
      | error x =>
        rw [hs] at hlate
        have hfresh : s0.Fresh e ↔ (Except.error x : Sim RealtimeClock) ≠ .error late := by
          rw [ne_eq, hlate, not_not]
        exact (and_iff_left trivial).trans hfresh
      | ok m =>
        rw [hs] at hlate
        have hfresh : s0.Fresh e := not_not.mp (hlate.not.mp nofun)
        rw [and_iff_right hfresh]
        exact ih (hm.2 m hs) (punctual_step hstart hm.1 hs)
  · intro s hr
    have hp := run_invariant_of (I := fun s => s.Punctual f)
      (fun _ _ _ hi ha hs => punctual_step hi ha hs) hstart hm hr
    exact ⟨hp.delivers, hp.answers⟩

/-- two timestamps of one tick -/
def fractionRun : List ClockEvent :=
  [.subscribeTimestamp 1 (2 / 5) 0, .subscribeTimestamp 1 (3 / 5) 0, .advance 1, .handleMessage,
   .handled, .handleMessage]

/-- **Two timestamps within one tick**: the second one finds that the first one has read it. -/
theorem fraction_late : ∃ s0, initializeClock 1 = .ok s0 ∧ Meets step Admitted s0 fractionRun ∧
    run step s0 fractionRun = .error late := by
  refine ⟨started 1, by decide +kernel, by decide +kernel, ?_⟩
  exact eq_error_of (by decide +kernel)

/-- a duplicate, a timestamp that is removed from the front, and one subscribed at its own tick -/
def freshRun : List ClockEvent :=
  [.subscribeTimestamp 1 (3 / 2) 0, .subscribeDelta 2 (1 / 2) 1, .subscribeTimestamp 1 (3 / 2) 0,
   .unsubscribeTimestamp 2 (1 / 2) 1, .advance 2, .handleMessage, .subscribeTimestamp 3 3 0,
   .subscribeDelta 3 1 1, .handled, .advance 3, .handleMessage, .handled, .handleMessage, .handled]

theorem timestamps_delivered_once_freshRun : ∃ s0 s, initializeClock 1 = .ok s0 ∧
    run step s0 freshRun = .ok s ∧ (s.Delivers 1 ∧ s.Answers 1) ∧
    s.delivered.map (fun d => (d.1.listener, d.1.kind, d.2)) =
      [(1, 0, 2, 2), (3, 0, 3, 3), (3, 1, 3, 3)] := by
  have h0 : initializeClock 1 = .ok (started 1) := by decide +kernel
  have hm : Meets step Admitted (started 1) freshRun := by decide +kernel
  obtain ⟨s, hr, hd⟩ : ∃ s, run step (started 1) freshRun = .ok s ∧
      s.delivered.map (fun d => (d.1.listener, d.1.kind, d.2)) =
        [(1, 0, 2, 2), (3, 0, 3, 3), (3, 1, 3, 3)] := exists_of_any (by decide +kernel)
  exact ⟨started 1, s, h0, hr,
    (timestamps_delivered_once (by decide +kernel) h0 hm).2 s hr, hd⟩

end RealtimeClock

end Nesting
