import Nesting.Common.Schedule

/-!
# Schedule::normalize

The last entry is extended to the end of the cycle, or entries are removed and shortened from the
end.

* `shorten`     the loop that removes and shortens entries;
* `normalize`   the function, with its assertion;
* `Built`       a schedule as `addControlListEntry` builds it;
* `Normalizable`, `normalize_total_iff`  when it succeeds, for any schedule;
* `normalize_preserves`  **the schedule that is left shows the same object at every phase.**
-/

set_option linter.unusedVariables false

namespace Nesting
namespace Schedule

variable {α : Type} {s s' : Schedule α}

def isNormalized (s : Schedule α) : Bool := decide (s.sumTimeIntervals = s.cycleTime)

/-- the loop; `i + 1` entries are left -/
def shorten (s : Schedule α) (timeReduction : SimTime) : Nat → Sim (Schedule α)
  | 0 => .ok s
  | i + 1 => do
    let lastEntry ← s.entry i
    -- remove the entry
    if lastEntry.timeInterval ≤ timeReduction then
      let s := { s with
        sumTimeIntervals := s.sumTimeIntervals - lastEntry.timeInterval
        controlList := s.controlList.take i }
      let timeReduction := timeReduction - lastEntry.timeInterval
      if timeReduction ≤ 0 then do
        ASSERT (decide (timeReduction = 0)) "timeReduction == SimTime::ZERO"
        return s
      else s.shorten timeReduction i
    -- or shorten it
    else
      return { s with
        sumTimeIntervals := s.sumTimeIntervals - timeReduction
        controlList := s.controlList.set i
          { lastEntry with timeInterval := lastEntry.timeInterval - timeReduction } }

/-- the last entry is at `size() - 1`, which is no index of an empty list -/
def extendLast (s : Schedule α) (timeIntervalExtension : SimTime) : Sim (Schedule α) :=
  match s.controlList.length with
  | 0 => .error (.undefinedBehaviour "controlList[controlList.size() - 1]")
  | i + 1 => do
    let lastEntry ← s.entry i
    return { s with
      sumTimeIntervals := s.sumTimeIntervals + timeIntervalExtension
      controlList := s.controlList.set i
        { lastEntry with timeInterval := lastEntry.timeInterval + timeIntervalExtension } }

/-- the cases of `normalize` -/
def fitted (s : Schedule α) : Sim (Schedule α) :=
  if s.sumTimeIntervals < s.cycleTime then s.extendLast (s.cycleTime - s.sumTimeIntervals)
  else if s.cycleTime < s.sumTimeIntervals then
    s.shorten (s.sumTimeIntervals - s.cycleTime) s.controlList.length
  else .ok s

def normalize (s : Schedule α) : Sim (Schedule α) := do
  let s ← s.fitted
  ASSERT s.isNormalized "isNormalized()"
  return s

/-! ## lists from the end -/

theorem entry_last {l : List (ControlListEntry α)} {e : ControlListEntry α}
    (h : s.controlList = l ++ [e]) : s.entry l.length = .ok e := by
  rw [entry_ok, h, List.getElem?_append_right (le_refl _), Nat.sub_self]
  rfl

theorem set_last {l : List (ControlListEntry α)} (e e' : ControlListEntry α) :
    (l ++ [e]).set l.length e' = l ++ [e'] := by
  rw [List.set_append_right _ _ (le_refl _), Nat.sub_self]
  rfl

theorem exists_last {i : ℕ} (h : s.controlList.length = i + 1) :
    ∃ l e, s.controlList = l ++ [e] ∧ l.length = i := by
  obtain hnil | ⟨l, e, hl⟩ := List.eq_nil_or_concat' s.controlList
  · rw [hnil] at h
    cases h
  · refine ⟨l, e, hl, ?_⟩
    rw [hl, List.length_append, List.length_singleton] at h
    omega

/-- the last entry is removed, with or without more to do, or shortened -/
theorem shorten_last {l : List (ControlListEntry α)} {e : ControlListEntry α}
    (h : s.controlList = l ++ [e]) (r : SimTime) : s.shorten r (l.length + 1) =
      if e.timeInterval < r then
        { s with
          sumTimeIntervals := s.sumTimeIntervals - e.timeInterval
          controlList := l }.shorten (r - e.timeInterval) l.length
      else if e.timeInterval = r then
        .ok { s with sumTimeIntervals := s.sumTimeIntervals - e.timeInterval, controlList := l }
      else .ok { s with
        sumTimeIntervals := s.sumTimeIntervals - r
        controlList := l ++ [{ e with timeInterval := e.timeInterval - r }] } := by
  rw [shorten, entry_last h]
  show (if _ then (if _ then _ else _) else _) = _
  rw [h, List.take_left, set_last]
  by_cases hlt : e.timeInterval < r
  · rw [if_pos (le_of_lt hlt), if_neg (by linarith), if_pos hlt]
  · rw [if_neg hlt]
    by_cases heq : e.timeInterval = r
    · rw [if_pos (le_of_eq heq), if_pos (by linarith), if_pos heq, decide_eq_true (by linarith)]
      rfl
    · rw [if_neg (fun hle => heq (le_antisymm hle (not_lt.mp hlt))), if_neg heq]
      rfl

theorem extendLast_last {l : List (ControlListEntry α)} {e : ControlListEntry α}
    (h : s.controlList = l ++ [e]) (x : SimTime) : s.extendLast x = .ok { s with
      sumTimeIntervals := s.sumTimeIntervals + x
      controlList := l ++ [{ e with timeInterval := e.timeInterval + x }] } := by
  have hlen : s.controlList.length = l.length + 1 := by
    rw [h, List.length_append]
    rfl
  unfold extendLast
  rw [hlen]
  dsimp only
  rw [entry_last h, h]
  show Except.ok _ = _
  rw [set_last]

/-! ## when it fails -/

/-- no entry outside the list is read, and the assertion in the loop holds -/
theorem shorten_total (i : ℕ) (s : Schedule α) (r : SimTime) (hlen : s.controlList.length = i) :
    ∃ s', s.shorten r i = .ok s' ∧ s'.cycleTime = s.cycleTime := by
  induction i generalizing s r with
  | zero => exact ⟨s, rfl, rfl⟩
  | succ i ih =>
    obtain ⟨l, e, hl, rfl⟩ := exists_last hlen
    rw [shorten_last hl]
    split
    · exact ih _ _ rfl
    · split
      · exact ⟨_, rfl, rfl⟩
      · exact ⟨_, rfl, rfl⟩

theorem extendLast_total (h : s.controlList ≠ []) (x : SimTime) :
    ∃ s', s.extendLast x = .ok s' ∧ s'.sumTimeIntervals = s.sumTimeIntervals + x ∧
      s'.cycleTime = s.cycleTime := by
  obtain ⟨l, e, hl⟩ := (List.eq_nil_or_concat' s.controlList).resolve_left h
  exact ⟨_, extendLast_last hl x, rfl, rfl⟩

theorem fitted_total (h : s.controlList ≠ [] ∨ s.cycleTime ≤ s.sumTimeIntervals) :
    ∃ s', s.fitted = .ok s' ∧ s'.cycleTime = s.cycleTime := by
  unfold fitted
  by_cases hlt : s.sumTimeIntervals < s.cycleTime
  · rw [if_pos hlt]
    obtain ⟨s', hs, _, hc⟩ :=
      extendLast_total (h.resolve_right (not_le.mpr hlt)) (s.cycleTime - s.sumTimeIntervals)
    exact ⟨s', hs, hc⟩
  · rw [if_neg hlt]
    split
    · exact shorten_total _ s _ rfl
    · exact ⟨s, rfl, rfl⟩

theorem normalize_ok : s.normalize = .ok s' ↔ s.fitted = .ok s' ∧
    s'.sumTimeIntervals = s'.cycleTime := by
  unfold normalize
  rw [bind_ok]
  constructor
  · rintro ⟨m, hm, hs⟩
    obtain ⟨u, hu, hs⟩ := bind_ok.mp hs
    cases hs
    exact ⟨hm, of_decide_eq_true (ASSERT_ok.mp hu)⟩
  · rintro ⟨hs, hn⟩
    exact ⟨s', hs, bind_ok.mpr ⟨(), ASSERT_ok.mpr (decide_eq_true hn), rfl⟩⟩

/-- the two ways to fail -/
theorem normalize_error {x : SimError} (h : s.normalize = .error x) :
    x = .undefinedBehaviour "controlList[controlList.size() - 1]" ∧
      s.controlList = [] ∧ s.sumTimeIntervals < s.cycleTime ∨
    x = .assertion "isNormalized()" ∧ ¬(s.controlList = [] ∧ s.sumTimeIntervals < s.cycleTime) := by
  unfold normalize at h
  by_cases hnil : s.controlList = [] ∧ s.sumTimeIntervals < s.cycleTime
  · left
    unfold fitted at h
    rw [if_pos hnil.2] at h
    unfold extendLast at h
    rw [hnil.1] at h
    cases h
    exact ⟨rfl, hnil⟩
  · right
    obtain ⟨s', hs, _⟩ := fitted_total (not_and_or.mp hnil |>.imp_right not_lt.mp)
    rw [hs] at h
    change (ASSERT s'.isNormalized _ >>= _) = _ at h
    cases hn : s'.isNormalized with
    | true =>
      rw [hn] at h
      cases h
    | false =>
      rw [hn] at h
      cases h
      exact ⟨rfl, hnil⟩

/-- **An index outside the list is used exactly when an empty list is to be extended.** -/
theorem normalize_undefined_iff : (∃ what, s.normalize = .error (.undefinedBehaviour what)) ↔
    s.controlList = [] ∧ s.sumTimeIntervals < s.cycleTime := by
  constructor
  · rintro ⟨what, hw⟩
    obtain ⟨_, hnil⟩ | ⟨hx, _⟩ := normalize_error hw
    · exact hnil
    · cases hx
  · intro hnil
    refine ⟨"controlList[controlList.size() - 1]", ?_⟩
    unfold normalize fitted
    rw [if_pos hnil.2]
    unfold extendLast
    rw [hnil.1]
    rfl

/-- an entry is there to be extended, or the last entries are long enough to be cut -/
def Normalizable (s : Schedule α) : Prop :=
  (s.sumTimeIntervals < s.cycleTime → s.controlList ≠ []) ∧
  (s.cycleTime < s.sumTimeIntervals → ∃ j < s.controlList.length,
    s.sumTimeIntervals - s.cycleTime ≤ (s.intervals.drop j).sum)

/-- the loop reaches the end of the cycle if the entries from some index on are long enough -/
theorem shorten_normalized_iff (i : ℕ) (s : Schedule α) (r : SimTime)
    (hlen : s.controlList.length = i) (hr : 0 < r) (hsum : s.sumTimeIntervals = s.cycleTime + r) :
    (∃ s', s.shorten r i = .ok s' ∧ s'.sumTimeIntervals = s'.cycleTime) ↔
      ∃ j < i, r ≤ (s.intervals.drop j).sum := by
  induction i generalizing s r with
  | zero =>
    constructor
    · rintro ⟨s', hs, hn⟩
      cases hs
      linarith
    · rintro ⟨j, hj, _⟩
      exact absurd hj (Nat.not_lt_zero j)
  | succ i ih =>
    obtain ⟨l, e, hl, rfl⟩ := exists_last hlen
    -- the suffixes of the list are those without the last entry, with its interval added
    have hdrop : ∀ j ≤ l.length, (s.intervals.drop j).sum =
        ((l.map (·.timeInterval)).drop j).sum + e.timeInterval := by
      intro j hj
      rw [intervals, hl, List.map_append, List.drop_append_of_le_length (by rwa [List.length_map]),
        List.sum_append]
      simp
    have hend : (s.intervals.drop l.length).sum = e.timeInterval := by
      rw [hdrop l.length le_rfl, List.drop_of_length_le (by rw [List.length_map]), List.sum_nil,
        zero_add]
    rw [shorten_last hl]
    by_cases hlt : e.timeInterval < r
    · rw [if_pos hlt, ih _ (r - e.timeInterval) rfl (sub_pos.mpr hlt)
        (by show s.sumTimeIntervals - e.timeInterval = s.cycleTime + _; linarith)]
      constructor
      · rintro ⟨j, hj, hle⟩
        refine ⟨j, Nat.lt_succ_of_lt hj, ?_⟩
        rw [hdrop j (le_of_lt hj)]
        exact sub_le_iff_le_add.mp hle
      · rintro ⟨j, hj, hle⟩
        obtain hj | rfl := Nat.lt_succ_iff_lt_or_eq.mp hj
        · refine ⟨j, hj, ?_⟩
          rw [hdrop j (le_of_lt hj)] at hle
          exact sub_le_iff_le_add.mpr hle
        · rw [hend] at hle
          exact absurd hle (not_le.mpr hlt)
    · have hsuffix : ∃ j < l.length + 1, r ≤ (s.intervals.drop j).sum :=
        ⟨l.length, Nat.lt_succ_self _, hend.symm ▸ not_lt.mp hlt⟩
      rw [if_neg hlt]
      refine iff_of_true ?_ hsuffix
      split
      · rename_i heq
        refine ⟨_, rfl, ?_⟩
        show s.sumTimeIntervals - e.timeInterval = s.cycleTime
        linarith
      · refine ⟨_, rfl, ?_⟩
        show s.sumTimeIntervals - r = s.cycleTime
        linarith

/-- **`normalize` succeeds exactly on these schedules.** -/
theorem normalize_total_iff : (∃ s', s.normalize = .ok s') ↔ s.Normalizable := by
  have hok : (∃ s', s.normalize = .ok s') ↔
      ∃ s', s.fitted = .ok s' ∧ s'.sumTimeIntervals = s'.cycleTime :=
    exists_congr fun s' => normalize_ok
  rw [hok]
  unfold fitted Normalizable
  obtain hlt | heq | hgt := lt_trichotomy s.sumTimeIntervals s.cycleTime
  · rw [if_pos hlt]
    constructor
    · rintro ⟨s', hs, _⟩
      refine ⟨fun _ hnil => ?_, fun hgt => absurd hgt (not_lt.mpr (le_of_lt hlt))⟩
      unfold extendLast at hs
      rw [hnil] at hs
      cases hs
    · rintro ⟨hne, _⟩
      obtain ⟨s', hs, hsum, hcycle⟩ :=
        extendLast_total (hne hlt) (s.cycleTime - s.sumTimeIntervals)
      exact ⟨s', hs, by rw [hsum, hcycle]; ring⟩
  · rw [if_neg (not_lt.mpr (le_of_eq heq.symm)), if_neg (not_lt.mpr (le_of_eq heq))]
    refine iff_of_true ⟨s, rfl, heq⟩ ⟨fun hlt => ?_, fun hgt => ?_⟩
    · exact absurd heq (ne_of_lt hlt)
    · exact absurd heq (ne_of_gt hgt)
  · rw [if_neg (not_lt.mpr (le_of_lt hgt)), if_pos hgt,
      shorten_normalized_iff _ s _ rfl (sub_pos.mpr hgt) (by ring)]
    constructor
    · intro hj
      exact ⟨fun hlt => absurd hlt (not_lt.mpr (le_of_lt hgt)), fun _ => hj⟩
    · rintro ⟨_, hj⟩
      exact hj hgt

/-- the cycle time is left as it is -/
theorem normalize_cycleTime (h : s.normalize = .ok s') :
    s'.sumTimeIntervals = s'.cycleTime ∧ s'.cycleTime = s.cycleTime := by
  have hfits := normalize_total_iff.mp ⟨s', h⟩
  obtain ⟨hs, hn⟩ := normalize_ok.mp h
  have hne : s.controlList ≠ [] ∨ s.cycleTime ≤ s.sumTimeIntervals := by
    by_cases hlt : s.sumTimeIntervals < s.cycleTime
    · exact .inl (hfits.1 hlt)
    · exact .inr (not_lt.mp hlt)
  obtain ⟨t, ht, hc⟩ := fitted_total hne
  rw [ht] at hs
  cases hs
  exact ⟨hn, hc⟩

/-! ## the objects that are shown -/

/-- as `addControlListEntry` builds it -/
structure Built (s : Schedule α) : Prop where
  sum : s.sumTimeIntervals = s.total
  nonneg : s.NonNeg

theorem built_new (b c x : SimTime) :
    (((new.setBaseTime b).setCycleTime c).setCycleTimeExtension x : Schedule α).Built :=
  ⟨rfl, nofun⟩

theorem built_addControlListEntry {t : SimTime} {a : α} (h : s.Built)
    (hs : s.addControlListEntry t a = .ok s') : s'.Built := by
  by_cases ht : 0 ≤ t
  · rw [addControlListEntry_of_nonneg ht] at hs
    cases hs
    refine ⟨?_, fun e he => ?_⟩
    · simp [total, intervals, h.sum]
    · obtain he | he := List.mem_append.mp he
      · exact h.nonneg e he
      · rw [List.mem_singleton.mp he]
        exact ht
  · unfold addControlListEntry at hs
    rw [if_pos (not_le.mp ht)] at hs
    cases hs

theorem built_addControlListEntries {es : List (ControlListEntry α)} (h : s.Built)
    (hs : s.addControlListEntries es = .ok s') : s'.Built ∧ s'.controlList = s.controlList ++ es := by
  induction es generalizing s with
  | nil =>
    cases hs
    exact ⟨h, (List.append_nil _).symm⟩
  | cons e es ih =>
    obtain ⟨m, hm, hs⟩ := bind_ok.mp hs
    obtain ⟨hb, hl⟩ := ih (built_addControlListEntry h hm) hs
    refine ⟨hb, ?_⟩
    have hml : m.controlList = s.controlList ++ [e] := by
      unfold addControlListEntry at hm
      split at hm
      · cases hm
      · cases hm
        rfl
    rw [hl, hml, List.append_assoc]
    rfl

/-- a schedule without its last entry -/
theorem total_last {l : List (ControlListEntry α)} {e : ControlListEntry α}
    (h : s.controlList = l ++ [e]) :
    s.total = (l.map (·.timeInterval)).sum + e.timeInterval := by
  simp [total, intervals, h]

/-- the part of a built schedule that the cycle leaves -/
structure Leaves (s s' : Schedule α) : Prop where
  built : s'.Built
  normalized : s'.sumTimeIntervals = s'.cycleTime
  baseTime : s'.baseTime = s.baseTime
  cycleTime : s'.cycleTime = s.cycleTime
  cycleTimeExtension : s'.cycleTimeExtension = s.cycleTimeExtension
  shown : ∀ p, 0 ≤ p → p < s.cycleTime → Lib.extended s'.pieces p = Lib.extended s.pieces p

/-- the pieces of the entries before the last one -/
theorem pieces_last {l : List (ControlListEntry α)} {e : ControlListEntry α}
    (h : s.controlList = l ++ [e]) :
    s.pieces = l.map (fun e => (e.timeInterval, e.scheduledObject)) ++
      [(e.timeInterval, e.scheduledObject)] := by
  rw [pieces, h, List.map_append]
  rfl

theorem span_map (l : List (ControlListEntry α)) :
    Lib.span (l.map fun e => (e.timeInterval, e.scheduledObject)) =
      (l.map (·.timeInterval)).sum := by
  rw [Lib.span, List.map_map]
  rfl

/-- the last entry may be longer or shorter -/
theorem leaves_last {l : List (ControlListEntry α)} {e : ControlListEntry α} {d : SimTime}
    (h : s.Built) (hl : s.controlList = l ++ [e]) (hd : 0 ≤ d)
    (hsum : (l.map (·.timeInterval)).sum + d = s.cycleTime) :
    Leaves s { s with
      sumTimeIntervals := s.cycleTime
      controlList := l ++ [{ e with timeInterval := d }] } := by
  have hnn : ∀ x ∈ l ++ [e], 0 ≤ x.timeInterval := hl ▸ h.nonneg
  have hll : ∀ x ∈ l, 0 ≤ x.timeInterval := fun x hx => hnn x (List.mem_append_left _ hx)
  have he : 0 ≤ e.timeInterval := hnn e (List.mem_append_right _ List.mem_cons_self)
  have hpieces : ∀ p ∈ l.map fun e => (e.timeInterval, e.scheduledObject), 0 ≤ p.1 := by
    intro p hp
    obtain ⟨x, hx, rfl⟩ := List.mem_map.mp hp
    exact hll x hx
  refine ⟨⟨?_, fun x hx => ?_⟩, rfl, rfl, rfl, rfl, fun p h0 hp => ?_⟩
  · rw [total_last (s := { s with
      sumTimeIntervals := s.cycleTime
      controlList := l ++ [{ e with timeInterval := d }] }) rfl]
    exact hsum.symm
  · obtain hx | hx := List.mem_append.mp hx
    · exact hll x hx
    · rw [List.mem_singleton.mp hx]
      exact hd
  · rw [pieces_last hl, pieces_last (s := { s with
      sumTimeIntervals := s.cycleTime
      controlList := l ++ [{ e with timeInterval := d }] }) rfl,
      Lib.extended_snoc hpieces hd h0, Lib.extended_snoc hpieces he h0]

/-- **The loop cuts a built schedule at the end of its cycle.** -/
theorem leaves_shorten (i : ℕ) (s : Schedule α) (r : SimTime) (h : s.Built)
    (hlen : s.controlList.length = i) (hr : 0 < r) (hsum : s.sumTimeIntervals = s.cycleTime + r)
    (hc : 0 ≤ s.cycleTime) : ∃ s', s.shorten r i = .ok s' ∧ Leaves s s' := by
  induction i generalizing s r with
  | zero =>
    -- an empty list is not too long
    have h0 : s.total = 0 := by
      rw [total, intervals, List.length_eq_zero_iff.mp hlen]
      rfl
    have := h.sum
    linarith
  | succ i ih =>
    obtain ⟨l, e, hl, rfl⟩ := exists_last hlen
    have hnn : ∀ x ∈ l ++ [e], 0 ≤ x.timeInterval := hl ▸ h.nonneg
    have htotal := total_last hl
    rw [← h.sum] at htotal
    -- the list without its last entry
    have hbuilt : Built { s with
        sumTimeIntervals := s.sumTimeIntervals - e.timeInterval
        controlList := l } := by
      refine ⟨?_, fun x hx => hnn x (List.mem_append_left _ hx)⟩
      show s.sumTimeIntervals - e.timeInterval = (l.map (·.timeInterval)).sum
      linarith
    have hshown : e.timeInterval ≤ r → ∀ p, 0 ≤ p → p < s.cycleTime →
        Lib.extended (pieces { s with
          sumTimeIntervals := s.sumTimeIntervals - e.timeInterval
          controlList := l }) p = Lib.extended s.pieces p := by
      intro hle p h0 hp
      have hspan : p < Lib.span (l.map fun e => (e.timeInterval, e.scheduledObject)) := by
        rw [span_map]
        linarith
      rw [pieces_last hl]
      show Lib.extended (l.map fun e => (e.timeInterval, e.scheduledObject)) p = _
      rw [Lib.extended_of_lt h0 hspan, Lib.extended_of_lt h0, Lib.activeAt_append_left _ h0 hspan]
      have he := hnn e (List.mem_append_right _ List.mem_cons_self)
      rw [Lib.span_append, Lib.span_cons, Lib.span_nil, add_zero]
      exact lt_of_lt_of_le hspan (le_add_of_nonneg_right he)
    rw [shorten_last hl]
    by_cases hlt : e.timeInterval < r
    · rw [if_pos hlt]
      obtain ⟨s', hs, hleaves⟩ := ih _ (r - e.timeInterval) hbuilt rfl (sub_pos.mpr hlt)
        (by show s.sumTimeIntervals - e.timeInterval = s.cycleTime + _; linarith) hc
      refine ⟨s', hs, hleaves.built, hleaves.normalized, hleaves.baseTime, hleaves.cycleTime,
        hleaves.cycleTimeExtension, fun p h0 hp => ?_⟩
      rw [hleaves.shown p h0 hp, hshown (le_of_lt hlt) p h0 hp]
    · rw [if_neg hlt]
      by_cases heq : e.timeInterval = r
      · rw [if_pos heq]
        refine ⟨_, rfl, hbuilt, ?_, rfl, rfl, rfl, hshown (le_of_eq heq)⟩
        show s.sumTimeIntervals - e.timeInterval = s.cycleTime
        linarith
      · rw [if_neg heq]
        have hd : s.sumTimeIntervals - r = s.cycleTime := by linarith
        rw [hd]
        refine ⟨_, rfl, leaves_last h hl ?_ ?_⟩
        · exact sub_nonneg.mpr (not_lt.mp hlt)
        · linarith

theorem leaves_self (h : s.Built) (hn : s.sumTimeIntervals = s.cycleTime) : Leaves s s :=
  ⟨h, hn, rfl, rfl, rfl, fun _ _ _ => rfl⟩

/-- a built schedule fits if its cycle is not negative and an empty list has no cycle to fill -/
theorem Built.normalizable_iff (h : s.Built) :
    s.Normalizable ↔ 0 ≤ s.cycleTime ∧ (s.controlList ≠ [] ∨ s.cycleTime = 0) := by
  have h0 : 0 ≤ s.total := by
    have := startOf_mono h.nonneg (Nat.zero_le s.controlList.length)
    rwa [startOf_zero, startOf_of_le le_rfl] at this
  have hempty : s.controlList = [] → s.total = 0 := fun hnil => by
    rw [total, intervals, hnil]
    rfl
  have hsum := h.sum
  constructor
  · rintro ⟨hext, hcut⟩
    have hc : 0 ≤ s.cycleTime := by
      by_contra hneg
      obtain ⟨j, hj, hle⟩ := hcut (by linarith)
      have hsplit : (s.intervals.take j).sum + (s.intervals.drop j).sum = s.total :=
        List.sum_take_add_sum_drop s.intervals j
      have hstart : 0 ≤ s.startOf j := startOf_mono h.nonneg (Nat.zero_le j)
      rw [startOf] at hstart
      linarith
    refine ⟨hc, ?_⟩
    by_cases hz : s.cycleTime = 0
    · exact .inr hz
    · refine .inl fun hnil => hext ?_ hnil
      rw [hsum, hempty hnil]
      exact lt_of_le_of_ne hc (Ne.symm hz)
  · rintro ⟨hc, hne⟩
    refine ⟨fun hlt => hne.resolve_right fun hz => ?_, fun hgt => ⟨0, ?_, ?_⟩⟩
    · linarith
    · apply List.length_pos_of_ne_nil
      intro hnil
      have := hempty hnil
      linarith
    · rw [List.drop_zero]
      show _ ≤ s.total
      linarith

/-- a normalized schedule stays as it is -/
theorem normalize_normalized (h : s.sumTimeIntervals = s.cycleTime) : s.normalize = .ok s := by
  refine normalize_ok.mpr ⟨?_, h⟩
  unfold fitted
  rw [if_neg (not_lt.mpr (le_of_eq h.symm)), if_neg (not_lt.mpr (le_of_eq h))]

/-- **What is left of a built schedule is normalized and shows the same object at every phase.** -/
theorem normalize_leaves (h : s.Built) (hc : 0 ≤ s.cycleTime)
    (hne : s.controlList ≠ [] ∨ s.cycleTime = 0) : ∃ s', s.normalize = .ok s' ∧ Leaves s s' := by
  suffices hfit : ∃ s', s.fitted = .ok s' ∧ Leaves s s' by
    obtain ⟨s', hs, hleaves⟩ := hfit
    exact ⟨s', normalize_ok.mpr ⟨hs, hleaves.normalized⟩, hleaves⟩
  unfold fitted
  obtain hlt | heq | hgt := lt_trichotomy s.sumTimeIntervals s.cycleTime
  · rw [if_pos hlt]
    obtain ⟨l, e, hl⟩ : ∃ l e, s.controlList = l ++ [e] := by
      refine (List.eq_nil_or_concat' s.controlList).resolve_left fun hnil => ?_
      have h0 : s.total = 0 := by
        rw [total, intervals, hnil]
        rfl
      rw [h.sum, h0, hne.resolve_left (not_not_intro hnil)] at hlt
      exact lt_irrefl _ hlt
    have he : 0 ≤ e.timeInterval := h.nonneg e (by rw [hl]; simp)
    have htotal := total_last hl
    rw [← h.sum] at htotal
    rw [extendLast_last hl, add_sub_cancel]
    refine ⟨_, rfl, leaves_last h hl ?_ ?_⟩
    · linarith
    · linarith
  · rw [if_neg (not_lt.mpr (le_of_eq heq.symm)), if_neg (not_lt.mpr (le_of_eq heq))]
    exact ⟨s, rfl, leaves_self h heq⟩
  · rw [if_neg (not_lt.mpr (le_of_lt hgt)), if_pos hgt]
    exact leaves_shorten _ s _ h rfl (sub_pos.mpr hgt) (by ring) hc

/-- **`normalize` preserves the meaning of a schedule.** -/
theorem normalize_preserves {es : List (ControlListEntry α)} {b c x : SimTime} (hes : es ≠ [])
    (hc : 0 ≤ c) (h : (((new.setBaseTime b).setCycleTime c).setCycleTimeExtension
      x).addControlListEntries es = .ok s) : ∃ s', s.normalize = .ok s' ∧
    s'.total = c ∧ s'.sumTimeIntervals = c ∧ s'.cycleTime = c ∧ s'.NonNeg ∧ s'.baseTime = b ∧
    s'.cycleTimeExtension = x ∧
    (∀ p, 0 ≤ p → p < c → Lib.extended s'.pieces p = Lib.extended s.pieces p) ∧
    s'.normalize = .ok s' := by
  have hnn : ∀ e ∈ es, 0 ≤ e.timeInterval := by
    by_contra hneg
    rw [addControlListEntries_error _ _ hneg] at h
    cases h
  have hb : s.Built := (built_addControlListEntries (built_new b c x) h).1
  rw [addControlListEntries_ok _ _ hnn] at h
  cases h
  obtain ⟨s', hs, hl⟩ := normalize_leaves hb hc (.inl hes)
  have hsum : s'.sumTimeIntervals = c := hl.normalized.trans hl.cycleTime
  exact ⟨s', hs, hl.built.sum.symm.trans hsum, hsum, hl.cycleTime, hl.built.nonneg, hl.baseTime,
    hl.cycleTimeExtension, hl.shown, normalize_normalized hl.normalized⟩

/-- entries of 20, 0, 30 and 40 s in a cycle of 20 s -/
theorem normalize_preserves_boundary : ∃ s s' : Schedule ℕ,
    (((new.setBaseTime 7).setCycleTime 20).setCycleTimeExtension 1).addControlListEntries
      [⟨20, 0⟩, ⟨0, 1⟩, ⟨30, 2⟩, ⟨40, 3⟩] = .ok s ∧
    s.normalize = .ok s' ∧ s'.controlList = [⟨20, 0⟩, ⟨0, 1⟩] ∧ s'.total = 20 ∧ s'.baseTime = 7 := by
  obtain ⟨s, hs⟩ : ∃ s : Schedule ℕ,
      (((new.setBaseTime 7).setCycleTime 20).setCycleTimeExtension 1).addControlListEntries
        [⟨20, 0⟩, ⟨0, 1⟩, ⟨30, 2⟩, ⟨40, 3⟩] = .ok s := exists_of_isOk (by decide +kernel)
  obtain ⟨s', hn, ht, _, _, _, hbase, _⟩ := normalize_preserves (by simp) (by norm_num) hs
  have hrun : ((((new.setBaseTime 7).setCycleTime 20).setCycleTimeExtension 1).addControlListEntries
      [⟨20, 0⟩, ⟨0, 1⟩, ⟨30, 2⟩, ⟨40, 3⟩] >>= normalize).map controlList =
      .ok [⟨20, (0 : ℕ)⟩, ⟨0, 1⟩] := by decide +kernel
  rw [hs] at hrun
  change (s.normalize.map controlList) = _ at hrun
  rw [hn] at hrun
  exact ⟨s, s', hs, hn, Except.ok.inj hrun, ht, hbase⟩

end Schedule
end Nesting
