import Nesting.Lib.Chronicle
import Nesting.Lib.Run
import Nesting.Relay.Loading

/-!
# Static and learned entries

The table over runs of inserts and lookups, with a chronicle of what was learned and answered.

* `TimedDatabase`, `step`   the operations at times that do not go back;
* `entryOf`       what the table is to hold: the static rules, and of the other addresses the last
                  interface while its frame is younger than the threshold;
* `Undisturbed`   no stamp makes an entry look younger or older than that;
* `entries_permanent`   **then the table holds it and every answer is taken from it**;
* `Timely`        the same by the frames and lookups before: `undisturbed_of_timely`.
-/

set_option linter.unusedVariables false

namespace Nesting
open Lib

/-- what was done with the table, and when -/
inductive DatabaseRecord where
  | learned (time : SimTime) (macAddress : MacAddress) (interfaceId : Int)
  /-- an answer of `getDestInterfaceId` -/
  | askedId (time : SimTime) (macAddress : MacAddress) (answer : Int)
  /-- an answer of `getDestInterfaceIds` -/
  | askedIds (time : SimTime) (macAddress : MacAddress) (answer : List Int)
  deriving DecidableEq, Repr

def DatabaseRecord.time : DatabaseRecord → SimTime
  | .learned time _ _ => time
  | .askedId time _ _ => time
  | .askedIds time _ _ => time

inductive DatabaseEvent where
  | advance (t : SimTime)
  | insert (macAddress : MacAddress) (interfaceId : Int)
  | getDestInterfaceId (macAddress : MacAddress)
  | getDestInterfaceIds (macAddress : MacAddress)
  deriving DecidableEq, Repr

structure TimedDatabase where
  now : SimTime
  database : FilteringDatabase
  history : List DatabaseRecord

namespace TimedDatabase

def record (s : TimedDatabase) (database : FilteringDatabase) (r : DatabaseRecord) :
    TimedDatabase :=
  { s with database, history := s.history ++ [r] }

def step (s : TimedDatabase) : DatabaseEvent → Sim TimedDatabase
  | .advance t => .ok (if s.now ≤ t then { s with now := t } else s)
  | .insert a i => .ok (s.record (s.database.insert a s.now i) (.learned s.now a i))
  | .getDestInterfaceId a =>
    let (answer, database) := s.database.getDestInterfaceId a s.now
    .ok (s.record database (.askedId s.now a answer))
  | .getDestInterfaceIds a => do
    let (answer, database) ← s.database.getDestInterfaceIds a s.now
    return s.record database (.askedIds s.now a answer)

/-- the loaded table at the time `t0` -/
def start (database : FilteringDatabase) (t0 : SimTime) : TimedDatabase := ⟨t0, database, []⟩

/-! ## what the table is to hold -/

/-- the frame of this address in a record, with its time and its interface -/
def frameOf (a : MacAddress) : DatabaseRecord → Option (SimTime × Int)
  | .learned time macAddress interfaceId =>
    if macAddress = a then some (time, interfaceId) else none
  | _ => none

/-- the interfaces of the loaded entries -/
def staticEntries (database : FilteringDatabase) (a : MacAddress) : Option (List Int) :=
  (database.operFdb a).map Prod.snd

/-- what the table holds of `a` at the time `t` -/
def entryOf (static : MacAddress → Option (List Int)) (threshold : SimTime)
    (h : List DatabaseRecord) (a : MacAddress) (t : SimTime) : List Int :=
  match static a with
  | some ports => ports
  | none =>
    match latest (frameOf a) h with
    | some (received, interfaceId) => if t - received < threshold then [interfaceId] else []
    | none => []

/-- the answer of `getDestInterfaceId` from an entry -/
def soleInterface : List Int → Int
  | [port] => port
  | _ => -1

/-- an answer is taken from the table as it is to be -/
def Answers (static : MacAddress → Option (List Int)) (threshold : SimTime)
    (h : List DatabaseRecord) : DatabaseRecord → Prop
  | .learned _ _ _ => True
  | .askedId t a answer => answer = soleInterface (entryOf static threshold h a t)
  | .askedIds t a answer => answer = entryOf static threshold h a t

/-- a lookup that reads the stamp of an entry finds a static entry live, and a learned one only while
its frame is younger than the threshold -/
def Undisturbed (static : MacAddress → Option (List Int)) (s : TimedDatabase) :
    DatabaseEvent → Prop
  | .advance _ => True
  | .insert a _ => static a = none
  | .getDestInterfaceId a => ∀ e ∈ s.database.operFdb a, e.2.length = 1 →
    (static a ≠ none → s.database.live e.1 s.now = true) ∧
    (static a = none → ∀ f ∈ latest (frameOf a) s.history,
      s.database.agingThreshold ≤ s.now - f.1 → s.database.live e.1 s.now = false)
  | .getDestInterfaceIds a => ∀ e ∈ s.database.operFdb a,
    (static a ≠ none → s.database.live e.1 s.now = true) ∧
    (static a = none → ∀ f ∈ latest (frameOf a) s.history,
      s.now - f.1 < s.database.agingThreshold)

/-! ## the table against its chronicle -/

variable {static : MacAddress → Option (List Int)} {s s' : TimedDatabase}

/-- one entry of the table -/
structure HeldAt (static : MacAddress → Option (List Int)) (threshold : SimTime)
    (h : List DatabaseRecord) (now : SimTime) (a : MacAddress)
    (entry : Option (SimTime × List Int)) : Prop where
  /-- a static entry has its interfaces -/
  permanent : ∀ ports, static a = some ports → ∃ ts, entry = some (ts, ports)
  /-- the stamp of a learned one is that of its frame or of a lookup after it -/
  learned : static a = none → ∀ ts ports, entry = some (ts, ports) →
    ∃ received i, latest (frameOf a) h = some (received, i) ∧ ports = [i] ∧ received ≤ ts
  /-- none is gone before its time -/
  forgotten : static a = none → entry = none → ∀ received i,
    latest (frameOf a) h = some (received, i) → threshold ≤ now - received

structure Holds (static : MacAddress → Option (List Int)) (s : TimedDatabase) : Prop where
  active : s.database.agingActive = true
  held : ∀ a, HeldAt static s.database.agingThreshold s.history s.now a (s.database.operFdb a)
  past : ∀ r ∈ s.history, r.time ≤ s.now
  ordered : Each (fun p r => ∀ x ∈ p, x.time ≤ r.time) s.history
  answered : Each (Answers static s.database.agingThreshold) s.history

theorem live_eq_false {d : FilteringDatabase} (ha : d.agingActive = true) {ts t : SimTime}
    (h : d.live ts t = false) : d.agingThreshold ≤ t - ts := by
  unfold FilteringDatabase.live at h
  rw [ha, Bool.not_true, Bool.false_or, Bool.or_eq_false_iff] at h
  exact not_lt.mp (of_decide_eq_false h.2)

variable {threshold now : SimTime} {h : List DatabaseRecord} {a : MacAddress}

theorem entryOf_static {ports : List Int} (hs : static a = some ports) :
    entryOf static threshold h a now = ports := by
  rw [entryOf, hs]

theorem entryOf_young {received : SimTime} {i : Int} (hs : static a = none)
    (hl : latest (frameOf a) h = some (received, i)) (ht : now - received < threshold) :
    entryOf static threshold h a now = [i] := by
  rw [entryOf, hs, hl]
  exact if_pos ht

/-- nothing is to be held if no frame is young enough -/
theorem entryOf_old (hs : static a = none)
    (hold : ∀ received i, latest (frameOf a) h = some (received, i) → threshold ≤ now - received) :
    entryOf static threshold h a now = [] := by
  rw [entryOf, hs]
  dsimp only
  cases hl : latest (frameOf a) h with
  | none => rfl
  | some last =>
    obtain ⟨received, i⟩ := last
    exact if_neg (not_lt.mpr (hold received i hl))

/-- what is held at one time is held later -/
theorem HeldAt.later {e : Option (SimTime × List Int)} (hh : HeldAt static threshold h now a e)
    {t : SimTime} (ht : now ≤ t) : HeldAt static threshold h t a e := by
  refine ⟨hh.permanent, hh.learned, fun hs he received i hl => ?_⟩
  have := hh.forgotten hs he received i hl
  linarith

/-- records without a frame of the address -/
theorem HeldAt.snoc {e : Option (SimTime × List Int)} (hh : HeldAt static threshold h now a e)
    {r : DatabaseRecord} (hr : frameOf a r = none) : HeldAt static threshold (h ++ [r]) now a e := by
  refine ⟨hh.permanent, ?_, ?_⟩
  · rw [latest_snoc_none hr]
    exact hh.learned
  · rw [latest_snoc_none hr]
    exact hh.forgotten

/-- a record is made and the entry of one address is changed -/
theorem Holds.record (hs : Holds static s) {d : FilteringDatabase} {r : DatabaseRecord}
    (hd : d.agingActive = s.database.agingActive ∧ d.agingThreshold = s.database.agingThreshold)
    (a : MacAddress) (hother : ∀ b, b ≠ a → d.operFdb b = s.database.operFdb b ∧ frameOf b r = none)
    (ha : HeldAt static s.database.agingThreshold (s.history ++ [r]) s.now a (d.operFdb a))
    (ht : r.time = s.now) (hr : Answers static s.database.agingThreshold s.history r) :
    Holds static (s.record d r) := by
  refine ⟨hd.1.trans hs.active, fun b => ?_, fun x hx => ?_, ?_, ?_⟩
  · show HeldAt static d.agingThreshold (s.history ++ [r]) s.now b (d.operFdb b)
    rw [hd.2]
    by_cases hb : b = a
    · rw [hb]
      exact ha
    · obtain ⟨htable, hframe⟩ := hother b hb
      rw [htable]
      exact (hs.held b).snoc hframe
  · obtain hx | hx := List.mem_append.mp hx
    · exact hs.past x hx
    · rw [List.mem_singleton.mp hx]
      exact le_of_eq ht
  · refine each_snoc.mpr ⟨hs.ordered, fun x hx => ?_⟩
    rw [ht]
    exact hs.past x hx
  · show Each (Answers static d.agingThreshold) (s.history ++ [r])
    rw [hd.2]
    exact each_snoc.mpr ⟨hs.answered, hr⟩

/-! ## the operations -/

theorem holds_insert (hs : Holds static s) {i : Int} (hstatic : static a = none) :
    Holds static (s.record (s.database.insert a s.now i) (.learned s.now a i)) := by
  have hframe : frameOf a (.learned s.now a i) = some (s.now, i) := if_pos rfl
  refine hs.record (d := s.database.insert a s.now i) ⟨rfl, rfl⟩ a (fun b hb => ⟨?_, ?_⟩) ?_ rfl
    trivial
  · exact Function.update_of_ne hb _ _
  · exact if_neg (Ne.symm hb)
  · have he : (s.database.insert a s.now i).operFdb a = some (s.now, [i]) :=
      Function.update_self _ _ _
    rw [he]
    refine ⟨fun ports hp => ?_, fun _ ts ports hp => ?_, fun _ hp => nomatch hp⟩
    · rw [hstatic] at hp
      cases hp
    · cases hp
      exact ⟨s.now, i, latest_snoc_some hframe, rfl, le_rfl⟩

/-- the entry is used and gets a new stamp -/
theorem holds_refresh (hs : Holds static s) {r : DatabaseRecord} {ts : SimTime} {ports : List Int}
    (hframe : ∀ b, frameOf b r = none) (he : s.database.operFdb a = some (ts, ports))
    (ht : r.time = s.now) (hr : Answers static s.database.agingThreshold s.history r) :
    Holds static (s.record (s.database.refresh a s.now ports) r) := by
  refine hs.record (d := s.database.refresh a s.now ports) ⟨rfl, rfl⟩ a
    (fun b hb => ⟨Function.update_of_ne hb _ _, hframe b⟩) ?_ ht hr
  have he' : (s.database.refresh a s.now ports).operFdb a = some (s.now, ports) :=
    Function.update_self _ _ _
  rw [he']
  have hheld := hs.held a
  rw [he] at hheld
  refine ⟨fun ports' hp => ?_, fun hn ts' ports' hp => ?_, fun _ hp => nomatch hp⟩
  · obtain ⟨ts', hts⟩ := hheld.permanent ports' hp
    cases hts
    exact ⟨s.now, rfl⟩
  · cases hp
    obtain ⟨received, i, hl, hports, _⟩ := hheld.learned hn ts ports rfl
    refine ⟨received, i, ?_, hports, ?_⟩
    · rw [latest_snoc_none (hframe a)]
      exact hl
    · obtain ⟨x, hx, hfx⟩ := exists_of_latest hl
      have hxt : x.time = received := by
        cases x with
        | learned t b j =>
          by_cases hb : b = a
          · rw [frameOf, if_pos hb] at hfx
            cases hfx
            rfl
          · rw [frameOf, if_neg hb] at hfx
            cases hfx
        | askedId t b j => cases hfx
        | askedIds t b j => cases hfx
      exact hxt ▸ hs.past x hx

/-- a learned entry is erased when its time has come -/
theorem holds_erase (hs : Holds static s) {r : DatabaseRecord} {ts : SimTime} {ports : List Int}
    (hframe : ∀ b, frameOf b r = none) (he : s.database.operFdb a = some (ts, ports))
    (hstatic : static a = none) (hl : s.database.live ts s.now = false) (ht : r.time = s.now)
    (hr : Answers static s.database.agingThreshold s.history r) :
    Holds static (s.record (s.database.erase a) r) := by
  refine hs.record (d := s.database.erase a) ⟨rfl, rfl⟩ a
    (fun b hb => ⟨Function.update_of_ne hb _ _, hframe b⟩) ?_ ht hr
  have he' : (s.database.erase a).operFdb a = none := Function.update_self _ _ _
  rw [he']
  refine ⟨fun ports' hp => ?_, fun _ ts' ports' hp => (nomatch hp), fun _ _ received i hlast => ?_⟩
  · rw [hstatic] at hp
    cases hp
  · rw [latest_snoc_none (hframe a)] at hlast
    obtain ⟨received', i', hlast', _, hle⟩ := (hs.held a).learned hstatic ts ports he
    rw [hlast] at hlast'
    cases hlast'
    have := live_eq_false hs.active hl
    linarith

/-- nothing is changed -/
theorem holds_record (hs : Holds static s) (a : MacAddress) {r : DatabaseRecord} (hframe : ∀ b, frameOf b r = none)
    (ht : r.time = s.now) (hr : Answers static s.database.agingThreshold s.history r) :
    Holds static (s.record s.database r) :=
  hs.record (d := s.database) ⟨rfl, rfl⟩ a (fun b _ => ⟨rfl, hframe b⟩)
    ((hs.held a).snoc (hframe a)) ht hr

theorem holds_getDestInterfaceId (hs : Holds static s)
    (hu : Undisturbed static s (.getDestInterfaceId a))
    (hstep : step s (.getDestInterfaceId a) = .ok s') : Holds static s' := by
  have hheld := hs.held a
  rw [step] at hstep
  obtain ⟨ts, port, he, hl, hget⟩ | ⟨ts, port, he, hl, hget⟩ | ⟨hne, hget⟩ :=
    s.database.getDestInterfaceId_cases a s.now
  · rw [hget] at hstep
    cases hstep
    refine holds_refresh hs (fun _ => rfl) he rfl ?_
    show port = soleInterface _
    cases hst : static a with
    | some ports =>
      obtain ⟨ts', hts⟩ := hheld.permanent ports hst
      rw [he] at hts
      cases hts
      rw [entryOf_static hst]
      rfl
    | none =>
      obtain ⟨received, i, hlast, hports, _⟩ := hheld.learned hst ts [port] he
      cases hports
      have hyoung : s.now - received < s.database.agingThreshold := by
        by_contra hold
        have := ((hu (ts, [port]) he rfl).2 hst (received, port) hlast (not_lt.mp hold)).symm.trans hl
        cases this
      rw [entryOf_young hst hlast hyoung]
      rfl
  · have hst : static a = none := by
      by_contra hst
      cases ((hu (ts, [port]) he rfl).1 hst).symm.trans hl
    rw [hget] at hstep
    cases hstep
    refine holds_erase hs (fun _ => rfl) he hst hl rfl ?_
    show (-1 : Int) = soleInterface _
    rw [entryOf_old hst]
    · rfl
    · intro received i hlast
      obtain ⟨received', i', hlast', _, hle⟩ := hheld.learned hst ts [port] he
      rw [hlast] at hlast'
      cases hlast'
      have := live_eq_false hs.active hl
      linarith
  · rw [hget] at hstep
    cases hstep
    refine holds_record hs a (fun _ => rfl) rfl ?_
    show (-1 : Int) = soleInterface _
    cases hst : static a with
    | some ports =>
      rw [entryOf_static hst]
      obtain ⟨ts, hts⟩ := hheld.permanent ports hst
      -- a rule with no or several interfaces
      match ports with
      | [] => rfl
      | [port] => exact absurd hts (hne ts port)
      | _ :: _ :: _ => rfl
    | none =>
      have hnone : s.database.operFdb a = none := by
        cases he : s.database.operFdb a with
        | none => rfl
        | some e =>
          obtain ⟨ts, ports⟩ := e
          obtain ⟨received, i, _, rfl, _⟩ := hheld.learned hst ts ports he
          exact absurd he (hne ts i)
      rw [entryOf_old hst (hheld.forgotten hst hnone)]
      rfl

theorem holds_getDestInterfaceIds (hs : Holds static s)
    (hu : Undisturbed static s (.getDestInterfaceIds a))
    (hstep : step s (.getDestInterfaceIds a) = .ok s') : Holds static s' := by
  have hheld := hs.held a
  obtain ⟨⟨answer, d⟩, hget, hstep⟩ := bind_ok.mp hstep
  cases hstep
  have ha : a.isMulticast = true := FilteringDatabase.isMulticast_of_getDestInterfaceIds hget
  -- the answer is the entry that is found, live or not
  have hanswer : ∀ ts ports, s.database.operFdb a = some (ts, ports) →
      ports = entryOf static s.database.agingThreshold s.history a s.now := by
    intro ts ports he
    cases hst : static a with
    | some ports' =>
      obtain ⟨ts', hts⟩ := hheld.permanent ports' hst
      rw [he] at hts
      cases hts
      rw [entryOf_static hst]
    | none =>
      obtain ⟨received, i, hlast, hports, _⟩ := hheld.learned hst ts ports he
      rw [entryOf_young hst hlast ((hu (ts, ports) he).2 hst (received, i) hlast)]
      exact hports
  obtain ⟨ts, ports, he, hl, hcase⟩ | ⟨ts, ports, he, hl, hcase⟩ | ⟨he, hcase⟩ :=
    FilteringDatabase.getDestInterfaceIds_cases (d := s.database) ha s.now
  · rw [hcase] at hget
    cases hget
    exact holds_refresh hs (fun _ => rfl) he rfl (hanswer ts _ he)
  · exfalso
    have hst : static a = none := by
      by_contra hst
      cases ((hu (ts, ports) he).1 hst).symm.trans hl
    obtain ⟨received, i, hlast, _, hle⟩ := hheld.learned hst ts ports he
    have hyoung := (hu (ts, ports) he).2 hst (received, i) hlast
    have := live_eq_false hs.active hl
    linarith
  · rw [hcase] at hget
    cases hget
    refine holds_record hs a (fun _ => rfl) rfl ?_
    have hst : static a = none := by
      by_contra hst
      obtain ⟨ports, hp⟩ := Option.ne_none_iff_exists'.mp hst
      obtain ⟨ts, hts⟩ := hheld.permanent ports hp
      rw [he] at hts
      cases hts
    exact (entryOf_old hst (hheld.forgotten hst he)).symm

/-- **An undisturbed step keeps the table as it is to be.** -/
theorem holds_step {e : DatabaseEvent} (hs : Holds static s) (hu : Undisturbed static s e)
    (hstep : step s e = .ok s') : Holds static s' := by
  cases e with
  | advance t =>
    cases hstep
    split
    · rename_i ht
      refine ⟨hs.active, fun a => (hs.held a).later ht, fun r hr => ?_, hs.ordered, hs.answered⟩
      exact (hs.past r hr).trans ht
    · exact hs
  | insert a i =>
    cases hstep
    exact holds_insert hs hu
  | getDestInterfaceId a => exact holds_getDestInterfaceId hs hu hstep
  | getDestInterfaceIds a => exact holds_getDestInterfaceIds hs hu hstep

/-! ## loaded tables -/

/-- how a table ages -/
def aging (d : FilteringDatabase) : Bool × SimTime := (d.agingActive, d.agingThreshold)

theorem parseEntries_aging {d d' : FilteringDatabase} {xml : ForwardElement}
    (h : d.parseEntries xml = .ok d') : aging d' = aging d := by
  obtain ⟨_, _, h⟩ := bind_ok.mp h
  obtain ⟨_, _, h⟩ := bind_ok.mp h
  cases h
  rfl

theorem loadStatic_aging {d d' : FilteringDatabase} {xml : StaticElement}
    (h : d.loadStatic xml = .ok d') : aging d' = aging d := by
  obtain ⟨forward, blockedPorts⟩ := xml
  obtain ⟨m, hforward, hm⟩ := FilteringDatabase.loadStatic_ok h
  rw [hm]
  show aging m = aging d
  cases forward with
  | none =>
    cases hforward
    rfl
  | some forwardingXml => exact parseEntries_aging (d := d.clearAdminFdb) hforward

/-- the rules leave the aging alone -/
theorem loadDatabase_aging {d d' : FilteringDatabase} {xml : Option DatabaseElement}
    (h : d.loadDatabase xml = .ok d') : aging d' = aging d := by
  cases xml with
  | none =>
    cases h
    rfl
  | some fdb =>
    obtain ⟨staticRules⟩ := fdb
    cases staticRules with
    | none =>
      cases h
      rfl
    | some staticRules =>
      obtain ⟨m, hm, h⟩ := bind_ok.mp h
      cases h
      have hmd : aging m = aging d := loadStatic_aging hm
      exact hmd

theorem aging_step {e : DatabaseEvent} (hstep : step s e = .ok s') :
    aging s'.database = aging s.database := by
  cases e with
  | advance t =>
    cases hstep
    split <;> rfl
  | insert a i =>
    cases hstep
    rfl
  | getDestInterfaceId a =>
    rw [step] at hstep
    obtain ⟨_, _, _, _, hget⟩ | ⟨_, _, _, _, hget⟩ | ⟨_, hget⟩ :=
      s.database.getDestInterfaceId_cases a s.now
    all_goals
      rw [hget] at hstep
      cases hstep
      rfl
  | getDestInterfaceIds a =>
    obtain ⟨⟨answer, d⟩, hget, hstep⟩ := bind_ok.mp hstep
    cases hstep
    show aging d = aging s.database
    unfold FilteringDatabase.getDestInterfaceIds at hget
    split at hget
    · cases hget
    · split at hget
      · cases hget
        rfl
      · split at hget
        · cases hget
          rfl
        · cases hget
          rfl

theorem holds_start {d : FilteringDatabase} (hd : d.agingActive = true) (t0 : SimTime) :
    Holds (staticEntries d) (start d t0) := by
  refine ⟨hd, fun a => ⟨fun ports hp => ?_, fun hn ts ports he => ?_, fun _ _ _ _ hl => ?_⟩, nofun,
    each_nil, each_nil⟩
  · obtain ⟨⟨ts, ports'⟩, he, rfl⟩ := Option.map_eq_some_iff.mp hp
    exact ⟨ts, he⟩
  · change d.operFdb a = _ at he
    rw [staticEntries, he] at hn
    cases hn
  · cases hl

/-- **Over every undisturbed run with aging the static entries stay, and every lookup is answered from
them and from the frames that are young enough.** -/
theorem entries_permanent {ifTable : InterfaceTable} {threshold t0 : SimTime}
    {xml : Option DatabaseElement} {d : FilteringDatabase} {es : List DatabaseEvent}
    (hd : (FilteringDatabase.new true threshold ifTable).loadDatabase xml = .ok d)
    (hm : Meets step (Undisturbed (staticEntries d)) (start d t0) es)
    (hr : run step (start d t0) es = .ok s) :
    (∀ a ports, staticEntries d a = some ports → ∃ ts, s.database.operFdb a = some (ts, ports)) ∧
    Each (Answers (staticEntries d) threshold) s.history ∧
    Each (fun p r => ∀ x ∈ p, x.time ≤ r.time) s.history := by
  have hload : aging d = (true, threshold) := loadDatabase_aging hd
  have hactive : d.agingActive = true := congrArg Prod.fst hload
  have hs : Holds (staticEntries d) s :=
    run_invariant_of (fun m e m' hi hu h => holds_step hi hu h) (holds_start hactive t0) hm hr
  have haging : aging s.database = (true, threshold) :=
    run_invariant (I := fun m => aging m.database = (true, threshold))
      (fun m e m' hi h => (aging_step h).trans hi) hload hr
  have hthreshold : s.database.agingThreshold = threshold := congrArg Prod.snd haging
  refine ⟨fun a => (hs.held a).permanent, ?_, hs.ordered⟩
  rw [← hthreshold]
  exact hs.answered

/-! ## the stamps by the records -/

/-- `getDestInterfaceId` uses a static entry with one interface; for another address -1 says that it
has found none -/
def uses (static : MacAddress → Option (List Int)) (a : MacAddress) (answer : Int) : Bool :=
  match static a with
  | some ports => ports.length = 1
  | none => answer ≠ -1

/-- the stamp that a record leaves on the entry of `a` -/
def stampOf (static : MacAddress → Option (List Int)) (a : MacAddress) :
    DatabaseRecord → Option SimTime
  | .learned time macAddress _ => if macAddress = a then some time else none
  | .askedId time macAddress answer =>
    if macAddress = a ∧ uses static a answer then some time else none
  | .askedIds time macAddress _ => if macAddress = a then some time else none

/-- when the entry of `a` was used last; a loaded one begins with 0 -/
def lastUse (static : MacAddress → Option (List Int)) (h : List DatabaseRecord) (a : MacAddress) :
    SimTime := (latest (stampOf static a) h).getD 0

/-- a static address is not learned, and looked up again before its last use is too long ago; a
learned one is looked up while its frame is young, or when its last use is too long ago as well -/
def Timely (static : MacAddress → Option (List Int)) (s : TimedDatabase) : DatabaseEvent → Prop
  | .advance _ => True
  | .insert a interfaceId => static a = none ∧ interfaceId ≠ -1
  | .getDestInterfaceId a =>
    (∀ ports, static a = some ports → ports.length = 1 →
      s.database.live (lastUse static s.history a) s.now = true) ∧
    (static a = none → ∀ f ∈ latest (frameOf a) s.history,
      s.database.agingThreshold ≤ s.now - f.1 →
        s.database.live (lastUse static s.history a) s.now = false)
  | .getDestInterfaceIds a =>
    (static a ≠ none → s.database.live (lastUse static s.history a) s.now = true) ∧
    (static a = none → ∀ f ∈ latest (frameOf a) s.history,
      s.now - f.1 < s.database.agingThreshold)

/-- the stamps are those of the records -/
structure Stamped (static : MacAddress → Option (List Int)) (s : TimedDatabase) : Prop where
  holds : Holds static s
  stamp : ∀ a, ∀ e ∈ s.database.operFdb a, e.1 = lastUse static s.history a
  named : ∀ a, static a = none → ∀ e ∈ s.database.operFdb a, e.2 ≠ [-1]

theorem Stamped.undisturbed (hs : Stamped static s) {e : DatabaseEvent} (ht : Timely static s e) :
    Undisturbed static s e := by
  cases e with
  | advance t => trivial
  | insert a i => exact ht.1
  | getDestInterfaceId a =>
    intro e he hsole
    rw [hs.stamp a e he]
    refine ⟨fun hstatic => ?_, ht.2⟩
    obtain ⟨ports, hports⟩ := Option.ne_none_iff_exists'.mp hstatic
    obtain ⟨ts, hentry⟩ := (hs.holds.held a).permanent ports hports
    cases hentry.symm.trans he
    exact ht.1 _ hports hsole
  | getDestInterfaceIds a =>
    intro e he
    rw [hs.stamp a e he]
    exact ht

/-- a record is made and the entry of one address is changed -/
theorem Stamped.record (hs : Stamped static s) {d : FilteringDatabase} {r : DatabaseRecord}
    (hholds : Holds static (s.record d r)) (a : MacAddress)
    (hother : ∀ b, b ≠ a → d.operFdb b = s.database.operFdb b ∧ stampOf static b r = none)
    (ha : ∀ e ∈ d.operFdb a, e.1 = lastUse static (s.history ++ [r]) a ∧
      (static a = none → e.2 ≠ [-1])) : Stamped static (s.record d r) := by
  refine ⟨hholds, fun b e he => ?_, fun b hb e he => ?_⟩
  · by_cases hba : b = a
    · subst hba
      exact (ha e he).1
    · obtain ⟨htable, hstamp⟩ := hother b hba
      show e.1 = lastUse static (s.history ++ [r]) b
      rw [lastUse, latest_snoc_none hstamp]
      exact hs.stamp b e (htable ▸ he)
  · by_cases hba : b = a
    · subst hba
      exact (ha e he).2 hb
    · exact hs.named b hb e ((hother b hba).1 ▸ he)

theorem lastUse_snoc {r : DatabaseRecord} {t : SimTime} (hr : stampOf static a r = some t) :
    lastUse static (h ++ [r]) a = t := by
  rw [lastUse, latest_snoc_some hr]
  rfl

theorem stamped_insert {i : Int} (hs : Stamped static s) (ht : Timely static s (.insert a i))
    (hholds : Holds static s') (hstep : step s (.insert a i) = .ok s') : Stamped static s' := by
  cases hstep
  refine hs.record hholds a (fun b hb => ⟨Function.update_of_ne hb _ _, if_neg (Ne.symm hb)⟩) ?_
  intro e he
  have hentry : (s.database.insert a s.now i).operFdb a = some (s.now, [i]) :=
    Function.update_self _ _ _
  cases hentry.symm.trans he
  have hstamp : stampOf static a (.learned s.now a i) = some s.now := if_pos rfl
  exact ⟨(lastUse_snoc hstamp).symm, fun _ hi => ht.2 (List.cons.inj hi).1⟩

/-- the answer is not -1 by the entry that is found, so the lookup counts as a use -/
theorem Stamped.uses_found (hs : Stamped static s) {ts : SimTime} {port : Int}
    (he : s.database.operFdb a = some (ts, [port])) : uses static a port = true := by
  unfold uses
  cases hst : static a with
  | none => exact decide_eq_true fun hp => hs.named a hst _ he (congrArg (fun p => [p]) hp)
  | some ports =>
    obtain ⟨ts', hts⟩ := (hs.holds.held a).permanent ports hst
    cases hts.symm.trans he
    rfl

/-- no entry with one interface is found, so that no stamp is written -/
theorem Stamped.uses_missed (hs : Stamped static s)
    (hne : ∀ ts port, s.database.operFdb a ≠ some (ts, [port])) : ¬uses static a (-1) = true := by
  intro huses
  unfold uses at huses
  split at huses
  · rename_i ports hst
    obtain ⟨ts, hts⟩ := (hs.holds.held a).permanent ports hst
    obtain ⟨port, rfl⟩ := List.length_eq_one_iff.mp (of_decide_eq_true huses)
    exact hne ts port hts
  · exact of_decide_eq_true huses rfl

theorem stamped_getDestInterfaceId (hs : Stamped static s) (hholds : Holds static s')
    (hstep : step s (.getDestInterfaceId a) = .ok s') : Stamped static s' := by
  rw [step] at hstep
  have hother : ∀ b, b ≠ a → ∀ answer, stampOf static b (.askedId s.now a answer) = none :=
    fun b hb answer => if_neg fun hab => hb hab.1.symm
  obtain ⟨ts, port, he, hl, hget⟩ | ⟨ts, port, he, hl, hget⟩ | ⟨hne, hget⟩ :=
    s.database.getDestInterfaceId_cases a s.now
  · rw [hget] at hstep
    cases hstep
    refine hs.record hholds a
      (fun b hb => ⟨Function.update_of_ne hb _ _, hother b hb port⟩) fun e hentry => ?_
    have hnew : (s.database.refresh a s.now [port]).operFdb a = some (s.now, [port]) :=
      Function.update_self _ _ _
    cases hnew.symm.trans hentry
    have hstamp : stampOf static a (.askedId s.now a port) = some s.now :=
      if_pos ⟨rfl, hs.uses_found he⟩
    have hnamed := fun hn => hs.named a hn _ he
    exact ⟨(lastUse_snoc hstamp).symm, hnamed⟩
  · rw [hget] at hstep
    cases hstep
    refine hs.record hholds a
      (fun b hb => ⟨Function.update_of_ne hb _ _, hother b hb (-1)⟩) fun e hentry => ?_
    have hgone : (s.database.erase a).operFdb a = none := Function.update_self _ _ _
    cases hgone.symm.trans hentry
  · rw [hget] at hstep
    cases hstep
    refine hs.record hholds a (fun b hb => ⟨rfl, hother b hb (-1)⟩) fun e he =>
      ⟨?_, fun hn => hs.named a hn e he⟩
    have hnone : stampOf static a (.askedId s.now a (-1)) = none :=
      if_neg fun huses => hs.uses_missed hne huses.2
    rw [lastUse, latest_snoc_none hnone]
    exact hs.stamp a e he

theorem stamped_getDestInterfaceIds (hs : Stamped static s) (hholds : Holds static s')
    (hstep : step s (.getDestInterfaceIds a) = .ok s') : Stamped static s' := by
  obtain ⟨⟨answer, d⟩, hget, hstep⟩ := bind_ok.mp hstep
  cases hstep
  have ha : a.isMulticast = true := FilteringDatabase.isMulticast_of_getDestInterfaceIds hget
  have hother : ∀ b, b ≠ a → stampOf static b (.askedIds s.now a answer) = none :=
    fun b hb => if_neg (Ne.symm hb)
  obtain ⟨ts, ports, he, hl, hcase⟩ | ⟨ts, ports, he, hl, hcase⟩ | ⟨he, hcase⟩ :=
    FilteringDatabase.getDestInterfaceIds_cases (d := s.database) ha s.now
  · cases hcase.symm.trans hget
    refine hs.record hholds a
      (fun b hb => ⟨Function.update_of_ne hb _ _, hother b hb⟩) fun e hentry => ?_
    have hnew : (s.database.refresh a s.now answer).operFdb a = some (s.now, answer) :=
      Function.update_self _ _ _
    cases hnew.symm.trans hentry
    have hstamp : stampOf static a (.askedIds s.now a answer) = some s.now := if_pos rfl
    have hnamed := fun hn => hs.named a hn _ he
    exact ⟨(lastUse_snoc hstamp).symm, hnamed⟩
  · cases hcase.symm.trans hget
    refine hs.record hholds a
      (fun b hb => ⟨Function.update_of_ne hb _ _, hother b hb⟩) fun e hentry => ?_
    have hgone : (s.database.erase a).operFdb a = none := Function.update_self _ _ _
    cases hgone.symm.trans hentry
  · cases hcase.symm.trans hget
    refine hs.record hholds a (fun b hb => ⟨rfl, hother b hb⟩) fun e hentry => ?_
    cases he.symm.trans hentry

theorem stamped_step {e : DatabaseEvent} (hs : Stamped static s) (ht : Timely static s e)
    (hstep : step s e = .ok s') : Stamped static s' := by
  have hholds := holds_step hs.holds (hs.undisturbed ht) hstep
  cases e with
  | advance t =>
    cases hstep
    split
    · rename_i hle
      rw [if_pos hle] at hholds
      exact ⟨hholds, hs.stamp, hs.named⟩
    · exact hs
  | insert a i => exact stamped_insert hs ht hholds hstep
  | getDestInterfaceId a => exact stamped_getDestInterfaceId hs hholds hstep
  | getDestInterfaceIds a => exact stamped_getDestInterfaceIds hs hholds hstep

/-- **Timely lookups** do not disturb the table. -/
theorem undisturbed_of_timely {ifTable : InterfaceTable} {threshold t0 : SimTime}
    {xml : Option DatabaseElement} {d : FilteringDatabase} {es : List DatabaseEvent}
    (hd : (FilteringDatabase.new true threshold ifTable).loadDatabase xml = .ok d)
    (hm : Meets step (Timely (staticEntries d)) (start d t0) es) :
    Meets step (Undisturbed (staticEntries d)) (start d t0) es := by
  have hactive : d.agingActive = true := congrArg Prod.fst (loadDatabase_aging hd)
  have hstart : Stamped (staticEntries d) (start d t0) := by
    refine ⟨holds_start hactive t0, fun a e he => ?_, fun a hn e he => ?_⟩
    · exact FilteringDatabase.loadDatabase_stamp hd a e he
    · have hsome : staticEntries d a = some e.2 := congrArg (Option.map Prod.snd) he
      cases hn.symm.trans hsome
  exact Meets.of_invariant (fun s e s' h ht hs => stamped_step h ht hs)
    (fun s e h ht => h.undisturbed ht) hstart hm

instance {h : List DatabaseRecord} {r : DatabaseRecord} :
    Decidable (Answers static threshold h r) :=
  match r with
  | .learned _ _ _ => isTrue trivial
  | .askedId _ _ _ => inferInstanceAs (Decidable (_ = _))
  | .askedIds _ _ _ => inferInstanceAs (Decidable (_ = _))

instance {e : DatabaseEvent} : Decidable (Undisturbed static s e) :=
  match e with
  | .advance _ => isTrue trivial
  | .insert _ _ => inferInstanceAs (Decidable (_ = _))
  | .getDestInterfaceId _ => inferInstanceAs (Decidable (∀ e ∈ _, _ = _ → (_ → _) ∧
      (_ → ∀ f ∈ _, _ → _)))
  | .getDestInterfaceIds _ => inferInstanceAs (Decidable (∀ e ∈ _, (_ → _) ∧ (_ → ∀ f ∈ _, _)))

/-- the last answer is not taken from the table as it is to be -/
def LastWrong (static : MacAddress → Option (List Int)) (threshold : SimTime)
    (h : List DatabaseRecord) : Prop :=
  ∃ r ∈ h.getLast?, ¬Answers static threshold h.dropLast r

instance : Decidable (LastWrong static threshold h) :=
  inferInstanceAs (Decidable (∃ r ∈ h.getLast?, _))

theorem not_each_answers (hw : LastWrong static threshold h) :
    ¬Each (Answers static threshold) h := by
  obtain ⟨r, hr, hn⟩ := hw
  intro he
  apply hn
  apply he h.dropLast r []
  exact (List.dropLast_append_getLast? r hr).symm

/-- a rule for one station, entries age after 10 s -/
def oneStation : Sim FilteringDatabase :=
  (FilteringDatabase.new true 10 ⟨[⟨100, 0⟩, ⟨101, 1⟩, ⟨102, 2⟩],
    threeInterfaces_distinct⟩).loadDatabase (some ⟨some
    ⟨some ⟨[⟨some "00-00-00-00-00-04", some "1", none⟩], []⟩, none⟩⟩)

/-- two stations are learned, one of them again, and all three are looked up -/
theorem entries_permanent_threeStations :
    let es : List DatabaseEvent := [.insert 8 100, .insert 9 102, .getDestInterfaceId 4, .advance 9,
      .insert 9 100, .getDestInterfaceId 4, .advance 12, .getDestInterfaceId 8,
      .getDestInterfaceId 9, .getDestInterfaceId 4]
    ∃ d s, oneStation = .ok d ∧ run step (start d 1) es = .ok s ∧
      s.history.drop 5 = [.askedId 12 8 (-1), .askedId 12 9 100, .askedId 12 4 101] ∧
      Each (Answers (staticEntries d) 10) s.history := by
  intro es
  obtain ⟨d, hd, hrun, hm⟩ : ∃ d, oneStation = .ok d ∧
      (run step (start d 1) es).map (fun s => s.history.drop 5) =
        .ok [.askedId 12 8 (-1), .askedId 12 9 100, .askedId 12 4 101] ∧
      Meets step (Undisturbed (staticEntries d)) (start d 1) es :=
    exists_of_any (by decide +kernel)
  obtain ⟨s, hs, hdrop⟩ := map_ok.mp hrun
  exact ⟨d, s, hd, hs, hdrop, (entries_permanent hd hm hs).2.1⟩

/-- A static entry is gone after its second lookup, another one is overwritten; a learned entry never
ages, one stays for being looked up, and one is returned when it is gone. -/
theorem entries_disturbed : ∃ d, oneStation = .ok d ∧ staticEntries d 4 = some [101] ∧
    (∃ s, run step (start d 0) [.advance 5, .getDestInterfaceId 4, .advance 20,
      .getDestInterfaceId 4] = .ok s ∧ s.database.operFdb 4 = none ∧
      ¬Each (Answers (staticEntries d) 10) s.history) ∧
    (∃ s, run step (start d 1) [.insert 4 102] = .ok s ∧ s.database.operFdb 4 = some (1, [102])) ∧
    (∃ s, run step (start d 0) [.insert 9 102, .advance 20, .getDestInterfaceId 9] = .ok s ∧
      ¬Each (Answers (staticEntries d) 10) s.history) ∧
    (∃ s, run step (start d 1) [.insert 9 102, .advance 8, .getDestInterfaceId 9, .advance 15,
      .getDestInterfaceId 9] = .ok s ∧ ¬Each (Answers (staticEntries d) 10) s.history) ∧
    (∃ s, run step (start d 1) [.insert 0x010000000001 102, .advance 20,
      .getDestInterfaceIds 0x010000000001] = .ok s ∧
      ¬Each (Answers (staticEntries d) 10) s.history) := by
  have hwrong : ∀ {d : FilteringDatabase} {t0 : SimTime} {es : List DatabaseEvent},
      ((run step (start d t0) es).toOption.any fun s =>
        LastWrong (staticEntries d) 10 s.history) = true →
      ∃ s, run step (start d t0) es = .ok s ∧ ¬Each (Answers (staticEntries d) 10) s.history := by
    intro d t0 es h
    obtain ⟨s, hs, hw⟩ := exists_of_any h
    exact ⟨s, hs, not_each_answers hw⟩
  obtain ⟨d, hd, hstatic, haged, hover, hzero, hkept, hgone⟩ : ∃ d, oneStation = .ok d ∧
      staticEntries d 4 = some [101] ∧
      ((run step (start d 0) [.advance 5, .getDestInterfaceId 4, .advance 20,
        .getDestInterfaceId 4]).toOption.any fun s => s.database.operFdb 4 = none ∧
          LastWrong (staticEntries d) 10 s.history) = true ∧
      ((run step (start d 1) [.insert 4 102]).toOption.any fun s =>
        s.database.operFdb 4 = some (1, [102])) = true ∧
      ((run step (start d 0) [.insert 9 102, .advance 20, .getDestInterfaceId 9]).toOption.any
        fun s => LastWrong (staticEntries d) 10 s.history) = true ∧
      ((run step (start d 1) [.insert 9 102, .advance 8, .getDestInterfaceId 9, .advance 15,
        .getDestInterfaceId 9]).toOption.any
        fun s => LastWrong (staticEntries d) 10 s.history) = true ∧
      ((run step (start d 1) [.insert 0x010000000001 102, .advance 20,
        .getDestInterfaceIds 0x010000000001]).toOption.any
        fun s => LastWrong (staticEntries d) 10 s.history) = true :=
    exists_of_any (by decide +kernel)
  obtain ⟨s, hs, hnone, hw⟩ := exists_of_any haged
  exact ⟨d, hd, hstatic, ⟨s, hs, hnone, not_each_answers hw⟩, exists_of_any hover, hwrong hzero,
    hwrong hkept, hwrong hgone⟩

end TimedDatabase
end Nesting
