import Nesting.Relay.FilteringDatabase

/-!
# The table that is loaded from a file

The rules of the file are read in their order, and an address keeps the interfaces of its first rule.

* `ConfiguredRule`   a rule of either kind; `address?`, `listed`, `VidZero` say what its attributes are;
* `Loads`            the table has the addresses of the rules and nothing else;
* `Readable`         the numbers that are read are those that the attributes are.
-/

set_option linter.unusedVariables false

namespace Nesting
namespace FilteringDatabase

inductive ConfiguredRule where
  | individualAddress (e : IndividualAddressElement)
  | multicastAddress (e : MulticastAddressElement)
  deriving DecidableEq, Repr

namespace ConfiguredRule

/-! ## what the attributes are -/

def macAddress : ConfiguredRule → Option String
  | .individualAddress e => e.macAddress
  | .multicastAddress e => e.macAddress

def vid : ConfiguredRule → Option String
  | .individualAddress e => e.vid
  | .multicastAddress e => e.vid

def address? (rule : ConfiguredRule) : Option MacAddress :=
  rule.macAddress.bind MacAddress.tryParse

/-- the ports of the rule, if its attribute is a number or a list of numbers -/
def listed : ConfiguredRule → Option (List Int)
  | .individualAddress e => (e.port.bind number?).map fun port => [port]
  | .multicastAddress e => e.ports.bind numbers?

/-- no VID, or 0 as it is written -/
def VidZero (rule : ConfiguredRule) : Prop := ∀ text ∈ rule.vid, number? text = some 0

/-! ## how they are read -/

def parse (ifTable : InterfaceTable) (adminFdb : Fdb) : ConfiguredRule → Sim Fdb
  | .individualAddress e => parseIndividualAddress ifTable adminFdb e
  | .multicastAddress e => parseMulticastAddress ifTable adminFdb e

/-- the ports that the code reads -/
def portsRead : ConfiguredRule → Option (List Int)
  | .individualAddress e => (e.port.bind fun text => (atoi text).toOption).map fun port => [port]
  | .multicastAddress e => e.ports.map extractInts

end ConfiguredRule

/-- the rules in the order in which they are read -/
def ForwardElement.rules (xml : ForwardElement) : List ConfiguredRule :=
  xml.individualAddress.map .individualAddress ++ xml.multicastAddress.map .multicastAddress

def configuredRules (xml : Option DatabaseElement) : List ConfiguredRule :=
  match (xml.bind (·.static)).bind (·.forward) with
  | none => []
  | some forward => ForwardElement.rules forward

/-- the first rule of an address -/
def firstRule (rules : List ConfiguredRule) (a : MacAddress) : Option ConfiguredRule :=
  rules.find? fun rule => rule.address? = some a

/-- **The table has exactly the configured addresses, each with the interfaces of its first rule, and no
rule is for a VLAN.** -/
structure Loads (d : FilteringDatabase) (rules : List ConfiguredRule) : Prop where
  addresses : ∀ a, (d.operFdb a).isSome = true ↔ ∃ rule ∈ rules, rule.address? = some a
  first : ∀ a rule, firstRule rules a = some rule → ∃ ports interfaceIds,
    rule.listed = some ports ∧ interfaceIdsOf d.ifTable ports = .ok interfaceIds ∧
      d.operFdb a = some (0, interfaceIds)
  vidZero : ∀ rule ∈ rules, rule.VidZero

/-- a text whose number is a multiple of 256 is a zero, and the ports of a first rule are the numbers
that its attribute lists -/
structure Readable (rules : List ConfiguredRule) : Prop where
  vid : ∀ rule ∈ rules, ∀ text ∈ rule.vid, ∀ n, atoi text = .ok n → n % 256 = 0 →
    number? text = some 0
  ports : ∀ a rule, firstRule rules a = some rule → rule.listed = rule.portsRead

/-! ## interfaces -/

theorem getInterface_ok {ifTable : InterfaceTable} {pos : Int} {entry : InterfaceEntry} :
    ifTable.getInterface pos = .ok entry ↔ 0 ≤ pos ∧ ifTable.interfaces[pos.toNat]? = some entry := by
  unfold InterfaceTable.getInterface
  split
  · exact ⟨fun h => (by cases h), fun h => by omega⟩
  · split
    · rename_i found hf
      rw [hf]
      exact ⟨fun h => ⟨by omega, congrArg some (Except.ok.inj h)⟩,
        fun h => congrArg _ (Option.some.inj h.2)⟩
    · rename_i hf
      rw [hf]
      exact ⟨fun h => (by cases h), fun h => (by cases h.2)⟩

/-- interfaces have different ids -/
theorem getInterface_inj {ifTable : InterfaceTable} {p q : Int} {x y : InterfaceEntry}
    (hp : ifTable.getInterface p = .ok x) (hq : ifTable.getInterface q = .ok y)
    (h : x.interfaceId = y.interfaceId) : p = q := by
  obtain ⟨hp0, hx⟩ := getInterface_ok.mp hp
  obtain ⟨hq0, hy⟩ := getInterface_ok.mp hq
  obtain ⟨hpl, hx⟩ := List.getElem?_eq_some_iff.mp hx
  obtain ⟨hql, hy⟩ := List.getElem?_eq_some_iff.mp hy
  have hpl' : p.toNat < (ifTable.interfaces.map (·.interfaceId)).length := by simpa using hpl
  have hql' : q.toNat < (ifTable.interfaces.map (·.interfaceId)).length := by simpa using hql
  have hids : (ifTable.interfaces.map (·.interfaceId))[p.toNat] =
      (ifTable.interfaces.map (·.interfaceId))[q.toNat] := by
    simp [hx, hy, h]
  have hpos : p.toNat = q.toNat := (List.Nodup.getElem_inj_iff ifTable.distinct).mp hids
  omega

theorem interfaceIdsOf_inj {ifTable : InterfaceTable} {ps qs ids : List Int}
    (hp : interfaceIdsOf ifTable ps = .ok ids) (hq : interfaceIdsOf ifTable qs = .ok ids) :
    ps = qs := by
  induction ps generalizing qs ids with
  | nil =>
    cases hp
    cases qs with
    | nil => rfl
    | cons q qs =>
      obtain ⟨_, _, hq⟩ := bind_ok.mp hq
      obtain ⟨_, _, hq⟩ := bind_ok.mp hq
      cases hq
  | cons p ps ih =>
    obtain ⟨x, hx, hp⟩ := bind_ok.mp hp
    obtain ⟨xs, hxs, hp⟩ := bind_ok.mp hp
    cases hp
    cases qs with
    | nil => cases hq
    | cons q qs =>
      obtain ⟨y, hy, hq⟩ := bind_ok.mp hq
      obtain ⟨ys, hys, hq⟩ := bind_ok.mp hq
      obtain ⟨hid, rfl⟩ : y.interfaceId = x.interfaceId ∧ ys = xs :=
        List.cons.inj (Except.ok.inj hq)
      rw [getInterface_inj hx hy hid.symm, ih hxs hys]

/-! ## one rule -/

/-- what a rule that is accepted is -/
structure Accepted (ifTable : InterfaceTable) (rule : ConfiguredRule) (a : MacAddress)
    (interfaceIds : List Int) : Prop where
  address : rule.address? = some a
  vid : vidOf rule.vid = .ok 0
  ports : ∃ ports, rule.portsRead = some ports ∧ interfaceIdsOf ifTable ports = .ok interfaceIds

variable {ifTable : InterfaceTable} {fdb fdb' : Fdb} {rule : ConfiguredRule}
  {rules : List ConfiguredRule}

theorem macAddressText_ok {tag text : String} {macAddress : Option String}
    (h : macAddressText tag macAddress = .ok text) : macAddress = some text := by
  unfold macAddressText at h
  split at h
  · cases h
  · split at h
    · cases h
    · cases h
      rfl

theorem parseMacAddress_ok {text : String} {a : MacAddress} (h : parseMacAddress text = .ok a) :
    MacAddress.tryParse text = some a := by
  unfold parseMacAddress at h
  split at h
  · cases h
    assumption
  · cases h

/-- **A rule that is read puts its interfaces into the table.** -/
theorem parse_ok (h : rule.parse ifTable fdb = .ok fdb') :
    ∃ a interfaceIds, Accepted ifTable rule a interfaceIds ∧
      fdb' = insertStatic fdb a interfaceIds := by
  cases rule with
  | individualAddress e =>
    obtain ⟨text, htext, h⟩ := bind_ok.mp h
    have haddress := macAddressText_ok htext
    cases hport : e.port with
    | none =>
      simp only [hport] at h
      cases h
    | some portText =>
      simp only [hport] at h
      obtain ⟨port, hatoi, h⟩ := bind_ok.mp h
      obtain ⟨entry, hentry, h⟩ := bind_ok.mp h
      obtain ⟨vid, hvid, h⟩ := bind_ok.mp h
      split at h
      · rename_i hzero
        obtain ⟨a, ha, h⟩ := bind_ok.mp h
        cases h
        refine ⟨a, [entry.interfaceId], ⟨?_, hzero ▸ hvid, [port], ?_, ?_⟩, rfl⟩
        · show e.macAddress.bind _ = _
          rw [haddress]
          exact parseMacAddress_ok ha
        · show (e.port.bind _).map _ = _
          rw [hport, Option.bind_some, hatoi]
          rfl
        · exact bind_ok.mpr ⟨entry, hentry, rfl⟩
      · cases h
  | multicastAddress e =>
    obtain ⟨text, htext, h⟩ := bind_ok.mp h
    have haddress := macAddressText_ok htext
    cases hports : e.ports with
    | none =>
      simp only [hports] at h
      cases h
    | some portsString =>
      simp only [hports] at h
      obtain ⟨interfaceIds, hids, h⟩ := bind_ok.mp h
      obtain ⟨vid, hvid, h⟩ := bind_ok.mp h
      split at h
      · rename_i hzero
        obtain ⟨a, ha, h⟩ := bind_ok.mp h
        split at h
        · cases h
          refine ⟨a, interfaceIds, ⟨?_, hzero ▸ hvid, extractInts portsString, ?_, hids⟩, rfl⟩
          · show e.macAddress.bind _ = _
            rw [haddress]
            exact parseMacAddress_ok ha
          · show e.ports.map _ = _
            rw [hports, Option.map_some]
        · cases h
      · cases h

/-! ## all rules -/

/-- the entry that a rule stands for -/
def ConfiguredRule.entry (ifTable : InterfaceTable) (rule : ConfiguredRule) :
    Option (SimTime × List Int) :=
  (rule.portsRead.bind fun ports => (interfaceIdsOf ifTable ports).toOption).map fun ids => (0, ids)

theorem Accepted.entry {a : MacAddress} {interfaceIds : List Int}
    (h : Accepted ifTable rule a interfaceIds) : rule.entry ifTable = some (0, interfaceIds) := by
  obtain ⟨ports, hports, hids⟩ := h.ports
  rw [ConfiguredRule.entry, hports, Option.bind_some, hids]
  rfl

/-- **After all rules an address has the entry it had, or that of its first rule.** -/
theorem parseAll_ok (h : parseAll (ConfiguredRule.parse ifTable) fdb rules = .ok fdb') :
    (∀ r ∈ rules, ∃ a ids, Accepted ifTable r a ids) ∧
    ∀ a, fdb' a = (fdb a).or ((firstRule rules a).bind (·.entry ifTable)) := by
  induction rules generalizing fdb with
  | nil =>
    cases h
    refine ⟨fun r hr => absurd hr List.not_mem_nil, fun a => ?_⟩
    exact (Option.or_none).symm
  | cons r rules ih =>
    obtain ⟨m, hm, h⟩ := bind_ok.mp h
    obtain ⟨a, ids, hr, rfl⟩ := parse_ok hm
    obtain ⟨hall, htable⟩ := ih h
    refine ⟨fun q hq => ?_, fun b => ?_⟩
    · rcases List.mem_cons.mp hq with rfl | hq
      · exact ⟨a, ids, hr⟩
      · exact hall q hq
    · rw [htable b, insertStatic]
      by_cases hb : b = a
      · subst b
        have hfirst : firstRule (r :: rules) a = some r :=
          List.find?_cons_of_pos (by simpa using hr.address)
        rw [hfirst, Option.bind_some, hr.entry]
        cases hfdb : fdb a with
        | none => simp
        | some e => simp [hfdb]
      · have hother : firstRule (r :: rules) b = firstRule rules b := by
          apply List.find?_cons_of_neg
          rw [decide_eq_true_eq, hr.address]
          exact fun he => hb (Option.some.inj he).symm
        rw [hother]
        cases hfdb : fdb a with
        | none => simp [Function.update_of_ne hb]
        | some e => simp

theorem parseAll_append {ρ : Type} {parse : Fdb → ρ → Sim Fdb} {xs ys : List ρ} {fdb : Fdb} :
    parseAll parse fdb (xs ++ ys) = parseAll parse fdb xs >>= fun m => parseAll parse m ys := by
  induction xs generalizing fdb with
  | nil => rfl
  | cons x xs ih =>
    show (parse fdb x >>= fun m => parseAll parse m (xs ++ ys)) = _
    simp only [ih]
    exact (bind_assoc (parse fdb x) _ _).symm

theorem parseAll_map {ρ σ : Type} {parse : Fdb → σ → Sim Fdb} {f : ρ → σ} {xs : List ρ} {fdb : Fdb} :
    parseAll parse fdb (xs.map f) = parseAll (fun m x => parse m (f x)) fdb xs := by
  induction xs generalizing fdb with
  | nil => rfl
  | cons x xs ih =>
    show (parse fdb (f x) >>= fun m => parseAll parse m (xs.map f)) = _
    simp only [ih]
    rfl

/-- both loops together -/
theorem parseEntries_ok {d d' : FilteringDatabase} {xml : ForwardElement}
    (h : d.parseEntries xml = .ok d') :
    parseAll (ConfiguredRule.parse d.ifTable) d.adminFdb (ForwardElement.rules xml) =
        .ok d'.adminFdb ∧
      d' = { d with adminFdb := d'.adminFdb } := by
  obtain ⟨m, hm, h⟩ := bind_ok.mp h
  obtain ⟨fdb, hfdb, h⟩ := bind_ok.mp h
  cases h
  refine ⟨?_, rfl⟩
  rw [ForwardElement.rules, parseAll_append, parseAll_map]
  exact bind_ok.mpr ⟨m, hm, parseAll_map.trans hfdb⟩

/-- the staging table is that of all rules -/
theorem loadDatabase_ok {agingActive : Bool} {threshold : SimTime} {xml : Option DatabaseElement}
    {d : FilteringDatabase} (h : (new agingActive threshold ifTable).loadDatabase xml = .ok d) :
    parseAll (ConfiguredRule.parse ifTable) (fun _ => none) (configuredRules xml) =
      .ok d.operFdb ∧ d.ifTable = ifTable := by
  cases xml with
  | none =>
    cases h
    exact ⟨rfl, rfl⟩
  | some fdb =>
    obtain ⟨staticRules⟩ := fdb
    cases staticRules with
    | none =>
      cases h
      exact ⟨rfl, rfl⟩
    | some staticRules =>
      obtain ⟨forward, blockedPorts⟩ := staticRules
      obtain ⟨m, hm, h⟩ := bind_ok.mp h
      cases h
      show _ = Except.ok m.adminFdb ∧ m.ifTable = ifTable
      obtain ⟨p, hforward, hp⟩ := loadStatic_ok hm
      rw [hp]
      show _ = Except.ok p.adminFdb ∧ p.ifTable = ifTable
      cases forward with
      | none =>
        cases hforward
        exact ⟨rfl, rfl⟩
      | some forwardingXml =>
        obtain ⟨hrules, hp⟩ :=
          parseEntries_ok (d := (new agingActive threshold ifTable).clearAdminFdb) hforward
        exact ⟨hrules, by rw [hp]; rfl⟩

/-! ## the loaded table -/

/-- a loaded entry has the stamp 0 -/
theorem loadDatabase_stamp {agingActive : Bool} {threshold : SimTime} {xml : Option DatabaseElement}
    {d : FilteringDatabase} (h : (new agingActive threshold ifTable).loadDatabase xml = .ok d)
    (a : MacAddress) : ∀ e ∈ d.operFdb a, e.1 = 0 := by
  intro e he
  have htable := (parseAll_ok (loadDatabase_ok h).1).2 a
  obtain ⟨rule, -, hentry⟩ := Option.bind_eq_some_iff.mp (htable.symm.trans he)
  obtain ⟨ids, -, rfl⟩ := Option.map_eq_some_iff.mp hentry
  rfl

theorem vidOf_zero {vid : Option String} :
    vidOf vid = .ok 0 ↔ ∀ text ∈ vid, ∃ n, atoi text = .ok n ∧ n % 256 = 0 := by
  cases vid with
  | none => exact ⟨fun _ => nofun, fun _ => rfl⟩
  | some text =>
    constructor
    · intro h text' ht
      obtain rfl : text = text' := Option.some.inj ht
      obtain ⟨n, hn, h⟩ := bind_ok.mp h
      exact ⟨n, hn, Except.ok.inj h⟩
    · intro h
      obtain ⟨n, hn, hz⟩ := h text rfl
      exact bind_ok.mpr ⟨n, hn, congrArg _ hz⟩

theorem firstRule_some {a : MacAddress} (h : firstRule rules a = some rule) :
    rule ∈ rules ∧ rule.address? = some a :=
  ⟨List.mem_of_find?_eq_some h, by simpa using List.find?_some h⟩

/-- **The table is the one that the file says if and only if its numbers are read as they are
written.** -/
theorem loads_iff {agingActive : Bool} {threshold : SimTime} {xml : Option DatabaseElement}
    {d : FilteringDatabase} (h : (new agingActive threshold ifTable).loadDatabase xml = .ok d) :
    Loads d (configuredRules xml) ↔ Readable (configuredRules xml) := by
  obtain ⟨hparse, rfl⟩ := loadDatabase_ok h
  obtain ⟨haccepted, htable⟩ := parseAll_ok hparse
  have hfirst : ∀ a rule, firstRule (configuredRules xml) a = some rule →
      ∃ ports ids, rule.portsRead = some ports ∧ interfaceIdsOf d.ifTable ports = .ok ids ∧
        d.operFdb a = some (0, ids) := by
    intro a rule hr
    obtain ⟨b, ids, hacc⟩ := haccepted rule (firstRule_some hr).1
    obtain ⟨ports, hports, hids⟩ := hacc.ports
    refine ⟨ports, ids, hports, hids, ?_⟩
    rw [htable a, hr]
    exact hacc.entry
  constructor
  · intro hl
    refine ⟨fun rule hr text ht n hn hz => hl.vidZero rule hr text ht, fun a rule hr => ?_⟩
    obtain ⟨ports, ids, hlisted, hids, hentry⟩ := hl.first a rule hr
    obtain ⟨ports', ids', hread, hids', hentry'⟩ := hfirst a rule hr
    obtain rfl : ids = ids' := congrArg Prod.snd (Option.some.inj (hentry.symm.trans hentry'))
    rw [hlisted, hread, interfaceIdsOf_inj hids hids']
  · intro hr
    refine ⟨fun a => ?_, fun a rule hrule => ?_, fun rule hrule text ht => ?_⟩
    · constructor
      · intro hsome
        cases hf : firstRule (configuredRules xml) a with
        | none =>
          rw [htable a, hf] at hsome
          cases hsome
        | some rule => exact ⟨rule, firstRule_some hf⟩
      · rintro ⟨rule, hmem, haddress⟩
        cases hf : firstRule (configuredRules xml) a with
        | none =>
          have hne := List.find?_eq_none.mp hf rule hmem
          exact absurd (decide_eq_true haddress) hne
        | some first =>
          obtain ⟨_, _, _, _, hentry⟩ := hfirst a first hf
          rw [hentry]
          rfl
    · obtain ⟨ports, ids, hread, hids, hentry⟩ := hfirst a rule hrule
      exact ⟨ports, ids, (hr.ports a rule hrule).trans hread, hids, hentry⟩
    · obtain ⟨a, ids, hacc⟩ := haccepted rule hrule
      obtain ⟨n, hn, hz⟩ := vidOf_zero.mp hacc.vid text ht
      exact hr.vid rule hrule text ht n hn hz

/-- lists of numbers, and zeros -/
theorem Readable.of_written (h : ∀ rule ∈ rules, rule.listed = rule.portsRead ∧
    ∀ text ∈ rule.vid, number? text = some 0) : Readable rules where
  vid := fun rule hr text ht _ _ _ => (h rule hr).2 text ht
  ports := fun _ rule hr => (h rule (firstRule_some hr).1).1

/-- the file of a switch with three ports, without blocked ones -/
def loaded (individual : List IndividualAddressElement) (multicast : List MulticastAddressElement) :
    Sim FilteringDatabase :=
  (new false 0 ⟨[⟨100, 0⟩, ⟨101, 1⟩, ⟨102, 2⟩], threeInterfaces_distinct⟩).loadDatabase
    (some ⟨some ⟨some ⟨individual, multicast⟩, none⟩⟩)

/-- the second rule of a station is not used -/
theorem loads_twoRules :
    let individual : List IndividualAddressElement := [⟨some "00-00-00-00-00-04", some "1", none⟩,
      ⟨some "000000000004", some " 2", some "0"⟩]
    let multicast : List MulticastAddressElement := [⟨some "01:00:00:00:00:01", some "0  2", none⟩]
    ∃ d, loaded individual multicast = .ok d ∧ d.operFdb 4 = some (0, [101]) ∧
      Loads d (configuredRules (some ⟨some ⟨some ⟨individual, multicast⟩, none⟩⟩)) := by
  intro individual multicast
  obtain ⟨d, hd, hfour⟩ : ∃ d, loaded individual multicast = .ok d ∧
      d.operFdb 4 = some (0, [101]) := exists_of_any (by decide +kernel)
  exact ⟨d, hd, hfour, (loads_iff hd).mpr (Readable.of_written (by decide +kernel))⟩

/-- Rules for the VLAN 256, and for one without a number, are installed; of two ports with a comma only
the first one is read. -/
theorem loads_violated :
    let individual : List IndividualAddressElement :=
      [⟨some "00-00-00-00-00-04", some "1", some "256"⟩, ⟨some "00-00-00-00-00-05", some "2", some "x"⟩]
    let multicast : List MulticastAddressElement := [⟨some "01:00:00:00:00:01", some "1,2", none⟩]
    ∃ d, loaded individual multicast = .ok d ∧
      d.operFdb 4 = some (0, [101]) ∧ d.operFdb 5 = some (0, [102]) ∧
      d.operFdb 0x010000000001 = some (0, [101]) ∧
      ¬Loads d (configuredRules (some ⟨some ⟨some ⟨individual, multicast⟩, none⟩⟩)) := by
  intro individual multicast
  obtain ⟨d, hd, hfour, hfive, hgroup⟩ : ∃ d, loaded individual multicast = .ok d ∧
      d.operFdb 4 = some (0, [101]) ∧ d.operFdb 5 = some (0, [102]) ∧
      d.operFdb 0x010000000001 = some (0, [101]) := exists_of_any (by decide +kernel)
  refine ⟨d, hd, hfour, hfive, hgroup, fun hl => ?_⟩
  have hzero : number? "256" = some 0 :=
    hl.vidZero (.individualAddress ⟨some "00-00-00-00-00-04", some "1", some "256"⟩)
      (by decide) "256" rfl
  exact absurd hzero (by decide +kernel)

end FilteringDatabase
end Nesting
