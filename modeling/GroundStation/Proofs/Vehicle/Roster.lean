import GroundStation.Liveness.RollCall
import GroundStation.Proofs.Desk.Pages
import GroundStation.Proofs.Vehicle.Lookups
import Mathlib.Data.Finset.Card
import Mathlib.Data.List.DropRight

/-!
The roster of a registry that is built entry by entry. It is the list of the last roster entry,
followed by the nodes that were named for the first time after that entry. A node that joins is
compared with the nodes that were named before and not with the roster, so it stands on the roster
twice if the roster entry lists it already. As long as no roster entry lists a node twice, this is the
only way to a roster with duplicates.

On a roster without duplicates every node has one presence bit in the status pages, and the report of
a roll call counts nodes. On any other roster neither is so.
-/

namespace GroundStation

namespace Registry

namespace Entry

def nodes? : Entry → Option (List UInt8)
  | .roster nodes => some nodes
  | .node _ _ | .frame _ _ | .point _ _ => none

def id? : Entry → Option UInt8
  | .node id _ => some id
  | .frame _ _ | .point _ _ | .roster _ => none

end Entry

def named (entries : List Entry) : List UInt8 :=
  (entries.filterMap Entry.id?).eraseDups

/-- The list of the last roster entry; empty if there is none. -/
def override (entries : List Entry) : List UInt8 :=
  (entries.filterMap Entry.nodes?).getLastD []

def upToOverride (entries : List Entry) : List Entry :=
  entries.rdropWhile fun entry => entry.nodes?.isNone

def sinceOverride (entries : List Entry) : List Entry :=
  entries.rtakeWhile fun entry => entry.nodes?.isNone

/-- The nodes that are named behind the last roster entry and not before, in the order of their first
naming. -/
def newcomers (entries : List Entry) : List UInt8 :=
  (named (sinceOverride entries)).filter fun node => node ∉ named (upToOverride entries)

theorem mem_named_iff {entries : List Entry} {node : UInt8} :
    node ∈ named entries ↔ ∃ entry ∈ entries, entry.id? = some node := by
  rw [named, List.mem_eraseDups, List.mem_filterMap]

theorem mem_named_append {earlier later : List Entry} {node : UInt8} :
    node ∈ named (earlier ++ later) ↔ node ∈ named earlier ∨ node ∈ named later := by
  simp only [mem_named_iff, List.mem_append, or_and_right, exists_or]

theorem upToOverride_append_sinceOverride (entries : List Entry) :
    upToOverride entries ++ sinceOverride entries = entries :=
  List.rdropWhile_append_rtakeWhile

theorem named_concat (entries : List Entry) (entry : Entry) :
    named (entries ++ [entry]) =
      named entries ++ entry.id?.toList.filter fun node => node ∉ named entries := by
  simp only [named, List.mem_eraseDups]
  rw [filterMap_concat, List.eraseDups_append]
  congr 1
  generalize entries.filterMap Entry.id? = ids
  cases entry.id? with
  | none => rfl
  | some id => by_cases hknown : id ∈ ids <;> simp [List.removeAll, List.eraseDups_cons, hknown]

/-- A roster entry leaves no newcomers. -/
theorem newcomers_concat_of_some {entry : Entry} {nodes : List UInt8}
    (hnodes : entry.nodes? = some nodes) (entries : List Entry) :
    newcomers (entries ++ [entry]) = [] := by
  have hsince : sinceOverride (entries ++ [entry]) = [] :=
    List.rtakeWhile_concat_neg _ _ _ (by simp [hnodes])
  rw [newcomers, hsince]
  rfl

/-- A node that was never named before joins the newcomers. -/
theorem newcomers_concat_of_none {entry : Entry} (hnodes : entry.nodes? = none)
    (entries : List Entry) :
    newcomers (entries ++ [entry]) =
      newcomers entries ++ entry.id?.toList.filter fun node => node ∉ named entries := by
  have hsince : sinceOverride (entries ++ [entry]) = sinceOverride entries ++ [entry] :=
    List.rtakeWhile_concat_pos _ _ _ (by simp [hnodes])
  have hupTo : upToOverride (entries ++ [entry]) = upToOverride entries :=
    List.rdropWhile_concat_pos _ _ _ (by simp [hnodes])
  have hknown : ∀ node, node ∈ named entries ↔
      node ∈ named (upToOverride entries) ∨ node ∈ named (sinceOverride entries) := by
    intro node
    rw [← mem_named_append, upToOverride_append_sinceOverride]
  rw [newcomers, hsince, hupTo, named_concat, List.filter_append, List.filter_filter]
  simp only [newcomers, hknown, not_or, Bool.decide_and]

theorem mem_named_of_mem_newcomers {entries : List Entry} {node : UInt8}
    (hnew : node ∈ newcomers entries) : node ∈ named entries := by
  rw [← upToOverride_append_sinceOverride entries, mem_named_append]
  exact .inr (List.mem_filter.mp hnew).1

theorem nodup_newcomers (entries : List Entry) : (newcomers entries).Nodup := by
  induction entries using List.reverseRecOn with
  | nil => exact List.nodup_nil
  | append_singleton entries entry ih =>
      cases hnodes : entry.nodes? with
      | some nodes =>
          rw [newcomers_concat_of_some hnodes]
          exact List.nodup_nil
      | none =>
          rw [newcomers_concat_of_none hnodes]
          apply ih.append
          · apply List.Nodup.filter
            cases entry.id? <;> simp
          · intro node hnew hjoins
            exact of_decide_eq_true (List.mem_filter.mp hjoins).2 (mem_named_of_mem_newcomers hnew)

/-! ### The roster -/

/-- An entry replaces the roster or appends a node that has no name yet. -/
theorem roster_add (registry : Registry) (entry : Entry) :
    (registry.add entry).roster =
      entry.nodes?.getD
        (registry.roster ++ entry.id?.toList.filter fun node => !registry.nodes.contains node) := by
  cases entry with
  | node id name =>
      simp only [add, addNode, Entry.nodes?, Entry.id?, Option.getD_none, Option.toList_some]
      cases hknown : registry.nodes.contains id <;> simp [hknown]
  | frame key timeout => exact (List.append_nil _).symm
  | point key info => exact (List.append_nil _).symm
  | roster nodes => rfl

/-- A node has a name exactly if an entry names it. -/
theorem contains_nodes_ofEntries (entries : List Entry) (id : UInt8) :
    (ofEntries entries).nodes.contains id = decide (id ∈ named entries) := by
  have hnames : ∀ entry : Entry, entry.id? = some id ↔ entry.name? id ≠ none := by
    intro entry
    cases entry <;> simp [Entry.name?, Entry.id?]
  rw [Bool.eq_iff_iff, decide_eq_true_iff]
  calc (ofEntries entries).nodes.contains id = true
      ↔ (namesOf id entries).getLast?.isSome = true := by
        rw [← nodeName?_ofEntries]
        rfl
    _ ↔ namesOf id entries ≠ [] := List.getLast?_isSome
    _ ↔ id ∈ named entries := by
        simp only [namesOf, mem_named_iff, hnames, ne_eq, List.filterMap_eq_nil_iff, not_forall,
          exists_prop]

/-- The roster is what the last roster entry lists, followed by the newcomers. -/
theorem roster_ofEntries (entries : List Entry) :
    (ofEntries entries).roster = override entries ++ newcomers entries := by
  induction entries using List.reverseRecOn with
  | nil => rfl
  | append_singleton entries entry ih =>
      rw [ofEntries_concat, roster_add, override, filterMap_concat]
      cases hnodes : entry.nodes? with
      | some nodes =>
          rw [newcomers_concat_of_some hnodes, List.append_nil]
          exact List.getLastD_concat.symm
      | none =>
          simp only [contains_nodes_ofEntries, ← decide_not]
          rw [newcomers_concat_of_none hnodes, ← List.append_assoc, ih, Option.toList_none,
            List.append_nil]
          rfl

theorem nodup_override {entries : List Entry}
    (hlists : ∀ nodes, .roster nodes ∈ entries → nodes.Nodup) : (override entries).Nodup := by
  unfold override
  cases hlast : (entries.filterMap Entry.nodes?).getLast? with
  | none =>
      rw [List.getLastD_eq_getLast?, hlast]
      exact List.nodup_nil
  | some nodes =>
      obtain ⟨entry, hentry, hnodes⟩ := List.mem_filterMap.mp (List.mem_of_getLast? hlast)
      rw [List.getLastD_eq_getLast?, hlast]
      cases entry with
      | roster listed =>
          cases hnodes
          exact hlists nodes hentry
      | node id name => cases hnodes
      | frame key timeout => cases hnodes
      | point key info => cases hnodes

/-- Only a newcomer that the last roster entry lists already stands on the roster twice. -/
theorem nodup_roster_iff {entries : List Entry}
    (hlists : ∀ nodes, .roster nodes ∈ entries → nodes.Nodup) :
    (ofEntries entries).roster.Nodup ↔ ∀ node ∈ override entries, node ∉ newcomers entries := by
  rw [roster_ofEntries, List.nodup_append']
  constructor
  · rintro ⟨_, _, hdisjoint⟩ node hlisted hnew
    exact hdisjoint hlisted hnew
  · intro hapart
    refine ⟨nodup_override hlists, nodup_newcomers entries, ?_⟩
    intro node hlisted hnew
    exact hapart node hlisted hnew

end Registry

/-! ### Presence bits -/

/-- A list has no duplicates exactly if each of its members stands in one place. -/
theorem nodup_iff_existsUnique_getElem? {α : Type} {list : List α} :
    list.Nodup ↔ ∀ member ∈ list, ∃! position : Nat, list[position]? = some member := by
  constructor
  · intro hnodup member hmem
    obtain ⟨position, hposition⟩ := List.mem_iff_getElem?.mp hmem
    refine ⟨position, hposition, ?_⟩
    intro other hother
    obtain ⟨hinside, _⟩ := List.getElem?_eq_some_iff.mp hother
    exact (List.getElem?_inj hinside hnodup).mp (hother.trans hposition.symm)
  · intro hunique
    rw [List.nodup_iff_getElem?_ne_getElem?]
    intro i j hij hj hsame
    have hmember : list[j]? = some list[j] := List.getElem?_eq_getElem hj
    have hplaces := (hunique list[j] (List.getElem_mem hj)).unique (hsame.trans hmember) hmember
    exact Nat.ne_of_lt hij hplaces

namespace Layout.Heartbeat

/-- The bit of a status page is the presence bit of a position of the roster that belongs to the
node. -/
def StandsFor (layout : Heartbeat) (roster : List UInt8) (page bit : Nat) (node : UInt8) : Prop :=
  ∃ position ∈ layout.positions roster.length page,
    roster[position]? = some node ∧ layout.presenceBit page position = bit

/-- The page of a position and its presence bit there. -/
def place (layout : Heartbeat) (position : Nat) : Nat × Nat :=
  let page := position / layout.nodeSlotsPerPage.toNat
  (page, layout.presenceBit page position)

def pageNodes (layout : Heartbeat) (roster : List UInt8) (page : Nat) : List UInt8 :=
  let start := page * layout.nodeSlotsPerPage.toNat
  let stop := min roster.length ((page + 1) * layout.nodeSlotsPerPage.toNat)
  (roster.drop start).take (stop - start)

variable {layout : Heartbeat} {roster : List UInt8}

theorem place_injective (layout : Heartbeat) : Function.Injective layout.place := by
  intro position other hsame
  obtain ⟨hpage, hbit⟩ := Prod.mk.inj hsame
  have hfirst := Nat.div_mul_le_self position layout.nodeSlotsPerPage.toNat
  have hother := Nat.div_mul_le_self other layout.nodeSlotsPerPage.toNat
  simp only [presenceBit, hpage] at hbit hfirst
  omega

/-- A bit of a page stands for the node at its position. -/
theorem standsFor_iff (order : layout.InOrder) {page bit : Nat} {node : UInt8} :
    layout.StandsFor roster page bit node ↔
      ∃ position : Nat, roster[position]? = some node ∧ layout.place position = (page, bit) := by
  constructor
  · rintro ⟨position, hmem, hposition, rfl⟩
    refine ⟨position, hposition, ?_⟩
    simp only [place, div_of_mem_positions hmem]
  · rintro ⟨position, hposition, hplace⟩
    obtain ⟨rfl, rfl⟩ := Prod.mk.inj hplace
    obtain ⟨hinside, _⟩ := List.getElem?_eq_some_iff.mp hposition
    refine ⟨position, mem_positions_iff.mpr ⟨?_, hinside, ?_⟩, hposition, rfl⟩
    · exact Nat.div_mul_le_self _ _
    · exact Nat.lt_mul_of_div_lt (Nat.lt_succ_self _) order.nodeSlotsPerPage_pos

/-- Every node has a presence bit of its own exactly if no node is on the roster twice. -/
theorem existsUnique_standsFor_iff (order : layout.InOrder) :
    (∀ node ∈ roster, ∃! place : Nat × Nat, layout.StandsFor roster place.1 place.2 node) ↔
      roster.Nodup := by
  rw [nodup_iff_existsUnique_getElem?]
  apply forall₂_congr
  intro node _
  simp only [standsFor_iff order, Prod.mk.eta]
  constructor
  · rintro ⟨_, ⟨position, hposition, rfl⟩, hunique⟩
    refine ⟨position, hposition, ?_⟩
    intro other hother
    exact layout.place_injective (hunique _ ⟨other, hother, rfl⟩)
  · rintro ⟨position, hposition, hunique⟩
    refine ⟨layout.place position, ⟨position, hposition, rfl⟩, ?_⟩
    rintro _ ⟨other, hother, rfl⟩
    rw [hunique other hother]

/-- A status page reads the bits that stand for its nodes. -/
theorem mem_presence_iff (order : layout.InOrder) {data : UInt64} {page : Nat} {node : UInt8}
    {present : Bool} :
    (node, present) ∈ Reading.presence layout data (layout.pageNodes roster page) ↔
      ∃ bit, layout.StandsFor roster page bit node ∧ data.toNat.testBit bit = present := by
  have hmarks : Reading.presence layout data (layout.pageNodes roster page) = _ :=
    Reading.presence_eq order data
  rw [hmarks, List.mem_map]
  constructor
  · rintro ⟨position, hmem, hmark⟩
    obtain ⟨rfl, rfl⟩ := Prod.mk.inj hmark
    obtain ⟨_, hinside, _⟩ := mem_positions_iff.mp hmem
    refine ⟨_, ⟨position, hmem, ?_, rfl⟩, rfl⟩
    simp [List.getElem?_eq_getElem hinside]
  · rintro ⟨_, ⟨position, hmem, hnode, rfl⟩, rfl⟩
    refine ⟨position, hmem, ?_⟩
    rw [List.getD_eq_getElem?_getD, hnode, Option.getD_some]

end Layout.Heartbeat

namespace RollCall

/-- The report counts nodes: each node of the roster once, as present or as missing. -/
structure CountsNodes (call : RollCall) (registry : Registry) (report : Report) : Prop where
  total : report.total = registry.roster.toFinset.card
  collected : report.collected = (registry.roster.toFinset.filter fun node => call.contains node).card
  missing : report.missing.length =
    (registry.roster.toFinset.filter fun node => !call.contains node).card

/-- Reports count nodes exactly if no node is on the roster twice. -/
theorem countsNodes_evaluate_iff {registry : Registry} :
    (∀ call : RollCall, call.CountsNodes registry (call.evaluate registry).1) ↔
      registry.roster.Nodup := by
  constructor
  · intro hcounts
    have htotal : registry.roster.length = registry.roster.toFinset.card := (hcounts {}).total
    rw [List.card_toFinset] at htotal
    exact List.dedup_eq_self.mp
      ((List.dedup_sublist _).eq_of_length htotal.symm)
  · intro hnodup call
    have hfilter : ∀ present : UInt8 → Bool,
        (registry.roster.filter present).length =
          (registry.roster.toFinset.filter fun node => present node).card := by
      intro present
      rw [← List.toFinset_filter, List.toFinset_card_of_nodup (hnodup.filter _)]
    refine ⟨(List.toFinset_card_of_nodup hnodup).symm, hfilter call.contains, ?_⟩
    calc (call.evaluate registry).1.missing.length
        = (registry.roster.filter fun node => !call.contains node).length := List.length_map _
      _ = _ := hfilter fun node => !call.contains node

end RollCall

namespace Registry

/-- The roster of a registry built of any entries is the list of the last roster entry with the
newcomers behind it. If no roster entry lists a node twice, no node is on the roster twice, exactly as
long as no newcomer is on that list. The status pages read one bit for each position of the roster, so
no node is on the roster twice exactly if every node has one presence bit of its own in all of the
pages, and also exactly if the report of every roll call counts each node once. -/
theorem roster_lists_nodes_once_iff {entries : List Entry}
    (hlists : ∀ nodes, .roster nodes ∈ entries → nodes.Nodup) :
    let registry := ofEntries entries
    let roster := registry.roster
    roster = override entries ++ newcomers entries ∧
      (roster.Nodup ↔ ∀ node ∈ override entries, node ∉ newcomers entries) ∧
      (∀ layout : Layout.Heartbeat, layout.check = .ok () →
        (∀ data page node present,
          (node, present) ∈ Reading.presence layout data (layout.pageNodes roster page) ↔
            ∃ bit, layout.StandsFor roster page bit node ∧ data.toNat.testBit bit = present) ∧
          (roster.Nodup ↔ ∀ node ∈ roster,
            ∃! place : Nat × Nat, layout.StandsFor roster place.1 place.2 node)) ∧
      (roster.Nodup ↔
        ∀ call : RollCall, call.CountsNodes registry (call.evaluate registry).1) := by
  intro registry roster
  refine ⟨roster_ofEntries entries, nodup_roster_iff hlists, ?_,
    RollCall.countsNodes_evaluate_iff.symm⟩
  intro layout hcheck
  have order : layout.InOrder := Layout.Heartbeat.check_eq_ok_iff.mp hcheck
  refine ⟨?_, (Layout.Heartbeat.existsUnique_standsFor_iff order).symm⟩
  intro data page node present
  exact Layout.Heartbeat.mem_presence_iff order

/-- Node 5 is named before the roster entry that lists it, so that it is no newcomer when it is named
again; node 7 is one. Every node of the roster has one presence bit. -/
theorem roster_lists_nodes_once_iff_renamed :
    let entries : List Entry :=
      [.node 5 "pedals", .roster [9, 5], .node 5 "left pedal", .node 7 "motor", .node 7 "engine"]
    let roster := (ofEntries entries).roster
    (∀ nodes, .roster nodes ∈ entries → nodes.Nodup) ∧
      (∀ node ∈ override entries, node ∉ newcomers entries) ∧ roster = [9, 5, 7] ∧
      ∀ node ∈ roster,
        ∃! place : Nat × Nat, Layout.Heartbeat.StandsFor {} roster place.1 place.2 node := by
  intro entries roster
  have hlists : ∀ nodes, .roster nodes ∈ entries → nodes.Nodup := by
    intro nodes hmem
    have hnodes : nodes = [9, 5] := by simpa [entries] using hmem
    rw [hnodes]
    decide
  have hlisted : override entries = [9, 5] := by decide
  have hnew : newcomers entries = [7] := by decide
  have hapart : ∀ node ∈ override entries, node ∉ newcomers entries := by simp [hlisted, hnew]
  obtain ⟨_, hnodup, hbits, _⟩ := roster_lists_nodes_once_iff hlists
  exact ⟨hlists, hapart, by decide, (hbits {} (by decide)).2.mp (hnodup.mpr hapart)⟩

/-- The roster entry lists node 5 once, and the node is named after it. The node stands on the roster
twice: it has two presence bits in the first status page, and its one answer counts for two. -/
theorem listed_newcomer_stands_twice :
    let entries : List Entry := [.roster [5], .node 5 "pedals"]
    let registry := ofEntries entries
    let call : RollCall := RollCall.record {} 5
    (∀ nodes, .roster nodes ∈ entries → nodes.Nodup) ∧ registry.roster = [5, 5] ∧
      Layout.Heartbeat.StandsFor {} registry.roster 0 5 5 ∧
      Layout.Heartbeat.StandsFor {} registry.roster 0 6 5 ∧
      (call.evaluate registry).1 = { collected := 2, total := 2, missing := [] } := by
  intro entries registry call
  refine ⟨?_, by decide, ⟨0, by decide, by decide, by decide⟩, ⟨1, by decide, by decide, by decide⟩,
    by decide⟩
  intro nodes hmem
  have hnodes : nodes = [5] := by simpa [entries] using hmem
  rw [hnodes]
  decide

end Registry

end GroundStation
