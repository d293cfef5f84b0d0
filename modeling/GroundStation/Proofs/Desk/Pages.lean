import Mathlib.Algebra.Order.Floor.Div
import GroundStation.Proofs.Desk.Postings
import GroundStation.Proofs.Vehicle.Geometry

/-!
The pages of a heartbeat status. The roster is cut into pages of as many positions as a status word
has presence bits; the last page may be shorter. Every position of the roster is on exactly one
page, no page is empty, and the bit of a position lies inside the word. The report of a page counts
the bits that are set and names the nodes whose bits are not; a word with a page number that the
roster does not reach is a fault and nothing else.
-/

namespace GroundStation

namespace Layout.Heartbeat

def pageNumber (layout : Heartbeat) (data : UInt64) : Nat :=
  data.toNat / 2 ^ layout.typeBits.toNat % 2 ^ layout.pageBits.toNat

/-- The positions of a roster of the given length that stand on a page. -/
def positions (layout : Heartbeat) (total page : Nat) : List Nat :=
  let slots := layout.nodeSlotsPerPage.toNat
  List.range' (page * slots) (min total ((page + 1) * slots) - page * slots)

def presenceBit (layout : Heartbeat) (page position : Nat) : Nat :=
  layout.statusHeaderBits.toNat + (position - page * layout.nodeSlotsPerPage.toNat)

variable {layout : Heartbeat}

theorem mem_positions_iff {total page position : Nat} :
    position ∈ layout.positions total page ↔
      page * layout.nodeSlotsPerPage.toNat ≤ position ∧ position < total ∧
        position < (page + 1) * layout.nodeSlotsPerPage.toNat := by
  simp only [positions, List.mem_range'_1]
  omega

theorem div_of_mem_positions {total page position : Nat}
    (hmem : position ∈ layout.positions total page) :
    position / layout.nodeSlotsPerPage.toNat = page := by
  obtain ⟨hfirst, _, hlast⟩ := mem_positions_iff.mp hmem
  exact Nat.div_eq_of_lt_le hfirst hlast

/-- No position is on two pages. -/
theorem disjoint_positions (layout : Heartbeat) (total : Nat) {page other : Nat}
    (hpages : page ≠ other) :
    (layout.positions total page).Disjoint (layout.positions total other) := by
  intro position hpage hother
  apply hpages
  calc page = position / layout.nodeSlotsPerPage.toNat := (div_of_mem_positions hpage).symm
    _ = other := div_of_mem_positions hother

theorem first_lt_of_lt_pages (order : layout.InOrder) {total page : Nat}
    (hpage : page < total ⌈/⌉ layout.nodeSlotsPerPage.toNat) :
    page * layout.nodeSlotsPerPage.toNat < total := by
  apply Nat.lt_of_not_le
  intro hreached
  apply Nat.not_le_of_lt hpage
  apply (ceilDiv_le_iff_le_mul order.nodeSlotsPerPage_pos).mpr
  rwa [Nat.mul_comm]

/-- Every page that the roster needs has a position. -/
theorem positions_ne_nil (order : layout.InOrder) {total page : Nat}
    (hpage : page < total ⌈/⌉ layout.nodeSlotsPerPage.toNat) :
    layout.positions total page ≠ [] := by
  have hfirst := first_lt_of_lt_pages order hpage
  have hslots := order.nodeSlotsPerPage_pos
  apply List.ne_nil_of_mem (a := page * layout.nodeSlotsPerPage.toNat)
  apply mem_positions_iff.mpr
  rw [Nat.succ_mul]
  omega

/-- The first pages hold the first positions of the roster, one after the other. -/
theorem flatMap_positions_range (layout : Heartbeat) (total count : Nat) :
    (List.range count).flatMap (layout.positions total) =
      List.range (min total (count * layout.nodeSlotsPerPage.toNat)) := by
  induction count with
  | zero => simp
  | succ count ih =>
      rw [List.range_succ, List.flatMap_append, ih, List.flatMap_singleton, positions,
        Nat.succ_mul]
      rcases Nat.le_total (count * layout.nodeSlotsPerPage.toNat) total with hinside | hpast
      · rw [Nat.min_eq_right hinside, List.range_eq_range', List.range_eq_range']
        have hjoined := List.range'_append_1 (s := 0) (m := count * layout.nodeSlotsPerPage.toNat)
          (n := min total (count * layout.nodeSlotsPerPage.toNat + layout.nodeSlotsPerPage.toNat) -
            count * layout.nodeSlotsPerPage.toNat)
        rw [Nat.zero_add] at hjoined
        rw [hjoined]
        congr 1
        omega
      · rw [Nat.min_eq_left hpast, Nat.min_eq_left (by omega), Nat.sub_eq_zero_of_le hpast]
        exact List.append_nil _

/-- The pages one behind the other are the roster. -/
theorem flatMap_positions (order : layout.InOrder) (total : Nat) :
    (List.range (total ⌈/⌉ layout.nodeSlotsPerPage.toNat)).flatMap (layout.positions total) =
      List.range total := by
  have hreached : total ≤ layout.nodeSlotsPerPage.toNat *
      (total ⌈/⌉ layout.nodeSlotsPerPage.toNat) :=
    (ceilDiv_le_iff_le_mul order.nodeSlotsPerPage_pos).mp (Nat.le_refl _)
  rw [Nat.mul_comm] at hreached
  rw [flatMap_positions_range, Nat.min_eq_left hreached]

/-- The presence bits of a page are inside the word. -/
theorem presenceBit_lt (order : layout.InOrder) {total page position : Nat}
    (hmem : position ∈ layout.positions total page) : layout.presenceBit page position < 64 := by
  obtain ⟨hfirst, _, hlast⟩ := mem_positions_iff.mp hmem
  have hword := order.header_add_slots
  rw [Nat.succ_mul] at hlast
  unfold presenceBit
  omega

end Layout.Heartbeat

namespace Bits

/-- A field of one bit says whether the bit is set. -/
theorem field_one_eq_one (word : UInt64) {offset : UInt32} {index : Nat}
    (hoffset : offset.toNat = index) :
    (field word offset 1 == 1) = word.toNat.testBit index := by
  rw [Nat.testBit_eq_decide_div_mod_eq, ← hoffset, beq_eq_decide]
  apply decide_eq_decide.mpr
  rw [← UInt64.toNat_inj, toNat_field]
  rfl

end Bits

namespace Reading

open Layout (Heartbeat)

theorem message_of_heartbeat {profile : Profile} {sent : Message}
    (hreport : sent.address.function? = some .heartbeatResponseUpdate) :
    message profile sent = heartbeat profile sent.data := by
  simp only [message, hreport]

theorem toNat_kind (layout : Heartbeat) (data : UInt64) :
    (Bits.field data 0 layout.typeBits).toNat = data.toNat % 2 ^ layout.typeBits.toNat := by
  rw [Bits.toNat_field]
  exact congrArg (· % 2 ^ layout.typeBits.toNat) (Nat.div_one _)

/-- A word with the status type is read as a status. -/
theorem heartbeat_of_status {profile : Profile} {data : UInt64}
    (order : profile.layout.heartbeat.InOrder)
    (hstatus : data.toNat % 2 ^ profile.layout.heartbeat.typeBits.toNat =
      profile.layout.heartbeat.statusType.toNat) :
    heartbeat profile data =
      heartbeatStatus profile.layout.heartbeat profile.registry data := by
  have hkind : Bits.field data 0 profile.layout.heartbeat.typeBits =
      profile.layout.heartbeat.statusType :=
    UInt64.toNat_inj.mp ((toNat_kind _ data).trans hstatus)
  unfold heartbeat
  dsimp only
  rw [hkind, if_neg order.types_ne.symm, if_pos rfl]

/-- The nodes of a page with their presence bits, position by position. -/
theorem presence_eq {layout : Heartbeat} (order : layout.InOrder) (data : UInt64)
    {roster : List UInt8} {page : Nat} :
    let start := page * layout.nodeSlotsPerPage.toNat
    let stop := min roster.length ((page + 1) * layout.nodeSlotsPerPage.toNat)
    presence layout data ((roster.drop start).take (stop - start)) =
      (layout.positions roster.length page).map fun position =>
        (roster.getD position 0, data.toNat.testBit (layout.presenceBit page position)) := by
  intro start stop
  apply List.ext_getElem
  · simp only [presence, Heartbeat.positions, List.length_map, List.length_zipIdx,
      List.length_take, List.length_drop, List.length_range', start, stop]
    omega
  · intro slot hslot _
    have hcount : slot < stop - start := by
      simp only [presence, List.length_map, List.length_zipIdx, List.length_take] at hslot
      omega
    have hroster : start + slot < roster.length := by omega
    have hmem : start + slot ∈ layout.positions roster.length page := by
      simp only [Heartbeat.positions, List.mem_range'_1]
      exact ⟨Nat.le_add_right _ _, Nat.add_lt_add_left hcount _⟩
    have hbit := Heartbeat.presenceBit_lt order hmem
    have hindex : layout.presenceBit page (start + slot) =
        layout.statusHeaderBits.toNat + slot := by
      simp only [Heartbeat.presenceBit, start, Nat.add_sub_cancel_left]
    rw [hindex] at hbit
    have hoffset : (layout.statusHeaderBits + UInt32.ofNat slot).toNat =
        layout.statusHeaderBits.toNat + slot := by
      rw [UInt32.toNat_add, UInt32.toNat_ofNat']
      omega
    simp only [presence, Heartbeat.positions, List.getElem_map, List.getElem_zipIdx,
      List.getElem_take, List.getElem_drop, List.getElem_range', Nat.zero_add, Nat.one_mul]
    rw [Bits.field_one_eq_one data hoffset, List.getD_eq_getElem?_getD,
      List.getElem?_eq_getElem hroster, Option.getD_some, hindex]

def namelessText (node : UInt8) : String :=
  s!"HB Status parse: missing nodeInfo for nodeID={node}"

def pageText (page collected expected : Nat) (missing : List String) : String :=
  let count := s!"HB Status frame {page} ({collected}/{expected})."
  if collected = expected then count
  else s!"{count} missingNodes=" ++ "\x7b" ++ ",".intercalate missing ++ "\x7d"

/-- What the operator reads about a page that the roster does not reach. -/
def strayText (page pages total : Nat) : String :=
  s!"HB Status parse: received frameNo={page} but framesNeeded={pages} " ++
    s!"for numberOfNodes={total}"

/-- What the operator would read about a page without positions. -/
def emptyPageText (page : UInt32) : String :=
  s!"HB Status parse: empty node range for frame {page}"

def absent (layout : Heartbeat) (roster : List UInt8) (data : UInt64) (page : Nat) : List UInt8 :=
  ((layout.positions roster.length page).filter fun position =>
      !data.toNat.testBit (layout.presenceBit page position)).filterMap (roster[·]?)

theorem filterMap_nameless (registry : Registry) (nodes : List UInt8) :
    nodes.filterMap (fun node =>
        match registry.nodeName? node with
        | some _ => none
        | none => some (Action.fault (namelessText node))) =
      ((nodes.filter fun node => registry.nodeName? node = none).map namelessText).map .fault := by
  induction nodes with
  | nil => rfl
  | cons node rest ih =>
      cases hname : registry.nodeName? node <;> simp [hname, ih]

/-- A page is a fault for each missing node without a name, and then the writing of its slot. -/
theorem statusPage_eq (registry : Registry) (page : UInt32) (marks : List (UInt8 × Bool)) :
    let missing := (marks.filter fun mark => !mark.2).map Prod.fst
    statusPage registry page marks =
      ((missing.filter fun node => registry.nodeName? node = none).map namelessText).map .fault ++
        [.upsert (.heartbeatPage page) .vitals
          (if marks.countP Prod.snd = marks.length then .ok else .warning)
          (pageText page.toNat (marks.countP Prod.snd) marks.length
            (missing.filterMap registry.nodeName?))] := by
  intro missing
  rw [← filterMap_nameless, List.countP_eq_length_filter]
  unfold statusPage pageText
  dsimp only
  split
  · rfl
  · rfl

theorem absent_eq (layout : Heartbeat) (roster : List UInt8) (data : UInt64) (page : Nat) :
    (((layout.positions roster.length page).map fun position =>
        (roster.getD position 0,
          data.toNat.testBit (layout.presenceBit page position))).filter
            fun mark => !mark.2).map Prod.fst = absent layout roster data page := by
  rw [List.filter_map, List.map_map, absent, ← List.filterMap_eq_map]
  apply List.filterMap_congr
  intro position hmem
  obtain ⟨_, hinside, _⟩ := Heartbeat.mem_positions_iff.mp (List.mem_filter.mp hmem).1
  simp [List.getElem?_eq_getElem hinside]

section Status

variable {layout : Heartbeat} (order : layout.InOrder) (registry : Registry) {data : UInt64}
  {page : Nat} (hnumber : layout.pageNumber data = page)

include order hnumber

theorem toNat_page : (UInt32.ofNat page).toNat = page := by
  apply UInt32.toNat_ofNat_of_lt
  calc page = layout.pageNumber data := hnumber.symm
    _ < 2 ^ layout.pageBits.toNat := Nat.mod_lt _ (Nat.two_pow_pos _)
    _ ≤ 2 ^ 32 := Nat.pow_le_pow_right (by decide) order.pageBits_le

/-- The page number is the whole page field. -/
theorem narrow32_page (fallback : UInt32) :
    Bits.narrow32 (Bits.field data layout.typeBits layout.pageBits) fallback =
      UInt32.ofNat page := by
  have hwidth : layout.pageBits ≤ 32 := UInt32.le_iff_toNat_le.mpr order.pageBits_le
  apply UInt32.toNat_inj.mp
  rw [Bits.toNat_narrow32_field data _ hwidth, Bits.toNat_field, toNat_page order hnumber]
  exact hnumber

/-- A page that the roster reaches is reported. -/
theorem heartbeatStatus_of_lt
    (hpage : page < registry.roster.length ⌈/⌉ layout.nodeSlotsPerPage.toNat) :
    let positions := layout.positions registry.roster.length page
    let collected := positions.countP fun position =>
      data.toNat.testBit (layout.presenceBit page position)
    let missing := absent layout registry.roster data page
    heartbeatStatus layout registry data =
      ((missing.filter fun node => registry.nodeName? node = none).map namelessText).map .fault ++
        [.upsert (.heartbeatPage (UInt32.ofNat page)) .vitals
          (if collected = positions.length then .ok else .warning)
          (pageText page collected positions.length (missing.filterMap registry.nodeName?))] := by
  have hfirst := Heartbeat.first_lt_of_lt_pages order hpage
  have hslots := order.nodeSlotsPerPage_pos
  have hneeded : ¬ pagesNeeded layout.nodeSlotsPerPage.toNat registry.roster.length ≤ page :=
    Nat.not_le_of_lt hpage
  have hlast : page * layout.nodeSlotsPerPage.toNat + layout.nodeSlotsPerPage.toNat =
      (page + 1) * layout.nodeSlotsPerPage.toNat := (Nat.succ_mul _ _).symm
  have hsome : ¬ min registry.roster.length ((page + 1) * layout.nodeSlotsPerPage.toNat) ≤
      page * layout.nodeSlotsPerPage.toNat := by
    rw [← hlast, Nat.not_le, Nat.lt_min]
    exact ⟨hfirst, Nat.lt_add_of_pos_right hslots⟩
  unfold heartbeatStatus
  simp only [narrow32_page order hnumber, toNat_page order hnumber, if_neg hneeded, hlast,
    if_neg hsome, presence_eq order, statusPage_eq, absent_eq, List.countP_map, List.length_map]
  rfl

/-- A page that the roster does not reach is a fault. -/
theorem heartbeatStatus_of_le
    (hpage : registry.roster.length ⌈/⌉ layout.nodeSlotsPerPage.toNat ≤ page) :
    heartbeatStatus layout registry data =
      [.fault (strayText page (registry.roster.length ⌈/⌉ layout.nodeSlotsPerPage.toNat)
        registry.roster.length)] := by
  have hneeded : pagesNeeded layout.nodeSlotsPerPage.toNat registry.roster.length ≤ page := hpage
  have hprinted : toString (UInt32.ofNat page) = toString page :=
    congrArg toString (toNat_page order hnumber)
  unfold heartbeatStatus
  simp only [narrow32_page order hnumber, toNat_page order hnumber, if_pos hneeded, hprinted]
  rfl

end Status

theorem getElem?_toList_append {opening : String} {index : Nat}
    (hinside : index < opening.toList.length) (rest : String) :
    (opening ++ rest).toList[index]? = opening.toList[index]? := by
  rw [String.toList_append, List.getElem?_append_left hinside]

/-- A text with another letter in one place is not about an empty page. -/
theorem ne_emptyPageText {text : String} (hletter : text.toList[17]? ≠ some 'e')
    (page : UInt32) : text ≠ emptyPageText page := by
  rintro rfl
  exact hletter (getElem?_toList_append (by decide) _)

theorem namelessText_ne_emptyPageText (node : UInt8) (page : UInt32) :
    namelessText node ≠ emptyPageText page := by
  apply ne_emptyPageText
  have hletter : (namelessText node).toList[17]? = some 'm' :=
    getElem?_toList_append (by decide) _
  rw [hletter]
  decide

theorem strayText_ne_emptyPageText (number pages total : Nat) (page : UInt32) :
    strayText number pages total ≠ emptyPageText page := by
  apply ne_emptyPageText
  have hletter : (strayText number pages total).toList[17]? = some 'r' := by
    unfold strayText
    rw [String.append_assoc, String.append_assoc, String.append_assoc, String.append_assoc,
      getElem?_toList_append]
    · rfl
    · decide
  rw [hletter]
  decide

end Reading

namespace Desk

/-- What a status word does, on any desk whose layout is in order. The pages cut the roster into
pieces that are not empty, share no position and cover all of it, and each position has a bit of its
own inside the word. If the roster reaches the page of the word, the slot of the page is written:
the report counts the positions whose bits are set, names the nodes of the others in the order of
the roster, and is OK exactly if all bits are set; a node that is to be named and has no name is a
fault. If the roster does not reach the page, there is one fault and the board stays as it is. -/
theorem status_pages_partition_roster {desk : Desk} {sent : Message}
    (hcheck : desk.profile.layout.heartbeat.check = .ok ())
    (hreport : sent.address.function? = some .heartbeatResponseUpdate)
    (hstatus : sent.data.toNat % 2 ^ desk.profile.layout.heartbeat.typeBits.toNat =
      desk.profile.layout.heartbeat.statusType.toNat) :
    let layout := desk.profile.layout.heartbeat
    let registry := desk.profile.registry
    let positions := layout.positions registry.roster.length
    let pages := registry.roster.length ⌈/⌉ layout.nodeSlotsPerPage.toNat
    let page := layout.pageNumber sent.data
    let isSet position := sent.data.toNat.testBit (layout.presenceBit page position)
    let absent := Reading.absent layout registry.roster sent.data page
    let nameless := absent.filter fun node => registry.nodeName? node = none
    let faults := nameless.map Reading.namelessText
    let notice : Feed.Notice :=
      { channel := .vitals
        severity := if ∀ position ∈ positions page, isSet position then .ok else .warning
        text := Reading.pageText page ((positions page).countP isSet) (positions page).length
          (absent.filterMap registry.nodeName?) }
    let stray := Reading.strayText page pages registry.roster.length
    (page < pages →
      (UInt32.ofNat page).toNat = page ∧
        Reading.message desk.profile sent =
          faults.map .fault ++
            [.upsert (.heartbeatPage (UInt32.ofNat page)) .vitals notice.severity notice.text] ∧
        Reported desk faults (.heartbeatPage (UInt32.ofNat page)) notice (desk.decode sent)) ∧
      (pages ≤ page →
        Reading.message desk.profile sent = [.fault stray] ∧
          Posted desk [.fault stray] 1 (desk.decode sent)) ∧
      (∀ number < pages, positions number ≠ []) ∧
      (∀ number other, number ≠ other → (positions number).Disjoint (positions other)) ∧
      (List.range pages).flatMap positions = List.range registry.roster.length ∧
      (∀ number, ∀ position ∈ positions number, layout.presenceBit number position < 64) ∧
      ∀ number, .fault (Reading.emptyPageText number) ∉ Reading.message desk.profile sent := by
  intro layout registry positions pages page isSet absent nameless faults notice stray
  have order : layout.InOrder := Layout.Heartbeat.check_eq_ok_iff.mp hcheck
  have hread : Reading.message desk.profile sent =
      Reading.heartbeatStatus layout registry sent.data :=
    (Reading.message_of_heartbeat hreport).trans (Reading.heartbeat_of_status order hstatus)
  have hseverity : (if (positions page).countP isSet = (positions page).length then
      Severity.ok else .warning) = notice.severity :=
    if_congr List.countP_eq_length rfl rfl
  have hreached : page < pages → Reading.message desk.profile sent = faults.map .fault ++
      [.upsert (.heartbeatPage (UInt32.ofNat page)) .vitals notice.severity notice.text] := by
    intro hpage
    rw [hread, Reading.heartbeatStatus_of_lt order registry rfl hpage, ← hseverity]
  have hmissed : pages ≤ page → Reading.message desk.profile sent = [.fault stray] := by
    intro hpage
    rw [hread, Reading.heartbeatStatus_of_le order registry rfl hpage]
  refine ⟨fun hpage => ⟨Reading.toNat_page order rfl, hreached hpage, ?_⟩, fun hpage =>
    ⟨hmissed hpage, ?_⟩, fun _ => Layout.Heartbeat.positions_ne_nil order,
    fun _ _ => Layout.Heartbeat.disjoint_positions layout _,
    Layout.Heartbeat.flatMap_positions order _, fun _ _ => Layout.Heartbeat.presenceBit_lt order,
    fun number => ?_⟩
  · exact Reported.decode (hreached hpage)
  · have hposts : ∀ action ∈ Reading.message desk.profile sent, action.notice? ≠ none := by
      intro action hmem
      rw [hmissed hpage, List.mem_singleton] at hmem
      rw [hmem]
      exact Option.some_ne_none _
    have posted := Posted.decode hposts
    rw [hmissed hpage] at posted
    exact posted
  · intro hmem
    rcases Nat.lt_or_ge page pages with hpage | hpage
    · rw [hreached hpage, List.mem_append] at hmem
      rcases hmem with hmem | hmem
      · obtain ⟨text, hfault, htext⟩ := List.mem_map.mp hmem
        obtain ⟨node, _, rfl⟩ := List.mem_map.mp hfault
        exact Reading.namelessText_ne_emptyPageText node number (Action.fault.inj htext)
      · cases List.mem_singleton.mp hmem
    · rw [hmissed hpage] at hmem
      have htext := Action.fault.inj (List.mem_singleton.mp hmem)
      exact Reading.strayText_ne_emptyPageText _ _ _ number htext.symm

/-- Pages of 31 positions and a roster of 34 nodes, so that the second page has three positions. In
the word the middle one is set, and so is a bit behind the last position. The first node has no
name. -/
theorem status_pages_partition_roster_short_page :
    let layout : Layout.Heartbeat := { typeBits := 16, pageBits := 17 }
    let nodes := (List.range 34).map UInt8.ofNat
    let registry := Registry.ofEntries [.node 33 "tail", .node 32 "mid", .roster nodes]
    let desk : Desk := { profile := { registry, layout := { heartbeat := layout } } }
    let sent : Message := ⟨0x381, 0x1400010001⟩
    layout.check = .ok () ∧
      Reported desk ["HB Status parse: missing nodeInfo for nodeID=31"] (.heartbeatPage 1)
        { channel := .vitals
          severity := .warning
          text := "HB Status frame 1 (1/3). missingNodes=\x7btail\x7d" }
        (desk.decode sent) := by
  intro layout nodes registry desk sent
  have hcheck : layout.check = .ok () := by decide
  have hwritten := (@status_pages_partition_roster desk sent hcheck (by decide)
    (by decide +kernel)).1 (by decide +kernel)
  refine ⟨hcheck, ?_⟩
  convert hwritten.2.2 using 1 <;> decide +kernel

end Desk

end GroundStation
