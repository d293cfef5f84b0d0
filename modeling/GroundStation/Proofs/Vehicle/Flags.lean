import GroundStation.Vehicle.Codebook

/-!
How a flag table that is built row by row describes a value. Whatever the order in which the rows
are added, the table holds them by ascending masks, rows of one mask in the order in which they came:
it is the stable sort of all rows. A description picks the rows that share a bit with the value and
keeps this order. Rows whose masks all differ have only one such order, so the order in which they
were added does not show.
-/

namespace GroundStation.FlagTable

def addAll (table : FlagTable) (rows : List (UInt32 × String)) : FlagTable :=
  rows.foldl (fun table row => table.add row.1 row.2) table

def build (rows : List (UInt32 × String)) : FlagTable :=
  addAll {} rows

def Overlap (value mask : UInt32) : Prop :=
  ∃ bit < 32, value.toNat.testBit bit = true ∧ mask.toNat.testBit bit = true

instance (value mask : UInt32) : Decidable (Overlap value mask) :=
  inferInstanceAs
    (Decidable (∃ bit < 32, value.toNat.testBit bit = true ∧ mask.toNat.testBit bit = true))

/-- The rows in the order of their masks, by one stable sort. -/
def byMask (rows : List (UInt32 × String)) : List (UInt32 × String) :=
  rows.mergeSort fun row other => row.1 ≤ other.1

def Ascending (listed : List (UInt32 × String)) : Prop :=
  listed.Pairwise fun earlier later => earlier.1 ≤ later.1

def ofMask (mask : UInt32) (rows : List (UInt32 × String)) : List (UInt32 × String) :=
  rows.filter fun row => row.1 = mask

/-- `listed` has the given rows by ascending masks, those of one mask in the given order. -/
structure InMaskOrder (rows listed : List (UInt32 × String)) : Prop where
  ascending : Ascending listed
  ofMask_eq : ∀ mask, ofMask mask listed = ofMask mask rows

/-! ### The order of the rows -/

section Order

variable {rows listed other : List (UInt32 × String)}

theorem Ascending.head_le {first row : UInt32 × String} (horder : Ascending (first :: rows))
    (hrow : row ∈ first :: rows) : first.1 ≤ row.1 := by
  rcases List.mem_cons.mp hrow with rfl | hlater
  · exact UInt32.le_refl _
  · exact List.rel_of_pairwise_cons horder hlater

theorem mem_ofMask_iff {row : UInt32 × String} {mask : UInt32} :
    row ∈ ofMask mask rows ↔ row ∈ rows ∧ row.1 = mask := by
  simp [ofMask]

theorem mem_iff_of_ofMask_eq (hsame : ∀ mask, ofMask mask listed = ofMask mask other)
    (row : UInt32 × String) : row ∈ listed ↔ row ∈ other := by
  have hmask : row ∈ ofMask row.1 listed ↔ row ∈ ofMask row.1 other := by rw [hsame]
  simpa only [mem_ofMask_iff, and_true] using hmask

theorem ofMask_cons_of_eq {row : UInt32 × String} {mask : UInt32} (hmask : row.1 = mask) :
    ofMask mask (row :: rows) = row :: ofMask mask rows :=
  List.filter_cons_of_pos (decide_eq_true hmask)

theorem ofMask_cons_of_ne {row : UInt32 × String} {mask : UInt32} (hmask : row.1 ≠ mask) :
    ofMask mask (row :: rows) = ofMask mask rows :=
  List.filter_cons_of_neg (by simpa using hmask)

theorem ofMask_append (mask : UInt32) (rows more : List (UInt32 × String)) :
    ofMask mask (rows ++ more) = ofMask mask rows ++ ofMask mask more :=
  List.filter_append rows more

/-- Rows with ascending masks are known by the rows of each mask. Both lists start with a least mask
of the same rows. -/
theorem eq_of_ofMask_eq (hlisted : Ascending listed) (hother : Ascending other)
    (hsame : ∀ mask, ofMask mask listed = ofMask mask other) : listed = other := by
  induction listed generalizing other with
  | nil =>
      refine (List.eq_nil_iff_forall_not_mem.mpr fun row hrow => ?_).symm
      exact List.not_mem_nil ((mem_iff_of_ofMask_eq hsame row).mpr hrow)
  | cons row rest ih =>
      cases other with
      | nil =>
          have hrow := (mem_iff_of_ofMask_eq hsame row).mp List.mem_cons_self
          exact absurd hrow List.not_mem_nil
      | cons first others =>
          have hmask : row.1 = first.1 := by
            apply UInt32.le_antisymm
            · apply hlisted.head_le
              exact (mem_iff_of_ofMask_eq hsame first).mpr List.mem_cons_self
            · apply hother.head_le
              exact (mem_iff_of_ofMask_eq hsame row).mp List.mem_cons_self
          have hheads := hsame row.1
          rw [ofMask_cons_of_eq rfl, ofMask_cons_of_eq hmask.symm] at hheads
          obtain ⟨rfl, htails⟩ := List.cons.inj hheads
          rw [ih hlisted.of_cons hother.of_cons ?_]
          intro mask
          by_cases heq : row.1 = mask
          · rw [← heq, htails]
          · have hmasks := hsame mask
            rwa [ofMask_cons_of_ne heq, ofMask_cons_of_ne heq] at hmasks

/-- There is one list in mask order. -/
theorem InMaskOrder.unique (hlisted : InMaskOrder rows listed) (hother : InMaskOrder rows other) :
    listed = other :=
  eq_of_ofMask_eq hlisted.ascending hother.ascending fun mask =>
    (hlisted.ofMask_eq mask).trans (hother.ofMask_eq mask).symm

theorem InMaskOrder.filter (order : InMaskOrder rows listed) (keep : UInt32 × String → Bool) :
    InMaskOrder (rows.filter keep) (listed.filter keep) where
  ascending := List.Pairwise.filter keep order.ascending
  ofMask_eq mask := by
    have hmask := congrArg (List.filter keep) (order.ofMask_eq mask)
    simpa only [ofMask, List.filter_filter, Bool.and_comm] using hmask

/-- The stable sort lists the rows in the order of their masks. The rows of one mask are in order
already, so the sort keeps them as they are. -/
theorem inMaskOrder_byMask (rows : List (UInt32 × String)) : InMaskOrder rows (byMask rows) := by
  let le (row other : UInt32 × String) : Bool := row.1 ≤ other.1
  have htrans (a b c : UInt32 × String) (hab : le a b = true) (hbc : le b c = true) :
      le a c = true :=
    decide_eq_true (UInt32.le_trans (of_decide_eq_true hab) (of_decide_eq_true hbc))
  have htotal (a b : UInt32 × String) : (le a b || le b a) = true := by
    simpa [le] using UInt32.le_total a.1 b.1
  refine ⟨(List.pairwise_mergeSort htrans htotal rows).imp of_decide_eq_true, fun mask => ?_⟩
  have hsorted : (ofMask mask rows).Pairwise fun row other => le row other = true := by
    refine List.pairwise_of_forall_mem_list fun row hrow other hother => decide_eq_true ?_
    rw [(mem_ofMask_iff.mp hrow).2, (mem_ofMask_iff.mp hother).2]
    exact UInt32.le_refl mask
  have hsub : (ofMask mask rows).Sublist (byMask rows) :=
    List.sublist_mergeSort htrans htotal hsorted List.filter_sublist
  have hkept : (ofMask mask rows).Sublist (ofMask mask (byMask rows)) := by
    simpa only [ofMask, List.filter_filter, Bool.and_self] using
      hsub.filter fun row => row.1 = mask
  have hlength : (ofMask mask rows).length = (ofMask mask (byMask rows)).length :=
    ((List.mergeSort_perm rows le).filter _).length_eq.symm
  exact (hkept.eq_of_length hlength).symm

theorem byMask_eq_nil_iff : byMask rows = [] ↔ rows = [] := by
  rw [← List.length_eq_zero_iff, byMask, List.length_mergeSort, List.length_eq_zero_iff]

end Order

/-! ### One row -/

section Step

variable {rows listed : List (UInt32 × String)} (mask : UInt32) (name : String)

theorem mem_place_iff (row : UInt32 × String) (rows : List (UInt32 × String)) :
    row ∈ place mask name rows ↔ row = (mask, name) ∨ row ∈ rows := by
  induction rows with
  | nil => simp [place]
  | cons first rest ih =>
      rw [place]
      split
      · exact List.mem_cons
      · rw [List.mem_cons, ih, List.mem_cons]
        exact or_left_comm

theorem Ascending.place (horder : Ascending rows) : Ascending (place mask name rows) := by
  induction rows with
  | nil => exact List.pairwise_singleton _ _
  | cons first rest ih =>
      rw [FlagTable.place]
      split
      · rename_i hbefore
        refine List.pairwise_cons.mpr ⟨fun row hrow => ?_, horder⟩
        exact UInt32.le_trans (UInt32.le_of_lt hbefore) (horder.head_le hrow)
      · rename_i hbehind
        refine List.pairwise_cons.mpr ⟨fun row hrow => ?_, ih horder.of_cons⟩
        rcases (mem_place_iff mask name row rest).mp hrow with rfl | hlater
        · exact UInt32.not_lt.mp hbehind
        · exact horder.head_le (List.mem_cons_of_mem first hlater)

/-- A row that is put into its place stands behind the rows with its mask. -/
theorem ofMask_place (horder : Ascending rows) (other : UInt32) :
    ofMask other (place mask name rows) = ofMask other (rows ++ [(mask, name)]) := by
  induction rows with
  | nil => rfl
  | cons first rest ih =>
      rw [place]
      split
      · rename_i hbefore
        have hnone : ofMask mask (first :: rest) = [] := by
          refine List.eq_nil_iff_forall_not_mem.mpr fun row hrow => ?_
          obtain ⟨hmem, hmask⟩ := mem_ofMask_iff.mp hrow
          exact UInt32.not_lt.mpr (hmask ▸ horder.head_le hmem) hbefore
        change ofMask other ([(mask, name)] ++ (first :: rest)) = _
        rw [ofMask_append, ofMask_append]
        by_cases hmask : mask = other
        · rw [← hmask, hnone, List.append_nil, List.nil_append]
        · have hother : ofMask other [(mask, name)] = [] := ofMask_cons_of_ne hmask
          rw [hother, List.append_nil, List.nil_append]
      · change ofMask other ([first] ++ _) = ofMask other ([first] ++ (rest ++ _))
        rw [ofMask_append, ofMask_append, ih horder.of_cons]

/-- A flag is placed behind the flags with the same mask. -/
theorem InMaskOrder.place (order : InMaskOrder rows listed) :
    InMaskOrder (rows ++ [(mask, name)]) (FlagTable.place mask name listed) where
  ascending := order.ascending.place mask name
  ofMask_eq other := by
    rw [ofMask_place mask name order.ascending, ofMask_append, order.ofMask_eq, ← ofMask_append]

end Step

/-! ### All rows -/

section Run

variable {rows : List (UInt32 × String)}

theorem InMaskOrder.addAll {table : FlagTable} (order : InMaskOrder rows table.rows)
    (added : List (UInt32 × String)) : InMaskOrder (rows ++ added) (table.addAll added).rows := by
  induction added generalizing table rows with
  | nil => rwa [List.append_nil]
  | cons row rest ih =>
      have hrest := @ih (rows ++ [row]) (table.add row.1 row.2) (order.place row.1 row.2)
      rwa [List.append_assoc] at hrest

theorem inMaskOrder_build (rows : List (UInt32 × String)) : InMaskOrder rows (build rows).rows :=
  have hempty : InMaskOrder [] ({} : FlagTable).rows := ⟨List.Pairwise.nil, fun _ => rfl⟩
  hempty.addAll rows

/-- The table lists its flags by their masks. -/
theorem rows_build (rows : List (UInt32 × String)) : (build rows).rows = byMask rows :=
  (inMaskOrder_build rows).unique (inMaskOrder_byMask rows)

/-- Adding a row is putting it behind the others and sorting again. -/
theorem rows_add_build (rows : List (UInt32 × String)) (mask : UInt32) (name : String) :
    ((build rows).add mask name).rows = byMask ((build rows).rows ++ [(mask, name)]) := by
  have order : InMaskOrder (build rows).rows (build rows).rows :=
    ⟨(inMaskOrder_build rows).ascending, fun _ => rfl⟩
  exact (order.place mask name).unique (inMaskOrder_byMask _)

/-- Rows whose masks all differ have the same rows of each mask in every order. -/
theorem ofMask_eq_of_perm {other : List (UInt32 × String)} (hmasks : (rows.map Prod.fst).Nodup)
    (hperm : rows.Perm other) (mask : UInt32) : ofMask mask rows = ofMask mask other := by
  let table : Table UInt32 String := ⟨rows⟩
  have hkeys : table.keys.Nodup := hmasks
  have hrows : ofMask mask rows = ((table.get? mask).map (Prod.mk mask)).toList :=
    Table.filter_rows hkeys mask
  have hmask : (ofMask mask rows).Perm (ofMask mask other) := hperm.filter _
  rw [hrows] at hmask ⊢
  cases hrow : table.get? mask with
  | none =>
      rw [hrow] at hmask
      exact hmask.nil_eq
  | some name =>
      rw [hrow] at hmask
      exact (List.perm_singleton.mp hmask.symm).symm

/-- If no mask is used twice, the order in which flags are added does not matter. -/
theorem build_eq_of_perm {other : List (UInt32 × String)} (hmasks : (rows.map Prod.fst).Nodup)
    (hperm : rows.Perm other) : build other = build rows := by
  have hrows : InMaskOrder rows (build other).rows :=
    ⟨(inMaskOrder_build other).ascending, fun mask =>
      ((inMaskOrder_build other).ofMask_eq mask).trans (ofMask_eq_of_perm hmasks hperm mask).symm⟩
  exact congrArg mk (hrows.unique (inMaskOrder_build rows))

end Run

/-! ### Descriptions -/

theorem and_ne_zero_iff_overlap (value mask : UInt32) :
    value &&& mask ≠ 0 ↔ Overlap value mask := by
  have hbits (bit : Nat) : (value &&& mask).toNat.testBit bit =
      (value.toNat.testBit bit && mask.toNat.testBit bit) := by
    rw [UInt32.toNat_and, Nat.testBit_and]
  constructor
  · intro hne
    have hnat : (value &&& mask).toNat ≠ 0 := fun hzero => hne (UInt32.toNat_inj.mp hzero)
    obtain ⟨bit, hbit⟩ := Nat.exists_testBit_of_ne_zero hnat
    have hboth := hbits bit ▸ hbit
    rw [Bool.and_eq_true] at hboth
    have hbelow : bit < 32 := (Nat.pow_lt_pow_iff_right (by decide)).mp
      (Nat.lt_of_le_of_lt (Nat.ge_two_pow_of_testBit hboth.1) value.toNat_lt)
    exact ⟨bit, hbelow, hboth⟩
  · rintro ⟨bit, _, hboth⟩ hzero
    have hbit := hbits bit
    rw [hzero, hboth.1, hboth.2] at hbit
    simp at hbit

/-- A value shows the names of the flags that overlap it, by their masks. -/
theorem names_build (rows : List (UInt32 × String)) (value : UInt32) :
    (build rows).names value =
      (byMask (rows.filter fun row => Overlap value row.1)).map Prod.snd := by
  have hkeep : (fun row : UInt32 × String => decide (value &&& row.1 ≠ 0)) =
      fun row => decide (Overlap value row.1) :=
    funext fun row => decide_eq_decide.mpr (and_ne_zero_iff_overlap value row.1)
  have hrows := ((inMaskOrder_build rows).filter fun row => Overlap value row.1).unique
    (inMaskOrder_byMask _)
  rw [names, hkeep, hrows]

theorem describe_eq_ite (table : FlagTable) (value : UInt32) :
    table.describe value =
      if table.names value = [] then "no flags set" else ", ".intercalate (table.names value) := by
  rw [describe]
  cases table.names value <;> rfl

/-- A table that is built row by row holds the stable sort of all rows, and to add one more row is
to put it behind the others and to sort again. The table describes a value by the names of the rows
that share a bit with it, in the order of their masks and, where masks are equal, in the order in
which they were added. Rows whose masks all differ give the same descriptions in whatever order they
are added. -/
theorem descriptions_follow_masks (rows : List (UInt32 × String)) :
    (build rows).rows = byMask rows ∧
    (∀ mask name, ((build rows).add mask name).rows =
      byMask ((build rows).rows ++ [(mask, name)])) ∧
    (∀ value,
      let shown := rows.filter fun row => Overlap value row.1
      InMaskOrder shown (byMask shown) ∧
        (build rows).describe value =
          if shown = [] then "no flags set"
          else ", ".intercalate ((byMask shown).map Prod.snd)) ∧
    ∀ other, (rows.map Prod.fst).Nodup → rows.Perm other →
      ∀ value, (build other).describe value = (build rows).describe value := by
  refine ⟨rows_build rows, rows_add_build rows, ?_, ?_⟩
  · intro value shown
    refine ⟨inMaskOrder_byMask shown, ?_⟩
    rw [describe_eq_ite, names_build]
    simp only [List.map_eq_nil_iff, byMask_eq_nil_iff, shown]
  · intro other hmasks hperm value
    rw [build_eq_of_perm hmasks hperm]

/-- Masks of several bits that overlap: value 2 meets masks 3 and 6, in whatever order they came. -/
theorem descriptions_follow_masks_overlapping :
    let rows : List (UInt32 × String) := [(6, "b"), (1, "a"), (3, "c")]
    let other : List (UInt32 × String) := [(3, "c"), (6, "b"), (1, "a")]
    (rows.map Prod.fst).Nodup ∧ rows.Perm other ∧ (build rows).describe 2 = "c, b" ∧
      (build other).describe 2 = "c, b" := by
  intro rows other
  have hmasks : (rows.map Prod.fst).Nodup := by decide
  have hperm : rows.Perm other := by decide
  have htext : (build rows).describe 2 = "c, b" := by decide +kernel
  exact ⟨hmasks, hperm, htext,
    ((descriptions_follow_masks rows).2.2.2 other hmasks hperm 2).trans htext⟩

end GroundStation.FlagTable
