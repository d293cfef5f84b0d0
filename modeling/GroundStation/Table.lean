/-!
Finite tables from keys to values, kept as rows in the order in which their keys were first entered.
A key stands in at most one row: entering it again changes the row in place.
-/

namespace GroundStation

structure Table (κ ν : Type) where
  rows : List (κ × ν) := []
deriving Repr

namespace Table

variable {κ ν : Type} [DecidableEq κ]

/-- The value in the first row with the given key. -/
def lookup (key : κ) : List (κ × ν) → Option ν
  | [] => none
  | (k, value) :: rest => if k = key then some value else lookup key rest

/-- The rows with the value of `key` replaced, or with a new last row. -/
def enter (key : κ) (value : ν) : List (κ × ν) → List (κ × ν)
  | [] => [(key, value)]
  | (k, old) :: rest => if k = key then (k, value) :: rest else (k, old) :: enter key value rest

def empty : Table κ ν := {}

def size (table : Table κ ν) : Nat :=
  table.rows.length

def keys (table : Table κ ν) : List κ :=
  table.rows.map Prod.fst

def get? (table : Table κ ν) (key : κ) : Option ν :=
  lookup key table.rows

def contains (table : Table κ ν) (key : κ) : Bool :=
  (table.get? key).isSome

def insert (table : Table κ ν) (key : κ) (value : ν) : Table κ ν :=
  ⟨enter key value table.rows⟩

def erase (table : Table κ ν) (key : κ) : Table κ ν :=
  ⟨table.rows.filter fun row => row.1 ≠ key⟩

theorem lookup_enter (key other : κ) (value : ν) (rows : List (κ × ν)) :
    lookup other (enter key value rows) = if key = other then some value else lookup other rows := by
  induction rows with
  | nil => simp [enter, lookup]
  | cons row rest ih =>
      obtain ⟨k, old⟩ := row
      by_cases hk : k = key
      · subst hk
        by_cases ho : k = other <;> simp [enter, lookup, ho]
      · by_cases ho : k = other
        · subst ho
          simp [enter, lookup, hk, Ne.symm hk]
        · simp [enter, lookup, hk, ho, ih]

@[simp] theorem get?_empty (key : κ) : (empty : Table κ ν).get? key = none := rfl

theorem get?_insert (table : Table κ ν) (key other : κ) (value : ν) :
    (table.insert key value).get? other = if key = other then some value else table.get? other :=
  lookup_enter key other value table.rows

theorem get?_erase (table : Table κ ν) (key other : κ) :
    (table.erase key).get? other = if key = other then none else table.get? other := by
  obtain ⟨rows⟩ := table
  simp only [get?, erase]
  induction rows with
  | nil => simp [lookup]
  | cons row rest ih =>
      obtain ⟨k, old⟩ := row
      by_cases hk : k = key
      · subst hk
        by_cases ho : k = other
        · simpa [lookup, ho] using ih
        · simpa [lookup, ho] using ih
      · by_cases ho : k = other
        · subst ho
          simp [lookup, hk, Ne.symm hk]
        · simpa [lookup, hk, ho] using ih

theorem mem_map_fst_enter (key other : κ) (value : ν) (rows : List (κ × ν)) :
    other ∈ (enter key value rows).map Prod.fst ↔ other = key ∨ other ∈ rows.map Prod.fst := by
  induction rows with
  | nil => simp [enter]
  | cons row rest ih =>
      obtain ⟨k, old⟩ := row
      by_cases hk : k = key
      · simp [enter, hk]
      · simp only [enter, if_neg hk, List.map_cons, List.mem_cons, ih]
        exact or_left_comm

/-- Entering a key gives no key a second row. -/
theorem nodup_keys_insert {table : Table κ ν} (hkeys : table.keys.Nodup) (key : κ) (value : ν) :
    (table.insert key value).keys.Nodup := by
  obtain ⟨rows⟩ := table
  simp only [keys, insert] at hkeys ⊢
  induction rows with
  | nil => simp [enter]
  | cons row rest ih =>
      obtain ⟨k, old⟩ := row
      obtain ⟨hfresh, hrest⟩ := List.nodup_cons.mp hkeys
      by_cases hk : k = key
      · simpa [enter, hk] using hkeys
      · simp only [enter, if_neg hk, List.map_cons]
        refine List.nodup_cons.mpr ⟨?_, ih hrest⟩
        rw [mem_map_fst_enter]
        exact not_or.mpr ⟨hk, hfresh⟩

theorem lookup_map (change : ν → ν) (key : κ) (rows : List (κ × ν)) :
    lookup key (rows.map fun (k, value) => (k, change value)) = (lookup key rows).map change := by
  induction rows with
  | nil => rfl
  | cons row rest ih =>
      obtain ⟨k, value⟩ := row
      by_cases hk : k = key
      · simp [lookup, hk]
      · simpa [lookup, hk] using ih

theorem lookup_eq_none {key : κ} {rows : List (κ × ν)} (hkey : key ∉ rows.map Prod.fst) :
    lookup key rows = none := by
  induction rows with
  | nil => rfl
  | cons row rest ih =>
      obtain ⟨hfirst, hrest⟩ := not_or.mp (mt List.mem_cons.mpr hkey)
      rw [lookup, if_neg (Ne.symm hfirst), ih hrest]

/-- The only row of a key is the one that is looked up. -/
theorem filter_rows {table : Table κ ν} (hkeys : table.keys.Nodup) (key : κ) :
    (table.rows.filter fun row => row.1 = key) = ((table.get? key).map (Prod.mk key)).toList := by
  obtain ⟨rows⟩ := table
  simp only [keys, get?] at hkeys ⊢
  induction rows with
  | nil => rfl
  | cons row rest ih =>
      obtain ⟨k, value⟩ := row
      obtain ⟨hfresh, hrest⟩ := List.nodup_cons.mp hkeys
      have htail := ih hrest
      by_cases hk : k = key
      · subst hk
        rw [lookup_eq_none hfresh] at htail
        rw [List.filter_cons_of_pos (by simp), htail]
        simp [lookup]
      · rw [List.filter_cons_of_neg (by simp [hk]), htail]
        simp [lookup, hk]

theorem mem_keys_iff (table : Table κ ν) (key : κ) :
    key ∈ table.keys ↔ (table.get? key).isSome = true := by
  obtain ⟨rows⟩ := table
  simp only [keys, get?]
  induction rows with
  | nil => simp [lookup]
  | cons row rest ih =>
      obtain ⟨k, value⟩ := row
      by_cases hk : k = key
      · simp [lookup, hk]
      · simpa [lookup, hk, Ne.symm hk] using ih

/-- Of a sorted list of entries that the rows give, each about the key of its row, the entry about a
key is the one that the row of the key gives. -/
theorem filter_mergeSort {ω : Type} {table : Table κ ν} (hkeys : table.keys.Nodup)
    {pick : κ × ν → Option ω} {subject : ω → κ}
    (hsubject : ∀ {row entry}, pick row = some entry → subject entry = row.1)
    (le : ω → ω → Bool) (key : κ) :
    (((table.rows.filterMap pick).mergeSort le).filter fun entry => subject entry = key) =
      ((table.get? key).bind fun value => pick (key, value)).toList := by
  have howner : ∀ row : κ × ν,
      (pick row).filter (fun entry => subject entry = key) =
        if decide (row.1 = key) = true then pick row else none := by
    intro row
    cases hrow : pick row with
    | none => simp
    | some entry => simp [Option.filter_some, hsubject hrow]
  have hrows : ((table.rows.filterMap pick).filter fun entry => subject entry = key) =
      ((table.get? key).bind fun value => pick (key, value)).toList := by
    rw [List.filter_filterMap, funext howner, ← List.filterMap_filter, filter_rows hkeys key]
    cases hget : table.get? key with
    | none => rfl
    | some value => cases hentry : pick (key, value) <;> simp [hentry]
  -- Sorting keeps the entries, and those about one key are too few to change places.
  have hsorted := (List.mergeSort_perm (table.rows.filterMap pick) le).filter
    fun entry => subject entry = key
  rw [hrows] at hsorted
  cases hentry : (table.get? key).bind fun value => pick (key, value) with
  | none =>
      rw [hentry] at hsorted
      exact hsorted.eq_nil
  | some entry =>
      rw [hentry] at hsorted
      exact List.perm_singleton.mp hsorted

omit [DecidableEq κ] in
/-- A sorted list of entries that the rows give, each about the key of its row, has no key twice and
so is strictly sorted. -/
theorem pairwise_mergeSort {ω : Type} {table : Table κ ν} (hkeys : table.keys.Nodup)
    {pick : κ × ν → Option ω} {subject : ω → κ}
    (hsubject : ∀ {row entry}, pick row = some entry → subject entry = row.1)
    {le : κ → κ → Bool} {lt : κ → κ → Prop}
    (htrans : ∀ {a b c}, le a b = true → le b c = true → le a c = true)
    (htotal : ∀ a b, (le a b || le b a) = true)
    (hstrict : ∀ {a b}, le a b = true → a ≠ b → lt a b) :
    ((table.rows.filterMap pick).mergeSort fun a b => le (subject a) (subject b)).Pairwise
      fun a b => lt (subject a) (subject b) := by
  let sorted := (table.rows.filterMap pick).mergeSort fun a b => le (subject a) (subject b)
  have hsorted : sorted.Pairwise fun a b => le (subject a) (subject b) = true := by
    apply List.pairwise_mergeSort
    · intro a b c
      exact htrans
    · intro a b
      exact htotal (subject a) (subject b)
  have hgiven : (table.rows.filterMap pick).Pairwise fun a b => subject a ≠ subject b := by
    rw [List.pairwise_filterMap]
    refine (List.pairwise_map.mp hkeys).imp ?_
    intro row other hne entry hentry later hlater
    rwa [hsubject hentry, hsubject hlater]
  -- Sorting only moves the entries, so they are still about different keys.
  have hdistinct : sorted.Pairwise fun a b => subject a ≠ subject b :=
    (List.mergeSort_perm _ _).symm.pairwise hgiven fun hne => hne.symm
  exact (hsorted.and hdistinct).imp fun hboth => hstrict hboth.1 hboth.2

end Table

end GroundStation
