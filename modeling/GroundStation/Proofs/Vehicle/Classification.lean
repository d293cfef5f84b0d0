import GroundStation.Vehicle.Codebook

/-!
How a code table that is built entry by entry answers. The name of a code is the one in the last
entry for it. The severity is the one in the last entry for it that has a grade, and OK if there is
none: a plain entry leaves an earlier grade in force. So a plain entry stands for one that is graded
OK exactly as long as the code is OK already, or is graded again later.
-/

namespace GroundStation.CodeTable

/-- A row that is entered into a code table, plain or with a grade. -/
inductive Entry where
  | plain (code : Int) (name : String)
  | graded (code : Int) (name : String) (severity : Severity)
deriving DecidableEq, Repr

namespace Entry

def code : Entry → Int
  | plain code _ | graded code _ _ => code

def name : Entry → String
  | plain _ name | graded _ name _ => name

def grade? : Entry → Option Severity
  | plain _ _ => none
  | graded _ _ severity => some severity

/-- How serious the entry says that its code is; a plain one says that it is OK. -/
def severity (entry : Entry) : Severity :=
  entry.grade?.getD .ok

end Entry

def enter (table : CodeTable) : Entry → CodeTable
  | .plain code name => table.define code name
  | .graded code name severity => table.classify code name severity

def enterAll (table : CodeTable) (entries : List Entry) : CodeTable :=
  entries.foldl enter table

def build (kind : String) (entries : List Entry) : CodeTable :=
  enterAll { kind } entries

section Entries

variable (code : Int) (entries : List Entry)

def about : List Entry :=
  entries.filter fun entry => entry.code = code

def last? : Option Entry :=
  (about code entries).getLast?

def grades : List Severity :=
  (about code entries).filterMap Entry.grade?

/-- The last entry for the code is plain, and the grade that was given last is not OK. -/
def Stale : Prop :=
  (∃ name, last? code entries = some (.plain code name)) ∧
    (grades code entries).getLastD .ok ≠ .ok

end Entries

/-! ### One entry -/

section Step

variable (table : CodeTable) (entry : Entry) (code : Int)

theorem kind_enter : (table.enter entry).kind = table.kind := by
  cases entry <;> rfl

theorem name?_enter :
    (table.enter entry).name? code =
      if entry.code = code then some entry.name else table.name? code := by
  cases entry <;> exact Table.get?_insert _ _ _ _

theorem severity_classify (given : Int) (name : String) (severity : Severity) :
    (table.classify given name severity).severity code =
      if given = code then severity else table.severity code := by
  simp only [CodeTable.severity, classify]
  by_cases hok : severity = .ok
  · rw [if_pos hok, Table.get?_erase, apply_ite (Option.getD · Severity.ok), hok]
    rfl
  · rw [if_neg hok, Table.get?_insert, apply_ite (Option.getD · Severity.ok)]
    rfl

/-- An entry grades its code only if it brings a grade. -/
theorem severity_enter :
    (table.enter entry).severity code =
      if entry.code = code then entry.grade?.getD (table.severity code)
      else table.severity code := by
  cases entry with
  | plain given name => exact (ite_self _).symm
  | graded given name severity => exact severity_classify table code given name severity

end Step

/-! ### All entries -/

section Run

variable {code : Int} {entry : Entry}

theorem about_cons_of_eq (hcode : entry.code = code) (rest : List Entry) :
    about code (entry :: rest) = entry :: about code rest :=
  List.filter_cons_of_pos (decide_eq_true hcode)

theorem about_cons_of_ne (hcode : entry.code ≠ code) (rest : List Entry) :
    about code (entry :: rest) = about code rest :=
  List.filter_cons_of_neg (by simpa using hcode)

theorem kind_enterAll (table : CodeTable) (entries : List Entry) :
    (table.enterAll entries).kind = table.kind := by
  induction entries generalizing table with
  | nil => rfl
  | cons entry rest ih => exact (ih (table.enter entry)).trans (kind_enter table entry)

/-- The last entry for a code names it. -/
theorem name?_enterAll (table : CodeTable) (entries : List Entry) :
    (table.enterAll entries).name? code =
      ((last? code entries).map Entry.name).or (table.name? code) := by
  induction entries generalizing table with
  | nil => rfl
  | cons entry rest ih =>
      have hrest := ih (table.enter entry)
      rw [name?_enter] at hrest
      refine hrest.trans ?_
      by_cases hcode : entry.code = code
      · rw [if_pos hcode, last?, last?, about_cons_of_eq hcode, List.getLast?_cons]
        cases (about code rest).getLast? <;> rfl
      · rw [if_neg hcode, last?, last?, about_cons_of_ne hcode]

/-- The last entry with a grade grades the code. -/
theorem severity_enterAll (table : CodeTable) (entries : List Entry) :
    (table.enterAll entries).severity code =
      (grades code entries).getLastD (table.severity code) := by
  induction entries generalizing table with
  | nil => rfl
  | cons entry rest ih =>
      have hrest := ih (table.enter entry)
      rw [severity_enter] at hrest
      refine hrest.trans ?_
      by_cases hcode : entry.code = code
      · rw [if_pos hcode, grades, grades, about_cons_of_eq hcode]
        cases entry with
        | plain given name => rfl
        | graded given name severity => exact List.getLastD_cons.symm
      · rw [if_neg hcode, grades, grades, about_cons_of_ne hcode]

end Run

section Build

variable (kind : String) (entries : List Entry) (code : Int)

theorem name?_build : (build kind entries).name? code = (last? code entries).map Entry.name :=
  (name?_enterAll { kind } entries).trans (Option.or_none)

theorem severity_build : (build kind entries).severity code = (grades code entries).getLastD .ok :=
  severity_enterAll { kind } entries

theorem build_append_cons (entry : Entry) (later : List Entry) :
    build kind (entries ++ entry :: later) = ((build kind entries).enter entry).enterAll later :=
  List.foldl_append

variable {entries code}

theorem getLastD_grades_of_graded {given : Int} {name : String} {severity : Severity}
    (hlast : last? code entries = some (.graded given name severity)) :
    (grades code entries).getLastD .ok = severity := by
  obtain ⟨earlier, habout⟩ := List.getLast?_eq_some_iff.mp hlast
  rw [grades, habout, List.filterMap_append]
  exact List.getLastD_concat

/-- The entry that was made last decides unless an older grade is stale. -/
theorem severity_build_eq_iff :
    (build kind entries).severity code = ((last? code entries).map Entry.severity).getD .ok ↔
      ¬ Stale code entries := by
  rw [severity_build]
  cases hlast : last? code entries with
  | none =>
      have hgrades : grades code entries = [] := by
        rw [grades, List.getLast?_eq_none_iff.mp hlast, List.filterMap_nil]
      refine iff_of_true (by rw [hgrades]; rfl) ?_
      rintro ⟨⟨name, hplain⟩, -⟩
      cases hlast.symm.trans hplain
  | some entry =>
      cases entry with
      | graded given name severity =>
          refine iff_of_true (getLastD_grades_of_graded hlast) ?_
          rintro ⟨⟨name, hplain⟩, -⟩
          cases hlast.symm.trans hplain
      | plain given name =>
          have hgiven : given = code :=
            of_decide_eq_true (List.mem_filter.mp (List.mem_of_getLast? hlast)).2
          subst hgiven
          refine ⟨fun hok hstale => hstale.2 hok, fun hfresh => ?_⟩
          exact Decidable.not_not.mp fun hgrade => hfresh ⟨⟨name, hlast⟩, hgrade⟩

/-- A plain entry does what one graded OK does exactly if the code is OK already or is graded
again. -/
theorem severity_plain_eq_iff (table : CodeTable) (name : String) (later : List Entry) :
    (∀ other, ((table.enter (.plain code name)).enterAll later).severity other =
        ((table.enter (.graded code name .ok)).enterAll later).severity other) ↔
      table.severity code = .ok ∨ grades code later ≠ [] := by
  have hplain (other : Int) : (table.enter (.plain code name)).severity other =
      table.severity other := rfl
  have hgraded (other : Int) : (table.enter (.graded code name .ok)).severity other =
      if code = other then .ok else table.severity other :=
    severity_classify table other code name .ok
  simp only [severity_enterAll, hplain, hgraded]
  constructor
  · intro hsame
    have hcode := hsame code
    rw [if_pos rfl] at hcode
    by_cases hnone : grades code later = []
    · rw [hnone] at hcode
      exact .inl hcode
    · exact .inr hnone
  · rintro (hok | hlater) other
    · by_cases hother : code = other
      · rw [if_pos hother, ← hother, hok]
      · rw [if_neg hother]
    · by_cases hother : code = other
      · obtain ⟨last, hlast⟩ := Option.isSome_iff_exists.mp (List.getLast?_isSome.mpr hlater)
        rw [← hother, List.getLastD_eq_getLast?, List.getLastD_eq_getLast?, hlast]
        rfl
      · rw [if_neg hother]

end Build

/-- A table built of any entries has the kind that it was opened with; the name of a code is the one
in the last entry for it, and its severity is the last grade given to it, OK if there is none. This
is what the last entry for the code says, a plain one standing for OK, exactly unless an older grade
is stale. A plain entry among any others can be graded OK instead without changing a name, and
without changing a severity exactly if the code is OK at that point or is graded again later. -/
theorem lookups_of_last_entries (kind : String) (entries : List Entry) (code : Int) :
    let table := build kind entries
    table.kind = kind ∧
      table.name? code = (last? code entries).map Entry.name ∧
      table.severity code = (grades code entries).getLastD .ok ∧
      (table.severity code = ((last? code entries).map Entry.severity).getD .ok ↔
        ¬ Stale code entries) ∧
      ∀ name later,
        let plainly := build kind (entries ++ .plain code name :: later)
        let graded := build kind (entries ++ .graded code name .ok :: later)
        (∀ other, plainly.name? other = graded.name? other) ∧
          ((∀ other, plainly.severity other = graded.severity other) ↔
            table.severity code = .ok ∨ grades code later ≠ []) := by
  intro table
  refine ⟨kind_enterAll _ _, name?_build kind entries code, severity_build kind entries code,
    severity_build_eq_iff kind, ?_⟩
  intro name later
  simp only [build_append_cons]
  refine ⟨fun other => ?_, severity_plain_eq_iff table name later⟩
  rw [name?_enterAll, name?_enterAll]
  rfl

/-- A code that was graded critical stays critical when a plain entry names it again, although that
entry is the last one for it; an entry graded OK in its place makes the code OK. -/
theorem plain_entry_keeps_old_grade :
    let entries : List Entry := [.graded 1 "a" .critical, .plain 1 "b"]
    let table := build "t" entries
    table.name? 1 = some "b" ∧ (last? 1 entries).map Entry.severity = some .ok ∧
      table.severity 1 = .critical ∧
      (build "t" [.graded 1 "a" .critical, .graded 1 "b" .ok]).severity 1 = .ok := by
  decide

end GroundStation.CodeTable
