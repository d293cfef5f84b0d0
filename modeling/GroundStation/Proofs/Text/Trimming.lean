import GroundStation.Text.Blank

/-!
What trimming leaves: of all ways to cut a text into blanks, a middle part and blanks again, it is
the middle part of the one whose middle part has no blank at either end. There is exactly one such
part.
-/

namespace GroundStation.Text

def AllBlank (chars : List Char) : Prop :=
  ∀ c ∈ chars, isBlank c = true

instance (chars : List Char) : Decidable (AllBlank chars) :=
  decidable_of_iff (chars.all isBlank = true) List.all_eq_true

structure Bare (chars : List Char) : Prop where
  first : ∀ c ∈ chars.head?, isBlank c = false
  last : ∀ c ∈ chars.getLast?, isBlank c = false

/-- The characters are blanks, the inner part, and blanks, and the inner part cannot be cut
further. -/
def Trims (chars inner : List Char) : Prop :=
  Bare inner ∧ ∃ before after, AllBlank before ∧ AllBlank after ∧
    chars = before ++ (inner ++ after)

theorem bare_of_forall {chars : List Char} (hchars : ∀ c ∈ chars, isBlank c = false) :
    Bare chars where
  first c hc := hchars c (List.mem_of_mem_head? hc)
  last c hc := hchars c (List.mem_of_mem_getLast? hc)

/-- Whatever stands between two bare texts, the whole is bare. -/
theorem Bare.around {front back : List Char} (hfront : Bare front) (hsome : front ≠ [])
    (hback : Bare back) (hsome' : back ≠ []) (middle : List Char) :
    Bare (front ++ (middle ++ back)) where
  first c hc := by
    rw [List.head?_append, Option.or_of_isSome (List.isSome_head?.mpr hsome)] at hc
    exact hfront.first c hc
  last c hc := by
    rw [← List.append_assoc, List.getLast?_append,
      Option.or_of_isSome (List.getLast?_isSome.mpr hsome')] at hc
    exact hback.last c hc

theorem first_dropWhile (chars : List Char) :
    ∀ c ∈ (chars.dropWhile isBlank).head?, isBlank c = false := by
  intro c hc
  have hstop := List.head?_dropWhile_not isBlank chars
  rwa [hc] at hstop

theorem dropWhile_blanks {blanks rest : List Char} (hblanks : AllBlank blanks)
    (hrest : ∀ c ∈ rest.head?, isBlank c = false) : (blanks ++ rest).dropWhile isBlank = rest := by
  rw [List.dropWhile_append_of_pos hblanks]
  cases rest with
  | nil => rfl
  | cons c rest => exact List.dropWhile_cons_of_neg (by rw [hrest c rfl]; exact Bool.false_ne_true)

/-- Blanks around a bare text are all that trimming takes away. -/
theorem trim_surrounded {before inner after : List Char} (hbefore : AllBlank before)
    (hinner : Bare inner) (hafter : AllBlank after) :
    trim (before ++ (inner ++ after)) = inner := by
  cases inner with
  | nil =>
      have hall : AllBlank (before ++ after) := fun c hc =>
        (List.mem_append.mp hc).elim (hbefore c) (hafter c)
      have hnone : (before ++ after ++ []).dropWhile isBlank = [] :=
        dropWhile_blanks hall fun _ hc => nomatch hc
      rw [List.append_nil] at hnone
      rw [trim, List.nil_append, hnone]
      rfl
  | cons c rest =>
      have hfront : (before ++ (c :: rest ++ after)).dropWhile isBlank = c :: rest ++ after :=
        dropWhile_blanks hbefore hinner.first
      have hback : (after.reverse ++ (c :: rest).reverse).dropWhile isBlank =
          (c :: rest).reverse := by
        apply dropWhile_blanks fun c hc => hafter c (List.mem_reverse.mp hc)
        rw [List.head?_reverse]
        exact hinner.last
      rw [trim, hfront, List.reverse_append, hback, List.reverse_reverse]

/-- Trimming takes blanks off both ends and leaves none there. -/
theorem trims_trim (chars : List Char) : Trims chars (trim chars) := by
  let opened := chars.dropWhile isBlank
  have hfront : chars = chars.takeWhile isBlank ++ opened := List.takeWhile_append_dropWhile.symm
  have hback : opened = trim chars ++ (opened.reverse.takeWhile isBlank).reverse := by
    rw [trim, ← List.reverse_append, List.takeWhile_append_dropWhile, List.reverse_reverse]
  refine ⟨⟨?_, ?_⟩, chars.takeWhile isBlank, (opened.reverse.takeWhile isBlank).reverse, ?_, ?_, ?_⟩
  · intro c hc
    apply first_dropWhile chars c
    change opened.head? = some c
    rw [hback, List.head?_append, hc]
    rfl
  · rw [trim, List.getLast?_reverse]
    exact first_dropWhile opened.reverse
  · exact fun c hc => List.all_eq_true.mp List.all_takeWhile c hc
  · exact fun c hc => List.all_eq_true.mp List.all_takeWhile c (List.mem_reverse.mp hc)
  · rw [← hback]
    exact hfront

/-- There is one way to trim a text. -/
theorem trim_eq_iff {chars inner : List Char} : trim chars = inner ↔ Trims chars inner := by
  constructor
  · rintro rfl
    exact trims_trim chars
  · rintro ⟨hinner, before, after, hbefore, hafter, rfl⟩
    exact trim_surrounded hbefore hinner hafter

end GroundStation.Text
