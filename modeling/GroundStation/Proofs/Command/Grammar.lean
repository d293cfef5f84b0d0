import Mathlib.Data.Nat.Digits.Defs
import GroundStation.Proofs.Command.Codec
import GroundStation.Proofs.Text.Trimming

/-!
The grammar of commands. A text is a command exactly if, trimmed, it opens with the keyword and the
rest, trimmed again and freed of its underscores, is an optional sign and decimal digits for an
integer of 32 bits; every other text is rejected with the part of it that is at fault. So each value
has its decimal text as a command, with blanks and underscores where they may stand, and the
payloads of two commands are the same exactly if the commands denote the same integer.
-/

namespace GroundStation.Command

def Digits (chars : List Char) : Prop :=
  chars ≠ [] ∧ ∀ c ∈ chars, '0' ≤ c ∧ c ≤ '9'

/-- The number that digits spell in base ten, the first one being the most significant. -/
def decimal (digits : List Char) : Nat :=
  Nat.ofDigits 10 (digits.reverse.map fun c => c.toNat - '0'.toNat)

/-- At most one sign and then digits spell an integer. -/
inductive Spells : List Char → Int → Prop where
  | unsigned {digits : List Char} (hdigits : Digits digits) : Spells digits (decimal digits)
  | plus {digits : List Char} (hdigits : Digits digits) : Spells ('+' :: digits) (decimal digits)
  | minus {digits : List Char} (hdigits : Digits digits) : Spells ('-' :: digits) (-decimal digits)

/-- Without its underscores the text spells an integer of 32 bits. -/
def Numeral (chars : List Char) (n : Int) : Prop :=
  Spells (chars.filter (· ≠ '_')) n ∧ -2 ^ 31 ≤ n ∧ n ≤ 2 ^ 31 - 1

/-- The text is a command with the given integer. -/
def Denotes (text : String) (n : Int) : Prop :=
  ∃ rest argument, Text.Trims text.toList (keyword.toList ++ rest) ∧ Text.Trims rest argument ∧
    Numeral argument n

/-! ### Numerals -/

section Numerals

variable {chars digits : List Char}

theorem decimal_eq (digits : List Char) : decimal digits = Nat.ofDigitChars 10 digits 0 := by
  rw [decimal, Nat.ofDigits_eq_foldr, List.foldr_map, List.foldr_reverse, Nat.ofDigitChars_eq_foldl]
  congr 1
  funext sum c
  exact Nat.add_comm _ _

theorem isDigit_iff (c : Char) : c.isDigit = true ↔ '0' ≤ c ∧ c ≤ '9' := by
  rw [Char.isDigit, Bool.and_eq_true, decide_eq_true_iff, decide_eq_true_iff]
  rfl

theorem natural?_eq_some_iff {n : Nat} :
    natural? chars = some n ↔ Digits chars ∧ n = decimal chars := by
  have hdigits : Digits chars ↔ ¬ (chars.isEmpty || !chars.all Char.isDigit) = true := by
    simp [Digits, isDigit_iff]
  rw [hdigits, decimal_eq, natural?]
  split
  · simp [*]
  · simp [*, eq_comm, Nat.ofDigitChars_eq_foldl]

theorem natural?_of_digits (hdigits : Digits digits) : natural? digits = some (decimal digits) :=
  natural?_eq_some_iff.mpr ⟨hdigits, rfl⟩

theorem Digits.not_sign {c : Char} (hdigits : Digits (c :: chars)) : c ≠ '+' ∧ c ≠ '-' := by
  obtain ⟨hlow, hhigh⟩ := hdigits.2 c List.mem_cons_self
  constructor <;> rintro rfl <;> revert hlow hhigh <;> decide

/-- A text is read as an integer exactly if it spells it. -/
theorem integer?_eq_some_iff {n : Int} : integer? chars = some n ↔ Spells chars n := by
  constructor
  · intro hread
    unfold integer? at hread
    split at hread
    all_goals
      obtain ⟨m, hm, rfl⟩ := Option.map_eq_some_iff.mp hread
      obtain ⟨hdigits, rfl⟩ := natural?_eq_some_iff.mp hm
    · exact .plus hdigits
    · exact .minus hdigits
    · exact .unsigned hdigits
  · intro hspells
    cases hspells with
    | plus hdigits =>
        rw [integer?, natural?_of_digits hdigits]
        rfl
    | minus hdigits =>
        rw [integer?, natural?_of_digits hdigits]
        rfl
    | unsigned hdigits =>
        unfold integer?
        split
        · exact absurd rfl hdigits.not_sign.1
        · exact absurd rfl hdigits.not_sign.2
        · rw [natural?_of_digits hdigits]
          rfl

/-- The integer of a numeral fits into the register of a value. -/
theorem Numeral.toInt_ofInt {n : Int} (hnumeral : Numeral chars n) : (Int32.ofInt n).toInt = n :=
  Int32.toInt_ofInt_of_le hnumeral.2.1 (Int.lt_of_le_sub_one hnumeral.2.2)

/-- A text is read as a value exactly if it is a numeral for it. -/
theorem value?_eq_some_iff {value : Int32} :
    value? chars = some value ↔ Numeral chars value.toInt := by
  unfold value?
  cases hread : integer? (chars.filter (· ≠ '_')) with
  | none =>
      refine iff_of_false (by simp) fun hnumeral => ?_
      rw [integer?_eq_some_iff.mpr hnumeral.1] at hread
      cases hread
  | some n =>
      have hspells := integer?_eq_some_iff.mp hread
      dsimp only
      split
      · rename_i hrange
        have hnumeral : Numeral chars n := ⟨hspells, hrange.1, hrange.2⟩
        constructor
        · intro hvalue
          cases hvalue
          rwa [hnumeral.toInt_ofInt]
        · intro hother
          have hsame := (integer?_eq_some_iff.mpr hother.1).symm.trans hread
          rw [← Option.some.inj hsame, Int32.ofInt_toInt]
      · rename_i hrange
        refine iff_of_false (by simp) fun hnumeral => hrange ?_
        have hsame := (integer?_eq_some_iff.mpr hnumeral.1).symm.trans hread
        rw [← Option.some.inj hsame]
        exact hnumeral.2

end Numerals

/-! ### Reading a command -/

theorem argument?_eq_some_iff {keyword text rest : List Char} :
    argument? keyword text = some rest ↔ text = keyword ++ rest := by
  fun_induction argument? keyword text with
  | case1 text => simp [eq_comm]
  | case2 => simp
  | case3 c keyword text ih => simp [ih]
  | case4 k keyword c text hother => simp [Ne.symm hother]

section Reading

variable {text : String} {trimmed rest argument : List Char}

/-- A text without the keyword is rejected as a whole. -/
theorem parse_of_no_keyword (htrimmed : Text.Trims text.toList trimmed)
    (hkeyword : ¬ keyword.toList <+: trimmed) :
    parse text = .error (.unrecognized (String.ofList trimmed)) := by
  have hnone : argument? keyword.toList trimmed = none := by
    rw [Option.eq_none_iff_forall_ne_some]
    intro rest hrest
    exact hkeyword ⟨rest, (argument?_eq_some_iff.mp hrest).symm⟩
  simp only [parse, Text.trim_eq_iff.mpr htrimmed, hnone]

variable (htrimmed : Text.Trims text.toList (keyword.toList ++ rest))
  (hargument : Text.Trims rest argument)

include htrimmed hargument

theorem parse_of_keyword :
    parse text =
      (value? argument).elim (.error (.malformedValue (String.ofList argument)))
        fun value => .ok { value } := by
  simp only [parse, Text.trim_eq_iff.mpr htrimmed, argument?_eq_some_iff.mpr rfl,
    Text.trim_eq_iff.mpr hargument]
  cases value? argument <;> rfl

theorem parse_of_numeral {n : Int} (hnumeral : Numeral argument n) :
    parse text = .ok ⟨Int32.ofInt n⟩ := by
  have hvalue : value? argument = some (Int32.ofInt n) :=
    value?_eq_some_iff.mpr (hnumeral.toInt_ofInt.symm ▸ hnumeral)
  rw [parse_of_keyword htrimmed hargument, hvalue]
  rfl

theorem parse_of_no_numeral (hnone : ¬ ∃ n, Numeral argument n) :
    parse text = .error (.malformedValue (String.ofList argument)) := by
  have hvalue : value? argument = none := by
    rw [Option.eq_none_iff_forall_ne_some]
    intro value hvalue
    exact hnone ⟨value.toInt, value?_eq_some_iff.mp hvalue⟩
  rw [parse_of_keyword htrimmed hargument, hvalue]
  rfl

/-- Behind the keyword, a text is a command exactly if a numeral follows. -/
theorem exists_parse_eq_ok_iff :
    (∃ command, parse text = .ok command) ↔ ∃ n, Numeral argument n := by
  constructor
  · rintro ⟨command, hparse⟩
    by_contra hnone
    rw [parse_of_no_numeral htrimmed hargument hnone] at hparse
    cases hparse
  · rintro ⟨n, hnumeral⟩
    exact ⟨_, parse_of_numeral htrimmed hargument hnumeral⟩

/-- Otherwise the part behind the keyword is at fault. -/
theorem parse_eq_malformedValue_iff :
    parse text = .error (.malformedValue (String.ofList argument)) ↔
      ¬ ∃ n, Numeral argument n := by
  refine ⟨?_, parse_of_no_numeral htrimmed hargument⟩
  rintro hparse ⟨n, hnumeral⟩
  rw [parse_of_numeral htrimmed hargument hnumeral] at hparse
  cases hparse

end Reading

/-- A text is unrecognized exactly if it does not open with the keyword. -/
theorem parse_eq_unrecognized_iff {text : String} {trimmed : List Char}
    (htrimmed : Text.Trims text.toList trimmed) :
    parse text = .error (.unrecognized (String.ofList trimmed)) ↔
      ¬ keyword.toList <+: trimmed := by
  refine ⟨?_, parse_of_no_keyword htrimmed⟩
  rintro hparse ⟨rest, rfl⟩
  rw [parse_of_keyword htrimmed (Text.trims_trim rest)] at hparse
  cases hvalue : value? (Text.trim rest) with
  | none =>
      rw [hvalue] at hparse
      cases hparse
  | some value =>
      rw [hvalue] at hparse
      cases hparse

/-- A text is accepted with the integer that it denotes. -/
theorem parse_eq_ok_iff {text : String} {command : Command} :
    parse text = .ok command ↔ Denotes text command.value.toInt := by
  constructor
  · intro hparse
    by_cases hkeyword : keyword.toList <+: Text.trim text.toList
    · obtain ⟨rest, hrest⟩ := hkeyword
      have htrimmed : Text.Trims text.toList (keyword.toList ++ rest) :=
        hrest ▸ Text.trims_trim text.toList
      have hargument := Text.trims_trim rest
      by_cases hnumeral : ∃ n, Numeral (Text.trim rest) n
      · obtain ⟨n, hnumeral⟩ := hnumeral
        rw [parse_of_numeral htrimmed hargument hnumeral] at hparse
        cases hparse
        exact ⟨rest, _, htrimmed, hargument, hnumeral.toInt_ofInt.symm ▸ hnumeral⟩
      · rw [parse_of_no_numeral htrimmed hargument hnumeral] at hparse
        cases hparse
    · rw [parse_of_no_keyword (Text.trims_trim text.toList) hkeyword] at hparse
      cases hparse
  · rintro ⟨rest, argument, htrimmed, hargument, hnumeral⟩
    rw [parse_of_numeral htrimmed hargument hnumeral, Int32.ofInt_toInt]

/-- A command text denotes one integer, that of the command. -/
theorem denotes_iff {text : String} {command : Command} (hparse : parse text = .ok command)
    {n : Int} : Denotes text n ↔ n = command.value.toInt := by
  constructor
  · rintro ⟨rest, argument, htrimmed, hargument, hnumeral⟩
    rw [parse_of_numeral htrimmed hargument hnumeral] at hparse
    cases hparse
    exact hnumeral.toInt_ofInt.symm
  · rintro rfl
    exact parse_eq_ok_iff.mp hparse

/-! ### Payloads -/

/-! ### Writing a command -/

theorem digits_toDigits (n : Nat) : Digits (Nat.toDigits 10 n) := by
  refine ⟨Nat.toDigits_ne_nil, fun c hc => (isDigit_iff c).mp ?_⟩
  exact Nat.isDigit_of_mem_toDigits (by decide) (by decide) hc

theorem decimal_toDigits (n : Nat) : decimal (Nat.toDigits 10 n) = n := by
  rw [decimal_eq, Nat.ofDigitChars_toDigits (by decide) (by decide)]

theorem spells_toString (n : Int) : Spells (toString n).toList n := by
  rw [Int.toString_eq_repr]
  cases n with
  | ofNat m =>
      have hspells := Spells.unsigned (digits_toDigits m)
      rw [decimal_toDigits] at hspells
      rwa [Int.repr, Nat.toList_repr]
  | negSucc m =>
      have hspells := Spells.minus (digits_toDigits (m + 1))
      rw [decimal_toDigits] at hspells
      rw [Int.repr, String.toList_append, Nat.toList_repr]
      exact hspells

theorem Spells.ne_nil {chars : List Char} {n : Int} (hspells : Spells chars n) : chars ≠ [] := by
  cases hspells with
  | unsigned hdigits => exact hdigits.1
  | plus hdigits => exact List.cons_ne_nil _ _
  | minus hdigits => exact List.cons_ne_nil _ _

theorem isBlank_digit {c : Char} (hdigit : '0' ≤ c ∧ c ≤ '9') : Text.isBlank c = false := by
  have hlow : 48 ≤ c.toNat := hdigit.1
  have hhigh : c.toNat ≤ 57 := hdigit.2
  simp [Text.isBlank, Text.blanks]
  omega

theorem Spells.isBlank {chars : List Char} {n : Int} (hspells : Spells chars n) :
    ∀ c ∈ chars, Text.isBlank c = false := by
  cases hspells with
  | unsigned hdigits => exact fun c hc => isBlank_digit (hdigits.2 c hc)
  | plus hdigits =>
      exact List.forall_mem_cons.mpr ⟨by decide, fun c hc => isBlank_digit (hdigits.2 c hc)⟩
  | minus hdigits =>
      exact List.forall_mem_cons.mpr ⟨by decide, fun c hc => isBlank_digit (hdigits.2 c hc)⟩

theorem bare_keyword : Text.Bare keyword.toList := by
  have hchars : keyword.toList.all (fun c => !Text.isBlank c) = true := by decide
  exact Text.bare_of_forall fun c hc => by simpa using List.all_eq_true.mp hchars c hc

theorem isBlank_of_filter {chars : List Char}
    (hchars : ∀ c ∈ chars.filter (· ≠ '_'), Text.isBlank c = false) :
    ∀ c ∈ chars, Text.isBlank c = false := by
  intro c hc
  by_cases hunderscore : c = '_'
  · rw [hunderscore]
    decide
  · exact hchars c (List.mem_filter.mpr ⟨hc, decide_eq_true hunderscore⟩)

/-- The decimal text of a value makes a command, with underscores anywhere in it and blanks around
it and around the whole. -/
theorem denotes_written (value : Int32) {before between number after : String}
    (hbefore : Text.AllBlank before.toList) (hbetween : Text.AllBlank between.toList)
    (hafter : Text.AllBlank after.toList)
    (hnumber : number.toList.filter (· ≠ '_') = (toString value.toInt).toList) :
    Denotes (before ++ keyword ++ between ++ number ++ after) value.toInt := by
  have hspells : Spells (number.toList.filter (· ≠ '_')) value.toInt :=
    hnumber ▸ spells_toString value.toInt
  have hbare : Text.Bare number.toList := Text.bare_of_forall (isBlank_of_filter hspells.isBlank)
  have hsome : number.toList ≠ [] := by
    intro hnone
    rw [hnone] at hspells
    exact hspells.ne_nil rfl
  have htrimmed : Text.Trims (before ++ keyword ++ between ++ number ++ after).toList
      (keyword.toList ++ (between.toList ++ number.toList)) := by
    refine ⟨bare_keyword.around (by decide) hbare hsome _, before.toList, after.toList, hbefore,
      hafter, ?_⟩
    simp only [String.toList_append, List.append_assoc]
  have hargument : Text.Trims (between.toList ++ number.toList) number.toList := by
    refine ⟨hbare, between.toList, [], hbetween, fun c hc => absurd hc List.not_mem_nil, ?_⟩
    rw [List.append_nil]
  have hrange : value.toInt ≤ 2 ^ 31 - 1 := Int.le_sub_one_of_lt value.toInt_lt
  exact ⟨_, _, htrimmed, hargument, hspells, value.le_toInt, hrange⟩

/-- Every text, trimmed, is rejected as unrecognized exactly if it does not open with the keyword.
Otherwise the trimmed rest decides: if it is a numeral, the text is accepted and the payload is the
integer in two's complement, least significant byte first, and four zeros; if it is none, it is
rejected as malformed. So every value is read back from the payload of its decimal text behind the
keyword, with underscores anywhere in it and blanks around it and around the whole, and accepted
texts have the same payload exactly if they denote the same integer. -/
theorem parse_follows_grammar :
    (∀ text : String, ∃ trimmed, Text.Trims text.toList trimmed ∧
      (parse text = .error (.unrecognized (String.ofList trimmed)) ↔
        ¬ keyword.toList <+: trimmed) ∧
      ∀ rest, trimmed = keyword.toList ++ rest → ∃ argument, Text.Trims rest argument ∧
        ((∃ command, parse text = .ok command) ↔ ∃ n, Numeral argument n) ∧
        (∀ n, Numeral argument n → ∃ command, parse text = .ok command ∧
          command.payload = Bytes.ofNat 4 (n % 2 ^ 32).toNat ++ [0, 0, 0, 0]) ∧
        (parse text = .error (.malformedValue (String.ofList argument)) ↔
          ¬ ∃ n, Numeral argument n)) ∧
      (∀ (value : Int32) (before between number after : String), Text.AllBlank before.toList →
        Text.AllBlank between.toList → Text.AllBlank after.toList →
        number.toList.filter (· ≠ '_') = (toString value.toInt).toList →
        ∃ command, parse (before ++ keyword ++ between ++ number ++ after) = .ok command ∧
          ofPayload? command.payload = some ⟨value⟩) ∧
      ∀ (text other : String) (command command' : Command), parse text = .ok command →
        parse other = .ok command' →
        (command.payload = command'.payload ↔ ∃ n, Denotes text n ∧ Denotes other n) := by
  refine ⟨?_, ?_, ?_⟩
  · intro text
    have htrim := Text.trims_trim text.toList
    refine ⟨Text.trim text.toList, htrim, parse_eq_unrecognized_iff htrim, ?_⟩
    intro rest hrest
    have htrimmed : Text.Trims text.toList (keyword.toList ++ rest) := hrest ▸ htrim
    have hargument := Text.trims_trim rest
    refine ⟨Text.trim rest, hargument, exists_parse_eq_ok_iff htrimmed hargument, ?_,
      parse_eq_malformedValue_iff htrimmed hargument⟩
    intro n hnumeral
    refine ⟨_, parse_of_numeral htrimmed hargument hnumeral, ?_⟩
    rw [payload_eq, hnumeral.toInt_ofInt]
  · intro value before between number after hbefore hbetween hafter hnumber
    refine ⟨⟨value⟩, parse_eq_ok_iff.mpr ?_, ofPayload?_payload _⟩
    exact denotes_written value hbefore hbetween hafter hnumber
  · intro text other command command' hparse hparse'
    simp only [payload_inj, denotes_iff hparse, denotes_iff hparse']
    constructor
    · rintro rfl
      exact ⟨_, rfl, rfl⟩
    · rintro ⟨n, hn, hn'⟩
      have hvalue : command.value = command'.value := Int32.toInt_inj.mp (hn.symm.trans hn')
      cases command
      cases command'
      exact congrArg Command.mk hvalue

/-- The lowest value is read back although underscores stand at both ends of its decimal text and
unusual blanks around it. A sign and leading zeros make no difference, and a blank behind the sign
is at fault. -/
theorem parse_follows_grammar_lowest_value :
    let number := "_-2_147_483_648_"
    Text.AllBlank "\u00A0\t".toList ∧ Text.AllBlank "\u3000".toList ∧ Text.AllBlank "\n".toList ∧
      number.toList.filter (· ≠ '_') = (toString Int32.minValue.toInt).toList ∧
      (∃ command, parse ("\u00A0\t" ++ keyword ++ "\u3000" ++ number ++ "\n") = .ok command ∧
        ofPayload? command.payload = some ⟨Int32.minValue⟩) ∧
      parse "updateValue+007" = .ok ⟨7⟩ ∧ parse " updateValue 7" = .ok ⟨7⟩ ∧
      (∃ n, Denotes "updateValue+007" n ∧ Denotes " updateValue 7" n) ∧
      parse "updateValue - 5" = .error (.malformedValue "- 5") ∧
      ¬ ∃ n, Numeral "- 5".toList n := by
  intro number
  obtain ⟨hreads, hwritten, hsame⟩ := parse_follows_grammar
  have hbefore : Text.AllBlank "\u00A0\t".toList := by decide
  have hbetween : Text.AllBlank "\u3000".toList := by decide
  have hafter : Text.AllBlank "\n".toList := by decide
  have hnumber : number.toList.filter (· ≠ '_') = (toString Int32.minValue.toInt).toList := by
    decide +kernel
  have hsigned : parse "updateValue+007" = .ok ⟨7⟩ := by decide +kernel
  have hplain : parse " updateValue 7" = .ok ⟨7⟩ := by decide +kernel
  have hmalformed : parse "updateValue - 5" = .error (.malformedValue "- 5") := by decide +kernel
  refine ⟨hbefore, hbetween, hafter, hnumber,
    hwritten _ _ _ number _ hbefore hbetween hafter hnumber, hsigned, hplain,
    (hsame _ _ _ _ hsigned hplain).mp rfl, hmalformed, ?_⟩
  obtain ⟨trimmed, htrims, _, hrest⟩ := hreads "updateValue - 5"
  have htrimmed : trimmed = keyword.toList ++ " - 5".toList :=
    (Text.trim_eq_iff.mpr htrims).symm.trans (by decide +kernel)
  obtain ⟨argument, hargument, _, _, hiff⟩ := hrest _ htrimmed
  have hsplit : argument = "- 5".toList :=
    (Text.trim_eq_iff.mpr hargument).symm.trans (by decide +kernel)
  rw [hsplit] at hiff
  exact hiff.mp hmalformed

end GroundStation.Command
