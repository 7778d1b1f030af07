import Abacus.Datum
import Abacus.Lexeme.Numeral
import Mathlib.Data.List.TakeWhile

/-! Number literals denote numbers: the reader of numbers takes every literal as a whole. -/

namespace Abacus

namespace Unicode

/-- A digit is one of ten behind the zero of its script. -/
theorem exists_zero {char : Char} (digit : isDigit char = true) :
    ∃ start ∈ zeros, start ≤ char.toNat ∧ char.toNat < start + 10 := by
  rw [isDigit, digitValue?, Option.isSome_map, List.find?_isSome] at digit
  obtain ⟨start, member, within⟩ := digit
  simp only [Bool.and_eq_true, decide_eq_true_eq] at within
  exact ⟨start, member, within⟩

/-- No digit is a blank. -/
theorem isBlank_of_isDigit {char : Char} (digit : isDigit char = true) : isBlank char = false := by
  have apart : ∀ start ∈ zeros, ∀ span ∈ blankSpans, start + 10 ≤ span.1 ∨ span.2 < start := by
    decide
  obtain ⟨start, member, within⟩ := exists_zero digit
  rw [isBlank, Bool.eq_false_iff, ne_eq, covers_iff]
  rintro ⟨span, present, low, high⟩
  rcases apart start member span present with before | after <;> omega

private theorem letters_beside_digits : (letterSpans.all fun span => zeros.all fun start =>
    Nat.blt span.2 start || Nat.ble (start + 10) span.1) = true := by
  decide +kernel

/-- No digit is a letter. -/
theorem isDigit_eq_false_of_isLetter {char : Char} (letter : isLetter char = true) :
    isDigit char = false := by
  rw [Bool.eq_false_iff]
  intro digit
  obtain ⟨start, member, within⟩ := exists_zero digit
  obtain ⟨span, present, low, high⟩ := covers_iff.mp letter
  have beside := List.all_eq_true.mp
    (List.all_eq_true.mp letters_beside_digits span present) start member
  simp only [Bool.or_eq_true, Nat.blt_eq, Nat.ble_eq] at beside
  omega

end Unicode

/-- Decimal digits only. -/
def Digits (text : Text) : Prop :=
  ∀ char ∈ text, Unicode.isDigit char = true

/-- A number literal is made of digits, and maybe a point with more digits behind it. -/
theorem Text.exists_digits_of_isNumeral {text : Text} (numeral : text.isNumeral = true) :
    ∃ whole, whole ≠ [] ∧ Digits whole ∧
      (text = whole ∨ ∃ fraction, Digits fraction ∧ text = whole ++ '.' :: fraction) := by
  have parts := List.takeWhile_append_dropWhile (p := Unicode.isDigit) (l := text)
  have digits : Digits (text.takeWhile Unicode.isDigit) := fun _ => List.mem_takeWhile_imp
  unfold Text.isNumeral Text.numeral at numeral
  generalize text.takeWhile Unicode.isDigit = whole at parts digits numeral
  generalize text.dropWhile Unicode.isDigit = rest at parts numeral
  cases whole with
  | nil => simp at numeral
  | cons digit whole =>
    refine ⟨digit :: whole, by simp, digits, ?_⟩
    cases rest with
    | nil => exact .inl (by simpa using parts.symm)
    | cons char rest =>
      by_cases point : char = '.'
      · subst point
        have last : rest.dropWhile Unicode.isDigit = [] := by simpa using numeral
        refine .inr ⟨rest, ?_, parts.symm⟩
        exact List.dropWhile_eq_nil_iff.mp last
      · simp [point] at numeral

/-- Nothing but digits and a point stands in a number literal. -/
theorem Text.digit_or_point {text : Text} (numeral : text.isNumeral = true) :
    ∀ char ∈ text, Unicode.isDigit char = true ∨ char = '.' := by
  obtain ⟨whole, -, digits, same⟩ := Text.exists_digits_of_isNumeral numeral
  intro char member
  rcases same with rfl | ⟨fraction, fractionDigits, rfl⟩
  · exact .inl (digits char member)
  · rcases List.mem_append.mp member with left | right
    · exact .inl (digits char left)
    · rcases List.mem_cons.mp right with point | later
      · exact .inr point
      · exact .inl (fractionDigits char later)

/-- A text without characters of a class keeps both of its ends. -/
theorem Text.trim_eq_self {class? : Char → Bool} {text : Text}
    (none : ∀ char ∈ text, class? char = false) : text.trim class? = text := by
  have kept {text : Text} (none : ∀ char ∈ text, class? char = false) :
      text.dropWhile class? = text := by
    cases text with
    | nil => rfl
    | cons char rest => simp [none char (by simp)]
  rw [Text.trim, kept none, kept (by simpa using none), List.reverse_reverse]

namespace Decimal

/-- A run of digits is read up to a point or the end. -/
theorem exists_digitRun {digits rest : Text} (all : Digits digits)
    (stop : ∀ char ∈ rest.head?, char = '.') (inside : Bool) :
    ∃ values, digitRun inside (digits ++ rest) = (values, rest) ∧
      values.length = digits.length := by
  induction digits generalizing inside with
  | nil =>
    refine ⟨[], ?_, rfl⟩
    cases rest with
    | nil => rfl
    | cons char rest =>
      obtain rfl := stop char rfl
      have other : Unicode.digitValue? '.' = none := by decide
      simp [digitRun, other]
  | cons digit digits ih =>
    obtain ⟨value, found⟩ := Option.isSome_iff_exists.mp (all digit (by simp))
    obtain ⟨values, run, length⟩ := ih (fun char member => all char (by simp [member])) true
    exact ⟨value :: values, by simp [digitRun, found, run], by simp [length]⟩

/-- A number literal is read as a magnitude. -/
theorem isSome_readMagnitude? {text : Text} (numeral : text.isNumeral = true) :
    (readMagnitude? text).isSome = true := by
  obtain ⟨whole, nonempty, digits, same⟩ := Text.exists_digits_of_isNumeral numeral
  have present {values : List Nat} (length : values.length = whole.length) : values ≠ [] := by
    rintro rfl
    exact nonempty (List.length_eq_zero_iff.mp length.symm)
  rcases same with rfl | ⟨fraction, fractionDigits, rfl⟩
  · obtain ⟨values, run, length⟩ := @exists_digitRun text [] digits (by simp) false
    rw [List.append_nil] at run
    simp [readMagnitude?, run, present length, readExponent?]
  · obtain ⟨values, run, length⟩ := @exists_digitRun whole ('.' :: fraction) digits (by simp) false
    obtain ⟨others, rest, -⟩ := @exists_digitRun fraction [] fractionDigits (by simp) false
    rw [List.append_nil] at rest
    simp [readMagnitude?, run, rest, present length, readExponent?]

/-- A number literal has no sign and no margin. -/
theorem signed_trim {text : Text} (numeral : text.isNumeral = true) :
    signed (text.trim isMargin) = (false, text) := by
  have chars := Text.digit_or_point numeral
  have inside : ∀ char ∈ text, isMargin char = false := by
    intro char member
    rcases chars char member with digit | rfl
    · simp [isMargin, Unicode.isBlank_of_isDigit digit]
    · decide
  rw [Text.trim_eq_self inside]
  unfold signed
  split
  · rcases chars '-' (by simp) with digit | point
    · exact absurd digit (by decide)
    · cases point
  · rcases chars '+' (by simp) with digit | point
    · exact absurd digit (by decide)
    · cases point
  · rfl

theorem isSome_readUnsigned? {text : Text} (numeral : text.isNumeral = true) :
    (readUnsigned? text).isSome = true := by
  simp only [readUnsigned?]
  split
  · rfl
  · split
    · rfl
    · simpa using isSome_readMagnitude? numeral

end Decimal

/-- Number literals denote numbers. -/
theorem Datum.exists_readNumber {text : Text} (numeral : text.isNumeral = true) :
    ∃ number, Datum.readNumber text = .ok number := by
  obtain ⟨magnitude, read⟩ := Option.isSome_iff_exists.mp (Decimal.isSome_readUnsigned? numeral)
  have found : Decimal.read? text = some magnitude := by
    simp [Decimal.read?, Decimal.signed_trim numeral, read]
  exact ⟨magnitude, by simp [Datum.readNumber, found]⟩

end Abacus
