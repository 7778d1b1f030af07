import Abacus.Lexeme.Numeral
import Abacus.Registry

/-! The characters that texts of each kind begin with. -/

namespace Abacus

namespace Unicode

theorem toNat_of_variable {char : Char} (capital : 'A' ≤ char ∧ char ≤ 'Z') :
    0x41 ≤ char.toNat ∧ char.toNat ≤ 0x5A :=
  ⟨UInt32.le_iff_toNat_le.mp (Char.le_def.mp capital.1),
    UInt32.le_iff_toNat_le.mp (Char.le_def.mp capital.2)⟩

private theorem capital_letters : ∀ place ∈ List.range 26,
    capital (Char.ofNat (0x41 + place)) = [Char.ofNat (0x41 + place)] := by
  decide +kernel

/-- The letters from A to Z are their own capitals. -/
theorem capital_of_variable {char : Char} (isCapital : 'A' ≤ char ∧ char ≤ 'Z') :
    capital char = [char] := by
  obtain ⟨low, high⟩ := toNat_of_variable isCapital
  have fixed := capital_letters (char.toNat - 0x41) (List.mem_range.mpr (by omega))
  have same : 0x41 + (char.toNat - 0x41) = char.toNat := by omega
  rw [same, Char.ofNat_toNat] at fixed
  exact fixed

theorem isLetter_of_variable {char : Char} (isCapital : 'A' ≤ char ∧ char ≤ 'Z') :
    isLetter char = true :=
  covers_iff.mpr ⟨(0x41, 0x5A), by decide, toNat_of_variable isCapital⟩

end Unicode

namespace Text

/-- A number literal ends in front of what is neither a digit nor a point. -/
theorem numeral_digit {digit : Char} {rest : Text} (isDigit : Unicode.isDigit digit = true)
    (stop : ∀ char ∈ rest.head?, Unicode.isDigit char = false ∧ char ≠ '.') :
    Text.numeral (digit :: rest) = ([digit], rest) := by
  cases rest with
  | nil => simp [numeral, isDigit]
  | cons char rest =>
    obtain ⟨other, point⟩ := stop char rfl
    simp [numeral, isDigit, other, point]

/-- No number literal begins with anything but a digit. -/
theorem numeral_other {char : Char} {rest : Text} (other : Unicode.isDigit char = false) :
    Text.numeral (char :: rest) = ([], char :: rest) := by
  simp [numeral, other]

/-- An operator is no letter, no digit, and no point. -/
theorem operator_char {char : Char} (symbol : isOperatorSymbol [char] = true) :
    Unicode.isLetter char = false ∧ Unicode.isDigit char = false ∧ char ≠ '.' ∧
      isBracket [char] = false := by
  obtain ⟨_, same, alphanumeric, -, point, bracket⟩ := isOperatorSymbol_iff.mp symbol
  obtain rfl := List.singleton_inj.mp same
  simp only [Unicode.isAlphanumeric, Bool.or_eq_false_iff] at alphanumeric
  refine ⟨alphanumeric.1.1, alphanumeric.1.2, ?_, bracket⟩
  rintro rfl
  cases point

theorem isVariable_eq_false {char : Char} (other : Unicode.isLetter char = false) :
    isVariable [char] = false := by
  rw [Bool.eq_false_iff]
  intro named
  obtain ⟨letter, found⟩ := Option.isSome_iff_exists.mp named
  obtain rfl := List.singleton_inj.mp (Variable.name_of_ofText? found)
  rw [Unicode.isLetter_of_variable letter.capital] at other
  cases other

theorem isNumeral_eq_false {char : Char} {rest : Text} (other : Unicode.isDigit char = false) :
    isNumeral (char :: rest) = false := by
  simp [isNumeral, numeral_other other]

end Text

namespace Registry
variable {registry : Registry}

/-- Functions begin with a letter. -/
theorem isFunction_eq_false {char : Char} {rest : Text}
    (other : Unicode.isLetter char = false) : registry.isFunction (char :: rest) = false := by
  rw [Bool.eq_false_iff]
  intro known
  have valid := registry.names_valid _ (Table.contains_iff.mp known)
  simp [Text.isFunctionName, other] at valid

/-- Binary operators are single characters. -/
theorem exists_char_of_binary {symbol : Text} (binary : symbol ∈ registry.binary.keys) :
    ∃ char, symbol = [char] ∧ Text.isOperatorSymbol [char] = true := by
  have valid := registry.symbols_valid symbol (List.mem_append_left _ binary)
  obtain ⟨char, rfl, -⟩ := Text.isOperatorSymbol_iff.mp valid
  exact ⟨char, rfl, valid⟩

end Registry
end Abacus
