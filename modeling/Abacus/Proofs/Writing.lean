import Abacus.Lexeme
import Abacus.Proofs.Normality
import Abacus.Proofs.Spelling
import Abacus.Term.Classified

/-! Symbols in a source text: which symbols can be written, and how a symbol is read where it
stands. -/

namespace Abacus

/-- Some source text reads as the symbol. -/
def Writable (symbol : Text) : Prop :=
  ∃ source : Text, source.normalized = symbol

/-- A character that stands in a normal form can be written. -/
theorem writable_of_mem_normalized {source : Text} {char : Char}
    (member : char ∈ source.normalized) : Writable [char] :=
  ⟨[char], Text.normalized_of_settled (by simpa using Text.settled_of_mem_normalized member)⟩

namespace Registry
variable {registry : Registry}

/-- A symbol is read by itself, whatever follows it. -/
theorem next_symbol {char : Char} (symbol : registry.isSymbol [char] = true)
    (other : Unicode.isDigit char = false) (position : Nat) (rest : Text) :
    registry.next position (char :: rest) = .ok ([char], rest) := by
  simp [next, Text.numeral_other other, scan, symbol]

theorem next_digit {digit : Char} {rest : Text} (isDigit : Unicode.isDigit digit = true)
    (stop : ∀ char ∈ rest.head?, Unicode.isDigit char = false ∧ char ≠ '.') (position : Nat) :
    registry.next position (digit :: rest) = .ok ([digit], rest) := by
  simp [next, Text.numeral_digit isDigit stop]

theorem lexemesFrom_cons {position : Nat} {text lexeme rest : Text}
    (found : registry.next position text = .ok (lexeme, rest)) :
    registry.lexemesFrom position text =
      (registry.lexemesFrom (position + lexeme.length) rest).map (lexeme :: ·) := by
  have shorter := next_shorter found
  rw [lexemesFrom]
  split
  · rename_i empty
    simp [List.isEmpty_iff.mp empty] at shorter
  · split <;> simp_all

/-- A digit, an operator and another digit behind a bracket are read one by one. -/
theorem lexemes_pair {symbol source : Text} (binary : symbol ∈ registry.binary.keys)
    (written : source.normalized = symbol) :
    registry.lexemes (['(', '1'] ++ source ++ ['2']) = .ok [['('], ['1'], symbol, ['2']] := by
  obtain ⟨char, rfl, valid⟩ := exists_char_of_binary binary
  obtain ⟨-, digit, point, -⟩ := Text.operator_char valid
  have front : Text.normalized ['(', '1'] = ['(', '1'] := by decide +kernel
  have back : Text.normalized ['2'] = ['2'] := by decide +kernel
  have symbol : registry.isSymbol [char] = true := by
    simp [isSymbol, isBinary, Table.contains_iff.mpr binary]
  have bracket : registry.isSymbol ['('] = true := by
    simp [isSymbol, Text.isBracket, Text.openingBracket]
  rw [lexemes, Text.normalized_append, Text.normalized_append, front, back, written]
  simp only [List.cons_append, List.nil_append]
  rw [lexemesFrom_cons (next_symbol bracket (by decide) 0 _),
    lexemesFrom_cons (next_digit (by decide) (by simp [digit, point]) _),
    lexemesFrom_cons (next_symbol symbol digit _ _),
    lexemesFrom_cons (next_digit (by decide) (by simp) _), lexemesFrom_nil]
  rfl

/-- An opening bracket is an opening bracket, whatever is registered. -/
theorem role_opening (previous : Option Role) : registry.role previous ['('] = .ok .opening := by
  have letter : Unicode.isLetter '(' = false := by decide +kernel
  have digit : Unicode.isDigit '(' = false := by decide
  simp [role, isFunction_eq_false letter, Text.isVariable_eq_false letter,
    Text.isNumeral_eq_false digit, Text.openingBracket]

/-- A closing bracket is a closing bracket, whatever is registered. -/
theorem role_closing (previous : Option Role) :
    registry.role previous Text.closingBracket = .ok .closing := by
  have letter : Unicode.isLetter ')' = false := by decide +kernel
  have digit : Unicode.isDigit ')' = false := by decide
  simp [role, Text.closingBracket, Text.openingBracket, isFunction_eq_false letter,
    Text.isVariable_eq_false letter, Text.isNumeral_eq_false digit]

theorem role_digit (previous : Option Role) {char : Char} (letter : Unicode.isLetter char = false)
    (digit : Unicode.isDigit char = true) : registry.role previous [char] = .ok .number := by
  have numeral : Text.numeral [char] = ([char], []) := Text.numeral_digit digit (by simp)
  simp [role, isFunction_eq_false letter, Text.isNumeral, numeral]

/-- A binary operator is binary where no operand is due. -/
theorem role_binary {previous : Option Role} {symbol : Text}
    (binary : symbol ∈ registry.binary.keys) (due : operandDue previous = false) :
    registry.role previous symbol = .ok .binary := by
  have known : registry.isBinary symbol = true := Table.contains_iff.mpr binary
  obtain ⟨char, rfl, valid⟩ := exists_char_of_binary binary
  obtain ⟨letter, digit, -, bracket⟩ := Text.operator_char valid
  simp only [Text.isBracket, Bool.or_eq_false_iff, beq_eq_false_iff_ne] at bracket
  simp [role, isFunction_eq_false letter, Text.isVariable_eq_false letter,
    Text.isNumeral_eq_false digit, bracket, known, operatorRole, due]

/-- The terms of a digit, an operator and another digit behind a bracket. -/
def pair (symbol : Text) : List Term :=
  [⟨['('], .opening⟩, ⟨['1'], .number⟩, ⟨symbol, .binary⟩, ⟨['2'], .number⟩]

theorem terms_pair {symbol : Text} (binary : symbol ∈ registry.binary.keys) :
    registry.terms [['('], ['1'], symbol, ['2']] = .ok (pair symbol) := by
  have letters : Unicode.isLetter '1' = false ∧ Unicode.isLetter '2' = false := by decide +kernel
  have one := @role_digit registry (some .opening) '1' letters.1 (by decide)
  have two := @role_digit registry (some .binary) '2' letters.2 (by decide)
  have operator := @role_binary registry (some .number) symbol binary rfl
  simp only [terms, termsAfter, role_opening, operator, one, two, bind, Except.bind, pure,
    Except.pure]
  rfl

end Registry
end Abacus
