import Abacus.Proofs.Derivation
import Abacus.Proofs.Joining
import Abacus.Proofs.Splicing

/-! Symbols that can be written. A source text is read in capitals, and so its lexemes are their own
capitals. The name of a function is in capitals, and it is read as the function. An operator may be
a character that has another capital, and then no text has it among its lexemes. -/

namespace Abacus

namespace Text

private theorem marks_other :
    ['.', ',', ' ', '\t', '\r', '\n'].all (!Unicode.isAlphanumeric ·) = true := by
  decide +kernel

/-- Letters and numerals stand for no decimal point and are no layout. -/
theorem plain_of_isAlphanumeric {char : Char} (alphanumeric : Unicode.isAlphanumeric char = true) :
    isPoint char = false ∧ isLayout char = false := by
  have other : char ∉ ['.', ',', ' ', '\t', '\r', '\n'] := by
    intro mark
    have none := List.all_eq_true.mp marks_other char mark
    rw [alphanumeric] at none
    cases none
  simp only [List.mem_cons, List.not_mem_nil, or_false, not_or] at other
  simp [isPoint, isLayout, other]

theorem isBlank_of_isLayout {char : Char} (layout : isLayout char = true) :
    Unicode.isBlank char = true := by
  simp only [isLayout, Bool.or_eq_true, beq_iff_eq] at layout
  rcases layout with ((rfl | rfl) | rfl) | rfl <;> decide

/-- Without commas, points and layout, the normal form of a text is the text in capitals. -/
theorem normalized_eq_upper {text : Text}
    (plain : ∀ char ∈ text, isPoint char = false ∧ isLayout char = false) :
    text.normalized = Unicode.upper text := by
  have points : text.map withPoint = text.map id :=
    List.map_congr_left fun char member => by simp [withPoint, (plain char member).1]
  have visible : text.filter (!isLayout ·) = text :=
    List.filter_eq_self.mpr fun char member => by simp [(plain char member).2]
  rw [normalized, points, List.map_id, visible]

/-- The name of a function is in normal form. -/
theorem normalized_of_isFunctionName {name : Text} (valid : name.isFunctionName = true) :
    name.normalized = name := by
  simp only [isFunctionName, Bool.and_eq_true, beq_iff_eq, List.all_eq_true] at valid
  obtain ⟨⟨capitals, -⟩, alphanumeric⟩ := valid
  rw [normalized_eq_upper fun char member => plain_of_isAlphanumeric (alphanumeric char member),
    capitals]

/-- The normal form of an operator is its capital. -/
theorem normalized_of_isOperatorSymbol {symbol : Text} (valid : symbol.isOperatorSymbol = true) :
    symbol.normalized = Unicode.upper symbol := by
  obtain ⟨char, rfl, -, visible, point, -⟩ := isOperatorSymbol_iff.mp valid
  have layout : isLayout char = false := by
    rw [Bool.eq_false_iff]
    intro layout
    rw [isBlank_of_isLayout layout] at visible
    cases visible
  exact normalized_eq_upper (by simp [point, layout])

end Text

namespace Registry
variable {registry : Registry}

theorem isSymbol_of_binary {symbol : Text} (binary : symbol ∈ registry.binary.keys) :
    registry.isSymbol symbol = true := by
  simp [isSymbol, isBinary, Table.contains_iff.mpr binary]

theorem isSymbol_of_unary {symbol : Text} (unary : symbol ∈ registry.unary.keys) :
    registry.isSymbol symbol = true := by
  simp [isSymbol, isUnary, Table.contains_iff.mpr unary]

/-- Lexemes are in normal form. -/
theorem normalized_of_mem_lexemes {source lexeme : Text} {lexemes : List Text}
    (lexed : registry.lexemes source = .ok lexemes) (member : lexeme ∈ lexemes) :
    lexeme.normalized = lexeme := by
  have inside : lexeme ⊆ source.normalized := by
    rw [← flatten_of_lexemes lexed]
    exact (List.infix_of_mem_flatten member).subset
  exact Text.normalized_of_subset inside

/-- Lexemes in normal form that stand apart are read as they are joined. -/
theorem lexemes_of_apart {lexemes : List Text}
    (known : ∀ lexeme ∈ lexemes, registry.isLexeme lexeme = true)
    (normal : ∀ lexeme ∈ lexemes, lexeme.normalized = lexeme)
    (apart : lexemes.IsChain registry.Apart) :
    registry.lexemes lexemes.flatten = .ok lexemes :=
  lexemes_eq_ok_iff.mpr ⟨(Text.normalized_flatten normal).symm, (cut_iff known).mpr apart⟩

/-- A lexeme is read alone exactly if it is in normal form. -/
theorem lexemes_alone_iff {lexeme : Text} (known : registry.isLexeme lexeme = true) :
    registry.lexemes lexeme = .ok [lexeme] ↔ lexeme.normalized = lexeme := by
  constructor
  · intro lexed
    exact normalized_of_mem_lexemes lexed (List.mem_singleton.mpr rfl)
  · intro normal
    have read := @lexemes_of_apart registry [lexeme] (by simp [known]) (by simp [normal])
      (.singleton lexeme)
    simpa using read

/-- Whatever is followed by a symbol stands apart from it. -/
theorem apart_of_isSymbol (lexeme : Text) {symbol : Text}
    (known : registry.isSymbol symbol = true) : registry.Apart lexeme symbol := by
  obtain ⟨char, rfl, -⟩ := exists_char_of_isSymbol known
  rintro - _ ⟨⟩
  exact ⟨isNumeral_symbol lexeme known,
    isViable_concat_eq_false_iff.mp (isViable_symbol lexeme known)⟩

/-- A symbol stands apart from whatever follows it. -/
theorem isSymbol_apart {symbol : Text} (known : registry.isSymbol symbol = true)
    (following : Text) : registry.Apart symbol following := by
  intro word
  rw [isWord_eq_false_of_isSymbol known] at word
  cases word

/-- The terms of an operator between two numbers in brackets. -/
def between (symbol : Text) : List Term :=
  [⟨['('], .opening⟩, ⟨['1'], .number⟩, ⟨[')'], .closing⟩, ⟨symbol, .binary⟩,
    ⟨['('], .opening⟩, ⟨['2'], .number⟩, ⟨[')'], .closing⟩]

theorem terms_between {symbol : Text} (binary : symbol ∈ registry.binary.keys) :
    registry.terms ((between symbol).map Term.text) = .ok (between symbol) := by
  have letters : Unicode.isLetter '1' = false ∧ Unicode.isLetter '2' = false := by decide +kernel
  have one := @role_digit registry (some .opening) '1' letters.1 (by decide)
  have two := @role_digit registry (some .opening) '2' letters.2 (by decide)
  have operator := @role_binary registry (some .closing) symbol binary rfl
  have closing (previous : Option Role) : registry.role previous [')'] = .ok .closing :=
    role_closing previous
  simp only [between, List.map_cons, List.map_nil, terms, termsAfter, role_opening, closing, one,
    two, operator, bind, Except.bind, pure, Except.pure]

/-- Brackets, digits and the operator are read one by one, since each digit stands in front of a
bracket. -/
theorem lexemes_between {symbol : Text} (binary : symbol ∈ registry.binary.keys)
    (normal : symbol.normalized = symbol) :
    registry.lexemes ("(1)".toList ++ symbol ++ "(2)".toList) =
      .ok ((between symbol).map Term.text) := by
  have opening : registry.isSymbol ['('] = true := isSymbol_bracket (by decide)
  have closing : registry.isSymbol [')'] = true := isSymbol_bracket (by decide)
  have operator := isSymbol_of_binary binary
  have numbers : Text.isNumeral ['1'] = true ∧ Text.isNumeral ['2'] = true := by decide
  have normals : Text.normalized ['('] = ['('] ∧ Text.normalized [')'] = [')'] ∧
      Text.normalized ['1'] = ['1'] ∧ Text.normalized ['2'] = ['2'] := by decide +kernel
  have apart : ((between symbol).map Term.text).IsChain registry.Apart := by
    simp [between, isSymbol_apart opening, isSymbol_apart closing, isSymbol_apart operator,
      apart_of_isSymbol _ closing]
  have read := @lexemes_of_apart registry ((between symbol).map Term.text)
    (by simp [between, isLexeme, isWord, opening, closing, operator, numbers])
    (by simp [between, normals, normal]) apart
  simpa [between] using read

/-- Every function is read where its name is written. An operator can be written exactly if it is
its own capital: then it is read where it stands, alone and between two operands, and otherwise no
text has it among its lexemes. -/
theorem lexemes_registered_iff (registry : Registry) :
    (∀ name ∈ registry.functions.keys, registry.lexemes name = .ok [name]) ∧
    (∀ symbol ∈ registry.binary.keys ++ registry.unary.keys,
      (registry.lexemes symbol = .ok [symbol] ↔ Unicode.upper symbol = symbol) ∧
      ((∃ source lexemes, registry.lexemes source = .ok lexemes ∧ symbol ∈ lexemes) ↔
        Unicode.upper symbol = symbol)) ∧
    ∀ symbol ∈ registry.binary.keys,
      (registry.lexemes ("(1)".toList ++ symbol ++ "(2)".toList) =
          .ok ((between symbol).map Term.text) ∧
        registry.terms ((between symbol).map Term.text) = .ok (between symbol)) ↔
        Unicode.upper symbol = symbol := by
  have capital {symbol : Text} (member : symbol ∈ registry.binary.keys ++ registry.unary.keys) :
      symbol.normalized = Unicode.upper symbol :=
    Text.normalized_of_isOperatorSymbol (registry.symbols_valid symbol member)
  refine ⟨?_, ?_, ?_⟩
  · intro name known
    have word : registry.isLexeme name = true := by
      simp [isLexeme, isWord, isFunction, Table.contains_iff.mpr known]
    exact (lexemes_alone_iff word).mpr
      (Text.normalized_of_isFunctionName (registry.names_valid name known))
  · intro symbol member
    have known : registry.isLexeme symbol = true := by
      rcases List.mem_append.mp member with binary | unary
      · simp [isLexeme, isSymbol_of_binary binary]
      · simp [isLexeme, isSymbol_of_unary unary]
    have alone := lexemes_alone_iff known
    rw [capital member] at alone
    refine ⟨alone, ?_, ?_⟩
    · rintro ⟨source, lexemes, lexed, inside⟩
      rw [← capital member]
      exact normalized_of_mem_lexemes lexed inside
    · intro same
      exact ⟨symbol, [symbol], alone.mpr same, by simp⟩
  · intro symbol binary
    rw [← capital (List.mem_append_left _ binary)]
    constructor
    · rintro ⟨lexed, -⟩
      exact normalized_of_mem_lexemes lexed (by simp [between])
    · intro normal
      exact ⟨lexemes_between binary normal, terms_between binary⟩

/-- A function with numerals in its name and the percent sign can be written. -/
theorem lexemes_registered_remainder :
    let registry := Registry.standard.derived
      [.function "LOG10".toList (some Unary.logarithm), .binary ['%'] (some Binary.modulo) none]
    "LOG10".toList ∈ registry.functions.keys ∧ ['%'] ∈ registry.binary.keys ∧
    Unicode.upper ['%'] = ['%'] ∧
    registry.lexemes "LOG10".toList = .ok ["LOG10".toList] ∧
    registry.lexemes ['%'] = .ok [['%']] ∧
    registry.lexemes "(1)%(2)".toList = .ok ((between ['%']).map Term.text) := by
  intro registry
  have fixed : Unicode.upper ['%'] = ['%'] := by decide +kernel
  obtain ⟨function, binary⟩ : "LOG10".toList ∈ registry.functions.keys ∧
      ['%'] ∈ registry.binary.keys := by decide +kernel
  obtain ⟨named, alone, pair⟩ := lexemes_registered_iff registry
  exact ⟨function, binary, fixed, named _ function,
    (alone ['%'] (List.mem_append_left _ binary)).1.mpr fixed, ((pair ['%'] binary).mpr fixed).1⟩

/-- An encircled small letter can be an operator, but it is read as the encircled capital. -/
theorem lexemes_encircled :
    let registry := Registry.standard.derived [.binary ['ⓐ'] (some Binary.modulo) none]
    ['ⓐ'] ∈ registry.binary.keys ∧
    registry.lexemes ['ⓐ'] = .error (.unrecognized ['Ⓐ'] 0) ∧
    registry.lexemes "(1)ⓐ(2)".toList = .error (.unrecognized ['Ⓐ'] 3) := by
  decide +kernel

end Registry
end Abacus
