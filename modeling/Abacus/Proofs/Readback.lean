import Abacus.Proofs.Nesting
import Abacus.Proofs.Placement
import Abacus.Proofs.Substitution

/-! Traces are read back. The pieces of a trace between the spaces show one term each: the mark and
one character are a unary operator, and any other piece is what its text is behind an operand. So
a trace shows one program only. -/

namespace Abacus

namespace Registry
variable {registry : Registry}

/-- The term that a piece of a trace shows. -/
def readPiece (registry : Registry) (piece : Text) : Except SyntaxError Term :=
  if piece.head? = some Term.unaryMark ∧ piece.length = 2 then .ok ⟨piece.tail, .unary⟩
  else (registry.role (some .number) piece).map fun role => ⟨piece, role⟩

/-- The program that a trace shows. -/
def readTrace (registry : Registry) (trace : Text) : Except SyntaxError (List Term) :=
  (trace.splitOn ' ').mapM registry.readPiece

/-- Unary operators are single characters. -/
theorem exists_char_of_unary {symbol : Text} (unary : symbol ∈ registry.unary.keys) :
    ∃ char, symbol = [char] ∧ Text.isOperatorSymbol [char] = true := by
  have valid := registry.symbols_valid symbol (List.mem_append_right _ unary)
  obtain ⟨char, rfl, -⟩ := Text.isOperatorSymbol_iff.mp valid
  exact ⟨char, rfl, valid⟩

/-- A lexeme that is not read as a unary operator is read in the same way behind an operand. -/
theorem role_behind {previous behind : Option Role} {lexeme : Text} {role : Role}
    (found : registry.role previous lexeme = .ok role) (other : role ≠ .unary)
    (due : operandDue behind = false) : registry.role behind lexeme = .ok role := by
  by_cases operator : registry.isOperator lexeme = true
  · rw [role_operator operator, operatorRole] at found ⊢
    split at found
    · split at found
      · cases found
        exact absurd rfl other
      · cases found
    · simpa [due] using found
  · rw [isOperator] at operator
    simpa [Registry.role, operator] using found

theorem Plays.isLexeme {previous : Option Role} {lexeme : Text} {role : Role}
    (plays : registry.Plays previous lexeme role) : registry.isLexeme lexeme = true := by
  cases plays with
  | function known => simp [Registry.isLexeme, isWord, known]
  | number numeral => simp [Registry.isLexeme, isWord, numeral]
  | letter named => simp [Registry.isLexeme, isWord, named]
  | opening bracket | closing bracket =>
    have symbol : registry.isSymbol lexeme = true := isSymbol_bracket (by rw [bracket]; decide)
    simp [Registry.isLexeme, symbol]
  | unary _ known | binary _ known => simp [Registry.isLexeme, isSymbol, known]

/-- No lexeme is the mark with one character behind it. -/
theorem not_marked_of_isLexeme {lexeme : Text} (known : registry.isLexeme lexeme = true) :
    ¬(lexeme.head? = some Term.unaryMark ∧ lexeme.length = 2) := by
  intro ⟨marked, long⟩
  rcases Bool.or_eq_true_iff.mp known with symbol | word
  · obtain ⟨char, rfl, -⟩ := exists_char_of_isSymbol symbol
    cases long
  · have mark : Unicode.isLetter Term.unaryMark = false ∧
        Unicode.isDigit Term.unaryMark = false := by decide +kernel
    obtain ⟨rest, rfl⟩ := List.head?_eq_some_iff.mp marked
    rw [isWord_of_isDigit_eq_false mark.2] at word
    have letter := isLetter_of_isViable (isViable_of_isName word)
    rw [mark.1] at letter
    cases letter

theorem isBlank_eq_false_of_isSymbol {char : Char} (symbol : registry.isSymbol [char] = true) :
    Unicode.isBlank char = false := by
  rw [isSymbol_eq] at symbol
  rcases Bool.or_eq_true_iff.mp symbol with operator | bracket
  · obtain ⟨other, same, -, visible, -⟩ :=
      Text.isOperatorSymbol_iff.mp (isOperatorSymbol_of_isOperator operator)
    rw [List.singleton_inj.mp same]
    exact visible
  · simp only [Text.isBracket, Text.openingBracket, Text.closingBracket, Bool.or_eq_true,
      beq_iff_eq, List.cons.injEq, and_true] at bracket
    rcases bracket with rfl | rfl
    · decide
    · decide

/-- No lexeme holds a space. -/
theorem space_not_mem_of_isLexeme {lexeme : Text} (known : registry.isLexeme lexeme = true) :
    ' ' ∉ lexeme := by
  intro member
  rcases Bool.or_eq_true_iff.mp known with symbol | word
  · obtain ⟨char, rfl, -⟩ := exists_char_of_isSymbol symbol
    have visible := isBlank_eq_false_of_isSymbol symbol
    rw [← List.mem_singleton.mp member] at visible
    cases visible
  · have space : Unicode.isAlphanumeric ' ' = false ∧ Unicode.isDigit ' ' = false := by
      decide +kernel
    by_cases numeral : lexeme.isNumeral = true
    · rcases Text.digit_or_point numeral ' ' member with digit | point
      · rw [space.2] at digit
        cases digit
      · cases point
    · have named : registry.isName lexeme = true := by simpa [isWord, isName, numeral] using word
      have inside := isAlphanumeric_of_isViable (isViable_of_isName named) ' ' member
      rw [space.1] at inside
      cases inside

/-- A term is read back from the piece that shows it. -/
theorem readPiece_shown {previous : Option Role} {term : Term}
    (found : registry.role previous term.text = .ok term.role) :
    registry.readPiece term.shown = .ok term := by
  obtain ⟨text, role⟩ := term
  have plays := plays_of_role found
  by_cases unary : role = .unary
  · subst unary
    cases plays with
    | unary _ known =>
      obtain ⟨char, rfl, -⟩ := exists_char_of_unary (Table.contains_iff.mp known)
      rfl
  · rw [Term.shown, if_neg unary, readPiece, if_neg (not_marked_of_isLexeme plays.isLexeme),
      role_behind found unary rfl]
    rfl

/-- No term is shown with a space. -/
theorem space_not_mem_shown {term : Term} (known : registry.isLexeme term.text = true) :
    ' ' ∉ term.shown := by
  have absent := space_not_mem_of_isLexeme known
  rw [Term.shown]
  split
  · exact List.not_mem_cons_of_ne_of_not_mem (by decide) absent
  · exact absent

/-- What is shown term by term is read back piece by piece. -/
theorem readTrace_of_roles {program : List Term} (nonempty : program ≠ [])
    (found : ∀ term ∈ program, ∃ previous, registry.role previous term.text = .ok term.role) :
    registry.readTrace (Term.trace program) = .ok program := by
  have pieces : (Term.trace program).splitOn ' ' = program.map Term.shown := by
    apply List.splitOn_intercalate
    · intro piece member
      obtain ⟨term, inside, rfl⟩ := List.mem_map.mp member
      obtain ⟨previous, read⟩ := found term inside
      exact space_not_mem_shown (plays_of_role read).isLexeme
    · simpa using nonempty
  rw [readTrace, pieces]
  clear pieces nonempty
  induction program with
  | nil => rfl
  | cons term program ih =>
    obtain ⟨previous, read⟩ := found term (by simp)
    have later := ih fun other member => found other (by simp [member])
    rw [List.map_cons, List.mapM_cons, readPiece_shown read, later]
    rfl

theorem exists_role_of_termsAfter {previous : Option Role} {lexemes : List Text}
    {terms : List Term} (found : registry.termsAfter previous lexemes = .ok terms) :
    ∀ term ∈ terms, ∃ before, registry.role before term.text = .ok term.role := by
  induction lexemes generalizing previous terms with
  | nil =>
    cases found
    simp
  | cons lexeme lexemes ih =>
    obtain ⟨role, later, plays, others, rfl⟩ := exists_of_termsAfter_cons found
    exact List.forall_mem_cons.mpr ⟨⟨previous, plays⟩, ih others⟩

end Registry

namespace Expression
variable {registry : Registry}

theorem readTrace_of_compile {source : Text} {program : List Term}
    (found : compile registry source = .ok program) :
    registry.readTrace (Term.trace program) = .ok program := by
  obtain ⟨lexemes, terms, -, classified, arranged⟩ := exists_of_compile found
  obtain ⟨arrangement, depth⟩ := Program.arranged_eq_ok_iff.mp arranged
  apply Registry.readTrace_of_roles
  · intro empty
    rw [empty] at depth
    cases depth
  · intro term member
    have inside : term ∈ terms := by
      simpa using Program.mem_of_arrangedFrom arrangement member
    exact Registry.exists_role_of_termsAfter classified term inside

/-- The program of an expression is read back from its trace. So expressions of a registry with
equal traces have equal programs, and the same value under every store. -/
theorem readTrace_trace (registry : Registry) :
    (∀ source expression, parse registry source = .ok expression →
      registry.readTrace expression.trace = .ok expression.program) ∧
    ∀ source other expression otherExpression, parse registry source = .ok expression →
      parse registry other = .ok otherExpression → expression.trace = otherExpression.trace →
      expression.program = otherExpression.program ∧
      ∀ store, expression.value store = otherExpression.value store := by
  have back {source : Text} {expression : Expression}
      (accepted : parse registry source = .ok expression) :
      registry.readTrace expression.trace = .ok expression.program := by
    obtain ⟨program, compiled, rfl⟩ := exists_of_parse accepted
    exact readTrace_of_compile compiled
  refine ⟨fun source expression => back, ?_⟩
  intro source other expression otherExpression accepted otherAccepted same
  have shown := back accepted
  rw [same, back otherAccepted, Except.ok.injEq] at shown
  refine ⟨shown.symm, ?_⟩
  intro store
  obtain ⟨program, -, rfl⟩ := exists_of_parse accepted
  obtain ⟨otherProgram, -, rfl⟩ := exists_of_parse otherAccepted
  rw [value, value, shown]

/-- Where the mark itself is a unary and a binary operator, the trace of `'2'-'3` shows it in both
roles, and with brackets the text has the same trace. -/
theorem readTrace_mark :
    let registry := Registry.standard.derived
      [.unary ['\''] (some Unary.magnitude), .binary ['\''] (some Binary.modulo) none]
    ∃ expression other, parse registry "'2'-'3".toList = .ok expression ∧
      parse registry "('2)'(-('3))".toList = .ok other ∧
      expression.trace = "2 '' 3 '' '- '".toList ∧ other.trace = expression.trace ∧
      registry.readTrace expression.trace = .ok expression.program ∧
      ∀ store, expression.value store = other.value store := by
  intro registry
  let program : List Term := [⟨['2'], .number⟩, ⟨['\''], .unary⟩, ⟨['3'], .number⟩,
    ⟨['\''], .unary⟩, ⟨['-'], .unary⟩, ⟨['\''], .binary⟩]
  obtain ⟨compiled, otherCompiled⟩ : compile registry "'2'-'3".toList = .ok program ∧
      compile registry "('2)'(-('3))".toList = .ok program := by decide +kernel
  have accepted := parse_of_compile compiled
  have otherAccepted := parse_of_compile otherCompiled
  have shown : Term.trace program = "2 '' 3 '' '- '".toList := by decide +kernel
  obtain ⟨back, same⟩ := readTrace_trace registry
  exact ⟨_, _, accepted, otherAccepted, shown, rfl, back _ _ accepted,
    (same _ _ _ _ accepted otherAccepted rfl).2⟩

end Expression
end Abacus
