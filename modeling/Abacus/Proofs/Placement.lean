import Abacus.Proofs.Classification
import Abacus.Proofs.Derivation
import Abacus.Proofs.Joining
import Abacus.Proofs.Meaning
import Abacus.Proofs.Splicing

/-! The places of operators. The role of an operator depends on the lexeme just before it: behind
none, an opening bracket or another operator it is unary, and behind anything else it is binary.
Lexemes have terms exactly if every operator is registered for its place, and otherwise the first
one that is not is reported. -/

namespace Abacus

theorem Role.plain_of_operandDue {role : Role}
    (due : Registry.operandDue (some role) = true) :
    role ≠ .function ∧ role.isOperand = false ∧ role ≠ .closing := by
  cases role <;> simp_all [Registry.operandDue, Role.isOperand]

namespace Registry
variable {registry : Registry}

/-- The text is an operator. -/
def isOperator (registry : Registry) (text : Text) : Bool :=
  registry.isBinary text || registry.isUnary text

/-- The place behind the lexemes is that of a prefix: there are none, or the last one is an opening
bracket or an operator. -/
def isLeading (registry : Registry) (before : List Text) : Bool :=
  before.getLast?.all fun last => last == Text.openingBracket || registry.isOperator last

/-- An operator is registered for its place: as a unary one in the place of a prefix, and as a
binary one elsewhere. Other lexemes may stand anywhere. -/
def Suits (registry : Registry) (before : List Text) (lexeme : Text) : Prop :=
  registry.isOperator lexeme = true →
    if registry.isLeading before = true then registry.isUnary lexeme = true
    else registry.isBinary lexeme = true

/-- What is said of an operator that is not registered for its place. -/
def misplaced (registry : Registry) (before : List Text) (lexeme : Text) : SyntaxError :=
  if registry.isLeading before then .notUnary lexeme else .operatorAfterOperand lexeme

/-- The role of a term follows from its text, and for an operator from its place. -/
structure Situated (registry : Registry) (before : List Text) (term : Term) : Prop where
  function : term.role = .function ↔ registry.isFunction term.text = true
  number : term.role = .number ↔ term.text.isNumeral = true
  letter : term.role = .letter ↔
    term.text.isVariable = true ∧ registry.isFunction term.text = false
  opening : term.role = .opening ↔ term.text = Text.openingBracket
  closing : term.role = .closing ↔ term.text = Text.closingBracket
  unary : term.role = .unary ↔
    registry.isOperator term.text = true ∧ registry.isLeading before = true
  binary : term.role = .binary ↔
    registry.isOperator term.text = true ∧ registry.isLeading before = false

theorem message_misplaced (before : List Text) (lexeme : Text) :
    (registry.misplaced before lexeme).message = "operator '".toList ++ lexeme ++
      (if registry.isLeading before then "' cannot be used as unary"
        else "' cannot follow an operand").toList := by
  unfold misplaced
  split
  · exact List.append_assoc ("operator '".toList ++ lexeme) "' ".toList _
  · exact List.append_assoc ("operator '".toList ++ lexeme) "' ".toList _

@[simp]
theorem isLeading_concat (before : List Text) (last : Text) :
    registry.isLeading (before ++ [last]) =
      (last == Text.openingBracket || registry.isOperator last) := by
  simp [isLeading]

/-! Texts by their kind -/

theorem isSymbol_eq (text : Text) :
    registry.isSymbol text = (registry.isOperator text || text.isBracket) := rfl

theorem isOperatorSymbol_of_isOperator {text : Text} (known : registry.isOperator text = true) :
    text.isOperatorSymbol = true := by
  simp only [isOperator, isBinary, isUnary, Bool.or_eq_true, Table.contains_iff] at known
  exact registry.symbols_valid text (List.mem_append.mpr known)

theorem Leads.isLexeme {text lexeme : Text} (leads : registry.Leads text lexeme) :
    registry.isLexeme lexeme = true := by
  cases leads with
  | symbol _ symbol => simp [Registry.isLexeme, symbol]
  | number longest => simp [Registry.isLexeme, isWord, longest.member]
  | word _ named =>
    rcases Bool.or_eq_true_iff.mp named with function | letter
    · simp [Registry.isLexeme, isWord, function]
    · simp [Registry.isLexeme, isWord, letter]

theorem Cut.isLexeme {lexemes : List Text} {rest : Text} (cut : registry.Cut lexemes rest) :
    ∀ lexeme ∈ lexemes, registry.isLexeme lexeme = true := by
  induction lexemes with
  | nil => simp
  | cons lexeme lexemes ih =>
    obtain ⟨leads, cut⟩ := cut
    exact List.forall_mem_cons.mpr ⟨leads.isLexeme, ih cut⟩

theorem isFunction_eq_false_of_isNumeral {text : Text} (numeral : text.isNumeral = true) :
    registry.isFunction text = false := by
  cases text with
  | nil => cases numeral
  | cons digit rest =>
    have blocked := @isViable_eq_false_of_isDigit registry digit
      (Text.isDigit_of_isNumeral numeral) rest
    rw [Bool.eq_false_iff]
    intro known
    have named : registry.isName (digit :: rest) = true := by simp [isName, known]
    rw [isViable_of_isName named] at blocked
    cases blocked

theorem role_function {lexeme : Text} (known : registry.isFunction lexeme = true)
    (previous : Option Role) : registry.role previous lexeme = .ok .function := by
  simp [role, known]

theorem role_numeral {lexeme : Text} (numeral : lexeme.isNumeral = true)
    (previous : Option Role) : registry.role previous lexeme = .ok .number := by
  simp [role, numeral, @isFunction_eq_false_of_isNumeral registry lexeme numeral]

/-- An operator is nothing but an operator. -/
theorem role_operator {lexeme : Text} (known : registry.isOperator lexeme = true)
    (previous : Option Role) :
    registry.role previous lexeme = registry.operatorRole previous lexeme := by
  have symbol : registry.isSymbol lexeme = true := by rw [isSymbol_eq, known, Bool.true_or]
  have word := isWord_eq_false_of_isSymbol symbol
  obtain ⟨_, -, -, -, -, bracket⟩ :=
    Text.isOperatorSymbol_iff.mp (isOperatorSymbol_of_isOperator known)
  simp only [isWord, Bool.or_eq_false_iff] at word
  simp only [Text.isBracket, Bool.or_eq_false_iff, beq_eq_false_iff_ne] at bracket
  simp only [isOperator] at known
  simp [role, word, bracket, known]

/-! One lexeme -/

theorem situated_of_role {previous : Option Role} {before : List Text} {lexeme : Text} {role : Role}
    (due : operandDue previous = registry.isLeading before)
    (found : registry.role previous lexeme = .ok role) :
    registry.Situated before ⟨lexeme, role⟩ := by
  have plays := plays_of_role found
  have only {other : Role} (read : registry.role previous lexeme = .ok other) : role = other :=
    Except.ok.inj (found.symm.trans read)
  have known (operator : registry.isOperator lexeme = true) :
      registry.operatorRole previous lexeme = .ok role :=
    (role_operator operator previous).symm.trans found
  constructor
  case function =>
    refine ⟨?_, fun known => only (role_function known previous)⟩
    rintro rfl
    cases plays with
    | function known => exact known
  case number =>
    refine ⟨?_, fun numeral => only (role_numeral numeral previous)⟩
    rintro rfl
    cases plays with
    | number numeral => exact numeral
  case letter =>
    constructor
    · rintro rfl
      cases plays with
      | letter named =>
        refine ⟨named, ?_⟩
        rw [Bool.eq_false_iff]
        intro known
        cases only (role_function known previous)
    · rintro ⟨named, free⟩
      obtain ⟨letter, rfl⟩ := Text.exists_variable named
      exact only (role_variable free previous)
  case opening =>
    refine ⟨?_, ?_⟩
    · rintro rfl
      cases plays with
      | opening bracket => exact bracket
    · rintro rfl
      exact only (role_opening previous)
  case closing =>
    refine ⟨?_, ?_⟩
    · rintro rfl
      cases plays with
      | closing bracket => exact bracket
    · rintro rfl
      exact only (role_closing previous)
  case unary =>
    constructor
    · rintro rfl
      cases plays with
      | unary atStart known => exact ⟨by simp [isOperator, known], due.symm.trans atStart⟩
    · rintro ⟨operator, leading⟩
      have acts := known operator
      rw [operatorRole, due, leading, if_pos rfl] at acts
      split at acts <;> cases acts
      rfl
  case binary =>
    constructor
    · rintro rfl
      cases plays with
      | binary behind known => exact ⟨by simp [isOperator, known], due.symm.trans behind⟩
    · rintro ⟨operator, leading⟩
      have acts := known operator
      rw [operatorRole, due, leading, if_neg Bool.false_ne_true] at acts
      split at acts <;> cases acts
      rfl

theorem Situated.isOperator_iff {before : List Text} {term : Term}
    (situated : registry.Situated before term) :
    registry.isOperator term.text = true ↔ term.role = .unary ∨ term.role = .binary := by
  rw [situated.unary, situated.binary, ← and_or_left]
  cases registry.isLeading before <;> simp

/-- An operand is due behind a lexeme exactly if the place behind it is that of a prefix. -/
theorem operandDue_of_role {previous : Option Role} {before : List Text} {lexeme : Text}
    {role : Role} (due : operandDue previous = registry.isLeading before)
    (found : registry.role previous lexeme = .ok role) :
    operandDue (some role) = registry.isLeading (before ++ [lexeme]) := by
  have situated := situated_of_role due found
  rw [isLeading_concat, Bool.eq_iff_iff, Bool.or_eq_true, beq_iff_eq, ← situated.opening,
    situated.isOperator_iff]
  cases role <;> simp [operandDue]

/-- A lexeme has a role if it suits its place, and is reported otherwise. -/
theorem role_by_place {previous : Option Role} {before : List Text} {lexeme : Text}
    (due : operandDue previous = registry.isLeading before)
    (known : registry.isLexeme lexeme = true) :
    (registry.Suits before lexeme ∧ ∃ role, registry.role previous lexeme = .ok role) ∨
      (¬registry.Suits before lexeme ∧
        registry.role previous lexeme = .error (registry.misplaced before lexeme)) := by
  by_cases operator : registry.isOperator lexeme = true
  · rw [role_operator operator, operatorRole, due]
    cases place : registry.isLeading before <;>
      simp only [Suits, misplaced, operator, place, forall_const, ↓reduceIte, Bool.false_eq_true]
    · cases registry.isBinary lexeme <;> simp
    · cases registry.isUnary lexeme <;> simp
  · refine .inl ⟨fun isOperator => absurd isOperator operator, ?_⟩
    simp only [isLexeme, isSymbol_eq, operator, isWord, Bool.or_eq_true, Bool.false_eq_true,
      false_or] at known
    rcases known with bracket | (numeral | function) | named
    · simp only [Text.isBracket, Bool.or_eq_true, beq_iff_eq] at bracket
      rcases bracket with rfl | rfl
      · exact ⟨.opening, role_opening previous⟩
      · exact ⟨.closing, role_closing previous⟩
    · exact ⟨.number, role_numeral numeral previous⟩
    · exact ⟨.function, role_function function previous⟩
    · by_cases function : registry.isFunction lexeme = true
      · exact ⟨.function, role_function function previous⟩
      · obtain ⟨letter, rfl⟩ := Text.exists_variable named
        exact ⟨.letter, role_variable (Bool.eq_false_iff.mpr function) previous⟩

/-! All lexemes -/

/-- Each of the lexemes suits its place behind those before it. -/
def AllSuit (registry : Registry) (before lexemes : List Text) : Prop :=
  ∀ front lexeme after, lexemes = front ++ lexeme :: after →
    registry.Suits (before ++ front) lexeme

theorem allSuit_nil (before : List Text) : registry.AllSuit before [] := by
  rintro (_ | ⟨_, _⟩) lexeme after ⟨⟩

theorem allSuit_cons {before lexemes : List Text} {lexeme : Text} :
    registry.AllSuit before (lexeme :: lexemes) ↔
      registry.Suits before lexeme ∧ registry.AllSuit (before ++ [lexeme]) lexemes := by
  constructor
  · intro all
    refine ⟨by simpa using all [] lexeme lexemes rfl, ?_⟩
    rintro front other after rfl
    simpa using all (lexeme :: front) other after rfl
  · rintro ⟨here, later⟩ front other after same
    rcases List.cons_eq_append_iff.mp same with ⟨rfl, rest⟩ | ⟨front, rfl, rest⟩
    · cases rest
      simpa using here
    · simpa using later front other after rest

theorem situated_of_termsAfter {previous : Option Role} {before lexemes : List Text}
    {terms : List Term} (due : operandDue previous = registry.isLeading before)
    (found : registry.termsAfter previous lexemes = .ok terms) :
    ∀ front term after, terms = front ++ term :: after →
      registry.Situated (before ++ front.map Term.text) term := by
  induction lexemes generalizing previous before terms with
  | nil =>
    cases found
    rintro (_ | ⟨_, _⟩) term after ⟨⟩
  | cons lexeme lexemes ih =>
    obtain ⟨role, later, plays, others, rfl⟩ := exists_of_termsAfter_cons found
    intro front term after same
    rcases List.cons_eq_append_iff.mp same with ⟨rfl, rest⟩ | ⟨front, rfl, rest⟩
    · cases rest
      simpa using situated_of_role due plays
    · simpa using ih (operandDue_of_role due plays) others front term after rest

theorem exists_termsAfter_iff {previous : Option Role} {before lexemes : List Text}
    (due : operandDue previous = registry.isLeading before)
    (known : ∀ lexeme ∈ lexemes, registry.isLexeme lexeme = true) :
    (∃ terms, registry.termsAfter previous lexemes = .ok terms) ↔
      registry.AllSuit before lexemes := by
  induction lexemes generalizing previous before with
  | nil => simp [termsAfter, allSuit_nil]
  | cons lexeme lexemes ih =>
    obtain ⟨here, others⟩ := List.forall_mem_cons.mp known
    rw [allSuit_cons]
    rcases role_by_place due here with ⟨suits, role, found⟩ | ⟨unsuited, found⟩
    · rw [termsAfter_cons found, ← ih (operandDue_of_role due found) others]
      simp [Outcome.map_eq_ok_iff, suits]
    · simp [termsAfter, found, unsuited, bind, Except.bind]

/-- The first lexeme that does not suit its place is reported. -/
theorem termsAfter_eq_error_iff {previous : Option Role} {before lexemes : List Text}
    (due : operandDue previous = registry.isLeading before)
    (known : ∀ lexeme ∈ lexemes, registry.isLexeme lexeme = true) {error : SyntaxError} :
    registry.termsAfter previous lexemes = .error error ↔
      ∃ front lexeme after, lexemes = front ++ lexeme :: after ∧ registry.AllSuit before front ∧
        ¬registry.Suits (before ++ front) lexeme ∧
        error = registry.misplaced (before ++ front) lexeme := by
  induction lexemes generalizing previous before with
  | nil => simp [termsAfter]
  | cons lexeme lexemes ih =>
    obtain ⟨here, others⟩ := List.forall_mem_cons.mp known
    rcases role_by_place due here with ⟨suits, role, found⟩ | ⟨unsuited, found⟩
    · rw [termsAfter_cons found, Outcome.map_eq_error_iff, ih (operandDue_of_role due found) others]
      constructor
      · rintro ⟨front, bad, after, rfl, all, unsuited, rfl⟩
        exact ⟨lexeme :: front, bad, after, rfl, allSuit_cons.mpr ⟨suits, all⟩,
          by simpa using unsuited, by simp⟩
      · rintro ⟨front, bad, after, same, all, unsuited, rfl⟩
        rcases List.cons_eq_append_iff.mp same with ⟨rfl, rest⟩ | ⟨front, rfl, rest⟩
        · cases rest
          exact absurd suits (by simpa using unsuited)
        · exact ⟨front, bad, after, rest, (allSuit_cons.mp all).2, by simpa using unsuited,
            by simp⟩
    · have first : registry.termsAfter previous (lexeme :: lexemes) =
          .error (registry.misplaced before lexeme) := by
        simp [termsAfter, found, bind, Except.bind]
      rw [first, Except.error.injEq]
      constructor
      · rintro rfl
        exact ⟨[], lexeme, lexemes, rfl, allSuit_nil before, by simpa using unsuited, by simp⟩
      · rintro ⟨front, bad, after, same, all, -, rfl⟩
        rcases List.cons_eq_append_iff.mp same with ⟨rfl, rest⟩ | ⟨front, rfl, rest⟩
        · cases rest
          simp
        · exact absurd (allSuit_cons.mp all).1 unsuited

/-- No unary operator stands directly behind a function, an operand or a closing bracket. -/
theorem Assigned.isChain {previous : Option Role} {terms : List Term}
    (assigned : registry.Assigned previous terms) : terms.IsChain fun term next =>
      next.role = .unary →
        term.role ≠ .function ∧ term.role.isOperand = false ∧ term.role ≠ .closing := by
  induction assigned with
  | nil => exact .nil
  | @cons previous term terms plays rest ih =>
    cases rest with
    | nil => exact .singleton term
    | @cons _ next _ follows =>
      refine .cons_cons ?_ ih
      intro role
      rw [role] at follows
      cases follows with
      | unary due => exact Role.plain_of_operandDue due

/-- The terms of a text follow from its lexemes, each from its own text and, for an operator, from
the lexeme before it. There are terms exactly if every operator is registered for its place.
Otherwise the first operator that is not is named: it cannot be unary, or not follow an operand. -/
theorem terms_by_place {source : Text} {lexemes : List Text}
    (lexed : registry.lexemes source = .ok lexemes) :
    (∀ lexeme, registry.terms lexemes ≠ .error (.unknownLexeme lexeme)) ∧
    ((∃ terms, registry.terms lexemes = .ok terms) ↔ registry.AllSuit [] lexemes) ∧
    (∀ terms, registry.terms lexemes = .ok terms → terms.map Term.text = lexemes ∧
      (∀ before term after, terms = before ++ term :: after →
        registry.Situated (before.map Term.text) term) ∧
      terms.IsChain fun term next => next.role = .unary →
        term.role ≠ .function ∧ term.role.isOperand = false ∧ term.role ≠ .closing) ∧
    ∀ error, registry.terms lexemes = .error error ↔
      ∃ before lexeme after, lexemes = before ++ lexeme :: after ∧ registry.AllSuit [] before ∧
        ¬registry.Suits before lexeme ∧ error = registry.misplaced before lexeme ∧
        error.message = "operator '".toList ++ lexeme ++ (if registry.isLeading before then
          "' cannot be used as unary" else "' cannot follow an operand").toList := by
  have known := (lexemes_eq_ok_iff.mp lexed).2.isLexeme
  have due : operandDue none = registry.isLeading [] := rfl
  have failing (error : SyntaxError) :=
    @termsAfter_eq_error_iff registry none [] lexemes due known error
  simp only [List.nil_append] at failing
  refine ⟨?_, exists_termsAfter_iff due known, ?_, ?_⟩
  · intro lexeme found
    obtain ⟨before, other, -, -, -, -, same⟩ := (failing _).mp found
    unfold misplaced at same
    split at same <;> cases same
  · intro terms found
    obtain ⟨assigned, texts⟩ := assigned_of_terms found
    exact ⟨texts, situated_of_termsAfter due found, assigned.isChain⟩
  · intro error
    refine (failing error).trans ?_
    constructor
    · rintro ⟨before, lexeme, after, whole, suit, unsuited, rfl⟩
      exact ⟨before, lexeme, after, whole, suit, unsuited, rfl, message_misplaced before lexeme⟩
    · rintro ⟨before, lexeme, after, whole, suit, unsuited, same, -⟩
      exact ⟨before, lexeme, after, whole, suit, unsuited, same⟩

/-- A sign that is only unary suits its place in front of a function of one letter and not behind
it. -/
theorem terms_by_place_mark :
    let registry := Registry.standard.derived [.function ['F'] (some Unary.magnitude),
      .unary ['!'] (some Unary.negation), .binary ['%'] (some Binary.modulo) none]
    let lexemes : List Text := [['!'], ['F'], ['2'], ['%'], ['-'], ['3']]
    registry.lexemes "! f 2 % -3".toList = .ok lexemes ∧ registry.AllSuit [] lexemes ∧
    registry.lexemes "f ! 2".toList = .ok [['F'], ['!'], ['2']] ∧
    ¬registry.AllSuit [] [['F'], ['!'], ['2']] := by
  intro registry lexemes
  obtain ⟨lexed, classified, otherLexed, refused⟩ :
      registry.lexemes "! f 2 % -3".toList = .ok lexemes ∧
      registry.terms lexemes = .ok [⟨['!'], .unary⟩, ⟨['F'], .function⟩, ⟨['2'], .number⟩,
        ⟨['%'], .binary⟩, ⟨['-'], .unary⟩, ⟨['3'], .number⟩] ∧
      registry.lexemes "f ! 2".toList = .ok [['F'], ['!'], ['2']] ∧
      registry.terms [['F'], ['!'], ['2']] = .error (.operatorAfterOperand ['!']) := by
    decide +kernel
  refine ⟨lexed, (terms_by_place lexed).2.1.mp ⟨_, classified⟩, otherLexed, ?_⟩
  intro suit
  obtain ⟨terms, found⟩ := (terms_by_place otherLexed).2.1.mpr suit
  rw [refused] at found
  cases found

end Registry
end Abacus
