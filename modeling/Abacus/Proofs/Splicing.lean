import Abacus.Proofs.Classification
import Abacus.Proofs.Cutting

/-! Splicing: elements that take the place of one element of a list, wherever it stands. A text in
brackets takes the place of a variable among the lexemes of another text, and then its terms, in
brackets, take the place of the variable among the terms. -/

namespace Abacus

/-- The list with other elements in the place of one. -/
def spliced {Element : Type} [DecidableEq Element] (element : Element)
    (pieces list : List Element) : List Element :=
  list.flatMap fun other => if other = element then pieces else [other]

section Lists
variable {Element : Type} [DecidableEq Element] {element : Element} {pieces : List Element}

@[simp]
theorem spliced_nil : spliced element pieces [] = [] := rfl

theorem spliced_cons (other : Element) (list : List Element) :
    spliced element pieces (other :: list) =
      (if other = element then pieces else [other]) ++ spliced element pieces list := rfl

@[simp]
theorem spliced_cons_self (list : List Element) :
    spliced element pieces (element :: list) = pieces ++ spliced element pieces list := by
  rw [spliced_cons, if_pos rfl]

@[simp]
theorem spliced_append (left right : List Element) : spliced element pieces (left ++ right) =
    spliced element pieces left ++ spliced element pieces right :=
  List.flatMap_append

theorem spliced_cons_of_ne {other : Element} (different : other ≠ element) (list : List Element) :
    spliced element pieces (other :: list) = other :: spliced element pieces list := by
  rw [spliced_cons, if_neg different, List.singleton_append]

theorem spliced_eq_self {list : List Element} (absent : element ∉ list) :
    spliced element pieces list = list := by
  induction list with
  | nil => rfl
  | cons other list ih =>
    have different : other ≠ element := by
      rintro rfl
      exact absent (by simp)
    rw [spliced_cons_of_ne different, ih fun member => absent (by simp [member])]

end Lists

/-- In brackets. -/
def Text.bracketed (text : Text) : Text :=
  openingBracket ++ text ++ closingBracket

/-- The lexemes of a text in brackets. -/
def Lexemes.bracketed (lexemes : List Text) : List Text :=
  Text.openingBracket :: lexemes ++ [Text.closingBracket]

theorem Lexemes.flatten_bracketed (lexemes : List Text) :
    (bracketed lexemes).flatten = Text.bracketed lexemes.flatten := by
  simp [bracketed, Text.bracketed]

/-- Terms in brackets. -/
def Term.bracketed (terms : List Term) : List Term :=
  ⟨Text.openingBracket, .opening⟩ :: terms ++ [⟨Text.closingBracket, .closing⟩]

/-- The term of a variable. -/
def Variable.term (letter : Variable) : Term :=
  ⟨letter.name, .letter⟩

theorem Text.normalized_bracketed (text : Text) :
    text.bracketed.normalized = text.normalized.bracketed := by
  have opening : openingBracket.normalized = openingBracket := by decide +kernel
  have closing : closingBracket.normalized = closingBracket := by decide +kernel
  rw [bracketed, normalized_append, normalized_append, opening, closing, bracketed]

theorem Text.normalized_spliced {name : Text} {pieces others lexemes : List Text}
    (normal : ∀ lexeme ∈ lexemes, lexeme.normalized = lexeme)
    (same : Text.normalized pieces.flatten = others.flatten) :
    Text.normalized (spliced name pieces lexemes).flatten =
      (spliced name others lexemes).flatten := by
  induction lexemes with
  | nil => rfl
  | cons lexeme lexemes ih =>
    have later := ih fun other member => normal other (by simp [member])
    by_cases here : lexeme = name
    · subst here
      rw [spliced_cons_self, spliced_cons_self, List.flatten_append, normalized_append, later, same,
        List.flatten_append]
    · rw [spliced_cons_of_ne here, spliced_cons_of_ne here, List.flatten_cons, normalized_append,
        later, normal lexeme (by simp), List.flatten_cons]

namespace Registry
variable {registry : Registry}

theorem isSymbol_bracket {bracket : Text} (isBracket : bracket.isBracket = true) :
    registry.isSymbol bracket = true := by
  simp [isSymbol, isBracket]

theorem cut_append {left right : List Text} {rest : Text} :
    registry.Cut (left ++ right) rest ↔
      registry.Cut left (right.flatten ++ rest) ∧ registry.Cut right rest := by
  induction left with
  | nil => simp [Cut]
  | cons lexeme left ih => simp [Cut, ih, and_assoc]

/-- What is cut up as a whole is cut up in brackets. -/
theorem Cut.bracketed {lexemes : List Text} (cut : registry.Cut lexemes []) (rest : Text) :
    registry.Cut (Lexemes.bracketed lexemes) rest := by
  have opening : registry.isSymbol Text.openingBracket = true := isSymbol_bracket (by decide)
  have closing : registry.isSymbol Text.closingBracket = true := isSymbol_bracket (by decide)
  refine ⟨.symbol (List.prefix_append ..) opening, cut_append.mpr ⟨cut.follow ?_, ?_⟩⟩
  · intro char next
    obtain rfl : ')' = char := by simpa [Text.closingBracket] using next
    exact .inr closing
  · exact ⟨.symbol (List.prefix_append ..) closing, trivial⟩

/-- What follows a lexeme begins as before, or with a bracket. -/
theorem Cut.head_spliced {name : Text} {inner lexemes : List Text} {rest : Text}
    (cut : registry.Cut lexemes rest) :
    ∀ char ∈ ((spliced name (Lexemes.bracketed inner) lexemes).flatten ++ rest).head?,
      char ∈ (lexemes.flatten ++ rest).head? ∨ registry.isSymbol [char] = true := by
  intro char next
  cases lexemes with
  | nil => exact .inl next
  | cons lexeme lexemes =>
    by_cases same : lexeme = name
    · subst same
      obtain rfl : '(' = char := by
        simpa [Lexemes.bracketed, Text.openingBracket] using next
      exact .inr (isSymbol_bracket (by decide))
    · obtain ⟨first, others, rfl⟩ := List.exists_cons_of_ne_nil cut.1.ne_nil
      rw [spliced_cons_of_ne same] at next
      exact .inl next

theorem Cut.replaced {name : Text} {inner lexemes : List Text} {rest : Text}
    (innerCut : registry.Cut inner []) (cut : registry.Cut lexemes rest) :
    registry.Cut (spliced name (Lexemes.bracketed inner) lexemes) rest := by
  induction lexemes with
  | nil => trivial
  | cons lexeme lexemes ih =>
    obtain ⟨leads, later⟩ := cut
    by_cases same : lexeme = name
    · subst same
      rw [spliced_cons_self]
      exact cut_append.mpr ⟨innerCut.bracketed _, ih later⟩
    · rw [spliced_cons_of_ne same]
      exact ⟨leads.follow later.head_spliced, ih later⟩

theorem lexemes_bracketed {source : Text} {lexemes : List Text}
    (lexed : registry.lexemes source = .ok lexemes) :
    registry.lexemes source.bracketed = .ok (Lexemes.bracketed lexemes) := by
  obtain ⟨whole, cut⟩ := lexemes_eq_ok_iff.mp lexed
  apply lexemes_eq_ok_iff.mpr
  refine ⟨?_, cut.bracketed []⟩
  rw [Text.normalized_bracketed, ← whole, Lexemes.flatten_bracketed]

/-- The lexemes of a text in brackets take the place of the lexeme that the text replaces. -/
theorem lexemes_spliced {source inner name : Text} {lexemes innerLexemes : List Text}
    (lexed : registry.lexemes source = .ok lexemes)
    (innerLexed : registry.lexemes inner = .ok innerLexemes) :
    registry.lexemes (spliced name [inner.bracketed] lexemes).flatten =
      .ok (spliced name (Lexemes.bracketed innerLexemes) lexemes) := by
  obtain ⟨whole, cut⟩ := lexemes_eq_ok_iff.mp lexed
  obtain ⟨innerWhole, innerCut⟩ := lexemes_eq_ok_iff.mp innerLexed
  apply lexemes_eq_ok_iff.mpr
  refine ⟨?_, innerCut.replaced cut⟩
  have normal : ∀ lexeme ∈ lexemes, lexeme.normalized = lexeme := by
    intro lexeme member
    apply Text.normalized_of_subset
    intro char inside
    rw [← whole]
    exact List.mem_flatten.mpr ⟨lexeme, member, inside⟩
  apply (Text.normalized_spliced normal ?_).symm
  rw [List.flatten_singleton, Text.normalized_bracketed, ← innerWhole, Lexemes.flatten_bracketed]

/-- Whether an operand is due is all that the term before says about the role of a lexeme. -/
theorem termsAfter_congr {previous other : Option Role}
    (same : operandDue previous = operandDue other) (lexemes : List Text) :
    registry.termsAfter previous lexemes = registry.termsAfter other lexemes := by
  cases lexemes with
  | nil => rfl
  | cons lexeme lexemes =>
    have role : registry.role previous lexeme = registry.role other lexeme := by
      simp only [Registry.role, operatorRole, same]
    rw [termsAfter, termsAfter, role]

/-- A variable that is no function is read as a variable, wherever it stands. -/
theorem role_variable {letter : Variable} (free : registry.isFunction letter.name = false)
    (previous : Option Role) : registry.role previous letter.name = .ok .letter := by
  have digit := Unicode.isDigit_eq_false_of_isLetter (Unicode.isLetter_of_variable letter.capital)
  have numeral : letter.name.isNumeral = false := Text.isNumeral_eq_false digit
  have named : letter.name.isVariable = true := by simp [Text.isVariable]
  simp [role, free, numeral, named]

/-- A closing bracket ends the terms in front of it, whatever they are. -/
private theorem termsAfter_closed {previous : Option Role} {lexemes : List Text} {terms : List Term}
    (found : registry.termsAfter previous lexemes = .ok terms) (rest : List Text) :
    registry.termsAfter previous (lexemes ++ Text.closingBracket :: rest) =
      (registry.termsAfter (some .closing) rest).map
        (terms ++ ⟨Text.closingBracket, .closing⟩ :: ·) := by
  induction lexemes generalizing previous terms with
  | nil =>
    cases found
    exact termsAfter_cons (role_closing previous) rest
  | cons lexeme lexemes ih =>
    obtain ⟨role, later, plays, others, rfl⟩ := exists_of_termsAfter_cons found
    rw [List.cons_append, termsAfter_cons plays, ih others]
    cases registry.termsAfter (some .closing) rest <;> rfl

/-- Lexemes in brackets have their terms in brackets, whatever stands before and behind. -/
theorem termsAfter_bracketed {lexemes : List Text} {terms : List Term}
    (found : registry.terms lexemes = .ok terms) (previous : Option Role) (rest : List Text) :
    registry.termsAfter previous (Lexemes.bracketed lexemes ++ rest) =
      (registry.termsAfter (some .closing) rest).map (Term.bracketed terms ++ ·) := by
  have atStart : registry.termsAfter (some .opening) lexemes = .ok terms :=
    (@termsAfter_congr registry (some .opening) none rfl lexemes).trans found
  have opening := termsAfter_cons (@role_opening registry previous)
    (lexemes ++ Text.closingBracket :: rest)
  rw [termsAfter_closed atStart] at opening
  simp only [Lexemes.bracketed, List.cons_append, List.append_assoc]
  refine opening.trans ?_
  cases registry.termsAfter (some .closing) rest <;> simp [Except.map, Term.bracketed]
  rfl

theorem terms_bracketed {lexemes : List Text} {terms : List Term}
    (found : registry.terms lexemes = .ok terms) :
    registry.terms (Lexemes.bracketed lexemes) = .ok (Term.bracketed terms) := by
  have whole := termsAfter_bracketed found none []
  simpa [Registry.terms, termsAfter, Except.map] using whole

/-- The terms in brackets take the place of the variable. -/
theorem termsAfter_spliced {letter : Variable} (free : registry.isFunction letter.name = false)
    {inner : List Text} {innerTerms : List Term}
    (innerFound : registry.terms inner = .ok innerTerms) {previous : Option Role}
    {lexemes : List Text} {terms : List Term}
    (found : registry.termsAfter previous lexemes = .ok terms) :
    registry.termsAfter previous (spliced letter.name (Lexemes.bracketed inner) lexemes) =
      .ok (spliced letter.term (Term.bracketed innerTerms) terms) := by
  induction lexemes generalizing previous terms with
  | nil =>
    cases found
    rfl
  | cons lexeme lexemes ih =>
    obtain ⟨role, later, plays, others, rfl⟩ := exists_of_termsAfter_cons found
    by_cases here : lexeme = letter.name
    · subst here
      obtain rfl : role = .letter := by
        rw [role_variable free] at plays
        exact (Except.ok.inj plays).symm
      -- Behind the closing bracket no operand is due, as behind the variable.
      have behind := (@termsAfter_congr registry (some .closing) (some .letter) rfl _).trans
        (ih others)
      rw [spliced_cons_self, termsAfter_bracketed innerFound, behind]
      exact congrArg Except.ok (spliced_cons_self later).symm
    · have different : (⟨lexeme, role⟩ : Term) ≠ letter.term := by
        intro same
        exact here (congrArg Term.text same)
      rw [spliced_cons_of_ne here, spliced_cons_of_ne different, termsAfter_cons plays, ih others]
      rfl

end Registry
end Abacus
