import Abacus.Proofs.Cutting
import Abacus.Proofs.Shortcut

/-! Joining lexemes. Lexemes that are written one behind the other are read as they are exactly if
no number, function or variable among them goes on in the first character of the next one. Layout
between or within them changes nothing, nor do commas for decimal points. -/

namespace Abacus

/-- A text is written out with layout anywhere in it, and commas for some of its points. -/
inductive Spread : Text → Text → Prop where
  | done : Spread [] []
  | layout {char : Char} {text written : Text} (blank : isLayout char = true)
    (later : Spread text written) : Spread text (char :: written)
  | kept {char : Char} {text written : Text} (later : Spread text written) :
    Spread (char :: text) (char :: written)
  | comma {text written : Text} (later : Spread text written) :
    Spread ('.' :: text) (',' :: written)

theorem Text.normalized_cons (char : Char) (text : Text) :
    Text.normalized (char :: text) = Text.normalized [char] ++ text.normalized :=
  normalized_append [char] text

theorem Text.normalized_layout {char : Char} (blank : isLayout char = true) :
    Text.normalized [char] = [] := by
  simp only [isLayout, Bool.or_eq_true, beq_iff_eq] at blank
  rcases blank with ((rfl | rfl) | rfl) | rfl <;> decide

theorem Text.normalized_flatten {texts : List Text}
    (normal : ∀ text ∈ texts, text.normalized = text) :
    Text.normalized texts.flatten = texts.flatten := by
  induction texts with
  | nil => rfl
  | cons text texts ih =>
    rw [List.flatten_cons, normalized_append, normal text (by simp),
      ih fun other member => normal other (by simp [member])]

theorem Spread.normalized {text written : Text} (spread : Spread text written) :
    written.normalized = text.normalized := by
  induction spread with
  | done => rfl
  | layout blank _ ih =>
    rw [Text.normalized_cons, Text.normalized_layout blank, ih, List.nil_append]
  | kept _ ih => rw [Text.normalized_cons, ih, ← Text.normalized_cons]
  | comma _ ih =>
    have point : Text.normalized [','] = Text.normalized ['.'] := by decide +kernel
    rw [Text.normalized_cons, point, ih, ← Text.normalized_cons]

namespace Registry
variable {registry : Registry}

/-- The text is a bracket or an operator, or a number, a function or a variable. -/
def isLexeme (registry : Registry) (text : Text) : Bool :=
  registry.isSymbol text || registry.isWord text

/-- A number, a function or a variable does not go on in the first character of what follows: the
two are no number, no variable and no start of a function. -/
def Apart (registry : Registry) (lexeme following : Text) : Prop :=
  registry.isWord lexeme = true → ∀ char ∈ following.head?,
    Text.isNumeral (lexeme ++ [char]) = false ∧ Text.isVariable (lexeme ++ [char]) = false ∧
      registry.startsFunction (lexeme ++ [char]) = false

theorem isViable_concat_eq_false_iff {text : Text} {char : Char} :
    registry.isViable (text ++ [char]) = false ↔ Text.isVariable (text ++ [char]) = false ∧
      registry.startsFunction (text ++ [char]) = false := by
  simp [isViable]

/-- No symbol is a word. -/
theorem isWord_eq_false_of_isSymbol {text : Text} (symbol : registry.isSymbol text = true) :
    registry.isWord text = false := by
  obtain ⟨char, rfl, -⟩ := exists_char_of_isSymbol symbol
  have numeral := isNumeral_symbol [] symbol
  have viable := isViable_symbol [] symbol
  rw [isWord_of_isDigit_eq_false (isDigit_eq_false_of_isSymbol symbol), Bool.eq_false_iff]
  intro named
  rw [List.nil_append, isViable_of_isName named] at viable
  cases viable

/-- A lexeme leads a text exactly if it stands apart from the rest. -/
theorem leads_iff {lexeme rest : Text} (known : registry.isLexeme lexeme = true) :
    registry.Leads (lexeme ++ rest) lexeme ↔ registry.Apart lexeme rest := by
  constructor
  · intro leads word char next
    obtain ⟨first, more, same⟩ := List.exists_cons_of_ne_nil leads.ne_nil
    cases leads with
    | symbol _ symbol =>
      rw [isWord_eq_false_of_isSymbol symbol] at word
      cases word
    | number longest =>
      obtain ⟨numeral, stop⟩ := (longest_append_iff Text.startClosed_isNumeral).mp longest
      refine ⟨stop char next, isViable_concat_eq_false_iff.mp ?_⟩
      rw [same] at numeral ⊢
      exact isViable_eq_false_of_isDigit (Text.isDigit_of_isNumeral numeral) _
    | word longest named =>
      obtain ⟨viable, stop⟩ := (longest_append_iff startClosed_isViable).mp longest
      refine ⟨?_, isViable_concat_eq_false_iff.mp (stop char next)⟩
      rw [same] at viable ⊢
      exact Text.isNumeral_eq_false
        (Unicode.isDigit_eq_false_of_isLetter (isLetter_of_isViable viable))
  · intro apart
    rcases Bool.or_eq_true_iff.mp known with symbol | word
    · obtain ⟨char, rfl, -⟩ := exists_char_of_isSymbol symbol
      exact .symbol (List.prefix_append ..) symbol
    · have stop := apart word
      by_cases numeral : lexeme.isNumeral = true
      · exact .number <| (longest_append_iff Text.startClosed_isNumeral).mpr
          ⟨numeral, fun char next => (stop char next).1⟩
      · have named : registry.isName lexeme = true := by
          simpa [isWord, isName, Bool.eq_false_iff.mpr numeral] using word
        refine .word ((longest_append_iff startClosed_isViable).mpr ?_) named
        exact ⟨isViable_of_isName named, fun char next =>
          isViable_concat_eq_false_iff.mpr (stop char next).2⟩

theorem isLexeme_nil : registry.isLexeme [] = false := by
  rw [isLexeme, isWord_nil, Bool.or_false, Bool.eq_false_iff]
  intro symbol
  obtain ⟨char, impossible, -⟩ := exists_char_of_isSymbol symbol
  cases impossible

/-- Lexemes are cut where they are joined exactly if each stands apart from the next one. -/
theorem cut_iff {lexemes : List Text}
    (known : ∀ lexeme ∈ lexemes, registry.isLexeme lexeme = true) :
    registry.Cut lexemes [] ↔ lexemes.IsChain registry.Apart := by
  induction lexemes with
  | nil => simp [Cut]
  | cons lexeme lexemes ih =>
    have later := ih fun other member => known other (by simp [member])
    rw [Cut, leads_iff (known lexeme (by simp)), later, List.append_nil]
    cases lexemes with
    | nil => simp [Apart]
    | cons next others =>
      -- Of all that follows, the first character is that of the next lexeme.
      have nonempty : next ≠ [] := by
        rintro rfl
        have empty := known [] (by simp)
        rw [isLexeme_nil] at empty
        cases empty
      obtain ⟨char, rest, rfl⟩ := List.exists_cons_of_ne_nil nonempty
      rw [List.isChain_cons_cons]
      rfl

/-- Lexemes that are joined are read as they are exactly if each stands apart from the next one, and
layout and commas change nothing about how they are read. -/
theorem lexemes_flatten_iff {lexemes : List Text}
    (known : ∀ lexeme ∈ lexemes, registry.isLexeme lexeme = true ∧ lexeme.normalized = lexeme) :
    (registry.lexemes lexemes.flatten = .ok lexemes ↔ lexemes.IsChain registry.Apart) ∧
    ∀ written, Spread lexemes.flatten written →
      registry.lexemes written = registry.lexemes lexemes.flatten := by
  have normal := Text.normalized_flatten fun lexeme member => (known lexeme member).2
  constructor
  · rw [lexemes_eq_ok_iff, normal, cut_iff fun lexeme member => (known lexeme member).1]
    simp
  · intro written spread
    rw [Registry.lexemes, Registry.lexemes, spread.normalized]

/-- A literal that ends in a point, the logarithm and a variable, joined and then written out with a
comma, a space and a tab. -/
theorem lexemes_joined_logarithm :
    let lexemes : List Text := ["1.".toList, "LN".toList, "X".toList]
    let written : Text := "1, L\tNX".toList
    (∀ lexeme ∈ lexemes,
      Registry.standard.isLexeme lexeme = true ∧ lexeme.normalized = lexeme) ∧
    lexemes.IsChain Registry.standard.Apart ∧ Spread lexemes.flatten written ∧
    Registry.standard.lexemes lexemes.flatten = .ok lexemes ∧
    Registry.standard.lexemes written = .ok lexemes := by
  intro lexemes written
  have known : ∀ lexeme ∈ lexemes,
      Registry.standard.isLexeme lexeme = true ∧ lexeme.normalized = lexeme := by decide +kernel
  have apart : lexemes.IsChain Registry.standard.Apart := by
    refine .cons_cons ?_ (.cons_cons ?_ (.singleton _))
    · rintro - char ⟨⟩
      decide +kernel
    · rintro - char ⟨⟩
      decide +kernel
  have spread : Spread lexemes.flatten written :=
    .kept (.comma (.layout rfl (.kept (.layout rfl (.kept (.kept .done))))))
  obtain ⟨joined, unchanged⟩ := lexemes_flatten_iff known
  have read := joined.mpr apart
  exact ⟨known, apart, spread, read, (unchanged written spread).trans read⟩

end Registry
end Abacus
