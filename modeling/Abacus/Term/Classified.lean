import Abacus.Lexeme.Numeral
import Abacus.Term
import Abacus.Term.Syntax

/-! The terms of a list of lexemes. All but the operators are known by their text. An operator
is unary where an operand is due, which is at the start, after an opening bracket and after another
operator, and binary where an operand went before. -/

namespace Abacus.Registry

/-- An operand is due after a term of this role, or at the start. -/
def operandDue : Option Role → Bool
  | none | some .opening | some .binary | some .unary => true
  | _ => false

/-- The role of an operator. -/
def operatorRole (registry : Registry) (previous : Option Role) (lexeme : Text) :
    Except SyntaxError Role :=
  if operandDue previous then
    if registry.isUnary lexeme then .ok .unary else .error (.notUnary lexeme)
  else if registry.isBinary lexeme then .ok .binary
  else .error (.operatorAfterOperand lexeme)

/-- The role of a lexeme. -/
def role (registry : Registry) (previous : Option Role) (lexeme : Text) :
    Except SyntaxError Role :=
  if registry.isFunction lexeme then .ok .function
  else if lexeme.isNumeral then .ok .number
  else if lexeme.isVariable then .ok .letter
  else if lexeme = Text.openingBracket then .ok .opening
  else if lexeme = Text.closingBracket then .ok .closing
  else if registry.isBinary lexeme || registry.isUnary lexeme then
    registry.operatorRole previous lexeme
  else .error (.unknownLexeme lexeme)

/-- The terms of lexemes that follow a term of the given role. -/
def termsAfter (registry : Registry) (previous : Option Role) :
    List Text → Except SyntaxError (List Term)
  | [] => .ok []
  | lexeme :: rest => do
    let role ← registry.role previous lexeme
    let terms ← registry.termsAfter (some role) rest
    return ⟨lexeme, role⟩ :: terms

/-- The terms of a list of lexemes. -/
def terms (registry : Registry) (lexemes : List Text) : Except SyntaxError (List Term) :=
  registry.termsAfter none lexemes

end Abacus.Registry
