import Abacus.Text

/-! The errors of form that an expression can have. -/

namespace Abacus

/-- Why lexemes make up no expression, in the order in which the steps find it out. -/
inductive SyntaxError where
  | operatorAfterOperand (lexeme : Text)
  | notUnary (lexeme : Text)
  | unknownLexeme (lexeme : Text)
  | empty
  | unexpectedTerm (text : Text)
  | unmatchedClosing
  | unmatchedOpening
  | incomplete
  | missingOperator
  deriving DecidableEq

namespace SyntaxError

private def operator (lexeme : Text) (fault : String) : Text :=
  "operator '".toList ++ lexeme ++ "' ".toList ++ fault.toList

def message : SyntaxError → Text
  | operatorAfterOperand lexeme => operator lexeme "cannot follow an operand"
  | notUnary lexeme => operator lexeme "cannot be used as unary"
  | unknownLexeme lexeme => "unrecognized lexeme '".toList ++ lexeme ++ ['\'']
  | empty => "empty expression".toList
  | unexpectedTerm text => "unexpected term '".toList ++ text ++ ['\'']
  | unmatchedClosing => "unmatched closing bracket".toList
  | unmatchedOpening => "unmatched opening bracket".toList
  | incomplete => "incomplete expression".toList
  | missingOperator => "missing operator".toList

end SyntaxError
end Abacus
