import Abacus.Text.Quoted
import Abacus.Unicode.Blank
import Abacus.Unicode.Numeral
import Abacus.Unicode.Upper

/-! The spelling of functions and operators. A function has a name in capitals and numerals that
starts with a letter; an operator is a single character that is none of these, no blank, no decimal
point and no bracket. -/

namespace Abacus

/-- Why a registry is refused. -/
inductive RegistryError where
  | functionName (name : Text)
  | functionAction (name : Text)
  | symbolCharacter (symbol : Text)
  | symbolLength (symbol : Text)
  | symbolPoint (symbol : Text)
  | symbolBracket (symbol : Text)
  | operatorAction (symbol : Text)
  | unknownPriorities (symbols : List Text)
  deriving DecidableEq

def RegistryError.message : RegistryError → Text
  | .functionName name => "Function name must be an uppercase identifier: ".toList ++ name.quoted
  | .functionAction name => "Function ".toList ++ name.quoted ++ " is not callable".toList
  | .symbolCharacter symbol => "Invalid operator symbol: ".toList ++ symbol.quoted
  | .symbolLength symbol =>
    "Operator symbol must be a single character: ".toList ++ symbol.quoted
  | .symbolPoint symbol =>
    "Operator symbol clashes with decimal separator: ".toList ++ symbol.quoted
  | .symbolBracket symbol => "Operator symbol clashes with bracket: ".toList ++ symbol.quoted
  | .operatorAction symbol => "Operator ".toList ++ symbol.quoted ++ " is not callable".toList
  | .unknownPriorities symbols =>
    "Priorities given for unknown binary operators: ".toList ++ Text.quotedList symbols

namespace Text

def openingBracket : Text := ['(']

def closingBracket : Text := [')']

/-- The text is a bracket. -/
def isBracket (text : Text) : Bool :=
  text == openingBracket || text == closingBracket

/-- The characters that stand for the decimal point. -/
def isPoint (char : Char) : Bool :=
  char == '.' || char == ','

/-- The text can name a function. -/
def isFunctionName (text : Text) : Bool :=
  Unicode.upper text == text && text.head?.any Unicode.isLetter && text.all Unicode.isAlphanumeric

/-- What keeps a text from being an operator. -/
def symbolFault? (text : Text) : Option RegistryError :=
  if text = [] ∨ text.any (fun char => Unicode.isAlphanumeric char || Unicode.isBlank char) then
    some (.symbolCharacter text)
  else if text.length ≠ 1 then some (.symbolLength text)
  else if text.any isPoint then some (.symbolPoint text)
  else if text.isBracket then some (.symbolBracket text)
  else none

/-- The text can be an operator. -/
def isOperatorSymbol (text : Text) : Bool :=
  text.symbolFault?.isNone

@[simp]
theorem isFunctionName_nil : isFunctionName [] = false := rfl

@[simp]
theorem isOperatorSymbol_nil : isOperatorSymbol [] = false := rfl

/-- An operator is one character, of no class that anything else in an expression is made of. -/
theorem isOperatorSymbol_iff {text : Text} :
    text.isOperatorSymbol = true ↔ ∃ char, text = [char] ∧ Unicode.isAlphanumeric char = false ∧
      Unicode.isBlank char = false ∧ isPoint char = false ∧ text.isBracket = false := by
  unfold isOperatorSymbol symbolFault?
  match text with
  | [] => simp
  | [char] => (repeat' split) <;> grind
  | char :: next :: rest => (repeat' split) <;> simp_all

end Text
end Abacus
