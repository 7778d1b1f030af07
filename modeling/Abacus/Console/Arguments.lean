import Abacus.Text
import Abacus.Unicode.Numeral

/-! The arguments of the command line. An option may be shortened as long as only one option starts
that way, and takes its value from the next argument or from behind an equals sign. -/

namespace Abacus.Console

/-- What the command line asks for. -/
structure Options where
  /-- The only expression to evaluate; without one, those of the input are evaluated. -/
  expression : Option Text
  assignments : List Text
  traced : Bool
  /-- How much is logged, which is no part of the output. -/
  logLevel : Text

namespace Options

/-- What an empty command line asks for. -/
def usual : Options := ⟨none, [], true, "WARNING".toList⟩

end Options

/-- The options. -/
inductive Switch where
  | help
  | expression
  | assignment
  | untraced
  | logLevel
  deriving DecidableEq

namespace Switch

def name : Switch → Text
  | help => "--help".toList
  | expression => "--expression".toList
  | assignment => "--var".toList
  | untraced => "--no_trace".toList
  | logLevel => "--log_level".toList

def all : List Switch := [help, expression, assignment, untraced, logLevel]

/-- The options of that name, or else those whose names start with it. -/
def candidates (text : Text) : List Switch :=
  match all.find? (·.name = text) with
  | some switch => [switch]
  | none => all.filter fun switch => text.isPrefixOf switch.name

end Switch

/-- An argument by its form. -/
inductive Argument where
  | value (text : Text)
  | switch (switch : Switch) (attached : Option Text)
  | ambiguous
  | unknown

namespace Argument

/-- A minus sign and digits, with a point before the last of them or none; one line end may
follow. -/
def isNegativeNumber : Text → Bool
  | '-' :: rest =>
    let digits := match rest.getLast? with
      | some '\n' => rest.dropLast
      | _ => rest
    match digits.dropWhile Unicode.isDigit with
    | [] => !digits.isEmpty
    | '.' :: fraction => !fraction.isEmpty && fraction.all Unicode.isDigit
    | _ => false
  | _ => false

/-- A minus sign at the start tells an option from a value, except in negative numbers and in
texts with a space. -/
def otherwise (text : Text) : Argument :=
  if isNegativeNumber text || text.contains ' ' then value text else unknown

/-- The form of an argument. -/
def ofText : Text → Argument
  | '-' :: '-' :: rest =>
    let text := '-' :: '-' :: rest
    let (name, attached) := match Text.cut? '=' text with
      | some (before, after) => (before, some after)
      | none => (text, none)
    match Switch.candidates name with
    | [] => otherwise text
    | [found] => switch found attached
    | _ => ambiguous
  | ['-', 'h'] => switch .help none
  | '-' :: 'h' :: rest => switch .help (some rest)
  | '-' :: char :: rest => otherwise ('-' :: char :: rest)
  | text => value text

end Argument

/-- What the arguments ask for. -/
inductive Request where
  | help
  | run (options : Options)
  | refused

namespace Request

/-- The request of arguments that come after the given options. A value that belongs to no option
and an unknown option are refused. -/
def ofArguments (options : Options) : List Argument → Request
  | [] => run options
  | .switch .help none :: _ => help
  | .switch .untraced none :: rest => ofArguments { options with traced := false } rest
  | .switch .expression (some text) :: rest
  | .switch .expression none :: .value text :: rest =>
    ofArguments { options with expression := some text } rest
  | .switch .assignment (some text) :: rest
  | .switch .assignment none :: .value text :: rest =>
    ofArguments { options with assignments := options.assignments ++ [text] } rest
  | .switch .logLevel (some text) :: rest
  | .switch .logLevel none :: .value text :: rest =>
    ofArguments { options with logLevel := text } rest
  | _ => refused

/-- The request of a command line. Two hyphens alone would make all that follows values, and there
is no place for these. -/
def ofTexts (texts : List Text) : Request :=
  if texts.contains ['-', '-'] then refused
  else ofArguments .usual (texts.map Argument.ofText)

/-- The request needs the input. -/
def readsInput : Request → Bool
  | run options => options.expression.isNone
  | _ => false

end Request
end Abacus.Console
