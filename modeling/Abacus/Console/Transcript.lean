import Abacus.Failure
import Abacus.Registry.Standard

/-! Transcripts: what is printed when source texts are evaluated one after the other. A text that
is no expression is reported in its place, and the next one is evaluated all the same. -/

namespace Abacus.Console

/-- What was printed, and how it ended. -/
structure Transcript (Result : Type) where
  text : Text
  ending : Except Failure Result

/-- A line of output. -/
def line (text : Text) : Text :=
  text ++ ['\n']

/-- A line that reports an error. -/
def errorLine (message : Text) : Text :=
  line ("Error: ".toList ++ message)

/-- The evaluation of one source text in the standard registry: its program, if it is to be traced,
and its value. -/
def single (assignments : List (Label × Datum)) (traced : Bool) (source : Text) :
    Transcript Unit :=
  match Expression.parse .standard source with
  | .error error => ⟨[], .error (.parse error)⟩
  | .ok expression =>
    match Store.ofList assignments with
    | .error error => ⟨[], .error (.store error)⟩
    | .ok store =>
      let trace := if traced then line expression.trace else []
      match expression.value store with
      | .error error => ⟨trace, .error (.run error)⟩
      | .ok number => ⟨trace ++ line (Decimal.ofFloat number), .ok ()⟩

/-- The evaluation of source texts one after the other, an empty line after each. The result counts
the texts that are no expressions; any other failure ends the transcript. -/
def many (assignments : List (Label × Datum)) (traced : Bool) : List Text → Transcript Nat
  | [] => ⟨[], .ok 0⟩
  | source :: rest =>
    let first := single assignments traced source
    let others := many assignments traced rest
    match first.ending with
    | .ok () => ⟨first.text ++ line [] ++ others.text, others.ending⟩
    | .error failure =>
      if failure.isExpression then
        ⟨first.text ++ errorLine failure.message ++ line [] ++ others.text,
          others.ending.map (· + 1)⟩
      else ⟨first.text, .error failure⟩

/-- The lines of an input, without the line ends of either kind. -/
def sources (input : Text) : List Text :=
  (Text.lines '\n' input).map (Text.trimRight fun char => char == '\r' || char == '\n')

end Abacus.Console
