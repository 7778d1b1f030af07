import Abacus.Console.Arguments
import Abacus.Console.Assignment
import Abacus.Console.Transcript

/-! The console program: it evaluates one expression, or the lines of its input one by one, after
setting variables. -/

namespace Abacus.Console

/-- The exit code of a command line, and of assignments, that cannot be understood. -/
def misuse : Nat := 2

/-- The printed text and the exit code of a run. -/
def run (options : Options) (input : Text) : Transcript Nat :=
  match bindings options.assignments with
  | .error error => ⟨errorLine error.message, .ok misuse⟩
  | .ok store =>
    let assignments := store.items.map fun item => (.text item.1, .number item.2)
    match options.expression with
    | none =>
      let transcript := many assignments options.traced (sources input)
      ⟨transcript.text, transcript.ending.map fun _ => 0⟩
    | some source =>
      let transcript := single assignments options.traced source
      match transcript.ending with
      | .ok () => ⟨transcript.text, .ok 0⟩
      | .error failure =>
        if failure.isExpression then
          ⟨transcript.text ++ errorLine failure.message, .ok 1⟩
        else ⟨transcript.text, .error failure⟩

/-- The text that explains the options. -/
def usage : Text :=
  line "Evaluate arithmetic expressions line by line".toList ++
    (Switch.all.map fun switch => line (' ' :: ' ' :: switch.name)).flatten

/-- The printed text and the exit code of a request. -/
def answer (request : Request) (input : Text) : Transcript Nat :=
  match request with
  | .help => ⟨usage, .ok 0⟩
  | .refused => ⟨[], .ok misuse⟩
  | .run options => run options input

end Abacus.Console
