import Abacus.Store
import Abacus.Term

/-! The machine that runs a program on a stack of values. Numbers and variables put a value on the
stack; a function or operator takes as many as it needs, the last one first, and puts its result
there. The values may be of any kind: numbers, or whole columns of them. -/

namespace Abacus

/-- Why a program comes to no single value. -/
inductive MachineError where
  | underflow
  | imbalance
  | unexpectedTerm (text : Text)
  deriving DecidableEq

def MachineError.message : MachineError → Text
  | underflow => "stack underflow".toList
  | imbalance => "stack imbalance".toList
  | unexpectedTerm text => "unexpected term '".toList ++ text ++ ['\'']

/-- Why a program cannot be run. -/
inductive RunError where
  | machine (error : MachineError)
  /-- The registry has no function or operator of this text. -/
  | unregistered (text : Text)
  | store (error : StoreError)
  | conversion (error : ConversionError)
  deriving DecidableEq

def RunError.message : RunError → Text
  | machine error => error.message
  | unregistered text => text.quoted
  | store error => error.message
  | conversion error => error.message

/-- What a program's terms mean in values of some kind. -/
structure Machine (Value : Type) where
  constant : Float → Value
  lookup : Text → Except RunError Value
  unary : Unary → Value → Value
  binary : Binary → Value → Value → Value

namespace Machine
variable {Value : Type}

/-- The entry of a text. -/
def found (text : Text) {Entry : Type} (table : Table Text Entry) : Except RunError Entry :=
  match table.get? text with
  | some entry => .ok entry
  | none => .error (.unregistered text)

/-- The value on top and those below. -/
def pop : List Value → Except RunError (Value × List Value)
  | [] => .error (.machine .underflow)
  | top :: below => .ok (top, below)

/-- The value of a number or a variable. -/
def operand (machine : Machine Value) (term : Term) : Except RunError Value :=
  match term.role with
  | .number =>
    match Datum.readNumber term.text with
    | .ok number => .ok (machine.constant number)
    | .error error => .error (.conversion error)
  | _ => machine.lookup term.text

/-- The operation of a function or of a unary operator. -/
def unaryOf (registry : Registry) (term : Term) : Except RunError Unary :=
  match term.role with
  | .function => found term.text registry.functions
  | _ => found term.text registry.unary

/-- The operation of a binary operator. -/
def binaryOf (registry : Registry) (term : Term) : Except RunError Binary :=
  found term.text registry.binary

/-- The stack after a term. The operands are taken before the operation is looked up. -/
def step (machine : Machine Value) (registry : Registry) (stack : List Value) (term : Term) :
    Except RunError (List Value) :=
  match term.role with
  | .number | .letter => do return (← machine.operand term) :: stack
  | .unary | .function => do
    let (argument, below) ← pop stack
    let operation ← unaryOf registry term
    return machine.unary operation argument :: below
  | .binary => do
    let (right, below) ← pop stack
    let (left, below) ← pop below
    let operation ← binaryOf registry term
    return machine.binary operation left right :: below
  | .opening | .closing | .unassigned => .error (.machine (.unexpectedTerm term.text))

/-- The stack after a program. -/
def steps (machine : Machine Value) (registry : Registry) (stack : List Value) :
    List Term → Except RunError (List Value)
  | [] => .ok stack
  | term :: rest => do machine.steps registry (← machine.step registry stack term) rest

/-- The only value of a stack. -/
def single : List Value → Except RunError Value
  | [] => .error (.machine .underflow)
  | [value] => .ok value
  | _ => .error (.machine .imbalance)

/-- The value of a program. -/
def run (machine : Machine Value) (registry : Registry) (program : List Term) :
    Except RunError Value := do
  single (← machine.steps registry [] program)

theorem steps_append (machine : Machine Value) (registry : Registry) (stack : List Value)
    (left right : List Term) : machine.steps registry stack (left ++ right) =
      (machine.steps registry stack left).bind (machine.steps registry · right) := by
  induction left generalizing stack with
  | nil => rfl
  | cons term left ih =>
    simp only [List.cons_append, steps]
    cases machine.step registry stack term with
    | error => rfl
    | ok next => exact ih next

end Machine
end Abacus
