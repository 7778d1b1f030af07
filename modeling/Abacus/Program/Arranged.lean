import Abacus.Program.Depth

/-! Programs of expressions: the terms in the order in which they act, operands before the operator
that takes them, without brackets. Terms that wait for their operands stand on a stack. -/

namespace Abacus.Program

/-- What a closing bracket sends to the program and what it leaves on the stack: all terms down to
the opening bracket go, and the bracket with them. -/
def closed? : List Term → Option (List Term × List Term)
  | [] => none
  | top :: below =>
    if top.role = .opening then some ([], below)
    else (closed? below).map fun (sent, left) => (top :: sent, left)

/-- The terms left on the stack at the end, unless an opening bracket is among them. -/
def drained : List Term → Except SyntaxError (List Term)
  | [] => .ok []
  | top :: below =>
    if top.role = .opening then .error .unmatchedOpening
    else (drained below).map (top :: ·)

/-- The top of the stack acts before an operator. A binary operator lets those of its own priority
go first, so that equal ones group to the left; a unary operator does not. -/
def goesFirst (registry : Registry) (operator top : Term) : Bool :=
  match operator.role with
  | .binary => operator.priority registry ≤ top.priority registry
  | _ => operator.priority registry < top.priority registry

/-- The program of the terms, given the stack that waits for them. -/
def arrangedFrom (registry : Registry) (stack : List Term) :
    List Term → Except SyntaxError (List Term)
  | [] => drained stack
  | term :: rest =>
    match term.role with
    | .number | .letter => (arrangedFrom registry stack rest).map (term :: ·)
    | .function | .opening => arrangedFrom registry (term :: stack) rest
    | .closing =>
      match closed? stack with
      | none => .error .unmatchedClosing
      | some (sent, left) => (arrangedFrom registry left rest).map (sent ++ ·)
    | .unary | .binary =>
      let sent := stack.takeWhile (goesFirst registry term)
      let left := stack.dropWhile (goesFirst registry term)
      (arrangedFrom registry (term :: left) rest).map (sent ++ ·)
    | .unassigned => .error (.unexpectedTerm term.text)

/-- The program of an expression. -/
def arranged (registry : Registry) (terms : List Term) : Except SyntaxError (List Term) :=
  if terms.isEmpty then .error .empty
  else do
    let program ← arrangedFrom registry [] terms
    checked program
    return program

end Abacus.Program
