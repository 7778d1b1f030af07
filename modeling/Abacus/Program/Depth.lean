import Abacus.Term
import Abacus.Term.Syntax

/-! The depth of a program: how many values are left when each operand adds one, and each operator
takes as many as it needs and gives one back. -/

namespace Abacus.Program

/-- The depth after a term, if there are values enough. -/
def depthAfter (depth : Nat) (term : Term) : Option Nat :=
  match term.role with
  | .number | .letter => some (depth + 1)
  | .binary => if depth < 2 then none else some (depth - 1)
  | _ => if depth < 1 then none else some depth

/-- The depth after terms that start at the given depth. -/
def depthFrom (depth : Nat) : List Term → Option Nat
  | [] => some depth
  | term :: rest => (depthAfter depth term).bind (depthFrom · rest)

/-- The depth of a program, unless some term finds too few values. -/
def depth? (program : List Term) : Option Nat :=
  depthFrom 0 program

/-- A program has to leave exactly one value. -/
def checked (program : List Term) : Except SyntaxError Unit :=
  match depth? program with
  | none | some 0 => .error .incomplete
  | some 1 => .ok ()
  | some _ => .error .missingOperator

theorem checked_eq_ok_iff {program : List Term} :
    checked program = .ok () ↔ depth? program = some 1 := by
  unfold checked
  split <;> simp_all

theorem depthFrom_append (depth : Nat) (left right : List Term) :
    depthFrom depth (left ++ right) = (depthFrom depth left).bind (depthFrom · right) := by
  induction left generalizing depth with
  | nil => rfl
  | cons term left ih =>
    simp only [List.cons_append, depthFrom]
    cases depthAfter depth term with
    | none => rfl
    | some next => exact ih next

end Abacus.Program
