import Abacus.Program.Machine
import Mathlib.Data.List.Forall2

/-! Two machines side by side. If the values of every operand are related, and every operation gives
related results for related arguments, then a program brings both machines to related values, or it
fails in both of them and in the same way. -/

namespace Abacus.Machine

/-- Two outcomes that agree: related values, or the same failure of the machine. -/
inductive Agree {First Second : Type} (related : First → Second → Prop) :
    Except RunError First → Except RunError Second → Prop where
  | ok {first : First} {second : Second} (same : related first second) :
    Agree related (.ok first) (.ok second)
  | error (error : MachineError) : Agree related (.error (.machine error)) (.error (.machine error))

theorem Agree.bind {First Second Third Fourth : Type} {related : First → Second → Prop}
    {result : Third → Fourth → Prop} {first : Except RunError First}
    {second : Except RunError Second} (agree : Agree related first second)
    {next : First → Except RunError Third} {other : Second → Except RunError Fourth}
    (follows : ∀ value image, related value image → Agree result (next value) (other image)) :
    Agree result (first >>= next) (second >>= other) := by
  cases agree with
  | ok same => exact follows _ _ same
  | error error => exact .error error

/-- What a value of one machine says about the outcome of the other. -/
theorem Agree.exists_of_ok {First Second : Type} {related : First → Second → Prop} {first : First}
    {second : Except RunError Second} (agree : Agree related (.ok first) second) :
    ∃ image, second = .ok image ∧ related first image := by
  cases agree with
  | ok same => exact ⟨_, rfl, same⟩

/-- What a failure of one machine says about the outcome of the other. -/
theorem Agree.exists_of_error {First Second : Type} {related : First → Second → Prop}
    {failure : RunError} {second : Except RunError Second}
    (agree : Agree related (.error failure) second) :
    ∃ error, failure = .machine error ∧ second = .error (.machine error) := by
  cases agree with
  | error error => exact ⟨error, rfl, rfl⟩

variable {Left Right : Type} {related : Left → Right → Prop} {left : Machine Left}
  {right : Machine Right} {registry : Registry}

/-- A term keeps the relation between the values of two machines. -/
def Keeps (related : Left → Right → Prop) (left : Machine Left) (right : Machine Right)
    (registry : Registry) (term : Term) : Prop :=
  match term.role with
  | .number | .letter => ∃ first second,
    left.operand term = .ok first ∧ right.operand term = .ok second ∧ related first second
  | .unary | .function => ∃ operation, unaryOf registry term = .ok operation ∧
    ∀ first second, related first second →
      related (left.unary operation first) (right.unary operation second)
  | .binary => ∃ operation, binaryOf registry term = .ok operation ∧
    ∀ first second, related first second → ∀ third fourth, related third fourth →
      related (left.binary operation first third) (right.binary operation second fourth)
  | .opening | .closing | .unassigned => True

theorem pop_agree {stack : List Left} {image : List Right}
    (paired : List.Forall₂ related stack image) :
    Agree (fun (first : Left × List Left) (second : Right × List Right) =>
      related first.1 second.1 ∧ List.Forall₂ related first.2 second.2)
      (pop stack) (pop image) := by
  cases paired with
  | nil => exact .error .underflow
  | cons top below => exact .ok ⟨top, below⟩

theorem step_agree {term : Term} (keeps : Keeps related left right registry term)
    {stack : List Left} {image : List Right} (paired : List.Forall₂ related stack image) :
    Agree (List.Forall₂ related) (left.step registry stack term)
      (right.step registry image term) := by
  unfold Keeps at keeps
  unfold step
  cases role : term.role with
  | number | letter =>
    rw [role] at keeps
    obtain ⟨first, second, known, image, same⟩ := keeps
    rw [known, image]
    exact .ok (.cons same paired)
  | unary | function =>
    rw [role] at keeps
    obtain ⟨operation, known, follows⟩ := keeps
    refine (pop_agree paired).bind fun first second tops => ?_
    rw [known]
    exact .ok (.cons (follows _ _ tops.1) tops.2)
  | binary =>
    rw [role] at keeps
    obtain ⟨operation, known, follows⟩ := keeps
    refine (pop_agree paired).bind fun first second tops => ?_
    refine (pop_agree tops.2).bind fun third fourth others => ?_
    rw [known]
    exact .ok (.cons (follows _ _ others.1 _ _ tops.1) others.2)
  | opening | closing | unassigned => exact .error (.unexpectedTerm term.text)

theorem steps_agree {program : List Term}
    (keeps : ∀ term ∈ program, Keeps related left right registry term) {stack : List Left}
    {image : List Right} (paired : List.Forall₂ related stack image) :
    Agree (List.Forall₂ related) (left.steps registry stack program)
      (right.steps registry image program) := by
  induction program generalizing stack image with
  | nil => exact .ok paired
  | cons term rest ih =>
    exact (step_agree (keeps term (by simp)) paired).bind fun _ _ next =>
      ih (fun other member => keeps other (by simp [member])) next

theorem single_agree {stack : List Left} {image : List Right}
    (paired : List.Forall₂ related stack image) :
    Agree related (single stack) (single image) := by
  cases paired with
  | nil => exact .error .underflow
  | cons top below =>
    cases below with
    | nil => exact .ok top
    | cons next others => exact .error .imbalance

/-- Two machines agree on every program whose terms keep the relation between their values. -/
theorem run_agree {program : List Term}
    (keeps : ∀ term ∈ program, Keeps related left right registry term) :
    Agree related (left.run registry program) (right.run registry program) :=
  (steps_agree keeps .nil).bind fun _ _ => single_agree

end Abacus.Machine
