import Abacus.Proofs.Juxtaposition

/-! Matching brackets. Where every operator is stronger than a bracket, the brackets among the terms
alone decide whether one of them is reported: a closing bracket if some start of the terms closes
more brackets than it opens, and otherwise an opening bracket if one stays open to the end. Whatever
else is wrong is found in the program. -/

namespace Abacus.Program

/-- The closing brackets among the terms. -/
def closings (terms : List Term) : Nat :=
  terms.countP (·.role = .closing)

/-- Some start of the terms closes more brackets than it opens. -/
def ClosesUnopened (terms : List Term) : Prop :=
  ∃ start, start <+: terms ∧ opened start < closings start

/-- Every bracket has its partner among the terms. -/
def Matched (terms : List Term) : Prop :=
  ¬ClosesUnopened terms ∧ closings terms = opened terms

/-- The terms are refused with a message. -/
def Refused (registry : Registry) (terms : List Term) (message : Text) : Prop :=
  ∃ error, arranged registry terms = .error error ∧ error.message = message

theorem opened_cons (term : Term) (terms : List Term) :
    opened (term :: terms) = opened [term] + opened terms := by
  rw [← List.singleton_append, opened, List.countP_append]
  rfl

theorem closings_cons (term : Term) (terms : List Term) :
    closings (term :: terms) = closings [term] + closings terms := by
  rw [← List.singleton_append, closings, List.countP_append]
  rfl

/-- A term opens or closes at most one bracket, and it closes none that is not open. -/
theorem openAfter_cons (depth : Nat) (term : Term) (rest : List Term) :
    openAfter depth (term :: rest) =
      if depth + opened [term] < closings [term] then none
      else openAfter (depth + opened [term] - closings [term]) rest := by
  cases role : term.role <;> cases depth <;> simp [openAfter, opened, closings, role]

/-- A bracket is closed that was never opened exactly if some start closes too many. -/
theorem openAfter_eq_none_iff {depth : Nat} {terms : List Term} :
    openAfter depth terms = none ↔
      ∃ start, start <+: terms ∧ depth + opened start < closings start := by
  induction terms generalizing depth with
  | nil => simp [openAfter, opened, closings]
  | cons term rest ih =>
    rw [openAfter_cons]
    split
    · rename_i stuck
      exact iff_of_true rfl ⟨[term], ⟨rest, rfl⟩, stuck⟩
    · rw [ih]
      constructor
      · rintro ⟨start, begins, more⟩
        refine ⟨term :: start, (List.prefix_cons_inj term).mpr begins, ?_⟩
        rw [opened_cons, closings_cons]
        omega
      · rintro ⟨start, begins, more⟩
        rcases List.prefix_cons_iff.mp begins with rfl | ⟨later, rfl, within⟩
        · simp [closings] at more
        · rw [opened_cons, closings_cons] at more
          exact ⟨later, within, by omega⟩

/-- The brackets that stay open are those that were opened and not closed. -/
theorem opened_of_openAfter {depth left : Nat} {terms : List Term}
    (found : openAfter depth terms = some left) :
    depth + opened terms = left + closings terms := by
  induction terms generalizing depth with
  | nil =>
    cases found
    rfl
  | cons term rest ih =>
    rw [openAfter_cons] at found
    split at found
    · cases found
    · have later := ih found
      rw [opened_cons, closings_cons]
      omega

theorem openAfter_zero_eq_none_iff {terms : List Term} :
    openAfter 0 terms = none ↔ ClosesUnopened terms := by
  simp [openAfter_eq_none_iff, ClosesUnopened]

theorem matched_iff {terms : List Term} : Matched terms ↔ openAfter 0 terms = some 0 := by
  rw [Matched, ← openAfter_zero_eq_none_iff]
  cases found : openAfter 0 terms with
  | none => simp
  | some left =>
    have count := opened_of_openAfter found
    simp only [reduceCtorEq, not_false_eq_true, true_and, Option.some.injEq]
    omega

/-- The bracket that is reported, given how many stay open. -/
def bracketFault? : Option Nat → Option SyntaxError
  | none => some .unmatchedClosing
  | some 0 => none
  | some (_ + 1) => some .unmatchedOpening

theorem closed?_eq_none_iff {stack : List Term} : closed? stack = none ↔ opened stack = 0 := by
  induction stack with
  | nil => simp [closed?, opened]
  | cons top stack ih =>
    by_cases opens : top.role = .opening
    · simp [closed?, opened, opens]
    · simpa [closed?, opened, opens] using ih

theorem drained_eq_error_iff {stack : List Term} {error : SyntaxError} :
    drained stack = .error error ↔ bracketFault? (some (opened stack)) = some error := by
  induction stack with
  | nil => simp [drained, opened, bracketFault?]
  | cons top stack ih =>
    by_cases opens : top.role = .opening
    · simp [drained, opened, opens, bracketFault?]
    · have same : opened (top :: stack) = opened stack := by simp [opened, opens]
      rw [drained, if_neg opens, Outcome.map_eq_error_iff, ih, same]

/-- The brackets decide whether there is a program at all. -/
theorem arrangedFrom_eq_error_iff {registry : Registry} {stack terms : List Term}
    (waits : Waits stack) (above : Above registry terms)
    (assigned : ∀ term ∈ terms, term.role ≠ .unassigned) {error : SyntaxError} :
    arrangedFrom registry stack terms = .error error ↔
      bracketFault? (openAfter (opened stack) terms) = some error := by
  induction terms generalizing stack with
  | nil => exact drained_eq_error_iff
  | cons term rest ih =>
    rcases moves_or_stuck registry stack term with ⟨sent, left, moves⟩ | ⟨role, stuck⟩ | role
    · obtain ⟨leftWaits, -, opens⟩ := moves.conserves waits (above term (by simp))
      rw [moves.arrangedFrom_cons, Outcome.map_eq_error_iff, opens]
      exact ih leftWaits above.tail fun other member => assigned other (by simp [member])
    · have none := closed?_eq_none_iff.mp stuck
      simp [arrangedFrom, openAfter, role, stuck, none, bracketFault?]
    · exact absurd role (assigned term (by simp))

/-- A program that is refused leaves no value or several. -/
theorem eq_of_checked {program : List Term} {error : SyntaxError}
    (found : checked program = .error error) : error = .incomplete ∨ error = .missingOperator := by
  unfold checked at found
  split at found <;> cases found <;> simp

/-- Terms are refused for their brackets or for their program. -/
theorem arranged_eq_error_iff {registry : Registry} {terms : List Term} (nonempty : terms ≠ [])
    {error : SyntaxError} : arranged registry terms = .error error ↔
      arrangedFrom registry [] terms = .error error ∨
      ∃ program, arrangedFrom registry [] terms = .ok program ∧ checked program = .error error := by
  have ended (program : List Term) :
      (do checked program; return program) = (.error error : Except SyntaxError (List Term)) ↔
        checked program = .error error := by
    rw [Outcome.bind_eq_error_iff]
    simp [pure, Except.pure]
  simp only [arranged, List.isEmpty_iff, nonempty, ↓reduceIte, Outcome.bind_eq_error_iff, ended]

/-- What terms can be refused for, whatever their order. -/
def faults : List SyntaxError :=
  [.unmatchedClosing, .unmatchedOpening, .incomplete, .missingOperator]

theorem message_faults : ∀ error ∈ faults, ∀ other ∈ faults,
    error.message = other.message → error = other := by
  decide

section Faults
variable {registry : Registry} {terms : List Term}
  (above : ∀ symbol, Priority.bracket < registry.priority symbol)
  (nonempty : terms ≠ []) (assigned : ∀ term ∈ terms, term.role ≠ .unassigned)
include above nonempty assigned

private theorem refusal_iff {error : SyntaxError} : arranged registry terms = .error error ↔
    bracketFault? (openAfter 0 terms) = some error ∨
      ∃ program, arrangedFrom registry [] terms = .ok program ∧ checked program = .error error := by
  rw [arranged_eq_error_iff nonempty]
  exact or_congr_left <| @arrangedFrom_eq_error_iff registry [] terms (by simp [Waits])
    (fun term _ _ => above term.text) assigned error

private theorem mem_faults {error : SyntaxError}
    (found : arranged registry terms = .error error) : error ∈ faults := by
  rcases (refusal_iff above nonempty assigned).mp found with bracket | ⟨program, -, check⟩
  · unfold bracketFault? at bracket
    split at bracket <;> cases bracket <;> simp [faults]
  · rcases eq_of_checked check with rfl | rfl <;> simp [faults]

/-- A message about a bracket is given exactly for the bracket. -/
private theorem refused_bracket_iff {error : SyntaxError}
    (bracket : error = .unmatchedClosing ∨ error = .unmatchedOpening) :
    Refused registry terms error.message ↔
      bracketFault? (openAfter 0 terms) = some error := by
  constructor
  · rintro ⟨other, found, same⟩
    have listed : error ∈ faults := by rcases bracket with rfl | rfl <;> simp [faults]
    obtain rfl := message_faults other (mem_faults above nonempty assigned found) error listed same
    rcases (refusal_iff above nonempty assigned).mp found with fault | ⟨program, -, check⟩
    · exact fault
    · rcases eq_of_checked check with rfl | rfl <;> simp at bracket
  · intro fault
    exact ⟨error, (refusal_iff above nonempty assigned).mpr (.inl fault), rfl⟩

/-- Where every operator is stronger than a bracket, a closing bracket is reported exactly if some
start of the terms closes more brackets than it opens, and an opening bracket exactly if no start
does and the terms as a whole open more than they close. All other terms that are refused are
incomplete or lack an operator. -/
theorem arranged_unmatched_iff :
    (Refused registry terms "unmatched closing bracket".toList ↔ ClosesUnopened terms) ∧
    (Refused registry terms "unmatched opening bracket".toList ↔
      ¬ClosesUnopened terms ∧ closings terms < opened terms) ∧
    ∀ message, Refused registry terms message →
      message = "unmatched closing bracket".toList ∨ message = "unmatched opening bracket".toList ∨
      message = "incomplete expression".toList ∨ message = "missing operator".toList := by
  refine ⟨?_, ?_, ?_⟩
  · rw [← openAfter_zero_eq_none_iff]
    refine (refused_bracket_iff above nonempty assigned (.inl rfl)).trans ?_
    rcases openAfter 0 terms with _ | _ | left <;> simp [bracketFault?]
  · rw [← openAfter_zero_eq_none_iff]
    refine (refused_bracket_iff above nonempty assigned (.inr rfl)).trans ?_
    cases found : openAfter 0 terms with
    | none => simp [bracketFault?]
    | some left =>
      have count := opened_of_openAfter found
      cases left with
      | zero => simp [bracketFault?]; omega
      | succ left => simp [bracketFault?]; omega
  · rintro message ⟨error, found, same⟩
    have listed := mem_faults above nonempty assigned found
    simp only [faults, List.mem_cons, List.not_mem_nil, or_false] at listed
    rcases listed with rfl | rfl | rfl | rfl
    · exact .inl same.symm
    · exact .inr (.inl same.symm)
    · exact .inr (.inr (.inl same.symm))
    · exact .inr (.inr (.inr same.symm))

end Faults

/-- The brackets of `1)+(2` are as many of one kind as of the other, but the first one closes
none. -/
theorem refused_turned_brackets :
    let terms : List Term := [⟨['1'], .number⟩, ⟨[')'], .closing⟩, ⟨['+'], .binary⟩,
      ⟨['('], .opening⟩, ⟨['2'], .number⟩]
    (∀ symbol, Priority.bracket < Registry.standard.priority symbol) ∧ terms ≠ [] ∧
    (∀ term ∈ terms, term.role ≠ .unassigned) ∧
    Refused Registry.standard terms "unmatched closing bracket".toList := by
  intro terms
  have above (symbol : Text) : Priority.bracket < Registry.standard.priority symbol :=
    (Registry.priority_standard symbol).1
  have assigned : ∀ term ∈ terms, term.role ≠ .unassigned := by decide
  have closes : ClosesUnopened terms := ⟨terms.take 2, List.take_prefix 2 terms, by decide⟩
  exact ⟨above, by simp [terms], assigned,
    (arranged_unmatched_iff above (by simp [terms]) assigned).1.mpr closes⟩

end Abacus.Program
