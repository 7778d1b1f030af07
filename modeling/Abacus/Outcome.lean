/-! Outcomes: a value or an error. A step behind another one succeeds only behind a success, and of
several errors the first one counts. -/

namespace Abacus.Outcome
variable {Value Result Error : Type} {outcome : Except Error Value}

theorem map_eq_ok_iff {change : Value → Result} {result : Result} :
    outcome.map change = .ok result ↔ ∃ value, outcome = .ok value ∧ change value = result := by
  cases outcome <;> simp [Except.map]

theorem map_eq_error_iff {change : Value → Result} {error : Error} :
    outcome.map change = .error error ↔ outcome = .error error := by
  cases outcome <;> simp [Except.map]

theorem bind_eq_ok_iff {step : Value → Except Error Result} {result : Result} :
    (outcome >>= step) = .ok result ↔ ∃ value, outcome = .ok value ∧ step value = .ok result := by
  cases outcome <;> simp [bind, Except.bind]

theorem bind_eq_error_iff {step : Value → Except Error Result} {error : Error} :
    (outcome >>= step) = .error error ↔
      outcome = .error error ∨ ∃ value, outcome = .ok value ∧ step value = .error error := by
  cases outcome <;> simp [bind, Except.bind]

theorem mapError_eq_ok_iff {Fault : Type} {change : Error → Fault} {value : Value} :
    outcome.mapError change = .ok value ↔ outcome = .ok value := by
  cases outcome with
  | ok found =>
    exact ⟨fun same => congrArg Except.ok (Except.ok.inj same),
      fun same => congrArg Except.ok (Except.ok.inj same)⟩
  | error => constructor <;> intro impossible <;> cases impossible

theorem mapError_eq_error_iff {Fault : Type} {change : Error → Fault} {fault : Fault} :
    outcome.mapError change = .error fault ↔
      ∃ error, outcome = .error error ∧ change error = fault := by
  cases outcome with
  | ok =>
    constructor
    · intro impossible
      cases impossible
    · rintro ⟨_, impossible, -⟩
      cases impossible
  | error error =>
    constructor
    · exact fun same => ⟨error, rfl, Except.error.inj same⟩
    · rintro ⟨_, ⟨⟩, rfl⟩
      rfl

/-- The error of an outcome that has no value. -/
def error? : Except Error Value → Option Error
  | .ok _ => none
  | .error error => some error

theorem error?_eq_some_iff {error : Error} :
    error? outcome = some error ↔ outcome = .error error := by
  cases outcome <;> simp [error?]

theorem error?_eq_none_iff : error? outcome = none ↔ ∃ value, outcome = .ok value := by
  cases outcome <;> simp [error?]

theorem error?_map (change : Value → Result) : error? (outcome.map change) = error? outcome := by
  cases outcome <;> rfl

theorem error?_mapError {Fault : Type} (change : Error → Fault) :
    error? (outcome.mapError change) = (error? outcome).map change := by
  cases outcome <;> rfl

/-- Items are read one after the other, up to the first that cannot be read. -/
theorem error?_mapM {Item : Type} (read : Item → Except Error Value) (items : List Item) :
    error? (items.mapM read) = items.findSome? fun item => error? (read item) := by
  induction items with
  | nil => rfl
  | cons item items ih =>
    rw [List.mapM_cons, List.findSome?_cons, ← ih]
    cases read item with
    | error error => rfl
    | ok value => cases items.mapM read <;> rfl

end Abacus.Outcome
