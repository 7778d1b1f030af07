/-! Tables of characters are lists of runs of code points. -/

namespace Abacus.Unicode

/-- A run of code points, both ends included. -/
abbrev Span := Nat × Nat

/-- One of the runs holds the code point. -/
def covers (spans : List Span) (code : Nat) : Bool :=
  spans.any fun span => span.1 ≤ code && code ≤ span.2

theorem covers_iff {spans : List Span} {code : Nat} :
    covers spans code = true ↔ ∃ span ∈ spans, span.1 ≤ code ∧ code ≤ span.2 := by
  simp [covers]

end Abacus.Unicode
