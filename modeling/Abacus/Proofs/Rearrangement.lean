import Abacus.Proofs.Matching
import Mathlib.Data.List.Infix

/-! Rearrangement. Where every operator is stronger than a bracket, terms only change their places
on the way to the program. Equal terms are told apart by the places where they are written: each
place that holds no bracket is taken once, operands keep their order, and what stands between two
matching brackets stays together. -/

namespace Abacus.Program

/-- Terms with their places, in the order of a program: each term but the brackets stands there
once, operands stand in the order in which they are written, and the terms between two brackets that
match stand together. -/
structure Rearranges (terms : List Term) (placed : List (Term × Nat)) : Prop where
  once : placed.Perm (withoutBrackets (·.1.role) terms.zipIdx)
  operands : placed.filter (·.1.role.isOperand) = terms.zipIdx.filter (·.1.role.isOperand)
  groups : ∀ before opening inner closing after,
    terms.zipIdx = before ++ opening :: (inner ++ closing :: after) →
    opening.1.role = .opening → closing.1.role = .closing → Matched (inner.map Prod.fst) →
    ∃ block, block <:+: placed ∧ block.Perm (withoutBrackets (·.1.role) inner)

section Order
variable {Item : Type} {role : Item → Role} {stack items sent left : List Item} {item : Item}

/-- Where no operand waits, an item is sent out at once if it is one, and otherwise none is. -/
theorem Shifts.operands (shifts : Shifts role stack item sent left)
    (idle : ∀ item ∈ stack, (role item).isOperand = false) :
    sent.filter (role · |>.isOperand) = [item].filter (role · |>.isOperand) ∧
      ∀ item ∈ left, (role item).isOperand = false := by
  constructor
  · have none (rest : List Item) (parts : stack = sent ++ rest) :
        ∀ other ∈ sent, (role other).isOperand = false :=
      fun other member => idle other (by simp [parts, member])
    cases shifts with
    | operand => rfl
    | pushed waits => rcases waits with role | role <;> simp [role, Role.isOperand]
    | closed closes _ parts => simpa [closes, Role.isOperand] using none _ parts
    | operator acts parts =>
      rcases acts with role | role <;> simpa [role, Role.isOperand] using none _ parts
  · intro other member
    rcases shifts.mem_left member with below | ⟨rfl, plain, -⟩
    · exact idle other below
    · exact plain

theorem Passes.operands (passes : Passes role stack items sent left)
    (idle : ∀ item ∈ stack, (role item).isOperand = false) :
    sent.filter (role · |>.isOperand) = items.filter (role · |>.isOperand) ∧
      ∀ item ∈ left, (role item).isOperand = false := by
  induction passes with
  | done => exact ⟨rfl, idle⟩
  | @step stack sent left rest later final item shifts passes ih =>
    obtain ⟨same, leftIdle⟩ := shifts.operands idle
    obtain ⟨others, finalIdle⟩ := ih leftIdle
    refine ⟨?_, finalIdle⟩
    rw [List.filter_append, same, others, ← List.filter_append, List.singleton_append]

/-- Items pass in two parts. -/
theorem Passes.of_append {first second : List Item}
    (passes : Passes role stack (first ++ second) sent left) : ∃ front behind middle,
      Passes role stack first front middle ∧ Passes role middle second behind left ∧
        sent = front ++ behind := by
  induction first generalizing stack sent with
  | nil => exact ⟨[], sent, stack, .done, passes, rfl⟩
  | cons item first ih =>
    cases passes with
    | @step _ out next _ later _ _ shifts passes =>
      obtain ⟨front, behind, middle, earlier, others, rfl⟩ := ih passes
      exact ⟨out ++ front, behind, middle, .step shifts earlier, others, by simp⟩

end Order

section Labels
variable {Item Other : Type} {role : Item → Role}

/-- What labelled items do is what their terms do. -/
theorem Shifts.map (term : Other → Item) {stack sent left : List Other} {item : Other}
    (shifts : Shifts (role ∘ term) stack item sent left) :
    Shifts role (stack.map term) (term item) (sent.map term) (left.map term) := by
  cases shifts with
  | operand operand => exact .operand operand
  | pushed waits => exact .pushed waits
  | closed closes opens parts plain =>
    exact .closed closes opens (by simp [parts]) (by simpa using plain)
  | operator acts parts plain => exact .operator acts (by simp [parts]) (by simpa using plain)

/-- What terms do is done by their labelled items. -/
theorem Shifts.lift (term : Other → Item) {stack : List Other} {item : Other}
    {sent left : List Item} (shifts : Shifts role (stack.map term) (term item) sent left) :
    ∃ out kept, Shifts (role ∘ term) stack item out kept ∧ out.map term = sent ∧
      kept.map term = left := by
  cases shifts with
  | operand operand => exact ⟨[item], stack, .operand operand, rfl, rfl⟩
  | pushed waits => exact ⟨[], item :: stack, .pushed waits, rfl, rfl⟩
  | closed closes opens parts plain =>
    obtain ⟨out, rest, rfl, rfl, later⟩ := List.map_eq_append_iff.mp parts
    obtain ⟨opening, kept, rfl, rfl, rfl⟩ := List.map_eq_cons_iff.mp later
    exact ⟨out, kept, .closed closes opens rfl (by simpa using plain), rfl, rfl⟩
  | operator acts parts plain =>
    obtain ⟨out, kept, rfl, rfl, rfl⟩ := List.map_eq_append_iff.mp parts
    exact ⟨out, item :: kept, .operator acts rfl (by simpa using plain), rfl, rfl⟩

theorem Passes.lift (term : Other → Item) {stack items : List Other} {sent left : List Item}
    (passes : Passes role (stack.map term) (items.map term) sent left) :
    ∃ out kept, Passes (role ∘ term) stack items out kept ∧ out.map term = sent ∧
      kept.map term = left := by
  induction items generalizing stack sent with
  | nil =>
    cases passes
    exact ⟨[], stack, .done, rfl, rfl⟩
  | cons item items ih =>
    cases passes with
    | step shifts passes =>
      obtain ⟨out, kept, moved, rfl, rfl⟩ := shifts.lift
      obtain ⟨later, final, others, rfl, rfl⟩ := ih passes
      exact ⟨out ++ later, final, .step moved others, by simp, rfl⟩

end Labels

section Groups
variable {Item : Type} {role : Item → Role} {upper below sent left : List Item}
  {opening item : Item}

/-- What is taken from the top without an opening bracket is taken above each opening bracket. -/
theorem exists_between (opens : role opening = .opening)
    (parts : upper ++ opening :: below = sent ++ left)
    (plain : ∀ other ∈ sent, role other ≠ .opening) :
    ∃ between, upper = sent ++ between ∧ left = between ++ opening :: below := by
  rcases List.append_eq_append_iff.mp parts with ⟨more, rfl, rest⟩ | ⟨between, rfl, rest⟩
  · cases more with
    | nil => exact ⟨[], by simp, by simpa using rest.symm⟩
    | cons first more =>
      obtain ⟨rfl, -⟩ := List.cons.inj rest
      exact absurd opens (plain opening (by simp))
  · exact ⟨between, rfl, rest⟩

/-- Above an opening bracket that stays open, an item does what it does without it. -/
theorem Shifts.above (shifts : Shifts role (upper ++ opening :: below) item sent left)
    (opens : role opening = .opening)
    (inside : role item = .closing → ∃ other ∈ upper, role other = .opening) :
    ∃ kept, left = kept ++ opening :: below ∧ Shifts role upper item sent kept := by
  cases shifts with
  | operand operand => exact ⟨upper, rfl, .operand operand⟩
  | pushed waits => exact ⟨item :: upper, rfl, .pushed waits⟩
  | closed closes matching parts plain =>
    obtain ⟨between, rfl, rest⟩ := exists_between opens parts plain
    cases between with
    | nil =>
      obtain ⟨other, member, found⟩ := inside closes
      exact absurd found (plain other (by simpa using member))
    | cons first between =>
      obtain ⟨rfl, rfl⟩ := List.cons.inj rest
      exact ⟨between, rfl, .closed closes matching rfl plain⟩
  | operator acts parts plain =>
    obtain ⟨between, rfl, rfl⟩ := exists_between opens parts plain
    exact ⟨item :: between, rfl, .operator acts rfl plain⟩

/-- An opening bracket is put on the stack. -/
theorem Shifts.of_opening {stack : List Item} (shifts : Shifts role stack item sent left)
    (opens : role item = .opening) : sent = [] ∧ left = item :: stack := by
  cases shifts with
  | operand operand => simp [opens, Role.isOperand] at operand
  | pushed => exact ⟨rfl, rfl⟩
  | closed closes => simp [opens] at closes
  | operator acts => simp [opens] at acts

/-- A closing bracket sends out what stands above the last opening bracket. -/
theorem Shifts.of_closing (shifts : Shifts role (upper ++ opening :: below) item sent left)
    (opens : role opening = .opening) (closes : role item = .closing)
    (plain : ∀ other ∈ upper, role other ≠ .opening) : sent = upper := by
  cases shifts with
  | operand operand => simp [closes, Role.isOperand] at operand
  | pushed waits => simp [closes] at waits
  | closed _ matching parts sentPlain =>
    obtain ⟨between, rfl, rest⟩ := exists_between opens parts sentPlain
    cases between with
    | nil => simp
    | cons first between =>
      obtain ⟨rfl, -⟩ := List.cons.inj rest
      exact absurd matching (plain _ (by simp))
  | operator acts => simp [closes] at acts

end Groups

section Blocks
variable {Item : Type} {term : Item → Term}

theorem opened_map_eq_zero_iff {items : List Item} :
    opened (items.map term) = 0 ↔ ∀ item ∈ items, (term item).role ≠ .opening := by
  simp [opened, List.countP_eq_zero]

/-- Items that close none of the brackets below pass as they do without them. -/
theorem Passes.above {upper below items sent left : List Item} {opening : Item} {depth : Nat}
    (opens : (term opening).role = .opening)
    (passes : Passes (Term.role ∘ term) (upper ++ opening :: below) items sent left)
    (count : openAfter (opened (upper.map term)) (items.map term) = some depth) :
    ∃ kept, left = kept ++ opening :: below ∧ Passes (Term.role ∘ term) upper items sent kept ∧
      opened (kept.map term) = depth := by
  induction items generalizing upper sent with
  | nil =>
    cases passes
    exact ⟨upper, rfl, .done, Option.some.inj count⟩
  | cons item items ih =>
    cases passes with
    | step shifts passes =>
      have inside (closes : (term item).role = .closing) :
          ∃ other ∈ upper, (term other).role = .opening := by
        by_contra none
        have plain := opened_map_eq_zero_iff.mpr (by simpa using none)
        simp [openAfter, closes, plain] at count
      obtain ⟨next, rfl, moved⟩ := shifts.above opens inside
      have later := (moved.map.opens (items.map term)).symm.trans count
      obtain ⟨kept, rfl, others, stillOpen⟩ := ih passes later
      exact ⟨kept, rfl, .step moved others, stillOpen⟩

/-- What stands between two brackets that match is sent out in one piece. -/
theorem Passes.block {stack before inner after sent left : List Item} {opening closing : Item}
    (opens : (term opening).role = .opening) (closes : (term closing).role = .closing)
    (matched : openAfter 0 (inner.map term) = some 0)
    (passes : Passes (Term.role ∘ term) stack
      (before ++ opening :: (inner ++ closing :: after)) sent left) :
    ∃ block, block <:+: sent ∧ block.Perm (withoutBrackets (Term.role ∘ term) inner) := by
  obtain ⟨front, behind, middle, -, fromOpening, rfl⟩ := passes.of_append
  cases fromOpening with
  | @step _ nothing pushed _ later _ _ pushes fromInner =>
    obtain ⟨rfl, rfl⟩ := pushes.of_opening opens
    obtain ⟨inside, others, top, innerPasses, fromClosing, rfl⟩ := fromInner.of_append
    obtain ⟨kept, rfl, alone, none⟩ :=
      @Passes.above _ term [] middle _ _ _ _ _ opens innerPasses matched
    have plain := opened_map_eq_zero_iff.mp none
    cases fromClosing with
    | @step _ taken _ _ rest _ _ closed _ =>
      obtain rfl := closed.of_closing opens closes plain
      obtain ⟨perm, waits⟩ := alone.perm (by simp)
      have whole : withoutBrackets (Term.role ∘ term) taken = taken :=
        withoutBrackets_eq_self plain waits
      rw [whole] at perm
      exact ⟨inside ++ taken, ⟨front, rest, by simp⟩, perm⟩

end Blocks

/-- Where every operator is stronger than a bracket, terms are only rearranged on their way to the
program. -/
theorem arranged_rearranges {registry : Registry}
    (above : ∀ symbol, Priority.bracket < registry.priority symbol) {terms program : List Term}
    (found : arranged registry terms = .ok program) :
    ∃ placed, placed.map Prod.fst = program ∧ Rearranges terms placed := by
  obtain ⟨arrangement, -⟩ := arranged_eq_ok_iff.mp found
  obtain ⟨sent, left, passes, rfl, plain⟩ :=
    exists_passes (fun term _ _ => above term.text) arrangement
  -- The places go with the terms through every step.
  have labelled : Passes Term.role (([] : List (Term × Nat)).map Prod.fst)
      (terms.zipIdx.map Prod.fst) sent left := by rwa [List.zipIdx_map_fst]
  obtain ⟨out, kept, placed, rfl, rfl⟩ := labelled.lift
  obtain ⟨perm, waits⟩ := placed.perm (by simp)
  obtain ⟨operands, idle⟩ := placed.operands (by simp)
  have whole : withoutBrackets (Term.role ∘ Prod.fst) kept = kept :=
    withoutBrackets_eq_self (by simpa using plain) waits
  have none : kept.filter (·.1.role.isOperand) = [] := by simpa using idle
  refine ⟨out ++ kept, by simp, ?_, ?_, ?_⟩
  · rw [whole] at perm
    exact perm
  · rw [List.filter_append, none, List.append_nil]
    exact operands
  · intro before opening inner closing after parts opens closes matched
    rw [parts] at placed
    obtain ⟨block, inside, perm⟩ := placed.block opens closes (matched_iff.mp matched)
    exact ⟨block, inside.trans (List.prefix_append out kept).isInfix, perm⟩

/-- Two groups of `(1-1)*(1-X)` hold equal terms, which are told apart by their places. -/
theorem rearranged_product :
    let minus : Term := ⟨['-'], .binary⟩
    let one : Term := ⟨['1'], .number⟩
    let opening : Term := ⟨['('], .opening⟩
    let closing : Term := ⟨[')'], .closing⟩
    let terms : List Term := [opening, one, minus, one, closing, ⟨['*'], .binary⟩,
      opening, one, minus, ⟨['X'], .letter⟩, closing]
    let program : List Term := [one, one, minus, one, ⟨['X'], .letter⟩, minus, ⟨['*'], .binary⟩]
    (∀ symbol, Priority.bracket < Registry.standard.priority symbol) ∧
    arranged Registry.standard terms = .ok program ∧
    ∃ placed, placed.map Prod.fst = program ∧ Rearranges terms placed := by
  intro minus one opening closing terms program
  have above (symbol : Text) : Priority.bracket < Registry.standard.priority symbol :=
    (Registry.priority_standard symbol).1
  have found : arranged Registry.standard terms = .ok program := by decide +kernel
  exact ⟨above, found, arranged_rearranges above found⟩

end Abacus.Program
