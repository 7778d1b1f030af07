import Abacus.Proofs.Conservation

/-! Groups. The body of every bracketed group is a whole subtree of the tree by precedence, at the
place where it is written, and nothing changes its place. Both hold of the program of every infix
expression exactly if no binary operator has the priority of a bracket or less, or more than that of
a unary operator. -/

namespace Abacus

/-- A part of a tree, with the terms that are written before it and after it. -/
inductive Tree.Holds : Tree → List Term → Tree → List Term → Prop where
  | here {whole : Tree} : Holds whole [] whole []
  | argument {operator : Term} {argument part : Tree} {before after : List Term}
    (within : Holds argument before part after) :
    Holds (.unary operator argument) (operator :: before) part after
  | left {operator : Term} {left right part : Tree} {before after : List Term}
    (within : Holds left before part after) :
    Holds (.binary operator left right) before part (after ++ operator :: right.written)
  | right {operator : Term} {left right part : Tree} {before after : List Term}
    (within : Holds right before part after) :
    Holds (.binary operator left right) (left.written ++ operator :: before) part after

theorem Tree.Holds.written {whole part : Tree} {before after : List Term}
    (within : whole.Holds before part after) : whole.written = before ++ part.written ++ after := by
  induction within with
  | here => simp
  | argument within ih => simp [Tree.written, ih]
  | left within ih => simp [Tree.written, ih]
  | right within ih => simp [Tree.written, ih]

/-- A part of one of the right operands of a chain. -/
inductive Side.Hold : List Side → List Term → Tree → List Term → Prop where
  | here {side : Side} {rest : List Side} {part : Tree} {before after : List Term}
    (within : side.operand.Holds before part after) :
    Hold (side :: rest) (side.operator :: before) part (after ++ rest.flatMap Side.written)
  | there {side : Side} {rest : List Side} {part : Tree} {before after : List Term}
    (within : Hold rest before part after) : Hold (side :: rest) (side.written ++ before) part after

namespace Side.Hold
variable {left right : List Side} {part : Tree} {before after : List Term}

theorem append_right (within : Hold left before part after) (right : List Side) :
    Hold (left ++ right) before part (after ++ right.flatMap Side.written) := by
  induction within with
  | @here side rest part before after within =>
    have moved : Hold (side :: (rest ++ right)) _ part _ := .here within
    simpa using moved
  | there within ih => exact .there ih

theorem append_left (within : Hold right before part after) (left : List Side) :
    Hold (left ++ right) (left.flatMap Side.written ++ before) part after := by
  induction left with
  | nil => exact within
  | cons side left ih =>
    have moved : Hold (side :: (left ++ right)) _ part after := .there ih
    simpa using moved

theorem of_append (within : Hold (left ++ right) before part after) :
    (∃ between, Hold left before part between ∧ after = between ++ right.flatMap Side.written) ∨
    (∃ between, Hold right between part after ∧ before = left.flatMap Side.written ++ between) := by
  induction left generalizing before with
  | nil => exact .inr ⟨before, within, rfl⟩
  | cons side left ih =>
    cases within with
    | here within => exact .inl ⟨_, .here within, by simp⟩
    | there within =>
      rcases ih within with ⟨between, inner, rfl⟩ | ⟨between, inner, rfl⟩
      · exact .inl ⟨between, .there inner, rfl⟩
      · exact .inr ⟨between, inner, by simp⟩

end Side.Hold

/-- A part of one of the operands of a chain. -/
inductive Chain.Holds (chain : Chain) : List Term → Tree → List Term → Prop where
  | first {part : Tree} {before after : List Term} (within : chain.first.Holds before part after) :
    Holds chain before part (after ++ chain.links.flatMap Side.written)
  | link {part : Tree} {before after : List Term}
    (within : Side.Hold chain.links before part after) :
    Holds chain (chain.first.written ++ before) part after

theorem Chain.Holds.single {first part : Tree} {before after : List Term}
    (within : first.Holds before part after) : Chain.Holds ⟨first, []⟩ before part after := by
  simpa using @Chain.Holds.first ⟨first, []⟩ part before after within

/-- A chain that goes on holds what it held. -/
theorem Chain.Holds.append {chain : Chain} {part : Tree} {before after : List Term}
    (within : chain.Holds before part after) (others : List Side) :
    Chain.Holds ⟨chain.first, chain.links ++ others⟩ before part
      (after ++ others.flatMap Side.written) := by
  cases within with
  | first within =>
    simpa using @Chain.Holds.first ⟨chain.first, chain.links ++ others⟩ _ _ _ within
  | link within => exact .link (within.append_right others)

/-- However a chain is split, its operands stay whole and in their places. -/
theorem Chain.Splits.holds {first whole part : Tree} {links : List Side} {before after : List Term}
    (splits : Splits first links whole) (within : Chain.Holds ⟨first, links⟩ before part after) :
    whole.Holds before part after := by
  induction splits generalizing before after with
  | single =>
    cases within with
    | first within => simpa using within
    | link within => cases within
  | @split first left right side front behind leftSplits rightSplits inLeft inRight =>
    have leftward {before after : List Term}
        (within : Chain.Holds ⟨first, front⟩ before part after) :
        Tree.Holds (.binary side.operator left right) before part
          (after ++ (side :: behind).flatMap Side.written) := by
      have moved : Tree.Holds (.binary side.operator left right) before part _ :=
        .left (inLeft within)
      rw [rightSplits.written] at moved
      exact moved
    have rightward {before after : List Term}
        (within : Chain.Holds ⟨side.operand, behind⟩ before part after) :
        Tree.Holds (.binary side.operator left right)
          (first.written ++ front.flatMap Side.written ++ side.operator :: before) part after := by
      have moved : Tree.Holds (.binary side.operator left right) _ part after :=
        .right (inRight within)
      rw [leftSplits.written] at moved
      exact moved
    cases within with
    | first within => simpa using leftward (.first within)
    | link within =>
      rcases within.of_append with ⟨between, inner, rfl⟩ | ⟨between, inner, rfl⟩
      · exact leftward (.link inner)
      · cases inner with
        | here inner => simpa using rightward (.first inner)
        | there inner => simpa [Side.written] using rightward (.link inner)

namespace Phrase
open Program

private theorem first_of_holds {registry : Registry} {category : Category}
    {phrase : Phrase category} (operand : category ≠ .expression) {part : Tree}
    {before after : List Term} (within : (phrase.chain registry).Holds before part after) :
    (phrase.chain registry).first.Holds before part after := by
  have single : phrase.chain registry = ⟨(phrase.chain registry).first, []⟩ := by
    rw [← phrase.links_chain registry operand]
  rw [single] at within
  exact Chain.Splits.single.holds within

/-- The body of a bracketed group is a whole subtree of one of the operands around it. -/
theorem Encloses.holds (registry : Registry) {category : Category} {phrase : Phrase category}
    {before after : List Term} {inner : Phrase .expression}
    (within : phrase.Encloses before inner after) :
    (phrase.chain registry).Holds (unbracketed before) (inner.tree registry)
      (unbracketed after) := by
  induction within with
  | @here opening opens body closing closes =>
    simp only [unbracketed_cons, opens, closes, Role.isBracket, ↓reduceIte, unbracketed_nil]
    exact .single .here
  | @inside opening opens body closing closes before inner after within ih =>
    have whole := (Chain.splits_grouped registry _ _).holds ih
    simp only [unbracketed_append, unbracketed_cons, opens, closes, Role.isBracket, ↓reduceIte,
      unbracketed_nil, List.append_nil]
    exact .single whole
  | @call function role argument before inner after within ih =>
    simp only [unbracketed_cons, role, Role.isBracket, Bool.false_eq_true, ↓reduceIte]
    exact .single (.argument (first_of_holds (by simp) ih))
  | bare within ih => exact ih
  | @signed sign role argument before inner after within ih =>
    simp only [unbracketed_cons, role, Role.isBracket, Bool.false_eq_true, ↓reduceIte]
    exact .single (.argument (first_of_holds (by simp) ih))
  | first within ih => exact ih
  | @earlier chain operator role next before inner after within ih =>
    have moved := ih.append [⟨operator, (next.chain registry).first⟩]
    rw [List.flatMap_singleton, Side.written, written_first registry next (by simp),
      written_chain] at moved
    rw [unbracketed_append, unbracketed_cons, role]
    exact moved
  | @last chain operator role next before inner after within ih =>
    have here : Side.Hold [⟨operator, (next.chain registry).first⟩] _ _ _ :=
      .here (first_of_holds (by simp) ih)
    have moved := @Chain.Holds.link ((link chain operator role next).chain registry) _ _ _
      (here.append_left (chain.chain registry).links)
    have written := chain.written_chain registry
    rw [unbracketed_append, unbracketed_cons, role, ← written]
    simpa [Chain.written, Phrase.chain, Role.isBracket] using moved

/-- The tree keeps the phrase: it is well formed and written in the order of the phrase, and the
body of every bracketed group is a whole subtree of it in its place. -/
structure Keeps (tree : Tree) {category : Category} (phrase : Phrase category) : Prop where
  wellFormed : tree.WellFormed
  written : tree.written = unbracketed phrase.terms
  groups : ∀ before inner after, phrase.Encloses before inner after → ∃ part,
    tree.Holds (unbracketed before) part (unbracketed after) ∧
      part.written = unbracketed inner.terms

theorem keeps_tree (registry : Registry) {category : Category} (phrase : Phrase category) :
    Keeps (phrase.tree registry) phrase where
  wellFormed := phrase.wellFormed_tree registry
  written := phrase.written_tree registry
  groups := fun _ inner _ within =>
    ⟨inner.tree registry, (Chain.splits_grouped registry _ _).holds (within.holds registry),
      inner.written_tree registry⟩

/-- Two numbers with an operator between them, in brackets. -/
def bracketedPair (symbol : Text) : Phrase .expression :=
  .first (.bare (.group ⟨['('], .opening⟩ rfl
    (.link (.first (.bare (digit '1'))) ⟨symbol, .binary⟩ rfl (.bare (digit '2')))
    ⟨[')'], .closing⟩ rfl))

/-- Two numbers with an operator between them, the second one signed. -/
def signedPair (symbol : Text) : Phrase .expression :=
  .link (.first (.bare (digit '1'))) ⟨symbol, .binary⟩ rfl
    (.signed ⟨['-'], .unary⟩ rfl (.bare (digit '2')))

/-- An operator no stronger than a bracket sends the bracket away that waits below it. -/
theorem arranged_bracketedPair {registry : Registry} {symbol : Text}
    (weak : registry.priority symbol ≤ Priority.bracket) :
    Program.arranged registry (bracketedPair symbol).terms = .error .unmatchedClosing := by
  have ends : goesFirst registry ⟨symbol, .binary⟩ ⟨['('], .opening⟩ = true :=
    decide_eq_true weak
  simp only [bracketedPair, terms, digit, List.cons_append, List.nil_append, arranged,
    arrangedFrom, List.isEmpty_cons, List.takeWhile_cons_of_pos ends, List.takeWhile_nil,
    List.dropWhile_cons_of_pos ends, List.dropWhile_nil]
  rfl

/-- An operator stronger than a unary one acts before its right operand is there. -/
theorem arranged_signedPair {registry : Registry} {symbol : Text}
    (strong : Priority.unary < registry.priority symbol) :
    Program.arranged registry (signedPair symbol).terms = .error .incomplete := by
  have ends : goesFirst registry ⟨['-'], .unary⟩ ⟨symbol, .binary⟩ = true :=
    decide_eq_true strong
  simp only [signedPair, terms, digit, List.cons_append, List.nil_append, arranged,
    arrangedFrom, List.isEmpty_cons, List.takeWhile_cons_of_pos ends, List.takeWhile_nil,
    List.dropWhile_cons_of_pos ends, List.dropWhile_nil]
  rfl

end Phrase

/-- The programs of all infix expressions in some operators keep the written order and every group
exactly if each of the operators is stronger than a bracket and no stronger than a unary
operator. -/
theorem Registry.arranged_keeps_iff (registry : Registry) (operators : Text → Prop) :
    (∀ phrase : Phrase .expression,
      (∀ term ∈ phrase.terms, term.role = .binary → operators term.text) →
      ∃ tree, Phrase.Keeps tree phrase ∧
        Program.arranged registry phrase.terms = .ok tree.program) ↔
    ∀ symbol, operators symbol →
      Priority.bracket < registry.priority symbol ∧
        registry.priority symbol ≤ Priority.unary := by
  constructor
  · intro kept symbol allowed
    constructor
    · apply Int.not_le.mp
      intro weak
      obtain ⟨tree, -, arranged⟩ := kept (Phrase.bracketedPair symbol)
        (by simpa [Phrase.bracketedPair, Phrase.terms, Phrase.digit] using allowed)
      rw [Phrase.arranged_bracketedPair weak] at arranged
      cases arranged
    · apply Int.not_lt.mp
      intro strong
      obtain ⟨tree, -, arranged⟩ := kept (Phrase.signedPair symbol)
        (by simpa [Phrase.signedPair, Phrase.terms, Phrase.digit] using allowed)
      rw [Phrase.arranged_signedPair strong] at arranged
      cases arranged
  · intro bounds phrase allowed
    have ordered : Program.Ordered registry phrase.terms := by
      intro term member binary
      exact bounds term.text (allowed term member binary)
    exact ⟨phrase.tree registry, phrase.keeps_tree registry,
      Program.arranged_of_tree (phrase.wellFormed_tree registry)
        (phrase.arrangedFrom_terms ordered)⟩

/-- A percent sign that is weaker than a bracket is no operator within brackets. -/
theorem Registry.arranged_weak_remainder :
    Program.arranged (Registry.withRemainder (-1)) (Phrase.bracketedPair ['%']).terms =
      .error .unmatchedClosing :=
  Phrase.arranged_bracketedPair (by decide)

end Abacus
