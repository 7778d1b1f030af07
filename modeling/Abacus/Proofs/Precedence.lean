import Abacus.Proofs.Grammar

/-! Precedence. The tree of an expression has at its root the rightmost of the weakest operators
that stand between its operands, and so on within the expressions to the left and to the right of
it. A unary operator or a function takes the phrase behind it alone. -/

namespace Abacus

/-- An operator with the operand at one side of it. -/
structure Side where
  operator : Term
  operand : Tree

namespace Side

def priority (registry : Registry) (side : Side) : Int :=
  side.operator.priority registry

/-- An operator and its right operand, as they are written. -/
def written (side : Side) : List Term :=
  side.operator :: side.operand.written

def WellFormed (side : Side) : Prop :=
  side.operator.role = .binary ∧ side.operand.WellFormed

end Side

/-- The place of the rightmost of the weakest operators of a chain. -/
structure Weakest (registry : Registry) (links : List Side) where
  before : List Side
  side : Side
  after : List Side
  whole : before ++ side :: after = links
  weakest : ∀ other ∈ before, side.priority registry ≤ other.priority registry
  rightmost : ∀ other ∈ after, side.priority registry < other.priority registry

namespace Weakest
variable {registry : Registry} {links : List Side}

theorem weakest_of_mem (place : Weakest registry links) {other : Side} (member : other ∈ links) :
    place.side.priority registry ≤ other.priority registry := by
  rw [← place.whole] at member
  rcases List.mem_append.mp member with earlier | found
  · exact place.weakest other earlier
  · rcases List.mem_cons.mp found with rfl | behind
    · exact Int.le_refl _
    · exact Int.le_of_lt (place.rightmost other behind)

/-- A stronger operator in front leaves the place where it is, a weaker one takes it. -/
def ofCons (registry : Registry) (link : Side) : (rest : List Side) →
    Weakest registry (link :: rest)
  | [] => ⟨[], link, [], rfl, by simp, by simp⟩
  | next :: rest =>
    let later := ofCons registry next rest
    if stronger : later.side.priority registry ≤ link.priority registry then {
      before := link :: later.before
      side := later.side
      after := later.after
      whole := by rw [List.cons_append, later.whole]
      weakest := by simpa [stronger] using later.weakest
      rightmost := later.rightmost }
    else {
      before := []
      side := link
      after := next :: rest
      whole := rfl
      weakest := by simp
      rightmost := by
        intro other member
        have bound := later.weakest_of_mem member
        omega }

theorem before_shorter (place : Weakest registry links) : place.before.length < links.length := by
  have size := congrArg List.length place.whole
  simp only [List.length_append, List.length_cons] at size
  omega

theorem after_shorter (place : Weakest registry links) : place.after.length < links.length := by
  have size := congrArg List.length place.whole
  simp only [List.length_append, List.length_cons] at size
  omega

/-- An operator at the end takes the place when no other is weaker. -/
def ofLast (link : Side)
    (weakest : ∀ other ∈ links, link.priority registry ≤ other.priority registry) :
    Weakest registry (links ++ [link]) :=
  ⟨links, link, [], rfl, weakest, by simp⟩

/-- A stronger operator at the end leaves the place where it is. -/
def extended (place : Weakest registry links) (link : Side)
    (stronger : place.side.priority registry < link.priority registry) :
    Weakest registry (links ++ [link]) where
  before := place.before
  side := place.side
  after := place.after ++ [link]
  whole := by simp [← place.whole]
  weakest := place.weakest
  rightmost := by
    intro other member
    rcases List.mem_append.mp member with behind | last
    · exact place.rightmost other behind
    · obtain rfl := List.mem_singleton.mp last
      exact stronger

/-- No weakest operator lies further to the right than another such place. -/
private theorem not_behind (left right : Weakest registry links) {between : List Side}
    (further : right.before = left.before ++ left.side :: between)
    (behind : left.after = between ++ right.side :: right.after) : False := by
  have weak := right.weakest left.side (by simp [further])
  have strong := left.rightmost right.side (by simp [behind])
  omega

theorem unique (left right : Weakest registry links) : left = right := by
  have same := left.whole.trans right.whole.symm
  rcases List.append_eq_append_iff.mp same with ⟨between, further, behind⟩ |
    ⟨between, further, behind⟩
  · cases between with
    | nil =>
      cases left
      cases right
      simp_all
    | cons side between =>
      obtain ⟨rfl, rest⟩ := List.cons.inj behind
      exact (not_behind left right further rest).elim
  · cases between with
    | nil =>
      cases left
      cases right
      simp_all
    | cons side between =>
      obtain ⟨rfl, rest⟩ := List.cons.inj behind
      exact (not_behind right left further rest).elim

end Weakest

/-- Operands with a binary operator between each two. -/
structure Chain where
  first : Tree
  links : List Side

namespace Chain

/-- The tree of operands with operators between them: a chain is split at the rightmost of its
weakest operators. -/
def grouped (registry : Registry) (first : Tree) (links : List Side) : Tree :=
  match links with
  | [] => first
  | link :: rest =>
    let place := Weakest.ofCons registry link rest
    .binary place.side.operator (grouped registry first place.before)
      (grouped registry place.side.operand place.after)
termination_by links.length
decreasing_by
  · exact place.before_shorter
  · exact place.after_shorter

def tree (registry : Registry) (chain : Chain) : Tree :=
  grouped registry chain.first chain.links

/-- The terms of a chain as they are written. -/
def written (chain : Chain) : List Term :=
  chain.first.written ++ chain.links.flatMap Side.written

def WellFormed (chain : Chain) : Prop :=
  chain.first.WellFormed ∧ ∀ link ∈ chain.links, link.WellFormed

@[simp]
theorem grouped_nil (registry : Registry) (first : Tree) : grouped registry first [] = first := by
  rw [grouped]

theorem grouped_of_weakest {registry : Registry} {links : List Side} (first : Tree)
    (place : Weakest registry links) : grouped registry first links =
      .binary place.side.operator (grouped registry first place.before)
        (grouped registry place.side.operand place.after) := by
  cases links with
  | nil => simpa using place.before_shorter
  | cons link rest =>
    rw [grouped, Weakest.unique (Weakest.ofCons registry link rest) place]

/-- A tree that comes of a chain by splitting it at one of its operators, and so on within the two
parts. -/
inductive Splits : Tree → List Side → Tree → Prop where
  | single {first : Tree} : Splits first [] first
  | split {first left right : Tree} {side : Side} {before after : List Side}
    (leftSplits : Splits first before left) (rightSplits : Splits side.operand after right) :
    Splits first (before ++ side :: after) (.binary side.operator left right)

theorem splits_grouped (registry : Registry) (first : Tree) (links : List Side) :
    Splits first links (grouped registry first links) := by
  fun_induction grouped registry first links with
  | case1 first => exact .single
  | case2 first link rest place leftSplits rightSplits =>
    have splits := Splits.split leftSplits rightSplits
    rwa [place.whole] at splits

namespace Splits
variable {first whole : Tree} {links : List Side}

/-- However a chain is split, its order stays. -/
theorem written (splits : Splits first links whole) :
    whole.written = first.written ++ links.flatMap Side.written := by
  induction splits with
  | single => simp
  | split _ _ leftWritten rightWritten =>
    rw [Tree.written, leftWritten, rightWritten]
    simp [Side.written]

theorem wellFormed (splits : Splits first links whole) (firstValid : first.WellFormed)
    (linksValid : ∀ link ∈ links, link.WellFormed) : whole.WellFormed := by
  induction splits with
  | single => exact firstValid
  | @split first left right side before after _ _ leftValid rightValid =>
    obtain ⟨binary, operandValid⟩ := linksValid side (by simp)
    refine ⟨binary, leftValid firstValid ?_, rightValid operandValid ?_⟩
    · intro link member
      exact linksValid link (by simp [member])
    · intro link member
      exact linksValid link (by simp [member])

end Splits
end Chain

namespace Phrase

/-- The operands of a phrase, in trees, and the operators between them. A phrase that is no
expression is a single operand. -/
def chain (registry : Registry) : {category : Category} → Phrase category → Chain
  | _, operand term _ => ⟨.leaf term, []⟩
  | _, call function _ argument => ⟨.unary function (argument.chain registry).first, []⟩
  | _, group _ _ body _ _ => ⟨(body.chain registry).tree registry, []⟩
  | _, bare primary => primary.chain registry
  | _, signed sign _ argument => ⟨.unary sign (argument.chain registry).first, []⟩
  | _, first head => head.chain registry
  | _, link earlier operator _ next =>
    ⟨(earlier.chain registry).first,
      (earlier.chain registry).links ++ [⟨operator, (next.chain registry).first⟩]⟩

/-- The tree of a phrase by precedence. -/
def tree (registry : Registry) {category : Category} (phrase : Phrase category) : Tree :=
  (phrase.chain registry).tree registry

theorem links_chain (registry : Registry) {category : Category} (phrase : Phrase category)
    (operand : category ≠ .expression) : (phrase.chain registry).links = [] := by
  induction phrase with
  | operand | call | group | signed => rfl
  | bare primary ih => exact ih (by simp)
  | first | link => exact (operand rfl).elim

theorem wellFormed_chain (registry : Registry) {category : Category} (phrase : Phrase category) :
    (phrase.chain registry).WellFormed := by
  induction phrase with
  | operand term role => exact ⟨role, by simp [chain]⟩
  | call function role argument ih => exact ⟨⟨.inr role, ih.1⟩, by simp [chain]⟩
  | group opening opens body closing closes ih =>
    exact ⟨(Chain.splits_grouped registry _ _).wellFormed ih.1 ih.2, by simp [chain]⟩
  | bare primary ih => exact ih
  | signed sign role argument ih => exact ⟨⟨.inl role, ih.1⟩, by simp [chain]⟩
  | first head ih => exact ih
  | link earlier operator role next earlierValid nextValid =>
    refine ⟨earlierValid.1, ?_⟩
    intro side member
    rcases List.mem_append.mp member with before | last
    · exact earlierValid.2 side before
    · obtain rfl := List.mem_singleton.mp last
      exact ⟨role, nextValid.1⟩

theorem wellFormed_tree (registry : Registry) {category : Category} (phrase : Phrase category) :
    (phrase.tree registry).WellFormed :=
  have valid := phrase.wellFormed_chain registry
  (Chain.splits_grouped registry _ _).wellFormed valid.1 valid.2

theorem written_first (registry : Registry) {category : Category} (phrase : Phrase category)
    (operand : category ≠ .expression) :
    (phrase.chain registry).first.written = (phrase.chain registry).written := by
  simp [Chain.written, phrase.links_chain registry operand]

theorem written_chain (registry : Registry) {category : Category} (phrase : Phrase category) :
    (phrase.chain registry).written = unbracketed phrase.terms := by
  induction phrase with
  | operand term role =>
    have plain : term.role.isBracket = false := by
      rcases Role.isOperand_iff.mp role with role | role <;> simp [role, Role.isBracket]
    simp [chain, terms, Chain.written, Tree.written, unbracketed_cons, plain]
  | call function role argument ih =>
    rw [← written_first registry argument (by simp)] at ih
    simp [chain, terms, Chain.written, Tree.written, unbracketed_cons, role, Role.isBracket, ih]
  | group opening opens body closing closes ih =>
    rw [chain, Chain.written, Chain.tree, (Chain.splits_grouped registry _ _).written]
    simpa [terms, unbracketed_cons, opens, closes, Role.isBracket, Chain.written] using ih
  | bare primary ih => exact ih
  | signed sign role argument ih =>
    rw [← written_first registry argument (by simp)] at ih
    simp [chain, terms, Chain.written, Tree.written, unbracketed_cons, role, Role.isBracket, ih]
  | first head ih => exact ih
  | link earlier operator role next earlierWritten nextWritten =>
    rw [← written_first registry next (by simp)] at nextWritten
    simp only [Chain.written] at earlierWritten
    simp [chain, terms, Chain.written, Side.written, unbracketed_cons, role, Role.isBracket,
      ← earlierWritten, nextWritten]

/-- The tree of a phrase is written as the phrase is, brackets left out. -/
theorem written_tree (registry : Registry) {category : Category} (phrase : Phrase category) :
    (phrase.tree registry).written = unbracketed phrase.terms :=
  (Chain.splits_grouped registry _ _).written.trans (phrase.written_chain registry)

end Phrase
end Abacus
