import Abacus.Outcome
import Abacus.Proofs.Spine
import Abacus.Registry.Standard

/-! The program of an infix expression. Behind any stack and in front of any terms, a phrase sends
out its program up to the operators that still wait: its own unary operators and functions on top,
and below them the right spine of the operators between its operands. -/

namespace Abacus

namespace Program

/-- The program of the terms to come, behind the terms that were sent to it already. -/
def resumed (registry : Registry) (sent stack terms : List Term) :
    Except SyntaxError (List Term) :=
  (arrangedFrom registry stack terms).map (sent ++ ·)

/-- What a term does: the terms that it sends to the program and the stack that it leaves. -/
inductive Moves (registry : Registry) (stack : List Term) (term : Term) :
    List Term → List Term → Prop where
  | operand (role : term.role.isOperand = true) : Moves registry stack term [term] stack
  | pushed (role : term.role = .function ∨ term.role = .opening) :
    Moves registry stack term [] (term :: stack)
  | closed {out left : List Term} (role : term.role = .closing)
    (found : closed? stack = some (out, left)) : Moves registry stack term out left
  | operator (role : term.role = .unary ∨ term.role = .binary) :
    Moves registry stack term (stack.takeWhile (goesFirst registry term))
      (term :: stack.dropWhile (goesFirst registry term))

theorem Moves.arrangedFrom_cons {registry : Registry} {stack out left : List Term} {term : Term}
    (moves : Moves registry stack term out left) (rest : List Term) :
    arrangedFrom registry stack (term :: rest) =
      (arrangedFrom registry left rest).map (out ++ ·) := by
  have unchanged : (arrangedFrom registry (term :: stack) rest).map ([] ++ ·) =
      arrangedFrom registry (term :: stack) rest := by
    cases arrangedFrom registry (term :: stack) rest <;> rfl
  cases moves with
  | operand role =>
    rcases Role.isOperand_iff.mp role with role | role <;> simp [arrangedFrom, role]
  | pushed role => rcases role with role | role <;> rw [unchanged] <;> simp [arrangedFrom, role]
  | closed role found => simp [arrangedFrom, role, found]
  | operator role => rcases role with role | role <;> simp [arrangedFrom, role]

theorem Moves.resumed_cons {registry : Registry} {stack out left : List Term} {term : Term}
    (moves : Moves registry stack term out left) (sent rest : List Term) :
    resumed registry sent stack (term :: rest) = resumed registry (sent ++ out) left rest := by
  rw [resumed, moves.arrangedFrom_cons, resumed]
  cases arrangedFrom registry left rest <;> simp [Except.map]

/-- A term moves, unless it is a closing bracket without an opening one, or no part of an
expression. -/
theorem moves_or_stuck (registry : Registry) (stack : List Term) (term : Term) :
    (∃ out left, Moves registry stack term out left) ∨
      term.role = .closing ∧ closed? stack = none ∨ term.role = .unassigned := by
  cases role : term.role with
  | number | letter => exact .inl ⟨_, _, .operand (by simp [role, Role.isOperand])⟩
  | function | opening => exact .inl ⟨_, _, .pushed (by simp [role])⟩
  | unary | binary => exact .inl ⟨_, _, .operator (by simp [role])⟩
  | closing =>
    cases closing : closed? stack with
    | none => exact .inr (.inl ⟨rfl, rfl⟩)
    | some parts => exact .inl ⟨_, _, .closed role closing⟩
  | unassigned => exact .inr (.inr rfl)

/-- Where there is a program, each term moves. -/
theorem exists_moves {registry : Registry} {stack program rest : List Term} {term : Term}
    (found : arrangedFrom registry stack (term :: rest) = .ok program) :
    ∃ out left later, Moves registry stack term out left ∧
      arrangedFrom registry left rest = .ok later ∧ program = out ++ later := by
  rcases moves_or_stuck registry stack term with ⟨out, left, moves⟩ | ⟨role, closing⟩ | role
  · rw [moves.arrangedFrom_cons] at found
    obtain ⟨others, later, same⟩ := Outcome.map_eq_ok_iff.mp found
    exact ⟨out, left, others, moves, later, same.symm⟩
  · simp [arrangedFrom, role, closing] at found
  · simp [arrangedFrom, role] at found

/-- A program is accepted exactly if it leaves one value. -/
theorem arranged_eq_ok_iff {registry : Registry} {terms program : List Term} :
    arranged registry terms = .ok program ↔
      arrangedFrom registry [] terms = .ok program ∧ depth? program = some 1 := by
  cases terms with
  | nil =>
    simp only [arranged, List.isEmpty_nil, ↓reduceIte, reduceCtorEq, false_iff, arrangedFrom,
      drained, Except.ok.injEq, not_and]
    rintro rfl
    simp [depth?, depthFrom]
  | cons term rest =>
    cases found : arrangedFrom registry [] (term :: rest) with
    | error => simp [arranged, found, bind, Except.bind]
    | ok other =>
      rw [← checked_eq_ok_iff]
      simp only [arranged, found, List.isEmpty_cons, Bool.false_eq_true, ↓reduceIte, bind,
        Except.bind, Except.ok.injEq]
      constructor
      · intro accepted
        cases check : checked other with
        | error => simp [check] at accepted
        | ok =>
          rw [check] at accepted
          cases accepted
          exact ⟨rfl, check⟩
      · rintro ⟨rfl, check⟩
        rw [check]
        rfl

/-- A closing bracket finds the last opening bracket that waits. -/
theorem closed?_append {above below : List Term} {opening : Term}
    (opens : opening.role = .opening) (plain : ∀ term ∈ above, term.role ≠ .opening) :
    closed? (above ++ opening :: below) = some (above, below) := by
  induction above with
  | nil => simp [closed?, opens]
  | cons top above ih =>
    have rest := ih fun term member => plain term (by simp [member])
    simp [closed?, plain top (by simp), rest]

theorem drained_eq_ok {stack : List Term} (plain : ∀ term ∈ stack, term.role ≠ .opening) :
    drained stack = .ok stack := by
  induction stack with
  | nil => rfl
  | cons top stack ih =>
    have rest := ih fun term member => plain term (by simp [member])
    simp [drained, plain top (by simp), rest, Except.map]

/-- Every binary operator among the terms binds more tightly than a bracket, and no more tightly
than a unary operator. -/
def Ordered (registry : Registry) (terms : List Term) : Prop :=
  ∀ term ∈ terms, term.role = .binary →
    Priority.bracket < registry.priority term.text ∧ registry.priority term.text ≤ Priority.unary

end Program

namespace Phrase
open Program

/-- What the top of the stack has to be for a phrase to leave the stack below alone. -/
def Admits (registry : Registry) : Category → List Term → Prop
  | .primary, _ => True
  | .unary, stack => ∀ top ∈ stack.head?, top.priority registry ≤ Priority.unary
  | .expression, stack => ∀ top ∈ stack.head?, top.role = .opening

/-- Functions and unary operators, which wait for the operand behind them. -/
def Prefixes (pending : List Term) : Prop :=
  ∀ term ∈ pending, term.role = .unary ∨ term.role = .function

/-- The right spine of a phrase after its last operand. -/
def spine (registry : Registry) {category : Category} (phrase : Phrase category) : Spine :=
  Spine.ofChain registry (phrase.chain registry)

/-- How a phrase is read on top of a stack: the terms that it sends out, and the prefix operators
that it leaves waiting on top of its right spine. -/
structure Reads (registry : Registry) {category : Category} (phrase : Phrase category)
    (stack sent pending : List Term) : Prop where
  prefixes : Prefixes pending
  program : sent ++ pending =
    Spine.sent (phrase.spine registry).waiting ++ (phrase.spine registry).last.program
  resumes : ∀ before rest, resumed registry before stack (phrase.terms ++ rest) =
    resumed registry (before ++ sent)
      (pending ++ (phrase.spine registry).waiting.map Side.operator ++ stack) rest

theorem spine_of_ne_expression (registry : Registry) {category : Category}
    (phrase : Phrase category) (operand : category ≠ .expression) :
    phrase.spine registry = ⟨[], (phrase.chain registry).first⟩ := by
  simp [spine, Spine.ofChain, phrase.links_chain registry operand]

theorem spine_link (registry : Registry) (earlier : Phrase .expression) (operator : Term)
    (role : operator.role = .binary) (next : Phrase .unary) :
    (link earlier operator role next).spine registry =
      (earlier.spine registry).linked registry ⟨operator, (next.chain registry).first⟩ := by
  simp [spine, Spine.ofChain, chain, List.foldl_append]

/-- A binary operator ends the prefix operators on top and those of the spine that act before it. It
never reaches below the spine. -/
theorem takeWhile_stack {registry : Registry} {link : Side} (role : link.operator.role = .binary)
    (above : Priority.bracket < registry.priority link.operator.text)
    (below : registry.priority link.operator.text ≤ Priority.unary) {pending stack : List Term}
    (prefixes : Prefixes pending) (admits : Admits registry .expression stack) (spine : Spine) :
    (pending ++ spine.waiting.map Side.operator ++ stack).takeWhile
        (goesFirst registry link.operator) =
      pending ++ (spine.ended registry link).map Side.operator ∧
    (pending ++ spine.waiting.map Side.operator ++ stack).dropWhile
        (goesFirst registry link.operator) =
      (spine.left registry link).map Side.operator ++ stack := by
  have all : ∀ term ∈ pending, goesFirst registry link.operator term = true := by
    intro term member
    rcases prefixes term member with unary | function
    · simpa [goesFirst, role, Term.priority, unary] using below
    · simp only [goesFirst, role, Term.priority, function, decide_eq_true_eq]
      exact Int.le_trans below (by decide)
  rw [List.append_assoc, List.takeWhile_append_of_pos all, List.dropWhile_append_of_pos all]
  cases stack with
  | nil =>
    simp only [List.append_nil, List.takeWhile_map, List.dropWhile_map]
    exact ⟨rfl, rfl⟩
  | cons top stack =>
    have stays : goesFirst registry link.operator top = false := by
      have opens := admits top rfl
      simpa [goesFirst, role, Term.priority, opens] using above
    rw [takeWhile_append_stop stays, dropWhile_append_stop stays, List.takeWhile_map,
      List.dropWhile_map]
    exact ⟨rfl, rfl⟩

/-- A prefix operator waits below those of its argument. -/
private theorem Reads.prefixed {registry : Registry} {category inner : Category}
    {phrase : Phrase category} {argument : Phrase inner} {operator : Term}
    {stack sent pending : List Term} (operand : inner ≠ .expression)
    (whole : phrase.chain registry = ⟨.unary operator (argument.chain registry).first, []⟩)
    (written : phrase.terms = operator :: argument.terms)
    (role : operator.role = .unary ∨ operator.role = .function)
    (pushed : Moves registry stack operator [] (operator :: stack))
    (reads : argument.Reads registry (operator :: stack) sent pending) :
    phrase.Reads registry stack sent (pending ++ [operator]) := by
  obtain ⟨prefixes, program, resumes⟩ := reads
  have spine : phrase.spine registry = ⟨[], .unary operator (argument.chain registry).first⟩ := by
    simp [Phrase.spine, Spine.ofChain, whole]
  simp only [argument.spine_of_ne_expression registry operand, Spine.sent, List.foldr_nil,
    List.nil_append, List.map_nil, List.append_nil] at program resumes
  refine ⟨?_, ?_, ?_⟩
  · intro term member
    rcases List.mem_append.mp member with above | last
    · exact prefixes term above
    · exact List.mem_singleton.mp last ▸ role
  · rw [← List.append_assoc, program, spine]
    simp [Spine.sent, Tree.program]
  · intro before rest
    rw [written, List.cons_append, pushed.resumed_cons, resumes, spine]
    simp

/-- No bracket waits above the stack. -/
private theorem Reads.ne_opening {registry : Registry} {phrase : Phrase .expression}
    {stack sent pending : List Term} (reads : phrase.Reads registry stack sent pending) :
    ∀ term ∈ pending ++ (phrase.spine registry).waiting.map Side.operator,
      term.role ≠ .opening := by
  intro term member
  rcases List.mem_append.mp member with above | within
  · rcases reads.prefixes term above with role | role <;> simp [role]
  · obtain ⟨side, waits, rfl⟩ := List.mem_map.mp within
    simp [Spine.binary_of_mem_waiting registry (phrase.wellFormed_chain registry) waits]

/-- What was sent out and what waits make up the program of the phrase. -/
private theorem Reads.whole {registry : Registry} {phrase : Phrase .expression}
    {stack sent pending : List Term} (reads : phrase.Reads registry stack sent pending) :
    sent ++ (pending ++ (phrase.spine registry).waiting.map Side.operator) =
      (phrase.tree registry).program := by
  rw [← List.append_assoc, reads.program, ← Spine.program_closed]
  exact congrArg Tree.program (Spine.closed_ofChain registry (phrase.wellFormed_chain registry))

/-- Brackets send out the whole program of their body. -/
private theorem Reads.grouped {registry : Registry} {opening closing : Term}
    {body : Phrase .expression} {stack sent pending : List Term}
    (opens : opening.role = .opening) (closes : closing.role = .closing)
    (reads : body.Reads registry (opening :: stack) sent pending) :
    (group opening opens body closing closes).Reads registry stack
      ((body.tree registry).program) [] := by
  refine ⟨by simp [Prefixes], ?_, ?_⟩
  · simp [spine_of_ne_expression, chain, Spine.sent, tree]
  · intro before rest
    have closed := @closed?_append _ stack opening opens reads.ne_opening
    have pushed : Moves registry stack opening [] (opening :: stack) := .pushed (.inr opens)
    have ended : Moves registry _ closing _ stack := .closed closes closed
    rw [terms, List.append_assoc, List.cons_append, List.singleton_append, pushed.resumed_cons,
      reads.resumes, ended.resumed_cons, List.append_assoc, reads.whole]
    simp [spine_of_ne_expression]

/-- A binary operator sends out what acts before it, and takes its place on the spine. -/
private theorem Reads.linked {registry : Registry} {earlier : Phrase .expression} {operator : Term}
    {next : Phrase .unary} {stack sent pending nextSent nextPending : List Term}
    (role : operator.role = .binary) (above : Priority.bracket < registry.priority operator.text)
    (below : registry.priority operator.text ≤ Priority.unary)
    (admits : Admits registry .expression stack) (reads : earlier.Reads registry stack sent pending)
    (nextReads : next.Reads registry (operator :: (((earlier.spine registry).left registry
      ⟨operator, (next.chain registry).first⟩).map Side.operator ++ stack)) nextSent nextPending) :
    (link earlier operator role next).Reads registry stack
      (sent ++ (pending ++ ((earlier.spine registry).ended registry
        ⟨operator, (next.chain registry).first⟩).map Side.operator) ++ nextSent) nextPending := by
  obtain ⟨prefixes, program, resumes⟩ := reads
  obtain ⟨nextPrefixes, nextProgram, nextResumes⟩ := nextReads
  simp only [next.spine_of_ne_expression registry (by simp), Spine.sent, List.foldr_nil,
    List.nil_append, List.map_nil, List.append_nil] at nextProgram nextResumes
  refine ⟨nextPrefixes, ?_, ?_⟩
  · rw [spine_link, Spine.sent_linked, List.append_assoc, nextProgram, ← List.append_assoc sent,
      program]
    simp [Spine.linked]
  · intro before rest
    obtain ⟨taken, dropped⟩ := @takeWhile_stack registry ⟨operator, (next.chain registry).first⟩
      role above below _ _ prefixes admits (earlier.spine registry)
    have moves : Moves registry
        (pending ++ (earlier.spine registry).waiting.map Side.operator ++ stack) operator _ _ :=
      .operator (.inr role)
    rw [taken, dropped] at moves
    rw [terms, List.append_assoc, List.cons_append, resumes, moves.resumed_cons, nextResumes,
      spine_link, Spine.linked]
    simp

/-- Every phrase is read on top of every stack that it leaves alone. -/
theorem exists_reads {registry : Registry} {category : Category} (phrase : Phrase category)
    {stack : List Term} (ordered : Ordered registry phrase.terms)
    (admits : Admits registry category stack) :
    ∃ sent pending, phrase.Reads registry stack sent pending := by
  induction phrase generalizing stack with
  | operand term role =>
    refine ⟨[term], [], by simp [Prefixes], by simp [spine, Spine.ofChain, chain, Spine.sent,
      Tree.program], ?_⟩
    intro before rest
    exact (Moves.operand role).resumed_cons before rest
  | call function role argument ih =>
    obtain ⟨sent, pending, reads⟩ := @ih (function :: stack)
      (fun term member => ordered term (by simp [terms, member])) trivial
    exact ⟨sent, _, reads.prefixed (by simp) rfl rfl (.inr role) (.pushed (.inl role))⟩
  | group opening opens body closing closes ih =>
    obtain ⟨sent, pending, reads⟩ := @ih (opening :: stack)
      (fun term member => ordered term (by simp [terms, member])) (by simpa [Admits] using opens)
    exact ⟨_, _, reads.grouped opens closes⟩
  | bare primary ih =>
    obtain ⟨sent, pending, reads⟩ := @ih stack ordered trivial
    exact ⟨sent, pending, reads.prefixes, reads.program, reads.resumes⟩
  | signed sign role argument ih =>
    obtain ⟨sent, pending, reads⟩ := @ih (sign :: stack)
      (fun term member => ordered term (by simp [terms, member]))
      (by simp [Admits, Term.priority, role])
    refine ⟨sent, _, reads.prefixed (by simp) rfl rfl (.inl role) ?_⟩
    have moves : Moves registry stack sign _ _ := .operator (.inl role)
    cases stack with
    | nil => exact moves
    | cons top stack =>
      have stays : goesFirst registry sign top = false := by
        simpa [goesFirst, role, Term.priority] using admits top rfl
      simpa [stays] using moves
  | first head ih =>
    obtain ⟨sent, pending, reads⟩ := @ih stack ordered fun top member => by
      simp [Term.priority, admits top member]
      decide
    exact ⟨sent, pending, reads.prefixes, reads.program, reads.resumes⟩
  | link earlier operator role next earlierReads nextReads =>
    obtain ⟨above, below⟩ := ordered operator (by simp [terms]) role
    obtain ⟨sent, pending, reads⟩ := @earlierReads stack
      (fun term member => ordered term (by simp [terms, member])) admits
    obtain ⟨nextSent, nextPending, nextFound⟩ := @nextReads (operator :: _)
      (fun term member => ordered term (by simp [terms, member]))
      (by simpa [Admits, Term.priority, role] using below)
    exact ⟨_, _, reads.linked role above below admits nextFound⟩

/-- The whole program of an expression is that of its tree by precedence. -/
theorem arrangedFrom_terms {registry : Registry} (phrase : Phrase .expression)
    (ordered : Ordered registry phrase.terms) :
    arrangedFrom registry [] phrase.terms = .ok (phrase.tree registry).program := by
  obtain ⟨sent, pending, reads⟩ := @exists_reads registry _ phrase [] ordered (by simp [Admits])
  have resumes := reads.resumes [] []
  simp only [List.append_nil, List.nil_append, resumed] at resumes
  rw [arrangedFrom, drained_eq_ok reads.ne_opening] at resumes
  rw [← reads.whole]
  cases result : arrangedFrom registry [] phrase.terms with
  | error => simp [result, Except.map] at resumes
  | ok program => simpa [result, Except.map] using resumes

end Phrase

/-- The program of a tree passes the check of depth. -/
theorem Program.arranged_of_tree {registry : Registry} {terms : List Term} {tree : Tree}
    (valid : tree.WellFormed) (program : arrangedFrom registry [] terms = .ok tree.program) :
    arranged registry terms = .ok tree.program :=
  arranged_eq_ok_iff.mpr ⟨program, Tree.depthFrom_program valid 0⟩

/-- An infix expression is arranged by precedence: a function takes the primary behind it and a
unary operator the unary phrase behind it, and a chain is split at the rightmost of its weakest
operators. -/
theorem Phrase.arranged_eq_program_tree {registry : Registry} (phrase : Phrase .expression)
    (between : ∀ term ∈ phrase.terms, term.role = .binary →
      Priority.bracket < registry.priority term.text ∧
        registry.priority term.text < Priority.unary) :
    Program.arranged registry phrase.terms = .ok (phrase.tree registry).program := by
  have ordered : Program.Ordered registry phrase.terms := by
    intro term member binary
    obtain ⟨above, below⟩ := between term member binary
    exact ⟨above, Int.le_of_lt below⟩
  exact Program.arranged_of_tree (phrase.wellFormed_tree registry)
    (phrase.arrangedFrom_terms ordered)

/-- In the standard registry `-LN2^3-4*(5-6)` is `((-LN2)^3)-(4*(5-6))`. -/
theorem Phrase.arranged_signed_difference :
    let minus : Term := ⟨['-'], .binary⟩
    let signed : Phrase .unary :=
      .signed ⟨['-'], .unary⟩ rfl (.bare (.call ⟨['L', 'N'], .function⟩ rfl (digit '2')))
    let power : Phrase .expression := .link (.first signed) ⟨['^'], .binary⟩ rfl (.bare (digit '3'))
    let group : Phrase .primary := .group ⟨['('], .opening⟩ rfl
      (.link (.first (.bare (digit '5'))) minus rfl (.bare (digit '6'))) ⟨[')'], .closing⟩ rfl
    let phrase : Phrase .expression := .link (.link power minus rfl (.bare (digit '4')))
      ⟨['*'], .binary⟩ rfl (.bare group)
    (∀ term ∈ phrase.terms, term.role = .binary →
      Priority.bracket < Registry.standard.priority term.text ∧
        Registry.standard.priority term.text < Priority.unary) ∧
    Program.arranged Registry.standard phrase.terms = .ok [⟨['2'], .number⟩,
      ⟨['L', 'N'], .function⟩, ⟨['-'], .unary⟩, ⟨['3'], .number⟩, ⟨['^'], .binary⟩,
      ⟨['4'], .number⟩, ⟨['5'], .number⟩, ⟨['6'], .number⟩, minus, ⟨['*'], .binary⟩, minus] := by
  intro minus signed power group phrase
  have between : ∀ term ∈ phrase.terms, term.role = .binary →
      Priority.bracket < Registry.standard.priority term.text ∧
        Registry.standard.priority term.text < Priority.unary := by decide
  exact ⟨between, (arranged_eq_program_tree phrase between).trans (by decide +kernel)⟩

end Abacus
