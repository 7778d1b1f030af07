import Abacus.Tree

/-! The infix grammar. An expression is a chain of unary phrases with a binary operator between each
two; a unary phrase is a primary behind any number of unary operators; a primary is an operand, a
function in front of a primary, or an expression in brackets. -/

namespace Abacus

inductive Category where
  | primary
  | unary
  | expression
  deriving DecidableEq

/-- The phrases of a category, each with the terms that it is made of. -/
inductive Phrase : Category → Type where
  | operand (term : Term) (role : term.role.isOperand = true) : Phrase .primary
  | call (function : Term) (role : function.role = .function) (argument : Phrase .primary) :
    Phrase .primary
  | group (opening : Term) (opens : opening.role = .opening) (body : Phrase .expression)
    (closing : Term) (closes : closing.role = .closing) : Phrase .primary
  | bare (primary : Phrase .primary) : Phrase .unary
  | signed (sign : Term) (role : sign.role = .unary) (argument : Phrase .unary) : Phrase .unary
  | first (head : Phrase .unary) : Phrase .expression
  | link (chain : Phrase .expression) (operator : Term) (role : operator.role = .binary)
    (next : Phrase .unary) : Phrase .expression

namespace Phrase

/-- The terms of a phrase in the order in which they are written. -/
def terms : {category : Category} → Phrase category → List Term
  | _, operand term _ => [term]
  | _, call function _ argument => function :: argument.terms
  | _, group opening _ body closing _ => opening :: body.terms ++ [closing]
  | _, bare primary => primary.terms
  | _, signed sign _ argument => sign :: argument.terms
  | _, first head => head.terms
  | _, link chain operator _ next => chain.terms ++ operator :: next.terms

/-- A number of one digit. -/
def digit (char : Char) : Phrase .primary :=
  operand ⟨[char], .number⟩ rfl

/-- A phrase holds a group: the terms in front of the body, the body, and the terms behind it. The
brackets are among the terms around the body. -/
inductive Encloses : {category : Category} → Phrase category → List Term → Phrase .expression →
    List Term → Prop where
  | here {opening opens body closing closes} :
    Encloses (group opening opens body closing closes) [opening] body [closing]
  | inside {opening opens body closing closes before inner after}
    (within : Encloses body before inner after) :
    Encloses (group opening opens body closing closes) (opening :: before) inner
      (after ++ [closing])
  | call {function role argument before inner after}
    (within : Encloses argument before inner after) :
    Encloses (call function role argument) (function :: before) inner after
  | bare {primary before inner after} (within : Encloses primary before inner after) :
    Encloses (bare primary) before inner after
  | signed {sign role argument before inner after}
    (within : Encloses argument before inner after) :
    Encloses (signed sign role argument) (sign :: before) inner after
  | first {head before inner after} (within : Encloses head before inner after) :
    Encloses (first head) before inner after
  | earlier {chain operator role next before inner after}
    (within : Encloses chain before inner after) :
    Encloses (link chain operator role next) before inner (after ++ operator :: next.terms)
  | last {chain operator role next before inner after}
    (within : Encloses next before inner after) :
    Encloses (link chain operator role next) (chain.terms ++ operator :: before) inner after

theorem Encloses.terms {category : Category} {phrase : Phrase category} {before after : List Term}
    {inner : Phrase .expression} (within : phrase.Encloses before inner after) :
    phrase.terms = before ++ inner.terms ++ after := by
  induction within with
  | here => simp [Phrase.terms]
  | _ => simp_all [Phrase.terms]

end Phrase

/-- Opening and closing brackets. -/
def Role.isBracket : Role → Bool
  | opening | closing => true
  | _ => false

theorem Role.isBracket_iff {role : Role} :
    role.isBracket = true ↔ role = .opening ∨ role = .closing := by
  cases role <;> simp [isBracket]

section Brackets
variable {Item : Type} {role : Item → Role}

/-- Items in the roles of terms, without the brackets among them. -/
def withoutBrackets (role : Item → Role) (items : List Item) : List Item :=
  items.filter fun item => !(role item).isBracket

theorem withoutBrackets_append (left right : List Item) : withoutBrackets role (left ++ right) =
    withoutBrackets role left ++ withoutBrackets role right :=
  List.filter_append ..

theorem withoutBrackets_cons (item : Item) (items : List Item) :
    withoutBrackets role (item :: items) =
      if (role item).isBracket then withoutBrackets role items
      else item :: withoutBrackets role items := by
  cases bracket : (role item).isBracket <;> simp [withoutBrackets, bracket]

end Brackets

/-- Terms without the brackets among them. -/
def unbracketed (terms : List Term) : List Term :=
  terms.filter fun term => !term.role.isBracket

@[simp]
theorem unbracketed_nil : unbracketed [] = [] := rfl

@[simp]
theorem unbracketed_append (left right : List Term) :
    unbracketed (left ++ right) = unbracketed left ++ unbracketed right :=
  withoutBrackets_append left right

theorem unbracketed_cons (term : Term) (terms : List Term) : unbracketed (term :: terms) =
    if term.role.isBracket then unbracketed terms else term :: unbracketed terms :=
  withoutBrackets_cons term terms

/-- The terms are derived from the infix grammar. -/
def Infix (terms : List Term) : Prop :=
  ∃ phrase : Phrase .expression, phrase.terms = terms

end Abacus
