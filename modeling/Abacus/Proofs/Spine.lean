import Abacus.Program.Arranged
import Abacus.Proofs.Precedence
import Mathlib.Data.List.TakeWhile

/-! The operators that wait on the stack are the right spine of the tree of what was read so far. -/

namespace Abacus

/-- Nothing behind an element that stops the search is taken. -/
theorem takeWhile_append_stop {Element : Type} {taken : Element → Bool} {stop : Element}
    (stops : taken stop = false) (front behind : List Element) :
    (front ++ stop :: behind).takeWhile taken = front.takeWhile taken := by
  induction front with
  | nil => simp [stops]
  | cons head front ih =>
    cases here : taken head
    · simp [here]
    · simpa [here] using ih

theorem dropWhile_append_stop {Element : Type} {taken : Element → Bool} {stop : Element}
    (stops : taken stop = false) (front behind : List Element) :
    (front ++ stop :: behind).dropWhile taken = front.dropWhile taken ++ stop :: behind := by
  induction front with
  | nil => simp [stops]
  | cons head front ih =>
    cases here : taken head
    · simp [here]
    · simpa [here] using ih

/-- What was read of a chain: the operators that wait for a right operand, the innermost first and
each with its left operand, and the operand that was read last. -/
structure Spine where
  waiting : List Side
  last : Tree

namespace Spine

/-- The tree in which operators that waited take what follows them, the innermost first. -/
def closed (waiting : List Side) (last : Tree) : Tree :=
  waiting.foldl (fun right side => .binary side.operator side.operand right) last

/-- The terms that were sent to the program already. -/
def sent (waiting : List Side) : List Term :=
  waiting.foldr (fun side before => before ++ side.operand.program) []

/-- An operator that waits acts before a new one. -/
def ends (registry : Registry) (link side : Side) : Bool :=
  Program.goesFirst registry link.operator side.operator

/-- The operators that act before a new one. -/
def ended (registry : Registry) (spine : Spine) (link : Side) : List Side :=
  spine.waiting.takeWhile (ends registry link)

/-- The operators that wait on behind a new one. -/
def left (registry : Registry) (spine : Spine) (link : Side) : List Side :=
  spine.waiting.dropWhile (ends registry link)

/-- With one more operator and operand: the operators that act first take what was read, and the new
one takes the result. -/
def linked (registry : Registry) (spine : Spine) (link : Side) : Spine where
  waiting := ⟨link.operator, closed (spine.ended registry link) spine.last⟩ ::
    spine.left registry link
  last := link.operand

/-- The spine after a chain. -/
def ofChain (registry : Registry) (chain : Chain) : Spine :=
  chain.links.foldl (linked registry) ⟨[], chain.first⟩

theorem sent_append (left right : List Side) : sent (left ++ right) = sent right ++ sent left := by
  induction left with
  | nil => simp [sent]
  | cons side left ih =>
    simp only [sent, List.cons_append, List.foldr_cons] at ih ⊢
    rw [ih, List.append_assoc]

theorem program_closed (waiting : List Side) (last : Tree) : (closed waiting last).program =
    sent waiting ++ last.program ++ waiting.map Side.operator := by
  induction waiting generalizing last with
  | nil => simp [closed, sent]
  | cons side waiting ih =>
    have inner := ih (.binary side.operator side.operand last)
    simpa [closed, sent, Tree.program] using inner

/-- A new operator sends out what was read last and the operators that act before it. -/
theorem sent_linked (registry : Registry) (spine : Spine) (link : Side) :
    sent (spine.linked registry link).waiting = sent spine.waiting ++
      (spine.last.program ++ (spine.ended registry link).map Side.operator) := by
  have parts : spine.ended registry link ++ spine.left registry link = spine.waiting :=
    List.takeWhile_append_dropWhile
  rw [linked, sent, List.foldr_cons, ← sent, program_closed, ← parts, sent_append]
  simp

/-- The waiting operators are the weakest places of what was read, from the whole chain inwards. -/
inductive Ranked (registry : Registry) : Spine → Tree → List Side → Prop where
  | single {last : Tree} : Ranked registry ⟨[], last⟩ last []
  | root {first last : Tree} {links upper : List Side} (place : Weakest registry links)
    (inner : Ranked registry ⟨upper, last⟩ place.side.operand place.after) :
    Ranked registry
      ⟨upper ++ [⟨place.side.operator, Chain.grouped registry first place.before⟩], last⟩
      first links

namespace Ranked
variable {registry : Registry} {spine : Spine} {links : List Side} {first : Tree}

theorem closed_eq_grouped (ranked : Ranked registry spine first links) :
    closed spine.waiting spine.last = Chain.grouped registry first links := by
  induction ranked with
  | single => simp [closed]
  | root place inner ih =>
    rw [Chain.grouped_of_weakest _ place, ← ih]
    simp [closed]

/-- A waiting operator stands in the chain. -/
theorem exists_link (ranked : Ranked registry spine first links) {side : Side}
    (member : side ∈ spine.waiting) : ∃ link ∈ links, link.operator = side.operator := by
  induction ranked with
  | single => cases member
  | root place inner ih =>
    rw [← place.whole]
    rcases List.mem_append.mp member with upper | bottom
    · obtain ⟨link, behind, same⟩ := ih upper
      exact ⟨link, by simp [behind], same⟩
    · obtain rfl := List.mem_singleton.mp bottom
      exact ⟨place.side, by simp, rfl⟩

private theorem ends_iff {link : Side} (binary : link.operator.role = .binary) (side : Side) :
    ends registry link side = true ↔ link.priority registry ≤ side.priority registry := by
  simp [ends, Program.goesFirst, binary, Side.priority]

/-- An operator that is no stronger than any before it takes the whole chain. -/
private theorem ofLast (first : Tree) (link : Side)
    (weakest : ∀ other ∈ links, link.priority registry ≤ other.priority registry) :
    Ranked registry ⟨[⟨link.operator, Chain.grouped registry first links⟩], link.operand⟩ first
      (links ++ [link]) :=
  @root registry first link.operand (links ++ [link]) [] (Weakest.ofLast link weakest) .single

/-- One more operator ends all waiting ones that are not weaker, and the rest wait on. -/
theorem linked (ranked : Ranked registry spine first links) {link : Side}
    (binary : link.operator.role = .binary) :
    Ranked registry (spine.linked registry link) first (links ++ [link]) := by
  induction ranked with
  | @single last =>
    have alone := @ofLast registry [] last link (by simp)
    simpa [Spine.linked, ended, left, closed] using alone
  | @root first last links upper place inner ih =>
    have whole : Ranked registry ⟨upper ++ [_], last⟩ first links := .root place inner
    by_cases weaker : link.priority registry ≤ place.side.priority registry
    · -- All that wait are at least as strong as the weakest, so all of them end.
      have all : ∀ side ∈ upper ++
          [⟨place.side.operator, Chain.grouped registry first place.before⟩],
          ends registry link side = true := by
        intro side member
        obtain ⟨other, present, same⟩ := whole.exists_link member
        have bound : place.side.priority registry ≤ side.priority registry := by
          simpa only [Side.priority, ← same] using place.weakest_of_mem present
        exact (ends_iff binary side).mpr (Int.le_trans weaker bound)
      have taken := ofLast first link fun other member =>
        Int.le_trans weaker (place.weakest_of_mem member)
      rw [Spine.linked, ended, left, List.takeWhile_eq_self_iff.mpr all,
        List.dropWhile_eq_nil_iff.mpr all, whole.closed_eq_grouped]
      exact taken
    · -- The weakest waits on, and the new one goes into its right operand.
      have stays : ends registry link
          ⟨place.side.operator, Chain.grouped registry first place.before⟩ = false := by
        rw [Bool.eq_false_iff, ne_eq, ends_iff binary]
        exact weaker
      rw [Spine.linked, ended, left, takeWhile_append_stop stays, dropWhile_append_stop stays]
      exact .root (place.extended link (Int.not_le.mp weaker)) ih

theorem foldl (ranked : Ranked registry spine first links) {others : List Side}
    (binary : ∀ link ∈ others, link.operator.role = .binary) :
    Ranked registry (others.foldl (Spine.linked registry) spine) first (links ++ others) := by
  induction others generalizing spine links with
  | nil => simpa using ranked
  | cons link others ih =>
    have next := ranked.linked (binary link (by simp))
    simpa using ih next fun other member => binary other (by simp [member])

end Ranked

theorem ranked_ofChain (registry : Registry) {chain : Chain} (valid : chain.WellFormed) :
    Ranked registry (ofChain registry chain) chain.first chain.links :=
  Ranked.single.foldl fun link member => (valid.2 link member).1

/-- The right spine of what was read closes to the tree by precedence. -/
theorem closed_ofChain (registry : Registry) {chain : Chain} (valid : chain.WellFormed) :
    closed (ofChain registry chain).waiting (ofChain registry chain).last =
      chain.tree registry :=
  (ranked_ofChain registry valid).closed_eq_grouped

theorem binary_of_mem_waiting (registry : Registry) {chain : Chain} (valid : chain.WellFormed)
    {side : Side} (member : side ∈ (ofChain registry chain).waiting) :
    side.operator.role = .binary := by
  obtain ⟨link, present, same⟩ := (ranked_ofChain registry valid).exists_link member
  exact same ▸ (valid.2 link present).1

end Spine
end Abacus
