import Calculator.Stacks

namespace Calculator

/-- A tree of operations and parentheses, with the offsets of its tokens. -/
inductive Expr where
  | number (value : Binary64) (offset : Nat)
  | group (opening : Nat) (body : Expr) (closing : Nat)
  | binary (op : Operator) (offset : Nat) (left right : Expr)
  deriving DecidableEq

namespace Expr

def tokens : Expr → List (Located Token)
  | .number x offset => [⟨.number x, offset⟩]
  | .group opening body closing =>
    ⟨.openParen, opening⟩ :: body.tokens ++ [⟨.closeParen, closing⟩]
  | .binary op offset left right => left.tokens ++ ⟨.operator op, offset⟩ :: right.tokens

/-- Joins an operand to the ones that follow, from left to right. -/
def chain (first : Expr) : List (Located Operator × Expr) → Expr
  | [] => first
  | (op, next) :: rest => chain (.binary op.value op.offset first next) rest

theorem chain_append (first : Expr) (links links' : List (Located Operator × Expr)) :
    first.chain (links ++ links') = (first.chain links).chain links' := by
  induction links generalizing first with
  | nil => rfl
  | cons link links ih => exact ih _

/-- Evaluates the left operand, the right operand, then the operation. -/
def eval : Expr → Except EvalError Binary64
  | .number x _ => .ok x
  | .group _ body _ => body.eval
  | .binary op offset left right =>
    match left.eval with
    | .error e => .error e
    | .ok x =>
      match right.eval with
      | .error e => .error e
      | .ok y => op.apply x y offset

def applications : Expr → List Application
  | .number _ _ => []
  | .group _ body _ => body.applications
  | .binary op offset left right =>
    match left.eval with
    | .error _ => left.applications
    | .ok x =>
      match right.eval with
      | .error _ => left.applications ++ right.applications
      | .ok y =>
        match op.apply x y offset with
        | .error _ => left.applications ++ right.applications
        | .ok value => left.applications ++ right.applications ++ [⟨op, x, y, value⟩]

end Expr

inductive Phrase where
  | sum
  | product
  | factor

/-- The least precedence of an operator at the top of the phrase. -/
def Phrase.level : Phrase → Nat
  | .sum => 1
  | .product => 2
  | .factor => 3

namespace Expr

/-- The infix grammar, in which both rows group to the left:
`sum := product (('+' | '-') product)*`,
`product := factor (('*' | '/') factor)*`,
`factor := number | '(' sum ')'`. -/
inductive Is : Phrase → Expr → Prop
  | sum : Is .product first →
      (∀ link ∈ links, link.1.value = .add ∨ link.1.value = .sub) →
      (∀ link ∈ links, Is .product link.2) → Is .sum (chain first links)
  | product : Is .factor first →
      (∀ link ∈ links, link.1.value = .mul ∨ link.1.value = .div) →
      (∀ link ∈ links, Is .factor link.2) → Is .product (chain first links)
  | number : Is .factor (.number x offset)
  | group : Is .sum body → Is .factor (.group opening body closing)

theorem Is.to_product {e : Expr} (h : e.Is .factor) : e.Is .product := by
  have hc : (e.chain []).Is .product := .product h (List.forall_mem_nil _) (List.forall_mem_nil _)
  exact hc

theorem Is.to_sum {e : Expr} (h : e.Is .product) : e.Is .sum := by
  have hc : (e.chain []).Is .sum := .sum h (List.forall_mem_nil _) (List.forall_mem_nil _)
  exact hc

theorem Is.of_factor {e : Expr} (h : e.Is .factor) (phrase : Phrase) : e.Is phrase := by
  cases phrase with
  | sum => exact h.to_product.to_sum
  | product => exact h.to_product
  | factor => exact h

theorem Is.binary_sum {left right : Expr} (hl : left.Is .sum) (ho : op = .add ∨ op = .sub)
    (hr : right.Is .product) (offset : Nat) : (binary op offset left right).Is .sum := by
  cases hl with
  | @sum first links hf hops hs =>
    have hc : (first.chain (links ++ [(⟨op, offset⟩, right)])).Is .sum := by
      apply Is.sum hf
      · exact List.forall_mem_append.2 ⟨hops, List.forall_mem_singleton.2 ho⟩
      · exact List.forall_mem_append.2 ⟨hs, List.forall_mem_singleton.2 hr⟩
    rw [chain_append] at hc
    exact hc

theorem Is.binary_product {left right : Expr} (hl : left.Is .product) (ho : op = .mul ∨ op = .div)
    (hr : right.Is .factor) (offset : Nat) : (binary op offset left right).Is .product := by
  cases hl with
  | @product first links hf hops hs =>
    have hc : (first.chain (links ++ [(⟨op, offset⟩, right)])).Is .product := by
      apply Is.product hf
      · exact List.forall_mem_append.2 ⟨hops, List.forall_mem_singleton.2 ho⟩
      · exact List.forall_mem_append.2 ⟨hs, List.forall_mem_singleton.2 hr⟩
    rw [chain_append] at hc
    exact hc

/-- The grammar by precedence alone: no operator below the level stands at the top, and operators
of one precedence group to the left. -/
def Fits : Expr → Nat → Prop
  | .number _ _, _ => True
  | .group _ body _, _ => body.Fits 1
  | .binary op _ left right, level =>
    level ≤ op.precedence ∧ left.Fits op.precedence ∧ right.Fits (op.precedence + 1)

instance decidableFits : (e : Expr) → (level : Nat) → Decidable (e.Fits level)
  | .number _ _, _ => isTrue trivial
  | .group _ body _, _ => decidableFits body 1
  | .binary op _ left right, level =>
    have := decidableFits left op.precedence
    have := decidableFits right (op.precedence + 1)
    inferInstanceAs (Decidable (level ≤ op.precedence ∧ _ ∧ _))

theorem Fits.mono {e : Expr} (h : e.Fits level) (hl : level' ≤ level) : e.Fits level' := by
  cases e with
  | number => trivial
  | group => exact h
  | binary op offset left right => exact ⟨Nat.le_trans hl h.1, h.2⟩

theorem Fits.chain {first : Expr} {links : List (Located Operator × Expr)} (h : first.Fits level)
    (ho : ∀ link ∈ links, link.1.value.precedence = level)
    (hs : ∀ link ∈ links, link.2.Fits (level + 1)) : (first.chain links).Fits level := by
  induction links generalizing first with
  | nil => exact h
  | cons link links ih =>
    obtain ⟨rfl, ho⟩ := List.forall_mem_cons.1 ho
    obtain ⟨hn, hs⟩ := List.forall_mem_cons.1 hs
    exact ih ⟨Nat.le_refl _, h, hn⟩ ho hs

theorem Is.fits {e : Expr} (h : e.Is phrase) : e.Fits phrase.level := by
  induction h with
  | sum _ ho _ ihf ihs =>
    have hp := fun link hm => Operator.precedence_eq_one_iff.2 (ho link hm)
    exact (ihf.mono (Nat.le_succ 1)).chain hp ihs
  | product _ ho _ ihf ihs =>
    have hp := fun link hm => Operator.precedence_eq_two_iff.2 (ho link hm)
    exact (ihf.mono (Nat.le_succ 2)).chain hp ihs
  | number => trivial
  | group _ ih => exact ih

theorem Fits.is {e : Expr} (h : e.Fits phrase.level) : e.Is phrase := by
  induction e generalizing phrase with
  | number x offset => exact Is.number.of_factor phrase
  | group opening body closing ih =>
    have hb : body.Is .sum := ih h
    exact hb.group.of_factor phrase
  | binary op offset left right ihl ihr =>
    obtain ⟨hl, hleft, hright⟩ := h
    obtain hp | hp := op.precedence_cases
    · rw [hp] at hl hleft hright
      have ho := Operator.precedence_eq_one_iff.1 hp
      have hs : (binary op offset left right).Is .sum :=
        Is.binary_sum (ihl hleft) ho (ihr hright) offset
      cases phrase with
      | sum => exact hs
      | product => exact absurd hl (by decide)
      | factor => exact absurd hl (by decide)
    · rw [hp] at hl hleft hright
      have ho := Operator.precedence_eq_two_iff.1 hp
      have hs : (binary op offset left right).Is .product :=
        Is.binary_product (ihl hleft) ho (ihr hright) offset
      cases phrase with
      | sum => exact hs.to_sum
      | product => exact hs
      | factor => exact absurd hl (by decide)

/-- The grammar is the one by precedence. -/
theorem is_iff_fits {e : Expr} : e.Is phrase ↔ e.Fits phrase.level :=
  ⟨Is.fits, Fits.is⟩

instance (phrase : Phrase) (e : Expr) : Decidable (e.Is phrase) :=
  decidable_of_iff (e.Fits phrase.level) is_iff_fits.symm

end Expr

/-- The tokens of some infix expression. -/
def IsSentence (tokens : List (Located Token)) : Prop :=
  ∃ e : Expr, e.Is .sum ∧ e.tokens = tokens

end Calculator
