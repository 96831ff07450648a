import Calculator.Brackets
import Calculator.Stacks

namespace Calculator

/-- The operators `taken` off the top have been applied, which leaves one operand fewer for each
of them, and of those from before all below the lowest that was used. -/
structure Spends (taken : List Pending) (operands left : List Binary64) : Prop where
  operators : ∀ p ∈ taken, p.isOperator
  length : left.length + taken.length = operands.length
  below : left.drop 1 = operands.drop (taken.length + 1)
  unchanged : taken = [] → left = operands

theorem Spends.nil (operands : List Binary64) : Spends [] operands operands :=
  ⟨List.forall_mem_nil _, rfl, rfl, fun _ => rfl⟩

theorem Spends.cons (h : Spends taken (x :: operands) left) (op : Operator) (offset : Nat)
    (right below : Binary64) :
    Spends (.operator op offset :: taken) (right :: below :: operands) left := by
  refine ⟨?_, ?_, ?_, nofun⟩
  · exact List.forall_mem_cons.2 ⟨rfl, h.operators⟩
  · have hl := h.length
    simp only [List.length_cons] at hl ⊢
    omega
  · have hb := h.below
    simpa only [List.length_cons, List.drop_succ_cons] using hb

/-- How the application of pending operators ends. One that fails is off its stack, and so are the
operands that it found. -/
inductive Reduction (binds : Operator → Bool) (s : Stacks) : Except EvalError Unit → Stacks → Prop
  | done (taken : List Pending) : s.pending = taken ++ rest → Spends taken s.operands left →
      (∀ op offset below, rest = .operator op offset :: below → binds op = false) →
      Reduction binds s (.ok ()) ⟨left, rest⟩
  | missingOperand (taken : List Pending) : s.pending = taken ++ .operator op offset :: rest →
      Spends taken s.operands left → left.length < 2 →
      Reduction binds s (.error (.missingOperand op offset)) ⟨[], rest⟩
  | divisionByZero (taken : List Pending) : s.pending = taken ++ .operator .div offset :: rest →
      Spends taken s.operands (right :: left :: below) → right.isZero →
      Reduction binds s (.error (.divisionByZero offset)) ⟨below, rest⟩

theorem Reduction.cons (h : Reduction binds ⟨x :: operands, pending⟩ result s') (op : Operator)
    (offset : Nat) (right left : Binary64) :
    Reduction binds ⟨right :: left :: operands, .operator op offset :: pending⟩ result s' := by
  cases h with
  | done taken hp hs hr =>
    exact .done (_ :: taken) (congrArg (_ :: ·) hp) (hs.cons op offset right left) hr
  | missingOperand taken hp hs hl =>
    exact .missingOperand (_ :: taken) (congrArg (_ :: ·) hp) (hs.cons op offset right left) hl
  | divisionByZero taken hp hs hz =>
    exact .divisionByZero (_ :: taken) (congrArg (_ :: ·) hp) (hs.cons op offset right left) hz

theorem reduction_reduceWhile (binds : Operator → Bool) (pending : List Pending)
    (operands : List Binary64) :
    Reduction binds ⟨operands, pending⟩ (reduceWhile binds pending operands).result
      (reduceWhile binds pending operands).state := by
  induction pending generalizing operands with
  | nil => exact .done [] rfl (.nil operands) nofun
  | cons p pending ih =>
    cases p with
    | openParen offset => exact .done [] rfl (.nil operands) nofun
    | operator op offset =>
      cases hb : binds op with
      | false =>
        simp only [reduceWhile, hb, Bool.false_eq_true, ↓reduceIte]
        refine .done [] rfl (.nil operands) ?_
        intro top place below h
        cases h
        exact hb
      | true =>
        rcases operands with _ | ⟨right, _ | ⟨left, operands⟩⟩
        · simp only [reduceWhile, hb, ↓reduceIte]
          exact .missingOperand [] rfl (.nil _) (Nat.zero_lt_succ 1)
        · simp only [reduceWhile, hb, ↓reduceIte]
          exact .missingOperand [] rfl (.nil _) (Nat.lt_succ_self 1)
        · simp only [reduceWhile, hb, ↓reduceIte]
          cases hx : op.apply left right offset with
          | ok x => exact (ih (x :: operands)).cons op offset right left
          | error e =>
            obtain ⟨rfl, hz, rfl⟩ := Operator.apply_eq_error_iff.1 hx
            exact .divisionByZero [] rfl (.nil _) hz

theorem Reduction.exists_taken (h : Reduction binds s result s') :
    ∃ taken, (∀ p ∈ taken, p.isOperator) ∧ s.pending = taken ++ s'.pending := by
  cases h with
  | done taken hp hs _ => exact ⟨taken, hs.operators, hp⟩
  | missingOperand taken hp hs _ =>
    refine ⟨_, ?_, hp.trans (List.append_cons _ _ _)⟩
    exact List.forall_mem_append.2 ⟨hs.operators, List.forall_mem_singleton.2 rfl⟩
  | divisionByZero taken hp hs _ =>
    refine ⟨_, ?_, hp.trans (List.append_cons _ _ _)⟩
    exact List.forall_mem_append.2 ⟨hs.operators, List.forall_mem_singleton.2 rfl⟩

theorem Reduction.suffix (h : Reduction binds s result s') : s'.pending <:+ s.pending := by
  obtain ⟨taken, _, hp⟩ := h.exists_taken
  exact ⟨taken, hp.symm⟩

theorem filter_isParen_eq_nil {taken : List Pending} (h : ∀ p ∈ taken, p.isOperator) :
    taken.filter Pending.isParen = [] := by
  apply List.filter_eq_nil_iff.2
  intro p hp
  cases p with
  | operator op offset => exact Bool.false_ne_true
  | openParen offset => cases h _ hp

theorem Reduction.filter_isParen (h : Reduction binds s result s') :
    s'.pending.filter Pending.isParen = s.pending.filter Pending.isParen := by
  obtain ⟨taken, ht, hp⟩ := h.exists_taken
  rw [hp, List.filter_append, filter_isParen_eq_nil ht, List.nil_append]

namespace Stacks

/-- What a push may do, be it that it succeeds or fails. -/
inductive Leaves (s : Stacks) : Located Token → Except EvalError Unit → Stacks → Prop
  | number : Leaves s ⟨.number x, offset⟩ (.ok ()) ⟨x :: s.operands, s.pending⟩
  | blank : Leaves s ⟨.blank, offset⟩ (.ok ()) s
  | openParen :
      Leaves s ⟨.openParen, offset⟩ (.ok ()) ⟨s.operands, .openParen offset :: s.pending⟩
  | operator : Reduction (op.precedence ≤ ·.precedence) s (.ok ()) ⟨left, below⟩ →
      Leaves s ⟨.operator op, offset⟩ (.ok ()) ⟨left, .operator op offset :: below⟩
  | closeParen : Reduction (fun _ => true) s (.ok ()) ⟨left, .openParen opening :: below⟩ →
      Leaves s ⟨.closeParen, offset⟩ (.ok ()) ⟨left, below⟩
  | unopened : Reduction (fun _ => true) s (.ok ()) ⟨left, []⟩ →
      Leaves s ⟨.closeParen, offset⟩ (.error (.mismatchedParenthesis offset)) ⟨left, []⟩
  | failed : t.isOperator ∨ t.closes → Reduction binds s (.error e) s' → Leaves s t (.error e) s'

theorem leaves_pushOperator (s : Stacks) (op : Operator) (offset : Nat) :
    s.Leaves ⟨.operator op, offset⟩ (s.pushOperator op offset).result
      (s.pushOperator op offset).state := by
  have hr := reduction_reduceWhile (op.precedence ≤ ·.precedence) s.pending s.operands
  rw [pushOperator]
  cases hw : reduceWhile (op.precedence ≤ ·.precedence) s.pending s.operands with
  | mk applied s' result =>
    rw [hw] at hr
    cases result with
    | error e => exact .failed (.inl rfl) hr
    | ok u => exact .operator hr

theorem leaves_closeParen (s : Stacks) (offset : Nat) :
    s.Leaves ⟨.closeParen, offset⟩ (s.closeParen offset).result (s.closeParen offset).state := by
  have hr := reduction_reduceWhile (fun _ => true) s.pending s.operands
  rw [closeParen, reduce]
  cases hw : reduceWhile (fun _ => true) s.pending s.operands with
  | mk applied s' result =>
    rw [hw] at hr
    cases result with
    | error e => exact .failed (.inr rfl) hr
    | ok u =>
      obtain ⟨left, rest⟩ := s'
      rcases rest with _ | ⟨p, below⟩
      · exact .unopened hr
      · cases p with
        | openParen opening => exact .closeParen hr
        | operator op place =>
          cases hr with
          | done taken hp hs hstop => cases hstop op place below rfl

theorem leaves_push (s : Stacks) (t : Located Token) :
    s.Leaves t (s.push t).result (s.push t).state := by
  obtain ⟨token, offset⟩ := t
  cases token with
  | number x => exact .number
  | blank => exact .blank
  | openParen => exact .openParen
  | operator op => exact s.leaves_pushOperator op offset
  | closeParen => exact s.leaves_closeParen offset

/-- What a push of `t` that fails leaves of the stacks `s`: `taken` are the operators that it
applied before the one that failed. -/
def LeftBy (s : Stacks) (t : Located Token) (s' : Stacks) : EvalError → Prop
  | .missingOperand op offset =>
    (∃ taken, (∀ p ∈ taken, p.isOperator) ∧
      s.pending = taken ++ .operator op offset :: s'.pending) ∧ s'.operands = []
  | .divisionByZero offset =>
    ∃ taken, (∀ p ∈ taken, p.isOperator) ∧
      s.pending = taken ++ .operator .div offset :: s'.pending ∧
      taken.length + 2 ≤ s.operands.length ∧ s'.operands = s.operands.drop (taken.length + 2)
  | .mismatchedParenthesis offset =>
    t = ⟨.closeParen, offset⟩ ∧ (∀ p ∈ s.pending, p.isOperator) ∧ s'.pending = [] ∧
      s'.operands.length + s.pending.length = s.operands.length ∧
      s'.operands.drop 1 = s.operands.drop (s.pending.length + 1) ∧
      (s.pending = [] → s'.operands = s.operands)
  | .emptyExpression | .unjoinedValues _ => False

theorem leftBy_of_reduction (h : Reduction binds s (.error e) s') (t : Located Token) :
    s.LeftBy t s' e := by
  cases h with
  | missingOperand taken hp hs _ => exact ⟨⟨taken, hs.operators, hp⟩, rfl⟩
  | divisionByZero taken hp hs _ =>
    have hl := hs.length
    have hb := congrArg (List.drop 1) hs.below
    refine ⟨taken, hs.operators, hp, ?_, hb.trans List.drop_drop⟩
    simp only [List.length_cons] at hl
    omega

theorem leftBy_of_unopened (h : Reduction binds s (.ok ()) ⟨left, []⟩) (offset : Nat) :
    s.LeftBy ⟨.closeParen, offset⟩ ⟨left, []⟩ (.mismatchedParenthesis offset) := by
  cases h with
  | done taken hp hs _ =>
    rw [List.append_nil] at hp
    subst hp
    exact ⟨rfl, hs.operators, rfl, hs.length, hs.below, hs.unchanged⟩

/-- A push fails at an operator or a closing parenthesis only. Nothing is put on, no parenthesis
is taken off, and what else is gone the error tells. -/
theorem push_leftBy {s : Stacks} {t : Located Token} (h : (s.push t).result = .error e) :
    (t.isOperator ∨ t.closes) ∧ (s.push t).state.pending <:+ s.pending ∧
      (s.push t).state.pending.filter Pending.isParen = s.pending.filter Pending.isParen ∧
      s.LeftBy t (s.push t).state e := by
  have hl := s.leaves_push t
  rw [h] at hl
  generalize (s.push t).state = s' at hl ⊢
  cases hl with
  | unopened hr => exact ⟨.inr rfl, hr.suffix, hr.filter_isParen, leftBy_of_unopened hr _⟩
  | failed ht hr => exact ⟨ht, hr.suffix, hr.filter_isParen, leftBy_of_reduction hr t⟩

/-- The second of two divisions is by zero, which the first has left; a product misses an operand
inside a parenthesis; a quotient is worked out before the parenthesis behind it is found to be
unopened. -/
theorem push_leftBy_quotients :
    (push ⟨[.infinity false, .zero false, .nan, .infinity true],
        [.operator .div 6, .operator .div 4, .openParen 1]⟩ ⟨.operator .add, 8⟩).result =
      .error (.divisionByZero 4) ∧
    LeftBy ⟨[.infinity false, .zero false, .nan, .infinity true],
        [.operator .div 6, .operator .div 4, .openParen 1]⟩ ⟨.operator .add, 8⟩
      ⟨[.infinity true], [.openParen 1]⟩ (.divisionByZero 4) ∧
    (push ⟨[.nan], [.operator .mul 3, .openParen 1]⟩ ⟨.closeParen, 5⟩).result =
      .error (.missingOperand .mul 3) ∧
    LeftBy ⟨[.nan], [.operator .mul 3, .openParen 1]⟩ ⟨.closeParen, 5⟩ ⟨[], [.openParen 1]⟩
      (.missingOperand .mul 3) ∧
    (push ⟨[.infinity false, .zero false, .nan], [.operator .div 6]⟩ ⟨.closeParen, 9⟩).result =
      .error (.mismatchedParenthesis 9) ∧
    LeftBy ⟨[.infinity false, .zero false, .nan], [.operator .div 6]⟩ ⟨.closeParen, 9⟩
      ⟨[.zero false, .nan], []⟩ (.mismatchedParenthesis 9) := by
  refine ⟨rfl, ?_, rfl, ?_, rfl, ?_⟩
  · exact (push_leftBy rfl).2.2.2
  · exact (push_leftBy rfl).2.2.2
  · exact (push_leftBy rfl).2.2.2

end Stacks

end Calculator
