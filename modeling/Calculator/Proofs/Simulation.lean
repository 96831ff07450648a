import Calculator.Postfix
import Calculator.Stacks

namespace Calculator

/-- Applying operators is running the instructions that they are taken off as. -/
theorem outcome_reduceWhile (binds : Operator → Bool) (pending : List Pending)
    (operands : List Binary64) :
    (reduceWhile binds pending operands).outcome =
      runPostfix operands (takeOperators binds pending).1 >>= fun values =>
        .ok ⟨values, (takeOperators binds pending).2⟩ := by
  induction pending generalizing operands with
  | nil => rfl
  | cons p pending ih =>
    cases p with
    | openParen offset => rfl
    | operator op offset =>
      by_cases hb : binds op
      · rcases operands with _ | ⟨right, _ | ⟨left, operands⟩⟩
        · simp only [reduceWhile, takeOperators, hb, ↓reduceIte, Run.outcome_failed, runPostfix,
            error_bind]
        · simp only [reduceWhile, takeOperators, hb, ↓reduceIte, Run.outcome_failed, runPostfix,
            error_bind]
        · simp only [reduceWhile, takeOperators, hb, ↓reduceIte, runPostfix]
          cases op.apply left right offset with
          | error e => simp only [Run.outcome_failed, error_bind]
          | ok x =>
            rw [Run.outcome_after]
            exact ih (x :: operands)
      · simp only [reduceWhile, takeOperators, hb, Bool.false_eq_true, ↓reduceIte, Run.outcome_done,
          runPostfix, ok_bind]

namespace Stacks

theorem outcome_reduce (s : Stacks) :
    s.reduce.outcome =
      runPostfix s.operands (takeOperators (fun _ => true) s.pending).1 >>= fun values =>
        .ok ⟨values, (takeOperators (fun _ => true) s.pending).2⟩ :=
  outcome_reduceWhile _ _ _

theorem outcome_pushOperator (s : Stacks) (op : Operator) (offset : Nat) :
    (s.pushOperator op offset).outcome =
      runPostfix s.operands (takeOperators (op.precedence ≤ ·.precedence) s.pending).1 >>=
        fun values => .ok ⟨values,
          .operator op offset :: (takeOperators (op.precedence ≤ ·.precedence) s.pending).2⟩ := by
  rw [pushOperator, Run.outcome_andThen, outcome_reduceWhile, bind_assoc]
  rfl

theorem outcome_closeParen (s : Stacks) (offset : Nat) :
    (s.closeParen offset).outcome =
      runPostfix s.operands (takeOperators (fun _ => true) s.pending).1 >>= fun values =>
        match (takeOperators (fun _ => true) s.pending).2 with
        | .openParen _ :: pending => .ok ⟨values, pending⟩
        | _ => .error (.mismatchedParenthesis offset) := by
  rw [closeParen, Run.outcome_andThen, outcome_reduce, bind_assoc]
  obtain ⟨code, h | ⟨opening, below, h⟩⟩ := takeOperators_all s.pending <;>
    simp only [h] <;> rfl

inductive Pushes (s : Stacks) : Located Token → Stacks → Prop
  | number : Pushes s ⟨.number x, offset⟩ ⟨x :: s.operands, s.pending⟩
  | blank : Pushes s ⟨.blank, offset⟩ s
  | openParen : Pushes s ⟨.openParen, offset⟩ ⟨s.operands, .openParen offset :: s.pending⟩
  | operator (op : Operator) :
      takeOperators (op.precedence ≤ ·.precedence) s.pending = (code, below) →
      runPostfix s.operands code = .ok values →
      Pushes s ⟨.operator op, offset⟩ ⟨values, .operator op offset :: below⟩
  | closeParen : takeOperators (fun _ => true) s.pending = (code, .openParen opening :: below) →
      runPostfix s.operands code = .ok values →
      Pushes s ⟨.closeParen, offset⟩ ⟨values, below⟩

theorem pushes_of_outcome {s s' : Stacks} {t : Located Token} (h : (s.push t).outcome = .ok s') :
    s.Pushes t s' := by
  obtain ⟨token, offset⟩ := t
  cases token with
  | number x =>
    cases h
    exact .number
  | blank =>
    cases h
    exact .blank
  | openParen =>
    cases h
    exact .openParen
  | operator op =>
    rw [push, outcome_pushOperator, bind_eq_ok_iff] at h
    obtain ⟨values, hv, h⟩ := h
    cases h
    exact .operator op rfl hv
  | closeParen =>
    rw [push, outcome_closeParen, bind_eq_ok_iff] at h
    obtain ⟨values, hv, h⟩ := h
    obtain ⟨code, ht | ⟨opening, below, ht⟩⟩ := takeOperators_all s.pending
    · rw [ht] at h
      cases h
    · rw [ht] at h hv
      cases h
      exact .closeParen ht hv

theorem result_finish (s : Stacks) :
    s.finish.result =
      runPostfix s.operands (takeOperators (fun _ => true) s.pending).1 >>= fun values =>
        Stacks.value ⟨values, (takeOperators (fun _ => true) s.pending).2⟩ := by
  rw [finish, Run.result_andThen, outcome_reduce, bind_assoc]
  rfl

/-- The staged evaluation goes on from given stacks. -/
def staged (s : Stacks) (tokens : List (Located Token)) : Except EvalError Binary64 :=
  (translate s.pending tokens).value s.operands

theorem staged_nil (s : Stacks) : s.finish.result = s.staged [] := by
  rw [result_finish, staged, translate]
  obtain ⟨code, h | ⟨offset, below, h⟩⟩ := takeOperators_all s.pending
  · simp only [h, Translation.value]
    rcases runPostfix s.operands code with e | (_ | ⟨x, _ | ⟨y, values⟩⟩) <;> rfl
  · simp only [h, Translation.value]
    cases runPostfix s.operands code <;> rfl

theorem staged_cons (s : Stacks) (t : Located Token) (rest : List (Located Token)) :
    ((s.push t).outcome >>= fun s => s.staged rest) = s.staged (t :: rest) := by
  obtain ⟨token, offset⟩ := t
  cases token with
  | number x =>
    rw [staged, translate, Translation.value_emit]
    rfl
  | blank => rfl
  | openParen => rfl
  | operator op =>
    rw [push, outcome_pushOperator, bind_assoc, staged, translate, Translation.value_emit]
    rfl
  | closeParen =>
    rw [push, outcome_closeParen, bind_assoc, staged, translate]
    obtain ⟨code, h | ⟨opening, below, h⟩⟩ := takeOperators_all s.pending
    · simp only [h, Translation.value]
      cases runPostfix s.operands code <;> rfl
    · simp only [h, Translation.value_emit]
      rfl

theorem result_pushAll_finish (s : Stacks) (tokens : List (Located Token)) :
    ((s.pushAll tokens).andThen finish).result = s.staged tokens := by
  induction tokens generalizing s with
  | nil => exact s.staged_nil
  | cons t rest ih =>
    rw [pushAll, Run.andThen_assoc, Run.result_andThen]
    simp only [ih]
    exact s.staged_cons t rest

end Stacks

theorem result_evalTokens (tokens : List (Located Token)) :
    (evalTokens tokens).result = evalPostfix tokens :=
  Stacks.result_pushAll_finish {} tokens

/-- Evaluating tokens as they come has the outcome of translating them all, whatever their values,
and running the program afterwards. -/
theorem result_evalTokens_staged (tokens : List (Located Token)) :
    (evalTokens tokens).result = evalPostfix tokens ∧
      ∀ f, translate [] (tokens.map (.mapNumber f)) = (translate [] tokens).mapValues f :=
  ⟨result_evalTokens tokens, fun f => translate_mapNumber f [] tokens⟩

end Calculator
