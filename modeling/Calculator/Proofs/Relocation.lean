import Calculator.Error
import Calculator.Evaluation
import Calculator.Proofs.Simulation

namespace Calculator

def Located.mapOffset (f : Nat → Nat) (t : Located α) : Located α :=
  { t with offset := f t.offset }

def Pending.mapOffset (f : Nat → Nat) : Pending → Pending
  | .operator op offset => .operator op (f offset)
  | .openParen offset => .openParen (f offset)

def Instruction.mapOffset (f : Nat → Nat) : Instruction → Instruction
  | .push x => .push x
  | .apply op offset => .apply op (f offset)

def Translation.mapOffset (f : Nat → Nat) (t : Translation) : Translation :=
  ⟨t.code.map (.mapOffset f), t.mismatch.map f⟩

def EvalError.mapOffset (f : Nat → Nat) : EvalError → EvalError
  | .mismatchedParenthesis offset => .mismatchedParenthesis (f offset)
  | .missingOperand op offset => .missingOperand op (f offset)
  | .emptyExpression => .emptyExpression
  | .divisionByZero offset => .divisionByZero (f offset)
  | .unjoinedValues count => .unjoinedValues count

def ReadError.mapOffset (f : Nat → Nat) : ReadError → ReadError
  | .invalidCharacter c offset => .invalidCharacter c (f offset)
  | .malformedNumber literal offset => .malformedNumber literal (f offset)

theorem Error.mapOffset_eval (f : Nat → Nat) (e : EvalError) :
    (Error.eval e).mapOffset f = .eval (e.mapOffset f) := by
  cases e <;> rfl

theorem Error.mapOffset_read (f : Nat → Nat) (e : ReadError) :
    (Error.read e).mapOffset f = .read (e.mapOffset f) := by
  cases e <;> rfl

section

variable (f : Nat → Nat)

theorem takeOperators_mapOffset (binds : Operator → Bool) (pending : List Pending) :
    takeOperators binds (pending.map (.mapOffset f)) =
      ((takeOperators binds pending).1.map (.mapOffset f),
        (takeOperators binds pending).2.map (.mapOffset f)) := by
  induction pending with
  | nil => rfl
  | cons p pending ih =>
    cases p with
    | openParen offset => rfl
    | operator op offset =>
      cases hb : binds op with
      | false => simp only [List.map_cons, Pending.mapOffset, takeOperators, hb, Bool.false_eq_true,
          ↓reduceIte, List.map_nil]
      | true => simp only [List.map_cons, Pending.mapOffset, takeOperators, hb, ↓reduceIte, ih,
          Instruction.mapOffset]

theorem Translation.mapOffset_emit (t : Translation) (code : List Instruction) :
    (t.emit code).mapOffset f = (t.mapOffset f).emit (code.map (.mapOffset f)) := by
  simp only [mapOffset, emit, List.map_append]

theorem translate_mapOffset (pending : List Pending) (tokens : List (Located Token)) :
    translate (pending.map (.mapOffset f)) (tokens.map (.mapOffset f)) =
      (translate pending tokens).mapOffset f := by
  induction tokens generalizing pending with
  | nil =>
    have ht := takeOperators_mapOffset f (fun _ => true) pending
    simp only [List.map_nil, translate]
    obtain ⟨code, h | ⟨opening, below, h⟩⟩ := takeOperators_all pending <;>
      simp only [h] at ht ⊢ <;> simp only [ht] <;> rfl
  | cons t rest ih =>
    obtain ⟨token, offset⟩ := t
    cases token with
    | number x =>
      simp only [List.map_cons, Located.mapOffset, translate, Translation.mapOffset_emit]
      exact congrArg _ (ih pending)
    | blank => exact ih pending
    | openParen => exact ih (.openParen offset :: pending)
    | operator op =>
      have ht := takeOperators_mapOffset f (op.precedence ≤ ·.precedence) pending
      simp only [List.map_cons, Located.mapOffset, translate, Translation.mapOffset_emit, ht]
      exact congrArg _ (ih (.operator op offset :: _))
    | closeParen =>
      have ht := takeOperators_mapOffset f (fun _ => true) pending
      simp only [List.map_cons, Located.mapOffset, translate]
      obtain ⟨code, h | ⟨opening, below, h⟩⟩ := takeOperators_all pending
      · simp only [h] at ht ⊢
        simp only [ht]
        rfl
      · simp only [h] at ht ⊢
        simp only [ht, List.map_cons, Pending.mapOffset, Translation.mapOffset_emit, ih]

theorem runPostfix_mapOffset (values : List Binary64) (code : List Instruction) :
    runPostfix values (code.map (.mapOffset f)) =
      (runPostfix values code).mapError (.mapOffset f) := by
  induction code generalizing values with
  | nil => rfl
  | cons i code ih =>
    cases i with
    | push x => exact ih _
    | apply op offset =>
      rcases values with _ | ⟨right, _ | ⟨left, values⟩⟩
      · rfl
      · rfl
      · simp only [List.map_cons, Instruction.mapOffset, runPostfix, Operator.apply]
        cases op.value? left right with
        | some x => exact ih _
        | none => rfl

theorem Translation.value_mapOffset (t : Translation) (values : List Binary64) :
    (t.mapOffset f).value values = (t.value values).mapError (.mapOffset f) := by
  obtain ⟨code, mismatch⟩ := t
  simp only [value, mapOffset, runPostfix_mapOffset]
  rcases runPostfix values code with e | (_ | ⟨x, _ | ⟨y, values⟩⟩) <;> cases mismatch <;> rfl

theorem result_evalTokens_mapOffset (tokens : List (Located Token)) :
    (evalTokens (tokens.map (.mapOffset f))).result =
      (evalTokens tokens).result.mapError (.mapOffset f) := by
  rw [result_evalTokens, result_evalTokens, evalPostfix, evalPostfix, ← Translation.value_mapOffset,
    ← translate_mapOffset, List.map_nil]

end

def relocated (f : Nat → Nat) (read : Except ReadError (List (Located Token))) :
    Except ReadError (List (Located Token)) :=
  (read.map (·.map (.mapOffset f))).mapError (.mapOffset f)

/-- Texts that read as the same tokens, or fail alike, evaluate alike. -/
theorem evaluate_of_relocated {text text' : String} {f : Nat → Nat}
    (h : readTokens text' = relocated f (readTokens text)) :
    evaluate text' = (evaluate text).mapError (.mapOffset f) := by
  rw [evaluate, evaluate, h]
  cases readTokens text with
  | error e => exact congrArg Except.error (Error.mapOffset_read f e).symm
  | ok tokens =>
    change (evalTokens (tokens.map (.mapOffset f))).result.mapError Error.eval =
      ((evalTokens tokens).result.mapError Error.eval).mapError (.mapOffset f)
    rw [result_evalTokens_mapOffset]
    cases (evalTokens tokens).result with
    | error e => exact congrArg Except.error (Error.mapOffset_eval f e).symm
    | ok x => rfl

end Calculator
