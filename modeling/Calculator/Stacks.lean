import Calculator.Error
import Calculator.Token.Basic

namespace Calculator

/-- What waits for the operands or the parenthesis to its right. -/
inductive Pending where
  | operator (op : Operator) (offset : Nat)
  | openParen (offset : Nat)
  deriving DecidableEq

def Pending.isOperator : Pending → Bool
  | .operator _ _ => true
  | .openParen _ => false

def Pending.isParen : Pending → Bool
  | .operator _ _ => false
  | .openParen _ => true

/-- The two stacks of an evaluation, each with its top first. -/
structure Stacks where
  operands : List Binary64 := []
  pending : List Pending := []
  deriving DecidableEq

/-- The value of an operation, or the error of a division by zero found at `offset`. -/
def Operator.apply (op : Operator) (left right : Binary64) (offset : Nat) :
    Except EvalError Binary64 :=
  match op.value? left right with
  | some value => .ok value
  | none => .error (.divisionByZero offset)

theorem Operator.apply_eq_error_iff {op : Operator} {left right : Binary64} :
    op.apply left right offset = .error e ↔
      op = .div ∧ right.isZero ∧ e = .divisionByZero offset := by
  cases op with
  | add => simp [apply, value?]
  | sub => simp [apply, value?]
  | mul => simp [apply, value?]
  | div => cases hz : right.isZero <;> simp [apply, value?, hz, eq_comm]

/-- An operation carried out. -/
structure Application where
  operator : Operator
  left : Binary64
  right : Binary64
  value : Binary64
  deriving DecidableEq

/-- A stretch of an evaluation: the operations carried out in order, the stacks it left behind,
and its result. -/
structure Run (α : Type) where
  applied : List Application
  state : Stacks
  result : Except EvalError α

namespace Run

def done (s : Stacks) : Run Unit := ⟨[], s, .ok ()⟩

def failed (s : Stacks) (e : EvalError) : Run Unit := ⟨[], s, .error e⟩

def after (application : Application) (r : Run α) : Run α :=
  { r with applied := application :: r.applied }

def andThen (r : Run Unit) (next : Stacks → Run α) : Run α :=
  match r.result with
  | .error e => ⟨r.applied, r.state, .error e⟩
  | .ok () =>
    let rest := next r.state
    { rest with applied := r.applied ++ rest.applied }

def outcome (r : Run Unit) : Except EvalError Stacks :=
  match r.result with
  | .ok () => .ok r.state
  | .error e => .error e

@[simp] theorem done_andThen (s : Stacks) (next : Stacks → Run α) :
    (done s).andThen next = next s := rfl

@[simp] theorem failed_andThen (s : Stacks) (e : EvalError) (next : Stacks → Run α) :
    (failed s e).andThen next = ⟨[], s, .error e⟩ := rfl

theorem andThen_assoc (r : Run Unit) (f : Stacks → Run Unit) (g : Stacks → Run α) :
    (r.andThen f).andThen g = r.andThen fun s => (f s).andThen g := by
  obtain ⟨applied, s, result⟩ := r
  cases result with
  | error e => rfl
  | ok u => cases h : (f s).result <;> simp [andThen, h]

@[simp] theorem outcome_done (s : Stacks) : (done s).outcome = .ok s := rfl

@[simp] theorem outcome_failed (s : Stacks) (e : EvalError) :
    (failed s e).outcome = .error e := rfl

@[simp] theorem outcome_after (application : Application) (r : Run Unit) :
    (r.after application).outcome = r.outcome := rfl

theorem outcome_andThen (r : Run Unit) (next : Stacks → Run Unit) :
    (r.andThen next).outcome = r.outcome >>= fun s => (next s).outcome := by
  obtain ⟨applied, s, result⟩ := r
  cases result with
  | error e => rfl
  | ok u => rfl

theorem result_andThen (r : Run Unit) (next : Stacks → Run α) :
    (r.andThen next).result = r.outcome >>= fun s => (next s).result := by
  obtain ⟨applied, s, result⟩ := r
  cases result with
  | error e => rfl
  | ok u => rfl

theorem outcome_eq_ok {r : Run Unit} :
    r.outcome = .ok s ↔ r.result = .ok () ∧ r.state = s := by
  obtain ⟨applied, state, result⟩ := r
  cases result <;> simp [outcome]

end Run

/-- Applies pending operators from the top down, up to the first that does not bind or the nearest
parenthesis. An operator that fails is off its stack, and so are the operands it found. -/
def reduceWhile (binds : Operator → Bool) : List Pending → List Binary64 → Run Unit
  | .operator op offset :: pending, operands =>
    if binds op then
      match operands with
      | right :: left :: operands =>
        match op.apply left right offset with
        | .ok value =>
          (reduceWhile binds pending (value :: operands)).after ⟨op, left, right, value⟩
        | .error e => .failed ⟨operands, pending⟩ e
      | _ => .failed ⟨[], pending⟩ (.missingOperand op offset)
    else .done ⟨operands, .operator op offset :: pending⟩
  | pending, operands => .done ⟨operands, pending⟩

namespace Stacks

def reduce (s : Stacks) : Run Unit :=
  reduceWhile (fun _ => true) s.pending s.operands

/-- Applies the pending operators that bind at least as tightly as `op`, then lets `op` wait. -/
def pushOperator (op : Operator) (offset : Nat) (s : Stacks) : Run Unit :=
  (reduceWhile (op.precedence ≤ ·.precedence) s.pending s.operands).andThen fun s =>
    .done { s with pending := .operator op offset :: s.pending }

/-- Reduces the group that a closing parenthesis ends and drops its opening one. -/
def closeParen (offset : Nat) (s : Stacks) : Run Unit :=
  s.reduce.andThen fun s =>
    match s.pending with
    | .openParen _ :: pending => .done { s with pending }
    | _ => .failed s (.mismatchedParenthesis offset)

def push (s : Stacks) : Located Token → Run Unit
  | ⟨.number x, _⟩ => .done { s with operands := x :: s.operands }
  | ⟨.operator op, offset⟩ => s.pushOperator op offset
  | ⟨.openParen, offset⟩ => .done { s with pending := .openParen offset :: s.pending }
  | ⟨.closeParen, offset⟩ => s.closeParen offset
  | ⟨.blank, _⟩ => .done s

def pushAll (s : Stacks) : List (Located Token) → Run Unit
  | [] => .done s
  | t :: ts => (s.push t).andThen (pushAll · ts)

@[simp] theorem outcome_pushAll_nil (s : Stacks) : (s.pushAll []).outcome = .ok s := rfl

theorem outcome_pushAll_cons (s : Stacks) (t : Located Token) (ts : List (Located Token)) :
    (s.pushAll (t :: ts)).outcome = (s.push t).outcome >>= fun s => (s.pushAll ts).outcome :=
  Run.outcome_andThen _ _

/-- The stacks after pushes that go on past any failure. -/
def pushEach (s : Stacks) (tokens : List (Located Token)) : Stacks :=
  tokens.foldl (fun s t => (s.push t).state) s

def value (s : Stacks) : Except EvalError Binary64 :=
  match s.pending, s.operands with
  | .openParen offset :: _, _ => .error (.mismatchedParenthesis offset)
  | _, [x] => .ok x
  | _, [] => .error .emptyExpression
  | _, operands => .error (.unjoinedValues operands.length)

def finish (s : Stacks) : Run Binary64 :=
  s.reduce.andThen fun s => ⟨[], s, s.value⟩

end Stacks

/-- Evaluates a row of tokens. -/
def evalTokens (tokens : List (Located Token)) : Run Binary64 :=
  (Stacks.pushAll {} tokens).andThen Stacks.finish

end Calculator
