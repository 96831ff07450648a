import Calculator.Stacks

namespace Calculator

/-- An instruction of a postfix program on one stack of values. -/
inductive Instruction where
  | push (value : Binary64)
  | apply (op : Operator) (offset : Nat)
  deriving DecidableEq

def Instruction.isPush : Instruction → Bool
  | .push _ => true
  | .apply _ _ => false

def Instruction.isApply : Instruction → Bool
  | .push _ => false
  | .apply _ _ => true

/-- A postfix program, and the parenthesis without a partner that cut it short, if any. -/
structure Translation where
  code : List Instruction
  mismatch : Option Nat
  deriving DecidableEq

namespace Translation

def emit (code : List Instruction) (t : Translation) : Translation :=
  { t with code := code ++ t.code }

end Translation

/-- Takes operators off the top while they bind, down to a parenthesis at most. -/
def takeOperators (binds : Operator → Bool) : List Pending → List Instruction × List Pending
  | .operator op offset :: pending =>
    if binds op then
      let (code, rest) := takeOperators binds pending
      (.apply op offset :: code, rest)
    else ([], .operator op offset :: pending)
  | pending => ([], pending)

/-- Translates tokens without a look at their values. -/
def translate (pending : List Pending) : List (Located Token) → Translation
  | [] =>
    match takeOperators (fun _ => true) pending with
    | (code, .openParen offset :: _) => ⟨code, some offset⟩
    | (code, _) => ⟨code, none⟩
  | ⟨.number x, _⟩ :: rest => (translate pending rest).emit [.push x]
  | ⟨.blank, _⟩ :: rest => translate pending rest
  | ⟨.openParen, offset⟩ :: rest => translate (.openParen offset :: pending) rest
  | ⟨.operator op, offset⟩ :: rest =>
    let (code, below) := takeOperators (op.precedence ≤ ·.precedence) pending
    (translate (.operator op offset :: below) rest).emit code
  | ⟨.closeParen, offset⟩ :: rest =>
    match takeOperators (fun _ => true) pending with
    | (code, .openParen _ :: below) => (translate below rest).emit code
    | (code, _) => ⟨code, some offset⟩

/-- Runs a postfix program, the top of the stack first. -/
def runPostfix (values : List Binary64) : List Instruction → Except EvalError (List Binary64)
  | [] => .ok values
  | .push x :: code => runPostfix (x :: values) code
  | .apply op offset :: code =>
    match values with
    | right :: left :: values =>
      match op.apply left right offset with
      | .ok x => runPostfix (x :: values) code
      | .error e => .error e
    | _ => .error (.missingOperand op offset)

/-- The first failure of the program, else the parenthesis without a partner, else what the
program leaves on the stack. -/
def Translation.value (t : Translation) (values : List Binary64) : Except EvalError Binary64 :=
  match runPostfix values t.code, t.mismatch with
  | .error e, _ => .error e
  | .ok _, some offset => .error (.mismatchedParenthesis offset)
  | .ok [x], none => .ok x
  | .ok [], none => .error .emptyExpression
  | .ok values, none => .error (.unjoinedValues values.length)

/-- The value of tokens by way of their postfix program. -/
def evalPostfix (tokens : List (Located Token)) : Except EvalError Binary64 :=
  (translate [] tokens).value []

theorem takeOperators_all (pending : List Pending) :
    ∃ code, takeOperators (fun _ => true) pending = (code, []) ∨
      ∃ offset below,
        takeOperators (fun _ => true) pending = (code, .openParen offset :: below) := by
  induction pending with
  | nil => exact ⟨[], .inl rfl⟩
  | cons p pending ih =>
    cases p with
    | openParen offset => exact ⟨[], .inr ⟨offset, pending, rfl⟩⟩
    | operator op offset =>
      obtain ⟨code, h | ⟨opening, below, h⟩⟩ := ih
      · exact ⟨.apply op offset :: code, .inl (by simp only [takeOperators, h, ↓reduceIte])⟩
      · exact ⟨.apply op offset :: code, .inr ⟨opening, below, by
          simp only [takeOperators, h, ↓reduceIte]⟩⟩

theorem runPostfix_append (values : List Binary64) (code code' : List Instruction) :
    runPostfix values (code ++ code') = runPostfix values code >>= (runPostfix · code') := by
  induction code generalizing values with
  | nil => rfl
  | cons i code ih =>
    cases i with
    | push x => exact ih _
    | apply op offset =>
      rcases values with _ | ⟨right, _ | ⟨left, values⟩⟩
      · rfl
      · rfl
      · simp only [List.cons_append, runPostfix]
        cases op.apply left right offset with
        | error e => rfl
        | ok x => exact ih _

def Located.mapNumber (f : Binary64 → Binary64) : Located Token → Located Token
  | ⟨.number x, offset⟩ => ⟨.number (f x), offset⟩
  | t => t

def Instruction.mapValue (f : Binary64 → Binary64) : Instruction → Instruction
  | .push x => .push (f x)
  | .apply op offset => .apply op offset

namespace Translation

def mapValues (f : Binary64 → Binary64) (t : Translation) : Translation :=
  { t with code := t.code.map (.mapValue f) }

theorem mapValues_emit (f : Binary64 → Binary64) (t : Translation) (code : List Instruction) :
    (t.emit code).mapValues f = (t.mapValues f).emit (code.map (.mapValue f)) := by
  simp only [mapValues, emit, List.map_append]

theorem value_emit (t : Translation) (code : List Instruction) (values : List Binary64) :
    (t.emit code).value values = runPostfix values code >>= t.value := by
  simp only [value, emit, runPostfix_append]
  cases runPostfix values code <;> rfl

@[simp] theorem emit_emit (t : Translation) (code code' : List Instruction) :
    (t.emit code').emit code = t.emit (code ++ code') := by
  simp only [emit, List.append_assoc]

end Translation

theorem takeOperators_mapValue (f : Binary64 → Binary64) (binds : Operator → Bool)
    (pending : List Pending) :
    (takeOperators binds pending).1.map (.mapValue f) = (takeOperators binds pending).1 := by
  induction pending with
  | nil => rfl
  | cons p pending ih =>
    cases p with
    | openParen offset => rfl
    | operator op offset =>
      cases hb : binds op with
      | false => simp only [takeOperators, hb, Bool.false_eq_true, ↓reduceIte, List.map_nil]
      | true => simp only [takeOperators, hb, ↓reduceIte, List.map_cons, ih, Instruction.mapValue]

theorem translate_mapNumber (f : Binary64 → Binary64) (pending : List Pending)
    (tokens : List (Located Token)) :
    translate pending (tokens.map (.mapNumber f)) = (translate pending tokens).mapValues f := by
  induction tokens generalizing pending with
  | nil =>
    have hc := takeOperators_mapValue f (fun _ => true) pending
    simp only [List.map_nil, translate]
    obtain ⟨code, h | ⟨opening, below, h⟩⟩ := takeOperators_all pending <;>
      simp only [h] at hc ⊢ <;> simp only [Translation.mapValues, hc]
  | cons t rest ih =>
    obtain ⟨token, offset⟩ := t
    cases token with
    | number x =>
      simp only [List.map_cons, Located.mapNumber, translate, ih, Translation.mapValues_emit]
      rfl
    | blank => exact ih pending
    | openParen => exact ih _
    | operator op =>
      have hc := takeOperators_mapValue f (op.precedence ≤ ·.precedence) pending
      simp only [List.map_cons, Located.mapNumber, translate, ih, Translation.mapValues_emit, hc]
    | closeParen =>
      have hc := takeOperators_mapValue f (fun _ => true) pending
      simp only [List.map_cons, Located.mapNumber, translate]
      obtain ⟨code, h | ⟨opening, below, h⟩⟩ := takeOperators_all pending
      · simp only [h] at hc ⊢
        simp only [Translation.mapValues, hc]
      · simp only [h] at hc ⊢
        rw [ih, Translation.mapValues_emit, hc]

end Calculator
