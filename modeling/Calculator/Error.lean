import Calculator.Text.Quoted
import Calculator.Token.Basic

namespace Calculator

@[simp] theorem ok_bind (a : α) (f : α → Except ε β) : (Except.ok a >>= f) = f a := rfl

@[simp] theorem error_bind (e : ε) (f : α → Except ε β) : (Except.error e >>= f) = .error e := rfl

theorem bind_eq_ok_iff {x : Except ε α} {f : α → Except ε β} :
    (x >>= f) = .ok b ↔ ∃ a, x = .ok a ∧ f a = .ok b := by
  cases x <;> simp

theorem bind_eq_error_iff {x : Except ε α} {f : α → Except ε β} :
    (x >>= f) = .error e ↔ x = .error e ∨ ∃ a, x = .ok a ∧ f a = .error e := by
  cases x <;> simp

theorem mapError_eq_ok_iff {x : Except ε α} {f : ε → ε'} : x.mapError f = .ok a ↔ x = .ok a := by
  cases x with
  | error e =>
    constructor
    · intro h
      cases h
    · intro h
      cases h
  | ok b =>
    constructor
    · intro h
      cases h
      rfl
    · intro h
      cases h
      rfl

theorem mapError_eq_error_iff {x : Except ε α} {f : ε → ε'} :
    x.mapError f = .error e ↔ ∃ e', x = .error e' ∧ f e' = e := by
  cases x with
  | error e' =>
    constructor
    · intro h
      exact ⟨e', rfl, Except.error.inj h⟩
    · rintro ⟨e'', h, rfl⟩
      cases h
      rfl
  | ok a =>
    constructor
    · intro h
      cases h
    · rintro ⟨_, h, _⟩
      cases h

theorem mapM_eq_ok_iff {f : α → Except ε β} {xs : List α} {ys : List β} :
    xs.mapM f = .ok ys ↔ xs.map f = ys.map .ok := by
  induction xs generalizing ys with
  | nil =>
    cases ys with
    | nil => exact ⟨fun _ => rfl, fun _ => rfl⟩
    | cons y ys => exact ⟨nofun, nofun⟩
  | cons x xs ih =>
    simp only [List.mapM_cons, bind_eq_ok_iff, ih]
    cases ys with
    | nil =>
      constructor
      · rintro ⟨_, _, _, _, h⟩
        cases h
      · nofun
    | cons y ys =>
      rw [List.map_cons, List.map_cons, List.cons.injEq]
      constructor
      · rintro ⟨_, hx, _, hxs, h⟩
        cases h
        exact ⟨hx, hxs⟩
      · rintro ⟨hx, hxs⟩
        exact ⟨y, hx, ys, hxs, rfl⟩

theorem mapM_eq_error {f : α → Except ε β} {front : List α} (hf : ∀ x ∈ front, ∃ y, f x = .ok y)
    (hx : f x = .error e) (back : List α) : (front ++ x :: back).mapM f = .error e := by
  induction front with
  | nil => rw [List.nil_append, List.mapM_cons, hx, error_bind]
  | cons y front ih =>
    obtain ⟨⟨z, hz⟩, hfront⟩ := List.forall_mem_cons.1 hf
    rw [List.cons_append, List.mapM_cons, hz, ok_bind, ih hfront, error_bind]

theorem exists_of_mem_mapM {f : α → Except ε β} {xs : List α} (h : xs.mapM f = .ok ys)
    (hy : y ∈ ys) : ∃ x ∈ xs, f x = .ok y := by
  have hm : (.ok y : Except ε β) ∈ ys.map .ok := List.mem_map_of_mem hy
  rw [← mapM_eq_ok_iff.1 h] at hm
  exact List.mem_map.1 hm

/-- Why a text is not a row of tokens. Offsets count the bytes of the text in UTF-8. -/
inductive ReadError where
  | invalidCharacter (character : Char) (offset : Nat)
  | malformedNumber (literal : String) (offset : Nat)
  deriving DecidableEq

/-- Why a row of tokens has no value. -/
inductive EvalError where
  | mismatchedParenthesis (offset : Nat)
  | missingOperand (operator : Operator) (offset : Nat)
  | emptyExpression
  | divisionByZero (offset : Nat)
  | unjoinedValues (count : Nat)
  deriving DecidableEq

inductive Error where
  | read (error : ReadError)
  | eval (error : EvalError)
  deriving DecidableEq

/-- An empty expression counts among those with a missing operand. -/
inductive ErrorKind where
  | invalidCharacter
  | malformedNumber
  | mismatchedParenthesis
  | missingOperand
  | divisionByZero
  | unjoinedValues
  deriving DecidableEq

def Error.kind : Error → ErrorKind
  | .read (.invalidCharacter _ _) => .invalidCharacter
  | .read (.malformedNumber _ _) => .malformedNumber
  | .eval (.mismatchedParenthesis _) => .mismatchedParenthesis
  | .eval (.missingOperand _ _) => .missingOperand
  | .eval .emptyExpression => .missingOperand
  | .eval (.divisionByZero _) => .divisionByZero
  | .eval (.unjoinedValues _) => .unjoinedValues

def ReadError.message : ReadError → String
  | .invalidCharacter c o =>
    "Invalid character '" ++ c.toString ++ "' at offset " ++ toString o ++ "."
  | .malformedNumber l o => "Malformed number '" ++ l ++ "' at offset " ++ toString o ++ "."

def EvalError.message : EvalError → String
  | .mismatchedParenthesis o => "Mismatched parenthesis at offset " ++ toString o ++ "."
  | .missingOperand op o =>
    "Operator '" ++ op.symbol.toString ++ "' at offset " ++ toString o ++ " is missing an operand."
  | .emptyExpression => "Expression is empty."
  | .divisionByZero o => "Division by zero at offset " ++ toString o ++ "."
  | .unjoinedValues n =>
    "Malformed expression: " ++ toString n ++ " values are not joined by an operator."

def Error.message : Error → String
  | .read e => e.message
  | .eval e => e.message

def fielded (name : String) (fields : List (String × String)) : String :=
  let shown := fields.map fun (field, text) => field ++ ": " ++ text
  name ++ " \x7b " ++ ", ".intercalate shown ++ " \x7d"

def Operator.name : Operator → String
  | .add => "Add"
  | .sub => "Sub"
  | .mul => "Mul"
  | .div => "Div"

def ReadError.detail : ReadError → String
  | .invalidCharacter c o =>
    fielded "InvalidCharacter" [("character", Text.quotedChar c), ("offset", toString o)]
  | .malformedNumber l o =>
    fielded "MalformedNumber" [("literal", Text.quotedString l), ("offset", toString o)]

def EvalError.detail : EvalError → String
  | .mismatchedParenthesis o => fielded "MismatchedParentheses" [("offset", toString o)]
  | .missingOperand op o =>
    fielded "InsufficientOperands" [("operator", op.name), ("offset", toString o)]
  | .emptyExpression => "EmptyExpression"
  | .divisionByZero o => fielded "DivisionByZero" [("offset", toString o)]
  | .unjoinedValues n => fielded "TrailingGarbage" [("remaining", toString n)]

/-- The error with its stage and all its fields, for the log. -/
def Error.detail : Error → String
  | .read e => "Parse(" ++ e.detail ++ ")"
  | .eval e => "Runtime(" ++ e.detail ++ ")"

namespace Error

def mapOffset (f : Nat → Nat) : Error → Error
  | .read (.invalidCharacter c o) => .read (.invalidCharacter c (f o))
  | .read (.malformedNumber l o) => .read (.malformedNumber l (f o))
  | .eval (.mismatchedParenthesis o) => .eval (.mismatchedParenthesis (f o))
  | .eval (.missingOperand op o) => .eval (.missingOperand op (f o))
  | .eval .emptyExpression => .eval .emptyExpression
  | .eval (.divisionByZero o) => .eval (.divisionByZero (f o))
  | .eval (.unjoinedValues n) => .eval (.unjoinedValues n)

/-- The place of the text that the error points at. -/
def offset? : Error → Option Nat
  | .read (.invalidCharacter _ o) => some o
  | .read (.malformedNumber _ o) => some o
  | .eval (.mismatchedParenthesis o) => some o
  | .eval (.missingOperand _ o) => some o
  | .eval .emptyExpression => none
  | .eval (.divisionByZero o) => some o
  | .eval (.unjoinedValues _) => none

end Error

end Calculator
