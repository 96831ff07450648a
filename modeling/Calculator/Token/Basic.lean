import Calculator.Binary64.Basic

namespace Calculator

inductive Operator where
  | add
  | sub
  | mul
  | div
  deriving DecidableEq

namespace Operator

/-- A higher precedence binds tighter. -/
def precedence : Operator → Nat
  | .add | .sub => 1
  | .mul | .div => 2

theorem precedence_cases (op : Operator) : op.precedence = 1 ∨ op.precedence = 2 := by
  cases op <;> decide

theorem precedence_eq_one_iff {op : Operator} : op.precedence = 1 ↔ op = .add ∨ op = .sub := by
  cases op <;> decide

theorem precedence_eq_two_iff {op : Operator} : op.precedence = 2 ↔ op = .mul ∨ op = .div := by
  cases op <;> decide

def symbol : Operator → Char
  | .add => '+'
  | .sub => '-'
  | .mul => '*'
  | .div => '/'

def ofSymbol? : Char → Option Operator
  | '+' => some .add
  | '-' => some .sub
  | '*' => some .mul
  | '/' => some .div
  | _ => none

/-- The value of the operation, none for a division by either zero. -/
def value? (op : Operator) (left right : Binary64) : Option Binary64 :=
  match op with
  | .add => some (left.add right)
  | .sub => some (left.sub right)
  | .mul => some (left.mul right)
  | .div => if right.isZero then none else some (left.div right)

theorem value?_eq_none_iff {op : Operator} :
    op.value? left right = none ↔ op = .div ∧ right.isZero := by
  cases op <;> simp [value?]

@[simp] theorem ofSymbol?_symbol (op : Operator) : ofSymbol? op.symbol = some op := by
  cases op <;> rfl

theorem symbol_of_ofSymbol? {op : Operator} (h : ofSymbol? c = some op) : op.symbol = c := by
  unfold ofSymbol? at h
  split at h <;> cases h <;> rfl

theorem ofSymbol?_isSome (c : Char) : (ofSymbol? c).isSome = ['+', '-', '*', '/'].contains c := by
  unfold ofSymbol?
  split <;> simp_all

theorem symbol_injective {op op' : Operator} (h : op.symbol = op'.symbol) : op = op' :=
  Option.some.inj (by rw [← ofSymbol?_symbol, h, ofSymbol?_symbol])

end Operator

inductive Token where
  | number (value : Binary64)
  | operator (op : Operator)
  | openParen
  | closeParen
  /-- A gap, which has no effect on the value. -/
  | blank
  deriving DecidableEq

/-- The character that a token is written with, if it is always the same one. -/
def Token.symbol? : Token → Option Char
  | .operator op => some op.symbol
  | .openParen => some '('
  | .closeParen => some ')'
  | .number _ | .blank => none

/-- Something found at a byte offset of the text. -/
structure Located (α : Type) where
  value : α
  offset : Nat
  deriving DecidableEq

def Located.isNumber : Located Token → Bool
  | ⟨.number _, _⟩ => true
  | _ => false

def Located.isOperator : Located Token → Bool
  | ⟨.operator _, _⟩ => true
  | _ => false

end Calculator
