namespace Calculator

/-- The nearest integer; of two equally near ones the even one. -/
def roundHalfEven (q : Rat) : Int :=
  let below := q.floor
  let rest := q - below
  if rest < 1 / 2 then below
  else if 1 / 2 < rest then below + 1
  else if below % 2 = 0 then below
  else below + 1

/-- The nearest integer; of two equally near ones the greater. -/
def roundHalfUp (q : Rat) : Int :=
  (q + 1 / 2).floor

/-- For a positive `q`, the `e` with `2 ^ e ≤ q < 2 ^ (e + 1)`. -/
def binaryOrder (q : Rat) : Int :=
  let e : Int := q.num.natAbs.log2 - q.den.log2
  if 2 ^ e ≤ q then e else e - 1

/-- For a positive `q`, the `e` with `10 ^ e ≤ q < 10 ^ (e + 1)`. -/
def decimalOrder (q : Rat) : Int :=
  let e : Int := (Nat.toDigits 10 q.num.natAbs).length - (Nat.toDigits 10 q.den).length
  if 10 ^ e ≤ q then e else e - 1

/-- A significand has 53 bits, the leading one set unless the exponent is the least. -/
def Canonical (significand : Nat) (exponent : Int) : Prop :=
  significand < 0x20000000000000 ∧ -1074 ≤ exponent ∧ exponent ≤ 971 ∧
    (0x10000000000000 ≤ significand ∨ exponent = -1074)

instance : Decidable (Canonical significand exponent) :=
  inferInstanceAs (Decidable (_ ∧ _ ∧ _ ∧ _))

/-- The finite magnitude `significand * 2 ^ exponent`. -/
structure Magnitude where
  significand : Nat
  exponent : Int
  canonical : Canonical significand exponent
  deriving DecidableEq

def Magnitude.zero : Magnitude := ⟨0, -1074, by decide⟩

def Magnitude.toRat (m : Magnitude) : Rat :=
  m.significand * 2 ^ m.exponent

/-- The binary64 data of IEEE 754, with a single NaN. -/
inductive Binary64 where
  | nan
  | infinity (negative : Bool)
  | finite (negative : Bool) (magnitude : Magnitude)
  deriving DecidableEq

namespace Binary64

def zero (negative : Bool) : Binary64 := .finite negative .zero

/-- Both zeros are zero; a NaN is not. -/
def isZero : Binary64 → Bool
  | .finite _ m => m.significand = 0
  | _ => false

def isNaN : Binary64 → Bool
  | .nan => true
  | _ => false

def isInfinite : Binary64 → Bool
  | .infinity _ => true
  | _ => false

/-- The rational with this sign and magnitude; a zero loses its sign. -/
def signed (negative : Bool) (m : Magnitude) : Rat :=
  if negative then -m.toRat else m.toRat

end Binary64

/-- The exponent of the last place of the magnitudes next to `q`. -/
def unitExponent (q : Rat) : Int :=
  if q = 0 then -1074 else max (-1074) (binaryOrder q - 52)

/-- The magnitude nearest a nonnegative `q`, a tie going to the even significand, and none from
the overflow threshold on. A significand rounded up to `2 ^ 53` moves to the next exponent. -/
def Magnitude.nearest? (q : Rat) : Option Magnitude :=
  let exponent := unitExponent q
  let significand := (roundHalfEven (q / 2 ^ exponent)).toNat
  if h : Canonical significand exponent then some ⟨significand, exponent, h⟩
  else if h : Canonical (significand / 2) (exponent + 1) then
    some ⟨significand / 2, exponent + 1, h⟩
  else none

/-- Rounds an exact result once; `zeroSign` is the sign that an exact zero gets. -/
def Binary64.nearest (q : Rat) (zeroSign : Bool) : Binary64 :=
  let negative := if q = 0 then zeroSign else q < 0
  match Magnitude.nearest? q.abs with
  | some m => .finite negative m
  | none => .infinity negative

theorem Binary64.nearest_ne_nan (q : Rat) (zeroSign : Bool) : nearest q zeroSign ≠ .nan := by
  rw [nearest]
  cases Magnitude.nearest? q.abs with
  | some m => nofun
  | none => nofun

namespace Binary64

def neg : Binary64 → Binary64
  | .nan => .nan
  | .infinity s => .infinity !s
  | .finite s m => .finite (!s) m

/-- A sum that is exactly zero is negative only if both terms are. -/
def add : Binary64 → Binary64 → Binary64
  | .nan, _ => .nan
  | _, .nan => .nan
  | .infinity s, .infinity t => if s = t then .infinity s else .nan
  | .infinity s, .finite _ _ => .infinity s
  | .finite _ _, .infinity t => .infinity t
  | .finite s x, .finite t y => nearest (signed s x + signed t y) (s && t)

def sub (x y : Binary64) : Binary64 := add x y.neg

def mul : Binary64 → Binary64 → Binary64
  | .nan, _ => .nan
  | _, .nan => .nan
  | .infinity s, .infinity t => .infinity (s ^^ t)
  | .infinity s, .finite t y => if y.significand = 0 then .nan else .infinity (s ^^ t)
  | .finite s x, .infinity t => if x.significand = 0 then .nan else .infinity (s ^^ t)
  | .finite s x, .finite t y => nearest (signed s x * signed t y) (s ^^ t)

def div : Binary64 → Binary64 → Binary64
  | .nan, _ => .nan
  | _, .nan => .nan
  | .infinity _, .infinity _ => .nan
  | .infinity s, .finite t _ => .infinity (s ^^ t)
  | .finite s _, .infinity t => zero (s ^^ t)
  | .finite s x, .finite t y =>
    if y.significand = 0 then
      if x.significand = 0 then .nan else .infinity (s ^^ t)
    else nearest (signed s x / signed t y) (s ^^ t)

end Binary64

end Calculator
