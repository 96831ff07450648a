import Calculator.Binary64.Basic

namespace Calculator

namespace Numeral

def isNumeric (c : Char) : Bool :=
  c.isDigit || c == '.'

/-- At least one digit and at most one point. -/
def isWellFormed (text : List Char) : Bool :=
  text.any Char.isDigit && text.count '.' ≤ 1

theorem isWellFormed_iff :
    isWellFormed text ↔ (∃ c ∈ text, c.isDigit) ∧ text.count '.' ≤ 1 := by
  rw [isWellFormed, Bool.and_eq_true, List.any_eq_true, decide_eq_true_iff]

/-- The rational that a numeral denotes. -/
def toRat (text : List Char) : Rat :=
  let whole := text.takeWhile (· ≠ '.')
  let decimals := (text.dropWhile (· ≠ '.')).drop 1
  Nat.ofDigitChars 10 (whole ++ decimals) 0 / 10 ^ decimals.length

/-- Reads a numeral as the nearest binary64. -/
def read? (text : List Char) : Option Binary64 :=
  if isWellFormed text then some (.nearest (toRat text) false) else none

end Numeral

/-- Decimal notation for `n` units of the last of `places` decimals. -/
def positional (n places : Nat) : List Char :=
  let unit := Nat.pow 10 places
  let whole := Nat.toDigits 10 (n / unit)
  let decimals := Nat.toDigits 10 (n % unit)
  if places = 0 then whole
  else whole ++ '.' :: (List.replicate (places - decimals.length) '0' ++ decimals)

/-- The magnitude rounded half to even at `places` decimals. No magnitude has more than 1074
decimals, so all later ones are zeros. -/
def Magnitude.fixed (places : Nat) (m : Magnitude) : List Char :=
  let kept := min places 1074
  let n := (roundHalfEven (m.toRat * 10 ^ kept)).toNat
  positional n kept ++ List.replicate (places - kept) '0'

namespace Binary64

/-- Text by a layout of magnitudes; the sign is kept on a zero. -/
def layOut (layout : Magnitude → List Char) : Binary64 → String
  | .nan => "NaN"
  | .infinity negative => if negative then "-inf" else "inf"
  | .finite negative m => .ofList (if negative then '-' :: layout m else layout m)

def fixed (places : Nat) (x : Binary64) : String :=
  x.layOut (·.fixed places)

end Binary64

/-- The number `0.d₁d₂d₃… * 10 ^ point`, its last digit not a zero. -/
structure Decimal where
  digits : List Char
  point : Int

/-- `n` units of `10 ^ exponent`. -/
def Decimal.ofScaled (n : Nat) (exponent : Int) : Decimal :=
  let digits := Nat.toDigits 10 n
  ⟨(digits.reverse.dropWhile (· = '0')).reverse, digits.length + exponent⟩

namespace Magnitude

/-- The midpoint to the next smaller magnitude, which is half as far off below a power of two. -/
def lowerMidpoint (m : Magnitude) : Rat :=
  if m.significand = 0x10000000000000 ∧ m.exponent ≠ -1074 then
    (m.significand - 1 / 4) * 2 ^ m.exponent
  else (m.significand - 1 / 2) * 2 ^ m.exponent

def upperMidpoint (m : Magnitude) : Rat :=
  (m.significand + 1 / 2) * 2 ^ m.exponent

/-- A decimal reads back as `m` between the midpoints, and on them if the significand is even. -/
def readsBack (m : Magnitude) (q : Rat) : Bool :=
  if m.significand % 2 = 0 then m.lowerMidpoint ≤ q && q ≤ m.upperMidpoint
  else m.lowerMidpoint < q && q < m.upperMidpoint

/-- The count of units of `10 ^ exponent` next to `m` that reads back as `m`: the nearer one if
both do, the greater one at a tie. -/
def unitsReadingBack? (m : Magnitude) (exponent : Int) : Option Nat :=
  let unit : Rat := 10 ^ exponent
  let below := (m.toRat / unit).floor
  let above := below + 1
  match m.readsBack (below * unit), m.readsBack (above * unit) with
  | true, true => some (roundHalfUp (m.toRat / unit)).toNat
  | true, false => some below.toNat
  | false, true => some above.toNat
  | false, false => none

/-- Of the decimals with the fewest digits that read back as `m`, the nearest, the greater one at
a tie. When 16 digits are too few, the nearest decimal of 17 digits reads back. -/
def shortest (m : Magnitude) : Decimal :=
  if m.significand = 0 then ⟨[], 1⟩
  else
    let order := decimalOrder m.toRat
    let found := (List.range 16).findSome? fun (n : Nat) =>
      (m.unitsReadingBack? (order - n)).map (Decimal.ofScaled · (order - n))
    let longest := roundHalfUp (m.toRat / 10 ^ (order - 16))
    found.getD (.ofScaled longest.toNat (order - 16))

end Magnitude

namespace Decimal

def zeros (n : Int) : List Char :=
  List.replicate n.toNat '0'

def whole (d : Decimal) : List Char :=
  if d.point ≤ 0 then ['0']
  else d.digits.take d.point.toNat ++ zeros (d.point - d.digits.length)

def decimals (d : Decimal) : List Char :=
  if d.digits = [] then []
  else zeros (-d.point) ++ d.digits.drop d.point.toNat

def plain (d : Decimal) : List Char :=
  if d.decimals = [] then d.whole else d.whole ++ '.' :: d.decimals

def scientific (d : Decimal) : List Char :=
  let mantissa := if d.digits.length ≤ 1 then d.digits
    else d.digits.take 1 ++ '.' :: d.digits.drop 1
  mantissa ++ 'e' :: (toString (d.point - 1)).toList

/-- Positional with at least one decimal from `10 ^ -4` up to `10 ^ 16`, scientific beyond. -/
def general (d : Decimal) : List Char :=
  if d.point < -3 || 16 < d.point then d.scientific
  else if d.decimals = [] then d.whole ++ ['.', '0']
  else d.plain

end Decimal

namespace Binary64

def plain (x : Binary64) : String :=
  x.layOut (·.shortest.plain)

def general (x : Binary64) : String :=
  x.layOut (·.shortest.general)

end Binary64

end Calculator
