import Calculator.Binary64.Basic

namespace Calculator.Binary64

/-- Reads the interchange format: a sign bit, eleven bits of biased exponent, 52 of fraction.
Every pattern of a NaN reads as the one NaN. -/
def ofBits (bits : UInt64) : Binary64 :=
  let fraction := bits.toNat % 0x10000000000000
  let biased := bits.toNat / 0x10000000000000 % 0x800
  let negative := 0x8000000000000000 ≤ bits.toNat
  have : fraction < 0x10000000000000 := Nat.mod_lt _ (by decide)
  have : biased < 0x800 := Nat.mod_lt _ (by decide)
  if hSubnormal : biased = 0 then
    .finite negative ⟨fraction, -1074, by unfold Canonical; omega⟩
  else if hNormal : biased ≠ 0x7ff then
    .finite negative ⟨0x10000000000000 + fraction, biased - 1075, by unfold Canonical; omega⟩
  else if fraction = 0 then .infinity negative
  else .nan

def signBit (negative : Bool) : Nat :=
  if negative then 0x8000000000000000 else 0

def toBits : Binary64 → UInt64
  | .nan => 0x7ff8000000000000
  | .infinity s => .ofNat (signBit s + 0x7ff0000000000000)
  | .finite s m =>
    if m.significand < 0x10000000000000 then .ofNat (signBit s + m.significand)
    else
      let biased := (m.exponent + 1075).toNat
      .ofNat (signBit s + biased * 0x10000000000000 + (m.significand - 0x10000000000000))

end Calculator.Binary64
