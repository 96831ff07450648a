import Calculator.Binary64.Basic
import Calculator.Proofs.HalfEven
import Mathlib.Data.Nat.Log
import Mathlib.Tactic.Ring

namespace Calculator

variable {q : Rat} {a b : Int}

theorem two_zpow_pos (a : Int) : (0 : Rat) < 2 ^ a :=
  zpow_pos (by norm_num) a

theorem two_zpow_add (a b : Int) : (2 : Rat) ^ (a + b) = 2 ^ a * 2 ^ b :=
  zpow_add₀ (by norm_num) a b

theorem two_zpow_le (h : a ≤ b) : (2 : Rat) ^ a ≤ 2 ^ b :=
  zpow_le_zpow_right₀ (by norm_num) h

theorem fraction_log2_bounds {n d : Nat} (hn : n ≠ 0) (hd : d ≠ 0) :
    (2 : Rat) ^ ((n.log2 : Int) - d.log2 - 1) ≤ n / d ∧
      (n : Rat) / d < 2 ^ ((n.log2 : Int) - d.log2 + 1) := by
  have hpos : (0 : Rat) < d := by exact_mod_cast Nat.pos_of_ne_zero hd
  have hnlow : (2 : Rat) ^ (n.log2 : Int) ≤ n := by exact_mod_cast Nat.log2_self_le hn
  have hnhigh : (n : Rat) < 2 ^ (n.log2 + 1 : Int) := by exact_mod_cast Nat.lt_log2_self
  have hdlow : (2 : Rat) ^ (d.log2 : Int) ≤ d := by exact_mod_cast Nat.log2_self_le hd
  have hdhigh : (d : Rat) < 2 ^ (d.log2 + 1 : Int) := by exact_mod_cast Nat.lt_log2_self
  constructor
  · rw [le_div_iff₀ hpos]
    calc
      _ ≤ (2 : Rat) ^ ((n.log2 : Int) - d.log2 - 1) * 2 ^ (d.log2 + 1 : Int) :=
        mul_le_mul_of_nonneg_left hdhigh.le (two_zpow_pos _).le
      _ = 2 ^ (n.log2 : Int) := by
        rw [← two_zpow_add]
        congr 1
        ring
      _ ≤ n := hnlow
  · rw [div_lt_iff₀ hpos]
    calc
      (n : Rat) < 2 ^ (n.log2 + 1 : Int) := hnhigh
      _ = 2 ^ ((n.log2 : Int) - d.log2 + 1) * 2 ^ (d.log2 : Int) := by
        rw [← two_zpow_add]
        congr 1
        ring
      _ ≤ _ := mul_le_mul_of_nonneg_left hdlow (two_zpow_pos _).le

theorem binaryOrder_bounds (hq : 0 < q) : 2 ^ binaryOrder q ≤ q ∧ q < 2 ^ (binaryOrder q + 1) := by
  have hnum := Rat.num_pos.2 hq
  have hbounds := fraction_log2_bounds (Int.natAbs_ne_zero.2 hnum.ne') q.den_nz
  rw [Nat.cast_natAbs, abs_of_pos hnum, Rat.num_div_den] at hbounds
  simp only [binaryOrder]
  split
  case isTrue h => exact ⟨h, hbounds.2⟩
  case isFalse h => exact ⟨hbounds.1, by simpa only [sub_add_cancel] using not_le.1 h⟩

/-- In units of its last place a number has at most 53 binary digits, and no fewer unless the unit
is the least. -/
theorem unitExponent_bounds (hq : 0 ≤ q) :
    -1074 ≤ unitExponent q ∧ q / 2 ^ unitExponent q < 0x20000000000000 ∧
      (unitExponent q = -1074 ∨ 0x10000000000000 ≤ q / 2 ^ unitExponent q) := by
  obtain rfl | hpos := hq.eq_or_lt
  · simp [unitExponent]
  obtain ⟨hlow, hhigh⟩ := binaryOrder_bounds hpos
  have hu : unitExponent q = max (-1074) (binaryOrder q - 52) := by
    rw [unitExponent, if_neg hpos.ne']
  refine ⟨hu ▸ le_max_left _ _, ?_, ?_⟩
  · rw [div_lt_iff₀ (two_zpow_pos _)]
    calc
      q < 2 ^ (binaryOrder q + 1) := hhigh
      _ ≤ 2 ^ (53 + unitExponent q) := two_zpow_le (by omega)
      _ = 0x20000000000000 * 2 ^ unitExponent q := by
        rw [two_zpow_add]
        norm_num
  · obtain he | he := le_total (binaryOrder q - 52) (-1074)
    · exact .inl (by omega)
    · rw [le_div_iff₀ (two_zpow_pos _)]
      refine .inr ?_
      calc
        0x10000000000000 * 2 ^ unitExponent q = 2 ^ (52 + unitExponent q) := by
          rw [two_zpow_add]
          norm_num
        _ ≤ 2 ^ binaryOrder q := two_zpow_le (by omega)
        _ ≤ q := hlow

/-- Half a unit of the last place above the greatest magnitude. -/
def overflowThreshold : Rat := 0x3fffffffffffff * 2 ^ (970 : Int)

namespace Magnitude

def roundedUnits (q : Rat) : Int :=
  roundHalfEven (q / 2 ^ unitExponent q)

theorem roundedUnits_bounds (hq : 0 ≤ q) :
    0 ≤ roundedUnits q ∧ roundedUnits q ≤ 0x20000000000000 ∧
      (unitExponent q = -1074 ∨ 0x10000000000000 ≤ roundedUnits q) := by
  obtain ⟨_, hhigh, hlow⟩ := unitExponent_bounds hq
  refine ⟨le_roundHalfEven ?_, roundHalfEven_le ?_, hlow.imp_right fun h => le_roundHalfEven ?_⟩
  · exact_mod_cast div_nonneg hq (two_zpow_pos _).le
  · exact_mod_cast hhigh.le
  · exact_mod_cast h

theorem overflowThreshold_le (hq : 0 ≤ q) (hu : 971 ≤ unitExponent q)
    (hr : unitExponent q = 971 → roundedUnits q = 0x20000000000000) : overflowThreshold ≤ q := by
  obtain he | he := hu.eq_or_lt
  · have herror := (abs_le.1 (isHalfEven_roundHalfEven (q / 2 ^ unitExponent q)).error_le_half).1
    rw [← roundedUnits, hr he.symm] at herror
    have hunits : (0x3fffffffffffff : Rat) / 2 ≤ q / 2 ^ unitExponent q := by
      push_cast at herror
      linarith
    rw [le_div_iff₀ (two_zpow_pos _), ← he] at hunits
    calc
      overflowThreshold = 0x3fffffffffffff / 2 * 2 ^ (970 + 1 : Int) := by
        rw [overflowThreshold, two_zpow_add]
        ring
      _ ≤ q := hunits
  · obtain ⟨_, _, h | hlow⟩ := unitExponent_bounds hq
    · omega
    rw [le_div_iff₀ (two_zpow_pos _)] at hlow
    calc
      overflowThreshold ≤ 0x10000000000000 * 2 ^ (2 + 970 : Int) := by
        rw [overflowThreshold, two_zpow_add, ← mul_assoc]
        exact mul_le_mul_of_nonneg_right (by norm_num) (two_zpow_pos _).le
      _ ≤ 0x10000000000000 * 2 ^ unitExponent q :=
        mul_le_mul_of_nonneg_left (two_zpow_le he) (by norm_num)
      _ ≤ q := hlow

/-- The nearest magnitude is a whole number of units, and an even number of them has an even
significand, unless there is none. -/
theorem nearest?_cases (hq : 0 ≤ q) :
    (∃ m, nearest? q = some m ∧ m.toRat = roundedUnits q * 2 ^ unitExponent q ∧
      (roundedUnits q % 2 = 0 → m.significand % 2 = 0)) ∨
      nearest? q = none ∧ overflowThreshold ≤ q := by
  obtain ⟨hleast, _, _⟩ := unitExponent_bounds hq
  obtain ⟨hnonneg, hmost, hfull⟩ := roundedUnits_bounds hq
  obtain ⟨n, hn⟩ := Int.eq_ofNat_of_zero_le hnonneg
  have htoNat : (roundHalfEven (q / 2 ^ unitExponent q)).toNat = n := by
    rw [← roundedUnits, hn]
    rfl
  simp only [nearest?, htoNat, hn]
  split
  case isTrue h =>
    refine .inl ⟨_, rfl, rfl, ?_⟩
    intro he
    exact_mod_cast he
  case isFalse h =>
    unfold Canonical at h
    split
    case isTrue h' =>
      unfold Canonical at h'
      obtain rfl : n = 0x20000000000000 := by omega
      refine .inl ⟨_, rfl, ?_, fun _ => by norm_num⟩
      rw [toRat, two_zpow_add]
      norm_num
      ring
    case isFalse h' =>
      unfold Canonical at h'
      refine .inr ⟨rfl, overflowThreshold_le hq (by omega) ?_⟩
      intro hu
      omega

theorem toRat_le (m : Magnitude) : m.toRat ≤ 0x1fffffffffffff * 2 ^ (971 : Int) := by
  obtain ⟨hlt, _, hle, _⟩ := m.canonical
  have hs : (m.significand : Rat) ≤ 0x1fffffffffffff := by exact_mod_cast Nat.le_of_lt_succ hlt
  exact mul_le_mul hs (two_zpow_le hle) (two_zpow_pos _).le (by norm_num)

theorem exists_units (m : Magnitude) (h : a ≤ m.exponent) :
    ∃ n : Int, m.toRat = n * 2 ^ a ∧ (m.significand % 2 = 0 → n % 2 = 0) := by
  obtain ⟨k, hk⟩ := Int.le.dest h
  refine ⟨m.significand * 2 ^ k, ?_, ?_⟩
  · rw [toRat, ← hk, two_zpow_add, zpow_natCast]
    push_cast
    ring
  · intro he
    have hdvd : (2 : Int) ∣ m.significand := by exact_mod_cast Nat.dvd_of_mod_eq_zero he
    exact Int.emod_eq_zero_of_dvd (hdvd.mul_right _)

theorem toRat_lt (m : Magnitude) (h : m.exponent < a) : m.toRat < 0x10000000000000 * 2 ^ a := by
  have hs : (m.significand : Rat) < 0x20000000000000 := by exact_mod_cast m.canonical.1
  calc
    m.toRat < 0x20000000000000 * 2 ^ m.exponent := mul_lt_mul_of_pos_right hs (two_zpow_pos _)
    _ = 0x10000000000000 * 2 ^ (m.exponent + 1) := by
      rw [two_zpow_add]
      ring
    _ ≤ 0x10000000000000 * 2 ^ a := mul_le_mul_of_nonneg_left (two_zpow_le h) (by norm_num)

theorem abs_sub_units (q : Rat) (n a : Int) : |q - n * 2 ^ a| = |q / 2 ^ a - n| * 2 ^ a := by
  have hpos := two_zpow_pos a
  rw [← abs_of_pos hpos, ← abs_mul, abs_of_pos hpos, sub_mul, div_mul_cancel₀ _ hpos.ne']

theorem abs_sub_roundedUnits_le (q : Rat) (n : Int) :
    |q - roundedUnits q * 2 ^ unitExponent q| ≤ |q - n * 2 ^ unitExponent q| := by
  rw [abs_sub_units, abs_sub_units]
  exact mul_le_mul_of_nonneg_right (abs_sub_roundHalfEven_le _ _) (two_zpow_pos _).le

theorem abs_sub_roundedUnits_lt {m : Magnitude} (hq : 0 ≤ q) (h : m.exponent < unitExponent q) :
    |q - roundedUnits q * 2 ^ unitExponent q| < |q - m.toRat| := by
  obtain ⟨_, _, he | hlow⟩ := unitExponent_bounds hq
  · have hleast := m.canonical.2.1
    omega
  have hbelow := m.toRat_lt h
  rw [le_div_iff₀ (two_zpow_pos _)] at hlow
  have hunit := abs_sub_roundedUnits_le q 0x10000000000000
  push_cast at hunit
  rw [abs_of_nonneg (sub_nonneg.2 hlow)] at hunit
  rw [abs_of_nonneg (sub_nonneg.2 (hbelow.le.trans hlow))]
  linarith

/-- No magnitude is nearer than the nearest one. -/
theorem abs_sub_le_of_nearest? {m : Magnitude} (hq : 0 ≤ q) (h : nearest? q = some m)
    (m' : Magnitude) : |q - m.toRat| ≤ |q - m'.toRat| := by
  obtain ⟨_, hm, hunits, _⟩ | ⟨hn, _⟩ := nearest?_cases hq
  · obtain rfl := Option.some.inj (hm.symm.trans h)
    rw [hunits]
    obtain hle | hlt := le_or_gt (unitExponent q) m'.exponent
    · obtain ⟨n, hn, _⟩ := m'.exists_units hle
      rw [hn]
      exact abs_sub_roundedUnits_le q n
    · exact (abs_sub_roundedUnits_lt hq hlt).le
  · rw [hn] at h
    cases h

theorem exists_nearest?_of_lt (hq : 0 ≤ q) (h : q < overflowThreshold) :
    ∃ m, nearest? q = some m := by
  obtain ⟨m, hm, _⟩ | ⟨_, hle⟩ := nearest?_cases hq
  · exact ⟨m, hm⟩
  · exact absurd h (not_lt.2 hle)

end Magnitude

end Calculator
