import Calculator.Proofs.Nearest

namespace Calculator

namespace Binary64

/-- Rounding of a number that is not negative: to the nearest magnitude, of two equally near ones
to the even one, and to infinity from the overflow threshold on. -/
inductive RoundsTo (q : Rat) : Binary64 → Prop
  | finite {m : Magnitude} : q < overflowThreshold →
      (∀ m', m' ≠ m → |q - m.toRat| < |q - m'.toRat| ∨
        |q - m.toRat| = |q - m'.toRat| ∧ m.significand % 2 = 0) → RoundsTo q (.finite false m)
  | overflow : overflowThreshold ≤ q → RoundsTo q (.infinity false)

theorem RoundsTo.finite_or_infinite (h : RoundsTo q x) :
    (∃ m, x = .finite false m) ∨ x = .infinity false := by
  cases h with
  | finite => exact .inl ⟨_, rfl⟩
  | overflow => exact .inr rfl

/-- The order of numbers, in which a NaN is related to nothing. -/
def Le : Binary64 → Binary64 → Prop
  | .nan, _ | _, .nan => False
  | .infinity true, _ | _, .infinity false => True
  | .finite s m, .finite t n => signed s m ≤ signed t n
  | _, _ => False

end Binary64

variable {q q' : Rat} {m m' : Magnitude}

theorem unitExponent_of_overflow (hq : 0 ≤ q) (h : overflowThreshold ≤ q) :
    971 ≤ unitExponent q := by
  by_contra hlt
  obtain ⟨_, hbelow, _⟩ := unitExponent_bounds hq
  rw [div_lt_iff₀ (two_zpow_pos _)] at hbelow
  have hunit : (2 : Rat) ^ unitExponent q ≤ 2 ^ (970 : Int) := two_zpow_le (by omega)
  have hpos := two_zpow_pos 970
  rw [overflowThreshold] at h
  generalize (2 : Rat) ^ (970 : Int) = unit at *
  linarith

theorem midpoint_le {x y : Rat} (hxy : x < y) (h : |q - y| ≤ |q - x|) : x + y ≤ 2 * q := by
  by_contra hlt
  have hy : y - q ≤ |q - y| := by
    rw [abs_sub_comm]
    exact le_abs_self _
  have hx : |q - x| < y - q := abs_lt.2 ⟨by linarith, by linarith⟩
  linarith

theorem le_midpoint {x y : Rat} (hxy : x < y) (h : |q - x| ≤ |q - y|) : 2 * q ≤ x + y := by
  have hneg : |-q - -x| ≤ |-q - -y| := by
    rwa [← neg_sub', ← neg_sub', abs_neg, abs_neg]
  have hmid := midpoint_le (neg_lt_neg hxy) hneg
  linarith

namespace Magnitude

theorem toRat_inj (h : m.toRat = m'.toRat) : m = m' := by
  wlog hle : m.exponent ≤ m'.exponent generalizing m m'
  · exact (this h.symm (le_of_not_ge hle)).symm
  obtain ⟨k, hk⟩ := Int.le.dest hle
  rw [toRat, toRat, ← hk, two_zpow_add, mul_comm ((2 : Rat) ^ m.exponent), ← mul_assoc,
    zpow_natCast] at h
  have hs : m.significand = m'.significand * 2 ^ k := by
    exact_mod_cast mul_right_cancel₀ (two_zpow_pos m.exponent).ne' h
  obtain _ | k := k
  · obtain ⟨s, e, hc⟩ := m
    obtain ⟨s', e', hc'⟩ := m'
    obtain rfl : s = s' := by simpa using hs
    obtain rfl : e = e' := by simpa using hk
    rfl
  · -- A significand with its leading bit set cannot be doubled.
    obtain ⟨hlt, hleast, _⟩ := m.canonical
    obtain ⟨_, _, _, hfull | he⟩ := m'.canonical
    · have hpos : 0 < 2 ^ k := Nat.two_pow_pos k
      have hdouble := Nat.mul_le_mul hfull (Nat.succ_le_of_lt hpos)
      rw [hs, pow_succ, ← mul_assoc] at hlt
      omega
    · omega

theorem roundedUnits_of_overflow (hq : 0 ≤ q) (h : overflowThreshold ≤ q) :
    0x20000000000000 * 2 ^ (971 : Int) ≤ roundedUnits q * (2 : Rat) ^ unitExponent q := by
  obtain he | hlt := (unitExponent_of_overflow hq h).eq_or_lt
  · -- Half a unit above the greatest magnitude a tie goes up, to the even number of units.
    rw [← he]
    apply mul_le_mul_of_nonneg_right _ (two_zpow_pos _).le
    have hunits : ((0x20000000000000 : Int) : Rat) - 1 / 2 ≤ q / 2 ^ unitExponent q := by
      rw [le_div_iff₀ (two_zpow_pos _), ← he]
      calc
        _ = overflowThreshold := by
          rw [overflowThreshold, show (971 : Int) = 1 + 970 by rfl, two_zpow_add]
          generalize (2 : Rat) ^ (970 : Int) = unit
          push_cast
          ring
        _ ≤ q := h
    exact_mod_cast le_roundHalfEven_of_even (by decide) hunits
  · obtain ⟨hnonneg, _, hleast | hfull⟩ := roundedUnits_bounds hq
    · omega
    · calc
        0x20000000000000 * (2 : Rat) ^ (971 : Int) = 0x10000000000000 * 2 ^ (971 + 1 : Int) := by
          rw [two_zpow_add]
          ring
        _ ≤ roundedUnits q * 2 ^ unitExponent q :=
          mul_le_mul (by exact_mod_cast hfull) (two_zpow_le hlt) (two_zpow_pos _).le
            (by exact_mod_cast hnonneg)

theorem nearest?_eq_none_iff (hq : 0 ≤ q) : nearest? q = none ↔ overflowThreshold ≤ q := by
  obtain ⟨m, hm, hunits, _⟩ | ⟨hn, hle⟩ := nearest?_cases hq
  · rw [hm]
    constructor
    · nofun
    · intro h
      have hmost := m.toRat_le
      have hmore := roundedUnits_of_overflow hq h
      have hpos := two_zpow_pos 971
      rw [hunits] at hmost
      generalize (2 : Rat) ^ (971 : Int) = unit at *
      linarith
  · exact ⟨fun _ => hle, fun _ => hn⟩

theorem exists_odd_units (hq : 0 ≤ q) (h : nearest? q = some m) (hne : m' ≠ m)
    (ht : |q - m'.toRat| = |q - m.toRat|) : m.significand % 2 = 0 ∧ m'.significand % 2 = 1 := by
  obtain ⟨_, hm, hunits, heven⟩ | ⟨hn, _⟩ := nearest?_cases hq
  · obtain rfl := Option.some.inj (hm.symm.trans h)
    rw [hunits] at ht
    obtain hle | hlt := le_or_gt (unitExponent q) m'.exponent
    · obtain ⟨n, hn, heven'⟩ := m'.exists_units hle
      have hdiff : roundedUnits q ≠ n := by
        rintro rfl
        exact hne (toRat_inj (hn.trans hunits.symm))
      rw [hn, abs_sub_units, abs_sub_units] at ht
      have hdistance := mul_right_cancel₀ (two_zpow_pos _).ne' ht
      have hone := one_le_add_error (q / 2 ^ unitExponent q) hdiff
      obtain hnear | ⟨hhalf, hr⟩ := isHalfEven_roundHalfEven (q / 2 ^ unitExponent q)
      · rw [← roundedUnits] at hnear
        linarith
      · refine ⟨heven hr, ?_⟩
        by_contra ho
        have hn' : IsHalfEven (q / 2 ^ unitExponent q) n :=
          .inr ⟨hdistance.trans hhalf, heven' (by omega)⟩
        exact hdiff ((isHalfEven_roundHalfEven _).unique hn')
    · exact absurd ht (abs_sub_roundedUnits_lt hq hlt).ne'
  · rw [hn] at h
    cases h

theorem toRat_mono (hq : 0 ≤ q) (hle : q ≤ q') (h : nearest? q = some m)
    (h' : nearest? q' = some m') : m.toRat ≤ m'.toRat := by
  by_contra hgt
  have hlt := not_le.1 hgt
  have hmid := midpoint_le hlt (abs_sub_le_of_nearest? hq h m')
  have hmid' := le_midpoint hlt (abs_sub_le_of_nearest? (hq.trans hle) h' m)
  obtain rfl : q = q' := le_antisymm hle (by linarith)
  obtain rfl := Option.some.inj (h.symm.trans h')
  exact hgt le_rfl

end Magnitude

namespace Binary64

theorem nearest_eq_elim (hq : 0 ≤ q) :
    nearest q false = (Magnitude.nearest? q).elim (.infinity false) (.finite false) := by
  have hsign : (if q = 0 then false else decide (q < 0)) = false := by
    rw [decide_eq_false (not_lt.2 hq), ite_self]
  rw [nearest, Rat.abs_of_nonneg hq]
  simp only [hsign]
  cases Magnitude.nearest? q with
  | none => rfl
  | some m => rfl

theorem roundsTo_nearest (hq : 0 ≤ q) : RoundsTo q (nearest q false) := by
  rw [nearest_eq_elim hq]
  cases h : Magnitude.nearest? q with
  | none => exact .overflow ((Magnitude.nearest?_eq_none_iff hq).1 h)
  | some m =>
    refine .finite ?_ ?_
    · rw [← not_le, ← Magnitude.nearest?_eq_none_iff hq, h]
      nofun
    · intro m' hne
      obtain hlt | heq := (Magnitude.abs_sub_le_of_nearest? hq h m').lt_or_eq
      · exact .inl hlt
      · exact .inr ⟨heq, (Magnitude.exists_odd_units hq h hne heq.symm).1⟩

theorem roundsTo_iff (hq : 0 ≤ q) : RoundsTo q x ↔ x = nearest q false := by
  constructor
  · intro hx
    rw [nearest_eq_elim hq]
    cases hx with
    | overflow hle => rw [(Magnitude.nearest?_eq_none_iff hq).2 hle, Option.elim_none]
    | @finite m hlt hnear =>
      obtain ⟨m', hm'⟩ := Magnitude.exists_nearest?_of_lt hq hlt
      rw [hm', Option.elim_some]
      by_contra hdiff
      have hne : m ≠ m' := fun he => hdiff (he ▸ rfl)
      have hle := Magnitude.abs_sub_le_of_nearest? hq hm' m
      obtain hlt | ⟨heq, heven⟩ := hnear m' hne.symm
      · exact absurd hlt (not_lt.2 hle)
      · have hodd := (Magnitude.exists_odd_units hq hm' hne heq).2
        omega
  · rintro rfl
    exact roundsTo_nearest hq

theorem nearest_mono (hq : 0 ≤ q) (hle : q ≤ q') : (nearest q false).Le (nearest q' false) := by
  have hq' := hq.trans hle
  rw [nearest_eq_elim hq, nearest_eq_elim hq']
  cases h' : Magnitude.nearest? q' with
  | none =>
    cases Magnitude.nearest? q with
    | none => trivial
    | some m => trivial
  | some m' =>
    cases h : Magnitude.nearest? q with
    | none =>
      have hover := ((Magnitude.nearest?_eq_none_iff hq).1 h).trans hle
      rw [(Magnitude.nearest?_eq_none_iff hq').2 hover] at h'
      cases h'
    | some m => exact Magnitude.toRat_mono hq hle h h'

end Binary64

end Calculator
