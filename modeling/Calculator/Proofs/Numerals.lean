import Calculator.Decimal
import Calculator.Proofs.Nearest
import Mathlib.Data.List.TakeWhile

namespace Calculator

theorem ne_point_of_isDigit {c : Char} (h : c.isDigit) : c ≠ '.' := by
  rintro rfl
  cases h

/-- Digits denote `n` units of the last of `places` decimals, with a point only before decimals. -/
inductive IsPositional : Nat → Nat → List Char → Prop
  | integer : whole ≠ [] → (∀ c ∈ whole, c.isDigit) →
      IsPositional (Nat.ofDigitChars 10 whole 0) 0 whole
  | point : whole ≠ [] → decimals ≠ [] → (∀ c ∈ whole ++ decimals, c.isDigit) →
      IsPositional (Nat.ofDigitChars 10 (whole ++ decimals) 0) decimals.length
        (whole ++ '.' :: decimals)

theorem isDigit_of_mem_zeros {c : Char} (h : c ∈ List.replicate k '0') : c.isDigit := by
  rw [List.eq_of_mem_replicate h]
  rfl

variable {n places : Nat} {text whole decimals : List Char}

theorem point_notMem_of_digits (h : ∀ c ∈ text, c.isDigit) : '.' ∉ text :=
  fun hm => ne_point_of_isDigit (h '.' hm) rfl

theorem ne_point_of_notMem (h : '.' ∉ text) : ∀ c ∈ text, decide (c ≠ '.') = true := by
  intro c hc
  apply decide_eq_true
  rintro rfl
  exact h hc

theorem Numeral.toRat_of_notMem (h : '.' ∉ text) : toRat text = Nat.ofDigitChars 10 text 0 := by
  have hw := ne_point_of_notMem h
  simp only [toRat, List.takeWhile_eq_self_iff.2 hw, List.dropWhile_eq_nil_iff.2 hw, List.drop_nil,
    List.append_nil, List.length_nil, pow_zero, div_one]

theorem Numeral.toRat_append_cons (h : '.' ∉ whole) (decimals : List Char) :
    toRat (whole ++ '.' :: decimals) =
      Nat.ofDigitChars 10 (whole ++ decimals) 0 / 10 ^ decimals.length := by
  have hw := ne_point_of_notMem h
  simp only [toRat, List.takeWhile_append_of_pos hw, List.dropWhile_append_of_pos hw]
  simp

namespace IsPositional

theorem toRat (h : IsPositional n places text) : Numeral.toRat text = n / 10 ^ places := by
  cases h with
  | integer _ hd =>
    rw [Numeral.toRat_of_notMem (point_notMem_of_digits hd), pow_zero, div_one]
  | point _ _ hd =>
    exact Numeral.toRat_append_cons (point_notMem_of_digits (List.forall_mem_append.1 hd).1) _

theorem ne_nil (h : IsPositional n places text) : text ≠ [] := by
  cases h with
  | integer hw _ => exact hw
  | point _ _ _ => simp

theorem numeric (h : IsPositional n places text) : ∀ c ∈ text, Numeral.isNumeric c := by
  intro c hc
  rw [Numeral.isNumeric, Bool.or_eq_true]
  cases h with
  | integer _ hd => exact .inl (hd c hc)
  | point _ _ hd =>
    rw [List.mem_append, List.mem_cons] at hc
    obtain hc | rfl | hc := hc
    · exact .inl (hd c (List.mem_append_left _ hc))
    · exact .inr rfl
    · exact .inl (hd c (List.mem_append_right _ hc))

theorem count_point_of_digits (h : ∀ c ∈ text, c.isDigit) : text.count '.' = 0 :=
  List.count_eq_zero.2 (point_notMem_of_digits h)

theorem isWellFormed (h : IsPositional n places text) : Numeral.isWellFormed text := by
  rw [Numeral.isWellFormed_iff]
  cases h with
  | integer hw hd =>
    obtain ⟨c, hc⟩ := List.exists_mem_of_ne_nil _ hw
    exact ⟨⟨c, hc, hd c hc⟩, by rw [count_point_of_digits hd]; exact Nat.zero_le _⟩
  | point hw _ hd =>
    obtain ⟨c, hc⟩ := List.exists_mem_of_ne_nil _ hw
    refine ⟨⟨c, List.mem_append_left _ hc, hd c (List.mem_append_left _ hc)⟩, ?_⟩
    have hcount := count_point_of_digits hd
    rw [List.count_append] at hcount ⊢
    rw [List.count_cons_self]
    omega

theorem append_zeros (h : IsPositional n places text) (hp : places ≠ 0) (k : Nat) :
    IsPositional (10 ^ k * n) (places + k) (text ++ List.replicate k '0') := by
  cases h with
  | integer _ _ => exact absurd rfl hp
  | @point whole decimals hw hn hd =>
    have hdigits : ∀ c ∈ whole ++ (decimals ++ List.replicate k '0'), c.isDigit := by
      rw [← List.append_assoc]
      exact List.forall_mem_append.2 ⟨hd, fun _ => isDigit_of_mem_zeros⟩
    have happend := point hw (List.append_ne_nil_of_left_ne_nil hn _) hdigits
    rw [← List.append_assoc, Nat.ofDigitChars_append, Nat.ofDigitChars_replicate_zero,
      List.length_append, List.length_replicate] at happend
    simpa only [List.append_assoc, List.cons_append] using happend

end IsPositional

theorem isDigit_of_mem_toDigits {c : Char} (h : c ∈ Nat.toDigits 10 n) : c.isDigit :=
  Nat.isDigit_of_mem_toDigits (by decide) (by decide) h

def padded (n places : Nat) : List Char :=
  List.replicate (places - (Nat.toDigits 10 n).length) '0' ++ Nat.toDigits 10 n

theorem length_padded (hp : 0 < places) (h : n < 10 ^ places) :
    (padded n places).length = places := by
  have hlen := (Nat.length_toDigits_le_iff (by decide) hp).2 h
  rw [padded, List.length_append, List.length_replicate]
  omega

theorem ofDigitChars_padded (n places : Nat) : Nat.ofDigitChars 10 (padded n places) 0 = n := by
  rw [padded, Nat.ofDigitChars_append, Nat.ofDigitChars_replicate_zero, Nat.mul_zero,
    Nat.ofDigitChars_ten_toDigits]

theorem isPositional_positional (n places : Nat) : IsPositional n places (positional n places) := by
  obtain rfl | hp := Nat.eq_zero_or_pos places
  · have h := IsPositional.integer Nat.toDigits_ne_nil fun _ => isDigit_of_mem_toDigits (n := n)
    rw [Nat.ofDigitChars_ten_toDigits] at h
    simpa [positional] using h
  · have hlen := length_padded hp (Nat.mod_lt n (Nat.pow_pos (by decide)))
    have hdigits : ∀ c ∈ Nat.toDigits 10 (n / 10 ^ places) ++ padded (n % 10 ^ places) places,
        c.isDigit := by
      rw [padded, List.forall_mem_append, List.forall_mem_append]
      exact ⟨fun _ => isDigit_of_mem_toDigits, fun _ => isDigit_of_mem_zeros,
        fun _ => isDigit_of_mem_toDigits⟩
    have h := IsPositional.point Nat.toDigits_ne_nil (List.ne_nil_of_length_pos (hlen.symm ▸ hp))
      hdigits
    rw [Nat.ofDigitChars_append, Nat.ofDigitChars_ten_toDigits,
      Nat.ofDigitChars_eq_ofDigitChars_zero, ofDigitChars_padded, hlen, Nat.div_add_mod] at h
    rw [positional, if_neg hp.ne']
    exact h

namespace Magnitude

theorem exists_decimal_units (m : Magnitude) (hp : 1074 ≤ places) :
    ∃ i : Nat, m.toRat * 10 ^ places = i := by
  have hplace := m.canonical.2.1
  obtain ⟨k, hk⟩ := Int.eq_ofNat_of_zero_le (show 0 ≤ m.exponent + places by omega)
  refine ⟨m.significand * 2 ^ k * 5 ^ places, ?_⟩
  have hten : (10 : Rat) ^ places = 2 ^ (places : Int) * 5 ^ places := by
    rw [zpow_natCast, ← mul_pow]
    norm_num
  calc
    m.toRat * 10 ^ places = m.significand * 2 ^ (m.exponent + places) * 5 ^ places := by
      rw [toRat, hten, two_zpow_add]
      ring
    _ = _ := by
      rw [hk, zpow_natCast]
      push_cast
      rfl

/-- All decimals behind the 1074th are zeros. -/
theorem exists_roundHalfEven_eq (m : Magnitude) :
    ∃ i : Nat, ∀ k, roundHalfEven (m.toRat * 10 ^ (1074 + k)) = (10 ^ k * i : Nat) := by
  obtain ⟨i, hi⟩ := m.exists_decimal_units (Nat.le_refl 1074)
  refine ⟨i, fun k => ?_⟩
  have hscaled : m.toRat * 10 ^ (1074 + k) = (10 ^ k * i : Nat) := by
    rw [pow_add, ← mul_assoc, hi]
    push_cast
    ring
  rw [hscaled, roundHalfEven_natCast]

theorem fixed_of_le (m : Magnitude) (hp : places ≤ 1074) :
    m.fixed places = positional (roundHalfEven (m.toRat * 10 ^ places)).toNat places := by
  rw [fixed, Nat.min_eq_left hp, Nat.sub_self, List.replicate_zero, List.append_nil]

theorem fixed_add (m : Magnitude) (k : Nat) :
    m.fixed (1074 + k) =
      positional (roundHalfEven (m.toRat * 10 ^ 1074)).toNat 1074 ++ List.replicate k '0' := by
  rw [fixed, Nat.min_eq_right (Nat.le_add_right _ _), Nat.add_sub_cancel_left]

theorem isPositional_fixed (m : Magnitude) (places : Nat) :
    IsPositional (roundHalfEven (m.toRat * 10 ^ places)).toNat places (m.fixed places) := by
  obtain hle | hgt := le_or_gt places 1074
  · rw [m.fixed_of_le hle]
    exact isPositional_positional _ _
  · obtain ⟨k, rfl⟩ := Nat.exists_eq_add_of_le hgt.le
    obtain ⟨i, hi⟩ := m.exists_roundHalfEven_eq
    have hzero : roundHalfEven (m.toRat * 10 ^ 1074) = i := by simpa using hi 0
    rw [m.fixed_add, hi, hzero, Int.toNat_natCast, Int.toNat_natCast]
    exact (isPositional_positional i 1074).append_zeros (by decide) k

theorem fixed_congr {m m' : Magnitude}
    (h : roundHalfEven (m.toRat * 10 ^ places) = roundHalfEven (m'.toRat * 10 ^ places)) :
    m.fixed places = m'.fixed places := by
  obtain hle | hgt := le_or_gt places 1074
  · rw [m.fixed_of_le hle, m'.fixed_of_le hle, h]
  · obtain ⟨k, rfl⟩ := Nat.exists_eq_add_of_le hgt.le
    obtain ⟨i, hi⟩ := m.exists_roundHalfEven_eq
    obtain ⟨i', hi'⟩ := m'.exists_roundHalfEven_eq
    rw [hi, hi'] at h
    obtain rfl := Nat.eq_of_mul_eq_mul_left (Nat.pow_pos (by decide)) (Int.ofNat_inj.1 h)
    have hzero : roundHalfEven (m.toRat * 10 ^ 1074) = roundHalfEven (m'.toRat * 10 ^ 1074) :=
      (hi 0).trans (hi' 0).symm
    rw [m.fixed_add, m'.fixed_add, hzero]

end Magnitude

end Calculator
