import Calculator.Binary64.Basic
import Mathlib.Algebra.Order.Field.Basic
import Mathlib.Data.Rat.Floor
import Mathlib.Tactic.Linarith

namespace Calculator

variable {q q' : Rat} {n n' : Int}

/-- `n` is less than half a unit off, or half a unit and even. -/
def IsHalfEven (q : Rat) (n : Int) : Prop :=
  |q - n| < 1 / 2 ∨ |q - n| = 1 / 2 ∧ n % 2 = 0

theorem IsHalfEven.error_le_half (h : IsHalfEven q n) : |q - n| ≤ 1 / 2 := by
  obtain h | ⟨h, _⟩ := h
  · exact h.le
  · exact h.le

theorem IsHalfEven.of_nearer (h : IsHalfEven q n) (hq : |q' - n| ≤ |q - n|) : IsHalfEven q' n := by
  obtain h | ⟨h, hn⟩ := h
  · exact .inl (hq.trans_lt h)
  · obtain hlt | he := (hq.trans_eq h).lt_or_eq
    · exact .inl hlt
    · exact .inr ⟨he, hn⟩

theorem one_le_add_error (q : Rat) (hn : n ≠ n') : 1 ≤ |q - n| + |q - n'| := by
  have hone : (1 : Rat) ≤ |(n : Rat) - n'| := by
    exact_mod_cast Int.one_le_abs (sub_ne_zero.2 hn)
  rw [abs_sub_comm q n]
  exact hone.trans (abs_sub_le _ _ _)

theorem IsHalfEven.unique (h : IsHalfEven q n) (h' : IsHalfEven q n') : n = n' := by
  by_contra hne
  have hone := one_le_add_error q hne
  have hd := h.error_le_half
  have hd' := h'.error_le_half
  -- Both are half a unit off, hence neighbours and even.
  have hn : n % 2 = 0 := by
    obtain h | ⟨_, hn⟩ := h
    · linarith
    · exact hn
  have hn' : n' % 2 = 0 := by
    obtain h' | ⟨_, hn'⟩ := h'
    · linarith
    · exact hn'
  have hle : |(n : Rat) - n'| ≤ 1 := by
    have htri := abs_sub_le (n : Rat) q n'
    rw [abs_sub_comm (n : Rat) q] at htri
    linarith
  have hint := abs_le.1 (show |n - n'| ≤ 1 by exact_mod_cast hle)
  omega

theorem isHalfEven_roundHalfEven (q : Rat) : IsHalfEven q (roundHalfEven q) := by
  have hle := Rat.floor_le q
  have hlt : q < q.floor + 1 := by exact_mod_cast Rat.floor_lt_iff.1 (Int.lt_succ q.floor)
  simp only [roundHalfEven]
  split
  case isTrue h =>
    refine .inl (abs_lt.2 ⟨?_, h⟩)
    linarith
  case isFalse hl =>
    split
    case isTrue h =>
      refine .inl (abs_lt.2 ?_)
      push_cast
      constructor <;> linarith
    case isFalse hg =>
      have ht : q - q.floor = 1 / 2 := le_antisymm (not_lt.1 hg) (not_lt.1 hl)
      split
      case isTrue he =>
        refine .inr ⟨?_, he⟩
        rw [ht, abs_of_pos (by norm_num)]
      case isFalse ho =>
        refine .inr ⟨?_, by omega⟩
        push_cast
        rw [← sub_sub, ht, abs_of_neg (by norm_num)]
        norm_num

theorem roundHalfEven_eq_iff : roundHalfEven q = n ↔ IsHalfEven q n := by
  constructor
  · rintro rfl
    exact isHalfEven_roundHalfEven q
  · exact (isHalfEven_roundHalfEven q).unique

@[simp] theorem roundHalfEven_natCast (i : Nat) : roundHalfEven i = i := by
  rw [roundHalfEven_eq_iff, IsHalfEven, Int.cast_natCast, sub_self, abs_zero]
  exact .inl (by norm_num)

theorem roundHalfEven_le (h : q ≤ n) : roundHalfEven q ≤ n := by
  have hd := abs_le.1 (isHalfEven_roundHalfEven q).error_le_half
  have hlt : (roundHalfEven q : Rat) < (n + 1 : Int) := by
    push_cast
    linarith
  exact Int.lt_add_one_iff.1 (Int.cast_lt.1 hlt)

theorem le_roundHalfEven (h : n ≤ q) : n ≤ roundHalfEven q := by
  have hd := abs_le.1 (isHalfEven_roundHalfEven q).error_le_half
  have hlt : (n : Rat) < (roundHalfEven q + 1 : Int) := by
    push_cast
    linarith
  exact Int.lt_add_one_iff.1 (Int.cast_lt.1 hlt)

theorem le_roundHalfEven_of_even (hn : n % 2 = 0) (h : n - 1 / 2 ≤ q) : n ≤ roundHalfEven q := by
  by_contra hlt
  have hle : ((roundHalfEven q : Int) : Rat) ≤ (n - 1 : Int) := by
    exact_mod_cast Int.le_sub_one_of_lt (not_le.1 hlt)
  have herror := le_abs_self (q - roundHalfEven q)
  push_cast at hle
  obtain hnear | ⟨heq, heven⟩ := isHalfEven_roundHalfEven q
  · linarith
  · have hge : ((n - 1 : Int) : Rat) ≤ roundHalfEven q := by
      push_cast
      linarith
    have hge' := Int.cast_le.1 hge
    omega

theorem abs_sub_roundHalfEven_le (q : Rat) (n : Int) : |q - roundHalfEven q| ≤ |q - n| := by
  obtain rfl | hn := eq_or_ne n (roundHalfEven q)
  · exact le_refl _
  · have hone := one_le_add_error q hn
    have hd := (isHalfEven_roundHalfEven q).error_le_half
    linarith

end Calculator
