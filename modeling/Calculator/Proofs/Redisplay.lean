import Calculator.Proofs.Answers
import Calculator.Proofs.Literals

namespace Calculator

variable {q : Rat} {m m' : Magnitude} {places : Nat} {text : List Char}

theorem readTokens_numeral {text : String} (hn : text.toList ≠ [])
    (h : ∀ c ∈ text.toList, Numeral.isNumeric c) (hw : Numeral.isWellFormed text.toList) :
    readTokens text = .ok [⟨.number (.nearest (Numeral.toRat text.toList) false), 0⟩] :=
  readTokens_eq_ok_iff.2
    ⟨validate_of_permitted fun c hc => isPermitted_of_isNumeric (h c hc), tokenize_numeral hn h hw⟩

namespace Magnitude

theorem toRat_nonneg (m : Magnitude) : 0 ≤ m.toRat :=
  mul_nonneg (Nat.cast_nonneg _) (two_zpow_pos _).le

def shown (m : Magnitude) (places : Nat) : Rat :=
  roundHalfEven (m.toRat * 10 ^ places) / 10 ^ places

theorem toRat_fixed (m : Magnitude) (places : Nat) :
    Numeral.toRat (m.fixed places) = m.shown places := by
  have hnonneg : 0 ≤ roundHalfEven (m.toRat * 10 ^ places) :=
    le_roundHalfEven (by exact_mod_cast mul_nonneg m.toRat_nonneg (by positivity))
  have hcast : ((roundHalfEven (m.toRat * 10 ^ places)).toNat : Rat) =
      roundHalfEven (m.toRat * 10 ^ places) := by
    exact_mod_cast Int.toNat_of_nonneg hnonneg
  rw [(m.isPositional_fixed places).toRat, hcast, shown]

theorem shown_nonneg (m : Magnitude) (places : Nat) : 0 ≤ m.shown places := by
  rw [← toRat_fixed, (m.isPositional_fixed places).toRat]
  positivity

theorem abs_shown_sub (m : Magnitude) (places : Nat) (q : Rat) :
    |q * 10 ^ places - roundHalfEven (m.toRat * 10 ^ places)| =
      |m.shown places - q| * 10 ^ places := by
  have hpos : (0 : Rat) < 10 ^ places := by positivity
  rw [shown, abs_sub_comm, ← abs_of_pos hpos, ← abs_mul, abs_of_pos hpos, sub_mul,
    div_mul_cancel₀ _ hpos.ne']

theorem abs_shown_sub_toRat_le (m : Magnitude) (places : Nat) :
    |m.shown places - m.toRat| ≤ 1 / 2 := by
  have herror := (isHalfEven_roundHalfEven (m.toRat * 10 ^ places)).error_le_half
  rw [abs_shown_sub] at herror
  calc
    |m.shown places - m.toRat| ≤ |m.shown places - m.toRat| * 10 ^ places :=
      le_mul_of_one_le_right (abs_nonneg _) (one_le_pow₀ (by norm_num))
    _ ≤ 1 / 2 := herror

/-- What is as near to the text as its own magnitude is shown by the same text. -/
theorem fixed_of_nearer (h : |m.shown places - m'.toRat| ≤ |m.shown places - m.toRat|) :
    m'.fixed places = m.fixed places := by
  apply fixed_congr
  rw [roundHalfEven_eq_iff]
  apply (isHalfEven_roundHalfEven (m.toRat * 10 ^ places)).of_nearer
  rw [abs_shown_sub, abs_shown_sub]
  exact mul_le_mul_of_nonneg_right h (by positivity)

theorem shown_lt_overflowThreshold (m : Magnitude) (places : Nat) :
    m.shown places < overflowThreshold := by
  have herror := (abs_le.1 (m.abs_shown_sub_toRat_le places)).2
  have hunit : (1 : Rat) ≤ 2 ^ (970 : Int) := one_le_zpow₀ (by norm_num) (by decide)
  calc
    m.shown places ≤ m.toRat + 1 / 2 := by linarith
    _ ≤ 0x1fffffffffffff * 2 ^ (970 + 1 : Int) + 1 / 2 := by linarith [m.toRat_le]
    _ < 0x3fffffffffffff * 2 ^ (970 : Int) := by
      rw [two_zpow_add, zpow_one]
      generalize (2 : Rat) ^ (970 : Int) = unit at *
      linarith

/-- The magnitude that the text reads back as, which need not be the one shown. -/
theorem exists_nearest?_shown (m : Magnitude) (places : Nat) :
    ∃ m', nearest? (m.shown places) = some m' ∧ m'.fixed places = m.fixed places := by
  have hnonneg := m.shown_nonneg places
  obtain ⟨m', hm'⟩ := exists_nearest?_of_lt hnonneg (m.shown_lt_overflowThreshold places)
  exact ⟨m', hm', fixed_of_nearer (abs_sub_le_of_nearest? hnonneg hm' m)⟩

end Magnitude

theorem Binary64.nearest_of_nonneg (hq : 0 ≤ q) (h : Magnitude.nearest? q = some m) :
    nearest q false = .finite false m := by
  rw [nearest_eq_elim hq, h, Option.elim_some]

namespace Session

theorem format?_of_fixed {s : Session} (hp : s.precision ≤ maxPrecision) {text : String}
    (h : text.toList = m.fixed s.precision) : s.format? (.finite false m) = some text := by
  rw [format?, if_pos hp, ← String.ofList_toList (s := text), h]
  rfl

/-- The text of a value without a sign is a numeral. Typed in, it is answered by itself, whatever
number it is read as. -/
theorem answer_format {s : Session} (hp : s.precision ≤ maxPrecision) (m : Magnitude) :
    ∃ text x, s.format? (.finite false m) = some text ∧
      Numeral.toRat text.toList = m.shown s.precision ∧
      Numeral.isWellFormed text.toList ∧ readTokens text = .ok [⟨.number x, 0⟩] ∧
      evaluate text = .ok x ∧ s.format? x = some text ∧
      (s.isExit text = false → ∀ v, (s.answer text).value v = .value text) := by
  obtain ⟨text, htext⟩ : ∃ text : String, text.toList = m.fixed s.precision :=
    ⟨_, String.toList_ofList⟩
  have hpos : IsPositional _ _ text.toList := htext ▸ m.isPositional_fixed s.precision
  have hshown : Numeral.toRat text.toList = m.shown s.precision := by rw [htext, m.toRat_fixed]
  obtain ⟨m', hm', hfixed⟩ := m.exists_nearest?_shown s.precision
  have hread := readTokens_numeral hpos.ne_nil hpos.numeric hpos.isWellFormed
  rw [hshown, Binary64.nearest_of_nonneg (m.shown_nonneg _) hm'] at hread
  have heval : evaluate text = .ok (.finite false m') := evaluate_eq_ok_iff.2 ⟨_, hread, rfl⟩
  have hformat := format?_of_fixed hp htext
  have hback := format?_of_fixed hp (htext.trans hfixed.symm)
  refine ⟨text, _, hformat, hshown, hpos.isWellFormed, hread, heval, hback, ?_⟩
  intro he v
  rw [value_answer, outcome_of_ok he heval hback]

/-- Half a unit: 2.5 is shown without decimals as 2, and 2 as itself. -/
theorem answer_format_half :
    let s : Session := { precision := 0 }
    let half : Magnitude := ⟨0x14000000000000, -51, by decide⟩
    half.toRat = 5 / 2 ∧ s.precision ≤ maxPrecision ∧ s.format? (.finite false half) = some "2" ∧
      s.isExit "2" = false ∧ evaluate "2" ≠ .ok (.finite false half) ∧
      ∀ v, (s.answer "2").value v = .value "2" := by
  intro s half
  have hformat : s.format? (.finite false half) = some "2" := by decide +kernel
  have hexit : s.isExit "2" = false := by decide +kernel
  have heval : evaluate "2" ≠ .ok (.finite false half) := by decide +kernel
  obtain ⟨text, x, hf, _, _, _, _, _, hanswer⟩ := answer_format (s := s) (by decide) half
  obtain rfl := Option.some.inj (hf.symm.trans hformat)
  exact ⟨by decide +kernel, by decide, hformat, hexit, heval, hanswer hexit⟩

end Session

end Calculator
