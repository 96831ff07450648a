import Calculator.Proofs.NearestEven
import Calculator.Proofs.Numerals
import Calculator.Proofs.Pieces

namespace Calculator

variable {text : List Char}

namespace Numeral

theorem toRat_nonneg (text : List Char) : 0 ≤ toRat text :=
  div_nonneg (Nat.cast_nonneg _) (by positivity)

theorem toRat_of_parts (h : '.' ∉ whole) (decimals : List Char) :
    toRat (whole ++ '.' :: decimals) = Nat.ofDigitChars 10 whole 0 +
      (Nat.ofDigitChars 10 decimals 0 : Rat) / 10 ^ decimals.length := by
  have hpos : (10 : Rat) ^ decimals.length ≠ 0 := by positivity
  rw [toRat_append_cons h, Nat.ofDigitChars_append, Nat.ofDigitChars_eq_ofDigitChars_zero]
  push_cast
  rw [add_div, mul_div_cancel_left₀ _ hpos]

theorem toRat_zeros_append (k : Nat) (text : List Char) :
    toRat (List.replicate k '0' ++ text) = toRat text := by
  have hzeros : '.' ∉ List.replicate k '0' := point_notMem_of_digits fun _ => isDigit_of_mem_zeros
  have hvalue (digits : List Char) : Nat.ofDigitChars 10 (List.replicate k '0' ++ digits) 0 =
      Nat.ofDigitChars 10 digits 0 := by
    rw [Nat.ofDigitChars_append, Nat.ofDigitChars_replicate_zero, Nat.mul_zero]
  by_cases hp : '.' ∈ text
  · obtain ⟨whole, decimals, rfl, hw⟩ := List.eq_append_cons_of_mem hp
    have hfront : '.' ∉ List.replicate k '0' ++ whole := by
      rw [List.mem_append]
      exact not_or.2 ⟨hzeros, hw⟩
    rw [← List.append_assoc, toRat_append_cons hfront, toRat_append_cons hw, List.append_assoc,
      hvalue]
  · have hall : '.' ∉ List.replicate k '0' ++ text := by
      rw [List.mem_append]
      exact not_or.2 ⟨hzeros, hp⟩
    rw [toRat_of_notMem hall, toRat_of_notMem hp, hvalue]

theorem toRat_append_zeros (h : '.' ∈ text) (k : Nat) :
    toRat (text ++ List.replicate k '0') = toRat text := by
  obtain ⟨whole, decimals, rfl, hw⟩ := List.eq_append_cons_of_mem h
  have hpos : (10 : Rat) ^ k ≠ 0 := by positivity
  rw [List.append_assoc, List.cons_append, toRat_append_cons hw, toRat_append_cons hw,
    ← List.append_assoc, Nat.ofDigitChars_append, Nat.ofDigitChars_replicate_zero,
    List.length_append, List.length_replicate, Nat.add_comm, pow_add]
  push_cast
  exact mul_div_mul_left _ _ hpos

theorem toRat_append_point (h : '.' ∉ text) : toRat (text ++ ['.']) = toRat text := by
  rw [toRat_append_cons h, toRat_of_notMem h, List.append_nil, List.length_nil, pow_zero, div_one]

theorem isNumeric_iff : isNumeric c ↔ c.isDigit ∨ c = '.' := by
  rw [isNumeric, Bool.or_eq_true, beq_iff_eq]

end Numeral

section Reading

variable (hn : text ≠ []) (h : ∀ c ∈ text, Numeral.isNumeric c)
include hn h

theorem tokenize_numeral (hw : Numeral.isWellFormed text) :
    tokenize text = .ok [⟨.number (.nearest (Numeral.toRat text) false), 0⟩] := by
  rw [tokenize, lexemes_of_numeric hn h, Lexeme.ofNumeral_of_isWellFormed hw]
  rfl

theorem tokenize_malformed (hw : Numeral.isWellFormed text = false) :
    tokenize text = .error (.malformedNumber (.ofList text) 0) := by
  rw [tokenize, lexemes_of_numeric hn h, Lexeme.ofNumeral_of_not_isWellFormed hw]
  rfl

theorem isWellFormed_iff_tokenize :
    Numeral.isWellFormed text ↔ ∃ x, tokenize text = .ok [⟨.number x, 0⟩] := by
  constructor
  · intro hw
    exact ⟨_, tokenize_numeral hn h hw⟩
  · rintro ⟨x, hx⟩
    cases hw : Numeral.isWellFormed text with
    | true => rfl
    | false =>
      rw [tokenize_malformed hn h hw] at hx
      cases hx

end Reading

/-- A text of digits and points that is read as one number. -/
structure IsLiteral (text : List Char) (x : Binary64) : Prop where
  numeric : ∀ c ∈ text, c.isDigit ∨ c = '.'
  read : tokenize text = .ok [⟨.number x, 0⟩]

theorem IsLiteral.eq_nearest (h : IsLiteral text x) : x = .nearest (Numeral.toRat text) false := by
  have hn : text ≠ [] := by
    rintro rfl
    cases h.read
  have hnumeric : ∀ c ∈ text, Numeral.isNumeric c :=
    fun c hc => Numeral.isNumeric_iff.2 (h.numeric c hc)
  have hw := (isWellFormed_iff_tokenize hn hnumeric).2 ⟨x, h.read⟩
  have hread := (tokenize_numeral hn hnumeric hw).symm.trans h.read
  cases hread
  rfl

theorem forall_numeric (h : text.all Numeral.isNumeric) : ∀ c ∈ text, c.isDigit ∨ c = '.' :=
  fun c hc => Numeral.isNumeric_iff.1 (List.all_eq_true.1 h c hc)

/-- Digits with at most one point are read as the number that the rational they denote is rounded
to, and any other text of digits and points is malformed. What is read depends on the rational
alone and grows with it. -/
theorem tokenize_literal :
    (∀ text : List Char, text ≠ [] → (∀ c ∈ text, c.isDigit ∨ c = '.') →
      ((∃ x, tokenize text = .ok [⟨.number x, 0⟩]) ↔
        (∃ c ∈ text, c.isDigit) ∧ text.count '.' ≤ 1) ∧
      (¬ (∃ x, tokenize text = .ok [⟨.number x, 0⟩]) →
        tokenize text = .error (.malformedNumber (.ofList text) 0))) ∧
    (∀ text x, IsLiteral text x →
      (∀ y, Binary64.RoundsTo (Numeral.toRat text) y ↔ y = x) ∧
        ((∃ m, x = .finite false m) ∨ x = .infinity false)) ∧
    (∀ text text' x x', IsLiteral text x → IsLiteral text' x' →
      (Numeral.toRat text = Numeral.toRat text' → x = x') ∧
        (Numeral.toRat text ≤ Numeral.toRat text' → x.Le x')) ∧
    (∀ whole decimals, '.' ∉ whole →
      Numeral.toRat whole = Nat.ofDigitChars 10 whole 0 ∧
        Numeral.toRat (whole ++ '.' :: decimals) = Nat.ofDigitChars 10 whole 0 +
          (Nat.ofDigitChars 10 decimals 0 : Rat) / 10 ^ decimals.length) ∧
    ∀ text k, Numeral.toRat (List.replicate k '0' ++ text) = Numeral.toRat text ∧
      ('.' ∈ text → Numeral.toRat (text ++ List.replicate k '0') = Numeral.toRat text) ∧
      ('.' ∉ text → Numeral.toRat (text ++ ['.']) = Numeral.toRat text) := by
  refine ⟨?_, ?_, ?_, ?_, ?_⟩
  · intro text hn h
    have hnumeric : ∀ c ∈ text, Numeral.isNumeric c := fun c hc => Numeral.isNumeric_iff.2 (h c hc)
    have hiff := isWellFormed_iff_tokenize hn hnumeric
    refine ⟨hiff.symm.trans Numeral.isWellFormed_iff, ?_⟩
    intro hx
    rw [← hiff, Bool.not_eq_true] at hx
    exact tokenize_malformed hn hnumeric hx
  · intro text x h
    have hq := Numeral.toRat_nonneg text
    obtain rfl := h.eq_nearest
    exact ⟨fun y => Binary64.roundsTo_iff hq, (Binary64.roundsTo_nearest hq).finite_or_infinite⟩
  · intro text text' x x' h h'
    obtain rfl := h.eq_nearest
    obtain rfl := h'.eq_nearest
    constructor
    · intro he
      rw [he]
    · intro hle
      exact Binary64.nearest_mono (Numeral.toRat_nonneg text) hle
  · intro whole decimals hw
    exact ⟨Numeral.toRat_of_notMem hw, Numeral.toRat_of_parts hw decimals⟩
  · intro text k
    exact ⟨Numeral.toRat_zeros_append k text, fun h => Numeral.toRat_append_zeros h k,
      Numeral.toRat_append_point⟩

/-- A tie goes down to the even significand, zeros at either end change nothing, and two points
are one too many. -/
theorem tokenize_literal_ties :
    let tie : Binary64 := .finite false ⟨0x10000000000000, 1, by decide⟩
    let half : Binary64 := .finite false ⟨0x10000000000000, -53, by decide⟩
    IsLiteral "9007199254740993".toList tie ∧ Binary64.RoundsTo 9007199254740993 tie ∧
      IsLiteral ".5".toList half ∧ IsLiteral "00.500".toList half ∧
      Numeral.toRat "00.500".toList = Numeral.toRat ".5".toList ∧ half.Le tie ∧
      tokenize "1.2.3".toList = .error (.malformedNumber "1.2.3" 0) := by
  intro tie half
  obtain ⟨hread, hround, hmono, hparts, hzeros⟩ := tokenize_literal
  have htie : IsLiteral "9007199254740993".toList tie :=
    ⟨forall_numeric rfl, by decide +kernel⟩
  have hshort : IsLiteral ".5".toList half := ⟨forall_numeric rfl, by decide +kernel⟩
  have hlong : IsLiteral "00.500".toList half := ⟨forall_numeric rfl, by decide +kernel⟩
  have hvalue : Numeral.toRat "9007199254740993".toList = 9007199254740993 :=
    (hparts "9007199254740993".toList [] (by decide)).1.trans (by decide +kernel)
  have hsame : Numeral.toRat "00.500".toList = Numeral.toRat ".5".toList :=
    ((hzeros ".500".toList 2).1).trans ((hzeros ".5".toList 2).2.1 (by decide))
  have hle : Numeral.toRat ".5".toList ≤ Numeral.toRat "9007199254740993".toList := by
    decide +kernel
  have hmalformed := hread "1.2.3".toList (by decide) (forall_numeric rfl)
  refine ⟨htie, ?_, hshort, hlong, hsame, (hmono _ _ _ _ hshort htie).2 hle, hmalformed.2 ?_⟩
  · rw [← hvalue]
    exact ((hround _ _ htie).1 tie).2 rfl
  · rw [hmalformed.1]
    exact fun h => absurd h.2 (by decide)

end Calculator
