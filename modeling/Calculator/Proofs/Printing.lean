import Calculator.Proofs.LongestMatch
import Calculator.Token.Spelling

namespace Calculator

theorem Numeral.ne_nil_of_isWellFormed (h : isWellFormed text) : text ≠ [] := by
  rintro rfl
  cases h

namespace Spelling

theorem symbol_cases (s : Spelling) :
    s.isNumeral ∨ ∃ c, s.text = [c] ∧ s.token.symbol? = some c := by
  cases s with
  | numeral text => exact .inl rfl
  | operator op => exact .inr ⟨op.symbol, rfl, rfl⟩
  | openParen => exact .inr ⟨'(', rfl, rfl⟩
  | closeParen => exact .inr ⟨')', rfl, rfl⟩

/-- A written token is read as itself, unless a numeral goes on behind it. -/
theorem lexemesFrom_text {s : Spelling} (hv : s.IsValid)
    (ha : s.isNumeral → ∀ c ∈ after.head?, Numeral.isNumeric c = false) (start : Nat) :
    lexemesFrom start (pieces (s.text ++ after)) =
      ⟨.token s.token, start, start + Text.width s.text⟩ ::
        lexemesFrom (start + Text.width s.text) (pieces after) := by
  obtain hn | ⟨c, hc, ht⟩ := s.symbol_cases
  · cases s with
    | operator op => cases hn
    | openParen => cases hn
    | closeParen => cases hn
    | numeral text =>
      have hrun : IsRun [] text after := by
        refine ⟨Numeral.ne_nil_of_isWellFormed hv.2, List.all_eq_true.1 hv.1, ?_, ha hn⟩
        intro c hc
        cases hc
      rw [Spelling.text, lexemesFrom_run hrun, Lexeme.ofNumeral_of_isWellFormed hv.2]
      rfl
  · obtain ⟨hx, hn⟩ := Lexeme.ofChar?_of_symbol? ht
    rw [hc, List.singleton_append, lexemesFrom_char hn hx]
    rfl

end Spelling

namespace Spaced

variable {row : Spaced} {ending gap : List Char} {s : Spelling}

theorem text_cons (gap : List Char) (s : Spelling) (row : Spaced) (ending : List Char) :
    text ((gap, s) :: row) ending = gap ++ (s.text ++ row.text ending) := by
  simp only [text, List.flatMap_cons, List.append_assoc]

theorem IsSeparated.blank (h : IsSeparated ((gap, s) :: row)) : ∀ c ∈ gap, isBlank c := by
  cases row with
  | nil => exact List.all_eq_true.1 h
  | cons next row => exact List.all_eq_true.1 h.1

theorem IsSeparated.tail (h : IsSeparated ((gap, s) :: row)) : row.IsSeparated := by
  cases row with
  | nil => trivial
  | cons next row => exact h.2.2

theorem IsSeparated.head? (h : IsSeparated ((gap, s) :: row)) (he : ∀ c ∈ ending, isBlank c)
    (hn : s.isNumeral) : ∀ c ∈ (row.text ending).head?, Numeral.isNumeric c = false := by
  intro c hc
  cases row with
  | nil =>
    rw [text, List.flatMap_nil, List.nil_append] at hc
    exact isNumeric_of_isBlank (he c (List.mem_of_head? hc))
  | cons next row =>
    obtain ⟨between, second⟩ := next
    rw [text_cons] at hc
    cases between with
    | cons b between =>
      cases hc
      exact isNumeric_of_isBlank (h.tail.blank c List.mem_cons_self)
    | nil =>
      obtain hs | ⟨d, hd, ht⟩ := second.symbol_cases
      · exact absurd rfl (h.2.1 hn hs)
      · rw [hd] at hc
        cases hc
        exact (Lexeme.ofChar?_of_symbol? ht).2

theorem map_lexemesFrom_text (hv : ∀ p ∈ row, p.2.IsValid) (hs : row.IsSeparated)
    (he : ∀ c ∈ ending, isBlank c) (start : Nat) :
    (lexemesFrom start (pieces (row.text ending))).map Spanned.token =
      (row.tokens start).map .ok := by
  induction row generalizing start with
  | nil =>
    have hgap := lexemesFrom_gap he start []
    rw [List.append_nil] at hgap
    rw [text, List.flatMap_nil, List.nil_append, hgap]
    rfl
  | cons p row ih =>
    obtain ⟨gap, s⟩ := p
    obtain ⟨hp, hrow⟩ := List.forall_mem_cons.1 hv
    rw [text_cons, lexemesFrom_gap hs.blank, Spelling.lexemesFrom_text hp (hs.head? he),
      List.map_cons, ih hrow hs.tail]
    rfl

/-- Tokens that are written with gaps between them, of which adjacent numerals need one, are read
as themselves, each at the place where it is written. -/
theorem tokenize_text (hv : ∀ p ∈ row, p.2.IsValid) (hs : row.IsSeparated)
    (he : ending.all isBlank) : tokenize (row.text ending) = .ok (row.tokens 0) := by
  rw [tokenize, mapM_eq_ok_iff, lexemes_eq]
  exact map_lexemesFrom_text hv hs (List.all_eq_true.1 he) 0

theorem tokenize_text_points :
    let row : Spaced := [([], .numeral "1.".toList), (['\x0b'], .numeral ".5".toList),
      ([], .operator .mul), ([], .openParen), ([' ', '\t'], .numeral "007.5".toList)]
    (∀ p ∈ row, p.2.IsValid) ∧ row.IsSeparated ∧ row.text ['\n'] = "1.\x0b.5*( \t007.5\n".toList ∧
      tokenize "1.\x0b.5*( \t007.5\n".toList = .ok [⟨.number (.nearest 1 false), 0⟩,
        ⟨.number (.nearest (1 / 2) false), 3⟩, ⟨.operator .mul, 5⟩, ⟨.openParen, 6⟩,
        ⟨.number (.nearest (15 / 2) false), 9⟩] := by
  intro row
  have hv : ∀ p ∈ row, p.2.IsValid := by decide +kernel
  have hs : row.IsSeparated := by decide +kernel
  have htext : row.text ['\n'] = "1.\x0b.5*( \t007.5\n".toList := by decide +kernel
  have htokens : row.tokens 0 = [⟨.number (.nearest 1 false), 0⟩,
      ⟨.number (.nearest (1 / 2) false), 3⟩, ⟨.operator .mul, 5⟩, ⟨.openParen, 6⟩,
      ⟨.number (.nearest (15 / 2) false), 9⟩] := by decide +kernel
  have h : tokenize (row.text ['\n']) = _ := tokenize_text hv hs (by decide)
  rw [htext, htokens] at h
  exact ⟨hv, hs, htext, h⟩

end Spaced

end Calculator
