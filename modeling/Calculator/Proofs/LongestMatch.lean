import Calculator.Proofs.Gaps
import Calculator.Token.Spelling
import Mathlib.Logic.Basic

namespace Calculator

theorem Lexeme.ofChar?_of_symbol? {t : Token} (h : t.symbol? = some c) :
    ofChar? c = some (.token t) ∧ Numeral.isNumeric c = false := by
  cases t with
  | number x => cases h
  | blank => cases h
  | openParen =>
    cases h
    exact ⟨rfl, rfl⟩
  | closeParen =>
    cases h
    exact ⟨rfl, rfl⟩
  | operator op =>
    cases h
    cases op <;> exact ⟨rfl, rfl⟩

theorem exists_symbol?_iff :
    (∃ t : Token, t.symbol? = some c) ↔ c ∈ ['+', '-', '*', '/', '(', ')'] := by
  constructor
  · rintro ⟨t, ht⟩
    cases t with
    | number x => cases ht
    | blank => cases ht
    | openParen =>
      cases ht
      decide
    | closeParen =>
      cases ht
      decide
    | operator op =>
      cases ht
      cases op <;> decide
  · intro h
    simp only [List.mem_cons, List.not_mem_nil, or_false] at h
    obtain rfl | rfl | rfl | rfl | rfl | rfl := h
    · exact ⟨.operator .add, rfl⟩
    · exact ⟨.operator .sub, rfl⟩
    · exact ⟨.operator .mul, rfl⟩
    · exact ⟨.operator .div, rfl⟩
    · exact ⟨.openParen, rfl⟩
    · exact ⟨.closeParen, rfl⟩

namespace Pattern

theorem matches_numeral_iff :
    numeral.Matches word ↔ word ≠ [] ∧ ∀ c ∈ word, Numeral.isNumeric c := by
  simp only [Matches, Numeral.isNumeric, Bool.or_eq_true, beq_iff_eq]

theorem matches_gap_iff : gap.Matches word ↔ word ≠ [] ∧ ∀ c ∈ word, isBlank c := by
  have hc (c : Char) : c ∈ [' ', '\t', '\r', '\n', '\x0c', '\x0b'] ↔ isBlank c := by
    simp [isBlank]
    tauto
  simp only [Matches, hc]

theorem numeral_matches_singleton : numeral.Matches [c] ↔ Numeral.isNumeric c := by
  simp [matches_numeral_iff]

theorem gap_matches_singleton : gap.Matches [c] ↔ isBlank c := by
  simp [matches_gap_iff]

theorem symbol_matches_singleton {t : Token} : (symbol t).Matches [c] ↔ t.symbol? = some c := by
  simp [Matches]

theorem ne_nil_of_matches {p : Pattern} (h : p.Matches word) : word ≠ [] := by
  cases p with
  | numeral => exact h.1
  | gap => exact h.1
  | symbol token =>
    obtain ⟨c, _, rfl⟩ := h
    exact List.cons_ne_nil c []

end Pattern

theorem isForeign_iff_other :
    IsForeign c ↔ Numeral.isNumeric c = false ∧ isBlank c = false ∧
      ¬ ∃ t : Token, t.symbol? = some c := by
  constructor
  · intro h
    refine ⟨?_, ?_, ?_⟩
    · exact Bool.eq_false_iff.2 fun hc => h .numeral (Pattern.numeral_matches_singleton.2 hc)
    · exact Bool.eq_false_iff.2 fun hc => h .gap (Pattern.gap_matches_singleton.2 hc)
    · rintro ⟨t, ht⟩
      exact h (.symbol t) (Pattern.symbol_matches_singleton.2 ht)
  · rintro ⟨hn, hb, hs⟩ p hm
    cases p with
    | numeral => exact Bool.eq_false_iff.1 hn (Pattern.numeral_matches_singleton.1 hm)
    | gap => exact Bool.eq_false_iff.1 hb (Pattern.gap_matches_singleton.1 hm)
    | symbol t => exact hs ⟨t, Pattern.symbol_matches_singleton.1 hm⟩

theorem isForeign_iff : IsForeign c ↔ isPermitted c = false := by
  rw [isForeign_iff_other, exists_symbol?_iff]
  simp only [isPermitted, Numeral.isNumeric, Bool.or_eq_false_iff, List.contains_eq_mem,
    decide_eq_false_iff_not, beq_eq_false_iff_ne, List.mem_cons, List.not_mem_nil, or_false, not_or]
  tauto

theorem IsForeign.isNumeric (h : IsForeign c) : Numeral.isNumeric c = false :=
  (isForeign_iff_other.1 h).1

theorem IsForeign.ofChar? (h : IsForeign c) :
    Lexeme.ofChar? c = some (.unexpectedCharacter c) := by
  obtain ⟨_, hb, hs⟩ := isForeign_iff_other.1 h
  have hopen : c ≠ '(' := fun he => hs ⟨.openParen, congrArg some he.symm⟩
  have hclose : c ≠ ')' := fun he => hs ⟨.closeParen, congrArg some he.symm⟩
  have hoperator : Operator.ofSymbol? c = none := by
    rw [Option.eq_none_iff_forall_ne_some]
    intro op hop
    exact hs ⟨.operator op, congrArg some (Operator.symbol_of_ofSymbol? hop)⟩
  simp only [Lexeme.ofChar?, hb, hopen, hclose, hoperator, Bool.false_eq_true, ↓reduceIte]

theorem IsLongest.isRun (hl : IsLongest word rest) (h : Pattern.numeral.Matches word) :
    IsRun [] word rest := by
  obtain ⟨hne, hn⟩ := Pattern.matches_numeral_iff.1 h
  refine ⟨hne, hn, ?_, ?_⟩
  · intro c hc
    cases hc
  · intro c hc
    obtain ⟨behind, rfl⟩ := List.head?_eq_some_iff.1 hc
    rw [← Bool.not_eq_true]
    intro hnc
    have hm : Pattern.numeral.Matches (word ++ [c]) := by
      refine Pattern.matches_numeral_iff.2 ⟨by simp, fun d hd => ?_⟩
      obtain hd | hd := List.mem_append.1 hd
      · exact hn d hd
      · exact List.mem_singleton.1 hd ▸ hnc
    have hlen := hl .numeral (word ++ [c]) behind (by simp) hm
    rw [List.length_append, List.length_singleton] at hlen
    exact absurd hlen (Nat.not_succ_le_self _)

theorem Scan.eq_lexemesFrom (h : Scan start text entries) :
    entries = lexemesFrom start (pieces text) := by
  induction h with
  | done start => rfl
  | @lexeme word rest lexeme start entries p hm hl he _ ih =>
    cases p with
    | numeral =>
      cases he
      rw [ih, lexemesFrom_run (hl.isRun hm)]
    | symbol token =>
      cases he
      obtain ⟨c, hc, rfl⟩ := hm
      obtain ⟨hx, hn⟩ := Lexeme.ofChar?_of_symbol? hc
      rw [ih, List.singleton_append, lexemesFrom_char hn hx]
      rfl
    | gap => cases he
  | @gap word rest start entries p hm _ he _ ih =>
    cases p with
    | numeral => cases he
    | symbol token => cases he
    | gap => rw [ih, lexemesFrom_gap (Pattern.matches_gap_iff.1 hm).2]
  | @unexpected c rest start entries hnone _ ih =>
    have hforeign : IsForeign c := fun p => hnone p [c] rest rfl
    rw [ih, lexemesFrom_char hforeign.isNumeric hforeign.ofChar?]

theorem exists_isLongest {p : Pattern} (h : p.Matches word) (rest : List Char) :
    ∃ (q : Pattern) (longest behind : List Char), word ++ rest = longest ++ behind ∧
      q.Matches longest ∧ IsLongest longest behind := by
  induction hn : rest.length using Nat.strongRecOn generalizing p word rest with
  | ind n ih =>
    by_cases hl : IsLongest word rest
    · exact ⟨p, word, rest, rfl, h, hl⟩
    · simp only [IsLongest, not_forall, Nat.not_le] at hl
      obtain ⟨q, longer, behind, he, hm, hlt⟩ := hl
      have hlength := congrArg List.length he
      rw [List.length_append, List.length_append] at hlength
      obtain ⟨r, longest, behind', he', hm', hl'⟩ := ih behind.length (by omega) hm behind rfl
      exact ⟨r, longest, behind', he.trans he', hm', hl'⟩

theorem exists_scan (start : Nat) (text : List Char) : ∃ entries, Scan start text entries := by
  induction hn : text.length using Nat.strongRecOn generalizing start text with
  | ind n ih =>
    by_cases hw : ∃ (p : Pattern) (word rest : List Char), text = word ++ rest ∧ p.Matches word
    · obtain ⟨p, word, rest, rfl, hm⟩ := hw
      obtain ⟨q, longest, behind, he, hq, hl⟩ := exists_isLongest hm rest
      rw [he] at hn ⊢
      have hpos := List.length_pos_of_ne_nil (Pattern.ne_nil_of_matches hq)
      rw [List.length_append] at hn
      obtain ⟨entries, hs⟩ := ih behind.length (by omega) (start + Text.width longest) behind rfl
      cases hx : q.lexeme? longest with
      | none => exact ⟨entries, .gap hq hl hx hs⟩
      | some lexeme => exact ⟨_, .lexeme hq hl hx hs⟩
    · obtain _ | ⟨c, rest⟩ := text
      · exact ⟨[], .done start⟩
      · rw [List.length_cons] at hn
        obtain ⟨entries, hs⟩ := ih rest.length (by omega) (start + c.utf8Size) rest rfl
        exact ⟨_, .unexpected (fun p word behind he hm => hw ⟨p, word, behind, he, hm⟩) hs⟩

/-- The rule of the longest match yields the lexemes of a text, and nothing else. -/
theorem scan_iff : Scan start text entries ↔ entries = lexemesFrom start (pieces text) := by
  refine ⟨Scan.eq_lexemesFrom, ?_⟩
  rintro rfl
  obtain ⟨entries, h⟩ := exists_scan start text
  exact h.eq_lexemesFrom ▸ h

end Calculator
