import Calculator.Error
import Calculator.Evaluation
import Calculator.Proofs.LongestMatch
import Calculator.Proofs.Provenance
import Calculator.Proofs.Unmatched
import Mathlib.Data.String.Basic

namespace Calculator

theorem Text.get_width {text : String} (h : text.toList = before ++ c :: after) :
    String.Pos.Raw.get text ⟨width before⟩ = c := by
  have hw : width before = String.utf8Len before := by
    rw [width_eq_utf8ByteSize, String.utf8ByteSize_ofList]
  rw [← String.ofList_toList (s := text), h, hw, String.get_of_valid]
  rfl

/-- A numeric run that is no numeral, while every run before it is one. -/
structure FirstMalformed (before run after : List Char) : Prop extends
    IsRun before run after where
  malformed : (∀ c ∈ run, ¬ c.isDigit) ∨ 1 < run.count '.'
  earlier : ∀ front other back, before ++ run ++ after = front ++ other ++ back →
    IsRun front other back → front.length < before.length → Numeral.isWellFormed other

/-- A text bears an error out that points at its character `c`, between `before` and `after`. -/
def Error.Blames (before : List Char) (c : Char) (after : List Char) : Error → Prop
  | .read (.invalidCharacter character _) =>
    c = character ∧ isPermitted c = false ∧ ∀ b ∈ before, isPermitted b
  | .read (.malformedNumber literal _) =>
    ∃ run rest, c :: after = run ++ rest ∧ literal = .ofList run ∧ FirstMalformed before run rest
  | .eval (.mismatchedParenthesis _) => c = '(' ∨ c = ')'
  | .eval (.missingOperand op _) => c = op.symbol
  | .eval (.divisionByZero _) => c = '/'
  | .eval .emptyExpression | .eval (.unjoinedValues _) => False

theorem exists_symbol_of_mem_tokenize (h : tokenize text = .ok tokens) (ht : t ∈ tokens)
    (hs : t.value.symbol? = some c) :
    ∃ before after, text = before ++ c :: after ∧ t.offset = Text.width before := by
  obtain ⟨l, hl, hlt⟩ := exists_of_mem_mapM h ht
  obtain ⟨hv, ho⟩ := Spanned.token_eq_ok hlt
  rw [lexemes_eq] at hl
  obtain ⟨front, p, back, hp, hx, hstart, _⟩ := mem_lexemesFrom_iff.1 hl
  rw [hv] at hx
  obtain ⟨d, rest, rfl, hx⟩ := Lexeme.ofPiece?_eq_some hx
  have hd : d = c := by
    obtain ⟨_, _, x, he⟩ | ⟨_, _, he⟩ | ⟨u, he, hu⟩ | ⟨he, _⟩ := hx
    · rw [Lexeme.token.inj he] at hs
      cases hs
    · cases he
    · rw [Lexeme.token.inj he, hu] at hs
      exact Option.some.inj hs
    · cases he
  subst d
  refine ⟨front.flatten, rest ++ back.flatten, ?_, ?_⟩
  · rw [← flatten_pieces text, hp, List.flatten_append, List.flatten_cons, List.cons_append]
  · rw [ho, hstart, Nat.zero_add]

theorem isWellFormed_eq_false_iff : Numeral.isWellFormed text = false ↔
    (∀ c ∈ text, ¬ c.isDigit) ∨ 1 < text.count '.' := by
  rw [Numeral.isWellFormed, Bool.and_eq_false_iff, List.any_eq_false, decide_eq_false_iff_not,
    Nat.not_le]

theorem IsRun.isWellFormed (h : IsRun before run after) (hp : IsPassed run) :
    Numeral.isWellFormed run := by
  obtain ⟨t, he⟩ := hp _ (Lexeme.ofPiece?_of_numeric h.ne_nil h.numeric)
  cases hw : Numeral.isWellFormed run with
  | true => rfl
  | false =>
    rw [Lexeme.ofNumeral_of_not_isWellFormed hw] at he
    cases he

theorem firstMalformed_of_pieces (h : pieces text = front ++ (c :: rest) :: back)
    (hc : Numeral.isNumeric c) (hm : Numeral.isWellFormed (c :: rest) = false)
    (hf : ∀ p ∈ front, IsPassed p) :
    FirstMalformed front.flatten (c :: rest) back.flatten := by
  refine ⟨isRun_of_pieces h hc, isWellFormed_eq_false_iff.1 hm, ?_⟩
  intro before run after he hr hl
  have htext : text = before ++ run ++ after := by
    rw [← flatten_pieces text, h, ← he, List.flatten_append, List.flatten_cons, List.append_assoc]
  -- The run is a piece as well, and as it starts earlier it is one of those in front.
  rw [htext, hr.pieces] at h
  obtain ⟨between, hfront, hb⟩ | ⟨between, hbefore, _⟩ := List.append_eq_append_iff.1 h
  · obtain _ | ⟨p, between⟩ := between
    · rw [hfront, List.append_nil, flatten_pieces] at hl
      exact absurd hl (Nat.lt_irrefl _)
    · obtain ⟨rfl, _⟩ := List.cons.inj hb
      apply hr.isWellFormed
      apply hf run
      rw [hfront]
      exact List.mem_append_right _ List.mem_cons_self
  · rw [← flatten_pieces before, hbefore, List.flatten_append, List.length_append] at hl
    exact absurd hl (Nat.not_lt.2 (Nat.le_add_right _ _))

theorem isPermitted_of_isPassed (h : pieces text = front ++ p :: back) (hp : IsPassed p)
    (hc : c ∈ p) : isPermitted c := by
  obtain hrun | ⟨d, rfl, hn⟩ := piece_cases h
  · exact isPermitted_of_isNumeric (hrun.numeric c hc)
  · obtain rfl := List.mem_singleton.1 hc
    cases hd : isPermitted c with
    | true => rfl
    | false =>
      obtain ⟨t, ht⟩ := hp _ ((Lexeme.ofPiece?_singleton hn).trans (isForeign_iff.2 hd).ofChar?)
      cases ht

theorem exists_culprit_of_tokenize (h : tokenize text = .error e) :
    ∃ before c after, text = before ++ c :: after ∧ (∀ b ∈ before, isPermitted b) ∧
      (e = .invalidCharacter c (Text.width before) ∧ isPermitted c = false ∨
        ∃ run rest, c :: after = run ++ rest ∧ FirstMalformed before run rest ∧
          e = .malformedNumber (.ofList run) (Text.width before)) := by
  rw [tokenize, lexemes_eq] at h
  obtain ⟨front, p, back, lexeme, hp, hf, hx, he⟩ := exists_piece_of_eq_error h
  obtain ⟨c, rest, rfl, hx⟩ := Lexeme.ofPiece?_eq_some hx
  have htext : text = front.flatten ++ c :: (rest ++ back.flatten) := by
    rw [← flatten_pieces text, hp, List.flatten_append, List.flatten_cons, List.cons_append]
  rw [Nat.zero_add] at he
  refine ⟨front.flatten, c, rest ++ back.flatten, htext, ?_, ?_⟩
  · intro b hb
    obtain ⟨q, hq, hm⟩ := List.mem_flatten.1 hb
    obtain ⟨front, later, rfl⟩ := List.append_of_mem hq
    rw [List.append_assoc, List.cons_append] at hp
    exact isPermitted_of_isPassed hp (hf q hq) hm
  obtain ⟨_, _, x, rfl⟩ | ⟨hc, hm, rfl⟩ | ⟨t, rfl, _⟩ | ⟨rfl, hc⟩ := hx
  · cases he
  · cases he
    exact .inr ⟨c :: rest, back.flatten, rfl, firstMalformed_of_pieces hp hc hm hf, rfl⟩
  · cases he
  · cases he
    exact .inl ⟨rfl, hc⟩

theorem exists_firstMalformed (hv : validate text = .ok ()) (h : tokenize text = .error e) :
    ∃ before run after, text = before ++ run ++ after ∧ FirstMalformed before run after ∧
      e = .malformedNumber (.ofList run) (Text.width before) := by
  obtain ⟨before, c, after, hs, _, ⟨rfl, hc⟩ | ⟨run, rest, hr, hm, rfl⟩⟩ :=
    exists_culprit_of_tokenize h
  · have hp := isPermitted_of_validate (c := c) hv (by rw [hs]; simp)
    rw [hc] at hp
    cases hp
  · exact ⟨before, run, rest, by rw [hs, hr, List.append_assoc], hm, rfl⟩

theorem exists_culprit_of_readTokens {text : String} (h : readTokens text = .error e)
    (ho : (Error.read e).offset? = some offset) :
    ∃ before c after, text.toList = before ++ c :: after ∧ offset = Text.width before ∧
      (Error.read e).Blames before c after := by
  obtain hv | ⟨hv, ht⟩ := readTokens_eq_error_iff.1 h
  · obtain ⟨before, c, after, hs, rfl, hc, hb⟩ := validate_eq_error hv
    cases ho
    exact ⟨before, c, after, hs, rfl, rfl, hc, hb⟩
  · obtain ⟨before, run, after, hs, hm, rfl⟩ := exists_firstMalformed hv ht
    cases ho
    obtain ⟨c, run, rfl⟩ := List.exists_cons_of_ne_nil hm.ne_nil
    rw [List.append_assoc, List.cons_append] at hs
    exact ⟨before, c, run ++ after, hs, rfl, c :: run, after, rfl, rfl, hm⟩

theorem mem_of_mismatchedParenthesis
    (h : (evalTokens tokens).result = .error (.mismatchedParenthesis offset)) :
    ∃ t ∈ tokens, (t.opens ∨ t.closes) ∧ t.offset = offset := by
  rw [result_evalTokens, evalPostfix, Translation.value_eq_mismatchedParenthesis_iff] at h
  have hu := (mismatch_translate [] tokens).symm.trans h.1
  obtain ⟨before, t, after, rfl, ht, hp, _⟩ | ⟨_, before, t, after, rfl, ht, hp, _⟩ :=
    unmatched?_nil_eq_some hu
  · exact ⟨t, List.mem_append_right _ List.mem_cons_self, .inr ht, hp⟩
  · exact ⟨t, List.mem_append_right _ List.mem_cons_self, .inl ht, hp⟩

/-- An error of the evaluation stands at a token that bears it out. -/
theorem exists_blamed_token (h : (evalTokens tokens).result = .error e)
    (ho : (Error.eval e).offset? = some offset) :
    ∃ t ∈ tokens, t.offset = offset ∧ ∃ c, t.value.symbol? = some c ∧
      ∀ before after, (Error.eval e).Blames before c after := by
  cases e with
  | mismatchedParenthesis place =>
    cases ho
    obtain ⟨⟨token, place⟩, ht, hv, rfl⟩ := mem_of_mismatchedParenthesis h
    obtain hv | hv := hv
    · obtain rfl : token = .openParen := of_decide_eq_true hv
      exact ⟨_, ht, rfl, '(', rfl, fun _ _ => .inl rfl⟩
    · obtain rfl : token = .closeParen := of_decide_eq_true hv
      exact ⟨_, ht, rfl, ')', rfl, fun _ _ => .inr rfl⟩
  | missingOperand op place =>
    cases ho
    exact ⟨_, mem_of_missingOperand h, rfl, op.symbol, rfl, fun _ _ => rfl⟩
  | divisionByZero place =>
    cases ho
    exact ⟨_, mem_of_divisionByZero h, rfl, '/', rfl, fun _ _ => rfl⟩
  | emptyExpression => cases ho
  | unjoinedValues count => cases ho

/-- An error that points at a place of the text points at a character there, and rightly so. -/
theorem evaluate_blames {text : String} (h : evaluate text = .error e)
    (ho : e.offset? = some offset) :
    (⟨offset⟩ : String.Pos.Raw).IsValid text ∧ offset < text.utf8ByteSize ∧
      ∃ before c after, text.toList = before ++ c :: after ∧ offset = Text.width before ∧
        String.Pos.Raw.get text ⟨offset⟩ = c ∧ e.Blames before c after := by
  have hc : ∃ before c after, text.toList = before ++ c :: after ∧ offset = Text.width before ∧
      e.Blames before c after := by
    obtain ⟨r, hr, rfl⟩ | ⟨tokens, ht, r, hr, rfl⟩ := evaluate_eq_error_iff.1 h
    · exact exists_culprit_of_readTokens hr ho
    · obtain ⟨t, hm, rfl, c, hs, hb⟩ := exists_blamed_token hr ho
      obtain ⟨before, after, hs, hp⟩ :=
        exists_symbol_of_mem_tokenize (readTokens_eq_ok_iff.1 ht).2 hm hs
      exact ⟨before, c, after, hs, hp, hb before after⟩
  obtain ⟨before, c, after, hs, rfl, hb⟩ := hc
  exact ⟨Text.isValid_width hs, Text.width_lt_utf8ByteSize hs, before, c, after, hs, rfl,
    Text.get_width hs, hb⟩

theorem evaluate_blames_points :
    evaluate "3.5 * 2..5" = .error (.read (.malformedNumber "2..5" 6)) ∧
    (∃ before c after, "3.5 * 2..5".toList = before ++ c :: after ∧ 6 = Text.width before ∧
      String.Pos.Raw.get "3.5 * 2..5" ⟨6⟩ = c ∧
      (Error.read (.malformedNumber "2..5" 6)).Blames before c after) ∧
    evaluate "2 × 3" = .error (.read (.invalidCharacter '×' 2)) ∧
    (⟨2⟩ : String.Pos.Raw).IsValid "2 × 3" ∧ String.Pos.Raw.get "2 × 3" ⟨2⟩ = '×' ∧
    evaluate "6 / (2 - 2)" = .error (.eval (.divisionByZero 2)) ∧
    String.Pos.Raw.get "6 / (2 - 2)" ⟨2⟩ = '/' := by
  have hnumeral : evaluate "3.5 * 2..5" = .error (.read (.malformedNumber "2..5" 6)) := by
    decide +kernel
  have htimes : evaluate "2 × 3" = .error (.read (.invalidCharacter '×' 2)) := by decide +kernel
  have hdivision : evaluate "6 / (2 - 2)" = .error (.eval (.divisionByZero 2)) := by
    decide +kernel
  obtain ⟨_, _, hrun⟩ := evaluate_blames hnumeral rfl
  obtain ⟨hvalid, _, _, _, _, _, _, rfl, hcharacter, _⟩ := evaluate_blames htimes rfl
  obtain ⟨_, _, _, _, _, _, _, rfl, hslash⟩ := evaluate_blames hdivision rfl
  exact ⟨hnumeral, hrun, htimes, hvalid, hcharacter, hdivision, hslash⟩

end Calculator
