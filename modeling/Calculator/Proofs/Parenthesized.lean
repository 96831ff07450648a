import Calculator.Proofs.Gaps
import Calculator.Proofs.LongestMatch
import Calculator.Proofs.Shortfalls

namespace Calculator

theorem validate_parenthesized (text : List Char) :
    validate ('(' :: text ++ [')']) = (validate text).mapError (.mapOffset (1 + ·)) := by
  have hopen : ∀ c ∈ ['('], isPermitted c := List.forall_mem_singleton.2 rfl
  have hfront : validate ('(' :: text ++ [')']) =
      (validate (text ++ [')'])).mapError (.mapOffset (1 + ·)) := validate_append hopen _
  rw [hfront]
  cases hv : validate text with
  | error e => rw [validate_append_of_error hv]
  | ok u =>
    have hall : ∀ c ∈ text ++ [')'], isPermitted c := by
      intro c hc
      obtain hc | hc := List.mem_append.1 hc
      · exact isPermitted_of_validate hv hc
      · exact List.mem_singleton.1 hc ▸ rfl
    rw [validate_of_permitted hall]

theorem tokensFrom_append (start : Nat) (ps qs : List (List Char)) :
    tokensFrom start (ps ++ qs) = tokensFrom start ps >>= fun front =>
      tokensFrom (start + Text.width ps.flatten) qs >>= fun back => .ok (front ++ back) := by
  rw [tokensFrom, lexemesFrom_append, List.mapM_append]
  rfl

theorem tokensFrom_add (distance start : Nat) (ps : List (List Char)) :
    tokensFrom (distance + start) ps = relocated (distance + ·) (tokensFrom start ps) := by
  have h : tokensFrom (distance + start) (ps ++ []) =
      relocated (distance + ·) (tokensFrom start (ps ++ [])) :=
    tokensFrom_append_relocated (fun i _ => (Nat.add_assoc _ _ _).symm) rfl
  rwa [List.append_nil] at h

theorem tokenize_parenthesized (text : List Char) :
    tokenize ('(' :: text ++ [')']) =
      (relocated (1 + ·) (tokenize text)).map (enclosed 0 · (1 + Text.width text)) := by
  have hopen : Lexeme.ofPiece? ['('] = some (.token .openParen) := rfl
  have hclose : Lexeme.ofPiece? [')'] = some (.token .closeParen) := rfl
  have hpieces : pieces ('(' :: text ++ [')']) = ['('] :: (pieces text ++ [[')']]) := by
    rw [List.cons_append, pieces_cons rfl, pieces_append_cons rfl]
    rfl
  have hmoved : tokensFrom 1 (pieces text) = relocated (1 + ·) (tokenize text) :=
    tokensFrom_add 1 0 (pieces text)
  change tokensFrom 0 (pieces _) = _
  rw [hpieces, tokensFrom_cons_some hopen, ← hmoved]
  change (tokensFrom 1 (pieces text ++ [[')']]) >>= fun ts => .ok (⟨.openParen, 0⟩ :: ts)) = _
  rw [tokensFrom_append, tokensFrom_cons_some hclose, flatten_pieces]
  cases tokensFrom 1 (pieces text) with
  | error e => rfl
  | ok tokens => rfl

theorem readTokens_parenthesized (text : String) :
    readTokens ("(" ++ text ++ ")") =
      (relocated (1 + ·) (readTokens text)).map (enclosed 0 · (1 + Text.width text.toList)) := by
  have htext : ("(" ++ text ++ ")").toList = '(' :: text.toList ++ [')'] := by
    rw [String.toList_append, String.toList_append]
    rfl
  rw [readTokens, readTokens, htext, validate_parenthesized, tokenize_parenthesized]
  cases validate text.toList with
  | error e => rfl
  | ok u => rfl

theorem balancedFrom_append {opens closes : α → Bool}
    (h : ∀ x ∈ xs, opens x = false ∧ closes x = false) :
    BalancedFrom opens closes depth (xs ++ ys) ↔ BalancedFrom opens closes depth ys := by
  induction xs with
  | nil => rfl
  | cons x xs ih =>
    obtain ⟨⟨ho, hc⟩, hxs⟩ := List.forall_mem_cons.1 h
    rw [List.cons_append, balancedFrom_cons, ho, hc]
    simpa using ih hxs

theorem Located.opens_closes_of_symbol? {t : Located Token} (h : t.value.symbol? = some c) :
    t.opens = (c == '(') ∧ t.closes = (c == ')') := by
  obtain ⟨token, offset⟩ := t
  cases token with
  | number x => cases h
  | operator op =>
    cases h
    cases op <;> exact ⟨rfl, rfl⟩
  | openParen =>
    cases h
    exact ⟨rfl, rfl⟩
  | closeParen =>
    cases h
    exact ⟨rfl, rfl⟩
  | blank => cases h

/-- What a text is cut into: numeric characters, or a single other one. -/
def IsPiece (p : List Char) : Prop :=
  (∀ c ∈ p, Numeral.isNumeric c) ∨ ∃ c, p = [c] ∧ Numeral.isNumeric c = false

theorem isPiece_of_mem_pieces (h : p ∈ pieces text) : IsPiece p := by
  obtain ⟨front, back, hp⟩ := List.append_of_mem h
  obtain hrun | hc := piece_cases hp
  · exact .inl hrun.numeric
  · exact .inr hc

/-- No parenthesis among the characters. -/
def IsPlain (p : List Char) : Prop :=
  ∀ c ∈ p, (c == '(') = false ∧ (c == ')') = false

theorem isPlain_of_ne (h : ∀ c ∈ p, c ≠ '(' ∧ c ≠ ')') : IsPlain p := by
  intro c hc
  obtain ⟨hopen, hclose⟩ := h c hc
  exact ⟨beq_eq_false_iff_ne.2 hopen, beq_eq_false_iff_ne.2 hclose⟩

theorem isPlain_of_numeric (h : ∀ c ∈ p, Numeral.isNumeric c) : IsPlain p := by
  apply isPlain_of_ne
  intro c hc
  have hn := h c hc
  constructor
  · rintro rfl
    cases hn
  · rintro rfl
    cases hn

theorem IsPiece.isPlain_of_none (hp : IsPiece p) (h : Lexeme.ofPiece? p = none) : IsPlain p := by
  obtain hn | ⟨c, rfl, _⟩ := hp
  · exact isPlain_of_numeric hn
  · apply isPlain_of_ne
    intro d hd
    obtain rfl := List.mem_singleton.1 hd
    constructor
    · rintro rfl
      cases h
    · rintro rfl
      cases h

theorem IsPiece.token_cases {t : Located Token} (hp : IsPiece p)
    (h : Lexeme.ofPiece? p = some (.token t.value)) :
    (IsPlain p ∧ t.opens = false ∧ t.closes = false) ∨
      ∃ c, p = [c] ∧ t.opens = (c == '(') ∧ t.closes = (c == ')') := by
  obtain ⟨token, offset⟩ := t
  obtain ⟨c, rest, rfl, ⟨hc, _, x, he⟩ | ⟨_, _, he⟩ | ⟨u, he, hu⟩ | ⟨he, _⟩⟩ :=
    Lexeme.ofPiece?_eq_some h
  · obtain rfl : token = .number x := Lexeme.token.inj he
    obtain hn | ⟨d, hd, hnd⟩ := hp
    · exact .inl ⟨isPlain_of_numeric hn, rfl, rfl⟩
    · obtain ⟨rfl, _⟩ := List.cons.inj hd
      rw [hc] at hnd
      cases hnd
  · cases he
  · obtain rfl : token = u := Lexeme.token.inj he
    obtain hn | ⟨d, hd, _⟩ := hp
    · have hc := hn c List.mem_cons_self
      rw [(Lexeme.ofChar?_of_symbol? hu).2] at hc
      cases hc
    · obtain ⟨rfl, rfl⟩ := List.cons.inj hd
      exact .inr ⟨c, rfl, Located.opens_closes_of_symbol? hu⟩
  · cases he

/-- The parentheses of a text are those of its tokens. -/
theorem balancedFrom_tokensFrom (hp : ∀ p ∈ ps, IsPiece p) (h : tokensFrom start ps = .ok tokens) :
    BalancedFrom Located.opens Located.closes depth tokens ↔
      BalancedFrom (· == '(') (· == ')') depth ps.flatten := by
  induction ps generalizing start depth tokens with
  | nil =>
    obtain rfl : [] = tokens := Except.ok.inj h
    rw [List.flatten_nil, balancedFrom_nil, balancedFrom_nil]
  | cons p ps ih =>
    obtain ⟨hpiece, hps⟩ := List.forall_mem_cons.1 hp
    rw [List.flatten_cons]
    cases hx : Lexeme.ofPiece? p with
    | none =>
      rw [tokensFrom_cons_none hx] at h
      rw [balancedFrom_append (hpiece.isPlain_of_none hx)]
      exact ih hps h
    | some lexeme =>
      rw [tokensFrom_cons_some hx, bind_eq_ok_iff] at h
      obtain ⟨t, ht, h⟩ := h
      obtain ⟨rest, hrest, h⟩ := bind_eq_ok_iff.1 h
      obtain rfl : t :: rest = tokens := Except.ok.inj h
      obtain ⟨hv, _⟩ := Spanned.token_eq_ok ht
      obtain rfl : lexeme = .token t.value := hv
      obtain ⟨hplain, ho, hc⟩ | ⟨c, rfl, ho, hc⟩ := hpiece.token_cases hx
      · rw [balancedFrom_append hplain, balancedFrom_other ho hc]
        exact ih hps hrest
      · rw [List.singleton_append, balancedFrom_cons, balancedFrom_cons, ho, hc]
        exact and_congr_right fun _ => ih hps hrest

theorem balanced_of_tokenize (h : tokenize text = .ok tokens) :
    Balanced Located.opens Located.closes tokens ↔ Balanced (· == '(') (· == ')') text := by
  have hb : BalancedFrom Located.opens Located.closes 0 tokens ↔
      BalancedFrom (· == '(') (· == ')') 0 (pieces text).flatten :=
    balancedFrom_tokensFrom (fun _ => isPiece_of_mem_pieces) h
  rw [balanced_iff, balanced_iff, hb, flatten_pieces]

theorem Balanced.mapOffset (h : Balanced Located.opens Located.closes tokens) (f : Nat → Nat) :
    Balanced Located.opens Located.closes (tokens.map (.mapOffset f)) := by
  have ht : translate [] (tokens.map (.mapOffset f)) = (translate [] tokens).mapOffset f :=
    translate_mapOffset f [] tokens
  rw [← mismatch_eq_none_iff_balanced] at h ⊢
  rw [ht, Translation.mapOffset, h]
  rfl

/-- The parentheses around a balanced row leave its program as it is: the closing one has every
operator applied that the end would have applied. -/
theorem translate_enclosed (h : Balanced Located.opens Located.closes tokens)
    (opening closing : Nat) :
    translate [] (enclosed opening tokens closing) = translate [] tokens := by
  have hb : BalancedFrom Located.opens Located.closes
      (([] : List Pending).countP Pending.isParen) tokens := balanced_iff.1 h
  have hg : translate [] (enclosed opening tokens closing) =
      (translate [] []).emit (translate [] tokens).code := translate_group hb opening closing [] []
  have hm := mismatch_eq_none_iff_balanced.2 h
  rw [hg]
  cases ht : translate [] tokens with
  | mk code mismatch =>
    rw [ht] at hm
    obtain rfl : mismatch = none := hm
    exact congrArg (Translation.mk · none) (List.append_nil code)

theorem result_evalTokens_parenthesized (h : Balanced Located.opens Located.closes tokens)
    (opening closing : Nat) :
    (evalTokens (enclosed opening tokens closing)).result = (evalTokens tokens).result := by
  rw [result_evalTokens, result_evalTokens, evalPostfix, evalPostfix, translate_enclosed h]

/-- A pair of parentheses around a text that balances moves the outcome by one byte and changes
nothing else of it, be it a value or an error. -/
theorem evaluate_parenthesized {text : String}
    (h : Balanced (· == '(') (· == ')') text.toList) :
    evaluate ("(" ++ text ++ ")") = (evaluate text).mapError (.mapOffset (· + 1)) := by
  have hf : (fun offset => offset + 1) = (1 + ·) := funext fun offset => Nat.add_comm offset 1
  rw [hf, evaluate, evaluate, readTokens_parenthesized]
  cases hr : readTokens text with
  | error e => exact congrArg Except.error (Error.mapOffset_read _ e).symm
  | ok tokens =>
    have ht := (readTokens_eq_ok_iff.1 hr).2
    have hb := ((balanced_of_tokenize ht).2 h).mapOffset (1 + ·)
    change (evalTokens (enclosed 0 _ _)).result.mapError Error.eval =
      ((evalTokens tokens).result.mapError Error.eval).mapError (.mapOffset (1 + ·))
    rw [result_evalTokens_parenthesized hb, result_evalTokens_mapOffset]
    cases (evalTokens tokens).result with
    | error e => exact congrArg Except.error (Error.mapOffset_eval _ e).symm
    | ok x => rfl

theorem evaluate_parenthesized_errors :
    Balanced (· == '(') (· == ')') "2/(3-3)".toList ∧
    evaluate "2/(3-3)" = .error (.eval (.divisionByZero 1)) ∧
    evaluate ("(" ++ "2/(3-3)" ++ ")") = .error (.eval (.divisionByZero 2)) ∧
    Balanced (· == '(') (· == ')') "(1)(2)".toList ∧
    evaluate ("(" ++ "(1)(2)" ++ ")") = .error (.eval (.unjoinedValues 2)) ∧
    Balanced (· == '(') (· == ')') "(1)×".toList ∧
    evaluate ("(" ++ "(1)×" ++ ")") = .error (.read (.invalidCharacter '×' 4)) := by
  have hdivision : Balanced (· == '(') (· == ')') "2/(3-3)".toList := by
    simp [balanced_iff, balancedFrom_cons, balancedFrom_nil]
  have hunjoined : Balanced (· == '(') (· == ')') "(1)(2)".toList := by
    simp [balanced_iff, balancedFrom_cons, balancedFrom_nil]
  have hforeign : Balanced (· == '(') (· == ')') "(1)×".toList := by
    simp [balanced_iff, balancedFrom_cons, balancedFrom_nil]
  have hvalue : evaluate "2/(3-3)" = .error (.eval (.divisionByZero 1)) := by decide +kernel
  have hvalues : evaluate "(1)(2)" = .error (.eval (.unjoinedValues 2)) := by decide +kernel
  have hcharacter : evaluate "(1)×" = .error (.read (.invalidCharacter '×' 3)) := by
    decide +kernel
  refine ⟨hdivision, hvalue, ?_, hunjoined, ?_, hforeign, ?_⟩
  · rw [evaluate_parenthesized hdivision, hvalue]
    rfl
  · rw [evaluate_parenthesized hunjoined, hvalues]
    rfl
  · rw [evaluate_parenthesized hforeign, hcharacter]
    rfl

end Calculator
