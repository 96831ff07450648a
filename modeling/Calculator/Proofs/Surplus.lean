import Calculator.Evaluation
import Calculator.Proofs.Accounting
import Calculator.Proofs.Outcomes
import Mathlib.Data.List.Basic

namespace Calculator

theorem runPostfix_eq_nil_iff : runPostfix values code = .ok [] ↔ values = [] ∧ code = [] := by
  constructor
  · intro h
    induction code generalizing values with
    | nil =>
      cases h
      exact ⟨rfl, rfl⟩
    | cons i code ih =>
      cases i with
      | push x =>
        obtain ⟨hv, _⟩ := ih h
        cases hv
      | apply op offset =>
        rcases values with _ | ⟨right, _ | ⟨left, values⟩⟩
        · cases h
        · cases h
        · rw [runPostfix] at h
          cases hx : op.apply left right offset with
          | error e =>
            rw [hx] at h
            cases h
          | ok x =>
            rw [hx] at h
            obtain ⟨hv, _⟩ := ih h
            cases hv
  · rintro ⟨rfl, rfl⟩
    rfl

theorem code_eq_nil_iff {code : List Instruction} :
    code = [] ↔ code.countP Instruction.isPush = 0 ∧ code.countP Instruction.isApply = 0 := by
  cases code with
  | nil => simp
  | cons i code => cases i <;> simp [Instruction.isPush, Instruction.isApply]

namespace Stacks

/-- The operands there are beyond the operators that wait for them. -/
def surplus (s : Stacks) : Int :=
  s.operands.length - s.pending.countP Pending.isOperator

theorem surplus_push {s s' : Stacks} {t : Located Token} (h : (s.push t).outcome = .ok s') :
    s'.surplus = s.surplus + t.isNumber.toNat - t.isOperator.toNat := by
  cases pushes_of_outcome h with
  | number =>
    simp only [surplus, List.length_cons, Located.isNumber, Located.isOperator, Bool.toNat_true,
      Bool.toNat_false]
    omega
  | blank => simp [Located.isNumber, Located.isOperator]
  | openParen => simp [surplus, Located.isNumber, Located.isOperator, Pending.isOperator]
  | operator op ht hv =>
    -- Each operation carried out takes one operand and one operator away.
    obtain ⟨hp, ha, _⟩ := countP_takeOperators (op.precedence ≤ ·.precedence) s.pending
    have hl := length_runPostfix hv
    simp only [ht] at hp ha
    simp only [surplus, countP_cons_toNat, Pending.isOperator, Located.isNumber, Located.isOperator,
      Bool.toNat_true, Bool.toNat_false]
    omega
  | closeParen ht hv =>
    obtain ⟨hp, ha, _⟩ := countP_takeOperators (fun _ => true) s.pending
    have hl := length_runPostfix hv
    simp only [ht, countP_cons_toNat, Pending.isOperator, Bool.toNat_false] at hp ha
    simp only [surplus, Located.isNumber, Located.isOperator, Bool.toNat_false]
    omega

theorem surplus_pushAll {s s' : Stacks} {tokens : List (Located Token)}
    (h : (s.pushAll tokens).outcome = .ok s') :
    s'.surplus = s.surplus + tokens.countP Located.isNumber - tokens.countP Located.isOperator := by
  induction tokens generalizing s with
  | nil =>
    obtain rfl := Except.ok.inj (s.outcome_pushAll_nil ▸ h)
    simp
  | cons t rest ih =>
    rw [outcome_pushAll_cons, bind_eq_ok_iff] at h
    obtain ⟨mid, ht, h⟩ := h
    have hs := surplus_push ht
    have hr := ih h
    rw [countP_cons_toNat, countP_cons_toNat]
    omega

end Stacks

theorem evalTokens_eq_emptyExpression_iff :
    (evalTokens tokens).result = .error .emptyExpression ↔
      tokens.countP Located.isNumber = 0 ∧ tokens.countP Located.isOperator = 0 ∧
        Balanced Located.opens Located.closes tokens := by
  rw [result_evalTokens, evalPostfix, Translation.value_eq_emptyExpression_iff,
    ← mismatch_eq_none_iff_balanced, runPostfix_eq_nil_iff, code_eq_nil_iff]
  constructor
  · rintro ⟨hm, _, hp, ha⟩
    obtain ⟨hp', ha'⟩ := countP_translate hm
    exact ⟨hp'.symm.trans hp, ha'.symm.trans ha, hm⟩
  · rintro ⟨hn, ho, hm⟩
    obtain ⟨hp, ha⟩ := countP_translate hm
    exact ⟨hm, rfl, hp.trans hn, ha.trans ho⟩

theorem countP_of_ok (h : (evalTokens tokens).result = .ok x) :
    tokens.countP Located.isNumber = tokens.countP Located.isOperator + 1 := by
  rw [result_evalTokens, evalPostfix, Translation.value_eq_ok_iff] at h
  obtain ⟨hm, hr⟩ := h
  have hl := length_runPostfix_translate hm hr
  simp only [List.length_singleton] at hl
  omega

theorem length_of_unjoinedValues (h : (evalTokens tokens).result = .error (.unjoinedValues count)) :
    count + tokens.countP Located.isOperator = tokens.countP Located.isNumber ∧ 2 ≤ count := by
  rw [result_evalTokens, evalPostfix, Translation.value_eq_unjoinedValues_iff] at h
  obtain ⟨hm, left, hr, rfl, hl⟩ := h
  exact ⟨length_runPostfix_translate hm hr, hl⟩

/-- No operand is lost or counted twice: at every moment the operands beyond the waiting operators
are the numbers read beyond the operators read, and so they are in the end. -/
theorem result_evalTokens_surplus (tokens : List (Located Token)) :
    (∀ (row : List (Located Token)) (s : Stacks), row <+: tokens →
      (Stacks.pushAll {} row).outcome = .ok s →
      (s.operands.length : Int) - s.pending.countP Pending.isOperator =
        row.countP Located.isNumber - row.countP Located.isOperator) ∧
    (∀ x, (evalTokens tokens).result = .ok x →
      tokens.countP Located.isNumber = tokens.countP Located.isOperator + 1) ∧
    (∀ count, (evalTokens tokens).result = .error (.unjoinedValues count) →
      (count : Int) = tokens.countP Located.isNumber - tokens.countP Located.isOperator ∧
        2 ≤ count) ∧
    ((evalTokens tokens).result = .error .emptyExpression ↔
      tokens.countP Located.isNumber = 0 ∧ tokens.countP Located.isOperator = 0 ∧
        Balanced Located.opens Located.closes tokens) ∧
    (1 ≤ tokens.countP Located.isOperator →
      tokens.countP Located.isNumber ≤ tokens.countP Located.isOperator →
      (∃ op offset, (evalTokens tokens).result = .error (.missingOperand op offset)) ∨
      (∃ offset, (evalTokens tokens).result = .error (.divisionByZero offset)) ∨
      ∃ offset, (evalTokens tokens).result = .error (.mismatchedParenthesis offset)) := by
  have hunjoined (count : Nat) (h : (evalTokens tokens).result = .error (.unjoinedValues count)) :=
    length_of_unjoinedValues h
  refine ⟨?_, fun x => countP_of_ok, ?_, evalTokens_eq_emptyExpression_iff, ?_⟩
  · intro row s _ hs
    have hsurplus := Stacks.surplus_pushAll hs
    simpa [Stacks.surplus] using hsurplus
  · intro count h
    obtain ⟨hc, hl⟩ := hunjoined count h
    omega
  · intro ho hn
    cases hr : (evalTokens tokens).result with
    | ok x =>
      have hx := countP_of_ok hr
      omega
    | error e =>
      cases e with
      | mismatchedParenthesis offset => exact .inr (.inr ⟨offset, rfl⟩)
      | missingOperand op offset => exact .inl ⟨op, offset, rfl⟩
      | emptyExpression =>
        obtain ⟨_, hz, _⟩ := evalTokens_eq_emptyExpression_iff.1 hr
        omega
      | divisionByZero offset => exact .inr (.inl ⟨offset, rfl⟩)
      | unjoinedValues count =>
        obtain ⟨hc, hl⟩ := hunjoined count hr
        omega

/-- An operand waits with its operator in a group; an operator behind three numbers leaves two of
them unjoined, one behind two joins them, and one behind none fails. -/
theorem result_evalTokens_surplus_behind :
    (Stacks.pushAll {} [⟨.operator .mul, 0⟩, ⟨.openParen, 1⟩, ⟨.number .nan, 2⟩]).outcome =
      .ok ⟨[.nan], [.openParen 1, .operator .mul 0]⟩ ∧
    ((1 : Nat) : Int) - (1 : Nat) = (1 : Nat) - (1 : Nat) ∧
    (evalTokens [⟨.number .nan, 0⟩, ⟨.number .nan, 2⟩, ⟨.operator .add, 4⟩]).result = .ok .nan ∧
    2 = 1 + 1 ∧
    (evalTokens [⟨.number .nan, 0⟩, ⟨.number .nan, 2⟩, ⟨.number .nan, 4⟩,
      ⟨.operator .add, 6⟩]).result = .error (.unjoinedValues 2) ∧
    (((2 : Nat) : Int) = (3 : Nat) - (1 : Nat) ∧ 2 ≤ 2) ∧
    ((∃ op offset, (evalTokens [⟨.operator .mul, 0⟩]).result = .error (.missingOperand op offset)) ∨
      (∃ offset, (evalTokens [⟨.operator .mul, 0⟩]).result = .error (.divisionByZero offset)) ∨
      ∃ offset, (evalTokens [⟨.operator .mul, 0⟩]).result =
        .error (.mismatchedParenthesis offset)) := by
  obtain ⟨hcounts, _⟩ := result_evalTokens_surplus
    [⟨.operator .mul, 0⟩, ⟨.openParen, 1⟩, ⟨.number .nan, 2⟩]
  obtain ⟨_, hvalue, _⟩ := result_evalTokens_surplus
    [⟨.number .nan, 0⟩, ⟨.number .nan, 2⟩, ⟨.operator .add, 4⟩]
  obtain ⟨_, _, hcount, _⟩ := result_evalTokens_surplus
    [⟨.number .nan, 0⟩, ⟨.number .nan, 2⟩, ⟨.number .nan, 4⟩, ⟨.operator .add, 6⟩]
  obtain ⟨_, _, _, _, hfew⟩ := result_evalTokens_surplus [⟨.operator .mul, 0⟩]
  exact ⟨rfl, hcounts _ _ List.prefix_rfl rfl, rfl, hvalue .nan rfl, rfl, hcount 2 rfl,
    hfew (by decide) (by decide)⟩

theorem balanced_of_ok (h : (evalTokens tokens).result = .ok x) :
    Balanced Located.opens Located.closes tokens := by
  rw [result_evalTokens, evalPostfix, Translation.value_eq_ok_iff] at h
  exact mismatch_eq_none_iff_balanced.1 h.1

theorem isSentence_iff_of_ok (h : (evalTokens tokens).result = .ok x)
    (hn : ∀ t ∈ tokens, t.value ≠ .blank) :
    vacantPlaces false tokens = unjoinedPlaces false tokens ∧
      (IsSentence tokens ↔ unjoinedPlaces false tokens = 0) := by
  have hc := countP_of_ok h
  have hp := countP_places false tokens
  have hv : vacantPlaces false tokens = unjoinedPlaces false tokens := by
    simp at hp
    omega
  refine ⟨hv, ?_⟩
  rw [isSentence_iff]
  constructor
  · exact fun hs => hs.2.1
  · exact fun hu => ⟨balanced_of_ok h, hu, hv.trans hu, hn⟩

/-- What has a value is balanced and lacks as many operands as operators. It is an infix
expression unless two operands stand next to each other. -/
theorem evaluate_isSentence_iff (h : evaluate text = .ok x) :
    ∃ tokens, readTokens text = .ok tokens ∧ Balanced Located.opens Located.closes tokens ∧
      vacantPlaces false tokens = unjoinedPlaces false tokens ∧
      (IsSentence tokens ↔ unjoinedPlaces false tokens = 0) := by
  obtain ⟨tokens, ht, hx⟩ := evaluate_eq_ok_iff.1 h
  have hn : ∀ t ∈ tokens, t.value ≠ .blank :=
    fun t hm => tokenize_ne_blank (readTokens_eq_ok_iff.1 ht).2 hm
  exact ⟨tokens, ht, balanced_of_ok hx, isSentence_iff_of_ok hx hn⟩

/-- An operator behind its operands is no infix expression and yet has a value. -/
theorem evaluate_isSentence_iff_behind :
    evaluate "1 2 +" = .ok (.nearest 3 false) ∧
      ∃ tokens, readTokens "1 2 +" = .ok tokens ∧ vacantPlaces false tokens = 1 ∧
        unjoinedPlaces false tokens = 1 ∧ ¬ IsSentence tokens := by
  have h : evaluate "1 2 +" = .ok (.nearest 3 false) := by decide +kernel
  have hp : (readTokens "1 2 +").map (unjoinedPlaces false) = .ok 1 := by decide +kernel
  obtain ⟨tokens, ht, _, hv, hs⟩ := evaluate_isSentence_iff h
  rw [ht] at hp
  have hu : unjoinedPlaces false tokens = 1 := Except.ok.inj hp
  refine ⟨h, tokens, ht, hv.trans hu, hu, ?_⟩
  rw [hs, hu]
  exact Nat.one_ne_zero

end Calculator
