import Calculator.Postfix
import Calculator.Proofs.Sentences

namespace Calculator

theorem countP_takeOperators (binds : Operator → Bool) (pending : List Pending) :
    (takeOperators binds pending).1.countP Instruction.isPush = 0 ∧
      (takeOperators binds pending).1.countP Instruction.isApply +
        (takeOperators binds pending).2.countP Pending.isOperator =
          pending.countP Pending.isOperator ∧
      (takeOperators binds pending).2.countP Pending.isParen = pending.countP Pending.isParen := by
  induction pending with
  | nil => exact ⟨rfl, rfl, rfl⟩
  | cons p pending ih =>
    cases p with
    | openParen offset => exact ⟨rfl, Nat.zero_add _, rfl⟩
    | operator op offset =>
      cases hb : binds op with
      | false =>
        simp only [takeOperators, hb, Bool.false_eq_true, ↓reduceIte]
        exact ⟨rfl, Nat.zero_add _, trivial⟩
      | true =>
        obtain ⟨hp, ha, hq⟩ := ih
        simp only [takeOperators, hb, ↓reduceIte]
        refine ⟨hp, ?_, hq⟩
        simp only [List.countP_cons, Instruction.isApply, Pending.isOperator, ↓reduceIte, ← ha]
        omega

theorem mismatch_eq_none_iff :
    (translate pending tokens).mismatch = none ↔
      BalancedFrom Located.opens Located.closes (pending.countP Pending.isParen) tokens := by
  induction tokens generalizing pending with
  | nil =>
    obtain ⟨_, _, hq⟩ := countP_takeOperators (fun _ => true) pending
    rw [balancedFrom_nil, translate, ← hq]
    obtain ⟨code, h | ⟨offset, below, h⟩⟩ := takeOperators_all pending
    · simp [h]
    · simp [h, Pending.isParen]
  | cons t rest ih =>
    rw [balancedFrom_cons]
    obtain ⟨token, offset⟩ := t
    cases token with
    | number x => simp [translate, Translation.emit, ih, Located.opens, Located.closes]
    | operator op =>
      obtain ⟨_, _, hq⟩ := countP_takeOperators (op.precedence ≤ ·.precedence) pending
      simp [translate, Translation.emit, ih, hq, Located.opens, Located.closes, Pending.isParen]
    | openParen =>
      simp [translate, ih, Located.opens, Located.closes, List.countP_cons, Pending.isParen]
    | closeParen =>
      obtain ⟨_, _, hq⟩ := countP_takeOperators (fun _ => true) pending
      rw [translate, ← hq]
      obtain ⟨code, h | ⟨opening, below, h⟩⟩ := takeOperators_all pending
      · simp [h, Located.opens, Located.closes]
      · simp [h, ih, Translation.emit, Located.opens, Located.closes, List.countP_cons,
          Pending.isParen]
    | blank => simp [translate, ih, Located.opens, Located.closes]

theorem mismatch_eq_none_iff_balanced :
    (translate [] tokens).mismatch = none ↔ Balanced Located.opens Located.closes tokens :=
  mismatch_eq_none_iff.trans balanced_iff.symm

theorem countP_translate (h : (translate pending tokens).mismatch = none) :
    (translate pending tokens).code.countP Instruction.isPush = tokens.countP Located.isNumber ∧
      (translate pending tokens).code.countP Instruction.isApply =
        tokens.countP Located.isOperator + pending.countP Pending.isOperator := by
  induction tokens generalizing pending with
  | nil =>
    obtain ⟨hp, ha, _⟩ := countP_takeOperators (fun _ => true) pending
    rw [translate] at h ⊢
    obtain ⟨code, ht | ⟨offset, below, ht⟩⟩ := takeOperators_all pending
    · simp only [ht] at hp ha ⊢
      exact ⟨hp, ha.trans (Nat.zero_add _).symm⟩
    · simp [ht] at h
  | cons t rest ih =>
    obtain ⟨token, offset⟩ := t
    cases token with
    | number x =>
      obtain ⟨hp, ha⟩ := ih h
      simp only [translate, Translation.emit, List.countP_append, hp, ha]
      simp [List.countP_cons, Instruction.isPush, Instruction.isApply, Located.isNumber,
        Located.isOperator, Nat.add_comm]
    | operator op =>
      obtain ⟨hp, ha⟩ := ih h
      obtain ⟨hp', ha', _⟩ := countP_takeOperators (op.precedence ≤ ·.precedence) pending
      simp only [translate, Translation.emit, List.countP_append, hp, ha, hp', ← ha']
      simp [List.countP_cons, Pending.isOperator, Located.isNumber, Located.isOperator]
      omega
    | openParen =>
      obtain ⟨hp, ha⟩ := ih h
      exact ⟨hp, ha⟩
    | closeParen =>
      obtain ⟨hp', ha', _⟩ := countP_takeOperators (fun _ => true) pending
      rw [translate] at h ⊢
      obtain ⟨code, ht | ⟨opening, below, ht⟩⟩ := takeOperators_all pending
      · simp [ht] at h
      · simp only [ht] at h hp' ha' ⊢
        obtain ⟨hp, ha⟩ := ih h
        simp only [Translation.emit, List.countP_append, hp, ha, hp', ← ha']
        simp [Pending.isOperator, Located.isNumber, Located.isOperator]
        omega
    | blank => exact ih h

theorem countP_isApply_translate_le (pending : List Pending) (tokens : List (Located Token)) :
    (translate pending tokens).code.countP Instruction.isApply ≤
      tokens.countP Located.isOperator + pending.countP Pending.isOperator := by
  induction tokens generalizing pending with
  | nil =>
    obtain ⟨_, ha, _⟩ := countP_takeOperators (fun _ => true) pending
    rw [translate]
    obtain ⟨code, ht | ⟨offset, below, ht⟩⟩ := takeOperators_all pending <;>
      simp only [ht] at ha ⊢ <;> omega
  | cons t rest ih =>
    obtain ⟨token, offset⟩ := t
    cases token with
    | number x => exact ih pending
    | operator op =>
      obtain ⟨_, ha, _⟩ := countP_takeOperators (op.precedence ≤ ·.precedence) pending
      have hr := ih (.operator op offset ::
        (takeOperators (op.precedence ≤ ·.precedence) pending).2)
      simp only [List.countP_cons, Pending.isOperator, ↓reduceIte] at hr
      simp only [translate, Translation.emit, List.countP_append, List.countP_cons,
        Located.isOperator, ↓reduceIte]
      omega
    | openParen => exact ih (.openParen offset :: pending)
    | closeParen =>
      obtain ⟨_, ha, _⟩ := countP_takeOperators (fun _ => true) pending
      rw [translate]
      obtain ⟨code, ht | ⟨opening, below, ht⟩⟩ := takeOperators_all pending
      · simp only [ht] at ha ⊢
        omega
      · have hr := ih below
        simp only [ht, List.countP_cons, Pending.isOperator] at ha
        simp only [ht, Translation.emit, List.countP_append, List.countP_cons, Located.isOperator]
        omega
    | blank => exact ih pending

theorem length_runPostfix (h : runPostfix values code = .ok values') :
    values'.length + code.countP Instruction.isApply =
      values.length + code.countP Instruction.isPush := by
  induction code generalizing values with
  | nil =>
    cases h
    rfl
  | cons i code ih =>
    cases i with
    | push x =>
      have hl := ih h
      simp [List.countP_cons, Instruction.isPush, Instruction.isApply] at hl ⊢
      omega
    | apply op offset =>
      rcases values with _ | ⟨right, _ | ⟨left, values⟩⟩
      · cases h
      · cases h
      · simp only [runPostfix] at h
        cases hv : op.apply left right offset with
        | error e =>
          rw [hv] at h
          cases h
        | ok x =>
          rw [hv] at h
          have hl := ih h
          simp [List.countP_cons, Instruction.isPush, Instruction.isApply] at hl ⊢
          omega

/-- A row translated to its end and run leaves its numbers beyond its operators. -/
theorem length_runPostfix_translate (hm : (translate [] tokens).mismatch = none)
    (hr : runPostfix [] (translate [] tokens).code = .ok left) :
    left.length + tokens.countP Located.isOperator = tokens.countP Located.isNumber := by
  obtain ⟨hp, ha⟩ := countP_translate hm
  have hl := length_runPostfix hr
  simpa only [hp, ha, List.length_nil, List.countP_nil, Nat.zero_add, Nat.add_zero] using hl

/-- Every place that lacks an operator or an operand shows in the numbers of both. -/
theorem countP_places (afterOperand : Bool) (tokens : List (Located Token)) :
    tokens.countP Located.isNumber + vacantPlaces afterOperand tokens =
      tokens.countP Located.isOperator + (!afterOperand).toNat +
        unjoinedPlaces afterOperand tokens := by
  induction tokens generalizing afterOperand with
  | nil => simp [vacantPlaces, unjoinedPlaces]
  | cons t rest ih =>
    obtain ⟨token, offset⟩ := t
    have ha : (!afterOperand).toNat + afterOperand.toNat = 1 := by cases afterOperand <;> rfl
    have hs := ih afterOperand
    have hf := ih false
    have ht := ih true
    simp only [Bool.not_false, Bool.not_true, Bool.toNat_false, Bool.toNat_true] at hf ht
    rw [countP_cons_toNat, countP_cons_toNat]
    cases token <;>
      simp only [vacantPlaces, unjoinedPlaces, Located.isNumber, Located.isOperator,
        Bool.toNat_false, Bool.toNat_true] <;>
      omega

end Calculator
