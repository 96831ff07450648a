import Calculator.Proofs.Simulation

namespace Calculator

inductive Instruction.Fails : List Binary64 → Instruction → EvalError → Prop
  | missingOperand : values.length < 2 →
      Fails values (.apply op offset) (.missingOperand op offset)
  | divisionByZero : right.isZero →
      Fails (right :: left :: values) (.apply .div offset) (.divisionByZero offset)

theorem Instruction.fails_apply_iff :
    Instruction.Fails (right :: left :: values) (.apply op offset) e ↔
      op.apply left right offset = .error e := by
  rw [Operator.apply_eq_error_iff]
  constructor
  · intro h
    cases h with
    | missingOperand hl => exact absurd hl (by simp)
    | divisionByZero hz => exact ⟨rfl, hz, rfl⟩
  · rintro ⟨rfl, hz, rfl⟩
    exact .divisionByZero hz

theorem runPostfix_cons_of_fails {i : Instruction} (h : i.Fails values e)
    (code : List Instruction) :
    runPostfix values (i :: code) = .error e := by
  cases h with
  | missingOperand hl =>
    rcases values with _ | ⟨right, _ | ⟨left, values⟩⟩
    · rfl
    · rfl
    · exact absurd hl (by simp)
  | divisionByZero hz =>
    simp only [runPostfix, Operator.apply_eq_error_iff.2 ⟨rfl, hz, rfl⟩]

theorem fails_or_runPostfix_singleton (values : List Binary64) (i : Instruction) :
    (∃ e, i.Fails values e) ∨ ∃ values', runPostfix values [i] = .ok values' := by
  cases i with
  | push x => exact .inr ⟨x :: values, rfl⟩
  | apply op offset =>
    rcases values with _ | ⟨right, _ | ⟨left, values⟩⟩
    · exact .inl ⟨_, .missingOperand (by simp)⟩
    · exact .inl ⟨_, .missingOperand (by simp)⟩
    · cases hx : op.apply left right offset with
      | error e => exact .inl ⟨e, Instruction.fails_apply_iff.2 hx⟩
      | ok x => exact .inr ⟨x :: values, by simp only [runPostfix, hx]⟩

theorem runPostfix_eq_error_iff :
    runPostfix values code = .error e ↔ ∃ before i after own, code = before ++ i :: after ∧
      runPostfix values before = .ok own ∧ i.Fails own e := by
  constructor
  · intro h
    induction code generalizing values with
    | nil => cases h
    | cons i code ih =>
      rw [← List.singleton_append, runPostfix_append] at h
      obtain ⟨e', hf⟩ | ⟨values', hi⟩ := fails_or_runPostfix_singleton values i
      · rw [runPostfix_cons_of_fails hf] at h
        cases h
        exact ⟨[], i, code, values, rfl, rfl, hf⟩
      · rw [hi] at h
        obtain ⟨before, j, after, own, rfl, hb, hf⟩ := ih h
        refine ⟨i :: before, j, after, own, rfl, ?_, hf⟩
        rw [← List.singleton_append, runPostfix_append, hi]
        exact hb
  · rintro ⟨before, i, after, own, rfl, hb, hf⟩
    rw [runPostfix_append, hb, ok_bind, runPostfix_cons_of_fails hf]

theorem mem_of_runPostfix_eq_error (h : runPostfix values code = .error e) :
    (∃ op offset, .apply op offset ∈ code ∧ e = .missingOperand op offset) ∨
      ∃ offset, .apply .div offset ∈ code ∧ e = .divisionByZero offset := by
  obtain ⟨before, i, after, own, rfl, _, hf⟩ := runPostfix_eq_error_iff.1 h
  have hm : i ∈ before ++ i :: after := List.mem_append_right _ List.mem_cons_self
  cases hf with
  | missingOperand _ => exact .inl ⟨_, _, hm, rfl⟩
  | divisionByZero _ => exact .inr ⟨_, hm, rfl⟩

namespace Translation

theorem value_eq_ok_iff {t : Translation} :
    t.value values = .ok x ↔ t.mismatch = none ∧ runPostfix values t.code = .ok [x] := by
  obtain ⟨code, mismatch⟩ := t
  rw [value]
  rcases runPostfix values code with e | (_ | ⟨y, _ | ⟨z, rest⟩⟩) <;> cases mismatch <;> simp

theorem value_eq_emptyExpression_iff {t : Translation} :
    t.value values = .error .emptyExpression ↔
      t.mismatch = none ∧ runPostfix values t.code = .ok [] := by
  obtain ⟨code, mismatch⟩ := t
  rw [value]
  rcases hr : runPostfix values code with e | (_ | ⟨y, _ | ⟨z, rest⟩⟩)
  · obtain ⟨_, _, _, rfl⟩ | ⟨_, _, rfl⟩ := mem_of_runPostfix_eq_error hr <;> simp
  all_goals cases mismatch <;> simp

theorem value_eq_unjoinedValues_iff {t : Translation} :
    t.value values = .error (.unjoinedValues count) ↔ t.mismatch = none ∧
      ∃ left, runPostfix values t.code = .ok left ∧ left.length = count ∧ 2 ≤ count := by
  obtain ⟨code, mismatch⟩ := t
  rw [value]
  rcases hr : runPostfix values code with e | (_ | ⟨y, _ | ⟨z, rest⟩⟩)
  · obtain ⟨_, _, _, rfl⟩ | ⟨_, _, rfl⟩ := mem_of_runPostfix_eq_error hr <;> simp
  all_goals
    cases mismatch <;> simp
    omega

theorem value_eq_mismatchedParenthesis_iff {t : Translation} :
    t.value values = .error (.mismatchedParenthesis offset) ↔ t.mismatch = some offset ∧
      ∃ left, runPostfix values t.code = .ok left := by
  obtain ⟨code, mismatch⟩ := t
  rw [value]
  rcases hr : runPostfix values code with e | (_ | ⟨y, _ | ⟨z, rest⟩⟩)
  · obtain ⟨_, _, _, rfl⟩ | ⟨_, _, rfl⟩ := mem_of_runPostfix_eq_error hr <;> simp
  all_goals cases mismatch <;> simp

theorem value_eq_missingOperand_iff {t : Translation} :
    t.value values = .error (.missingOperand op offset) ↔
      runPostfix values t.code = .error (.missingOperand op offset) := by
  obtain ⟨code, mismatch⟩ := t
  rw [value]
  rcases runPostfix values code with e | (_ | ⟨y, _ | ⟨z, rest⟩⟩) <;> cases mismatch <;> simp

theorem value_eq_divisionByZero_iff {t : Translation} :
    t.value values = .error (.divisionByZero offset) ↔
      runPostfix values t.code = .error (.divisionByZero offset) := by
  obtain ⟨code, mismatch⟩ := t
  rw [value]
  rcases runPostfix values code with e | (_ | ⟨y, _ | ⟨z, rest⟩⟩) <;> cases mismatch <;> simp

end Translation

end Calculator
