import Calculator.Proofs.Simulation

namespace Calculator

/-- The execution of a postfix program: the operations it carries out, in order, and the values
that it leaves or the failure that stops it. -/
inductive Executes : List Binary64 → List Instruction → List Application →
    Except EvalError (List Binary64) → Prop
  | nil : Executes values [] [] (.ok values)
  | push : Executes (x :: values) code applied outcome →
      Executes values (.push x :: code) applied outcome
  | apply : op.value? left right = some x → Executes (x :: values) code applied outcome →
      Executes (right :: left :: values) (.apply op offset :: code)
        (⟨op, left, right, x⟩ :: applied)
        outcome
  | divisionByZero : op.value? left right = none →
      Executes (right :: left :: values) (.apply op offset :: code) []
        (.error (.divisionByZero offset))
  | missingOperand : values.length < 2 →
      Executes values (.apply op offset :: code) [] (.error (.missingOperand op offset))

namespace Executes

theorem append (h : Executes values code applied (.ok between))
    (h' : Executes between code' applied' outcome) :
    Executes values (code ++ code') (applied ++ applied') outcome := by
  generalize ho : Except.ok between = left at h
  induction h with
  | nil =>
    cases ho
    exact h'
  | push _ ih => exact .push (ih ho)
  | apply hx _ ih => exact .apply hx (ih ho)
  | divisionByZero hx => cases ho
  | missingOperand hl => cases ho

theorem append_error (h : Executes values code applied (.error e)) (code' : List Instruction) :
    Executes values (code ++ code') applied (.error e) := by
  generalize ho : Except.error e = left at h
  induction h with
  | nil => cases ho
  | push _ ih => exact .push (ih ho)
  | apply hx _ ih => exact .apply hx (ih ho)
  | divisionByZero hx => exact .divisionByZero hx
  | missingOperand hl => exact .missingOperand hl

theorem value?_eq (h : Executes values code applied outcome) (ha : a ∈ applied) :
    a.operator.value? a.left a.right = some a.value := by
  induction h with
  | nil => cases ha
  | push _ ih => exact ih ha
  | apply hx _ ih =>
    obtain rfl | ha := List.mem_cons.1 ha
    · exact hx
    · exact ih ha
  | divisionByZero hx => cases ha
  | missingOperand hl => cases ha

theorem unique (h : Executes values code applied outcome)
    (h' : Executes values code applied' outcome') : applied = applied' ∧ outcome = outcome' := by
  induction h generalizing applied' with
  | nil =>
    cases h'
    exact ⟨rfl, rfl⟩
  | push _ ih =>
    cases h' with
    | push h' => exact ih h'
  | apply hx _ ih =>
    cases h' with
    | apply hx' h' =>
      obtain rfl := Option.some.inj (hx.symm.trans hx')
      obtain ⟨rfl, ho⟩ := ih h'
      exact ⟨rfl, ho⟩
    | divisionByZero hx' =>
      rw [hx] at hx'
      cases hx'
    | missingOperand hl => exact absurd hl (Nat.not_lt.2 (Nat.le_add_left 2 _))
  | divisionByZero hx =>
    cases h' with
    | apply hx' _ =>
      rw [hx] at hx'
      cases hx'
    | divisionByZero _ => exact ⟨rfl, rfl⟩
    | missingOperand hl => exact absurd hl (Nat.not_lt.2 (Nat.le_add_left 2 _))
  | missingOperand hl =>
    cases h' with
    | apply _ _ => exact absurd hl (Nat.not_lt.2 (Nat.le_add_left 2 _))
    | divisionByZero _ => exact absurd hl (Nat.not_lt.2 (Nat.le_add_left 2 _))
    | missingOperand _ => exact ⟨rfl, rfl⟩

theorem length_applied (h : Executes values code applied (.ok left)) :
    applied.length = code.countP Instruction.isApply := by
  generalize ho : Except.ok left = outcome at h
  induction h with
  | nil => rfl
  | push _ ih => exact ih ho
  | apply _ _ ih => simp [List.countP_cons, Instruction.isApply, ih ho]
  | divisionByZero _ => cases ho
  | missingOperand _ => cases ho

theorem length_applied_lt (h : Executes values code applied (.error e)) :
    applied.length < code.countP Instruction.isApply := by
  generalize ho : Except.error e = outcome at h
  induction h with
  | nil => cases ho
  | push _ ih => exact ih ho
  | apply _ _ ih => simpa [List.countP_cons, Instruction.isApply] using ih ho
  | divisionByZero _ => simp [List.countP_cons, Instruction.isApply]
  | missingOperand _ => simp [List.countP_cons, Instruction.isApply]

/-- The value of the last operation stays among those left, with what was pushed later above it. -/
theorem exists_last (h : Executes values code applied (.ok left)) :
    applied = [] ∧ (∃ above, left = above ++ values) ∨
      ∃ init a above below, applied = init ++ [a] ∧ left = above ++ a.value :: below := by
  generalize ho : Except.ok left = outcome at h
  induction h with
  | nil =>
    cases ho
    exact .inl ⟨rfl, [], rfl⟩
  | push _ ih =>
    obtain ⟨ha, above, hl⟩ | hlast := ih ho
    · exact .inl ⟨ha, above ++ [_], by rw [hl, List.append_cons]⟩
    · exact .inr hlast
  | apply _ _ ih =>
    obtain ⟨rfl, above, hl⟩ | ⟨init, a, above, below, rfl, hl⟩ := ih ho
    · exact .inr ⟨[], _, above, _, rfl, hl⟩
    · exact .inr ⟨_ :: init, a, above, below, rfl, hl⟩
  | divisionByZero _ => cases ho
  | missingOperand _ => cases ho

theorem last_value (h : Executes [] code applied (.ok [x])) (hne : applied ≠ []) :
    ∃ init last, applied = init ++ [last] ∧ last.value = x := by
  obtain ⟨hnil, _⟩ | ⟨init, last, above, below, ha, hv⟩ := h.exists_last
  · exact absurd hnil hne
  · refine ⟨init, last, ha, ?_⟩
    cases above with
    | nil =>
      cases hv
      rfl
    | cons y above => simp at hv

end Executes

theorem executes_reduceWhile (binds : Operator → Bool) (pending : List Pending)
    (operands : List Binary64) :
    Executes operands (takeOperators binds pending).1 (reduceWhile binds pending operands).applied
      (runPostfix operands (takeOperators binds pending).1) := by
  induction pending generalizing operands with
  | nil => exact .nil
  | cons p pending ih =>
    cases p with
    | openParen offset => exact .nil
    | operator op offset =>
      cases hb : binds op with
      | false =>
        simp only [reduceWhile, takeOperators, hb, Bool.false_eq_true, ↓reduceIte]
        exact .nil
      | true =>
        rcases operands with _ | ⟨right, _ | ⟨left, operands⟩⟩
        · simp only [reduceWhile, takeOperators, hb, ↓reduceIte]
          exact .missingOperand (Nat.zero_lt_succ 1)
        · simp only [reduceWhile, takeOperators, hb, ↓reduceIte]
          exact .missingOperand (Nat.lt_succ_self 1)
        · simp only [reduceWhile, takeOperators, hb, ↓reduceIte, runPostfix, Operator.apply]
          cases hx : op.value? left right with
          | none => exact .divisionByZero hx
          | some x => exact .apply hx (ih (x :: operands))

theorem code_translate_nil (pending : List Pending) :
    (translate pending []).code = (takeOperators (fun _ => true) pending).1 := by
  rw [translate]
  obtain ⟨code, h | ⟨opening, below, h⟩⟩ := takeOperators_all pending <;> rw [h]

namespace Run

theorem applied_andThen_of_ok {r : Run Unit} (h : r.outcome = .ok s) (next : Stacks → Run α) :
    (r.andThen next).applied = r.applied ++ (next s).applied := by
  obtain ⟨hr, rfl⟩ := outcome_eq_ok.1 h
  rw [andThen, hr]

theorem applied_andThen_of_error {r : Run Unit} (h : r.outcome = .error e) (next : Stacks → Run α) :
    (r.andThen next).applied = r.applied := by
  obtain ⟨applied, s, result⟩ := r
  cases result with
  | ok u => cases h
  | error e => rfl

theorem state_andThen_of_ok {r : Run Unit} (h : r.outcome = .ok s) (next : Stacks → Run α) :
    (r.andThen next).state = (next s).state := by
  obtain ⟨hr, rfl⟩ := outcome_eq_ok.1 h
  rw [andThen, hr]

/-- A run that executes `code` and leaves `below` waiting, and then one that executes `code'`. -/
theorem executes_andThen {r : Run Unit} {next : Stacks → Run α}
    (h : Executes operands code r.applied (runPostfix operands code))
    (hr : r.outcome = runPostfix operands code >>= fun values => .ok ⟨values, below⟩)
    (hn : ∀ values,
      Executes values code' (next ⟨values, below⟩).applied (runPostfix values code')) :
    Executes operands (code ++ code') (r.andThen next).applied
      (runPostfix operands (code ++ code')) := by
  rw [runPostfix_append]
  cases hv : runPostfix operands code with
  | ok values =>
    rw [hv] at h hr
    rw [applied_andThen_of_ok hr]
    exact h.append (hn values)
  | error e =>
    rw [hv] at h hr
    rw [applied_andThen_of_error hr]
    exact h.append_error code'

theorem executes_andThen_nil {r : Run Unit} {next : Stacks → Run α}
    (h : Executes operands code r.applied (runPostfix operands code))
    (hr : r.outcome = runPostfix operands code >>= fun values => .ok ⟨values, below⟩)
    (hn : ∀ values, (next ⟨values, below⟩).applied = []) :
    Executes operands code (r.andThen next).applied (runPostfix operands code) := by
  rw [← List.append_nil code]
  apply executes_andThen h hr
  intro values
  rw [hn]
  exact .nil

end Run

namespace Stacks

theorem executes_finish (s : Stacks) :
    Executes s.operands (takeOperators (fun _ => true) s.pending).1 s.finish.applied
      (runPostfix s.operands (takeOperators (fun _ => true) s.pending).1) :=
  Run.executes_andThen_nil (executes_reduceWhile (fun _ => true) s.pending s.operands)
    s.outcome_reduce fun _ => rfl

/-- An evaluation carries out the operations of the postfix program, up to its first failure. -/
theorem executes_pushAll_finish (s : Stacks) (tokens : List (Located Token)) :
    Executes s.operands (translate s.pending tokens).code
      ((s.pushAll tokens).andThen finish).applied
      (runPostfix s.operands (translate s.pending tokens).code) := by
  induction tokens generalizing s with
  | nil =>
    rw [code_translate_nil]
    exact s.executes_finish
  | cons t rest ih =>
    obtain ⟨token, offset⟩ := t
    rw [pushAll, Run.andThen_assoc]
    cases token with
    | number x => exact .push (ih ⟨x :: s.operands, s.pending⟩)
    | blank => exact ih s
    | openParen => exact ih ⟨s.operands, .openParen offset :: s.pending⟩
    | operator op =>
      rw [push, pushOperator, Run.andThen_assoc]
      apply Run.executes_andThen
      · exact executes_reduceWhile _ s.pending s.operands
      · exact outcome_reduceWhile _ s.pending s.operands
      · intro values
        exact ih ⟨values, _⟩
    | closeParen =>
      have hr := s.outcome_reduce
      have he := executes_reduceWhile (fun _ => true) s.pending s.operands
      rw [push, closeParen, Run.andThen_assoc, translate]
      obtain ⟨code, h | ⟨opening, below, h⟩⟩ := takeOperators_all s.pending
      · rw [h] at hr he
        simp only [h]
        apply Run.executes_andThen_nil he hr
        intro values
        rfl
      · rw [h] at hr he
        simp only [h]
        apply Run.executes_andThen he hr
        intro values
        exact ih ⟨values, below⟩

theorem operands_pushAll_finish {s : Stacks} (h : runPostfix s.operands
      (translate s.pending tokens).code = .ok values) :
    ((s.pushAll tokens).andThen finish).state.operands = values := by
  induction tokens generalizing s with
  | nil =>
    rw [code_translate_nil] at h
    have hr := s.outcome_reduce
    rw [h] at hr
    change (s.reduce.andThen _).state.operands = values
    rw [Run.state_andThen_of_ok hr]
  | cons t rest ih =>
    obtain ⟨token, offset⟩ := t
    rw [pushAll, Run.andThen_assoc]
    cases token with
    | number x => exact @ih ⟨x :: s.operands, s.pending⟩ h
    | blank => exact ih h
    | openParen => exact @ih ⟨s.operands, .openParen offset :: s.pending⟩ h
    | operator op =>
      obtain ⟨own, ho, h⟩ := bind_eq_ok_iff.1 ((runPostfix_append _ _ _).symm.trans h)
      have hp := s.outcome_pushOperator op offset
      rw [ho] at hp
      rw [push, Run.state_andThen_of_ok hp]
      exact ih h
    | closeParen =>
      have hr := s.outcome_reduce
      rw [translate] at h
      rw [push, closeParen, Run.andThen_assoc]
      obtain ⟨code, ht | ⟨opening, below, ht⟩⟩ := takeOperators_all s.pending
      · rw [ht] at hr h
        rw [h] at hr
        rw [Run.state_andThen_of_ok hr]
        rfl
      · rw [ht] at hr h
        obtain ⟨own, ho, h⟩ := bind_eq_ok_iff.1 ((runPostfix_append _ _ _).symm.trans h)
        rw [ho] at hr
        rw [Run.state_andThen_of_ok hr]
        exact ih h

end Stacks

theorem operands_evalTokens (h : runPostfix [] (translate [] tokens).code = .ok values) :
    (evalTokens tokens).state.operands = values :=
  Stacks.operands_pushAll_finish (s := {}) h

theorem executes_evalTokens (tokens : List (Located Token)) :
    Executes [] (translate [] tokens).code (evalTokens tokens).applied
      (runPostfix [] (translate [] tokens).code) :=
  Stacks.executes_pushAll_finish {} tokens

end Calculator
