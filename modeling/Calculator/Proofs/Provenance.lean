import Calculator.Proofs.Outcomes

namespace Calculator

theorem count_takeOperators (binds : Operator → Bool) (pending : List Pending) (op : Operator)
    (offset : Nat) :
    (takeOperators binds pending).1.count (.apply op offset) +
      (takeOperators binds pending).2.count (.operator op offset) =
        pending.count (.operator op offset) := by
  induction pending with
  | nil => rfl
  | cons p pending ih =>
    cases p with
    | openParen opening => exact Nat.zero_add _
    | operator first place =>
      cases hb : binds first with
      | false =>
        simp only [takeOperators, hb, Bool.false_eq_true, ↓reduceIte]
        exact Nat.zero_add _
      | true =>
        simp only [takeOperators, hb, ↓reduceIte, List.count_cons, beq_iff_eq,
          Instruction.apply.injEq, Pending.operator.injEq, ← ih]
        omega

theorem count_translate (pending : List Pending) (tokens : List (Located Token)) (op : Operator)
    (offset : Nat) :
    (translate pending tokens).code.count (.apply op offset) ≤
      tokens.count ⟨.operator op, offset⟩ + pending.count (.operator op offset) := by
  induction tokens generalizing pending with
  | nil =>
    have hc := count_takeOperators (fun _ => true) pending op offset
    rw [translate, ← hc, List.count_nil, Nat.zero_add]
    obtain ⟨code, h | ⟨opening, below, h⟩⟩ := takeOperators_all pending <;> simp [h]
  | cons t rest ih =>
    obtain ⟨token, place⟩ := t
    cases token with
    | number x =>
      have hr := ih pending
      simpa [translate, Translation.emit, List.count_cons] using hr
    | blank =>
      have hr := ih pending
      simpa [translate, List.count_cons] using hr
    | openParen =>
      have hr := ih (.openParen place :: pending)
      simpa [translate, List.count_cons] using hr
    | operator next =>
      have hc := count_takeOperators (next.precedence ≤ ·.precedence) pending op offset
      have hr := ih (.operator next place ::
        (takeOperators (next.precedence ≤ ·.precedence) pending).2)
      simp only [translate, Translation.emit, List.count_append, List.count_cons, beq_iff_eq,
        Pending.operator.injEq, Located.mk.injEq, Token.operator.injEq] at hr ⊢
      omega
    | closeParen =>
      have hc := count_takeOperators (fun _ => true) pending op offset
      rw [translate]
      obtain ⟨code, h | ⟨opening, below, h⟩⟩ := takeOperators_all pending
      · simp only [h] at hc ⊢
        simp at hc ⊢
        omega
      · have hr := ih below
        simp only [h] at hc ⊢
        simp [Translation.emit] at hc ⊢
        omega

theorem mem_of_apply_mem_translate (h : .apply op offset ∈ (translate [] tokens).code) :
    ⟨.operator op, offset⟩ ∈ tokens := by
  have hc := count_translate [] tokens op offset
  have hp := List.count_pos_iff.2 h
  apply List.count_pos_iff.1
  simp only [List.count_nil, Nat.add_zero] at hc
  omega

theorem mem_of_missingOperand
    (h : (evalTokens tokens).result = .error (.missingOperand op offset)) :
    ⟨.operator op, offset⟩ ∈ tokens := by
  rw [result_evalTokens, evalPostfix, Translation.value_eq_missingOperand_iff] at h
  obtain ⟨_, _, hm, he⟩ | ⟨_, _, he⟩ := mem_of_runPostfix_eq_error h
  · cases he
    exact mem_of_apply_mem_translate hm
  · cases he

theorem mem_of_divisionByZero (h : (evalTokens tokens).result = .error (.divisionByZero offset)) :
    ⟨.operator .div, offset⟩ ∈ tokens := by
  rw [result_evalTokens, evalPostfix, Translation.value_eq_divisionByZero_iff] at h
  obtain ⟨_, _, _, he⟩ | ⟨_, hm, he⟩ := mem_of_runPostfix_eq_error h
  · cases he
  · cases he
    exact mem_of_apply_mem_translate hm

namespace Stacks

theorem count_pending_push {s s' : Stacks} {t : Located Token} (h : (s.push t).outcome = .ok s')
    (op : Operator) (offset : Nat) :
    s'.pending.count (.operator op offset) ≤
      s.pending.count (.operator op offset) + [t].count ⟨.operator op, offset⟩ := by
  cases pushes_of_outcome h with
  | number => exact Nat.le_add_right _ _
  | blank => exact Nat.le_add_right _ _
  | openParen => simp
  | operator next ht _ =>
    have hc := count_takeOperators (next.precedence ≤ ·.precedence) s.pending op offset
    simp only [ht] at hc
    simp only [List.count_cons, List.count_nil, beq_iff_eq, Pending.operator.injEq,
      Located.mk.injEq, Token.operator.injEq]
    omega
  | closeParen ht _ =>
    have hc := count_takeOperators (fun _ => true) s.pending op offset
    simp only [ht, List.count_cons, beq_iff_eq, reduceCtorEq, ↓reduceIte] at hc
    simp only [List.count_cons, List.count_nil, beq_iff_eq, Located.mk.injEq, reduceCtorEq,
      false_and, ↓reduceIte]
    omega

theorem count_pending_pushAll {s s' : Stacks} {tokens : List (Located Token)}
    (h : (s.pushAll tokens).outcome = .ok s') (op : Operator) (offset : Nat) :
    s'.pending.count (.operator op offset) ≤
      s.pending.count (.operator op offset) + tokens.count ⟨.operator op, offset⟩ := by
  induction tokens generalizing s with
  | nil =>
    obtain rfl := Except.ok.inj (s.outcome_pushAll_nil ▸ h)
    exact Nat.le_add_right _ _
  | cons t rest ih =>
    rw [outcome_pushAll_cons, bind_eq_ok_iff] at h
    obtain ⟨mid, ht, h⟩ := h
    have hp := count_pending_push ht op offset
    have hr := ih h
    simp only [List.count_cons, List.count_nil] at hp ⊢
    omega

end Stacks

end Calculator
