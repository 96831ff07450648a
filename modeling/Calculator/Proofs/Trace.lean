import Calculator.Proofs.Accounting
import Calculator.Proofs.Answers
import Calculator.Proofs.Outcomes
import Calculator.Proofs.Postorder
import Mathlib.Data.List.Basic

namespace Calculator

/-- How the report on a line with so many operators ends, for each result: how many operations
were carried out, what the postfix program left, and what is reported behind the operations. -/
inductive Closes (line : String) (operators : Nat) : List Application →
    Except EvalError (List Binary64) → Except Error Binary64 → List Event → Prop
  | value : applied.length = operators →
      (0 < operators → ∃ init last, applied = init ++ [last] ∧ last.value = x) →
      Closes line operators applied (.ok [x]) (.ok x) [.evaluated line x]
  | emptyExpression : applied.length = operators →
      Closes line operators applied (.ok []) (.error (.eval .emptyExpression))
        [.failed line (.eval .emptyExpression)]
  | unjoinedValues : applied.length = operators →
      Closes line operators applied (.ok left) (.error (.eval (.unjoinedValues left.length)))
        [.unjoined left.reverse, .failed line (.eval (.unjoinedValues left.length))]
  | mismatchedParenthesis : applied.length ≤ operators →
      Closes line operators applied (.ok left) (.error (.eval (.mismatchedParenthesis offset)))
        [.failed line (.eval (.mismatchedParenthesis offset))]
  | missingOperand : applied.length < operators →
      Closes line operators applied (.error (.missingOperand op offset))
        (.error (.eval (.missingOperand op offset)))
        [.failed line (.eval (.missingOperand op offset))]
  | divisionByZero : applied.length < operators →
      Closes line operators applied (.error (.divisionByZero offset))
        (.error (.eval (.divisionByZero offset))) [.failed line (.eval (.divisionByZero offset))]

theorem Closes.level_eq (h : Closes line operators applied left result closing) (he : e ∈ closing) :
    e.level = .debug := by
  cases h with
  | unjoinedValues =>
    obtain rfl | rfl : e = _ ∨ e = _ := by simpa using he
    all_goals rfl
  | value | emptyExpression | mismatchedParenthesis | missingOperand | divisionByZero =>
    obtain rfl := List.mem_singleton.1 he
    rfl

theorem filter_level (h : ∀ e ∈ es, Event.level e = level) (level' : Level) :
    es.filter (·.level = level') = if level = level' then es else [] := by
  split
  case isTrue hl =>
    subst hl
    exact List.filter_eq_self.2 fun e he => decide_eq_true (h e he)
  case isFalse hl =>
    apply List.filter_eq_nil_iff.2
    intro e he
    rw [h e he]
    exact fun hd => hl (of_decide_eq_true hd)

theorem filter_level_append {first middle last : List Event} (hf : ∀ e ∈ first, e.level = .debug)
    (hm : ∀ e ∈ middle, e.level = .trace) (hl : ∀ e ∈ last, e.level = .debug) :
    (first ++ middle ++ last).filter (·.level = .trace) = middle ∧
      (first ++ middle ++ last).filter (·.level = .debug) = first ++ last := by
  simp only [List.filter_append, filter_level hf, filter_level hm, filter_level hl, reduceCtorEq,
    ↓reduceIte, List.nil_append, List.append_nil, and_self]

def Run.conclusion (line : String) (r : Run Binary64) : List Event :=
  r.closing line ++ match r.result with
    | .ok _ => []
    | .error e => [.failed line (.eval e)]

theorem length_applied_evalTokens (hm : (translate [] tokens).mismatch = none)
    (hr : runPostfix [] (translate [] tokens).code = .ok values) :
    (evalTokens tokens).applied.length = tokens.countP Located.isOperator := by
  have hx := executes_evalTokens tokens
  rw [hr] at hx
  exact hx.length_applied.trans (countP_translate hm).2

theorem length_applied_evalTokens_le (hr : runPostfix [] (translate [] tokens).code = .ok values) :
    (evalTokens tokens).applied.length ≤ tokens.countP Located.isOperator := by
  have hx := executes_evalTokens tokens
  rw [hr] at hx
  rw [hx.length_applied]
  exact countP_isApply_translate_le [] tokens

theorem length_applied_evalTokens_lt (hr : runPostfix [] (translate [] tokens).code = .error e) :
    (evalTokens tokens).applied.length < tokens.countP Located.isOperator := by
  have hx := executes_evalTokens tokens
  rw [hr] at hx
  exact Nat.lt_of_lt_of_le hx.length_applied_lt (countP_isApply_translate_le [] tokens)

theorem closes_evalTokens (line : String) (tokens : List (Located Token)) :
    Closes line (tokens.countP Located.isOperator) (evalTokens tokens).applied
      (runPostfix [] (translate [] tokens).code) ((evalTokens tokens).result.mapError .eval)
      ((evalTokens tokens).conclusion line) := by
  have hresult := result_evalTokens tokens
  simp only [Run.conclusion, Run.closing]
  cases h : (evalTokens tokens).result with
  | ok x =>
    obtain ⟨hm, hr⟩ := Translation.value_eq_ok_iff.1 (hresult.symm.trans h)
    have hx := executes_evalTokens tokens
    have hl := length_applied_evalTokens hm hr
    rw [hr] at hx ⊢
    apply Closes.value hl
    intro hpos
    exact hx.last_value (List.ne_nil_of_length_pos (hl ▸ hpos))
  | error e =>
    rw [h] at hresult
    cases e with
    | emptyExpression =>
      obtain ⟨hm, hr⟩ := Translation.value_eq_emptyExpression_iff.1 hresult.symm
      rw [hr]
      exact .emptyExpression (length_applied_evalTokens hm hr)
    | unjoinedValues count =>
      obtain ⟨hm, left, hr, rfl, _⟩ := Translation.value_eq_unjoinedValues_iff.1 hresult.symm
      rw [hr, operands_evalTokens hr]
      exact .unjoinedValues (length_applied_evalTokens hm hr)
    | mismatchedParenthesis offset =>
      obtain ⟨_, left, hr⟩ := Translation.value_eq_mismatchedParenthesis_iff.1 hresult.symm
      rw [hr]
      exact .mismatchedParenthesis (length_applied_evalTokens_le hr)
    | missingOperand op offset =>
      have hr := Translation.value_eq_missingOperand_iff.1 hresult.symm
      rw [hr]
      exact .missingOperand (length_applied_evalTokens_lt hr)
    | divisionByZero offset =>
      have hr := Translation.value_eq_divisionByZero_iff.1 hresult.symm
      rw [hr]
      exact .divisionByZero (length_applied_evalTokens_lt hr)

namespace Session

theorem answerEvents_of_unread {s : Session} (he : s.isExit line = false)
    (h : readTokens line = .error e) : s.answerEvents line = [.failed line (.read e)] := by
  simp only [answerEvents, he, Bool.false_eq_true, ↓reduceIte, evaluationEvents, h,
    evaluate_of_unread h, List.nil_append]

theorem answerEvents_of_read {s : Session} (he : s.isExit line = false)
    (h : readTokens line = .ok tokens) :
    s.answerEvents line = .tokenized line tokens.length ::
      (evalTokens tokens).applied.map .applied ++ (evalTokens tokens).conclusion line := by
  simp only [answerEvents, he, Bool.false_eq_true, ↓reduceIte, evaluationEvents, h,
    evaluate_of_read h, Run.conclusion, List.append_assoc, List.cons_append]
  cases (evalTokens tokens).result <;> rfl

/-- The trace of a line tells every operation that is carried out, once and in order, and nothing
else. -/
theorem answer_trace {s : Session} (he : s.isExit line = false) :
    let events := (s.answer line).events (.upTo .trace)
    (∀ e, readTokens line = .error e → events = [.failed line (.read e)]) ∧
    ∀ tokens, readTokens line = .ok tokens → ∃ applied left closing,
      events = .tokenized line tokens.length :: applied.map .applied ++ closing ∧
      events.filter (·.level = .trace) = applied.map .applied ∧
      events.filter (·.level = .debug) = .tokenized line tokens.length :: closing ∧
      Executes [] (translate [] tokens).code applied left ∧
      Closes line (tokens.countP Located.isOperator) applied left (evaluate line) closing ∧
      ∀ e : Expr, e.Is .sum → e.tokens = tokens → e.Performs applied := by
  intro events
  have hevents : events = s.answerEvents line := (s.answer_reports line).events_trace
  constructor
  · intro e h
    exact hevents.trans (answerEvents_of_unread he h)
  · intro tokens h
    have hread := hevents.trans (answerEvents_of_read he h)
    have hcloses := closes_evalTokens line tokens
    have hfirst : ∀ e ∈ [Event.tokenized line tokens.length], e.level = .debug :=
      List.forall_mem_singleton.2 rfl
    have htrace : ∀ e ∈ (evalTokens tokens).applied.map Event.applied, e.level = .trace := by
      intro e hm
      obtain ⟨a, _, rfl⟩ := List.mem_map.1 hm
      rfl
    have hlast : ∀ e ∈ (evalTokens tokens).conclusion line, e.level = .debug :=
      fun e hm => hcloses.level_eq hm
    obtain ⟨htraces, hdebugs⟩ := filter_level_append hfirst htrace hlast
    refine ⟨_, _, _, hread, ?_, ?_, executes_evalTokens tokens, ?_, ?_⟩
    · rw [hread]
      exact htraces
    · rw [hread]
      exact hdebugs
    · rw [evaluate_of_read h]
      exact hcloses
    · intro e hf ht
      subst ht
      have hu := (executes_evalTokens e.tokens).unique (Expr.executes_tokens hf)
      exact hu.1 ▸ e.performs_applications

/-- The subtraction in parentheses comes before the division by its value, which stops the one in
front. -/
theorem answer_trace_quotient :
    let line := "8-6/(1-1)"
    let tree : Expr := .binary .sub 1 (.number (.nearest 8 false) 0)
      (.binary .div 3 (.number (.nearest 6 false) 2) (.group 4
        (.binary .sub 6 (.number (.nearest 1 false) 5) (.number (.nearest 1 false) 7)) 8))
    ({} : Session).isExit line = false ∧ readTokens line = .ok tree.tokens ∧ tree.Is .sum ∧
      ∃ applied left closing,
        (({} : Session).answer line).events (.upTo .trace) =
          .tokenized line 9 :: applied.map .applied ++ closing ∧
        Closes line 3 applied left (.error (.eval (.divisionByZero 3))) closing ∧
        tree.Performs applied := by
  intro line tree
  have he : ({} : Session).isExit line = false := by decide +kernel
  have hr : readTokens line = .ok tree.tokens := by decide +kernel
  have hf : tree.Is .sum := by decide
  have hv : evaluate line = .error (.eval (.divisionByZero 3)) := by decide +kernel
  obtain ⟨applied, left, closing, hevents, -, -, -, hcloses, hperforms⟩ :=
    (answer_trace he).2 tree.tokens hr
  exact ⟨he, hr, hf, applied, left, closing, hevents, hv ▸ hcloses, hperforms tree hf rfl⟩

end Session

end Calculator
