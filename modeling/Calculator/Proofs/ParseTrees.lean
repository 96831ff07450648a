import Calculator.Grammar
import Calculator.Proofs.Simulation

namespace Calculator

/-- An operator of the level leaves all that waits where it is. -/
def Yields (level : Nat) : List Pending → Prop
  | .operator op _ :: _ => op.precedence < level
  | _ => True

/-- What comes next applies every operator of the level or above. -/
def Completes (level : Nat) : List (Located Token) → Prop
  | [] => True
  | ⟨.closeParen, _⟩ :: _ => True
  | ⟨.operator op, _⟩ :: _ => op.precedence ≤ level
  | _ => False

theorem Yields.mono (h : Yields level pending) (hl : level ≤ level') :
    Yields level' pending := by
  rcases pending with _ | ⟨_ | _, _⟩
  · trivial
  · exact Nat.lt_of_lt_of_le h hl
  · trivial

theorem Yields.takeOperators {op : Operator} (h : Yields op.precedence pending) :
    takeOperators (op.precedence ≤ ·.precedence) pending = ([], pending) := by
  rcases pending with _ | ⟨top | _, _⟩
  · rfl
  · have hb : ¬ op.precedence ≤ top.precedence := Nat.not_le_of_gt h
    simp only [Calculator.takeOperators, decide_eq_true_eq, if_neg hb]
  · rfl

theorem Completes.mono (h : Completes level rest) (hl : level ≤ level') :
    Completes level' rest := by
  rcases rest with _ | ⟨⟨_ | _ | _ | _ | _, _⟩, _⟩
  · trivial
  · exact h
  · exact Nat.le_trans h hl
  · exact h
  · trivial
  · exact h

theorem Completes.translate {op : Operator} (h : Completes op.precedence rest) :
    translate (.operator op offset :: pending) rest =
      (translate pending rest).emit [.apply op offset] := by
  rcases rest with _ | ⟨⟨_ | next | _ | _ | _, _⟩, rest⟩
  · simp only [Calculator.translate, takeOperators, ↓reduceIte]
    obtain ⟨code, ht | ⟨opening, below, ht⟩⟩ := takeOperators_all pending <;> simp only [ht] <;> rfl
  · exact h.elim
  · have hb : next.precedence ≤ op.precedence := h
    simp only [Calculator.translate, takeOperators, hb, decide_true, ↓reduceIte]
    rfl
  · exact h.elim
  · simp only [Calculator.translate, takeOperators, ↓reduceIte]
    obtain ⟨code, ht | ⟨opening, below, ht⟩⟩ := takeOperators_all pending <;> simp only [ht] <;> rfl
  · exact h.elim

namespace Expr

def code : Expr → List Instruction
  | .number x _ => [.push x]
  | .group _ body _ => body.code
  | .binary op offset left right => left.code ++ right.code ++ [.apply op offset]

theorem runPostfix_code (e : Expr) (values : List Binary64) :
    runPostfix values e.code = e.eval >>= fun x => .ok (x :: values) := by
  induction e generalizing values with
  | number x offset => rfl
  | group opening body closing ih => exact ih values
  | binary op offset left right ihl ihr =>
    simp only [code, runPostfix_append, ihl, eval]
    cases left.eval with
    | error e => rfl
    | ok x =>
      simp only [ok_bind, ihr]
      cases right.eval with
      | error e => rfl
      | ok y =>
        simp only [ok_bind, runPostfix]
        cases op.apply x y offset <;> rfl

/-- In any surroundings that respect its level, an expression becomes its own program. -/
theorem translate_tokens {e : Expr} (h : e.Fits level) (hp : Yields level pending)
    (hr : Completes level rest) :
    translate pending (e.tokens ++ rest) = (translate pending rest).emit e.code := by
  induction e generalizing level pending rest with
  | number x offset => rfl
  | group opening body closing ih =>
    have hb : translate (.openParen opening :: pending)
        (body.tokens ++ ⟨.closeParen, closing⟩ :: rest) =
          (translate pending rest).emit body.code := ih h trivial trivial
    simpa only [tokens, List.cons_append, List.append_assoc, List.nil_append, translate, code]
      using hb
  | binary op offset left right ihl ihr =>
    obtain ⟨hl, hleft, hright⟩ := h
    have hp' := hp.mono hl
    have hr' := hr.mono hl
    -- the left operand ends at the operator, which then waits for the right one
    simp only [tokens, List.append_assoc, List.cons_append]
    rw [ihl hleft hp' (Nat.le_refl _), translate]
    simp only [hp'.takeOperators]
    rw [ihr hright (Nat.lt_succ_self _) (hr'.mono (Nat.le_succ _)), hr'.translate]
    simp only [Translation.emit_emit, List.nil_append, code, List.append_assoc]

theorem eval_cases (e : Expr) :
    (∃ x, e.eval = .ok x) ∨ ∃ offset, ⟨.operator .div, offset⟩ ∈ e.tokens ∧
      e.eval = .error (.divisionByZero offset) := by
  induction e with
  | number x offset => exact .inl ⟨x, rfl⟩
  | group opening body closing ih =>
    obtain hx | ⟨offset, hm, he⟩ := ih
    · exact .inl hx
    · exact .inr ⟨offset, List.mem_cons_of_mem _ (List.mem_append_left _ hm), he⟩
  | binary op offset left right ihl ihr =>
    simp only [eval]
    obtain ⟨x, hx⟩ | ⟨place, hm, he⟩ := ihl
    · obtain ⟨y, hy⟩ | ⟨place, hm, he⟩ := ihr
      · simp only [hx, hy]
        cases hv : op.apply x y offset with
        | ok z => exact .inl ⟨z, rfl⟩
        | error e =>
          obtain ⟨rfl, _, rfl⟩ := Operator.apply_eq_error_iff.1 hv
          exact .inr ⟨offset, List.mem_append_right _ List.mem_cons_self, rfl⟩
      · simp only [hx, he]
        exact .inr ⟨place, List.mem_append_right _ (List.mem_cons_of_mem _ hm), rfl⟩
    · simp only [he]
      exact .inr ⟨place, List.mem_append_left _ hm, rfl⟩

end Expr

/-- The tokens of a sentence have the value of its parse tree, or the error of the first division
by zero in it. -/
theorem result_evalTokens_tokens (e : Expr) (h : e.Is .sum) :
    (evalTokens e.tokens).result = e.eval ∧
      ((∃ x, e.eval = .ok x) ∨ ∃ offset, ⟨.operator .div, offset⟩ ∈ e.tokens ∧
        e.eval = .error (.divisionByZero offset)) := by
  refine ⟨?_, e.eval_cases⟩
  have ht : translate [] (e.tokens ++ []) = (translate [] []).emit e.code :=
    Expr.translate_tokens h.fits trivial trivial
  rw [List.append_nil] at ht
  rw [result_evalTokens, evalPostfix, ht, Translation.value_emit, Expr.runPostfix_code]
  cases e.eval <;> rfl

/-- Of two divisions by zero the one inside the left operand counts. -/
theorem result_evalTokens_tokens_zeros :
    (Expr.binary .sub 7
      (.binary .mul 1 (.number (.zero false) 0)
        (.group 2 (.binary .div 4 (.number .nan 3) (.number (.zero true) 5)) 6))
      (.binary .div 9 (.number .nan 8) (.number (.zero false) 10))).Is .sum ∧
    (evalTokens [⟨.number (.zero false), 0⟩, ⟨.operator .mul, 1⟩, ⟨.openParen, 2⟩,
      ⟨.number .nan, 3⟩, ⟨.operator .div, 4⟩, ⟨.number (.zero true), 5⟩, ⟨.closeParen, 6⟩,
      ⟨.operator .sub, 7⟩, ⟨.number .nan, 8⟩, ⟨.operator .div, 9⟩,
      ⟨.number (.zero false), 10⟩]).result = .error (.divisionByZero 4) := by
  have h : (Expr.binary .sub 7
      (.binary .mul 1 (.number (.zero false) 0)
        (.group 2 (.binary .div 4 (.number .nan 3) (.number (.zero true) 5)) 6))
      (.binary .div 9 (.number .nan 8) (.number (.zero false) 10))).Is .sum := by decide
  exact ⟨h, (result_evalTokens_tokens _ h).1⟩

end Calculator
