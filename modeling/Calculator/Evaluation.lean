import Calculator.Log
import Calculator.Stacks
import Calculator.Token.Lexeme

namespace Calculator

/-- The tokens of a text whose characters are all permitted. -/
def readTokens (text : String) : Except ReadError (List (Located Token)) := do
  validate text.toList
  tokenize text.toList

/-- The value of an infix expression. -/
def evaluate (text : String) : Except Error Binary64 := do
  let tokens ← (readTokens text).mapError .read
  (evalTokens tokens).result.mapError .eval

theorem readTokens_eq_ok_iff :
    readTokens text = .ok tokens ↔
      validate text.toList = .ok () ∧ tokenize text.toList = .ok tokens := by
  rw [readTokens, bind_eq_ok_iff]
  exact ⟨fun ⟨_, hv, ht⟩ => ⟨hv, ht⟩, fun ⟨hv, ht⟩ => ⟨(), hv, ht⟩⟩

theorem readTokens_eq_error_iff :
    readTokens text = .error e ↔ validate text.toList = .error e ∨
      validate text.toList = .ok () ∧ tokenize text.toList = .error e := by
  rw [readTokens, bind_eq_error_iff]
  exact or_congr_right ⟨fun ⟨_, hv, ht⟩ => ⟨hv, ht⟩, fun ⟨hv, ht⟩ => ⟨(), hv, ht⟩⟩

theorem evaluate_eq_ok_iff :
    evaluate text = .ok x ↔
      ∃ tokens, readTokens text = .ok tokens ∧ (evalTokens tokens).result = .ok x := by
  simp only [evaluate, bind_eq_ok_iff, mapError_eq_ok_iff]

theorem evaluate_eq_error_iff :
    evaluate text = .error e ↔ (∃ r, readTokens text = .error r ∧ .read r = e) ∨
      ∃ tokens, readTokens text = .ok tokens ∧
        ∃ r, (evalTokens tokens).result = .error r ∧ .eval r = e := by
  simp only [evaluate, bind_eq_error_iff, mapError_eq_ok_iff, mapError_eq_error_iff]

theorem evaluate_of_read (h : readTokens text = .ok tokens) :
    evaluate text = (evalTokens tokens).result.mapError .eval := by
  rw [evaluate, h]
  rfl

theorem evaluate_of_unread (h : readTokens text = .error e) : evaluate text = .error (.read e) :=
  evaluate_eq_error_iff.2 (.inl ⟨e, h, rfl⟩)

def evaluateLogged (text : String) : Logged (Except Error Binary64) :=
  match readTokens text with
  | .error e => pure (.error (.read e))
  | .ok tokens => do
    Logged.report (.tokenized text tokens.length)
    let run := evalTokens tokens
    Logged.reportAll (run.applied.map .applied)
    match run.result with
    | .ok x => Logged.report (.evaluated text x)
    | .error (.unjoinedValues _) => Logged.report (.unjoined run.state.operands.reverse)
    | .error _ => pure ()
    return run.result.mapError .eval

end Calculator
