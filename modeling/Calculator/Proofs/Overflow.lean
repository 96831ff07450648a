import Calculator.Evaluation
import Calculator.Proofs.Accounting
import Calculator.Proofs.Applications
import Calculator.Proofs.Outcomes
import Mathlib.Data.List.Basic

namespace Calculator

def Binary64.isFinite : Binary64 → Bool
  | .finite _ _ => true
  | _ => false

theorem Binary64.isFinite_of_ne_nan {x : Binary64} (h : x ≠ .nan) (hi : x.isInfinite = false) :
    x.isFinite := by
  cases x with
  | nan => cases h rfl
  | infinity negative => cases hi
  | finite negative m => rfl

namespace Operator

theorem ne_zero_of_value? (h : Operator.div.value? x y = some z) (negative : Bool) :
    y ≠ .zero negative := by
  rintro rfl
  cases h

theorem ne_nan_of_value? {op : Operator} (hx : x.isFinite) (hy : y.isFinite)
    (h : op.value? x y = some z) : z ≠ .nan := by
  cases x with
  | nan => cases hx
  | infinity s => cases hx
  | finite s m =>
    cases y with
    | nan => cases hy
    | infinity t => cases hy
    | finite t n =>
      cases op with
      | add =>
        cases h
        exact Binary64.nearest_ne_nan _ _
      | sub =>
        cases h
        exact Binary64.nearest_ne_nan _ _
      | mul =>
        cases h
        exact Binary64.nearest_ne_nan _ _
      | div =>
        by_cases hn : n.significand = 0
        · simp only [value?, Binary64.isZero, hn, decide_true, ↓reduceIte, reduceCtorEq] at h
        · simp only [value?, Binary64.isZero, hn, decide_false, Bool.false_eq_true, ↓reduceIte,
            Binary64.div, Option.some.injEq] at h
          rw [← h]
          exact Binary64.nearest_ne_nan _ _

end Operator

theorem push_notMem_of_takeOperators (h : takeOperators binds pending = (code, rest)) :
    .push x ∉ code := by
  intro hx
  have hc := (countP_takeOperators binds pending).1
  rw [h] at hc
  exact List.countP_eq_zero.1 hc _ hx rfl

theorem mem_of_push_mem_translate (h : .push x ∈ (translate pending tokens).code) :
    ∃ offset, ⟨.number x, offset⟩ ∈ tokens := by
  induction tokens generalizing pending with
  | nil =>
    rw [code_translate_nil] at h
    cases push_notMem_of_takeOperators rfl h
  | cons t rest ih =>
    have hrest : ∀ pending, .push x ∈ (translate pending rest).code →
        ∃ offset, ⟨.number x, offset⟩ ∈ t :: rest := by
      intro pending h
      obtain ⟨offset, ho⟩ := ih h
      exact ⟨offset, List.mem_cons_of_mem t ho⟩
    obtain ⟨token, place⟩ := t
    cases token with
    | number y =>
      obtain h | h := List.mem_cons.1 h
      · cases h
        exact ⟨place, List.mem_cons_self⟩
      · exact hrest _ h
    | blank => exact hrest _ h
    | openParen => exact hrest _ h
    | operator op =>
      obtain h | h := List.mem_append.1 h
      · cases push_notMem_of_takeOperators rfl h
      · exact hrest _ h
    | closeParen =>
      rw [translate] at h
      obtain ⟨code, hc | ⟨opening, below, hc⟩⟩ := takeOperators_all pending
      · simp only [hc] at h
        cases push_notMem_of_takeOperators hc h
      · simp only [hc] at h
        obtain h | h := List.mem_append.1 h
        · cases push_notMem_of_takeOperators hc h
        · exact hrest _ h

/-- Finite values stay finite as long as no result overflows. -/
theorem Executes.isFinite (h : Executes values code applied outcome)
    (hv : ∀ x ∈ values, x.isFinite) (hc : ∀ x, .push x ∈ code → x.isFinite)
    (ha : ∀ a ∈ applied, a.value.isInfinite = false) (ho : outcome = .ok left) :
    ∀ x ∈ left, x.isFinite := by
  induction h with
  | nil =>
    cases ho
    exact hv
  | push _ ih =>
    apply ih _ _ ha ho
    · exact List.forall_mem_cons.2 ⟨hc _ List.mem_cons_self, hv⟩
    · intro y hy
      exact hc y (List.mem_cons_of_mem _ hy)
  | apply hx _ ih =>
    obtain ⟨hright, hleft, hbelow⟩ : _ ∧ _ ∧ _ := by
      simpa only [List.forall_mem_cons] using hv
    obtain ⟨hi, hrest⟩ := List.forall_mem_cons.1 ha
    have hfinite := Binary64.isFinite_of_ne_nan (Operator.ne_nan_of_value? hleft hright hx) hi
    apply ih _ _ hrest ho
    · exact List.forall_mem_cons.2 ⟨hfinite, hbelow⟩
    · intro y hy
      exact hc y (List.mem_cons_of_mem _ hy)
  | divisionByZero hx => cases ho
  | missingOperand hl => cases ho

/-- An operand is infinite: a number among the tokens, or the value of an operation carried out. -/
def Overflows (tokens : List (Located Token)) : Prop :=
  (∃ x offset, ⟨.number x, offset⟩ ∈ tokens ∧ x.isInfinite) ∨
    ∃ a ∈ (evalTokens tokens).applied, a.value.isInfinite

theorem overflows_of_result (hn : ∀ offset, ⟨.number .nan, offset⟩ ∉ tokens)
    (h : (evalTokens tokens).result = .ok .nan) : Overflows tokens := by
  by_contra hfree
  simp only [Overflows, not_or, not_exists, not_and, Bool.not_eq_true] at hfree
  obtain ⟨hnumbers, hvalues⟩ := hfree
  rw [result_evalTokens, evalPostfix, Translation.value_eq_ok_iff] at h
  have hpushed : ∀ x, .push x ∈ (translate [] tokens).code → x.isFinite := by
    intro x hx
    obtain ⟨offset, hm⟩ := mem_of_push_mem_translate hx
    apply Binary64.isFinite_of_ne_nan
    · rintro rfl
      exact hn offset hm
    · exact hnumbers x offset hm
  have hfinite := (executes_evalTokens tokens).isFinite (List.forall_mem_nil _) hpushed hvalues h.2
  cases hfinite Binary64.nan (List.mem_singleton_self _)

theorem number_ne_nan_of_readTokens (h : readTokens text = .ok tokens) (offset : Nat) :
    ⟨.number .nan, offset⟩ ∉ tokens := by
  intro hm
  obtain ⟨piece, hp⟩ := exists_piece_of_mem_tokenize (readTokens_eq_ok_iff.1 h).2 hm
  exact Binary64.nearest_ne_nan _ _ (Lexeme.eq_nearest_of_ofPiece? hp).symm

/-- Only an overflow makes a NaN, be it in a literal or in an operation: no literal is read as
one, and no run divides by a zero, whatever its sign. -/
theorem overflows_of_nan :
    (∀ tokens : List (Located Token), (∀ offset, ⟨.number .nan, offset⟩ ∉ tokens) →
      (evalTokens tokens).result = .ok .nan → Overflows tokens) ∧
    (∀ text, evaluate text = .ok .nan → ∃ tokens, readTokens text = .ok tokens ∧ Overflows tokens) ∧
    ∀ (s : Stacks) tokens, ∀ a ∈ ((s.pushAll tokens).andThen Stacks.finish).applied,
      a.operator = .div → ∀ negative, a.right ≠ .zero negative := by
  refine ⟨fun _ => overflows_of_result, ?_, ?_⟩
  · intro text h
    obtain ⟨tokens, ht, hv⟩ := evaluate_eq_ok_iff.1 h
    exact ⟨tokens, ht, overflows_of_result (number_ne_nan_of_readTokens ht) hv⟩
  · intro s tokens a ha hop
    have hx := (s.executes_pushAll_finish tokens).value?_eq ha
    rw [hop] at hx
    exact Operator.ne_zero_of_value? hx

/-- A product overflows before it is multiplied by a zero, a literal of 309 nines is infinite, and
the least positive number divides a zero. -/
theorem overflows_of_nan_nines :
    Overflows [⟨.number (.finite false ⟨0x10000000000000, 971, by decide⟩), 0⟩, ⟨.operator .mul, 1⟩,
      ⟨.number (.finite true ⟨0x10000000000000, 971, by decide⟩), 2⟩, ⟨.operator .mul, 3⟩,
      ⟨.number (.zero true), 4⟩] ∧
    evaluate (.ofList (List.replicate 309 '9' ++ '-' :: List.replicate 309 '9')) = .ok .nan ∧
    (∃ tokens, readTokens (.ofList (List.replicate 309 '9' ++ '-' :: List.replicate 309 '9')) =
      .ok tokens ∧ Overflows tokens) ∧
    ⟨.div, .zero true, .finite false ⟨1, -1074, by decide⟩, .zero true⟩ ∈
      ((Stacks.pushAll {} [⟨.number (.zero true), 0⟩, ⟨.operator .div, 1⟩,
        ⟨.number (.finite false ⟨1, -1074, by decide⟩), 2⟩]).andThen Stacks.finish).applied ∧
    ∀ negative, .finite false ⟨1, -1074, by decide⟩ ≠ Binary64.zero negative := by
  obtain ⟨htokens, htext, hrun⟩ := overflows_of_nan
  have hproduct : (evalTokens [⟨.number (.finite false ⟨0x10000000000000, 971, by decide⟩), 0⟩,
      ⟨.operator .mul, 1⟩, ⟨.number (.finite true ⟨0x10000000000000, 971, by decide⟩), 2⟩,
      ⟨.operator .mul, 3⟩, ⟨.number (.zero true), 4⟩]).result = .ok .nan := by
    decide +kernel
  have hvalid : validate (List.replicate 309 '9' ++ '-' :: List.replicate 309 '9') = .ok () := by
    decide +kernel
  have hnines : tokenize (List.replicate 309 '9' ++ '-' :: List.replicate 309 '9') =
      .ok [⟨.number (.infinity false), 0⟩, ⟨.operator .sub, 309⟩,
        ⟨.number (.infinity false), 310⟩] := by
    decide +kernel
  have hread : readTokens (.ofList (List.replicate 309 '9' ++ '-' :: List.replicate 309 '9')) =
      .ok [⟨.number (.infinity false), 0⟩, ⟨.operator .sub, 309⟩,
        ⟨.number (.infinity false), 310⟩] := by
    rw [readTokens_eq_ok_iff, String.toList_ofList]
    exact ⟨hvalid, hnines⟩
  have hquotient : ⟨.div, .zero true, .finite false ⟨1, -1074, by decide⟩, .zero true⟩ ∈
      ((Stacks.pushAll {} [⟨.number (.zero true), 0⟩, ⟨.operator .div, 1⟩,
        ⟨.number (.finite false ⟨1, -1074, by decide⟩), 2⟩]).andThen Stacks.finish).applied := by
    decide +kernel
  have hnan :
      evaluate (.ofList (List.replicate 309 '9' ++ '-' :: List.replicate 309 '9')) = .ok .nan :=
    evaluate_eq_ok_iff.2 ⟨_, hread, rfl⟩
  refine ⟨htokens _ ?_ hproduct, hnan, htext _ hnan, hquotient, hrun _ _ _ hquotient rfl⟩
  simp [Binary64.zero]

end Calculator
