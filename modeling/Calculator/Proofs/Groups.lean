import Calculator.Brackets
import Calculator.Proofs.Simulation

namespace Calculator

def EvalError.isDivisionByZero : EvalError → Bool
  | .divisionByZero _ => true
  | _ => false

/-- What works out alone works out the same within surroundings, which `f` adds to the result. Of
the errors only a division by zero is sure to stay. -/
def Frames (f : α → β) (alone : Except EvalError α) (within : Except EvalError β) : Prop :=
  match alone with
  | .ok a => within = .ok (f a)
  | .error e => e.isDivisionByZero → within = .error e

theorem Frames.ok (f : α → β) (a : α) : Frames f (.ok a) (.ok (f a)) := rfl

theorem Frames.error (f : α → β) (e : EvalError) : Frames f (.error e) (.error e) :=
  fun _ => rfl

theorem Frames.of_error {e : EvalError} (he : e.isDivisionByZero = false) :
    Frames f (.error e) within := by
  intro h
  rw [he] at h
  cases h

theorem Frames.bind (h : Frames f alone within) (hk : ∀ a, Frames g (k a) (k' (f a))) :
    Frames g (alone >>= k) (within >>= k') := by
  cases alone with
  | ok a =>
    have hw : within = .ok (f a) := h
    rw [hw]
    exact hk a
  | error e =>
    intro he
    rw [h he]
    rfl

theorem runPostfix_frames (values below : List Binary64) (code : List Instruction) :
    Frames (· ++ below) (runPostfix values code) (runPostfix (values ++ below) code) := by
  induction code generalizing values with
  | nil => exact .ok _ values
  | cons i code ih =>
    cases i with
    | push x => exact ih (x :: values)
    | apply op offset =>
      rcases values with _ | ⟨right, _ | ⟨left, values⟩⟩
      · exact .of_error rfl
      · exact .of_error rfl
      · simp only [List.cons_append, runPostfix]
        cases op.apply left right offset with
        | ok x => exact ih (x :: values)
        | error e => exact .error _ e

theorem takeOperators_append (binds : Operator → Bool) (pending below : List Pending)
    (opening : Nat) :
    takeOperators binds (pending ++ .openParen opening :: below) =
      ((takeOperators binds pending).1,
        (takeOperators binds pending).2 ++ .openParen opening :: below) := by
  induction pending with
  | nil => rfl
  | cons p pending ih =>
    cases p with
    | openParen offset => rfl
    | operator op offset =>
      cases hb : binds op with
      | false => simp only [List.cons_append, takeOperators, hb, Bool.false_eq_true, ↓reduceIte]
      | true => simp only [List.cons_append, takeOperators, hb, ih, ↓reduceIte]

namespace Stacks

/-- The stacks with those of a group, opened at a place, on top. -/
def enter (s : Stacks) (opening : Nat) (inside : Stacks) : Stacks :=
  ⟨inside.operands ++ s.operands, inside.pending ++ .openParen opening :: s.pending⟩

theorem push_frames (s inside : Stacks) (opening : Nat) (t : Located Token) :
    Frames (s.enter opening) (inside.push t).outcome ((s.enter opening inside).push t).outcome := by
  obtain ⟨token, offset⟩ := t
  cases token with
  | number x => exact .ok (s.enter opening) ⟨x :: inside.operands, inside.pending⟩
  | blank => exact .ok (s.enter opening) inside
  | openParen => exact .ok (s.enter opening) ⟨inside.operands, .openParen offset :: inside.pending⟩
  | operator op =>
    simp only [push, outcome_pushOperator, enter, takeOperators_append]
    exact (runPostfix_frames _ _ _).bind fun values => .ok (s.enter opening) ⟨values, _⟩
  | closeParen =>
    simp only [push, outcome_closeParen, enter, takeOperators_append]
    apply (runPostfix_frames _ _ _).bind
    intro values
    obtain ⟨code, h | ⟨_, below, h⟩⟩ := takeOperators_all inside.pending
    · simp only [h]
      exact .of_error rfl
    · simp only [h, List.cons_append]
      exact .ok (s.enter opening) ⟨values, below⟩

theorem pushAll_frames (s inside : Stacks) (opening : Nat) (tokens : List (Located Token)) :
    Frames (s.enter opening) (inside.pushAll tokens).outcome
      ((s.enter opening inside).pushAll tokens).outcome := by
  induction tokens generalizing inside with
  | nil => exact .ok _ inside
  | cons t rest ih =>
    simp only [pushAll, Run.outcome_andThen]
    exact (push_frames s inside opening t).bind ih

/-- Closing a group leaves its value where finishing it alone would return it. -/
theorem finish_frames (s inside : Stacks) (opening closing : Nat) :
    Frames (fun x => { s with operands := x :: s.operands }) inside.finish.result
      ((s.enter opening inside).closeParen closing).outcome := by
  simp only [result_finish, outcome_closeParen, enter, takeOperators_append]
  apply (runPostfix_frames _ _ _).bind
  intro values
  obtain ⟨code, h | ⟨_, below, h⟩⟩ := takeOperators_all inside.pending
  · simp only [h, List.nil_append]
    rcases values with _ | ⟨x, _ | ⟨y, values⟩⟩
    · change Frames _ (.error .emptyExpression) _
      exact .of_error rfl
    · exact .ok (fun x => { s with operands := x :: s.operands }) x
    · change Frames _ (.error (.unjoinedValues _)) _
      exact .of_error rfl
  · simp only [h]
    change Frames _ (.error (.mismatchedParenthesis _)) _
    exact .of_error rfl

theorem outcome_pushAll_append (s : Stacks) (tokens rest : List (Located Token)) :
    (s.pushAll (tokens ++ rest)).outcome =
      (s.pushAll tokens).outcome >>= fun s => (s.pushAll rest).outcome := by
  induction tokens generalizing s with
  | nil => rfl
  | cons t tokens ih =>
    simp only [List.cons_append, pushAll, Run.outcome_andThen, bind_assoc, ih]

theorem outcome_pushAll_enclosed (s : Stacks) (tokens : List (Located Token))
    (opening closing : Nat) :
    (s.pushAll (enclosed opening tokens closing)).outcome =
      ((s.enter opening {}).pushAll tokens).outcome >>=
        fun s => (s.closeParen closing).outcome := by
  have hc (s : Stacks) :
      (s.pushAll [⟨.closeParen, closing⟩]).outcome = (s.closeParen closing).outcome := by
    rw [pushAll, Run.outcome_andThen]
    exact bind_pure _
  rw [enclosed, List.cons_append, pushAll, push, Run.done_andThen, outcome_pushAll_append]
  simp only [hc]
  rfl

theorem enclosed_frames (s : Stacks) (tokens : List (Located Token)) (opening closing : Nat) :
    Frames (fun x => { s with operands := x :: s.operands }) (evalTokens tokens).result
      (s.pushAll (enclosed opening tokens closing)).outcome := by
  rw [outcome_pushAll_enclosed, evalTokens, Run.result_andThen]
  apply (pushAll_frames s {} opening tokens).bind
  exact fun inside => finish_frames s inside opening closing

theorem result_evalTokens_append (tokens rest : List (Located Token)) :
    (evalTokens (tokens ++ rest)).result =
      (pushAll {} tokens).outcome >>= fun s => ((s.pushAll rest).andThen finish).result := by
  simp only [evalTokens, Run.result_andThen, outcome_pushAll_append, bind_assoc]

end Stacks

/-- A group may stand for its value anywhere, its division by zero is the outcome of the whole,
and it touches nothing of the stacks below it. -/
theorem result_evalTokens_enclosed (before inside after : List (Located Token))
    (opening closing : Nat) :
    (∀ x offset, (evalTokens inside).result = .ok x →
      (evalTokens (before ++ enclosed opening inside closing ++ after)).result =
        (evalTokens (before ++ [⟨.number x, offset⟩] ++ after)).result) ∧
    (∀ offset, (evalTokens inside).result = .error (.divisionByZero offset) →
      (Stacks.pushAll {} before).result = .ok () →
      (evalTokens (before ++ enclosed opening inside closing ++ after)).result =
        .error (.divisionByZero offset)) ∧
    ∀ (s : Stacks) (x : Binary64), (evalTokens inside).result = .ok x →
      (s.pushAll (enclosed opening inside closing)).result = .ok () ∧
        (s.pushAll (enclosed opening inside closing)).state =
          { s with operands := x :: s.operands } := by
  have hg (s : Stacks) := s.enclosed_frames inside opening closing
  refine ⟨?_, ?_, ?_⟩
  · intro x offset hx
    simp only [hx, Frames] at hg
    have hn (s : Stacks) : (s.pushAll [⟨.number x, offset⟩]).outcome =
        .ok { s with operands := x :: s.operands } := rfl
    simp only [Stacks.result_evalTokens_append, Stacks.outcome_pushAll_append, hg, hn]
  · intro offset ho hb
    have hs : (Stacks.pushAll {} before).outcome = .ok (Stacks.pushAll {} before).state :=
      Run.outcome_eq_ok.2 ⟨hb, rfl⟩
    have he := hg (Stacks.pushAll {} before).state
    rw [ho] at he
    simp only [Stacks.result_evalTokens_append, Stacks.outcome_pushAll_append, hs, ok_bind,
      he rfl, error_bind]
  · intro s x hx
    have hw := hg s
    rw [hx] at hw
    exact Run.outcome_eq_ok.1 hw

theorem result_evalTokens_enclosed_behind :
    (evalTokens [⟨.number .nan, 3⟩, ⟨.number .nan, 5⟩, ⟨.operator .add, 7⟩]).result = .ok .nan ∧
    (evalTokens ([⟨.number (.zero false), 0⟩, ⟨.operator .mul, 1⟩] ++
        enclosed 2 [⟨.number .nan, 3⟩, ⟨.number .nan, 5⟩, ⟨.operator .add, 7⟩] 8 ++
        [⟨.operator .div, 9⟩])).result =
      (evalTokens ([⟨.number (.zero false), 0⟩, ⟨.operator .mul, 1⟩] ++ [⟨.number .nan, 2⟩] ++
        [⟨.operator .div, 9⟩])).result ∧
    (evalTokens [⟨.number .nan, 3⟩, ⟨.number (.zero true), 5⟩, ⟨.operator .div, 7⟩]).result =
      .error (.divisionByZero 7) ∧
    (Stacks.pushAll {} [⟨.number (.zero false), 0⟩, ⟨.operator .mul, 1⟩]).result = .ok () ∧
    (evalTokens ([⟨.number (.zero false), 0⟩, ⟨.operator .mul, 1⟩] ++
        enclosed 2 [⟨.number .nan, 3⟩, ⟨.number (.zero true), 5⟩, ⟨.operator .div, 7⟩] 8 ++
        [⟨.closeParen, 9⟩])).result = .error (.divisionByZero 7) ∧
    (Stacks.pushAll ⟨[.infinity true], [.operator .div 0]⟩
      (enclosed 1 [⟨.number .nan, 3⟩, ⟨.number .nan, 5⟩, ⟨.operator .add, 7⟩] 8)).state =
      ⟨[.nan, .infinity true], [.operator .div 0]⟩ :=
  ⟨rfl, (result_evalTokens_enclosed _ _ _ 2 8).1 _ 2 rfl, rfl, rfl,
    (result_evalTokens_enclosed _ _ _ 2 8).2.1 7 rfl rfl,
    ((result_evalTokens_enclosed [] _ [] 1 8).2.2 _ .nan rfl).2⟩

end Calculator
