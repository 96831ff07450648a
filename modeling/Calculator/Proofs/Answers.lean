import Calculator.Session

namespace Calculator

/-- A computation has one value at every verbosity, and keeps those of `es` that are admitted. -/
structure Logged.Reports (x : Logged α) (es : List Event) (a : α) : Prop where
  events : ∀ v, x.events v = es.filter (v.admits ·.level)
  value : ∀ v, x.value v = a

namespace Logged.Reports

theorem pure (a : α) : Reports (Pure.pure a) [] a :=
  ⟨fun _ => rfl, fun _ => rfl⟩

theorem report (e : Event) : Reports (Logged.report e) [e] () := by
  refine ⟨fun v => ?_, fun _ => rfl⟩
  rw [events_report, List.filter_cons, List.filter_nil]

theorem reportAll (es : List Event) : Reports (Logged.reportAll es) es () :=
  ⟨events_reportAll es, fun _ => rfl⟩

theorem bind {x : Logged α} {f : α → Logged β} (hx : x.Reports es a) (hf : (f a).Reports es' b) :
    (x >>= f).Reports (es ++ es') b := by
  refine ⟨fun v => ?_, fun v => ?_⟩
  · rw [events_bind, hx.value, hx.events, hf.events, List.filter_append]
  · rw [value_bind, hx.value, hf.value]

theorem events_trace {x : Logged α} (hx : x.Reports es a) : x.events (.upTo .trace) = es := by
  have hall : ∀ e : Event, Verbosity.admits (.upTo .trace) e.level := by
    intro e
    cases e.level <;> rfl
  rw [hx.events, List.filter_eq_self.2 fun e _ => hall e]

end Logged.Reports

def Run.closing (text : String) (r : Run Binary64) : List Event :=
  match r.result with
  | .ok x => [.evaluated text x]
  | .error (.unjoinedValues _) => [.unjoined r.state.operands.reverse]
  | .error _ => []

/-- Everything that the evaluation of a text reports. -/
def evaluationEvents (text : String) : List Event :=
  match readTokens text with
  | .error _ => []
  | .ok tokens =>
    .tokenized text tokens.length :: (evalTokens tokens).applied.map .applied ++
      (evalTokens tokens).closing text

theorem evaluateLogged_reports (text : String) :
    (evaluateLogged text).Reports (evaluationEvents text) (evaluate text) := by
  rw [evaluateLogged, evaluationEvents, evaluate]
  cases readTokens text with
  | error e => exact .pure _
  | ok tokens =>
    simp only [List.cons_append]
    refine .bind (.report _) (.bind (.reportAll _) ?_)
    change Logged.Reports _ _ ((evalTokens tokens).result.mapError Error.eval)
    rw [Run.closing]
    cases (evalTokens tokens).result with
    | ok x => exact .bind (.report _) (.pure _)
    | error e =>
      cases e with
      | unjoinedValues count => exact .bind (.report _) (.pure _)
      | mismatchedParenthesis offset => exact .pure _
      | missingOperand op offset => exact .pure _
      | emptyExpression => exact .pure _
      | divisionByZero offset => exact .pure _

@[simp] theorem value_evaluateLogged (text : String) (v : Verbosity) :
    (evaluateLogged text).value v = evaluate text :=
  (evaluateLogged_reports text).value v

theorem level_of_mem_evaluationEvents (h : e ∈ evaluationEvents text) :
    e.level = .debug ∨ e.level = .trace := by
  rw [evaluationEvents] at h
  split at h
  · cases h
  rw [List.mem_append, List.mem_cons, List.mem_map] at h
  obtain (rfl | ⟨a, _, rfl⟩) | h := h
  · exact .inl rfl
  · exact .inr rfl
  · rw [Run.closing] at h
    split at h
    · obtain rfl := List.mem_singleton.1 h
      exact .inl rfl
    · obtain rfl := List.mem_singleton.1 h
      exact .inl rfl
    · cases h

namespace Session

/-- What a line amounts to, whatever is recorded on the way. -/
def outcome (s : Session) (line : String) : Outcome :=
  if s.isExit line then .exit
  else match evaluate line with
    | .ok x => (s.format? x).elim .abort .value
    | .error e => .failure e.message

theorem outcome_of_exit {s : Session} (h : s.isExit line) : s.outcome line = .exit :=
  if_pos h

theorem outcome_of_ok {s : Session} {text : String} (he : s.isExit line = false)
    (h : evaluate line = .ok x) (hf : s.format? x = some text) : s.outcome line = .value text := by
  simp only [outcome, he, Bool.false_eq_true, ↓reduceIte, h, hf, Option.elim_some]

theorem outcome_of_unformatted {s : Session} (he : s.isExit line = false)
    (h : evaluate line = .ok x) (hf : s.format? x = none) : s.outcome line = .abort := by
  simp only [outcome, he, Bool.false_eq_true, ↓reduceIte, h, hf, Option.elim_none]

theorem outcome_of_error {s : Session} (he : s.isExit line = false)
    (h : evaluate line = .error e) :
    s.outcome line = .failure e.message := by
  simp only [outcome, he, Bool.false_eq_true, ↓reduceIte, h]

/-- How a line can turn out. -/
inductive TurnsOut (s : Session) (line : String) : Outcome → Prop
  | exit : s.isExit line → TurnsOut s line .exit
  | value : s.isExit line = false → evaluate line = .ok x → s.format? x = some text →
      TurnsOut s line (.value text)
  | abort : s.isExit line = false → evaluate line = .ok x → s.format? x = none →
      TurnsOut s line .abort
  | failure : s.isExit line = false → evaluate line = .error e →
      TurnsOut s line (.failure e.message)

theorem turnsOut_outcome (s : Session) (line : String) : s.TurnsOut line (s.outcome line) := by
  cases he : s.isExit line with
  | true =>
    rw [outcome_of_exit he]
    exact .exit he
  | false =>
    cases hv : evaluate line with
    | ok x =>
      cases hf : s.format? x with
      | some text =>
        rw [outcome_of_ok he hv hf]
        exact .value he hv hf
      | none =>
        rw [outcome_of_unformatted he hv hf]
        exact .abort he hv hf
    | error e =>
      rw [outcome_of_error he hv]
      exact .failure he hv

/-- A line that is no exit command is answered, unless its value has too many decimals. -/
theorem outcome_cases {s : Session} (hp : s.precision ≤ maxPrecision) (he : s.isExit line = false) :
    (∃ text, s.outcome line = .value text) ∨ ∃ message, s.outcome line = .failure message := by
  cases h : evaluate line with
  | ok x => exact .inl ⟨_, outcome_of_ok he h (if_pos hp)⟩
  | error e => exact .inr ⟨_, outcome_of_error he h⟩

def answerEvents (s : Session) (line : String) : List Event :=
  if s.isExit line then []
  else evaluationEvents line ++ match evaluate line with
    | .ok _ => []
    | .error e => [.failed line e]

theorem answer_reports (s : Session) (line : String) :
    (s.answer line).Reports (s.answerEvents line) (s.outcome line) := by
  rw [answer, answerEvents, outcome]
  split
  · exact .pure _
  · refine .bind (evaluateLogged_reports line) ?_
    cases evaluate line with
    | ok x => exact .pure _
    | error e => exact .bind (.report _) (.pure _)

@[simp] theorem value_answer (s : Session) (line : String) (v : Verbosity) :
    (s.answer line).value v = s.outcome line :=
  (s.answer_reports line).value v

theorem level_of_mem_answerEvents {s : Session} (h : e ∈ s.answerEvents line) :
    e.level = .debug ∨ e.level = .trace := by
  rw [answerEvents] at h
  split at h
  · cases h
  obtain h | h := List.mem_append.1 h
  · exact level_of_mem_evaluationEvents h
  · split at h
    · cases h
    · obtain rfl := List.mem_singleton.1 h
      exact .inl rfl

end Session

theorem Verbosity.admits_of_rank_le {v : Verbosity} (h : v.admits level)
    (hr : level'.rank ≤ level.rank) : v.admits level' := by
  cases v with
  | off => cases h
  | upTo most => exact decide_eq_true (Nat.le_trans hr (of_decide_eq_true h))

/-- Nothing is recorded in the ordinary course of a session. -/
def Verbosity.IsQuiet (v : Verbosity) : Prop :=
  v.admits .info = false

theorem Verbosity.IsQuiet.admits_eq_false {v : Verbosity} (hv : v.IsQuiet)
    (hl : level = .debug ∨ level = .trace) : v.admits level = false := by
  cases ha : v.admits level with
  | false => rfl
  | true =>
    have hr : Level.rank .info ≤ level.rank := by
      obtain rfl | rfl := hl <;> decide
    exact (admits_of_rank_le ha hr).symm.trans hv

namespace Logged.Reports

theorem output_of_quiet {x : Logged α} (hx : x.Reports es a) (hv : Verbosity.IsQuiet v)
    (hes : ∀ e ∈ es, e.level = .debug ∨ e.level = .trace) : x.output v = [] := by
  have hf : es.filter (v.admits ·.level) = [] :=
    List.filter_eq_nil_iff.2 fun e he => by simp [hv.admits_eq_false (hes e he)]
  rw [Logged.output, hx.events, hf, List.map_nil]

end Logged.Reports

theorem output_evaluateLogged (hv : Verbosity.IsQuiet v) (text : String) :
    (evaluateLogged text).output v = [] :=
  (evaluateLogged_reports text).output_of_quiet hv fun _ => level_of_mem_evaluationEvents

theorem Session.output_answer (hv : Verbosity.IsQuiet v) (s : Session) (line : String) :
    (s.answer line).output v = [] :=
  (s.answer_reports line).output_of_quiet hv fun _ => level_of_mem_answerEvents

end Calculator
