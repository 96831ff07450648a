import Calculator.CommandLine.Program
import Calculator.Proofs.Sessions

namespace Calculator

namespace Transcript

theorem stdout_log (x : Logged α) (v : Verbosity) (output : List Output) (status : ExitStatus) :
    stdout ⟨x.output v ++ output, status⟩ = stdout ⟨output, status⟩ := by
  rw [Logged.output]
  induction x.events v with
  | nil => rfl
  | cons e es ih => rw [List.map_cons, List.cons_append, stdout_err, ih]

theorem stdout_log_only (x : Logged α) (v : Verbosity) (status : ExitStatus) :
    stdout ⟨x.output v, status⟩ = "" := by
  have h := stdout_log x v [] status
  rwa [List.append_nil] at h

/-- Two transcripts that differ on standard error at most. -/
structure Agrees (t t' : Transcript) : Prop where
  stdout : t.stdout = t'.stdout
  status : t.status = t'.status

theorem Agrees.precededBy {output output' : List Output} (h : Agrees t t')
    (ho : ∀ status, Transcript.stdout ⟨output, status⟩ = Transcript.stdout ⟨output', status⟩) :
    (t.precededBy output).Agrees (t'.precededBy output') where
  stdout := by rw [stdout_precededBy, stdout_precededBy, h.stdout, h.status, ho]
  status := h.status

end Transcript

namespace Session

variable (s : Session) (v v' : Verbosity)

theorem ending_react (input : Input) : (s.react v input).ending = (s.react v' input).ending := by
  cases input with
  | unreadable => rfl
  | line text =>
    simp only [react, value_answer]
    cases s.outcome text <;> rfl

theorem stdout_react (input : Input) (status : ExitStatus) :
    Transcript.stdout ⟨(s.react v input).output, status⟩ =
      Transcript.stdout ⟨(s.react v' input).output, status⟩ := by
  cases input with
  | unreadable => simp only [react, Transcript.stdout_log, Transcript.stdout_err]
  | line text =>
    simp only [react, value_answer]
    cases s.outcome text with
    | exit => simp only [Transcript.stdout_log, Transcript.stdout_out, close,
        Transcript.stdout_log_only]
    | value shown => simp only [Transcript.stdout_log]
    | failure message => simp only [Transcript.stdout_log]
    | abort => simp only [Transcript.stdout_log_only]

theorem proceed_agrees (inputs : List Input) :
    (s.proceed v inputs).Agrees (s.proceed v' inputs) := by
  induction inputs with
  | nil => exact ⟨by simp only [proceed, close, Transcript.stdout_log_only], rfl⟩
  | cons input rest ih =>
    have hending := s.ending_react v v' input
    have hout := s.stdout_react v v' input
    simp only [proceed, hending]
    cases (s.react v' input).ending with
    | some status => exact ⟨hout status, rfl⟩
    | none => exact ih.precededBy hout

theorem run_agrees (inputs : List Input) : (s.run v inputs).Agrees (s.run v' inputs) :=
  (s.proceed_agrees v v' inputs).precededBy fun _ => rfl

end Session

namespace CommandLine

theorem once_agrees (s : Session) (v v' : Verbosity) (text : String) :
    (once s v text).Agrees (once s v' text) := by
  simp only [once, value_evaluateLogged]
  cases evaluate text with
  | ok x =>
    dsimp only
    cases s.format? x with
    | some shown => exact ⟨by simp only [Transcript.stdout_log], rfl⟩
    | none => exact ⟨by simp only [Transcript.stdout_log_only], rfl⟩
  | error e => exact ⟨by simp only [Transcript.stdout_log], rfl⟩

/-- Command lines that are the same but for the repetitions of the verbosity option. -/
def SameButVerbose (arguments arguments' : List String) : Prop :=
  (items arguments).filter (· ≠ .verbose) = (items arguments').filter (· ≠ .verbose)

instance : Decidable (SameButVerbose arguments arguments') :=
  inferInstanceAs (Decidable (_ = _))

/-- Flags may stand behind other arguments, and share a hyphen with other letters. -/
example : SameButVerbose ["-vV", "7/0", "--verbose"] ["-V", "7/0"] := by decide +kernel

def Request.withoutVerbose : Request → Request
  | .run o => .run { o with verbose := 0 }
  | r => r

theorem request_withoutVerbose (o : Options) (row : List Item) :
    (request o row).withoutVerbose =
      request { o with verbose := 0 } (row.filter (· ≠ .verbose)) := by
  induction row generalizing o with
  | nil => rfl
  | cons item rest ih =>
    cases item with
    | help => rfl
    | version => rfl
    | unusable => rfl
    | verbose => exact ih _
    | prompt text =>
      rw [List.filter_cons_of_pos rfl, request, request, apply_ite Request.withoutVerbose, ih]
      rfl
    | expression text =>
      rw [List.filter_cons_of_pos rfl, request, request, apply_ite Request.withoutVerbose, ih]
      rfl
    | precision text =>
      rw [List.filter_cons_of_pos rfl, request, request]
      cases o.precision with
      | some n => rfl
      | none =>
        cases natural? text with
        | none => rfl
        | some n => exact ih _

theorem Request.cases_of_withoutVerbose {r r' : Request}
    (h : r.withoutVerbose = r'.withoutVerbose) :
    r = r' ∧ (∀ o, r ≠ .run o) ∨
      ∃ (o : Options) (n n' : Nat), r = .run { o with verbose := n } ∧
        r' = .run { o with verbose := n' } := by
  cases r with
  | help =>
    cases r' <;> cases h
    exact .inl ⟨rfl, nofun⟩
  | version =>
    cases r' <;> cases h
    exact .inl ⟨rfl, nofun⟩
  | misuse =>
    cases r' <;> cases h
    exact .inl ⟨rfl, nofun⟩
  | run o =>
    cases r' with
    | help => cases h
    | version => cases h
    | misuse => cases h
    | run o' =>
      obtain ⟨prompt, precision, n, expression⟩ := o
      obtain ⟨prompt', precision', n', expression'⟩ := o'
      cases h
      exact .inr ⟨⟨prompt, precision, 0, expression⟩, n, n', rfl, rfl⟩

theorem SameButVerbose.start_cases (h : SameButVerbose arguments arguments') :
    (∀ setting setting', start arguments setting = start arguments' setting') ∨
      ∃ (o : Options) (n n' : Nat), Request.ofArguments arguments = .run { o with verbose := n } ∧
        Request.ofArguments arguments' = .run { o with verbose := n' } := by
  have hr : (Request.ofArguments arguments).withoutVerbose =
      (Request.ofArguments arguments').withoutVerbose := by
    rw [Request.ofArguments, Request.ofArguments, request_withoutVerbose, request_withoutVerbose, h]
  refine (Request.cases_of_withoutVerbose hr).imp_left ?_
  rintro ⟨he, hn⟩ setting setting'
  rw [start, start, ← he]
  cases hq : Request.ofArguments arguments with
  | help => rfl
  | version => rfl
  | misuse => rfl
  | run o => exact absurd hq (hn o)

def Options.transcript (o : Options) (v : Verbosity) (input : List UInt8) : Transcript :=
  match o.expression with
  | some expression => once o.session v expression
  | none => o.session.run v (Input.ofBytes input)

theorem run_of_request (h : Request.ofArguments arguments = .run o) (setting : Option String)
    (input : List UInt8) :
    run arguments setting input = o.transcript (o.verbosityWith setting) input := by
  rw [run, start, h, Options.transcript]
  dsimp only
  cases o.expression <;> rfl

theorem Options.transcript_agrees (o : Options) (n n' : Nat) (v v' : Verbosity)
    (input : List UInt8) :
    ({ o with verbose := n }.transcript v input).Agrees
      ({ o with verbose := n' }.transcript v' input) := by
  obtain ⟨prompt, precision, _, expression⟩ := o
  cases expression with
  | some text => exact once_agrees _ v v' text
  | none => exact Session.run_agrees _ v v' _

namespace SameButVerbose

theorem run_agrees (h : SameButVerbose arguments arguments') (setting setting' : Option String)
    (input : List UInt8) :
    (run arguments setting input).Agrees (run arguments' setting' input) := by
  obtain hstart | ⟨o, n, n', ho, ho'⟩ := h.start_cases
  · rw [run, run, hstart setting setting']
    exact ⟨rfl, rfl⟩
  · rw [run_of_request ho, run_of_request ho']
    exact o.transcript_agrees n n' _ _ input

end SameButVerbose

end CommandLine

end Calculator
