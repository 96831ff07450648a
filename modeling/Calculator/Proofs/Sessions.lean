import Calculator.Proofs.Answers
import Calculator.Proofs.Lines

namespace Calculator

namespace Transcript

variable (line : String) (output : List Output) (status : ExitStatus)

@[simp] theorem stdout_nil : stdout ⟨[], status⟩ = "" := rfl

@[simp] theorem stderr_nil : stderr ⟨[], status⟩ = "" := rfl

@[simp] theorem stdout_out :
    stdout ⟨.out line :: output, status⟩ = line ++ "\n" ++ stdout ⟨output, status⟩ :=
  String.join_cons

@[simp] theorem stdout_err : stdout ⟨.err line :: output, status⟩ = stdout ⟨output, status⟩ :=
  String.join_cons.trans String.empty_append

@[simp] theorem stderr_out : stderr ⟨.out line :: output, status⟩ = stderr ⟨output, status⟩ :=
  String.join_cons.trans String.empty_append

@[simp] theorem stderr_err :
    stderr ⟨.err line :: output, status⟩ = line ++ "\n" ++ stderr ⟨output, status⟩ :=
  String.join_cons

theorem stdout_precededBy (t : Transcript) :
    (t.precededBy output).stdout = stdout ⟨output, t.status⟩ ++ t.stdout := by
  rw [stdout, precededBy, List.map_append, String.join_append]
  rfl

theorem stderr_precededBy (t : Transcript) :
    (t.precededBy output).stderr = stderr ⟨output, t.status⟩ ++ t.stderr := by
  rw [stderr, precededBy, List.map_append, String.join_append]
  rfl

end Transcript

namespace Outcome

/-- What a session writes about a line that does not end it. -/
def reply : Outcome → List Output
  | .value text => [.out ("Result: " ++ text)]
  | .failure message => [.err ("Error: " ++ message)]
  | .exit | .abort => []

def resultLine : Outcome → String
  | .value text => "Result: " ++ text ++ "\n"
  | .failure _ | .exit | .abort => ""

def errorLine : Outcome → String
  | .failure message => "Error: " ++ message ++ "\n"
  | .value _ | .exit | .abort => ""

theorem stdout_reply (o : Outcome) (status : ExitStatus) :
    Transcript.stdout ⟨o.reply, status⟩ = o.resultLine := by
  cases o <;> simp [reply, resultLine]

theorem stderr_reply (o : Outcome) (status : ExitStatus) :
    Transcript.stderr ⟨o.reply, status⟩ = o.errorLine := by
  cases o <;> simp [reply, errorLine]

theorem stdout_replies (outcomes : List Outcome) (status : ExitStatus) :
    Transcript.stdout ⟨outcomes.flatMap reply, status⟩ = .join (outcomes.map resultLine) := by
  induction outcomes with
  | nil => rfl
  | cons o outcomes ih =>
    have h := Transcript.stdout_precededBy o.reply ⟨outcomes.flatMap reply, status⟩
    rw [stdout_reply, ih, ← String.join_cons] at h
    exact h

theorem stderr_replies (outcomes : List Outcome) (status : ExitStatus) :
    Transcript.stderr ⟨outcomes.flatMap reply, status⟩ = .join (outcomes.map errorLine) := by
  induction outcomes with
  | nil => rfl
  | cons o outcomes ih =>
    have h := Transcript.stderr_precededBy o.reply ⟨outcomes.flatMap reply, status⟩
    rw [stderr_reply, ih, ← String.join_cons] at h
    exact h

end Outcome

namespace Session

variable {s : Session} {v : Verbosity}

theorem close_of_quiet (hv : v.IsQuiet) : close v = [] := by
  have he : (Logged.report .sessionEnded).events v = [] := by
    rw [Logged.events_report]
    exact if_neg (Bool.eq_false_iff.1 hv)
  rw [close, Logged.output, he, List.map_nil]

theorem proceed_line (hv : v.IsQuiet) (line : String) (rest : List Input) :
    s.proceed v (.line line :: rest) =
      match s.outcome line with
      | .exit => ⟨[.out farewell], .success⟩
      | .value text => (s.proceed v rest).precededBy [.out ("Result: " ++ text)]
      | .failure message => (s.proceed v rest).precededBy [.err ("Error: " ++ message)]
      | .abort => ⟨[], .aborted⟩ := by
  simp only [proceed, react, output_answer hv, value_answer, close_of_quiet hv, List.nil_append]
  cases s.outcome line with
  | exit => rfl
  | value text => rfl
  | failure message => rfl
  | abort => rfl

theorem proceed_answered (hp : s.precision ≤ maxPrecision) (hv : v.IsQuiet)
    (h : s.isExit line = false) (rest : List Input) :
    s.proceed v (.line line :: rest) = (s.proceed v rest).precededBy (s.outcome line).reply := by
  rw [proceed_line hv]
  obtain ⟨text, ho⟩ | ⟨message, ho⟩ := outcome_cases hp h
  · rw [ho]
    rfl
  · rw [ho]
    rfl

/-- The lines before the first exit command. -/
def beforeExit (s : Session) (lines : List String) : List String :=
  lines.takeWhile (!s.isExit ·)

theorem beforeExit_of_exit (h : s.isExit line) (lines : List String) :
    s.beforeExit (line :: lines) = [] := by
  rw [beforeExit, List.takeWhile_cons, h]
  rfl

theorem beforeExit_cons (h : s.isExit line = false) (lines : List String) :
    s.beforeExit (line :: lines) = line :: s.beforeExit lines := by
  rw [beforeExit, List.takeWhile_cons, h]
  rfl

theorem isExit_of_mem_beforeExit (h : line ∈ s.beforeExit lines) : s.isExit line = false := by
  have ha := List.all_eq_true.1 (List.all_takeWhile (p := (!s.isExit ·)) (l := lines)) line h
  rwa [Bool.not_eq_true'] at ha

def replies (s : Session) (lines : List String) : List Output :=
  (lines.map s.outcome).flatMap Outcome.reply

theorem replies_cons (line : String) (lines : List String) :
    s.replies (line :: lines) = (s.outcome line).reply ++ s.replies lines := by
  rw [replies, List.map_cons, List.flatMap_cons]
  rfl

/-- The end of a session that reads `rest` unless one of the lines is an exit command. -/
def conclusion (s : Session) (v : Verbosity) (lines : List String) (rest : List Input) :
    Transcript :=
  if lines.any s.isExit then ⟨[.out farewell], .success⟩ else s.proceed v rest

theorem conclusion_of_exit (h : lines.any s.isExit) (rest : List Input) :
    s.conclusion v lines rest = ⟨[.out farewell], .success⟩ :=
  if_pos h

theorem conclusion_nil (hv : v.IsQuiet) (lines : List String) :
    s.conclusion v lines [] = ⟨if lines.any s.isExit then [.out farewell] else [], .success⟩ := by
  rw [conclusion, proceed, close_of_quiet hv]
  split
  · rfl
  · rfl

theorem conclusion_unreadable (h : lines.any s.isExit = false) (rest : List Input) :
    let t := s.conclusion v lines (.unreadable :: rest)
    t.stdout = "" ∧
      t.stderr =
        (if v.admits .error then (Event.unreadable unreadableReason).record ++ "\n" else "") ++
          ("Failed to read from the terminal: " ++ unreadableReason ++ "\n") ∧
      t.status = .failure := by
  have hlog : (Logged.report (.unreadable unreadableReason)).output v =
      if v.admits .error then [.err (Event.unreadable unreadableReason).record] else [] := by
    rw [Logged.output, Logged.events_report, apply_ite (List.map _)]
    rfl
  simp only [conclusion, h, Bool.false_eq_true, ↓reduceIte, proceed, react, hlog]
  cases v.admits .error with
  | true => simp
  | false => simp

/-- The lines before the first exit command are replied to one by one. -/
theorem proceed_lines (hp : s.precision ≤ maxPrecision) (hv : v.IsQuiet) (lines : List String)
    (rest : List Input) :
    s.proceed v (lines.map .line ++ rest) =
      (s.conclusion v lines rest).precededBy (s.replies (s.beforeExit lines)) := by
  induction lines with
  | nil => rfl
  | cons line lines ih =>
    rw [List.map_cons, List.cons_append, conclusion, List.any_cons]
    cases he : s.isExit line with
    | true =>
      rw [proceed_line hv, outcome_of_exit he, beforeExit_of_exit he]
      rfl
    | false =>
      rw [proceed_answered hp hv he, ih, beforeExit_cons he, replies_cons, Bool.false_or]
      exact congrArg (Transcript.mk · _) (List.append_assoc ..).symm

section Lines

variable (hp : s.precision ≤ maxPrecision) (hv : v.IsQuiet) (lines : List String)
  (rest : List Input)
include hp hv

theorem stdout_run :
    (s.run v (lines.map .line ++ rest)).stdout =
      s.banner ++ "\n" ++
        .join ((s.beforeExit lines).map fun line => (s.outcome line).resultLine) ++
        (s.conclusion v lines rest).stdout := by
  rw [run, proceed_lines hp hv, Transcript.stdout_precededBy, Transcript.stdout_precededBy, replies,
    Outcome.stdout_replies, List.map_map]
  simp [String.append_assoc, Function.comp_def]

theorem stderr_run :
    (s.run v (lines.map .line ++ rest)).stderr =
      .join ((s.beforeExit lines).map fun line => (s.outcome line).errorLine) ++
        (s.conclusion v lines rest).stderr := by
  rw [run, proceed_lines hp hv, Transcript.stderr_precededBy, Transcript.stderr_precededBy, replies,
    Outcome.stderr_replies, List.map_map]
  simp [Function.comp_def]

theorem status_run :
    (s.run v (lines.map .line ++ rest)).status = (s.conclusion v lines rest).status := by
  rw [run, proceed_lines hp hv]
  rfl

theorem run_lines :
    let t := s.run v (lines.map .line)
    t.stdout = s.banner ++ "\n" ++
        .join ((s.beforeExit lines).map fun line => (s.outcome line).resultLine) ++
        (if lines.any s.isExit then farewell ++ "\n" else "") ∧
      t.stderr = .join ((s.beforeExit lines).map fun line => (s.outcome line).errorLine) ∧
      t.status = .success := by
  have hout := stdout_run hp hv lines []
  have herr := stderr_run hp hv lines []
  have hstatus := status_run hp hv lines []
  rw [List.append_nil, conclusion_nil hv] at hout herr hstatus
  refine ⟨hout.trans ?_, herr.trans ?_, hstatus⟩
  · congr 1
    split
    · simp
    · rfl
  · split
    · simp
    · simp

theorem run_of_exit (h : lines.any s.isExit) :
    s.run v (lines.map .line ++ rest) = s.run v (lines.map .line) := by
  have hproceed (inputs : List Input) : s.proceed v (lines.map .line ++ inputs) =
      Transcript.precededBy (s.replies (s.beforeExit lines)) ⟨[.out farewell], .success⟩ := by
    rw [proceed_lines hp hv, conclusion_of_exit h]
  have hnil := hproceed []
  rw [List.append_nil] at hnil
  rw [run, run, hproceed, hnil]

theorem run_unreadable (h : lines.any s.isExit = false) :
    let t := s.run v (lines.map .line)
    let broken := s.run v (lines.map .line ++ .unreadable :: rest)
    broken.stdout = t.stdout ∧
      broken.stderr = t.stderr ++
        (if v.admits .error then (Event.unreadable unreadableReason).record ++ "\n" else "") ++
        ("Failed to read from the terminal: " ++ unreadableReason ++ "\n") ∧
      broken.status = .failure := by
  intro t broken
  obtain ⟨hout, herr, hstatus⟩ := conclusion_unreadable (v := v) h rest
  have hlines := run_lines hp hv lines
  rw [h] at hlines
  refine ⟨?_, ?_, ?_⟩
  · rw [stdout_run hp hv, hout]
    exact hlines.1.symm
  · rw [stderr_run hp hv, herr, ← hlines.2.1, ← String.append_assoc]
  · rw [status_run hp hv, hstatus]

end Lines

def transcript (s : Session) : Outcome → Transcript
  | .exit => ⟨[.out s.banner, .out farewell], .success⟩
  | .value text => ⟨[.out s.banner, .out ("Result: " ++ text)], .success⟩
  | .failure message => ⟨[.out s.banner, .err ("Error: " ++ message)], .success⟩
  | .abort => ⟨[.out s.banner], .aborted⟩

theorem run_row (hv : v.IsQuiet) (row : Input.Row) :
    s.run v (Input.ofBytes row.bytes) = s.transcript (s.outcome row.text) := by
  rw [run, row.ofBytes_bytes, proceed_line hv, proceed, close_of_quiet hv]
  cases s.outcome row.text with
  | exit => rfl
  | value text => rfl
  | failure message => rfl
  | abort => rfl

theorem run_answered_row (hp : s.precision ≤ maxPrecision) (hv : v.IsQuiet) (row : Input.Row)
    (h : s.isExit row.text = false) :
    let alone := s.run v (Input.ofBytes row.bytes)
    alone.stdout = s.banner ++ "\n" ++ (s.outcome row.text).resultLine ∧
      alone.stderr = (s.outcome row.text).errorLine ∧ alone.status = .success := by
  intro alone
  have halone : alone = s.transcript (s.outcome row.text) := run_row hv row
  obtain ⟨text, ho⟩ | ⟨message, ho⟩ := outcome_cases hp h
  · rw [halone, ho]
    simp [transcript, Outcome.resultLine, Outcome.errorLine]
  · rw [halone, ho]
    simp [transcript, Outcome.resultLine, Outcome.errorLine]

/-- Rows of text before anything else. Every line before the first exit command is answered as if
it were the only one, the lines behind it have no effect, and only a line that is not UTF-8 makes
the session fail, with all that was written before it. -/
theorem run_rows (hp : s.precision ≤ maxPrecision) (hv : v.IsQuiet) {rows : List Input.Row}
    (hrows : ∀ row ∈ rows.dropLast, row.ending ≠ .missing) :
    let lines := rows.map Input.Row.text
    let answers := (s.beforeExit lines).map fun line => (s.answer line).value v
    let t := s.run v (Input.ofBytes (rows.flatMap Input.Row.bytes))
    (t.stdout = s.banner ++ "\n" ++ .join (answers.map Outcome.resultLine) ++
        (if lines.any s.isExit then farewell ++ "\n" else "") ∧
      t.stderr = .join (answers.map Outcome.errorLine) ∧ t.status.code = 0) ∧
    (∀ row : Input.Row, row.text ∈ s.beforeExit lines →
      let answer := (s.answer row.text).value v
      let alone := s.run v (Input.ofBytes row.bytes)
      alone.stdout = s.banner ++ "\n" ++ answer.resultLine ∧ alone.stderr = answer.errorLine ∧
        alone.status.code = 0) ∧
    ((∀ row ∈ rows, row.ending ≠ .missing) →
      (lines.any s.isExit → ∀ rest,
        s.run v (Input.ofBytes (rows.flatMap Input.Row.bytes ++ rest)) = t) ∧
      (lines.any s.isExit = false → ∀ line ending rest,
        Input.IsLine line ending → Input.ofLine line = .unreadable →
        (ending = .missing → rest = []) →
        let broken := s.run v
          (Input.ofBytes (rows.flatMap Input.Row.bytes ++ (line ++ ending.bytes ++ rest)))
        broken.stdout = t.stdout ∧
          broken.stderr = t.stderr ++
            (if v.admits .error then (Event.unreadable unreadableReason).record ++ "\n" else "") ++
            ("Failed to read from the terminal: " ++ unreadableReason ++ "\n") ∧
          broken.status.code = 1)) := by
  intro lines answers t
  have hread : Input.ofBytes (rows.flatMap Input.Row.bytes) = lines.map .line :=
    Input.ofBytes_rows hrows
  have hlines := run_lines hp hv lines
  simp only [t, answers, hread, value_answer, List.map_map]
  refine ⟨⟨hlines.1, hlines.2.1, congrArg ExitStatus.code hlines.2.2⟩, ?_, ?_⟩
  · intro row hrow
    have halone := run_answered_row hp hv row (isExit_of_mem_beforeExit hrow)
    exact ⟨halone.1, halone.2.1, congrArg ExitStatus.code halone.2.2⟩
  · intro hended
    refine ⟨fun hexit rest => ?_, fun hexit line ending rest hline hbad hrest => ?_⟩
    · rw [Input.ofBytes_rows_append hended]
      exact run_of_exit hp hv lines _ hexit
    · have hbroken := run_unreadable hp hv lines (Input.ofBytes rest) hexit
      rw [Input.ofBytes_rows_append hended, Input.ofBytes_append hline hrest, hbad]
      exact ⟨hbroken.1, hbroken.2.1, congrArg ExitStatus.code hbroken.2.2⟩

/-- The lines 1+1 and 1/0, then a byte that is not UTF-8, or QUIT and any bytes. -/
theorem run_rows_sum :
    let s : Session := {}
    let bytes : List UInt8 := [49, 43, 49, 13, 10, 49, 47, 48, 10]
    let t := s.run (.upTo .warn) (Input.ofBytes bytes)
    let broken := s.run (.upTo .warn) (Input.ofBytes (bytes ++ [255, 10]))
    (t.stdout = "Command-line calculator (type 'exit' or 'quit' to leave)\nResult: 2.00\n" ∧
      t.stderr = "Error: Division by zero at offset 1.\n" ∧ t.status.code = 0) ∧
    (broken.stdout = t.stdout ∧ broken.status.code = 1) ∧
    ∀ rest, s.run (.upTo .warn) (Input.ofBytes (bytes ++ [81, 85, 73, 84, 10] ++ rest)) =
      s.run (.upTo .warn) (Input.ofBytes (bytes ++ [81, 85, 73, 84, 10])) := by
  intro s bytes t broken
  let sum : Input.Row := ⟨"1+1", .crlf, by decide, by decide, by decide⟩
  let quotient : Input.Row := ⟨"1/0", .lf, by decide, by decide, by decide⟩
  let quit : Input.Row := ⟨"QUIT", .lf, by decide, by decide, by decide⟩
  have hbytes : [sum, quotient].flatMap Input.Row.bytes = bytes := by decide +kernel
  have hquit : [sum, quotient, quit].flatMap Input.Row.bytes = bytes ++ [81, 85, 73, 84, 10] := by
    decide +kernel
  have hopen := @run_rows s (.upTo .warn) (by decide) rfl [sum, quotient] (by decide)
  have hclosed := @run_rows s (.upTo .warn) (by decide) rfl [sum, quotient, quit] (by decide)
  simp only [hbytes] at hopen
  simp only [hquit] at hclosed
  obtain ⟨⟨hout, herr, hcode⟩, -, hafter⟩ := hopen
  refine ⟨⟨hout.trans ?_, herr.trans ?_, hcode⟩, ?_, ?_⟩
  · decide +kernel
  · decide +kernel
  · have hbroken := (hafter (by decide)).2 (by decide +kernel) [255] .lf []
      ⟨by decide, by decide, by decide⟩ (by decide +kernel) (by decide)
    exact ⟨hbroken.1, hbroken.2.2⟩
  · exact (hclosed.2.2 (by decide)).1 (by decide +kernel)

end Session

end Calculator
