import Calculator.CommandLine.Program
import Calculator.Proofs.ExitCommands
import Calculator.Proofs.Sessions

namespace Calculator

namespace CommandLine

theorem exists_digit_head (n : Nat) : ∃ c cs, Nat.toDigits 10 n = c :: cs ∧ c.isDigit := by
  obtain ⟨c, cs, hd⟩ := List.exists_cons_of_ne_nil (Nat.toDigits_ne_nil (n := n) (b := 10))
  have hc : c ∈ Nat.toDigits 10 n := hd ▸ List.mem_cons_self
  exact ⟨c, cs, hd, Nat.isDigit_of_mem_toDigits (by decide) (by decide) hc⟩

theorem natural?_toString (h : n < 0x10000000000000000) : natural? (toString n) = some n := by
  obtain ⟨c, cs, hd, hc⟩ := exists_digit_head n
  have hplus : c ≠ '+' := by
    rintro rfl
    exact absurd hc (by decide)
  have hall : (c :: cs).all Char.isDigit := by
    rw [← hd, List.all_eq_true]
    exact fun _ hm => Nat.isDigit_of_mem_toDigits (by decide) (by decide) hm
  have hvalue : Nat.ofDigitChars 10 (c :: cs) 0 = n := by rw [← hd, Nat.ofDigitChars_ten_toDigits]
  simp [natural?, hd, hplus, hall, hvalue, h]

theorem isValue_toString (n : Nat) : isValue (toString n) := by
  obtain ⟨c, cs, hd, hc⟩ := exists_digit_head n
  have hhyphen : c ≠ '-' := by
    rintro rfl
    exact absurd hc (by decide)
  simp [isValue, hd, hhyphen]

theorem items_precision {value : String} (h : isValue value) (rest : List String) :
    items ("--precision" :: value :: rest) = .precision value :: items rest := by
  rw [items, if_neg (by decide), if_neg (by decide)]
  simp only [h]
  rfl

theorem start_expression (hn : n < 0x10000000000000000) (text : String) (setting : Option String) :
    start ["--precision", toString n, "--", text] setting =
      .finished (once { precision := n } (({} : Options).verbosityWith setting) text) := by
  have hitems : items ["--precision", toString n, "--", text] =
      [.precision (toString n), .expression text] := by
    rw [items_precision (isValue_toString n)]
    rfl
  rw [start, Request.ofArguments, hitems, request, natural?_toString hn]
  rfl

theorem start_interactive (hn : n < 0x10000000000000000) (setting : Option String) :
    start ["--precision", toString n] setting =
      .interactive { precision := n } (({} : Options).verbosityWith setting) := by
  rw [start, Request.ofArguments, items_precision (isValue_toString n), request,
    natural?_toString hn]
  rfl

theorem once_eq (hv : Verbosity.IsQuiet v) (s : Session) (text : String) :
    once s v text =
      match evaluate text with
      | .ok x => (s.format? x).elim ⟨[], .aborted⟩ fun shown => ⟨[.out shown], .success⟩
      | .error e => ⟨[.err ("Error: " ++ e.message)], .failure⟩ := by
  simp only [once, output_evaluateLogged hv, value_evaluateLogged, List.nil_append]
  cases evaluate text with
  | ok x =>
    dsimp only
    cases s.format? x with
    | some shown => rfl
    | none => rfl
  | error e => rfl

end CommandLine

theorem evaluate_of_isExit (h : ({} : Session).isExit text) :
    ∃ c offset, evaluate text = .error (.read (.invalidCharacter c offset)) :=
  Session.evaluate_of_exit Session.exists_mem_exitKeywords h

namespace CommandLine

section Agreement

variable (hn : n < 0x10000000000000000) (hv : (({} : Options).verbosityWith setting).IsQuiet)
include hn hv

theorem run_expression_of_ok (h : evaluate text = .ok x) (stdin : List UInt8) :
    run ["--precision", toString n, "--", text] setting stdin =
      (({ precision := n } : Session).format? x).elim ⟨[], .aborted⟩
        fun shown => ⟨[.out shown], .success⟩ := by
  rw [run, start_expression hn]
  dsimp only
  rw [once_eq hv, h]

theorem run_expression_of_error (h : evaluate text = .error e) (stdin : List UInt8) :
    run ["--precision", toString n, "--", text] setting stdin =
      ⟨[.err ("Error: " ++ e.message)], .failure⟩ := by
  rw [run, start_expression hn]
  dsimp only
  rw [once_eq hv, h]

theorem run_session (row : Input.Row) :
    let s : Session := { precision := n }
    run ["--precision", toString n] setting row.bytes = s.transcript (s.outcome row.text) := by
  rw [run, start_interactive hn]
  exact Session.run_row hv row

end Agreement

/-- An expression given as an argument and the same one typed into a session come to the same. -/
theorem run_expression_agrees (hn : n < 0x10000000000000000)
    (hv : (({} : Options).verbosityWith setting).IsQuiet) (row : Input.Row) (stdin : List UInt8) :
    let s : Session := { precision := n }
    let direct := run ["--precision", toString n, "--", row.text] setting stdin
    let session := run ["--precision", toString n] setting row.bytes
    (({} : Session).isExit row.text = false →
      (∀ x, evaluate row.text = .ok x → n ≤ Session.maxPrecision →
        ∃ shown, s.format? x = some shown ∧
          direct.stdout = shown ++ "\n" ∧ direct.stderr = "" ∧ direct.status.code = 0 ∧
          session.stdout = s.banner ++ "\n" ++ ("Result: " ++ shown ++ "\n") ∧
          session.stderr = "" ∧ session.status.code = 0) ∧
      (∀ e, evaluate row.text = .error e →
        direct.stdout = "" ∧ direct.stderr = "Error: " ++ e.message ++ "\n" ∧
          direct.status.code = 1 ∧ session.stdout = s.banner ++ "\n" ∧
          session.stderr = "Error: " ++ e.message ++ "\n" ∧ session.status.code = 0) ∧
      (Session.maxPrecision < n →
        (direct.status = .aborted ↔ ∃ x, evaluate row.text = .ok x) ∧
          (session.status = .aborted ↔ ∃ x, evaluate row.text = .ok x))) ∧
    (({} : Session).isExit row.text → ∃ c offset,
      evaluate row.text = .error (.read (.invalidCharacter c offset)) ∧ direct.stdout = "" ∧
        direct.stderr = "Error: " ++ (ReadError.invalidCharacter c offset).message ++ "\n" ∧
        direct.status.code = 1) := by
  intro s direct session
  have hsession : session = s.transcript (s.outcome row.text) := run_session hn hv row
  refine ⟨fun (hexit : s.isExit row.text = false) => ⟨?_, ?_, ?_⟩, ?_⟩
  · intro x hx hp
    have hformat : s.format? x = some (x.fixed n) := if_pos hp
    have hdirect : direct = ⟨[.out (x.fixed n)], .success⟩ :=
      (run_expression_of_ok hn hv hx stdin).trans (by rw [hformat]; rfl)
    rw [Session.outcome_of_ok hexit hx hformat] at hsession
    refine ⟨x.fixed n, hformat, ?_⟩
    simp [hdirect, hsession, Session.transcript, ExitStatus.code]
  · intro e he
    have hdirect : direct = _ := run_expression_of_error hn hv he stdin
    rw [Session.outcome_of_error hexit he] at hsession
    simp [hdirect, hsession, Session.transcript, ExitStatus.code]
  · intro hp
    have hformat (x : Binary64) : s.format? x = none := if_neg (Nat.not_le.2 hp)
    cases he : evaluate row.text with
    | ok x =>
      have hdirect : direct = ⟨[], .aborted⟩ :=
        (run_expression_of_ok hn hv he stdin).trans (by rw [hformat]; rfl)
      rw [Session.outcome_of_unformatted hexit he (hformat x)] at hsession
      simp [hdirect, hsession, Session.transcript]
    | error e =>
      have hdirect : direct = _ := run_expression_of_error hn hv he stdin
      rw [Session.outcome_of_error hexit he] at hsession
      simp [hdirect, hsession, Session.transcript]
  · intro hexit
    obtain ⟨c, offset, herror⟩ := evaluate_of_isExit hexit
    have hdirect : direct = _ := run_expression_of_error hn hv herror stdin
    refine ⟨c, offset, herror, ?_⟩
    simp [hdirect, Error.message, ExitStatus.code]

/-- A quarter is printed, and aborts both programs at one decimal too many. -/
theorem run_expression_agrees_quarter :
    let direct (precision text : String) := run ["--precision", precision, "--", text] none []
    let session (precision : String) := run ["--precision", precision] none [49, 47, 52, 10]
    (direct "2" "1/4").stdout = "0.25\n" ∧
      (session "2").stdout =
        "Command-line calculator (type 'exit' or 'quit' to leave)\nResult: 0.25\n" ∧
      (direct "65536" "1/4").status = .aborted ∧ (session "65536").status = .aborted ∧
      (direct "2" "QUIT").stderr = "Error: Invalid character 'Q' at offset 0.\n" := by
  intro direct session
  let quarter : Input.Row := ⟨"1/4", .lf, by decide, by decide, by decide⟩
  let quit : Input.Row := ⟨"QUIT", .lf, by decide, by decide, by decide⟩
  have hbytes : quarter.bytes = [49, 47, 52, 10] := by decide +kernel
  have hexit : ({} : Session).isExit "1/4" = false := by decide +kernel
  have hvalue : evaluate "1/4" = .ok (.finite false ⟨0x10000000000000, -54, by decide⟩) := by
    decide +kernel
  have hquit : evaluate "QUIT" = .error (.read (.invalidCharacter 'Q' 0)) := by decide +kernel
  have htwo : toString 2 = "2" := by decide +kernel
  have hmany : toString 65536 = "65536" := by decide +kernel
  have hshow := ((@run_expression_agrees 2 none (by decide) rfl quarter []).1 hexit).1 _ hvalue
    (by decide)
  have habort := ((@run_expression_agrees 65536 none (by decide) rfl quarter []).1 hexit).2.2
    (by decide)
  have hfail := (@run_expression_agrees 2 none (by decide) rfl quit []).2 (by decide +kernel)
  simp only [htwo, hbytes] at hshow
  simp only [hmany, hbytes] at habort
  simp only [htwo] at hfail
  obtain ⟨shown, hformat, hdirect, -, -, hsession, -, -⟩ := hshow
  obtain ⟨c, offset, herror, -, hmessage, -⟩ := hfail
  obtain rfl : "0.25" = shown := Option.some.inj (.trans (by decide +kernel) hformat)
  obtain ⟨rfl, rfl⟩ : 'Q' = c ∧ 0 = offset := by simpa using hquit.symm.trans herror
  refine ⟨hdirect, hsession.trans (by decide +kernel), habort.1.2 ⟨_, hvalue⟩,
    habort.2.2 ⟨_, hvalue⟩, hmessage.trans (by decide +kernel)⟩

end CommandLine

end Calculator
