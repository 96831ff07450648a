import Calculator.Proofs.Answers
import Mathlib.Data.List.Forall2

namespace Calculator

namespace Text

/-- A letter and the same in either case, or a character and itself. -/
inductive Recased : Char → Char → Prop
  | same : Recased c c
  | lower : Recased c c.toLower
  | upper : Recased c c.toUpper

theorem Recased.toLower_eq (h : Recased c d) : d.toLower = c.toLower := by
  cases h with
  | same => rfl
  | lower => exact toLower_toLower c
  | upper => exact toLower_toUpper c

theorem map_toLower_of_recased (h : List.Forall₂ Recased text text') :
    text'.map Char.toLower = text.map Char.toLower := by
  induction h with
  | nil => rfl
  | cons h _ ih => rw [List.map_cons, List.map_cons, h.toLower_eq, ih]

end Text

theorem exists_of_invalid {text : String} (h : ∃ c ∈ text.toList, isPermitted c = false) :
    ∃ c offset, evaluate text = .error (.read (.invalidCharacter c offset)) := by
  obtain ⟨letter, hl, hp⟩ := h
  cases hv : validate text.toList with
  | ok u => exact absurd (isPermitted_of_validate hv hl) (Bool.eq_false_iff.1 hp)
  | error e =>
    obtain ⟨before, c, after, _, rfl, _⟩ := validate_eq_error hv
    exact ⟨c, _, evaluate_of_unread (readTokens_eq_error_iff.2 (.inl hv))⟩

namespace Session

theorem isExit_recased (s : Session) {front line line' back : String}
    (hf : ∀ c ∈ front.toList, Text.isWhiteSpace c) (hb : ∀ c ∈ back.toList, Text.isWhiteSpace c)
    (h : List.Forall₂ Text.Recased line.toList line'.toList) :
    s.isExit (front ++ line' ++ back) = s.isExit line := by
  have hw : (Text.trim (front ++ line' ++ back).toList).map Char.toLower =
      (Text.trim line.toList).map Char.toLower := by
    rw [String.toList_append, String.toList_append, Text.trim_append hf hb, Text.map_toLower_trim,
      Text.map_toLower_of_recased h, Text.map_toLower_trim]
  simp only [isExit, Text.eqIgnoringCase, hw]

theorem evaluate_of_exit {s : Session}
    (hk : ∀ k ∈ s.exitKeywords, ∃ c ∈ k.toList, isPermitted c = false) (h : s.isExit line) :
    ∃ c offset, evaluate line = .error (.read (.invalidCharacter c offset)) := by
  obtain ⟨k, hm, he⟩ := List.any_eq_true.1 h
  obtain ⟨letter, hl, hp⟩ := hk k hm
  have hw : k.toList.map Char.toLower = (Text.trim line.toList).map Char.toLower := eq_of_beq he
  have hlower : letter.toLower ∈ k.toList.map Char.toLower := List.mem_map_of_mem hl
  rw [hw] at hlower
  obtain ⟨c, hc, hs⟩ := List.mem_map.1 hlower
  apply exists_of_invalid ⟨c, Text.mem_of_mem_trim hc, ?_⟩
  rw [← isPermitted_toLower, hs, isPermitted_toLower, hp]

theorem exists_mem_exitKeywords :
    ∀ k ∈ ({} : Session).exitKeywords, ∃ c ∈ k.toList, isPermitted c = false := by
  intro k hk
  obtain rfl | rfl : k = "exit" ∨ k = "quit" := by simpa using hk
  · exact ⟨'e', by decide, by decide⟩
  · exact ⟨'q', by decide, by decide⟩

theorem ending_react_line (s : Session) (v : Verbosity) (line : String) :
    (s.react v (.line line)).ending =
      match s.outcome line with
      | .exit => some .success
      | .value _ | .failure _ => none
      | .abort => some .aborted := by
  simp only [react, value_answer]
  cases s.outcome line <;> rfl

theorem isExit_of_outcome {s : Session} (h : s.outcome line = .exit) : s.isExit line := by
  have ht := s.turnsOut_outcome line
  rw [h] at ht
  cases ht with
  | exit he => exact he

/-- White space around a line and the case of its letters do not matter to whether it is an exit
command, and where the keywords are no expressions, exit commands are none either. Any other line
is answered and the session goes on, but for a value at a precision over the limit. -/
theorem answer_exit (s : Session) :
    (∀ front line line' back : String, (∀ c ∈ front.toList, Text.isWhiteSpace c) →
      (∀ c ∈ back.toList, Text.isWhiteSpace c) →
      List.Forall₂ Text.Recased line.toList line'.toList →
      s.isExit (front ++ line' ++ back) = s.isExit line) ∧
    ((∀ k ∈ s.exitKeywords, ∃ c ∈ k.toList, isPermitted c = false) → ∀ line v,
      ((s.answer line).value v = .exit →
        ∃ c offset, evaluate line = .error (.read (.invalidCharacter c offset))) ∧
      (∀ x, evaluate line = .ok x →
        (s.precision ≤ maxPrecision → (s.answer line).value v = .value (x.fixed s.precision) ∧
          (s.react v (.line line)).ending = none) ∧
        (maxPrecision < s.precision → (s.answer line).value v = .abort ∧
          (s.react v (.line line)).ending = some .aborted)) ∧
      (∀ e, evaluate line = .error e → (∀ c offset, e ≠ .read (.invalidCharacter c offset)) →
        (s.answer line).value v = .failure e.message ∧
          (s.react v (.line line)).ending = none)) ∧
    ∀ k ∈ ({} : Session).exitKeywords, ∃ c ∈ k.toList, isPermitted c = false := by
  refine ⟨fun front line line' back hf hb h => s.isExit_recased hf hb h, ?_,
    exists_mem_exitKeywords⟩
  intro hk line v
  rw [value_answer, ending_react_line]
  have hstay (hn : ∀ c offset, evaluate line ≠ .error (.read (.invalidCharacter c offset))) :
      s.isExit line = false := by
    apply Bool.eq_false_iff.2
    intro he
    obtain ⟨c, offset, h⟩ := evaluate_of_exit hk he
    exact hn c offset h
  refine ⟨fun h => evaluate_of_exit hk (isExit_of_outcome h), ?_, ?_⟩
  · intro x hx
    have he := hstay fun c offset h => nomatch hx.symm.trans h
    constructor
    · intro hp
      have ho := outcome_of_ok he hx (if_pos hp)
      exact ⟨ho, by rw [ho]⟩
    · intro hp
      have ho := outcome_of_unformatted he hx (if_neg (Nat.not_le.2 hp))
      exact ⟨ho, by rw [ho]⟩
  · intro e hr hn
    have he := hstay fun c offset h => hn c offset (Except.error.inj (hr.symm.trans h))
    have ho := outcome_of_error he hr
    exact ⟨ho, by rw [ho]⟩

theorem answer_exit_cases :
    ({} : Session).isExit ("\t\u00a0" ++ "QuIt" ++ "\u3000") = true ∧
    (∀ v, (({ exitKeywords := ["7x"] } : Session).answer "1/4").value v = .value "0.25") ∧
    ∀ v, (({ precision := 65536 } : Session).answer "1/4").value v = .abort := by
  have hquit : ({} : Session).isExit "quit" = true := by decide +kernel
  have hvalue : evaluate "1/4" = .ok (.finite false ⟨0x10000000000000, -54, by decide⟩) := by
    decide +kernel
  have hrecased : List.Forall₂ Text.Recased "quit".toList "QuIt".toList :=
    .cons .upper (.cons .same (.cons .upper (.cons .same .nil)))
  have hkeyword : ∀ k ∈ ["7x"], ∃ c ∈ k.toList, isPermitted c = false := by
    intro k hk
    obtain rfl := List.mem_singleton.1 hk
    exact ⟨'x', by decide, by decide⟩
  refine ⟨?_, fun v => ?_, fun v => ?_⟩
  · have h := (answer_exit {}).1 "\t\u00a0" "quit" "QuIt" "\u3000" (List.all_eq_true.1 rfl)
      (List.all_eq_true.1 rfl) hrecased
    exact h.trans hquit
  · have h := ((answer_exit { exitKeywords := ["7x"] }).2.1 hkeyword "1/4" v).2.1 _ hvalue
    exact (h.1 (by decide)).1.trans (by decide +kernel)
  · have h :=
      ((answer_exit { precision := 65536 }).2.1 exists_mem_exitKeywords "1/4" v).2.1 _ hvalue
    exact (h.2 (by decide)).1

end Session

end Calculator
