import Calculator.CommandLine.Program
import Calculator.Proofs.Answers
import Mathlib.Data.List.Basic

namespace Calculator

inductive Wording where
  | invalidCharacter
  | malformedNumber
  | mismatchedParenthesis
  | missingOperand
  | emptyExpression
  | divisionByZero
  | unjoinedValues
  deriving DecidableEq

namespace Wording

def opening : Wording → String
  | .invalidCharacter => "Invalid character '"
  | .malformedNumber => "Malformed number '"
  | .mismatchedParenthesis => "Mismatched parenthesis at offset "
  | .missingOperand => "Operator '"
  | .emptyExpression => "Expression is empty."
  | .divisionByZero => "Division by zero at offset "
  | .unjoinedValues => "Malformed expression: "

def closing : Wording → String
  | .missingOperand => " is missing an operand."
  | .unjoinedValues => " values are not joined by an operator."
  | .emptyExpression => ""
  | _ => "."

theorem eq_of_opening (w w' : Wording) (h : w.opening.toList <+: w'.opening.toList) : w = w' := by
  cases w <;> cases w' <;> revert h <;> decide

/-- No form begins like another, whatever comes behind. -/
theorem eq_of_append {w w' : Wording} (h : w.opening ++ text = w'.opening ++ text') : w = w' := by
  have hl := congrArg String.toList h
  rw [String.toList_append, String.toList_append] at hl
  have hp := List.prefix_append w.opening.toList text.toList
  rw [hl] at hp
  obtain hw | hw := List.prefix_or_prefix_of_prefix hp (List.prefix_append _ _)
  · exact eq_of_opening w w' hw
  · exact (eq_of_opening w' w hw).symm

end Wording

theorem toDigits_inj (h : Nat.toDigits 10 n = Nat.toDigits 10 n') : n = n' :=
  calc
    n = Nat.ofDigitChars 10 (Nat.toDigits 10 n) 0 := Nat.ofDigitChars_ten_toDigits.symm
    _ = Nat.ofDigitChars 10 (Nat.toDigits 10 n') 0 := by rw [h]
    _ = n' := Nat.ofDigitChars_ten_toDigits

theorem toString_inj {n n' : Nat} (h : toString n = toString n') : n = n' := by
  have hd := congrArg String.toList h
  simp only [Nat.toString_eq_repr, Nat.toList_repr] at hd
  exact toDigits_inj hd

theorem toString_char_inj {c c' : Char} (h : c.toString = c'.toString) : c = c' := by
  have hl := congrArg String.toList h
  simpa using hl

theorem eq_of_last (h : front ++ c :: back = front' ++ c :: back') (hb : c ∉ back)
    (hb' : c ∉ back') : front = front' ∧ back = back' := by
  obtain ⟨mid, rfl, hm⟩ | ⟨mid, rfl, hm⟩ := List.append_eq_append_iff.1 h
  · cases mid with
    | nil => exact ⟨(List.append_nil _).symm, (List.cons.inj hm).2⟩
    | cons d mid =>
      obtain ⟨rfl, rfl⟩ := List.cons.inj hm
      exact absurd (List.mem_append_right mid List.mem_cons_self) hb
  · cases mid with
    | nil => exact ⟨List.append_nil _, (List.cons.inj hm).2.symm⟩
    | cons d mid =>
      obtain ⟨rfl, rfl⟩ := List.cons.inj hm
      exact absurd (List.mem_append_right mid List.mem_cons_self) hb'

def quotedAt (text : String) (offset : Nat) : String :=
  text ++ "' at offset " ++ toString offset

theorem append_quotedAt (front text back : String) (offset : Nat) :
    front ++ text ++ "' at offset " ++ toString offset ++ back =
      front ++ (quotedAt text offset ++ back) := by
  simp only [quotedAt, String.append_assoc]

theorem toList_quotedAt (text : String) (offset : Nat) :
    (quotedAt text offset).toList =
      text.toList ++ '\'' :: (" at offset ".toList ++ Nat.toDigits 10 offset) := by
  simp [quotedAt]

theorem quote_notMem (offset : Nat) : '\'' ∉ " at offset ".toList ++ Nat.toDigits 10 offset := by
  intro h
  obtain h | h := List.mem_append.1 h
  · exact absurd h (by decide)
  · have hd : ('\'').isDigit := Nat.isDigit_of_mem_toDigits (by decide) (by decide) h
    exact absurd hd (by decide)

/-- The last quotation mark closes the quotation, whatever is quoted. -/
theorem quotedAt_inj (h : quotedAt text offset = quotedAt text' offset') :
    text = text' ∧ offset = offset' := by
  have hl := congrArg String.toList h
  rw [toList_quotedAt, toList_quotedAt] at hl
  obtain ⟨ht, hb⟩ := eq_of_last hl (quote_notMem offset) (quote_notMem offset')
  exact ⟨String.toList_inj.1 ht, toDigits_inj (List.append_cancel_left hb)⟩

namespace Error

def wording : Error → Wording
  | .read (.invalidCharacter _ _) => .invalidCharacter
  | .read (.malformedNumber _ _) => .malformedNumber
  | .eval (.mismatchedParenthesis _) => .mismatchedParenthesis
  | .eval (.missingOperand _ _) => .missingOperand
  | .eval .emptyExpression => .emptyExpression
  | .eval (.divisionByZero _) => .divisionByZero
  | .eval (.unjoinedValues _) => .unjoinedValues

/-- What a message says between the words of its form. -/
def particulars : Error → String
  | .read (.invalidCharacter c o) => quotedAt c.toString o
  | .read (.malformedNumber l o) => quotedAt l o
  | .eval (.mismatchedParenthesis o) => toString o
  | .eval (.missingOperand op o) => quotedAt op.symbol.toString o
  | .eval .emptyExpression => ""
  | .eval (.divisionByZero o) => toString o
  | .eval (.unjoinedValues n) => toString n

theorem message_eq (e : Error) :
    e.message = e.wording.opening ++ (e.particulars ++ e.wording.closing) := by
  cases e with
  | read e =>
    cases e with
    | invalidCharacter c o => exact append_quotedAt ..
    | malformedNumber l o => exact append_quotedAt ..
  | eval e =>
    cases e with
    | mismatchedParenthesis o => exact String.append_assoc ..
    | missingOperand op o => exact append_quotedAt ..
    | emptyExpression => exact (String.append_empty.trans String.append_empty).symm
    | divisionByZero o => exact String.append_assoc ..
    | unjoinedValues n => exact String.append_assoc ..

theorem eq_of_particulars {e e' : Error} (hw : e.wording = e'.wording)
    (hp : e.particulars = e'.particulars) : e = e' := by
  rcases e with (⟨c, o⟩ | ⟨l, o⟩) | (o | ⟨op, o⟩ | _ | o | n) <;>
    rcases e' with (⟨c', o'⟩ | ⟨l', o'⟩) | (o' | ⟨op', o'⟩ | _ | o' | n') <;>
    cases hw
  · obtain ⟨hc, rfl⟩ := quotedAt_inj hp
    rw [toString_char_inj hc]
  · obtain ⟨rfl, rfl⟩ := quotedAt_inj hp
    rfl
  · rw [toString_inj hp]
  · obtain ⟨hs, rfl⟩ := quotedAt_inj hp
    rw [Operator.symbol_injective (toString_char_inj hs)]
  · rfl
  · rw [toString_inj hp]
  · rw [toString_inj hp]

theorem message_inj {e e' : Error} (h : e.message = e'.message) : e = e' := by
  rw [message_eq, message_eq] at h
  have hw := Wording.eq_of_append h
  rw [hw] at h
  have hp := (String.append_left_inj _).1 ((String.append_right_inj _).1 h)
  exact eq_of_particulars hw hp

end Error

/-- The last thing that is written about a line is an error, by a session that goes on or by the
evaluation of a single expression. -/
inductive Complains (shown : String) : String → Prop
  | session {s : Session} : s.react v (.line line) = ⟨log ++ [.err shown], none⟩ →
      Complains shown line
  | once : CommandLine.once s v line = ⟨log ++ [.err shown], .failure⟩ → Complains shown line

theorem Complains.exists_error (h : Complains shown line) :
    ∃ e, evaluate line = .error e ∧ shown = "Error: " ++ e.message := by
  cases h with
  | @session v line log s h =>
    have ht := s.turnsOut_outcome line
    simp only [Session.react, Session.value_answer] at h
    generalize s.outcome line = o at h ht
    cases ht with
    | exit he => cases congrArg Reaction.ending h
    | value he hv hf =>
      obtain ⟨_, hs⟩ := List.append_singleton_inj.1 (congrArg Reaction.output h)
      cases hs
    | abort he hv hf => cases congrArg Reaction.ending h
    | failure he hv =>
      obtain ⟨_, hs⟩ := List.append_singleton_inj.1 (congrArg Reaction.output h)
      exact ⟨_, hv, (Output.err.inj hs).symm⟩
  | @once s v line log h =>
    simp only [CommandLine.once, value_evaluateLogged] at h
    cases hv : evaluate line with
    | ok x =>
      rw [hv] at h
      cases hf : s.format? x with
      | some text =>
        simp only [hf] at h
        cases congrArg Transcript.status h
      | none =>
        simp only [hf] at h
        cases congrArg Transcript.status h
    | error e =>
      rw [hv] at h
      obtain ⟨_, hs⟩ := List.append_singleton_inj.1 (congrArg Transcript.output h)
      exact ⟨e, rfl, (Output.err.inj hs).symm⟩

/-- The text of an error leaves no doubt about it, and neither does what a user is shown. -/
theorem message_determines :
    (∀ e e' : Error, e.message = e'.message → e = e') ∧
    ∀ shown line line', Complains shown line → Complains shown line' →
      ∃ e, shown = "Error: " ++ e.message ∧ evaluate line = .error e ∧
        evaluate line' = .error e := by
  constructor
  · intro e e' h
    exact Error.message_inj h
  · intro shown line line' h h'
    obtain ⟨e, he, rfl⟩ := h.exists_error
    obtain ⟨e', he', hs⟩ := h'.exists_error
    obtain rfl := Error.message_inj ((String.append_right_inj _).1 hs)
    exact ⟨e, rfl, he, he'⟩

theorem message_determines_quote :
    ∃ e, "Error: Invalid character ''' at offset 3." = "Error: " ++ e.message ∧
      evaluate "1+2' at offset 3." = .error e ∧ evaluate "\t+ '" = .error e := by
  have hsession : ({} : Session).react .off (.line "1+2' at offset 3.") =
      ⟨[] ++ [.err "Error: Invalid character ''' at offset 3."], none⟩ := by decide +kernel
  have honce : CommandLine.once {} .off "\t+ '" =
      ⟨[] ++ [.err "Error: Invalid character ''' at offset 3."], .failure⟩ := by decide +kernel
  exact message_determines.2 _ _ _ (.session hsession) (.once honce)

end Calculator
