import Calculator.Error
import Calculator.Text.Basic

namespace Calculator

/-- The characters that separate tokens. -/
def isBlank (c : Char) : Bool :=
  c == ' ' || c == '\t' || c == '\n' || c == '\r' || c == '\x0b' || c == '\x0c'

theorem blank_cases (h : isBlank c) :
    c = ' ' ∨ c = '\t' ∨ c = '\n' ∨ c = '\r' ∨ c = '\x0b' ∨ c = '\x0c' := by
  simpa [isBlank, or_assoc] using h

def isPermitted (c : Char) : Bool :=
  c.isDigit || ['+', '-', '*', '/', '(', ')', '.'].contains c || isBlank c

theorem toNat_lt_of_isPermitted (h : isPermitted c) : c.toNat < 65 := by
  rw [isPermitted, Bool.or_eq_true, Bool.or_eq_true] at h
  obtain (h | h) | h := h
  · have hd := (Bool.and_eq_true_iff.1 h).2
    exact Nat.lt_of_le_of_lt (UInt32.le_iff_toNat_le.1 (of_decide_eq_true hd)) (by decide)
  · obtain rfl | rfl | rfl | rfl | rfl | rfl | rfl :
        c = '+' ∨ c = '-' ∨ c = '*' ∨ c = '/' ∨ c = '(' ∨ c = ')' ∨ c = '.' := by simpa using h
    all_goals decide
  · obtain rfl | rfl | rfl | rfl | rfl | rfl := blank_cases h <;> decide

theorem isPermitted_toLower (c : Char) : isPermitted c.toLower = isPermitted c := by
  obtain ⟨_, _, h⟩ | ⟨_, h⟩ := Text.toLower_cases c
  · have hletter {d : Char} (hd : 65 ≤ d.toNat) : isPermitted d = false :=
      Bool.eq_false_iff.2 fun hp => Nat.not_lt.2 hd (toNat_lt_of_isPermitted hp)
    rw [hletter (by omega), hletter (by omega)]
  · rw [h]

def isValid (text : List Char) : Bool :=
  text.all isPermitted

/-- Reports the first character that is not permitted. -/
def validate (text : List Char) : Except ReadError Unit :=
  match text.dropWhile isPermitted with
  | [] => .ok ()
  | c :: _ => .error (.invalidCharacter c (Text.width (text.takeWhile isPermitted)))

theorem validate_of_permitted (h : ∀ c ∈ text, isPermitted c) : validate text = .ok () := by
  have hd : (text ++ []).dropWhile isPermitted = [] := List.dropWhile_append_of_pos h
  rw [List.append_nil] at hd
  rw [validate, hd]

theorem validate_eq_invalidCharacter (hb : ∀ b ∈ before, isPermitted b) (hc : isPermitted c = false)
    (after : List Char) :
    validate (before ++ c :: after) = .error (.invalidCharacter c (Text.width before)) := by
  rw [validate, List.dropWhile_append_of_pos hb, List.takeWhile_append_of_pos hb]
  simp only [List.dropWhile_cons, List.takeWhile_cons, hc, Bool.false_eq_true, ↓reduceIte,
    List.append_nil]

theorem isPermitted_of_validate (h : validate text = .ok ()) (hc : c ∈ text) : isPermitted c := by
  rw [validate] at h
  have ht := List.takeWhile_append_dropWhile (p := isPermitted) (l := text)
  cases hd : text.dropWhile isPermitted with
  | nil =>
    rw [hd, List.append_nil] at ht
    rw [← ht] at hc
    exact List.all_eq_true.1 List.all_takeWhile c hc
  | cons d rest =>
    rw [hd] at h
    cases h

theorem validate_eq_error (h : validate text = .error e) :
    ∃ before c after, text = before ++ c :: after ∧ e = .invalidCharacter c (Text.width before) ∧
      isPermitted c = false ∧ ∀ b ∈ before, isPermitted b := by
  rw [validate] at h
  have ht := List.takeWhile_append_dropWhile (p := isPermitted) (l := text)
  have hn := List.head?_dropWhile_not isPermitted text
  cases hd : text.dropWhile isPermitted with
  | nil =>
    rw [hd] at h
    cases h
  | cons c after =>
    rw [hd] at h ht hn
    cases h
    exact ⟨text.takeWhile isPermitted, c, after, ht.symm, rfl, hn,
      List.all_eq_true.1 (List.all_takeWhile)⟩

theorem isValid_iff_validate : isValid text ↔ validate text = .ok () := by
  rw [isValid, List.all_eq_true]
  exact ⟨validate_of_permitted, fun h _ hc => isPermitted_of_validate h hc⟩

end Calculator
