import Calculator.Proofs.Coverage
import Calculator.Proofs.Culprits

namespace Calculator

theorem exists_token_of_mem_lexemes (h : tokenize text = .ok tokens) (hl : l ∈ lexemes text) :
    ∃ t, l.value = .token t := by
  have hm : l.token ∈ (lexemes text).map Spanned.token := List.mem_map_of_mem hl
  rw [mapM_eq_ok_iff.1 h, List.mem_map] at hm
  obtain ⟨t, _, ht⟩ := hm
  exact ⟨t.value, (Spanned.token_eq_ok ht.symm).1⟩

theorem isPermitted_of_tokenize (h : tokenize text = .ok tokens) (hc : c ∈ text) :
    isPermitted c := by
  cases hp : isPermitted c with
  | true => rfl
  | false =>
    obtain ⟨before, after, hs⟩ := List.append_of_mem hc
    obtain ⟨t, ht⟩ :=
      exists_token_of_mem_lexemes h (mem_lexemes_iff.2 (.foreign hs (isForeign_iff.2 hp)))
    cases ht

theorem isWellFormed_of_tokenize (h : tokenize text = .ok tokens)
    (hs : text = before ++ run ++ after) (hr : IsRun before run after) :
    Numeral.isWellFormed run := by
  cases hw : Numeral.isWellFormed run with
  | true => rfl
  | false =>
    obtain ⟨t, ht⟩ := exists_token_of_mem_lexemes h (mem_lexemes_iff.2 (.malformed hs hr hw))
    cases ht

theorem validate_of_tokenize (h : tokenize text = .error (.invalidCharacter c offset)) :
    validate text = .error (.invalidCharacter c offset) := by
  obtain ⟨before, d, after, rfl, hb, ⟨he, hd⟩ | ⟨_, _, _, _, he⟩⟩ := exists_culprit_of_tokenize h
  · cases he
    exact validate_eq_invalidCharacter hb hd after
  · cases he

theorem width_lt_of_permitted (h : before ++ b :: after = front ++ d :: back)
    (hp : ∀ c ∈ before ++ [b], isPermitted c) (hd : isPermitted d = false) :
    Text.width before < Text.width front := by
  have hb := b.utf8Size_pos
  rw [List.append_cons] at h
  obtain ⟨mid, rfl, _⟩ | ⟨mid, he, hm⟩ := List.append_eq_append_iff.1 h
  · simp only [Text.width_append, Text.width]
    omega
  · cases mid with
    | nil =>
      rw [List.append_nil] at he
      rw [← he, Text.width_append, Text.width]
      omega
    | cons x mid =>
      obtain ⟨rfl, _⟩ := List.cons.inj hm
      rw [hp d (by rw [he]; simp)] at hd
      cases hd

/-- A malformed number hides a character that is not permitted only if it starts before it. -/
theorem tokenize_of_validate (h : validate text = .error (.invalidCharacter c offset)) :
    tokenize text = .error (.invalidCharacter c offset) ∨
      ∃ literal start, start < offset ∧
        tokenize text = .error (.malformedNumber literal start) := by
  cases ht : tokenize text with
  | ok tokens =>
    have hv : validate text = .ok () :=
      validate_of_permitted fun c hc => isPermitted_of_tokenize ht hc
    rw [hv] at h
    cases h
  | error e =>
    obtain ⟨before, b, after, hs, hb, ⟨rfl, _⟩ | ⟨run, rest, hr, hm, rfl⟩⟩ :=
      exists_culprit_of_tokenize ht
    · rw [Except.error.inj ((validate_of_tokenize ht).symm.trans h)]
      exact .inl rfl
    · obtain ⟨front, d, back, hs', he, hd, _⟩ := validate_eq_error h
      cases he
      have hnumeric : Numeral.isNumeric b := by
        obtain ⟨c, run, rfl⟩ := List.exists_cons_of_ne_nil hm.ne_nil
        obtain ⟨rfl, _⟩ := List.cons.inj hr
        exact hm.numeric b List.mem_cons_self
      refine .inr ⟨_, _, width_lt_of_permitted (hs.symm.trans hs') ?_ hd, rfl⟩
      intro x hx
      obtain hx | hx := List.mem_append.1 hx
      · exact hb x hx
      · exact List.mem_singleton.1 hx ▸ isPermitted_of_isNumeric hnumeric

section

variable {text : String}

theorem evaluate_of_invalid (h : isValid text.toList = false) :
    ∃ before c after, text.toList = before ++ c :: after ∧ (∀ b ∈ before, isPermitted b) ∧
      isPermitted c = false ∧
      evaluate text = .error (.read (.invalidCharacter c (Text.width before))) := by
  cases hv : validate text.toList with
  | ok u =>
    rw [isValid_iff_validate.2 hv] at h
    cases h
  | error e =>
    obtain ⟨before, c, after, hs, rfl, hc, hb⟩ := validate_eq_error hv
    refine ⟨before, c, after, hs, hb, hc, ?_⟩
    exact evaluate_of_unread (readTokens_eq_error_iff.2 (.inl hv))

theorem evaluate_of_malformed (h : isValid text.toList) (hs : text.toList = before ++ run ++ after)
    (hr : IsRun before run after) (hw : Numeral.isWellFormed run = false) :
    ∃ before run after, text.toList = before ++ run ++ after ∧ FirstMalformed before run after ∧
      evaluate text = .error (.read (.malformedNumber (.ofList run) (Text.width before))) := by
  have hv := isValid_iff_validate.1 h
  cases ht : tokenize text.toList with
  | ok tokens =>
    rw [isWellFormed_of_tokenize ht hs hr] at hw
    cases hw
  | error e =>
    obtain ⟨before, run, after, hs, hm, rfl⟩ := exists_firstMalformed hv ht
    refine ⟨before, run, after, hs, hm, ?_⟩
    exact evaluate_of_unread (readTokens_eq_error_iff.2 (.inr ⟨hv, ht⟩))

theorem evaluate_of_wellFormed (h : isValid text.toList)
    (hw : ∀ before run after, text.toList = before ++ run ++ after → IsRun before run after →
      Numeral.isWellFormed run) :
    ∃ tokens, tokenize text.toList = .ok tokens ∧
      evaluate text = (evalTokens tokens).result.mapError .eval := by
  have hv := isValid_iff_validate.1 h
  cases ht : tokenize text.toList with
  | ok tokens =>
    exact ⟨tokens, rfl, evaluate_of_read (readTokens_eq_ok_iff.2 ⟨hv, ht⟩)⟩
  | error e =>
    obtain ⟨before, run, after, hs, hm, _⟩ := exists_firstMalformed hv ht
    have hrun := hw before run after hs hm.toIsRun
    rw [isWellFormed_eq_false_iff.2 hm.malformed] at hrun
    cases hrun

end

/-- The check and the reading of tokens know the same alphabet, and each stage speaks only where
those before it have nothing to say. -/
theorem evaluate_stages (text : String) :
    (isValid text.toList ↔ validate text.toList = .ok ()) ∧
    (∀ c, isPermitted c = false ↔ IsForeign c) ∧
    (validate text.toList = .ok () →
      ∀ c offset, tokenize text.toList ≠ .error (.invalidCharacter c offset)) ∧
    (∀ c offset, tokenize text.toList = .error (.invalidCharacter c offset) →
      validate text.toList = .error (.invalidCharacter c offset)) ∧
    (∀ c offset, validate text.toList = .error (.invalidCharacter c offset) →
      tokenize text.toList = .error (.invalidCharacter c offset) ∨
        ∃ literal start, start < offset ∧
          tokenize text.toList = .error (.malformedNumber literal start)) ∧
    (isValid text.toList = false →
      ∃ before c after, text.toList = before ++ c :: after ∧ (∀ b ∈ before, isPermitted b) ∧
        isPermitted c = false ∧
        evaluate text = .error (.read (.invalidCharacter c (Text.width before)))) ∧
    (isValid text.toList →
      (∃ before run after, text.toList = before ++ run ++ after ∧ IsRun before run after ∧
        Numeral.isWellFormed run = false) →
      ∃ before run after, text.toList = before ++ run ++ after ∧ FirstMalformed before run after ∧
        evaluate text = .error (.read (.malformedNumber (.ofList run) (Text.width before)))) ∧
    (isValid text.toList →
      (∀ before run after, text.toList = before ++ run ++ after → IsRun before run after →
        Numeral.isWellFormed run) →
      ∃ tokens, tokenize text.toList = .ok tokens ∧
        evaluate text = (evalTokens tokens).result.mapError .eval) := by
  refine ⟨isValid_iff_validate, fun c => isForeign_iff.symm, ?_,
    fun c offset => validate_of_tokenize, fun c offset => tokenize_of_validate,
    evaluate_of_invalid, ?_, evaluate_of_wellFormed⟩
  · intro hv c offset ht
    rw [validate_of_tokenize ht] at hv
    cases hv
  · rintro hv ⟨before, run, after, hs, hr, hw⟩
    exact evaluate_of_malformed hv hs hr hw

/-- A malformed number before a foreign character, and one behind a division by zero and
parentheses that do not match. -/
theorem evaluate_stages_hidden :
    (∃ literal start, start < 4 ∧
      tokenize "1..)×/0".toList = .error (.malformedNumber literal start)) ∧
    (∃ before c after, "1..)×/0".toList = before ++ c :: after ∧ (∀ b ∈ before, isPermitted b) ∧
      isPermitted c = false ∧
      evaluate "1..)×/0" = .error (.read (.invalidCharacter c (Text.width before)))) ∧
    ∃ before run after, ")1/0(2..3".toList = before ++ run ++ after ∧
      FirstMalformed before run after ∧
      evaluate ")1/0(2..3" =
        .error (.read (.malformedNumber (.ofList run) (Text.width before))) := by
  have hv : validate "1..)×/0".toList = .error (.invalidCharacter '×' 4) := by decide +kernel
  have ht : tokenize "1..)×/0".toList ≠ .error (.invalidCharacter '×' 4) := by decide +kernel
  have hr : IsRun ")1/0(".toList "2..3".toList [] := by
    refine ⟨by decide, List.all_eq_true.1 rfl, ?_, nofun⟩
    rintro c ⟨⟩
    rfl
  obtain ⟨_, _, _, _, htokens, hinvalid, _⟩ := evaluate_stages "1..)×/0"
  obtain ⟨_, _, _, _, _, _, hmalformed, _⟩ := evaluate_stages ")1/0(2..3"
  refine ⟨(htokens '×' 4 hv).resolve_left ht, hinvalid (by decide +kernel), ?_⟩
  exact hmalformed (by decide +kernel)
    ⟨")1/0(".toList, "2..3".toList, [], by decide, hr, by decide +kernel⟩

end Calculator
