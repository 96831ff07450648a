import Calculator.Brackets
import Calculator.Grammar

namespace Calculator

/-- The places of a row where an operand follows another with no operator between them. -/
def unjoinedPlaces (afterOperand : Bool) : List (Located Token) → Nat
  | [] => 0
  | ⟨.number _, _⟩ :: rest => afterOperand.toNat + unjoinedPlaces true rest
  | ⟨.operator _, _⟩ :: rest => unjoinedPlaces false rest
  | ⟨.openParen, _⟩ :: rest => afterOperand.toNat + unjoinedPlaces false rest
  | ⟨.closeParen, _⟩ :: rest => unjoinedPlaces true rest
  | ⟨.blank, _⟩ :: rest => unjoinedPlaces afterOperand rest

/-- The places of a row where an operand is missing: on either side of an operator, between
parentheses, or at the end. -/
def vacantPlaces (afterOperand : Bool) : List (Located Token) → Nat
  | [] => (!afterOperand).toNat
  | ⟨.number _, _⟩ :: rest => vacantPlaces true rest
  | ⟨.operator _, _⟩ :: rest => (!afterOperand).toNat + vacantPlaces false rest
  | ⟨.openParen, _⟩ :: rest => vacantPlaces false rest
  | ⟨.closeParen, _⟩ :: rest => (!afterOperand).toNat + vacantPlaces true rest
  | ⟨.blank, _⟩ :: rest => vacantPlaces afterOperand rest

namespace Expr

theorem unjoinedPlaces_tokens (e : Expr) (rest : List (Located Token)) :
    unjoinedPlaces false (e.tokens ++ rest) = unjoinedPlaces true rest := by
  induction e generalizing rest with
  | number x offset => exact Nat.zero_add _
  | group opening body closing ih =>
    simp only [tokens, List.cons_append, List.append_assoc, unjoinedPlaces, ih]
    exact Nat.zero_add _
  | binary op offset left right ihl ihr =>
    simp only [tokens, List.append_assoc, List.cons_append, ihl, unjoinedPlaces, ihr]

theorem vacantPlaces_tokens (e : Expr) (rest : List (Located Token)) :
    vacantPlaces false (e.tokens ++ rest) = vacantPlaces true rest := by
  induction e generalizing rest with
  | number x offset => rfl
  | group opening body closing ih =>
    simp only [tokens, List.cons_append, List.append_assoc, vacantPlaces, ih]
    exact Nat.zero_add _
  | binary op offset left right ihl ihr =>
    simp only [tokens, List.append_assoc, List.cons_append, ihl, vacantPlaces, ihr]
    exact Nat.zero_add _

theorem balancedFrom_tokens (e : Expr) (rest : List (Located Token)) :
    BalancedFrom Located.opens Located.closes depth (e.tokens ++ rest) ↔
      BalancedFrom Located.opens Located.closes depth rest := by
  induction e generalizing depth rest with
  | number x offset =>
    simp [tokens, balancedFrom_cons, Located.opens, Located.closes]
  | group opening body closing ih =>
    simp [tokens, balancedFrom_cons, Located.opens, Located.closes, ih]
  | binary op offset left right ihl ihr =>
    simp [tokens, balancedFrom_cons, Located.opens, Located.closes, ihl, ihr]

theorem ne_blank_of_mem_tokens {e : Expr} (h : t ∈ e.tokens) : t.value ≠ .blank := by
  intro hb
  induction e with
  | number x offset =>
    cases List.mem_singleton.1 h
    cases hb
  | group opening body closing ih =>
    obtain rfl | h := List.mem_cons.1 h
    · cases hb
    obtain h | h := List.mem_append.1 h
    · exact ih h
    · cases List.mem_singleton.1 h
      cases hb
  | binary op offset left right ihl ihr =>
    obtain h | h := List.mem_append.1 h
    · exact ihl h
    obtain rfl | h := List.mem_cons.1 h
    · cases hb
    · exact ihr h

theorem Is.product_or_sum {e : Expr} (h : e.Is .sum) :
    e.Is .product ∨ ∃ op offset left right, (op = .add ∨ op = .sub) ∧ left.Is .sum ∧
      right.Is .product ∧ e = .binary op offset left right := by
  have hf := h.fits
  cases e with
  | number x offset => exact .inl (Is.number.of_factor _)
  | group opening body closing => exact .inl (Fits.is hf)
  | binary op offset left right =>
    obtain ⟨_, hl, hr⟩ := hf
    obtain hp | hp := op.precedence_cases
    · rw [hp] at hl hr
      have ho := Operator.precedence_eq_one_iff.1 hp
      exact .inr ⟨op, offset, left, right, ho, Fits.is hl, Fits.is hr, rfl⟩
    · have hf : (binary op offset left right).Fits 2 := ⟨Nat.le_of_eq hp.symm, hl, hr⟩
      exact .inl (Fits.is hf)

/-- A sum takes one more factor at its right end. -/
theorem Is.extend {e factor : Expr} (he : e.Is .sum) (hf : factor.Is .factor) (op : Operator)
    (offset : Nat) :
    ∃ e' : Expr, e'.Is .sum ∧ e'.tokens = e.tokens ++ ⟨.operator op, offset⟩ :: factor.tokens := by
  obtain hp | hp := op.precedence_cases
  · have ho := Operator.precedence_eq_one_iff.1 hp
    exact ⟨.binary op offset e factor, he.binary_sum ho hf.to_product offset, rfl⟩
  -- a product takes the factor as a whole, a sum at its last term
  · have ho := Operator.precedence_eq_two_iff.1 hp
    obtain he | ⟨first, place, left, right, hq, hl, hr, rfl⟩ := he.product_or_sum
    · exact ⟨.binary op offset e factor, (he.binary_product ho hf offset).to_sum, rfl⟩
    · refine ⟨.binary first place left (.binary op offset right factor), ?_, ?_⟩
      · exact hl.binary_sum hq (hr.binary_product ho hf offset) place
      · simp only [tokens, List.append_assoc, List.cons_append]

end Expr

/-- Any operand completes the row to a sentence. -/
def Leads (row : List (Located Token)) : Prop :=
  ∀ e : Expr, e.Is .factor → IsSentence (row ++ e.tokens)

theorem leads_nil : Leads [] :=
  fun e h => ⟨e, h.of_factor .sum, rfl⟩

theorem IsSentence.leads (h : IsSentence row) (op : Operator) (offset : Nat) :
    Leads (row ++ [⟨.operator op, offset⟩]) := by
  intro factor hf
  obtain ⟨e, he, rfl⟩ := h
  obtain ⟨e', he', ht⟩ := he.extend hf op offset
  refine ⟨e', he', ?_⟩
  rw [ht, List.append_assoc]
  rfl

theorem Leads.group (hl : Leads row) (h : IsSentence body) (opening closing : Nat) :
    IsSentence (row ++ enclosed opening body closing) := by
  obtain ⟨e, he, rfl⟩ := h
  exact hl (.group opening e closing) he.group

/-- A row without a fault so far: it is a sentence, or an operand makes it one. -/
def Readable (afterOperand : Bool) (row : List (Located Token)) : Prop :=
  if afterOperand then IsSentence row else Leads row

/-- Puts a row behind parentheses still open, the innermost first, each with the row before it. -/
def nested : List (List (Located Token) × Nat) → List (Located Token) → List (Located Token)
  | [], row => row
  | (before, opening) :: outer, row => nested outer (before ++ ⟨.openParen, opening⟩ :: row)

/-- Reading on from a row without a fault to the end of one. -/
theorem Readable.isSentence (hrow : Readable afterOperand row) (houter : ∀ o ∈ outer, Leads o.1)
    (hb : BalancedFrom Located.opens Located.closes outer.length rest)
    (hu : unjoinedPlaces afterOperand rest = 0) (hv : vacantPlaces afterOperand rest = 0)
    (hn : ∀ t ∈ rest, t.value ≠ .blank) : IsSentence (nested outer (row ++ rest)) := by
  induction rest generalizing afterOperand row outer with
  | nil =>
    obtain rfl := List.length_eq_zero_iff.1 (balancedFrom_nil.1 hb)
    cases afterOperand with
    | false => exact absurd hv (by decide)
    | true =>
      rw [List.append_nil]
      exact hrow
  | cons t rest ih =>
    have hn' : ∀ t ∈ rest, t.value ≠ .blank := fun t h => hn t (List.mem_cons_of_mem _ h)
    rw [List.append_cons]
    rw [balancedFrom_cons] at hb
    obtain ⟨token, offset⟩ := t
    cases token with
    | number x =>
      obtain ⟨ha, hu'⟩ := Nat.add_eq_zero_iff.1 hu
      obtain rfl : afterOperand = false := Bool.toNat_eq_zero.1 ha
      have hs : Readable true (row ++ [⟨.number x, offset⟩]) := hrow (.number x offset) .number
      exact ih hs houter hb.2 hu' hv hn'
    | operator op =>
      obtain ⟨ha, hv'⟩ := Nat.add_eq_zero_iff.1 hv
      obtain rfl : afterOperand = true := by simpa using ha
      have hs : Readable false (row ++ [⟨.operator op, offset⟩]) := IsSentence.leads hrow op offset
      exact ih hs houter hb.2 hu hv' hn'
    | openParen =>
      obtain ⟨ha, hu'⟩ := Nat.add_eq_zero_iff.1 hu
      obtain rfl : afterOperand = false := Bool.toNat_eq_zero.1 ha
      have ho : ∀ o ∈ (row, offset) :: outer, Leads o.1 := by
        intro o hm
        obtain rfl | hm := List.mem_cons.1 hm
        · exact hrow
        · exact houter o hm
      have hs : Readable false [] := leads_nil
      have hi := ih hs ho hb.2 hu' hv hn'
      rw [List.append_assoc]
      exact hi
    | closeParen =>
      obtain ⟨ha, hv'⟩ := Nat.add_eq_zero_iff.1 hv
      obtain rfl : afterOperand = true := by simpa using ha
      obtain _ | ⟨⟨before, opening⟩, outer⟩ := outer
      · exact absurd hb.1 (Nat.not_succ_le_zero 0)
      · have hl : Leads before := houter (before, opening) List.mem_cons_self
        have hs : Readable true (before ++ enclosed opening row offset) :=
          hl.group hrow opening offset
        have hi := ih hs (fun o hm => houter o (List.mem_cons_of_mem _ hm)) hb.2 hu hv' hn'
        simpa only [nested, enclosed, List.append_assoc, List.cons_append] using hi
    | blank => exact absurd rfl (hn _ List.mem_cons_self)

theorem isSentence_iff :
    IsSentence tokens ↔ Balanced Located.opens Located.closes tokens ∧
      unjoinedPlaces false tokens = 0 ∧ vacantPlaces false tokens = 0 ∧
      ∀ t ∈ tokens, t.value ≠ .blank := by
  rw [balanced_iff]
  constructor
  · rintro ⟨e, _, rfl⟩
    rw [← List.append_nil e.tokens, e.balancedFrom_tokens, e.unjoinedPlaces_tokens,
      e.vacantPlaces_tokens, List.append_nil]
    exact ⟨balancedFrom_nil.2 rfl, rfl, rfl, fun t => Expr.ne_blank_of_mem_tokens⟩
  · rintro ⟨hb, hu, hv, hn⟩
    have hs : Readable false [] := leads_nil
    have ho : ∀ o ∈ ([] : List (List (Located Token) × Nat)), Leads o.1 := List.forall_mem_nil _
    exact hs.isSentence ho hb hu hv hn

end Calculator
