import Calculator.Proofs.Accounting
import Calculator.Proofs.Outcomes

namespace Calculator

/-- A closing parenthesis behind the row has no partner in it: what stands between two partners
balances. -/
def Unopened (row : List (Located Token)) : Prop :=
  ∀ outer t inner, row = outer ++ t :: inner → t.opens →
    ¬ Balanced Located.opens Located.closes inner

/-- An opening parenthesis in front of the row has no partner in it. -/
def Unclosed (row : List (Located Token)) : Prop :=
  ∀ inner t outer, row = inner ++ t :: outer → t.closes →
    ¬ Balanced Located.opens Located.closes inner

/-- The first closing parenthesis without a partner stands at the offset. -/
def FirstUnopened (tokens : List (Located Token)) (offset : Nat) : Prop :=
  ∃ before t after, tokens = before ++ t :: after ∧ t.closes ∧ t.offset = offset ∧
    Unopened before ∧ ∀ row u rest, before = row ++ u :: rest → u.closes → ¬ Unopened row

/-- The last opening parenthesis without a partner stands at the offset. -/
def LastUnclosed (tokens : List (Located Token)) (offset : Nat) : Prop :=
  ∃ before t after, tokens = before ++ t :: after ∧ t.opens ∧ t.offset = offset ∧
    Unclosed after ∧ ∀ row u rest, after = row ++ u :: rest → u.opens → ¬ Unclosed rest

/-- The parenthesis that a reader from left to right misses a partner for, `openings` being the
places still open, the innermost first. -/
def unmatched? (openings : List Nat) : List (Located Token) → Option Nat
  | [] => openings.head?
  | t :: rest =>
    if t.opens then unmatched? (t.offset :: openings) rest
    else if t.closes then
      match openings with
      | [] => some t.offset
      | _ :: outer => unmatched? outer rest
    else unmatched? openings rest

theorem unmatched?_opens {t : Located Token} (h : t.opens) :
    unmatched? openings (t :: rest) = unmatched? (t.offset :: openings) rest := by
  cases openings <;> simp only [unmatched?, h, ↓reduceIte]

theorem unmatched?_closes_nil {t : Located Token} (h : t.closes) :
    unmatched? [] (t :: rest) = some t.offset := by
  simp only [unmatched?, Located.opens_eq_false h, h, Bool.false_eq_true, ↓reduceIte]

theorem unmatched?_closes_cons {t : Located Token} (h : t.closes) :
    unmatched? (place :: openings) (t :: rest) = unmatched? openings rest := by
  simp only [unmatched?, Located.opens_eq_false h, h, Bool.false_eq_true, ↓reduceIte]

theorem unmatched?_other {t : Located Token} (ho : t.opens = false) (hc : t.closes = false) :
    unmatched? openings (t :: rest) = unmatched? openings rest := by
  cases openings <;> simp only [unmatched?, ho, hc, Bool.false_eq_true, ↓reduceIte]

def Pending.opening? : Pending → Option Nat
  | .operator _ _ => none
  | .openParen offset => some offset

theorem filterMap_takeOperators (binds : Operator → Bool) (pending : List Pending) :
    (takeOperators binds pending).2.filterMap Pending.opening? =
      pending.filterMap Pending.opening? := by
  induction pending with
  | nil => rfl
  | cons p pending ih =>
    cases p with
    | openParen offset => rfl
    | operator op offset =>
      cases hb : binds op with
      | false => simp only [takeOperators, hb, Bool.false_eq_true, ↓reduceIte]
      | true =>
        simp only [takeOperators, hb, ↓reduceIte, ih]
        rfl

/-- What waits holds the parentheses still open, and operators are of no account for them. -/
theorem mismatch_translate (pending : List Pending) (tokens : List (Located Token)) :
    (translate pending tokens).mismatch =
      unmatched? (pending.filterMap Pending.opening?) tokens := by
  induction tokens generalizing pending with
  | nil =>
    rw [translate, unmatched?, ← filterMap_takeOperators (fun _ => true)]
    obtain ⟨code, h | ⟨offset, below, h⟩⟩ := takeOperators_all pending <;> simp only [h] <;> rfl
  | cons t rest ih =>
    obtain ⟨token, offset⟩ := t
    cases token with
    | number x => exact ih pending
    | blank => exact ih pending
    | openParen => exact ih (.openParen offset :: pending)
    | operator op =>
      have ho := filterMap_takeOperators (op.precedence ≤ ·.precedence) pending
      exact (ih _).trans (congrArg (unmatched? · rest) ho)
    | closeParen =>
      have ho := filterMap_takeOperators (fun _ => true) pending
      rw [translate]
      obtain ⟨code, h | ⟨opening, below, h⟩⟩ := takeOperators_all pending
      · simp only [h] at ho ⊢
        rw [← ho]
        rfl
      · simp only [h] at ho ⊢
        rw [← ho]
        exact ih below

theorem Covered.exists_open {row : List (Located Token)}
    (h : Covered Located.opens Located.closes depth row)
    (hd : row.countP Located.closes < depth + row.countP Located.opens) :
    (∃ outer t inner, row = outer ++ t :: inner ∧ t.opens ∧
        Balanced Located.opens Located.closes inner) ∨
      ∃ d < depth, BalancedFrom Located.opens Located.closes d row := by
  induction row generalizing depth with
  | nil => exact .inr ⟨0, hd, balancedFrom_nil.2 rfl⟩
  | cons t rest ih =>
    obtain ⟨ht, hr⟩ := covered_cons.1 h
    simp only [countP_cons_toNat] at hd
    obtain ⟨outer, u, inner, rfl, hu, hi⟩ | ⟨d, hl, hb⟩ := ih hr (by omega)
    · exact .inl ⟨t :: outer, u, inner, rfl, hu, hi⟩
    -- What the rest leaves open of the row is open before it, or is this very parenthesis.
    obtain ho | hc | ⟨ho, hc⟩ := t.opens_or_closes_or_neither
    · obtain _ | d := d
      · exact .inl ⟨[], t, rest, rfl, ho, balanced_iff.2 hb⟩
      · simp only [ho, Located.closes_eq_false ho, Bool.toNat_true, Bool.toNat_false] at hl
        exact .inr ⟨d, by omega, (balancedFrom_opens ho).2 hb⟩
    · simp only [hc, Located.opens_eq_false hc, Bool.toNat_true, Bool.toNat_false] at hl
      exact .inr ⟨d + 1, by omega, (balancedFrom_closes hc).2 hb⟩
    · simp only [ho, hc, Bool.toNat_false] at hl
      exact .inr ⟨d, hl, (balancedFrom_other ho hc).2 hb⟩

theorem BalancedFrom.exists_close {row : List (Located Token)}
    (h : BalancedFrom Located.opens Located.closes (outside + depth + 1) row) :
    ∃ inner t outer, row = inner ++ t :: outer ∧ t.closes ∧
      BalancedFrom Located.opens Located.closes depth inner := by
  induction row generalizing depth with
  | nil => exact absurd (balancedFrom_nil.1 h) (Nat.succ_ne_zero _)
  | cons t rest ih =>
    -- A closing parenthesis at depth zero is the one sought; any other token only shifts the depth.
    obtain ho | hc | ⟨ho, hc⟩ := t.opens_or_closes_or_neither
    · have hr : BalancedFrom Located.opens Located.closes (outside + (depth + 1) + 1) rest :=
        (balancedFrom_opens ho).1 h
      obtain ⟨inner, u, outer, rfl, hu, hi⟩ := ih hr
      exact ⟨t :: inner, u, outer, rfl, hu, (balancedFrom_opens ho).2 hi⟩
    · have hr := (balancedFrom_closes hc).1 h
      obtain _ | depth := depth
      · exact ⟨[], t, rest, rfl, hc, balancedFrom_nil.2 rfl⟩
      · obtain ⟨inner, u, outer, rfl, hu, hi⟩ := ih hr
        exact ⟨t :: inner, u, outer, rfl, hu, (balancedFrom_closes hc).2 hi⟩
    · obtain ⟨inner, u, outer, rfl, hu, hi⟩ := ih ((balancedFrom_other ho hc).1 h)
      exact ⟨t :: inner, u, outer, rfl, hu, (balancedFrom_other ho hc).2 hi⟩

theorem Balanced.unopened {row : List (Located Token)}
    (h : Balanced Located.opens Located.closes row) : Unopened row := by
  rintro outer t inner rfl ht ⟨_, hi⟩
  obtain ⟨hp, he⟩ := h
  have ho := hp outer (List.prefix_append _ _)
  simp only [List.countP_append, countP_cons_toNat, ht, Located.closes_eq_false ht,
    Bool.toNat_true, Bool.toNat_false] at he
  omega

theorem Balanced.unclosed {row : List (Located Token)}
    (h : Balanced Located.opens Located.closes row) : Unclosed row := by
  rintro inner t outer rfl ht ⟨_, hi⟩
  have hp := h.1 (inner ++ [t]) ⟨outer, by simp only [List.append_assoc, List.singleton_append]⟩
  simp only [List.countP_append, countP_cons_toNat, List.countP_nil, ht,
    Located.opens_eq_false ht, Bool.toNat_true, Bool.toNat_false] at hp
  omega

theorem Covered.not_unopened {row : List (Located Token)} {t : Located Token}
    (h : Covered Located.opens Located.closes 0 (row ++ t :: rest)) (ht : t.closes) :
    ¬ Unopened row := by
  intro hu
  have hrow : Covered Located.opens Located.closes 0 row :=
    fun ys hy => h ys (hy.trans (List.prefix_append row (t :: rest)))
  have hp := h (row ++ [t]) ⟨rest, by simp only [List.append_assoc, List.singleton_append]⟩
  simp only [List.countP_append, countP_cons_toNat, List.countP_nil, ht, Located.opens_eq_false ht,
    Bool.toNat_true, Bool.toNat_false] at hp
  obtain ⟨outer, u, inner, he, ho, hi⟩ | ⟨d, hd, _⟩ := hrow.exists_open (by omega)
  · exact hu outer u inner he ho hi
  · exact absurd hd (Nat.not_lt_zero d)

theorem Balanced.not_unclosed {row : List (Located Token)} {t : Located Token}
    (h : Balanced Located.opens Located.closes (row ++ t :: rest)) (ht : t.opens) :
    ¬ Unclosed rest := by
  intro hu
  have hs := (balancedFrom_opens ht).1 (balanced_iff.1 h).suffix
  obtain ⟨inner, u, outer, he, hc, hi⟩ : ∃ inner u outer, rest = inner ++ u :: outer ∧ u.closes ∧
      BalancedFrom Located.opens Located.closes 0 inner := hs.exists_close
  exact hu inner u outer he hc (balanced_iff.2 hi)

/-- A scan ends at a closing parenthesis when nothing is open, or at the innermost of those that
stay open: one of the row, or one from before of which the row closes all those inside it. -/
theorem unmatched?_eq_some (h : unmatched? openings tokens = some offset) :
    (∃ before t after, tokens = before ++ t :: after ∧ t.closes ∧ t.offset = offset ∧
        BalancedFrom Located.opens Located.closes openings.length before) ∨
      (Covered Located.opens Located.closes openings.length tokens ∧
        ∃ before t after, tokens = before ++ t :: after ∧ t.opens ∧ t.offset = offset ∧
          Balanced Located.opens Located.closes after) ∨
      ∃ inner outer, openings = inner ++ offset :: outer ∧
        BalancedFrom Located.opens Located.closes inner.length tokens := by
  induction tokens generalizing openings with
  | nil =>
    obtain ⟨outer, rfl⟩ := List.head?_eq_some_iff.1 h
    exact .inr (.inr ⟨[], outer, rfl, balancedFrom_nil.2 rfl⟩)
  | cons t rest ih =>
    obtain ho | hc | ⟨ho, hc⟩ := t.opens_or_closes_or_neither
    · rw [unmatched?_opens ho] at h
      obtain ⟨before, u, after, rfl, hu, hp, hb⟩ | ⟨hc, before, u, after, rfl, hu, hp, hb⟩ |
        ⟨inner, outer, he, hb⟩ := ih h
      · exact .inl ⟨t :: before, u, after, rfl, hu, hp, (balancedFrom_opens ho).2 hb⟩
      · exact .inr (.inl ⟨(covered_opens ho).2 hc, t :: before, u, after, rfl, hu, hp, hb⟩)
      · obtain _ | ⟨place, inner⟩ := inner
        · obtain ⟨hp, _⟩ := List.cons.inj he
          have hc := (covered_opens ho).2 (hb.covered.mono (Nat.zero_le (openings.length + 1)))
          exact .inr (.inl ⟨hc, [], t, rest, rfl, ho, hp, balanced_iff.2 hb⟩)
        · obtain ⟨_, he⟩ := List.cons.inj he
          exact .inr (.inr ⟨inner, outer, he, (balancedFrom_opens ho).2 hb⟩)
    · obtain _ | ⟨place, openings⟩ := openings
      · rw [unmatched?_closes_nil hc] at h
        exact .inl ⟨[], t, rest, rfl, hc, Option.some.inj h, balancedFrom_nil.2 rfl⟩
      · rw [unmatched?_closes_cons hc] at h
        obtain ⟨before, u, after, rfl, hu, hp, hb⟩ | ⟨hd, before, u, after, rfl, hu, hp, hb⟩ |
          ⟨inner, outer, rfl, hb⟩ := ih h
        · exact .inl ⟨t :: before, u, after, rfl, hu, hp, (balancedFrom_closes hc).2 hb⟩
        · exact .inr (.inl ⟨(covered_closes hc).2 hd, t :: before, u, after, rfl, hu, hp, hb⟩)
        · exact .inr (.inr ⟨place :: inner, outer, rfl, (balancedFrom_closes hc).2 hb⟩)
    · rw [unmatched?_other ho hc] at h
      obtain ⟨before, u, after, rfl, hu, hp, hb⟩ | ⟨hd, before, u, after, rfl, hu, hp, hb⟩ |
        ⟨inner, outer, rfl, hb⟩ := ih h
      · exact .inl ⟨t :: before, u, after, rfl, hu, hp, (balancedFrom_other ho hc).2 hb⟩
      · exact .inr (.inl ⟨(covered_other ho hc).2 hd, t :: before, u, after, rfl, hu, hp, hb⟩)
      · exact .inr (.inr ⟨inner, outer, rfl, (balancedFrom_other ho hc).2 hb⟩)

theorem unmatched?_nil_eq_some (h : unmatched? [] tokens = some offset) :
    FirstUnopened tokens offset ∨
      (∀ row t rest, tokens = row ++ t :: rest → t.closes → ¬ Unopened row) ∧
        LastUnclosed tokens offset := by
  obtain ⟨before, t, after, rfl, ht, hp, hb⟩ | ⟨hc, before, t, after, rfl, ht, hp, hb⟩ |
    ⟨inner, outer, he, _⟩ := unmatched?_eq_some h
  · have hbalanced := balanced_iff.2 hb
    refine .inl ⟨before, t, after, rfl, ht, hp, hbalanced.unopened, ?_⟩
    rintro row u rest rfl hu
    exact hb.covered.not_unopened hu
  · refine .inr ⟨?_, before, t, after, rfl, ht, hp, hb.unclosed, ?_⟩
    · intro row u rest he hu
      rw [he] at hc
      exact hc.not_unopened hu
    · rintro row u rest rfl hu
      exact hb.not_unclosed hu
  · exact absurd he (by simp)

/-- A parenthesis is reported only where one lacks its partner, and then the right one; without
all partners there is no value, and no other verdict on the row as a whole. -/
theorem result_evalTokens_unmatched (tokens : List (Located Token)) :
    (Balanced Located.opens Located.closes tokens →
      ∀ offset, (evalTokens tokens).result ≠ .error (.mismatchedParenthesis offset)) ∧
    (¬ Balanced Located.opens Located.closes tokens →
      (∀ x, (evalTokens tokens).result ≠ .ok x) ∧
      (∀ count, (evalTokens tokens).result ≠ .error (.unjoinedValues count)) ∧
      (evalTokens tokens).result ≠ .error .emptyExpression) ∧
    ∀ offset, (evalTokens tokens).result = .error (.mismatchedParenthesis offset) →
      FirstUnopened tokens offset ∨
        (∀ row t rest, tokens = row ++ t :: rest → t.closes → ¬ Unopened row) ∧
          LastUnclosed tokens offset := by
  have hmismatch : (translate [] tokens).mismatch = unmatched? [] tokens :=
    mismatch_translate [] tokens
  rw [result_evalTokens, evalPostfix, ← mismatch_eq_none_iff_balanced]
  refine ⟨?_, ?_, ?_⟩
  · intro hb offset h
    obtain ⟨hm, _⟩ := Translation.value_eq_mismatchedParenthesis_iff.1 h
    rw [hb] at hm
    cases hm
  · intro hb
    refine ⟨?_, ?_, ?_⟩
    · intro x h
      exact hb (Translation.value_eq_ok_iff.1 h).1
    · intro count h
      exact hb (Translation.value_eq_unjoinedValues_iff.1 h).1
    · intro h
      exact hb (Translation.value_eq_emptyExpression_iff.1 h).1
  · intro offset h
    obtain ⟨hm, _⟩ := Translation.value_eq_mismatchedParenthesis_iff.1 h
    exact unmatched?_nil_eq_some (hmismatch.symm.trans hm)

/-- Of two parentheses never closed the inner one counts, and a closing one too many comes before
one never closed. -/
theorem result_evalTokens_unmatched_nested :
    (evalTokens [⟨.openParen, 0⟩, ⟨.openParen, 1⟩, ⟨.openParen, 2⟩, ⟨.number .nan, 3⟩,
      ⟨.closeParen, 4⟩]).result = .error (.mismatchedParenthesis 1) ∧
    LastUnclosed [⟨.openParen, 0⟩, ⟨.openParen, 1⟩, ⟨.openParen, 2⟩, ⟨.number .nan, 3⟩,
      ⟨.closeParen, 4⟩] 1 ∧
    (evalTokens [⟨.openParen, 0⟩, ⟨.number .nan, 1⟩, ⟨.closeParen, 2⟩, ⟨.closeParen, 3⟩,
      ⟨.openParen, 4⟩]).result = .error (.mismatchedParenthesis 3) ∧
    FirstUnopened [⟨.openParen, 0⟩, ⟨.number .nan, 1⟩, ⟨.closeParen, 2⟩, ⟨.closeParen, 3⟩,
      ⟨.openParen, 4⟩] 3 := by
  have hclose : ∀ t ∈ ([⟨.openParen, 0⟩, ⟨.openParen, 1⟩, ⟨.openParen, 2⟩, ⟨.number .nan, 3⟩,
      ⟨.closeParen, 4⟩] : List (Located Token)), t.closes → t.offset ≠ 1 := by decide
  have hopen : ∀ t ∈ ([⟨.openParen, 0⟩, ⟨.number .nan, 1⟩, ⟨.closeParen, 2⟩, ⟨.closeParen, 3⟩,
      ⟨.openParen, 4⟩] : List (Located Token)), t.opens → t.offset ≠ 3 := by decide
  refine ⟨rfl, ?_, rfl, ?_⟩
  · obtain ⟨before, t, after, he, ht, hp, _⟩ | ⟨_, h⟩ :=
      (result_evalTokens_unmatched _).2.2 1 (rfl : (evalTokens [⟨.openParen, 0⟩, ⟨.openParen, 1⟩,
        ⟨.openParen, 2⟩, ⟨.number .nan, 3⟩, ⟨.closeParen, 4⟩]).result = _)
    · exact absurd hp (hclose t (he ▸ List.mem_append_right _ List.mem_cons_self) ht)
    · exact h
  · obtain h | ⟨_, before, t, after, he, ht, hp, _⟩ :=
      (result_evalTokens_unmatched _).2.2 3 (rfl : (evalTokens [⟨.openParen, 0⟩, ⟨.number .nan, 1⟩,
        ⟨.closeParen, 2⟩, ⟨.closeParen, 3⟩, ⟨.openParen, 4⟩]).result = _)
    · exact h
    · exact absurd hp (hopen t (he ▸ List.mem_append_right _ List.mem_cons_self) ht)

end Calculator
