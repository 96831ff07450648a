import Calculator.Token.Basic

namespace Calculator

/-- No stretch from the start closes more than it opens, and the whole closes all that it opens. -/
def Balanced (opens closes : α → Bool) (xs : List α) : Prop :=
  (∀ ys, ys <+: xs → ys.countP closes ≤ ys.countP opens) ∧ xs.countP closes = xs.countP opens

/-- The same for what follows a stretch that left `depth` open. -/
def BalancedFrom (opens closes : α → Bool) (depth : Nat) (xs : List α) : Prop :=
  (∀ ys, ys <+: xs → ys.countP closes ≤ depth + ys.countP opens) ∧
    xs.countP closes = depth + xs.countP opens

/-- No stretch from the start closes more than it opens and `depth` others. -/
def Covered (opens closes : α → Bool) (depth : Nat) (xs : List α) : Prop :=
  ∀ ys, ys <+: xs → ys.countP closes ≤ depth + ys.countP opens

theorem countP_cons_toNat (test : α → Bool) (x : α) (xs : List α) :
    (x :: xs).countP test = (test x).toNat + xs.countP test := by
  cases ht : test x <;> simp [ht, Nat.add_comm]

theorem balanced_iff {opens closes : α → Bool} :
    Balanced opens closes xs ↔ BalancedFrom opens closes 0 xs := by
  simp only [Balanced, BalancedFrom, Nat.zero_add]

theorem balancedFrom_nil {opens closes : α → Bool} :
    BalancedFrom opens closes depth [] ↔ depth = 0 := by
  constructor
  · intro h
    exact h.2.symm
  · rintro rfl
    refine ⟨?_, rfl⟩
    intro ys hy
    rw [List.prefix_nil.1 hy]
    exact Nat.le_refl _

theorem covered_cons {opens closes : α → Bool} :
    Covered opens closes depth (x :: xs) ↔
      (closes x).toNat ≤ depth + (opens x).toNat ∧
        Covered opens closes (depth + (opens x).toNat - (closes x).toNat) xs := by
  constructor
  · intro hp
    have h := hp [x] ((List.prefix_cons_inj x).2 List.nil_prefix)
    simp only [countP_cons_toNat, List.countP_nil] at h
    refine ⟨h, ?_⟩
    intro ys hy
    have hy' := hp (x :: ys) ((List.prefix_cons_inj x).2 hy)
    simp only [countP_cons_toNat] at hy'
    omega
  · rintro ⟨h, hp⟩ ys hy
    obtain rfl | ⟨zs, rfl, hz⟩ := List.prefix_cons_iff.1 hy
    · exact Nat.zero_le _
    · have hz' := hp zs hz
      simp only [countP_cons_toNat]
      omega

theorem balancedFrom_cons {opens closes : α → Bool} :
    BalancedFrom opens closes depth (x :: xs) ↔
      (closes x).toNat ≤ depth + (opens x).toNat ∧
        BalancedFrom opens closes (depth + (opens x).toNat - (closes x).toNat) xs := by
  constructor
  · rintro ⟨hp, he⟩
    obtain ⟨h, hp'⟩ := covered_cons.1 hp
    simp only [countP_cons_toNat] at he
    exact ⟨h, hp', by omega⟩
  · rintro ⟨h, hp, he⟩
    exact ⟨covered_cons.2 ⟨h, hp⟩, by simp only [countP_cons_toNat]; omega⟩

def Located.opens (t : Located Token) : Bool :=
  t.value = .openParen

def Located.closes (t : Located Token) : Bool :=
  t.value = .closeParen

theorem Covered.mono {opens closes : α → Bool} (h : Covered opens closes depth xs)
    (hd : depth ≤ depth') : Covered opens closes depth' xs :=
  fun ys hy => Nat.le_trans (h ys hy) (Nat.add_le_add_right hd _)

theorem BalancedFrom.covered {opens closes : α → Bool} (h : BalancedFrom opens closes depth xs) :
    Covered opens closes depth xs := h.1

theorem BalancedFrom.suffix {opens closes : α → Bool}
    (h : BalancedFrom opens closes depth (xs ++ ys)) :
    BalancedFrom opens closes (depth + xs.countP opens - xs.countP closes) ys := by
  obtain ⟨hp, he⟩ := h
  have hx := hp xs (List.prefix_append xs ys)
  simp only [List.countP_append] at he
  refine ⟨?_, by omega⟩
  intro zs hz
  have hz' := hp (xs ++ zs) ((List.prefix_append_right_inj xs).2 hz)
  simp only [List.countP_append] at hz'
  omega

theorem Located.closes_eq_false {t : Located Token} (h : t.opens) : t.closes = false := by
  have hv : t.value = .openParen := of_decide_eq_true h
  simp [closes, hv]

theorem Located.opens_eq_false {t : Located Token} (h : t.closes) : t.opens = false := by
  have hv : t.value = .closeParen := of_decide_eq_true h
  simp [opens, hv]

theorem Located.opens_or_closes_or_neither (t : Located Token) :
    t.opens ∨ t.closes ∨ t.opens = false ∧ t.closes = false := by
  cases ho : t.opens with
  | true => exact .inl rfl
  | false =>
    cases hc : t.closes with
    | true => exact .inr (.inl rfl)
    | false => exact .inr (.inr ⟨rfl, rfl⟩)

theorem covered_opens {t : Located Token} (h : t.opens) :
    Covered Located.opens Located.closes depth (t :: row) ↔
      Covered Located.opens Located.closes (depth + 1) row := by
  rw [covered_cons, h, Located.closes_eq_false h]
  simp

theorem covered_closes {t : Located Token} (h : t.closes) :
    Covered Located.opens Located.closes (depth + 1) (t :: row) ↔
      Covered Located.opens Located.closes depth row := by
  rw [covered_cons, h, Located.opens_eq_false h]
  simp

theorem covered_other {t : Located Token} (ho : t.opens = false) (hc : t.closes = false) :
    Covered Located.opens Located.closes depth (t :: row) ↔
      Covered Located.opens Located.closes depth row := by
  rw [covered_cons, ho, hc]
  simp

theorem balancedFrom_opens {t : Located Token} (h : t.opens) :
    BalancedFrom Located.opens Located.closes depth (t :: row) ↔
      BalancedFrom Located.opens Located.closes (depth + 1) row := by
  rw [balancedFrom_cons, h, Located.closes_eq_false h]
  simp

theorem balancedFrom_closes {t : Located Token} (h : t.closes) :
    BalancedFrom Located.opens Located.closes (depth + 1) (t :: row) ↔
      BalancedFrom Located.opens Located.closes depth row := by
  rw [balancedFrom_cons, h, Located.opens_eq_false h]
  simp

theorem balancedFrom_other {t : Located Token} (ho : t.opens = false) (hc : t.closes = false) :
    BalancedFrom Located.opens Located.closes depth (t :: row) ↔
      BalancedFrom Located.opens Located.closes depth row := by
  rw [balancedFrom_cons, ho, hc]
  simp

/-- The tokens between two parentheses added around them. -/
def enclosed (opening : Nat) (tokens : List (Located Token)) (closing : Nat) :
    List (Located Token) :=
  ⟨.openParen, opening⟩ :: tokens ++ [⟨.closeParen, closing⟩]

end Calculator
