import Calculator.Proofs.Leftovers
import Mathlib.Data.List.Chain

namespace Calculator

/-- An operator waits above another one only if it binds tighter; a parenthesis keeps them apart. -/
def Pending.Outranks : Pending → Pending → Prop
  | .operator op _, .operator below _ => below.precedence < op.precedence
  | _, _ => True

def topPrecedence : List Pending → Nat
  | [] => 0
  | .operator op _ :: _ => op.precedence
  | .openParen _ :: _ => 0

theorem topPrecedence_le (pending : List Pending) : topPrecedence pending ≤ 2 := by
  rcases pending with _ | ⟨p, pending⟩
  · exact Nat.zero_le 2
  · cases p with
    | operator op offset =>
      obtain h | h := op.precedence_cases
      · exact h.trans_le (Nat.le_succ 1)
      · exact h.le
    | openParen offset => exact Nat.zero_le 2

theorem topPrecedence_lt {pending : List Pending}
    (h : (.operator op offset :: pending).IsChain Pending.Outranks) :
    topPrecedence pending < op.precedence := by
  have hpos : 0 < op.precedence := by
    obtain hp | hp := op.precedence_cases <;> omega
  rcases pending with _ | ⟨p, pending⟩
  · exact hpos
  · cases p with
    | openParen place => exact hpos
    | operator below place => exact (List.isChain_cons_cons.1 h).1

/-- The bottom, and each parenthesis, carries at most two operators. -/
theorem length_le_of_isChain {pending : List Pending} (h : pending.IsChain Pending.Outranks) :
    pending.length ≤ 3 * pending.countP Pending.isParen + topPrecedence pending := by
  induction pending with
  | nil => exact Nat.zero_le _
  | cons p pending ih =>
    have hl := ih h.tail
    cases p with
    | openParen offset =>
      have ht := topPrecedence_le pending
      simp only [List.length_cons, countP_cons_toNat, Pending.isParen, Bool.toNat_true,
        topPrecedence]
      omega
    | operator op offset =>
      have ht := topPrecedence_lt h
      simp only [List.length_cons, countP_cons_toNat, Pending.isParen, Bool.toNat_false,
        topPrecedence]
      omega

def Located.pending (op : Located Operator) : Pending :=
  .operator op.value op.offset

theorem pairwise_of_isChain {pending : List Pending} (h : pending.IsChain Pending.Outranks)
    {segment : List (Located Operator)} (hs : segment.map Located.pending <:+: pending) :
    segment.Pairwise fun upper lower => lower.value.precedence < upper.value.precedence := by
  have hi : (segment.map Located.pending).IsChain Pending.Outranks := h.infix hs
  have hc : segment.IsChain fun upper lower => lower.value.precedence < upper.value.precedence :=
    (List.isChain_map Located.pending).1 hi
  have hn : (segment.map fun op => op.value.precedence).IsChain (· > ·) :=
    (List.isChain_map fun op : Located Operator => op.value.precedence).2 hc
  exact List.pairwise_map.1 (List.isChain_iff_pairwise.1 hn)

theorem length_le_two {segment : List (Located Operator)}
    (h : segment.Pairwise fun upper lower => lower.value.precedence < upper.value.precedence) :
    segment.length ≤ 2 := by
  rcases segment with _ | ⟨a, _ | ⟨b, _ | ⟨c, segment⟩⟩⟩
  · exact Nat.zero_le 2
  · exact Nat.le_succ 1
  · exact Nat.le_refl 2
  · obtain ⟨hab, hbc, _⟩ : b.value.precedence < a.value.precedence ∧
        c.value.precedence < b.value.precedence ∧ True := by
      simp only [List.pairwise_cons, List.mem_cons, forall_eq_or_imp] at h
      exact ⟨h.1.1, h.2.1.1, trivial⟩
    have ha := a.value.precedence_cases
    have hc := c.value.precedence_cases
    omega

/-- The token whose push put the entry on. -/
def Pending.token : Pending → Located Token
  | .operator op offset => ⟨.operator op, offset⟩
  | .openParen offset => ⟨.openParen, offset⟩

def Located.waits (t : Located Token) : Bool :=
  t.isOperator || t.opens

theorem Pending.waits_token (p : Pending) : p.token.waits := by
  cases p with
  | operator op offset => rfl
  | openParen offset => rfl

namespace Stacks

theorem isChain_push {s : Stacks} (h : s.pending.IsChain Pending.Outranks) (t : Located Token) :
    (s.push t).state.pending.IsChain Pending.Outranks := by
  have hl := s.leaves_push t
  generalize (s.push t).state = s', (s.push t).result = result at hl ⊢
  cases hl with
  | number => exact h
  | blank => exact h
  | openParen =>
    apply h.cons
    intro p _
    trivial
  | operator hr =>
    apply (h.suffix hr.suffix).cons
    intro p hp
    cases p with
    | openParen offset => trivial
    | operator below offset =>
      cases hr with
      | done taken _ _ hstop =>
        obtain ⟨rest, rfl⟩ := List.head?_eq_some_iff.1 hp
        exact Nat.not_le.1 (of_decide_eq_false (hstop below offset rest rfl))
  | closeParen hr => exact (h.suffix hr.suffix).tail
  | unopened hr => exact h.suffix hr.suffix
  | failed _ hr => exact h.suffix hr.suffix

theorem isChain_pushEach {s : Stacks} (h : s.pending.IsChain Pending.Outranks)
    (tokens : List (Located Token)) :
    (s.pushEach tokens).pending.IsChain Pending.Outranks := by
  induction tokens generalizing s with
  | nil => exact h
  | cons t rest ih => exact ih (isChain_push h t)

/-- The tokens that are pushed without an error, where pushing goes on past any. -/
def accepted (s : Stacks) : List (Located Token) → List (Located Token)
  | [] => []
  | t :: rest =>
    match (s.push t).result with
    | .ok () => t :: (s.push t).state.accepted rest
    | .error _ => (s.push t).state.accepted rest

theorem accepted_sublist (s : Stacks) (tokens : List (Located Token)) :
    (s.accepted tokens).Sublist tokens := by
  induction tokens generalizing s with
  | nil => exact .slnil
  | cons t rest ih =>
    rw [accepted]
    cases (s.push t).result with
    | ok u => exact (ih _).cons_cons t
    | error e => exact (ih _).cons t

/-- The tokens that wait, in the order of their pushes. -/
def waiting (s : Stacks) : List (Located Token) :=
  s.pending.reverse.map Pending.token

theorem waiting_sublist {s s' : Stacks} (h : s'.pending <:+ s.pending) :
    s'.waiting.Sublist s.waiting :=
  (List.reverse_sublist.2 h.sublist).map _

theorem waiting_cons (operands : List Binary64) (p : Pending) (pending : List Pending) :
    waiting ⟨operands, p :: pending⟩ = waiting ⟨operands, pending⟩ ++ [p.token] := by
  rw [waiting, List.reverse_cons, List.map_append]
  rfl

theorem Leaves.waiting_sublist {s s' : Stacks} (h : s.Leaves t (.error e) s') :
    s'.waiting.Sublist s.waiting := by
  cases h with
  | unopened hr => exact Stacks.waiting_sublist hr.suffix
  | failed _ hr => exact Stacks.waiting_sublist hr.suffix

theorem Leaves.waiting_sublist_append {s s' : Stacks} (h : s.Leaves t (.ok ()) s') :
    s'.waiting.Sublist (s.waiting ++ [t]) := by
  cases h with
  | number => exact List.sublist_append_left s.waiting _
  | blank => exact List.sublist_append_left s.waiting _
  | openParen =>
    rw [waiting_cons]
    exact .refl _
  | operator hr =>
    rw [waiting_cons]
    exact (Stacks.waiting_sublist hr.suffix).append_right _
  | closeParen hr =>
    have hbelow := (List.suffix_cons _ _).trans hr.suffix
    exact (Stacks.waiting_sublist hbelow).trans (List.sublist_append_left s.waiting _)

theorem waiting_pushEach (s : Stacks) (tokens : List (Located Token)) :
    (s.pushEach tokens).waiting.Sublist (s.waiting ++ s.accepted tokens) := by
  induction tokens generalizing s with
  | nil => exact List.sublist_append_left s.waiting _
  | cons t rest ih =>
    have hl := s.leaves_push t
    apply (ih (s.push t).state).trans
    rw [accepted]
    cases hr : (s.push t).result with
    | ok u =>
      rw [hr] at hl
      simpa only [List.append_assoc, List.singleton_append] using
        hl.waiting_sublist_append.append_right ((s.push t).state.accepted rest)
    | error e =>
      rw [hr] at hl
      exact hl.waiting_sublist.append_right _

/-- Operators wait in stretches of rising precedence, at most two on the bottom and on each
parenthesis, whatever was pushed before and whether it failed or not; and all that waits was
pushed in this order. -/
theorem pending_pushEach (tokens : List (Located Token)) :
    (∀ segment : List (Located Operator),
      segment.map Located.pending <:+: (pushEach {} tokens).pending →
      (segment.Pairwise fun upper lower => lower.value.precedence < upper.value.precedence) ∧
        segment.length ≤ 2) ∧
    (pushEach {} tokens).pending.length ≤
      3 * (pushEach {} tokens).pending.countP Pending.isParen + 2 ∧
    (pushEach {} tokens).waiting.Sublist ((accepted {} tokens).filter Located.waits) ∧
    (accepted {} tokens).Sublist tokens := by
  have hchain : (pushEach {} tokens).pending.IsChain Pending.Outranks :=
    isChain_pushEach .nil tokens
  have hwaiting : (pushEach {} tokens).waiting.filter Located.waits =
      (pushEach {} tokens).waiting := by
    apply List.filter_eq_self.2
    intro t ht
    obtain ⟨p, _, rfl⟩ := List.mem_map.1 ht
    exact p.waits_token
  refine ⟨?_, ?_, ?_, accepted_sublist {} tokens⟩
  · intro segment hs
    have hp := pairwise_of_isChain hchain hs
    exact ⟨hp, length_le_two hp⟩
  · have hl := length_le_of_isChain hchain
    have ht := topPrecedence_le (pushEach {} tokens).pending
    omega
  · rw [← hwaiting]
    exact (waiting_pushEach {} tokens).filter _

/-- Two operators on the bottom and two on a parenthesis, once the push of another has failed
because what it was to apply had no operands. -/
theorem pending_pushEach_nested :
    (pushEach {} [⟨.operator .add, 0⟩, ⟨.operator .mul, 1⟩, ⟨.openParen, 2⟩, ⟨.operator .sub, 3⟩,
      ⟨.operator .div, 4⟩, ⟨.operator .add, 5⟩, ⟨.operator .mul, 6⟩]).pending =
      [.operator .mul 6, .operator .sub 3, .openParen 2, .operator .mul 1, .operator .add 0] ∧
    [⟨.mul, 6⟩, ⟨.sub, 3⟩].map Located.pending <:+:
      [.operator .mul 6, .operator .sub 3, .openParen 2, .operator .mul 1, .operator .add 0] ∧
    ([⟨.mul, 6⟩, ⟨.sub, 3⟩] : List (Located Operator)).Pairwise fun upper lower =>
      lower.value.precedence < upper.value.precedence := by
  have hinfix : [⟨.mul, 6⟩, ⟨.sub, 3⟩].map Located.pending <:+:
      [.operator .mul 6, .operator .sub 3, .openParen 2, .operator .mul 1, .operator .add 0] :=
    ⟨[], [.openParen 2, .operator .mul 1, .operator .add 0], rfl⟩
  refine ⟨rfl, hinfix, ?_⟩
  exact ((pending_pushEach [⟨.operator .add, 0⟩, ⟨.operator .mul, 1⟩, ⟨.openParen, 2⟩,
    ⟨.operator .sub, 3⟩, ⟨.operator .div, 4⟩, ⟨.operator .add, 5⟩,
    ⟨.operator .mul, 6⟩]).1 _ hinfix).1

end Stacks

end Calculator
