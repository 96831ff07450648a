import Calculator.Evaluation
import Calculator.Proofs.Accounting
import Calculator.Proofs.Groups
import Calculator.Proofs.Provenance
import Mathlib.Data.List.Basic

namespace Calculator

theorem translate_group (hb : BalancedFrom Located.opens Located.closes
      (pending.countP Pending.isParen) inside) (opening closing : Nat) (below : List Pending)
    (after : List (Located Token)) :
    translate (pending ++ .openParen opening :: below) (inside ++ ⟨.closeParen, closing⟩ :: after) =
      (translate below after).emit (translate pending inside).code := by
  -- The opening parenthesis keeps what is `below` from coming off until the group ends.
  induction inside generalizing pending with
  | nil =>
    obtain ⟨_, _, hq⟩ := countP_takeOperators (fun _ => true) pending
    rw [balancedFrom_nil.1 hb] at hq
    rw [List.nil_append, translate, translate, takeOperators_append]
    obtain ⟨code, h | ⟨_, _, h⟩⟩ := takeOperators_all pending
    · simp only [h, List.nil_append]
    · simp [h, Pending.isParen] at hq
  | cons t rest ih =>
    obtain ⟨token, offset⟩ := t
    cases token with
    | number x =>
      have hr := ih ((balancedFrom_other rfl rfl).1 hb)
      simp only [List.cons_append, translate, hr, Translation.emit_emit]
      rfl
    | blank => exact ih ((balancedFrom_other rfl rfl).1 hb)
    | openParen =>
      have hp : BalancedFrom Located.opens Located.closes
          ((Pending.openParen offset :: pending).countP Pending.isParen) rest := by
        rw [List.countP_cons_of_pos rfl]
        exact (balancedFrom_opens rfl).1 hb
      exact ih hp
    | operator op =>
      obtain ⟨_, _, hq⟩ := countP_takeOperators (op.precedence ≤ ·.precedence) pending
      have hp : BalancedFrom Located.opens Located.closes ((Pending.operator op offset ::
          (takeOperators (op.precedence ≤ ·.precedence) pending).2).countP Pending.isParen)
        rest := by
        rw [List.countP_cons_of_neg Bool.false_ne_true, hq]
        exact (balancedFrom_other rfl rfl).1 hb
      have hr := ih hp
      simp only [List.cons_append] at hr
      simp only [List.cons_append, translate, takeOperators_append, hr, Translation.emit_emit]
      rfl
    | closeParen =>
      obtain ⟨_, _, hq⟩ := countP_takeOperators (fun _ => true) pending
      simp only [List.cons_append, translate, takeOperators_append]
      obtain ⟨code, h | ⟨_, inner, h⟩⟩ := takeOperators_all pending
      · rw [← hq, h] at hb
        exact absurd (balancedFrom_cons.1 hb).1 (Nat.not_succ_le_zero 0)
      · rw [← hq, h, List.countP_cons_of_pos rfl] at hb
        have hr := ih ((balancedFrom_closes rfl).1 hb)
        simp only [h, List.cons_append, hr, Translation.emit_emit]
        rfl

theorem result_evalTokens_group {s : Stacks} (hs : (Stacks.pushAll {} before).outcome = .ok s)
    (hb : Balanced Located.opens Located.closes inside) (opening closing : Nat)
    (after : List (Located Token)) :
    (evalTokens (before ++ enclosed opening inside closing ++ after)).result =
      runPostfix s.operands (translate [] inside).code >>= fun values =>
        ((Stacks.pushAll ⟨values, s.pending⟩ after).andThen Stacks.finish).result := by
  have hg : translate s.pending (enclosed opening inside closing ++ after) =
      (translate s.pending after).emit (translate [] inside).code := by
    have hb' : BalancedFrom Located.opens Located.closes
        (([] : List Pending).countP Pending.isParen) inside := balanced_iff.1 hb
    rw [enclosed, List.append_assoc]
    exact translate_group hb' opening closing s.pending after
  simp only [List.append_assoc, Stacks.result_evalTokens_append, hs, ok_bind,
    Stacks.result_pushAll_finish, Stacks.staged]
  rw [hg, Translation.value_emit]

theorem exists_apply_of_missingOperand
    (h : (evalTokens tokens).result = .error (.missingOperand op offset)) :
    ∃ done own rest, (translate [] tokens).code = done ++ .apply op offset :: rest ∧
      runPostfix [] done = .ok own ∧ own.length < 2 := by
  rw [result_evalTokens, evalPostfix, Translation.value_eq_missingOperand_iff] at h
  obtain ⟨done, i, rest, own, hc, hd, hf⟩ := runPostfix_eq_error_iff.1 h
  cases hf with
  | missingOperand hl => exact ⟨done, own, rest, hc, hd, hl⟩

/-- With operands in front, a program goes on where it failed for want of them. -/
theorem runPostfix_below (hd : runPostfix [] done = .ok own) (below : List Binary64)
    (code : List Instruction) :
    runPostfix below (done ++ code) = runPostfix (own ++ below) code := by
  have hf : Frames (· ++ below) (runPostfix [] done) (runPostfix below done) :=
    runPostfix_frames [] below done
  rw [hd] at hf
  have hw : runPostfix below done = .ok (own ++ below) := hf
  rw [runPostfix_append, hw, ok_bind]

/-- An operator with its operands there can miss one only where it is applied again. -/
theorem mem_of_apply_missingOperand (hl : 2 ≤ values.length)
    (h : runPostfix values (.apply op offset :: code) = .error (.missingOperand op offset)) :
    .apply op offset ∈ code := by
  obtain _ | ⟨right, _ | ⟨left, values⟩⟩ := values
  · exact absurd hl (by decide)
  · exact absurd hl (Nat.not_le_of_lt (Nat.lt_succ_self 1))
  rw [runPostfix] at h
  cases hx : op.apply left right offset with
  | error e =>
    rw [hx] at h
    obtain ⟨_, _, rfl⟩ := Operator.apply_eq_error_iff.1 hx
    cases h
  | ok x =>
    rw [hx] at h
    obtain ⟨_, _, hm, he⟩ | ⟨_, _, he⟩ := mem_of_runPostfix_eq_error h
    · cases he
      exact hm
    · cases he

theorem not_mem_of_count_eq_one {s : Stacks} (hs : (Stacks.pushAll {} before).outcome = .ok s)
    (hc : (translate [] inside).code = done ++ .apply op offset :: rest)
    (h : (before ++ enclosed opening inside closing ++ after).count ⟨.operator op, offset⟩ = 1) :
    .apply op offset ∉ rest ∧ .apply op offset ∉ (translate s.pending after).code := by
  have hinside := count_translate [] inside op offset
  have hafter := count_translate s.pending after op offset
  have hpending := Stacks.count_pending_pushAll hs op offset
  simp only [enclosed, List.cons_append, List.count_append, List.count_cons, List.count_nil, hc,
    beq_iff_eq, Located.mk.injEq, reduceCtorEq, false_and, ↓reduceIte, beq_self_eq_true] at *
  constructor
  · rw [← List.count_eq_zero]
    omega
  · rw [← List.count_eq_zero]
    omega

/-- A group that misses an operand alone misses it in a row if what it found itself and what
stands before it are less than two operands. Otherwise the operator takes operands from before the
group, and the evaluation goes on. -/
theorem result_evalTokens_enclosed_missing {s : Stacks}
    (hs : (Stacks.pushAll {} before).outcome = .ok s)
    (hb : Balanced Located.opens Located.closes inside)
    (he : (evalTokens inside).result = .error (.missingOperand op offset))
    (opening closing : Nat) (after : List (Located Token)) :
    ∃ done own rest, (translate [] inside).code = done ++ .apply op offset :: rest ∧
      runPostfix [] done = .ok own ∧ own.length < 2 ∧
      ((evalTokens (before ++ enclosed opening inside closing ++ after)).result =
        runPostfix (own ++ s.operands) (.apply op offset :: rest) >>= fun values =>
          ((Stacks.pushAll ⟨values, s.pending⟩ after).andThen Stacks.finish).result) ∧
      (own.length + s.operands.length < 2 →
        (evalTokens (before ++ enclosed opening inside closing ++ after)).result =
          .error (.missingOperand op offset)) ∧
      ((before ++ enclosed opening inside closing ++ after).count ⟨.operator op, offset⟩ = 1 →
        (evalTokens (before ++ enclosed opening inside closing ++ after)).result =
          .error (.missingOperand op offset) →
        own.length + s.operands.length < 2) := by
  obtain ⟨done, own, rest, hc, hd, hl⟩ := exists_apply_of_missingOperand he
  have hg := result_evalTokens_group hs hb opening closing after
  rw [hc, runPostfix_below hd] at hg
  refine ⟨done, own, rest, hc, hd, hl, hg, ?_, ?_⟩
  · intro hshort
    have hf : Instruction.Fails (own ++ s.operands) (.apply op offset)
        (.missingOperand op offset) :=
      .missingOperand (by rw [List.length_append]; exact hshort)
    rw [hg, runPostfix_cons_of_fails hf, error_bind]
  · intro hone hm
    simp only [hg, Stacks.result_pushAll_finish, Stacks.staged] at hm
    rw [← Translation.value_emit, Translation.value_eq_missingOperand_iff] at hm
    obtain ⟨hrest, hafter⟩ := not_mem_of_count_eq_one hs hc hone
    obtain hshort | hlong := Nat.lt_or_ge (own.length + s.operands.length) 2
    · exact hshort
    · rw [ge_iff_le, ← List.length_append] at hlong
      obtain h | h := List.mem_append.1 (mem_of_apply_missingOperand hlong hm)
      · exact absurd h hrest
      · exact absurd h hafter

/-- A sign in a group misses its left operand, unless an operand stands before the group. -/
theorem result_evalTokens_enclosed_missing_sign :
    Balanced Located.opens Located.closes [⟨.operator .sub, 3⟩, ⟨.number .nan, 4⟩] ∧
    (evalTokens [⟨.operator .sub, 3⟩, ⟨.number .nan, 4⟩]).result = .error (.missingOperand .sub 3) ∧
    (Stacks.pushAll {} [⟨.openParen, 0⟩]).outcome = .ok ⟨[], [.openParen 0]⟩ ∧
    (evalTokens ([⟨.openParen, 0⟩] ++ enclosed 2 [⟨.operator .sub, 3⟩, ⟨.number .nan, 4⟩] 5 ++
      [⟨.number .nan, 6⟩])).result = .error (.missingOperand .sub 3) ∧
    (Stacks.pushAll {} [⟨.number .nan, 0⟩]).outcome = .ok ⟨[.nan], []⟩ ∧
    (evalTokens ([⟨.number .nan, 0⟩] ++ enclosed 2 [⟨.operator .sub, 3⟩, ⟨.number .nan, 4⟩] 5 ++
      [])).result = .ok .nan ∧
    evaluate "1 (-2)" = .ok (.nearest (-1) false) := by
  have hb : Balanced Located.opens Located.closes
      [⟨.operator .sub, 3⟩, ⟨.number .nan, 4⟩] := mismatch_eq_none_iff_balanced.1 rfl
  have hopen : (Stacks.pushAll {} [⟨.openParen, 0⟩]).outcome = .ok ⟨[], [.openParen 0]⟩ := rfl
  obtain ⟨_, own, _, _, _, hl, _, hshort, _⟩ :=
    result_evalTokens_enclosed_missing hopen hb rfl 2 5 [⟨.number .nan, 6⟩]
  exact ⟨hb, rfl, hopen, hshort hl, rfl, rfl, by decide +kernel⟩

end Calculator
