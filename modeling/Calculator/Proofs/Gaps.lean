import Calculator.Proofs.Pieces
import Calculator.Proofs.Relocation

namespace Calculator

theorem isNumeric_of_isBlank (h : isBlank w) : Numeral.isNumeric w = false := by
  obtain rfl | rfl | rfl | rfl | rfl | rfl := blank_cases h <;> rfl

theorem isPermitted_of_isBlank (h : isBlank w) : isPermitted w := by
  rw [isPermitted, h, Bool.or_true]

theorem width_of_isBlank (h : isBlank w) : Text.width [w] = 1 := by
  obtain rfl | rfl | rfl | rfl | rfl | rfl := blank_cases h <;> rfl

theorem Lexeme.ofPiece?_of_isBlank (h : isBlank w) : ofPiece? [w] = none := by
  simp only [ofPiece?, isNumeric_of_isBlank h, Bool.false_eq_true, ↓reduceIte, ofChar?, h]

theorem lexemesFrom_gap {gap : List Char} (h : ∀ c ∈ gap, isBlank c) (start : Nat)
    (after : List Char) :
    lexemesFrom start (pieces (gap ++ after)) =
      lexemesFrom (start + Text.width gap) (pieces after) := by
  induction gap generalizing start with
  | nil => rfl
  | cons c gap ih =>
    obtain ⟨hc, hgap⟩ := List.forall_mem_cons.1 h
    rw [List.cons_append, pieces_cons (isNumeric_of_isBlank hc),
      lexemesFrom_cons_none (Lexeme.ofPiece?_of_isBlank hc), ih hgap, Nat.add_assoc,
      ← Text.width_append, List.singleton_append]

/-- The place of an offset once a byte has been put in at `place`. -/
def insertedAt (place offset : Nat) : Nat :=
  if place ≤ offset then offset + 1 else offset

theorem insertedAt_of_lt (h : offset < place) : insertedAt place offset = offset :=
  if_neg (Nat.not_le.2 h)

theorem insertedAt_add (place offset : Nat) :
    insertedAt place (place + offset) = place + 1 + offset := by
  rw [insertedAt, if_pos (Nat.le_add_right _ _)]
  omega

def tokensFrom (start : Nat) (ps : List (List Char)) : Except ReadError (List (Located Token)) :=
  (lexemesFrom start ps).mapM Spanned.token

theorem tokensFrom_cons_none (h : Lexeme.ofPiece? p = none) (start : Nat) (ps : List (List Char)) :
    tokensFrom start (p :: ps) = tokensFrom (start + Text.width p) ps := by
  rw [tokensFrom, lexemesFrom_cons_none h, tokensFrom]

theorem tokensFrom_cons_some (h : Lexeme.ofPiece? p = some lexeme) (start : Nat)
    (ps : List (List Char)) :
    tokensFrom start (p :: ps) =
      Spanned.token ⟨lexeme, start, start + Text.width p⟩ >>= fun t =>
        tokensFrom (start + Text.width p) ps >>= fun ts => .ok (t :: ts) := by
  rw [tokensFrom, lexemesFrom_cons_some h, List.mapM_cons, tokensFrom]
  rfl

theorem width_pos_of_ofPiece? (h : Lexeme.ofPiece? p = some lexeme) : 0 < Text.width p := by
  obtain ⟨c, rest, rfl, _⟩ := Lexeme.ofPiece?_eq_some h
  exact Nat.add_pos_left c.utf8Size_pos _

theorem tokensFrom_append_relocated {f : Nat → Nat}
    (hf : ∀ i < Text.width ps.flatten, f (start + i) = start' + i)
    (h : tokensFrom (start' + Text.width ps.flatten) qs' =
      relocated f (tokensFrom (start + Text.width ps.flatten) qs)) :
    tokensFrom start' (ps ++ qs') = relocated f (tokensFrom start (ps ++ qs)) := by
  induction ps generalizing start start' with
  | nil => exact h
  | cons p ps ih =>
    simp only [List.flatten_cons, Text.width_append, ← Nat.add_assoc] at hf h
    have hrest : tokensFrom (start' + Text.width p) (ps ++ qs') =
        relocated f (tokensFrom (start + Text.width p) (ps ++ qs)) := by
      refine ih (fun i hi => ?_) h
      rw [Nat.add_assoc, hf _ (Nat.add_lt_add_left hi _), Nat.add_assoc]
    rw [List.cons_append, List.cons_append]
    cases hp : Lexeme.ofPiece? p with
    | none => rw [tokensFrom_cons_none hp, tokensFrom_cons_none hp, hrest]
    | some lexeme =>
      have hstart : f start = start' := hf 0 (Nat.add_pos_left (width_pos_of_ofPiece? hp) _)
      rw [tokensFrom_cons_some hp, tokensFrom_cons_some hp, hrest, ← hstart]
      cases lexeme with
      | token t => cases tokensFrom (start + Text.width p) (ps ++ qs) <;> rfl
      | malformedNumber literal => rfl
      | unexpectedCharacter c => rfl

theorem tokenize_insert (hw : isBlank w) (hb : IsBoundary before after) :
    tokenize (before ++ w :: after) =
      relocated (insertedAt (Text.width before)) (tokenize (before ++ after)) := by
  have hafter : tokensFrom (Text.width before + 1) (pieces after ++ []) =
      relocated (insertedAt (Text.width before))
        (tokensFrom (Text.width before) (pieces after ++ [])) :=
    tokensFrom_append_relocated (fun i _ => insertedAt_add _ i) rfl
  rw [List.append_nil] at hafter
  change tokensFrom 0 (pieces _) = relocated _ (tokensFrom 0 (pieces _))
  rw [hb.pieces, pieces_append_cons (isNumeric_of_isBlank hw)]
  apply tokensFrom_append_relocated
  · intro i hi
    rw [flatten_pieces] at hi
    rw [Nat.zero_add, insertedAt_of_lt hi]
  · rw [flatten_pieces, Nat.zero_add, tokensFrom_cons_none (Lexeme.ofPiece?_of_isBlank hw),
      width_of_isBlank hw, hafter]

theorem validate_append (h : ∀ c ∈ before, isPermitted c) (after : List Char) :
    validate (before ++ after) =
      (validate after).mapError (.mapOffset (Text.width before + ·)) := by
  rw [validate, validate, List.dropWhile_append_of_pos h, List.takeWhile_append_of_pos h]
  cases after.dropWhile isPermitted with
  | nil => rfl
  | cons c rest =>
    rw [Text.width_append]
    rfl

theorem validate_append_of_error (h : validate before = .error e) (after : List Char) :
    validate (before ++ after) = .error e := by
  obtain ⟨front, c, back, rfl, rfl, hc, hf⟩ := validate_eq_error h
  rw [List.append_assoc, List.cons_append, validate_eq_invalidCharacter hf hc]

theorem validate_insert (hw : isBlank w) (before after : List Char) :
    validate (before ++ w :: after) = (validate (before ++ after)).mapError
      (.mapOffset (insertedAt (Text.width before))) := by
  cases hv : validate before with
  | error e =>
    rw [validate_append_of_error hv, validate_append_of_error hv]
    obtain ⟨front, c, back, rfl, rfl, _, _⟩ := validate_eq_error hv
    have hlt : Text.width front < Text.width (front ++ c :: back) := by
      rw [Text.width_append]
      exact Nat.lt_add_of_pos_right (Nat.add_pos_left c.utf8Size_pos _)
    change _ = Except.error (ReadError.invalidCharacter c (insertedAt _ _))
    rw [insertedAt_of_lt hlt]
  | ok u =>
    have hp : ∀ c ∈ before, isPermitted c := fun _ => isPermitted_of_validate hv
    have hpw : ∀ c ∈ [w], isPermitted c := fun c hc =>
      List.mem_singleton.1 hc ▸ isPermitted_of_isBlank hw
    rw [validate_append hp, validate_append hp, ← List.singleton_append, validate_append hpw,
      width_of_isBlank hw]
    cases validate after with
    | ok u => rfl
    | error e =>
      cases e <;> simp only [Except.mapError, ReadError.mapOffset, insertedAt_add, Nat.add_assoc]

theorem readTokens_insert {before after : String} (hw : isBlank w)
    (hb : IsBoundary before.toList after.toList) :
    readTokens (before.push w ++ after) =
      relocated (insertedAt (Text.width before.toList)) (readTokens (before ++ after)) := by
  have hinserted : (before.push w ++ after).toList = before.toList ++ w :: after.toList := by
    simp
  rw [readTokens, readTokens, hinserted, String.toList_append, validate_insert hw,
    tokenize_insert hw hb]
  cases validate (before.toList ++ after.toList) <;> rfl

/-- White space put in where no numeral is torn apart has no effect but on offsets behind it. -/
theorem evaluate_insert {before after : String} (hw : isBlank w)
    (hb : IsBoundary before.toList after.toList) :
    evaluate (before.push w ++ after) = (evaluate (before ++ after)).mapError
      (.mapOffset fun offset => if before.utf8ByteSize ≤ offset then offset + 1 else offset) := by
  have hsize : before.utf8ByteSize = Text.width before.toList := by
    rw [Text.width_eq_utf8ByteSize, String.ofList_toList]
  rw [hsize]
  exact evaluate_of_relocated (readTokens_insert hw hb)

theorem evaluate_insert_tab :
    isBlank '\t' ∧ IsBoundary "(2. -".toList "2) / 0".toList ∧
    evaluate "(2. -2) / 0" = .error (.eval (.divisionByZero 8)) ∧
    evaluate "(2. -\t2) / 0" = .error (.eval (.divisionByZero 9)) ∧
    evaluate "×2" = .error (.read (.invalidCharacter '×' 0)) ∧
    evaluate "\t×2" = .error (.read (.invalidCharacter '×' 1)) := by
  have hw : isBlank '\t' := by decide
  have hb : IsBoundary "(2. -".toList "2) / 0".toList := by decide +kernel
  have hdivision : evaluate "(2. -2) / 0" = .error (.eval (.divisionByZero 8)) := by
    decide +kernel
  have htimes : evaluate "×2" = .error (.read (.invalidCharacter '×' 0)) := by decide +kernel
  refine ⟨hw, hb, hdivision, ?_, htimes, ?_⟩
  · have h := evaluate_insert hw hb
    rwa [show "(2. -" ++ "2) / 0" = "(2. -2) / 0" by decide, hdivision] at h
  · have h : evaluate ("".push '\t' ++ "×2") = _ := evaluate_insert hw (by decide +kernel)
    rwa [show "" ++ "×2" = "×2" by decide, htimes] at h

end Calculator
