import Calculator.Token.Lexeme
import Mathlib.Data.List.SplitBy

namespace Calculator

theorem flatten_pieces (text : List Char) : (pieces text).flatten = text :=
  List.flatten_splitBy _ _

/-- No numeral reaches over the end of `before`. -/
def IsBoundary (before after : List Char) : Prop :=
  ∀ c ∈ before.getLast?, ∀ d ∈ after.head?, ¬ (Numeral.isNumeric c ∧ Numeral.isNumeric d)

instance : Decidable (IsBoundary before after) :=
  @Option.decidableForallMem _ _ (fun _ => Option.decidableForallMem _) _

theorem IsBoundary.pieces (h : IsBoundary before after) :
    pieces (before ++ after) = pieces before ++ pieces after := by
  apply List.splitBy_append
  intro c hc d hd
  rw [← Bool.not_eq_true, Bool.and_eq_true]
  exact h c hc d hd

theorem isBoundary_cons (h : Numeral.isNumeric c = false) (before after : List Char) :
    IsBoundary before (c :: after) := by
  intro b _ d hd
  cases hd
  rw [h]
  rintro ⟨_, hn⟩
  cases hn

theorem pieces_cons (h : Numeral.isNumeric c = false) (after : List Char) :
    pieces (c :: after) = [c] :: pieces after := by
  have hb : IsBoundary [c] after := by
    intro b hb d _
    rw [List.getLast?_singleton, Option.mem_some_iff] at hb
    rw [← hb, h]
    rintro ⟨hn, _⟩
    cases hn
  exact hb.pieces

theorem pieces_append_cons (h : Numeral.isNumeric c = false) (before after : List Char) :
    pieces (before ++ c :: after) = pieces before ++ [c] :: pieces after := by
  rw [(isBoundary_cons h before after).pieces, pieces_cons h]

/-- A stretch of numeric characters with no numeric character next to it. -/
structure IsRun (before run after : List Char) : Prop where
  ne_nil : run ≠ []
  numeric : ∀ c ∈ run, Numeral.isNumeric c
  start : ∀ c ∈ before.getLast?, Numeral.isNumeric c = false
  stop : ∀ c ∈ after.head?, Numeral.isNumeric c = false

theorem IsRun.pieces (h : IsRun before run after) :
    pieces (before ++ run ++ after) = pieces before ++ run :: pieces after := by
  have hchain : run.IsChain fun c d => Numeral.isNumeric c && Numeral.isNumeric d := by
    apply List.Pairwise.isChain
    apply List.pairwise_of_forall_mem_list
    intro c hc d hd
    rw [h.numeric c hc, h.numeric d hd]
    rfl
  have hstop : ∀ c ∈ (before ++ run).getLast?, ∀ d ∈ after.head?,
      (Numeral.isNumeric c && Numeral.isNumeric d) = false := by
    intro c _ d hd
    rw [h.stop d hd, Bool.and_false]
  have hstart : ∀ c ∈ before.getLast?, ∀ d ∈ run.head?,
      (Numeral.isNumeric c && Numeral.isNumeric d) = false := by
    intro c hc d _
    rw [h.start c hc, Bool.false_and]
  rw [Calculator.pieces, List.splitBy_append hstop, List.splitBy_append hstart,
    List.splitBy_of_isChain h.ne_nil hchain, List.append_assoc]
  rfl

theorem pieces_of_numeric (hn : text ≠ []) (h : ∀ c ∈ text, Numeral.isNumeric c) :
    pieces text = [text] := by
  have hrun : IsRun [] text [] := by
    refine ⟨hn, h, ?_, ?_⟩
    · intro c hc
      cases hc
    · intro c hc
      cases hc
  have hp := hrun.pieces
  rwa [List.nil_append, List.append_nil] at hp

theorem numeric_of_isChain
    (h : (c :: rest).IsChain fun c d => Numeral.isNumeric c && Numeral.isNumeric d)
    (hc : Numeral.isNumeric c) : ∀ d ∈ c :: rest, Numeral.isNumeric d := by
  induction rest generalizing c with
  | nil =>
    intro d hd
    rw [List.mem_singleton.1 hd]
    exact hc
  | cons next rest ih =>
    obtain ⟨hn, hr⟩ := List.isChain_cons_cons.1 h
    intro d hd
    obtain rfl | hd := List.mem_cons.1 hd
    · exact hc
    · exact ih hr (Bool.and_eq_true_iff.1 hn).2 d hd

theorem isRun_of_pieces (h : pieces text = front ++ (c :: rest) :: back)
    (hc : Numeral.isNumeric c) : IsRun front.flatten (c :: rest) back.flatten := by
  have hmem : c :: rest ∈ pieces text := by
    rw [h]
    exact List.mem_append_right front List.mem_cons_self
  have hnumeric := numeric_of_isChain (List.isChain_of_mem_splitBy hmem) hc
  have hlinks := List.isChain_getLast_head_splitBy
    (fun c d => Numeral.isNumeric c && Numeral.isNumeric d) text
  change (pieces text).IsChain _ at hlinks
  rw [h, List.isChain_append] at hlinks
  obtain ⟨_, hback, hfront⟩ := hlinks
  refine ⟨List.cons_ne_nil c rest, hnumeric, ?_, ?_⟩
  · intro d hd
    obtain rfl | ⟨init, p, rfl⟩ := List.eq_nil_or_concat' front
    · cases hd
    · obtain ⟨hp, _, hn⟩ := hfront p (by simp) (c :: rest) rfl
      rw [List.flatten_append, List.flatten_singleton, List.getLast?_append_of_ne_nil _ hp,
        List.getLast?_eq_some_getLast hp] at hd
      cases hd
      simpa only [List.head_cons, hc, Bool.and_true] using hn
  · intro d hd
    obtain _ | ⟨q, back⟩ := back
    · cases hd
    · obtain ⟨hrun, hq, hn⟩ := (List.isChain_cons_cons.1 hback).1
      rw [List.flatten_cons, List.head?_append_of_ne_nil _ hq, List.head?_eq_some_head hq] at hd
      cases hd
      rw [hnumeric _ (List.getLast_mem hrun), Bool.true_and] at hn
      exact hn

theorem piece_cases (h : pieces text = front ++ p :: back) :
    IsRun front.flatten p back.flatten ∨ ∃ c, p = [c] ∧ Numeral.isNumeric c = false := by
  have hmem : p ∈ pieces text := by
    rw [h]
    exact List.mem_append_right front List.mem_cons_self
  obtain ⟨c, rest, rfl⟩ := List.exists_cons_of_ne_nil (List.ne_nil_of_mem_splitBy hmem)
  cases hc : Numeral.isNumeric c with
  | true => exact .inl (isRun_of_pieces h hc)
  | false =>
    obtain _ | ⟨d, rest⟩ := rest
    · exact .inr ⟨c, rfl, hc⟩
    · have hlink := (List.isChain_cons_cons.1 (List.isChain_of_mem_splitBy hmem)).1
      rw [hc] at hlink
      cases hlink

theorem exists_piece_of_eq_append (h : text = before ++ c :: after) :
    ∃ front u v back, pieces text = front ++ (u ++ c :: v) :: back ∧
      before = front.flatten ++ u := by
  rw [← flatten_pieces text, List.flatten_eq_append_iff] at h
  obtain ⟨front, back, hp, hb, ha⟩ | ⟨front, u, d, v, back, hp, hb, ha⟩ := h
  · obtain ⟨empty, v, back, rfl, he, _⟩ := List.flatten_eq_cons_iff.1 ha.symm
    refine ⟨front ++ empty, [], v, back, ?_, ?_⟩
    · rw [hp, List.append_assoc, List.nil_append]
    · rw [hb, List.flatten_append, List.flatten_eq_nil_iff.2 he, List.append_nil, List.append_nil]
  · obtain ⟨rfl, _⟩ := List.cons.inj ha
    exact ⟨front, u, v, back, hp, hb⟩

theorem Lexeme.ofPiece?_of_numeric (hn : p ≠ []) (h : ∀ c ∈ p, Numeral.isNumeric c) :
    ofPiece? p = some (.ofNumeral p) := by
  obtain ⟨c, rest, rfl⟩ := List.exists_cons_of_ne_nil hn
  rw [ofPiece?, if_pos (h c List.mem_cons_self)]

theorem Lexeme.ofPiece?_singleton (h : Numeral.isNumeric c = false) :
    ofPiece? [c] = ofChar? c := by
  rw [ofPiece?, if_neg (Bool.eq_false_iff.1 h)]

/-- The lexemes of adjacent pieces, of which the first starts at `start`. -/
def lexemesFrom (start : Nat) (ps : List (List Char)) : List (Spanned Lexeme) :=
  (spans start ps).filterMap fun piece =>
    (Lexeme.ofPiece? piece.value).map fun lexeme => ⟨lexeme, piece.start, piece.stop⟩

theorem lexemes_eq (text : List Char) : lexemes text = lexemesFrom 0 (pieces text) := rfl

theorem lexemesFrom_cons_none (h : Lexeme.ofPiece? p = none) (start : Nat)
    (ps : List (List Char)) :
    lexemesFrom start (p :: ps) = lexemesFrom (start + Text.width p) ps := by
  simp only [lexemesFrom, spans, List.filterMap_cons, h, Option.map_none]

theorem lexemesFrom_cons_some (h : Lexeme.ofPiece? p = some lexeme) (start : Nat)
    (ps : List (List Char)) :
    lexemesFrom start (p :: ps) =
      ⟨lexeme, start, start + Text.width p⟩ :: lexemesFrom (start + Text.width p) ps := by
  simp only [lexemesFrom, spans, List.filterMap_cons, h, Option.map_some]

theorem lexemesFrom_append (start : Nat) (ps qs : List (List Char)) :
    lexemesFrom start (ps ++ qs) =
      lexemesFrom start ps ++ lexemesFrom (start + Text.width ps.flatten) qs := by
  induction ps generalizing start with
  | nil => rfl
  | cons p ps ih =>
    rw [List.cons_append, List.flatten_cons, Text.width_append, ← Nat.add_assoc]
    cases hp : Lexeme.ofPiece? p with
    | none => rw [lexemesFrom_cons_none hp, lexemesFrom_cons_none hp, ih]
    | some lexeme => rw [lexemesFrom_cons_some hp, lexemesFrom_cons_some hp, ih, List.cons_append]

theorem lexemesFrom_run (h : IsRun [] run after) (start : Nat) :
    lexemesFrom start (pieces (run ++ after)) =
      ⟨.ofNumeral run, start, start + Text.width run⟩ ::
        lexemesFrom (start + Text.width run) (pieces after) := by
  have hp : pieces ([] ++ run ++ after) = [] ++ run :: pieces after := h.pieces
  rw [List.nil_append, List.nil_append] at hp
  rw [hp, lexemesFrom_cons_some (Lexeme.ofPiece?_of_numeric h.ne_nil h.numeric)]

theorem lexemes_of_numeric (hn : text ≠ []) (h : ∀ c ∈ text, Numeral.isNumeric c) :
    lexemes text = [⟨.ofNumeral text, 0, Text.width text⟩] := by
  rw [lexemes_eq, pieces_of_numeric hn h, lexemesFrom_cons_some (Lexeme.ofPiece?_of_numeric hn h),
    Nat.zero_add]
  rfl

theorem lexemesFrom_char (hn : Numeral.isNumeric c = false) (h : Lexeme.ofChar? c = some lexeme)
    (start : Nat) (after : List Char) :
    lexemesFrom start (pieces (c :: after)) =
      ⟨lexeme, start, start + c.utf8Size⟩ ::
        lexemesFrom (start + c.utf8Size) (pieces after) := by
  rw [← Lexeme.ofPiece?_singleton hn] at h
  rw [pieces_cons hn, lexemesFrom_cons_some h]
  rfl

theorem mem_lexemesFrom_iff : l ∈ lexemesFrom start ps ↔ ∃ front p back, ps = front ++ p :: back ∧
    Lexeme.ofPiece? p = some l.value ∧ l.start = start + Text.width front.flatten ∧
    l.stop = l.start + Text.width p := by
  constructor
  · intro h
    induction ps generalizing start with
    | nil => cases h
    | cons p ps ih =>
      have hlater (h : l ∈ lexemesFrom (start + Text.width p) ps) :
          ∃ front q back, p :: ps = front ++ q :: back ∧ Lexeme.ofPiece? q = some l.value ∧
            l.start = start + Text.width front.flatten ∧ l.stop = l.start + Text.width q := by
        obtain ⟨front, q, back, rfl, hq, hs, ht⟩ := ih h
        refine ⟨p :: front, q, back, rfl, hq, ?_, ht⟩
        rw [hs, List.flatten_cons, Text.width_append, Nat.add_assoc]
      cases hp : Lexeme.ofPiece? p with
      | none =>
        rw [lexemesFrom_cons_none hp] at h
        exact hlater h
      | some lexeme =>
        rw [lexemesFrom_cons_some hp] at h
        obtain rfl | h := List.mem_cons.1 h
        · exact ⟨[], p, ps, rfl, hp, rfl, rfl⟩
        · exact hlater h
  · rintro ⟨front, p, back, rfl, hp, hs, ht⟩
    rw [lexemesFrom_append, lexemesFrom_cons_some hp, ← hs, ← ht]
    exact List.mem_append_right _ List.mem_cons_self

def IsPassed (p : List Char) : Prop :=
  ∀ lexeme, Lexeme.ofPiece? p = some lexeme → ∃ t, lexeme = .token t

theorem exists_piece_of_eq_error (h : (lexemesFrom start ps).mapM Spanned.token = .error e) :
    ∃ front p back lexeme, ps = front ++ p :: back ∧ (∀ q ∈ front, IsPassed q) ∧
      Lexeme.ofPiece? p = some lexeme ∧
      Spanned.token ⟨lexeme, start + Text.width front.flatten,
        start + Text.width front.flatten + Text.width p⟩ = .error e := by
  induction ps generalizing start with
  | nil => cases h
  | cons p ps ih =>
    have hshift (front : List (List Char)) : start + Text.width (p :: front).flatten =
        start + Text.width p + Text.width front.flatten := by
      rw [List.flatten_cons, Text.width_append, Nat.add_assoc]
    cases hp : Lexeme.ofPiece? p with
    | none =>
      rw [lexemesFrom_cons_none hp] at h
      obtain ⟨front, q, back, lexeme, rfl, hf, hq, he⟩ := ih h
      have hpassed : IsPassed p := by
        intro found hfound
        rw [hp] at hfound
        cases hfound
      exact ⟨p :: front, q, back, lexeme, rfl, List.forall_mem_cons.2 ⟨hpassed, hf⟩, hq,
        by rwa [hshift]⟩
    | some lexeme =>
      rw [lexemesFrom_cons_some hp, List.mapM_cons] at h
      obtain hl | ⟨t, hl, h⟩ := bind_eq_error_iff.1 h
      · exact ⟨[], p, ps, lexeme, rfl, List.forall_mem_nil _, hp, hl⟩
      · obtain h | ⟨ts, _, h⟩ := bind_eq_error_iff.1 h
        · obtain ⟨front, q, back, found, rfl, hf, hq, he⟩ := ih h
          have hpassed : IsPassed p := by
            intro found hfound
            rw [hp] at hfound
            cases hfound
            exact ⟨t.value, (Spanned.token_eq_ok hl).1⟩
          exact ⟨p :: front, q, back, found, rfl, List.forall_mem_cons.2 ⟨hpassed, hf⟩, hq,
            by rwa [hshift]⟩
        · cases h

end Calculator
