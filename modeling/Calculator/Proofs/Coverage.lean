import Calculator.Proofs.LongestMatch

namespace Calculator

theorem Lexeme.exists_ofChar? (hn : Numeral.isNumeric c = false) (hb : isBlank c = false) :
    ∃ lexeme, ofChar? c = some lexeme := by
  by_cases hs : ∃ t : Token, t.symbol? = some c
  · obtain ⟨t, ht⟩ := hs
    exact ⟨_, (ofChar?_of_symbol? ht).1⟩
  · exact ⟨_, (isForeign_iff_other.2 ⟨hn, hb, hs⟩).ofChar?⟩

theorem bounds_of_mem_lexemesFrom (h : l ∈ lexemesFrom start ps) :
    start ≤ l.start ∧ l.start < l.stop ∧ l.stop ≤ start + Text.width ps.flatten := by
  obtain ⟨front, p, back, rfl, hp, hs, ht⟩ := mem_lexemesFrom_iff.1 h
  have hpos := width_pos_of_ofPiece? hp
  simp only [List.flatten_append, List.flatten_cons, Text.width_append]
  omega

theorem pairwise_lexemesFrom (start : Nat) (ps : List (List Char)) :
    (lexemesFrom start ps).Pairwise fun l l' => l.stop ≤ l'.start := by
  induction ps generalizing start with
  | nil => exact .nil
  | cons p ps ih =>
    cases hp : Lexeme.ofPiece? p with
    | none =>
      rw [lexemesFrom_cons_none hp]
      exact ih _
    | some lexeme =>
      rw [lexemesFrom_cons_some hp]
      exact .cons (fun l hl => (bounds_of_mem_lexemesFrom hl).1) (ih _)

theorem covered_iff (h : text = before ++ c :: after) (hi : Text.width before ≤ i)
    (hi' : i < Text.width before + c.utf8Size) :
    (∃ l ∈ lexemes text, l.start ≤ i ∧ i < l.stop) ↔ isBlank c = false := by
  constructor
  · rintro ⟨l, hl, hs, ht⟩
    rw [← Bool.not_eq_true]
    intro hb
    rw [lexemes_eq, h, pieces_append_cons (isNumeric_of_isBlank hb), lexemesFrom_append,
      flatten_pieces, lexemesFrom_cons_none (Lexeme.ofPiece?_of_isBlank hb), Nat.zero_add] at hl
    have hwidth : Text.width [c] = c.utf8Size := rfl
    obtain hl | hl := List.mem_append.1 hl
    · have hbounds := bounds_of_mem_lexemesFrom hl
      rw [flatten_pieces] at hbounds
      omega
    · have hbounds := bounds_of_mem_lexemesFrom hl
      omega
  · intro hb
    obtain ⟨front, u, v, back, hp, rfl⟩ := exists_piece_of_eq_append h
    have hread : ∃ lexeme, Lexeme.ofPiece? (u ++ c :: v) = some lexeme := by
      obtain hrun | ⟨d, hd, hn⟩ := piece_cases hp
      · exact ⟨_, Lexeme.ofPiece?_of_numeric hrun.ne_nil hrun.numeric⟩
      · obtain rfl : c = d := by
          have hm : c ∈ u ++ c :: v := List.mem_append_right u List.mem_cons_self
          rwa [hd, List.mem_singleton] at hm
        obtain ⟨lexeme, hx⟩ := Lexeme.exists_ofChar? hn hb
        exact ⟨lexeme, by rw [hd, Lexeme.ofPiece?_singleton hn, hx]⟩
    obtain ⟨lexeme, hx⟩ := hread
    refine ⟨⟨lexeme, Text.width front.flatten, Text.width front.flatten + Text.width (u ++ c :: v)⟩,
      ?_, ?_, ?_⟩
    · rw [lexemes_eq]
      exact mem_lexemesFrom_iff.2 ⟨front, _, back, hp, hx, (Nat.zero_add _).symm, rfl⟩
    · rw [Text.width_append] at hi
      exact Nat.le_trans (Nat.le_add_right _ _) hi
    · simp only [Text.width_append, Text.width] at hi' ⊢
      omega

/-- What stands in a text, with its bytes: a numeric run, a symbol or a foreign character. -/
inductive IsEntry (text : List Char) : Spanned Lexeme → Prop where
  | numeral : text = before ++ run ++ after → IsRun before run after → Numeral.isWellFormed run →
      IsEntry text ⟨.token (.number (.nearest (Numeral.toRat run) false)), Text.width before,
        Text.width before + Text.width run⟩
  | malformed : text = before ++ run ++ after → IsRun before run after →
      Numeral.isWellFormed run = false →
      IsEntry text ⟨.malformedNumber (.ofList run), Text.width before,
        Text.width before + Text.width run⟩
  | symbol {t : Token} : text = before ++ c :: after → t.symbol? = some c →
      IsEntry text ⟨.token t, Text.width before, Text.width before + c.utf8Size⟩
  | foreign : text = before ++ c :: after → IsForeign c →
      IsEntry text ⟨.unexpectedCharacter c, Text.width before, Text.width before + c.utf8Size⟩

theorem mem_lexemes_of_run (h : IsRun before run after) :
    ⟨.ofNumeral run, Text.width before, Text.width before + Text.width run⟩ ∈
      lexemes (before ++ run ++ after) := by
  rw [lexemes_eq, h.pieces]
  refine mem_lexemesFrom_iff.2 ⟨pieces before, run, pieces after, rfl,
    Lexeme.ofPiece?_of_numeric h.ne_nil h.numeric, ?_, rfl⟩
  rw [flatten_pieces, Nat.zero_add]

theorem mem_lexemes_of_char (hn : Numeral.isNumeric c = false)
    (h : Lexeme.ofChar? c = some lexeme) (before after : List Char) :
    ⟨lexeme, Text.width before, Text.width before + c.utf8Size⟩ ∈
      lexemes (before ++ c :: after) := by
  rw [lexemes_eq, pieces_append_cons hn]
  refine mem_lexemesFrom_iff.2 ⟨pieces before, [c], pieces after, rfl,
    (Lexeme.ofPiece?_singleton hn).trans h, ?_, rfl⟩
  rw [flatten_pieces, Nat.zero_add]

theorem mem_lexemes_iff : l ∈ lexemes text ↔ IsEntry text l := by
  constructor
  · intro h
    rw [lexemes_eq] at h
    obtain ⟨front, p, back, hp, hx, hs, ht⟩ := mem_lexemesFrom_iff.1 h
    obtain ⟨lexeme, start, stop⟩ := l
    have htext : text = front.flatten ++ p ++ back.flatten := by
      rw [← flatten_pieces text, hp, List.flatten_append, List.flatten_cons, List.append_assoc]
    simp only [Nat.zero_add] at hs ht
    subst hs
    subst ht
    obtain hrun | ⟨c, rfl, hn⟩ := piece_cases hp
    · rw [Lexeme.ofPiece?_of_numeric hrun.ne_nil hrun.numeric] at hx
      obtain rfl := Option.some.inj hx
      cases hw : Numeral.isWellFormed p with
      | true =>
        rw [Lexeme.ofNumeral_of_isWellFormed hw]
        exact .numeral htext hrun hw
      | false =>
        rw [Lexeme.ofNumeral_of_not_isWellFormed hw]
        exact .malformed htext hrun hw
    · rw [List.append_assoc, List.singleton_append] at htext
      rw [Lexeme.ofPiece?_singleton hn] at hx
      obtain ⟨t, rfl, hc⟩ | ⟨rfl, hc⟩ := Lexeme.ofChar?_eq_some hx hn
      · exact .symbol htext hc
      · exact .foreign htext (isForeign_iff.2 hc)
  · intro h
    cases h with
    | numeral he hrun hw =>
      rw [he, ← Lexeme.ofNumeral_of_isWellFormed hw]
      exact mem_lexemes_of_run hrun
    | malformed he hrun hw =>
      rw [he, ← Lexeme.ofNumeral_of_not_isWellFormed hw]
      exact mem_lexemes_of_run hrun
    | symbol he hc =>
      obtain ⟨hx, hn⟩ := Lexeme.ofChar?_of_symbol? hc
      rw [he]
      exact mem_lexemes_of_char hn hx _ _
    | foreign he hc =>
      rw [he]
      exact mem_lexemes_of_char hc.isNumeric hc.ofChar? _ _

theorem exists_tokens {ls : List (Spanned Lexeme)} (h : ∀ l ∈ ls, ∃ t, l.value = .token t) :
    ∃ tokens, ls.mapM Spanned.token = .ok tokens ∧
      ls.Forall₂ (fun l t => l.value = .token t.value ∧ l.start = t.offset) tokens := by
  induction ls with
  | nil => exact ⟨[], rfl, .nil⟩
  | cons l ls ih =>
    obtain ⟨⟨t, ht⟩, hls⟩ := List.forall_mem_cons.1 h
    obtain ⟨tokens, ho, hf⟩ := ih hls
    obtain ⟨lexeme, start, stop⟩ := l
    obtain rfl : lexeme = .token t := ht
    refine ⟨⟨t, start⟩ :: tokens, ?_, .cons ⟨rfl, rfl⟩ hf⟩
    rw [List.mapM_cons, ho]
    rfl

theorem tokenize_eq_error (h : lexemes text = front ++ l :: back)
    (hf : ∀ f ∈ front, ∃ t, f.value = .token t) (he : l.token = .error e) :
    tokenize text = .error e := by
  rw [tokenize, h]
  refine mapM_eq_error ?_ he back
  rintro ⟨lexeme, start, stop⟩ hm
  obtain ⟨t, rfl⟩ : ∃ t, lexeme = .token t := hf _ hm
  exact ⟨⟨t, start⟩, rfl⟩

/-- The lexemes of a text are what the rule of the longest match yields. Their spans are in order
and cover each byte that is not blank once, and the first that is no token settles what is read. -/
theorem lexemes_cover (text : List Char) :
    (∀ entries, Scan 0 text entries ↔ entries = lexemes text) ∧
    (∀ l ∈ lexemes text, l.start < l.stop ∧ l.stop ≤ Text.width text) ∧
    (lexemes text).Pairwise (fun l l' => l.stop ≤ l'.start) ∧
    (∀ before c after i, text = before ++ c :: after → Text.width before ≤ i →
      i < Text.width before + c.utf8Size →
      ((∃ l ∈ lexemes text, l.start ≤ i ∧ i < l.stop) ↔ isBlank c = false)) ∧
    (∀ l, l ∈ lexemes text ↔ IsEntry text l) ∧
    ((∀ l ∈ lexemes text, ∃ t, l.value = .token t) →
      ∃ tokens, tokenize text = .ok tokens ∧ (lexemes text).Forall₂
        (fun l t => l.value = .token t.value ∧ l.start = t.offset) tokens) ∧
    ∀ front l back, lexemes text = front ++ l :: back →
      (∀ f ∈ front, ∃ t, f.value = .token t) →
      (∀ literal, l.value = .malformedNumber literal →
        tokenize text = .error (.malformedNumber literal l.start)) ∧
      ∀ c, l.value = .unexpectedCharacter c →
        tokenize text = .error (.invalidCharacter c l.start) := by
  refine ⟨fun entries => scan_iff, ?_, pairwise_lexemesFrom 0 (pieces text), ?_,
    fun l => mem_lexemes_iff, exists_tokens, ?_⟩
  · intro l hl
    have hbounds := bounds_of_mem_lexemesFrom hl
    rw [flatten_pieces, Nat.zero_add] at hbounds
    exact hbounds.2
  · intro before c after i h hi hi'
    exact covered_iff h hi hi'
  · rintro front ⟨lexeme, start, stop⟩ back h hf
    constructor
    · rintro literal rfl
      exact tokenize_eq_error h hf rfl
    · rintro c rfl
      exact tokenize_eq_error h hf rfl

theorem lexemes_cover_points :
    let text := "3..×\x0b(.5".toList
    let half : Lexeme := .token (.number (.nearest (1 / 2) false))
    let entries : List (Spanned Lexeme) := [⟨.malformedNumber "3..", 0, 3⟩,
      ⟨.unexpectedCharacter '×', 3, 5⟩, ⟨.token .openParen, 6, 7⟩, ⟨half, 7, 9⟩]
    lexemes text = entries ∧ Scan 0 text entries ∧
      (∃ l ∈ entries, l.start ≤ 4 ∧ 4 < l.stop) ∧ (¬ ∃ l ∈ entries, l.start ≤ 5 ∧ 5 < l.stop) ∧
      tokenize text = .error (.malformedNumber "3.." 0) := by
  intro text half entries
  have hentries : lexemes text = entries := by decide +kernel
  obtain ⟨hscan, _, _, hcover, _, _, herror⟩ := lexemes_cover text
  rw [hentries] at hscan hcover herror
  refine ⟨hentries, (hscan entries).2 rfl, ?_, ?_, ?_⟩
  · have h := hcover "3..".toList '×' "\x0b(.5".toList 4 (by decide) (by decide) (by decide)
    exact h.2 (by decide)
  · rw [hcover "3..×".toList '\x0b' "(.5".toList 5 (by decide) (by decide) (by decide)]
    decide
  · exact (herror [] _ _ rfl (List.forall_mem_nil _)).1 "3.." rfl

end Calculator
