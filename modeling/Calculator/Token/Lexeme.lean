import Calculator.Alphabet
import Calculator.Decimal
import Calculator.Token.Basic

namespace Calculator

theorem isPermitted_of_isNumeric (h : Numeral.isNumeric c) : isPermitted c := by
  rw [Numeral.isNumeric, Bool.or_eq_true, beq_iff_eq] at h
  obtain h | rfl := h
  · simp only [isPermitted, h, Bool.true_or]
  · rfl

/-- What a stretch of text other than a gap is read as. -/
inductive Lexeme where
  | token (token : Token)
  | malformedNumber (literal : String)
  | unexpectedCharacter (character : Char)
  deriving DecidableEq

structure Spanned (α : Type) where
  value : α
  start : Nat
  stop : Nat
  deriving DecidableEq

namespace Lexeme

def ofNumeral (text : List Char) : Lexeme :=
  match Numeral.read? text with
  | some x => .token (.number x)
  | none => .malformedNumber (.ofList text)

/-- Reads a character that no numeral contains; a blank is no lexeme. -/
def ofChar? (c : Char) : Option Lexeme :=
  if isBlank c then none
  else if c = '(' then some (.token .openParen)
  else if c = ')' then some (.token .closeParen)
  else match Operator.ofSymbol? c with
    | some op => some (.token (.operator op))
    | none => some (.unexpectedCharacter c)

def ofPiece? : List Char → Option Lexeme
  | [] => none
  | c :: rest => if Numeral.isNumeric c then some (ofNumeral (c :: rest)) else ofChar? c

theorem ofNumeral_of_isWellFormed {text : List Char} (h : Numeral.isWellFormed text) :
    ofNumeral text = .token (.number (.nearest (Numeral.toRat text) false)) := by
  simp only [ofNumeral, Numeral.read?, h, ↓reduceIte]

theorem ofNumeral_of_not_isWellFormed {text : List Char} (h : Numeral.isWellFormed text = false) :
    ofNumeral text = .malformedNumber (.ofList text) := by
  simp only [ofNumeral, Numeral.read?, h, Bool.false_eq_true, ↓reduceIte]

theorem ofChar?_eq_some (h : ofChar? c = some lexeme) (hc : Numeral.isNumeric c = false) :
    (∃ t, lexeme = .token t ∧ t.symbol? = some c) ∨
      lexeme = .unexpectedCharacter c ∧ isPermitted c = false := by
  rw [ofChar?] at h
  split at h
  · cases h
  split at h
  · cases h
    subst c
    exact .inl ⟨_, rfl, rfl⟩
  split at h
  · cases h
    subst c
    exact .inl ⟨_, rfl, rfl⟩
  cases hop : Operator.ofSymbol? c with
  | some op =>
    rw [hop] at h
    cases h
    exact .inl ⟨_, rfl, congrArg some (Operator.symbol_of_ofSymbol? hop)⟩
  | none =>
    rw [hop] at h
    cases h
    have hs := Operator.ofSymbol?_isSome c
    rw [hop] at hs
    simp_all [isPermitted, Numeral.isNumeric]

theorem ofPiece?_eq_some (h : ofPiece? p = some lexeme) :
    ∃ c rest, p = c :: rest ∧
      (Numeral.isNumeric c ∧ Numeral.isWellFormed p ∧ (∃ x, lexeme = .token (.number x)) ∨
        Numeral.isNumeric c ∧ Numeral.isWellFormed p = false ∧
          lexeme = .malformedNumber (.ofList p) ∨
        (∃ t, lexeme = .token t ∧ t.symbol? = some c) ∨
        lexeme = .unexpectedCharacter c ∧ isPermitted c = false) := by
  obtain _ | ⟨c, rest⟩ := p
  · cases h
  refine ⟨c, rest, rfl, ?_⟩
  rw [ofPiece?] at h
  cases hc : Numeral.isNumeric c with
  | false =>
    rw [hc] at h
    exact .inr (.inr (ofChar?_eq_some h hc))
  | true =>
    rw [hc] at h
    obtain rfl := Option.some.inj h
    cases hw : Numeral.isWellFormed (c :: rest) with
    | false => exact .inr (.inl ⟨rfl, rfl, ofNumeral_of_not_isWellFormed hw⟩)
    | true => exact .inl ⟨rfl, rfl, _, ofNumeral_of_isWellFormed hw⟩

theorem eq_nearest_of_ofPiece? (h : ofPiece? piece = some (.token (.number x))) :
    x = .nearest (Numeral.toRat piece) false := by
  obtain _ | ⟨c, rest⟩ := piece
  · cases h
  rw [ofPiece?] at h
  cases hc : Numeral.isNumeric c with
  | false =>
    rw [hc] at h
    obtain ⟨t, ht, hs⟩ | ⟨he, _⟩ := ofChar?_eq_some h hc
    · cases ht
      cases hs
    · cases he
  | true =>
    rw [hc, if_pos rfl, Option.some.injEq] at h
    cases hw : Numeral.isWellFormed (c :: rest) with
    | false =>
      rw [ofNumeral_of_not_isWellFormed hw] at h
      cases h
    | true =>
      rw [ofNumeral_of_isWellFormed hw] at h
      cases h
      rfl

theorem ofPiece?_ne_blank (piece : List Char) : ofPiece? piece ≠ some (.token .blank) := by
  intro h
  obtain ⟨_, _, _, ⟨_, _, _, he⟩ | ⟨_, _, he⟩ | ⟨t, he, ht⟩ | ⟨he, _⟩⟩ := ofPiece?_eq_some h
  · cases he
  · cases he
  · cases he
    cases ht
  · cases he

end Lexeme

/-- Cuts a text into its longest numeric runs and the single characters between them. -/
def pieces (text : List Char) : List (List Char) :=
  text.splitBy fun c d => Numeral.isNumeric c && Numeral.isNumeric d

def spans (start : Nat) : List (List Char) → List (Spanned (List Char))
  | [] => []
  | piece :: rest =>
    let stop := start + Text.width piece
    ⟨piece, start, stop⟩ :: spans stop rest

/-- All lexemes of a text, in order, malformed ones included. -/
def lexemes (text : List Char) : List (Spanned Lexeme) :=
  (spans 0 (pieces text)).filterMap fun piece =>
    (Lexeme.ofPiece? piece.value).map fun lexeme => ⟨lexeme, piece.start, piece.stop⟩

def Spanned.token : Spanned Lexeme → Except ReadError (Located Token)
  | ⟨.token t, start, _⟩ => .ok ⟨t, start⟩
  | ⟨.malformedNumber literal, start, _⟩ => .error (.malformedNumber literal start)
  | ⟨.unexpectedCharacter c, start, _⟩ => .error (.invalidCharacter c start)

theorem Spanned.token_eq_ok {l : Spanned Lexeme} (h : l.token = .ok t) :
    l.value = .token t.value ∧ t.offset = l.start := by
  obtain ⟨lexeme, start, stop⟩ := l
  cases lexeme <;> cases h
  exact ⟨rfl, rfl⟩

/-- The tokens of a text, or the first of its errors. -/
def tokenize (text : List Char) : Except ReadError (List (Located Token)) :=
  (lexemes text).mapM Spanned.token

theorem exists_piece_of_mem_tokenize (h : tokenize text = .ok tokens) (ht : t ∈ tokens) :
    ∃ piece, Lexeme.ofPiece? piece = some (.token t.value) := by
  obtain ⟨l, hl, hlt⟩ := exists_of_mem_mapM h ht
  obtain ⟨piece, _, hp⟩ := List.mem_filterMap.1 hl
  obtain ⟨lexeme, hx, rfl⟩ := Option.map_eq_some_iff.1 hp
  obtain ⟨rfl, _⟩ := Spanned.token_eq_ok hlt
  exact ⟨piece.value, hx⟩

theorem tokenize_ne_blank (h : tokenize text = .ok tokens) (ht : t ∈ tokens) :
    t.value ≠ .blank := by
  intro hb
  obtain ⟨piece, hp⟩ := exists_piece_of_mem_tokenize h ht
  rw [hb] at hp
  exact Lexeme.ofPiece?_ne_blank piece hp

end Calculator
