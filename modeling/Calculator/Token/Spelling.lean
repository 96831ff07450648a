import Calculator.Alphabet
import Calculator.Decimal
import Calculator.Token.Basic
import Calculator.Token.Lexeme

namespace Calculator

/-- What a text is cut into: numerals, symbols of one token each, and gaps. -/
inductive Pattern where
  | numeral
  | symbol (token : Token)
  | gap
  deriving DecidableEq

namespace Pattern

def Matches : Pattern → List Char → Prop
  | .numeral, word => word ≠ [] ∧ ∀ c ∈ word, c.isDigit ∨ c = '.'
  | .symbol token, word => ∃ c, token.symbol? = some c ∧ word = [c]
  | .gap, word => word ≠ [] ∧ ∀ c ∈ word, c ∈ [' ', '\t', '\r', '\n', '\x0c', '\x0b']

/-- What a word of the pattern is read as; a gap is skipped. -/
def lexeme? : Pattern → List Char → Option Lexeme
  | .numeral, word => some (.ofNumeral word)
  | .symbol token, _ => some (.token token)
  | .gap, _ => none

end Pattern

/-- A character that is no word of any pattern. -/
def IsForeign (c : Char) : Prop :=
  ∀ p : Pattern, ¬ p.Matches [c]

/-- No pattern has a longer word at the start of the text `word ++ rest`. -/
def IsLongest (word rest : List Char) : Prop :=
  ∀ (p : Pattern) (longer behind : List Char),
    word ++ rest = longer ++ behind → p.Matches longer → longer.length ≤ word.length

/-- The rule of the longest match, for a text whose first byte is at `start`. A character that no
pattern has a word for is an entry of its own, and reading goes on behind it. -/
inductive Scan : Nat → List Char → List (Spanned Lexeme) → Prop where
  | done (start : Nat) : Scan start [] []
  | lexeme {p : Pattern} : p.Matches word → IsLongest word rest → p.lexeme? word = some lexeme →
      Scan (start + Text.width word) rest entries →
      Scan start (word ++ rest) (⟨lexeme, start, start + Text.width word⟩ :: entries)
  | gap {p : Pattern} : p.Matches word → IsLongest word rest → p.lexeme? word = none →
      Scan (start + Text.width word) rest entries → Scan start (word ++ rest) entries
  | unexpected : (∀ (p : Pattern) (word behind : List Char), c :: rest = word ++ behind →
        ¬ p.Matches word) → Scan (start + c.utf8Size) rest entries →
      Scan start (c :: rest) (⟨.unexpectedCharacter c, start, start + c.utf8Size⟩ :: entries)

inductive Spelling where
  | numeral (text : List Char)
  | operator (op : Operator)
  | openParen
  | closeParen
  deriving DecidableEq

namespace Spelling

def text : Spelling → List Char
  | .numeral text => text
  | .operator op => [op.symbol]
  | .openParen => ['(']
  | .closeParen => [')']

def isNumeral : Spelling → Bool
  | .numeral _ => true
  | _ => false

/-- A numeral is written with numeric characters, and well formed. -/
def IsValid : Spelling → Prop
  | .numeral text => text.all Numeral.isNumeric ∧ Numeral.isWellFormed text
  | _ => True

instance : (s : Spelling) → Decidable s.IsValid
  | .numeral _ => inferInstanceAs (Decidable (_ ∧ _))
  | .operator _ | .openParen | .closeParen => isTrue trivial

def token : Spelling → Token
  | .numeral text => .number (.nearest (Numeral.toRat text) false)
  | .operator op => .operator op
  | .openParen => .openParen
  | .closeParen => .closeParen

end Spelling

abbrev Spaced := List (List Char × Spelling)

namespace Spaced

def text (row : Spaced) (ending : List Char) : List Char :=
  row.flatMap (fun (gap, spelling) => gap ++ spelling.text) ++ ending

/-- The tokens at the offsets where they are written, the first gap starting at `start`. -/
def tokens (start : Nat) : Spaced → List (Located Token)
  | [] => []
  | (gap, spelling) :: rest =>
    let offset := start + Text.width gap
    ⟨spelling.token, offset⟩ :: tokens (offset + Text.width spelling.text) rest

/-- Gaps are blank, and there is one between adjacent numerals. -/
def IsSeparated : Spaced → Prop
  | [] => True
  | [(gap, _)] => gap.all isBlank
  | (gap, first) :: (between, second) :: rest =>
    gap.all isBlank ∧ (first.isNumeral → second.isNumeral → between ≠ []) ∧
      IsSeparated ((between, second) :: rest)

instance decidableIsSeparated : (row : Spaced) → Decidable row.IsSeparated
  | [] => isTrue trivial
  | [(gap, _)] => inferInstanceAs (Decidable (gap.all isBlank))
  | (_, _) :: (between, second) :: rest =>
    have := decidableIsSeparated ((between, second) :: rest)
    inferInstanceAs (Decidable (_ ∧ _ ∧ _))

end Spaced

end Calculator
