import Calculator.Session
import Mathlib.Data.List.Basic

namespace Calculator

/-- What ends a line: LF, CR LF, or the end of the input. -/
inductive LineEnd where
  | lf
  | crlf
  | missing
  deriving DecidableEq

def LineEnd.bytes : LineEnd → List UInt8
  | .lf => [10]
  | .crlf => [13, 10]
  | .missing => []

namespace Input

theorem lines_singleton {b : UInt8} (hb : b ≠ 10) : lines [b] = [[b]] := by
  rw [lines]
  · rfl
  · rintro after - ⟨⟩
  · exact hb

theorem lines_cons {b : UInt8} {rest : List UInt8} (hb : b ≠ 10)
    (hr : b = 13 → rest.head? ≠ some 10) (h : lines rest = first :: later) :
    lines (b :: rest) = (b :: first) :: later := by
  rw [lines]
  · rw [h]
  · rintro after rfl rfl
    exact hr rfl rfl
  · exact hb

/-- Bytes that make up a line before such an end. A CR before an LF belongs to the end. -/
structure IsLine (bytes : List UInt8) (ending : LineEnd) : Prop where
  noFeed : 10 ∉ bytes
  noReturn : ending = .lf → bytes.getLast? ≠ some 13
  nonempty : ending = .missing → bytes ≠ []

theorem IsLine.tail (h : IsLine (b :: c :: bytes) ending) : IsLine (c :: bytes) ending where
  noFeed := fun hm => h.noFeed (List.mem_cons_of_mem b hm)
  noReturn := fun he => by
    have hl := h.noReturn he
    rwa [List.getLast?_cons_cons] at hl
  nonempty := fun _ => List.cons_ne_nil c bytes

theorem lines_append (h : IsLine bytes ending) (hr : ending = .missing → rest = []) :
    lines (bytes ++ ending.bytes ++ rest) = bytes :: lines rest := by
  induction bytes with
  | nil =>
    cases ending with
    | lf => rfl
    | crlf => rfl
    | missing => exact absurd rfl (h.nonempty rfl)
  | cons b bytes ih =>
    have hb : b ≠ 10 := fun he => h.noFeed (he ▸ List.mem_cons_self)
    obtain _ | ⟨c, bytes⟩ := bytes
    · cases ending with
      | lf => exact lines_cons hb (fun he => absurd (congrArg some he) (h.noReturn rfl)) rfl
      | crlf => exact lines_cons hb (fun _ => of_decide_eq_true rfl) rfl
      | missing =>
        rw [hr rfl]
        exact lines_singleton hb
    · refine lines_cons hb (fun _ hc => ?_) (ih h.tail)
      obtain rfl : c = 10 := Option.some.inj hc
      exact h.noFeed (List.mem_cons_of_mem b List.mem_cons_self)

/-- The bytes of a text in UTF-8. -/
def encoded (text : String) : List UInt8 :=
  text.toUTF8.data.toList

theorem ofLine_encoded (text : String) : ofLine (encoded text) = .line text := by
  have h : String.fromUTF8? ⟨(encoded text).toArray⟩ = some text := by
    rw [String.fromUTF8?]
    exact dif_pos text.isValidUTF8
  rw [ofLine, h]

theorem encoded_inj : encoded text = encoded text' ↔ text = text' := by
  refine ⟨fun h => ?_, congrArg encoded⟩
  have hl := congrArg ofLine h
  rw [ofLine_encoded, ofLine_encoded] at hl
  exact Input.line.inj hl

theorem encoded_eq_flatMap (text : String) :
    encoded text = text.toList.flatMap String.utf8EncodeChar := by
  have h : text.toList.utf8Encode = text.toByteArray := String.utf8Encode_toList
  rw [encoded, String.toUTF8, ← h, List.utf8Encode, List.toList_data_toByteArray]

/-- The code of an ASCII character is no part of the code of another one. -/
theorem eq_of_mem_utf8EncodeChar {a c : Char} (ha : a.toNat < 128)
    (h : UInt8.ofNat a.toNat ∈ String.utf8EncodeChar c) : c = a := by
  have hsame {n : Nat} (hn : n < 256) (he : UInt8.ofNat a.toNat = UInt8.ofNat n) : a.toNat = n := by
    have ht := congrArg UInt8.toNat he
    rwa [UInt8.toNat_ofNat', UInt8.toNat_ofNat', Nat.mod_eq_of_lt (by omega),
      Nat.mod_eq_of_lt hn] at ht
  rw [String.utf8EncodeChar.eq_1] at h
  split at h
  · exact Char.toNat_inj.1 (hsame (by omega) (List.mem_singleton.1 h)).symm
  -- every byte of a longer code is 128 at least
  · simp only [apply_ite (UInt8.ofNat a.toNat ∈ ·), List.mem_cons, List.not_mem_nil, or_false] at h
    grind

theorem mem_of_mem_encoded {text : String} {a : Char} (ha : a.toNat < 128)
    (h : UInt8.ofNat a.toNat ∈ encoded text) : a ∈ text.toList := by
  rw [encoded_eq_flatMap, List.mem_flatMap] at h
  obtain ⟨c, hc, h⟩ := h
  exact eq_of_mem_utf8EncodeChar ha h ▸ hc

theorem getLast?_of_encoded {text : String} {a : Char} (ha : a.toNat < 128)
    (h : (encoded text).getLast? = some (UInt8.ofNat a.toNat)) :
    text.toList.getLast? = some a := by
  rw [encoded_eq_flatMap] at h
  obtain ht | ⟨front, c, ht⟩ := List.eq_nil_or_concat' text.toList
  · rw [ht] at h
    cases h
  · rw [ht, List.flatMap_append, List.flatMap_singleton, List.getLast?_append_of_ne_nil] at h
    · rw [ht, List.getLast?_concat, eq_of_mem_utf8EncodeChar ha (List.mem_of_getLast? h)]
    · exact String.utf8EncodeChar_ne_nil

theorem ofBytes_append (h : IsLine bytes ending) (hr : ending = .missing → rest = []) :
    ofBytes (bytes ++ ending.bytes ++ rest) = ofLine bytes :: ofBytes rest := by
  rw [ofBytes, lines_append h hr, List.map_cons, ofBytes]

structure Row where
  text : String
  ending : LineEnd
  noFeed : '\n' ∉ text.toList
  noReturn : ending = .lf → text.toList.getLast? ≠ some '\r'
  nonempty : ending = .missing → text ≠ ""

namespace Row

def bytes (row : Row) : List UInt8 :=
  encoded row.text ++ row.ending.bytes

theorem isLine (row : Row) : IsLine (encoded row.text) row.ending where
  noFeed := fun h => row.noFeed (mem_of_mem_encoded (by decide) h)
  noReturn := fun he h => row.noReturn he (getLast?_of_encoded (by decide) h)
  nonempty := fun he h => row.nonempty he (encoded_inj.1 h)

theorem ofBytes_append (row : Row) (hr : row.ending = .missing → rest = []) :
    ofBytes (row.bytes ++ rest) = .line row.text :: ofBytes rest := by
  rw [bytes, Input.ofBytes_append row.isLine hr, ofLine_encoded]

@[simp] theorem ofBytes_bytes (row : Row) : ofBytes row.bytes = [.line row.text] := by
  have h : ofBytes (row.bytes ++ []) = _ := row.ofBytes_append fun _ => rfl
  rwa [List.append_nil] at h

end Row

theorem ofBytes_rows_append {rows : List Row} (h : ∀ row ∈ rows, row.ending ≠ .missing)
    (rest : List UInt8) :
    ofBytes (rows.flatMap Row.bytes ++ rest) =
      (rows.map Row.text).map .line ++ ofBytes rest := by
  induction rows with
  | nil => rfl
  | cons row rows ih =>
    have hrow := h row List.mem_cons_self
    rw [List.flatMap_cons, List.append_assoc, row.ofBytes_append fun he => absurd he hrow,
      ih fun r hr => h r (List.mem_cons_of_mem row hr)]
    rfl

theorem ofBytes_rows {rows : List Row} (h : ∀ row ∈ rows.dropLast, row.ending ≠ .missing) :
    ofBytes (rows.flatMap Row.bytes) = (rows.map Row.text).map .line := by
  obtain rfl | ⟨front, last, rfl⟩ := List.eq_nil_or_concat' rows
  · rfl
  · rw [List.dropLast_concat] at h
    rw [List.flatMap_append, List.flatMap_singleton, ofBytes_rows_append h, Row.ofBytes_bytes,
      List.map_append, List.map_append]
    rfl

end Input

end Calculator
