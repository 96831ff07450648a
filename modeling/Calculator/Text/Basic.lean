namespace Calculator

namespace Text

/-- The number of bytes in UTF-8. -/
def width : List Char → Nat
  | [] => 0
  | c :: rest => c.utf8Size + width rest

@[simp] theorem width_append (s t : List Char) : width (s ++ t) = width s + width t := by
  induction s with
  | nil => simp [width]
  | cons c s ih => simp [width, ih, Nat.add_assoc]

theorem width_eq_utf8ByteSize (text : List Char) :
    width text = (String.ofList text).utf8ByteSize := by
  induction text with
  | nil => rfl
  | cons c rest ih =>
    have hs : String.ofList (c :: rest) = String.singleton c ++ String.ofList rest := by
      rw [String.singleton_eq_ofList, ← String.ofList_append, List.singleton_append]
    rw [width, ih, hs, String.utf8ByteSize_append, String.utf8ByteSize_singleton]

theorem isValid_width {text : String} (h : text.toList = before ++ after) :
    (⟨width before⟩ : String.Pos.Raw).IsValid text := by
  rw [String.Pos.Raw.isValid_iff_exists_append]
  refine ⟨.ofList before, .ofList after, ?_, ?_⟩
  · rw [← String.ofList_append, ← h, String.ofList_toList]
  · rw [width_eq_utf8ByteSize]
    rfl

theorem width_lt_utf8ByteSize {text : String} (h : text.toList = before ++ c :: after) :
    width before < text.utf8ByteSize := by
  rw [← String.ofList_toList (s := text), ← width_eq_utf8ByteSize, h, width_append, width]
  have hc := c.utf8Size_pos
  omega

def eqIgnoringCase (s t : List Char) : Bool :=
  s.map Char.toLower == t.map Char.toLower

theorem toLower_cases (c : Char) :
    65 ≤ c.toNat ∧ c.toNat ≤ 90 ∧ c.toLower.toNat = c.toNat + 32 ∨
      ¬ (65 ≤ c.toNat ∧ c.toNat ≤ 90) ∧ c.toLower = c := by
  by_cases h : c.val ≥ 'A'.val ∧ c.val ≤ 'Z'.val
  · have hc : 65 ≤ c.toNat ∧ c.toNat ≤ 90 := h
    have hl : c.toLower = _ := dif_pos h
    have hs : (c.val + 32).toNat = (c.toNat + 32) % 2 ^ 32 := UInt32.toNat_add c.val 32
    refine .inl ⟨hc.1, hc.2, ?_⟩
    rw [hl]
    exact hs.trans (Nat.mod_eq_of_lt (by omega))
  · exact .inr ⟨h, dif_neg h⟩

theorem toUpper_cases (c : Char) :
    97 ≤ c.toNat ∧ c.toNat ≤ 122 ∧ c.toUpper.toNat = c.toNat - 32 ∨ c.toUpper = c := by
  by_cases h : c.val ≥ 'a'.val ∧ c.val ≤ 'z'.val
  · have hc : 97 ≤ c.toNat ∧ c.toNat ≤ 122 := h
    have hu : c.toUpper = _ := dif_pos h
    -- the difference of the two cases wraps around
    have hs : (c.val + 4294967264).toNat = (c.toNat + 4294967264) % 2 ^ 32 :=
      UInt32.toNat_add c.val 4294967264
    refine .inl ⟨hc.1, hc.2, ?_⟩
    rw [hu]
    exact hs.trans (by omega)
  · exact .inr (dif_neg h)

theorem toLower_toLower (c : Char) : c.toLower.toLower = c.toLower := by
  obtain ⟨_, _, h⟩ | ⟨_, h⟩ := toLower_cases c
  · obtain ⟨_, hl, _⟩ | ⟨_, h'⟩ := toLower_cases c.toLower
    · omega
    · exact h'
  · rw [h, h]

theorem toLower_toUpper (c : Char) : c.toUpper.toLower = c.toLower := by
  obtain ⟨_, _, hu⟩ | hu := toUpper_cases c
  · obtain ⟨_, _, hl⟩ | ⟨hn, _⟩ := toLower_cases c.toUpper
    · obtain ⟨_, _, _⟩ | ⟨_, h⟩ := toLower_cases c
      · omega
      · rw [h]
        apply Char.toNat_inj.1
        omega
    · omega
  · rw [hu]

/-- The characters with the Unicode property White_Space. -/
def isWhiteSpace (c : Char) : Bool :=
  let n := c.toNat
  (0x09 ≤ n && n ≤ 0x0d) || n = 0x20 || n = 0x85 || n = 0xa0 || n = 0x1680 ||
    (0x2000 ≤ n && n ≤ 0x200a) || n = 0x2028 || n = 0x2029 || n = 0x202f || n = 0x205f ||
    n = 0x3000

/-- Drops white space at both ends. -/
def trim (text : List Char) : List Char :=
  ((text.dropWhile isWhiteSpace).reverse.dropWhile isWhiteSpace).reverse

theorem mem_of_mem_trim (h : c ∈ trim text) : c ∈ text := by
  rw [trim, List.mem_reverse] at h
  have hr := (List.dropWhile_sublist _).mem h
  rw [List.mem_reverse] at hr
  exact (List.dropWhile_sublist _).mem hr

theorem isWhiteSpace_toLower (c : Char) : isWhiteSpace c.toLower = isWhiteSpace c := by
  obtain ⟨_, _, h⟩ | ⟨_, h⟩ := toLower_cases c
  · rw [Bool.eq_iff_iff]
    simp only [isWhiteSpace, h, Bool.or_eq_true, Bool.and_eq_true, decide_eq_true_eq]
    omega
  · rw [h]

theorem map_toLower_trim (text : List Char) :
    (trim text).map Char.toLower = trim (text.map Char.toLower) := by
  have hw : isWhiteSpace ∘ Char.toLower = isWhiteSpace := funext isWhiteSpace_toLower
  simp only [trim, List.dropWhile_map, ← List.map_reverse, hw]

theorem trim_append (hf : ∀ c ∈ front, isWhiteSpace c) (hb : ∀ c ∈ back, isWhiteSpace c)
    (text : List Char) : trim (front ++ text ++ back) = trim text := by
  have hr : ∀ c ∈ back.reverse, isWhiteSpace c := fun c hc => hb c (List.mem_reverse.1 hc)
  rw [trim, trim, List.append_assoc, List.dropWhile_append_of_pos hf, List.dropWhile_append]
  split
  case isTrue h =>
    have hn : (back ++ []).dropWhile isWhiteSpace = [] := List.dropWhile_append_of_pos hb
    rw [List.append_nil] at hn
    rw [List.isEmpty_iff.1 h, hn]
  case isFalse h =>
    rw [List.reverse_append, List.dropWhile_append_of_pos hr]

end Text

end Calculator
