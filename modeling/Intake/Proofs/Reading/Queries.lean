import Intake.Proofs.Characters
import Intake.Proofs.Reading.Octets

namespace Intake

namespace Form

theorem hexDigitValue?_upperHex : ∀ n < 16, hexDigitValue? (upperHex n) = some n := by decide

theorem percentOctets_percent (b : UInt8) (rest : List Char) :
    percentOctets (percent b ++ rest) = b :: percentOctets rest := by
  have hb : b.toNat < 256 := b.toNat_lt
  have hhigh := hexDigitValue?_upperHex (b.toNat / 16) (by omega)
  have hlow := hexDigitValue?_upperHex (b.toNat % 16) (by omega)
  have hoctet : hexOctet? (upperHex (b.toNat / 16) :: upperHex (b.toNat % 16) :: rest) = some b := by
    have hsum : 16 * (b.toNat / 16) + b.toNat % 16 = b.toNat := Nat.div_add_mod _ _
    rw [hexOctet?, hhigh, hlow]
    change some (16 * (b.toNat / 16) + b.toNat % 16).toUInt8 = some b
    rw [hsum]
    exact congrArg some UInt8.ofNat_toNat
  rw [percent, List.cons_append, percentOctets, if_pos rfl, List.cons_append, List.cons_append,
    List.nil_append, hoctet]
  rfl

theorem percentOctets_of_ne {c : Char} (h : c ≠ '%') (rest : List Char) :
    percentOctets (c :: rest) = c.toNat.toUInt8 :: percentOctets rest := by
  rw [percentOctets, if_neg h]

/-- Characters that can be seen and do not separate the parts of a query. -/
structure IsInner (c : Char) : Prop where
  low : 33 ≤ c.toNat
  high : c.toNat ≤ 126
  not_ampersand : c ≠ '&'
  not_equals : c ≠ '='

theorem ne_of_toNat_ne {c d : Char} (h : c.toNat ≠ d.toNat) : c ≠ d := by
  rintro rfl
  exact h rfl

theorem isInner_upperHex : ∀ n < 16, IsInner (upperHex n) ∧ upperHex n ≠ '+' := by
  have h : ∀ n < 16, (33 ≤ (upperHex n).toNat ∧ (upperHex n).toNat ≤ 126 ∧ upperHex n ≠ '&' ∧
      upperHex n ≠ '=') ∧ upperHex n ≠ '+' := by decide
  intro n hn
  obtain ⟨⟨hlow, hhigh, hand, heq⟩, hplus⟩ := h n hn
  exact ⟨⟨hlow, hhigh, hand, heq⟩, hplus⟩

theorem isInner_of_mem_percent {b : UInt8} {c : Char} (h : c ∈ percent b) : IsInner c ∧ c ≠ '+' := by
  have hb : b.toNat < 256 := b.toNat_lt
  simp only [percent, List.mem_cons, List.not_mem_nil, or_false] at h
  rcases h with rfl | rfl | rfl
  · exact ⟨⟨by decide, by decide, by decide, by decide⟩, by decide⟩
  · exact isInner_upperHex _ (by omega)
  · exact isInner_upperHex _ (by omega)

theorem isInner_of_isSafe {c : Char} (h : isSafe c = true) : IsInner c ∧ c ≠ '+' ∧ c ≠ '%' := by
  have hrange : (48 ≤ c.toNat ∧ c.toNat ≤ 57) ∨ (65 ≤ c.toNat ∧ c.toNat ≤ 90) ∨
      (97 ≤ c.toNat ∧ c.toNat ≤ 122) ∨ c.toNat = 95 ∨ c.toNat = 46 ∨ c.toNat = 45 ∨
      c.toNat = 126 := by
    simp only [isSafe, Char.isAlphanum, Char.isAlpha, Char.isUpper, Char.isLower, Char.isDigit,
      Bool.or_eq_true, Bool.and_eq_true, decide_eq_true_eq, ge_iff_le, UInt32.le_iff_toNat_le,
      Char.reduceVal, UInt32.reduceToNat] at h
    have hval : c.toNat = c.val.toNat := rfl
    rcases h with (((h | rfl) | rfl) | rfl) | rfl
    · omega
    all_goals simp
  refine ⟨⟨by omega, by omega, ?_, ?_⟩, ?_, ?_⟩
  all_goals exact ne_of_toNat_ne (by simp; omega)

/-- A text in which plus signs stand for blanks. -/
def spaced (s : List Char) : List Char := s.map fun c => if c = '+' then ' ' else c

theorem spaced_of_ne {s : List Char} (h : ∀ c ∈ s, c ≠ '+') : spaced s = s := by
  rw [spaced, List.map_congr_left fun c hc => if_neg (h c hc), List.map_id']

theorem isInner_of_mem_escapeChar {c d : Char} (h : d ∈ escapeChar c) : IsInner d := by
  unfold escapeChar at h
  split_ifs at h with hsafe hblank
  · rw [List.mem_singleton.mp h]
    exact (isInner_of_isSafe hsafe).1
  · rw [List.mem_singleton.mp h]
    exact ⟨by decide, by decide, by decide, by decide⟩
  · obtain ⟨b, -, hd⟩ := List.mem_flatMap.mp h
    exact (isInner_of_mem_percent hd).1

theorem isInner_of_mem_escape {s : List Char} {d : Char} (h : d ∈ escape s) : IsInner d := by
  obtain ⟨c, -, hd⟩ := List.mem_flatMap.mp h
  exact isInner_of_mem_escapeChar hd

theorem percentOctets_percents (bs : List UInt8) (rest : List Char) :
    percentOctets (bs.flatMap percent ++ rest) = bs ++ percentOctets rest := by
  induction bs with
  | nil => rfl
  | cons b bs ih =>
    rw [List.flatMap_cons, List.append_assoc, percentOctets_percent, ih, List.cons_append]

/-- An escaped character stands for its octets. -/
theorem percentOctets_spaced_escapeChar (c : Char) (rest : List Char) :
    percentOctets (spaced (escapeChar c) ++ rest) = String.utf8EncodeChar c ++ percentOctets rest := by
  unfold escapeChar
  split_ifs with hsafe hblank
  · obtain ⟨hinner, hplus, hpercent⟩ := isInner_of_isSafe hsafe
    have hascii : c.toNat < 128 := Nat.lt_of_le_of_lt hinner.high (by decide)
    rw [spaced, List.map_singleton, if_neg hplus, List.singleton_append, percentOctets_of_ne hpercent,
      Text.utf8EncodeChar_of_lt hascii]
    rfl
  · subst hblank
    rw [spaced, List.map_singleton, if_pos rfl, List.singleton_append, percentOctets_of_ne (by decide)]
    rfl
  · have hplus : ∀ d ∈ c.toString.toUTF8.toList.flatMap percent, d ≠ '+' := by
      intro d hd
      obtain ⟨b, -, hd⟩ := List.mem_flatMap.mp hd
      exact (isInner_of_mem_percent hd).2
    rw [spaced_of_ne hplus, percentOctets_percents, Text.toUTF8_toString]

theorem percentOctets_spaced_escape (s : List Char) :
    percentOctets (spaced (escape s)) = s.flatMap String.utf8EncodeChar := by
  induction s with
  | nil => rw [escape, List.flatMap_nil, spaced, List.map_nil, percentOctets, List.flatMap_nil]
  | cons c s ih =>
    have hcons : spaced (escape (c :: s)) = spaced (escapeChar c) ++ spaced (escape s) := by
      rw [escape, List.flatMap_cons, spaced, List.map_append]
      rfl
    rw [hcons, percentOctets_spaced_escapeChar, ih, List.flatMap_cons]

theorem unescape_of_isAscii {s : List Char} (h : ∀ c ∈ s, isAscii c = true) :
    unescape s = Text.utf8Replacing (percentOctets s) := by
  cases s with
  | nil => rw [unescape, percentOctets, Text.utf8Replacing]
  | cons c s =>
    have hrest : ∀ d ∈ s, isAscii d = true := fun d hd => h d (List.mem_cons_of_mem _ hd)
    have htake : s.takeWhile isAscii = s := List.takeWhile_eq_self_iff.mpr hrest
    have hdrop : s.dropWhile isAscii = [] := List.dropWhile_eq_nil_iff.mpr hrest
    rw [unescape, if_pos (h c List.mem_cons_self), htake, hdrop, unescape, List.append_nil]

/-- Escapes are undone by reading them. -/
theorem unescapeField_escape (s : String) : unescapeField (escape s.toList) = s := by
  have hascii : ∀ c ∈ spaced (escape s.toList), isAscii c = true := by
    intro c hc
    obtain ⟨d, hd, rfl⟩ := List.mem_map.mp hc
    have hd := (isInner_of_mem_escape hd).high
    split_ifs
    · rfl
    · exact decide_eq_true (Nat.lt_of_le_of_lt hd (by decide))
  have hread := unescape_of_isAscii hascii
  rw [percentOctets_spaced_escape, Text.utf8Replacing_utf8Encode] at hread
  rw [unescapeField]
  exact (congrArg String.ofList hread).trans String.ofList_toList

def fieldText (p : String × String) : List Char := escape p.1.toList ++ '=' :: escape p.2.toList

variable {pairs : List (String × String)}

/-- Half of a surrogate pair is all that keeps pairs from being written. -/
theorem writeQuery_eq_ok_iff {text : String} :
    writeQuery pairs = .ok text ↔
      (∀ p ∈ pairs, Text.hasSurrogate p.1.toList = false ∧ Text.hasSurrogate p.2.toList = false) ∧
        text = String.ofList (List.intercalate ['&'] (pairs.map fieldText)) := by
  have hany : pairs.any (fun p => Text.hasSurrogate p.1.toList || Text.hasSurrogate p.2.toList) = false ↔
      ∀ p ∈ pairs, Text.hasSurrogate p.1.toList = false ∧ Text.hasSurrogate p.2.toList = false := by
    simp only [List.any_eq_false, Bool.not_eq_true, Bool.or_eq_false_iff]
  rw [← hany, writeQuery]
  split_ifs with h
  · simp [h]
  · rw [Bool.not_eq_true] at h
    simp only [h, true_and, Except.ok.injEq, eq_comm]
    rfl

theorem not_isBlank_of_mem_fieldText {p : String × String} {c : Char} (h : c ∈ fieldText p) :
    Text.isBlank c = false ∧ c ≠ '&' := by
  have hinner (hc : IsInner c) : Text.isBlank c = false ∧ c ≠ '&' :=
    ⟨Text.not_isBlank_of_visible hc.low hc.high, hc.not_ampersand⟩
  rcases List.mem_append.mp h with h | h
  · exact hinner (isInner_of_mem_escape h)
  · rcases List.mem_cons.mp h with rfl | h
    · exact ⟨by decide, by decide⟩
    · exact hinner (isInner_of_mem_escape h)

theorem not_isBlank_of_mem_intercalate {c : Char} {parts : List (List Char)}
    (hparts : ∀ part ∈ parts, ∀ c ∈ part, Text.isBlank c = false)
    (h : c ∈ List.intercalate ['&'] parts) : Text.isBlank c = false := by
  induction parts with
  | nil => exact absurd h List.not_mem_nil
  | cons part parts ih =>
    have hrest := fun p hp => hparts p (List.mem_cons_of_mem _ hp)
    by_cases hnil : parts = []
    · subst hnil
      rw [List.intercalate_singleton] at h
      exact hparts part List.mem_cons_self c h
    · rw [List.intercalate_cons_of_ne_nil hnil, List.append_assoc, List.mem_append,
        List.singleton_append, List.mem_cons] at h
      rcases h with h | rfl | h
      · exact hparts part List.mem_cons_self c h
      · rfl
      · exact ih hrest h

/-- Reading a query is the inverse of writing it. -/
theorem readQuery_intercalate (pairs : List (String × String)) :
    readQuery (Text.trim (List.intercalate ['&'] (pairs.map fieldText))) = pairs := by
  have htrim : Text.trim (List.intercalate ['&'] (pairs.map fieldText)) =
      List.intercalate ['&'] (pairs.map fieldText) := by
    refine Text.trim_of_not_isBlank fun c hc => not_isBlank_of_mem_intercalate ?_ hc
    intro part hpart d hd
    obtain ⟨p, -, rfl⟩ := List.mem_map.mp hpart
    exact (not_isBlank_of_mem_fieldText hd).1
  by_cases hnil : pairs = []
  · subst hnil
    rfl
  have hparts : ∀ part ∈ pairs.map fieldText, '&' ∉ part := by
    intro part hpart hmem
    obtain ⟨p, -, rfl⟩ := List.mem_map.mp hpart
    exact (not_isBlank_of_mem_fieldText hmem).2 rfl
  have hkeep : (pairs.map fieldText).filter (!·.isEmpty) = pairs.map fieldText := by
    rw [List.filter_eq_self]
    intro part hpart
    obtain ⟨p, -, rfl⟩ := List.mem_map.mp hpart
    simp [fieldText]
  have hequals (s : List Char) : '=' ∉ escape s := fun h => (isInner_of_mem_escape h).not_equals rfl
  rw [htrim, readQuery, Text.splitOn_intercalate (by simpa using hnil) hparts, hkeep, List.map_map]
  conv_rhs => rw [← List.map_id pairs]
  refine List.map_congr_left fun p _ => ?_
  simp only [Function.comp, fieldText, Text.splitFirst_append (hequals _), unescapeField_escape]
  rfl

end Form

end Intake
