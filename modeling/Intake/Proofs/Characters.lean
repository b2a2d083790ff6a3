import Mathlib
import Intake.Form.Query

namespace Intake.Text

theorem not_isBlank_of_visible {c : Char} (h : 33 ≤ c.toNat) (h' : c.toNat ≤ 126) :
    isBlank c = false := by
  rw [isBlank, blankRanges, inRanges, if_neg (by omega), if_neg (by omega), inRanges,
    if_neg (by omega), if_neg (by omega), inRanges, if_pos (by omega)]

/-- A text that neither starts nor ends with a blank is left as it is. -/
theorem trim_of_ends {s : List Char} (hhead : ∀ c ∈ s.head?, isBlank c = false)
    (hlast : ∀ c ∈ s.getLast?, isBlank c = false) : trim s = s := by
  have hkeep (t : List Char) (ht : ∀ c ∈ t.head?, isBlank c = false) : t.dropWhile isBlank = t := by
    cases t with
    | nil => rfl
    | cons c t => exact List.dropWhile_cons_of_neg (by simp [ht c rfl])
  rw [trim, trimStart, hkeep s hhead, trimEnd, hkeep s.reverse (List.head?_reverse ▸ hlast),
    List.reverse_reverse]

theorem trim_of_not_isBlank {s : List Char} (h : ∀ c ∈ s, isBlank c = false) : trim s = s :=
  trim_of_ends (fun c hc => h c (List.mem_of_mem_head? hc)) fun c hc => h c (List.mem_of_getLast? hc)

theorem trim_ne_nil {s : List Char} {c : Char} (hstart : (trimStart s).head? = some c)
    (h : isBlank c = false) : trim s ≠ [] := by
  obtain ⟨t, ht⟩ := List.head?_eq_some_iff.mp hstart
  rw [trim, ht, trimEnd, ne_eq, List.reverse_eq_nil_iff, List.dropWhile_eq_nil_iff]
  intro hall
  have hblank := hall c (by simp)
  exact Bool.noConfusion (hblank.symm.trans h)

theorem toNat_of_isDigit {c : Char} (h : c.isDigit = true) : 48 ≤ c.toNat ∧ c.toNat ≤ 57 := by
  simp only [Char.isDigit, ge_iff_le, Bool.and_eq_true, decide_eq_true_eq, UInt32.le_iff_toNat_le,
    Char.reduceVal, UInt32.reduceToNat] at h
  exact h

theorem not_isBlank_of_isDigit {c : Char} (h : c.isDigit = true) : isBlank c = false := by
  have hc := toNat_of_isDigit h
  exact not_isBlank_of_visible (by omega) (by omega)

theorem digitValue?_of_isDigit {c : Char} (h : c.isDigit = true) :
    digitValue? c = some (c.toNat - 48) := by
  have hc := toNat_of_isDigit h
  rw [digitValue?, if_pos (by omega), if_pos hc]

theorem isDigit_of_isDigit {c : Char} (h : c.isDigit = true) : isDigit c = true := by
  rw [isDigit, digitValue?_of_isDigit h]
  rfl

theorem isDigit_of_mem_toDigits {n : Nat} {c : Char} (h : c ∈ Nat.toDigits 10 n) :
    c.isDigit = true :=
  Nat.isDigit_of_mem_toDigits (by decide) (by decide) h

theorem digitsValue_eq_ofDigitChars {ds : List Char} (h : ∀ c ∈ ds, c.isDigit = true) :
    digitsValue ds = Nat.ofDigitChars 10 ds 0 := by
  rw [digitsValue, Nat.ofDigitChars_eq_foldl]
  refine List.foldl_ext _ _ _ fun n c hc => ?_
  rw [digitValue?_of_isDigit (h c hc)]
  rfl

theorem digitsValue_toDigits (n : Nat) : digitsValue (Nat.toDigits 10 n) = n := by
  rw [digitsValue_eq_ofDigitChars fun c hc => isDigit_of_mem_toDigits hc]
  exact Nat.ofDigitChars_toDigits (by decide) (by decide)

/-- Decimal digits start with a zero only when there is no other digit. -/
theorem toDigits_of_pos {n : Nat} (h : 0 < n) :
    ∃ c ds, Nat.toDigits 10 n = c :: ds ∧ c ≠ '0' := by
  induction n using Nat.strongRecOn with
  | ind n ih =>
    by_cases hlt : n < 10
    · refine ⟨n.digitChar, [], Nat.toDigits_of_lt_base hlt, ?_⟩
      have hdigit : ∀ m < 10, 0 < m → m.digitChar ≠ '0' := by decide
      exact hdigit n hlt h
    · obtain ⟨c, ds, hds, hc⟩ := ih (n / 10) (by omega) (by omega)
      rw [Nat.toDigits_of_base_le (by decide) (Nat.le_of_not_lt hlt), hds]
      exact ⟨c, ds ++ [(n % 10).digitChar], rfl, hc⟩

theorem toLower_of_lt {c : Char} (h : c.toNat < 65) : c.toLower = c := by
  have hval : c.val.toNat < 65 := h
  rw [Char.toLower, dif_neg]
  rintro ⟨hlow, -⟩
  have hlow : 65 ≤ c.val.toNat := UInt32.le_iff_toNat_le.mp hlow
  omega

theorem lowerAfter_of_isAscii {before s : List Char} (h : ∀ c ∈ s, c.toNat < 128) :
    lowerAfter before s = s.map Char.toLower := by
  induction s generalizing before with
  | nil => rfl
  | cons c s ih =>
    have hc := h c List.mem_cons_self
    have hsigma : c.toNat ≠ 931 := by omega
    rw [lowerAfter, if_neg hsigma, lowerChar, if_pos hc, ih fun d hd => h d (List.mem_cons_of_mem _ hd)]
    rfl

theorem lower_of_isAscii {s : List Char} (h : ∀ c ∈ s, c.toNat < 128) :
    lower s = s.map Char.toLower := lowerAfter_of_isAscii h

/-- A character that has no other lower case stays where it is. -/
theorem mem_lowerAfter_of_toLower {c : Char} {before s : List Char} (hc : c.toNat < 128)
    (hlower : c.toLower = c) (h : c ∈ s) : c ∈ lowerAfter before s := by
  induction s generalizing before with
  | nil => cases h
  | cons d s ih =>
    rw [lowerAfter, List.mem_append]
    rcases List.mem_cons.mp h with rfl | h
    · have hsigma : c.toNat ≠ 931 := by omega
      rw [if_neg hsigma, lowerChar, if_pos hc, hlower]
      exact .inl List.mem_cons_self
    · exact .inr (ih h)

variable {c separator : Char} {s t : List Char}

theorem splitOn_cons_of_ne (h : c ≠ separator) (s : List Char) :
    ∃ part more, splitOn separator s = part :: more ∧
      splitOn separator (c :: s) = (c :: part) :: more := by
  rw [splitOn.eq_2, if_neg h]
  cases hs : splitOn separator s with
  | nil =>
    -- There is always a first part.
    cases s with
    | nil => cases hs
    | cons d s =>
      rw [splitOn] at hs
      split_ifs at hs
      split at hs <;> cases hs
  | cons part more => exact ⟨part, more, rfl, rfl⟩

theorem splitOn_of_not_mem (h : separator ∉ s) : splitOn separator s = [s] := by
  induction s with
  | nil => rfl
  | cons c s ih =>
    rw [List.mem_cons, not_or] at h
    rw [splitOn, if_neg (Ne.symm h.1), ih h.2]

theorem splitOn_append (h : separator ∉ s) :
    splitOn separator (s ++ separator :: t) = s :: splitOn separator t := by
  induction s with
  | nil => rw [List.nil_append, splitOn, if_pos rfl]
  | cons c s ih =>
    rw [List.mem_cons, not_or] at h
    rw [List.cons_append, splitOn, if_neg (Ne.symm h.1), ih h.2]

/-- Parts without separators are found again between them. -/
theorem splitOn_intercalate {parts : List (List Char)} (hne : parts ≠ [])
    (h : ∀ part ∈ parts, separator ∉ part) :
    splitOn separator (List.intercalate [separator] parts) = parts := by
  induction parts with
  | nil => exact absurd rfl hne
  | cons part parts ih =>
    have hpart := h part List.mem_cons_self
    by_cases hnil : parts = []
    · subst hnil
      rw [List.intercalate_singleton, splitOn_of_not_mem hpart]
    · have hrest : ∀ part ∈ parts, separator ∉ part := fun p hp => h p (List.mem_cons_of_mem _ hp)
      rw [List.intercalate_cons_of_ne_nil hnil, List.append_assoc, List.singleton_append,
        splitOn_append hpart, ih hnil hrest]

theorem splitFirst_append (h : separator ∉ s) :
    splitFirst separator (s ++ separator :: t) = (s, t) := by
  have hs : ∀ c ∈ s, decide (c ≠ separator) = true := by
    intro c hc
    rw [decide_eq_true_eq]
    rintro rfl
    exact h hc
  rw [splitFirst, List.takeWhile_append_of_pos hs, List.dropWhile_append_of_pos hs]
  simp

end Intake.Text
