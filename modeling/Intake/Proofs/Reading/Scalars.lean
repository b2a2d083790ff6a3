import Intake.Form.Nested
import Intake.Proofs.Characters

namespace Intake

namespace Value

variable {n : Int} {c : Char}

theorem mem_natText {n : Nat} (h : c ∈ natText n) : c.isDigit = true := Text.isDigit_of_mem_toDigits h

theorem mem_intText (h : c ∈ intText n) : c.isDigit = true ∨ c = '-' := by
  unfold intText at h
  split_ifs at h
  · rcases List.mem_cons.mp h with h | h
    · exact .inr h
    · exact .inl (mem_natText h)
  · exact .inl (mem_natText h)

theorem toNat_of_mem_intText (h : c ∈ intText n) : 45 ≤ c.toNat ∧ c.toNat ≤ 57 := by
  rcases mem_intText h with h | rfl
  · have hc := Text.toNat_of_isDigit h
    omega
  · decide

/-- Digits, the first of them a zero only when it is the only one. -/
theorem natText_cases (n : Nat) :
    natText n = ['0'] ∨ ∃ c ds, natText n = c :: ds ∧ '1' ≤ c ∧ c ≤ '9' ∧ ∀ d ∈ ds, d.isDigit = true := by
  by_cases hn : n = 0
  · subst hn
    exact .inl rfl
  · obtain ⟨c, ds, hds, hc⟩ := Text.toDigits_of_pos (Nat.pos_of_ne_zero hn)
    have hdigit (d : Char) (hd : d ∈ c :: ds) : d.isDigit = true := by
      rw [← hds] at hd
      exact Text.isDigit_of_mem_toDigits hd
    have hrange := Text.toNat_of_isDigit (hdigit c List.mem_cons_self)
    have hne : c.toNat ≠ 48 := fun h => hc (Char.toNat_inj.mp h)
    refine .inr ⟨c, ds, hds, ?_, ?_, fun d hd => hdigit d (List.mem_cons_of_mem _ hd)⟩
    · rw [Char.le_def, UInt32.le_iff_toNat_le]
      change 49 ≤ c.toNat
      omega
    · rw [Char.le_def, UInt32.le_iff_toNat_le]
      change c.toNat ≤ 57
      omega

/-- The text of an integer is that of its size, after a minus sign if it is negative. -/
theorem intText_cases (n : Int) :
    n < 0 ∧ intText n = '-' :: natText n.natAbs ∨
      ¬n < 0 ∧ ∃ c ds, intText n = c :: ds ∧ natText n.natAbs = c :: ds ∧ c ≠ '-' ∧ c ≠ '+' := by
  by_cases hn : n < 0
  · exact .inl ⟨hn, if_pos hn⟩
  · have hne : natText n.natAbs ≠ [] := Nat.toDigits_ne_nil
    obtain ⟨c, ds, hds⟩ := List.exists_cons_of_ne_nil hne
    have hmem : c ∈ natText n.natAbs := hds ▸ List.mem_cons_self
    have hc := Text.toNat_of_isDigit (mem_natText hmem)
    refine .inr ⟨hn, c, ds, (if_neg hn).trans hds, hds, ?_, ?_⟩
    · rintro rfl
      exact absurd hc (by decide)
    · rintro rfl
      exact absurd hc (by decide)

theorem splitSign_intText (n : Int) :
    Coercion.splitSign (intText n) = (decide (n < 0), natText n.natAbs) := by
  rcases intText_cases n with ⟨hn, h⟩ | ⟨hn, c, ds, h, hds, hminus, hplus⟩
  · rw [h, decide_eq_true hn]
    rfl
  · rw [h, hds, decide_eq_false hn, Coercion.splitSign.eq_3 _ (by simp [hplus]) (by simp [hminus])]

/-- The text of an integer is read as that integer. -/
theorem readInt?_intText (n : Int) : Coercion.readInt? (intText n) = some n := by
  have hne : natText n.natAbs ≠ [] := Nat.toDigits_ne_nil
  have hall : (natText n.natAbs).all Text.isDigit = true :=
    List.all_eq_true.mpr fun c hc => Text.isDigit_of_isDigit (mem_natText hc)
  have hguard : ¬((natText n.natAbs).isEmpty || !(natText n.natAbs).all Text.isDigit) = true := by
    simp [hne, hall]
  have hvalue : Text.digitsValue (natText n.natAbs) = n.natAbs := Text.digitsValue_toDigits _
  rw [Coercion.readInt?, splitSign_intText]
  dsimp only
  rw [if_neg hguard, hvalue]
  congr 1
  split_ifs with hn
  · have hneg : n < 0 := by simpa using hn
    omega
  · have hpos : ¬n < 0 := by simpa using hn
    omega

theorem lower_intText (n : Int) : Text.lower (intText n) = intText n := by
  have hrange (c : Char) (hc : c ∈ intText n) : c.toNat ≤ 57 := (toNat_of_mem_intText hc).2
  rw [Text.lower_of_isAscii fun c hc => Nat.lt_of_le_of_lt (hrange c hc) (by decide)]
  refine (List.map_congr_left fun c hc => ?_).trans (List.map_id _)
  exact Text.toLower_of_lt (Nat.lt_of_le_of_lt (hrange c hc) (by decide))

end Value

namespace Form

open Value

theorem withoutFinalBreak_intText (n : Int) : NamedFormat.withoutFinalBreak (intText n) = intText n := by
  refine if_neg fun h => ?_
  have hbreak := toNat_of_mem_intText (List.mem_of_getLast? h)
  exact absurd hbreak (by decide)

theorem withoutMinus_intText (n : Int) : withoutMinus (intText n) = natText n.natAbs := by
  rcases intText_cases n with ⟨-, h⟩ | ⟨-, c, ds, h, hds, hminus, -⟩
  · rw [h]
    rfl
  · rw [h, hds, withoutMinus.eq_2 _ (by simp [hminus])]

theorem splitWhole_natText (n : Nat) : splitWhole (natText n) = (natText n, []) := by
  rcases natText_cases n with h | ⟨c, ds, h, hlow, hhigh, hds⟩
  · rw [h]
    rfl
  · have hne : c ≠ '0' := by
      rintro rfl
      exact absurd hlow (by decide)
    have hdigits : ∀ d ∈ ds, Text.isDigit d = true := fun d hd => Text.isDigit_of_isDigit (hds d hd)
    have hrange : ('1' ≤ c && c ≤ '9') = true := by simp [hlow, hhigh]
    rw [h, splitWhole, if_neg hne, if_pos hrange, List.takeWhile_eq_self_iff.mpr hdigits,
      List.dropWhile_eq_nil_iff.mpr hdigits]

theorem isIntegerText_intText (n : Int) : isIntegerText (intText n) = true := by
  have hne : natText n.natAbs ≠ [] := Nat.toDigits_ne_nil
  rw [isIntegerText, withoutFinalBreak_intText, withoutMinus_intText, splitWhole_natText]
  simpa using hne

theorem integerOf_intText {n : Int} (h : (natText n.natAbs).length ≤ maxDigits) :
    integerOf (intText n) = .int n := by
  rw [integerOf, withoutFinalBreak_intText, withoutMinus_intText, if_neg (Nat.not_lt.mpr h),
    readInt?_intText]
  rfl

/-- The text of an integer stands for it, unless it has too many digits. -/
theorem retype_intText {n : Int} (h : (natText n.natAbs).length ≤ maxDigits) :
    retype (String.ofList (intText n)) = .ok (.int n) := by
  have hword (w : String) (c : Char) (hw : c ∈ w.toList) (hc : ¬(45 ≤ c.toNat ∧ c.toNat ≤ 57)) :
      String.ofList (intText n) ≠ w := by
    rintro rfl
    rw [String.toList_ofList] at hw
    exact hc (toNat_of_mem_intText hw)
  unfold retype
  dsimp only
  rw [String.toList_ofList, lower_intText, if_neg (hword "true" 't' (by decide) (by decide)),
    if_neg (hword "false" 'f' (by decide) (by decide)),
    if_neg (hword "null" 'n' (by decide) (by decide)), if_pos (isIntegerText_intText n),
    integerOf_intText h]

end Form

end Intake
