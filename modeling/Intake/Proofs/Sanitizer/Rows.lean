import Intake.Proofs.Characters
import Intake.Proofs.Reading.Blanks
import Intake.Sanitizer

namespace Intake

namespace Cleaning

/-- A character that is kept, and neither a blank nor an end of a tag. -/
def isPlain (c : Char) : Bool := isKept c && !Text.isBlank c && c ≠ '<' && c ≠ '>'

end Cleaning

namespace Text

variable {c d : Char} {m n first last : Nat} {r s : CaseRun} {runs : List CaseRun}
  {ranges : List (Nat × Nat)}

/-- Whether one of the ranges, which are listed in increasing order, covers a whole stretch. -/
def covers (first last : Nat) : List (Nat × Nat) → Bool
  | [] => false
  | (low, high) :: rest =>
    Nat.ble low first && (Nat.ble last high || Nat.blt high first && covers first last rest)

/-- Whether no range, of those listed in increasing order, meets a stretch. -/
def avoids (first last : Nat) : List (Nat × Nat) → Bool
  | [] => true
  | (low, high) :: rest => Nat.blt last low || Nat.blt high first && avoids first last rest

theorem inRanges_of_covers (h : covers first last ranges = true) (hfirst : first ≤ n) (hlast : n ≤ last) :
    inRanges n ranges = true := by
  induction ranges with
  | nil => cases h
  | cons range ranges ih =>
    obtain ⟨low, high⟩ := range
    simp only [covers, Bool.and_eq_true, Bool.or_eq_true, Nat.ble_eq, Nat.blt_eq] at h
    obtain ⟨hlow, hhigh | ⟨hbelow, hrest⟩⟩ := h
    · rw [inRanges, if_neg (by omega), if_pos (by omega)]
    · rw [inRanges, if_neg (by omega), if_neg (by omega), ih hrest]

theorem inRanges_of_avoids (h : avoids first last ranges = true) (hfirst : first ≤ n) (hlast : n ≤ last) :
    inRanges n ranges = false := by
  induction ranges with
  | nil => rfl
  | cons range ranges ih =>
    obtain ⟨low, high⟩ := range
    simp only [avoids, Bool.and_eq_true, Bool.or_eq_true, Nat.blt_eq] at h
    rw [inRanges]
    rcases h with habove | ⟨hbelow, hrest⟩
    · rw [if_pos (by omega)]
    · split
      · rfl
      · rw [if_neg (by omega), ih hrest]

namespace CaseRun

/-- The row of one character. -/
def single (n : Nat) : CaseRun := ⟨n, n, 2, 0⟩

/-- The row of the other cases. -/
def target (r : CaseRun) : CaseRun := ⟨(r.first + r.shift).toNat, (r.last + r.shift).toNat, r.step, 0⟩

def points (r : CaseRun) : List Nat :=
  List.range' r.first ((r.last - r.first) / r.step + 1) r.step

/-- Rows that have no character in common, as their ends show: one stands before the other, or both go by
steps of two past each other. -/
def isApart (r s : CaseRun) : Bool :=
  Nat.blt r.last s.first || Nat.blt s.last r.first ||
    (Nat.beq r.step 2 || Nat.beq r.first r.last) && Nat.beq s.step 2 &&
      Nat.beq ((r.first + s.first) % 2) 1

/-- A row of plain characters, as its ends show or as is seen of each. -/
def isPlain (r : CaseRun) : Bool :=
  (63 ≤ r.first && r.last < 127) ||
    (128 ≤ r.first && r.last < 0x110000 && (r.last < 0xD800 || 0xDFFF < r.first) &&
      covers r.first r.last printableRanges && avoids r.first r.last blankRanges) ||
    (r.points.all fun n => n.isValidChar && Cleaning.isPlain (Char.ofNat n))

theorem holds_iff : r.holds n = true ↔ r.first ≤ n ∧ n ≤ r.last ∧ (n - r.first) % r.step = 0 := by
  rw [holds, Bool.and_eq_true, Bool.and_eq_true, decide_eq_true_eq, decide_eq_true_eq, beq_iff_eq,
    and_assoc]

theorem holds_single : (single m).holds n = true ↔ n = m := by
  rw [holds_iff]
  constructor
  · rintro ⟨hfirst, hlast, -⟩
    exact Nat.le_antisymm hlast hfirst
  · rintro rfl
    exact ⟨le_rfl, le_rfl, by simp [single]⟩

theorem holds_target (hr : 0 ≤ r.first + r.shift) (h : r.holds n = true) :
    r.target.holds ((n : Int) + r.shift).toNat = true := by
  rw [holds_iff] at h ⊢
  obtain ⟨hfirst, hlast, hstep⟩ := h
  have hdistance : ((n : Int) + r.shift).toNat - (r.first + r.shift).toNat = n - r.first := by omega
  refine ⟨?_, ?_, hdistance ▸ hstep⟩
  · show (r.first + r.shift).toNat ≤ _
    omega
  · show _ ≤ (r.last + r.shift).toNat
    omega

theorem mem_points (h : r.holds n = true) : n ∈ r.points := by
  obtain ⟨hfirst, hlast, hstep⟩ := holds_iff.mp h
  refine List.mem_range'.mpr ⟨(n - r.first) / r.step, ?_, ?_⟩
  · exact Nat.lt_succ_of_le (Nat.div_le_div_right (Nat.sub_le_sub_right hlast _))
  · have hsum := Nat.div_add_mod (n - r.first) r.step
    omega

theorem not_holds_of_isApart (h : r.isApart s = true) (hr : r.holds n = true) : s.holds n = false := by
  rw [← Bool.not_eq_true, holds_iff]
  rw [holds_iff] at hr
  simp only [isApart, Bool.or_eq_true, Bool.and_eq_true, Nat.blt_eq, Nat.beq_eq] at h
  rintro ⟨hfirst, hlast, hstep⟩
  rcases h with (habove | hbelow) | ⟨⟨hrow | hrow, hs⟩, hparity⟩
  · omega
  · omega
  · rw [hrow] at hr
    rw [hs] at hstep
    omega
  · rw [hs] at hstep
    omega

theorem isPlain_of_low (hlow : 63 ≤ c.toNat) (hhigh : c.toNat < 127) : Cleaning.isPlain c = true := by
  have hblank : isBlank c = false := not_isBlank_of_visible (by omega) (by omega)
  have hprintable : isPrintable c = true := by
    rw [isPrintable, if_pos (by omega)]
    simp only [Bool.and_eq_true, decide_eq_true_eq]
    omega
  have hne (d : Char) (hd : d.toNat < 63) : c ≠ d := by
    rintro rfl
    omega
  simp [Cleaning.isPlain, Cleaning.isKept, hprintable, hblank, hne '<' (by decide), hne '>' (by decide)]

theorem isPlain_of_high (hlow : 128 ≤ c.toNat) (hprintable : inRanges c.toNat printableRanges = true)
    (hblank : inRanges c.toNat blankRanges = false) : Cleaning.isPlain c = true := by
  have hkept : isPrintable c = true := by rwa [isPrintable, if_neg (by omega)]
  have hne (d : Char) (hd : d.toNat < 63) : c ≠ d := by
    rintro rfl
    omega
  simp [Cleaning.isPlain, Cleaning.isKept, hkept, isBlank, hblank, hne '<' (by decide), hne '>' (by decide)]

theorem isPlain_of_holds (hplain : r.isPlain = true) (h : r.holds n = true) :
    (Char.ofNat n).toNat = n ∧ Cleaning.isPlain (Char.ofNat n) = true := by
  obtain ⟨hfirst, hlast, -⟩ := holds_iff.mp h
  simp only [isPlain, Bool.or_eq_true, Bool.and_eq_true, decide_eq_true_eq, List.all_eq_true] at hplain
  rcases hplain with (⟨hlow, hhigh⟩ | ⟨⟨⟨⟨hlow, hhigh⟩, hscalar⟩, hcovers⟩, havoids⟩) | hpoints
  · have hn : (Char.ofNat n).toNat = n := (Char.toNat_ofNat n).trans (if_pos (.inl (by omega)))
    exact ⟨hn, isPlain_of_low (by omega) (by omega)⟩
  · have hvalid : n.isValidChar := by
      rcases hscalar with hbelow | habove
      · exact .inl (by omega)
      · exact .inr ⟨by omega, by omega⟩
    have hn : (Char.ofNat n).toNat = n := (Char.toNat_ofNat n).trans (if_pos hvalid)
    have hprintable := inRanges_of_covers hcovers hfirst hlast
    have hblank := inRanges_of_avoids havoids hfirst hlast
    exact ⟨hn, isPlain_of_high (by omega) (hn.symm ▸ hprintable) (hn.symm ▸ hblank)⟩
  · obtain ⟨hvalid, hn⟩ := hpoints n (mem_points h)
    exact ⟨(Char.toNat_ofNat n).trans (if_pos hvalid), hn⟩

end CaseRun

open CaseRun

theorem shifted_cases (runs : List CaseRun) (h : ∀ r ∈ runs, 0 ≤ r.first + r.shift) (c : Char) :
    shifted runs c = c ∨
      ∃ r ∈ runs, ∃ n, r.target.holds n = true ∧ shifted runs c = Char.ofNat n := by
  unfold shifted
  split
  · next r hr =>
    have hmem := List.mem_of_find?_eq_some hr
    have hholds : r.holds c.toNat = true := List.find?_eq_some_iff_append.mp hr |>.1
    exact .inr ⟨r, hmem, _, holds_target (h r hmem) hholds, rfl⟩
  · exact .inl rfl

theorem shifted_of_not_holds (h : ∀ r ∈ runs, r.holds c.toNat = false) : shifted runs c = c := by
  have hnone : runs.find? (·.holds c.toNat) = none := by
    rw [List.find?_eq_none]
    intro r hr
    rw [h r hr]
    exact Bool.false_ne_true
  rw [shifted, hnone]

/-- A plain character in none of the rows that a change of case starts from. -/
structure IsFinal (sources : List CaseRun) (c : Char) : Prop where
  plain : Cleaning.isPlain c = true
  not_holds : ∀ r ∈ sources, r.holds c.toNat = false

theorem isFinal_of_holds {targets sources : List CaseRun}
    (hapart : (targets.all fun r => sources.all r.isApart) = true)
    (hplain : targets.all CaseRun.isPlain = true) (hr : r ∈ targets) (h : r.holds n = true) :
    IsFinal sources (Char.ofNat n) := by
  obtain ⟨hn, hc⟩ := isPlain_of_holds (List.all_eq_true.mp hplain r hr) h
  refine ⟨hc, fun s hs => ?_⟩
  rw [hn]
  exact not_holds_of_isApart (List.all_eq_true.mp (List.all_eq_true.mp hapart r hr) s hs) h

end Text

end Intake
