import Intake.Proofs.Sanitizer.Rows

namespace Intake.Text

open CaseRun

variable {c d : Char} {n : Nat} {r : CaseRun} {t t' before : List Char}

/-- The characters that have a lower case of their own. -/
def lowerSources : List CaseRun := ⟨65, 90, 1, 32⟩ :: single 304 :: lowerRuns

def lowerTargets : List CaseRun :=
  single 105 :: single 775 :: single 962 :: (⟨65, 90, 1, 32⟩ :: lowerRuns).map target

/-- The characters that have an upper case of their own. -/
def upperSources : List CaseRun :=
  ⟨97, 122, 1, -32⟩ :: (upperExpansions.map fun e => single e.1) ++ upperRuns

def upperTargets : List CaseRun :=
  (⟨97, 122, 1, -32⟩ :: upperRuns).map target ++ upperExpansions.flatMap fun e => e.2.map single

/-- A character of one of the rows. -/
def InRows (rows : List CaseRun) (c : Char) : Prop := ∃ r ∈ rows, ∃ n, r.holds n = true ∧ c = Char.ofNat n

theorem InRows.singleton {rows : List CaseRun} (h : InRows rows c) :
    [c] ≠ [] ∧ ∀ d ∈ [c], InRows rows d :=
  ⟨List.cons_ne_nil _ _, List.forall_mem_singleton.mpr h⟩

theorem isApart_of_mem_lowerTargets :
    (lowerTargets.all fun r => lowerSources.all r.isApart) = true := by
  decide +kernel

theorem isApart_of_mem_upperTargets :
    (upperTargets.all fun r => upperSources.all r.isApart) = true := by
  decide +kernel

theorem isPlain_of_mem_lowerTargets : lowerTargets.all CaseRun.isPlain = true := by
  decide +kernel

theorem isPlain_of_mem_upperTargets : upperTargets.all CaseRun.isPlain = true := by
  decide +kernel

theorem isFinal_lower (h : InRows lowerTargets c) : IsFinal lowerSources c := by
  obtain ⟨r, hr, n, hn, rfl⟩ := h
  exact isFinal_of_holds isApart_of_mem_lowerTargets isPlain_of_mem_lowerTargets hr hn

theorem isFinal_upper (h : InRows upperTargets c) : IsFinal upperSources c := by
  obtain ⟨r, hr, n, hn, rfl⟩ := h
  exact isFinal_of_holds isApart_of_mem_upperTargets isPlain_of_mem_upperTargets hr hn

theorem toLower_cases (h : c.toNat < 128) : c.toLower = c ∨
    (⟨65, 90, 1, 32⟩ : CaseRun).holds c.toNat = true ∧ c.toLower = Char.ofNat (c.toNat + 32) := by
  have hall : ∀ n < 128, (Char.ofNat n).toLower = Char.ofNat n ∨
      (⟨65, 90, 1, 32⟩ : CaseRun).holds n = true ∧ (Char.ofNat n).toLower = Char.ofNat (n + 32) := by
    decide
  have hc := hall c.toNat h
  rwa [Char.ofNat_toNat] at hc

theorem toUpper_cases (h : c.toNat < 128) : c.toUpper = c ∨
    (⟨97, 122, 1, -32⟩ : CaseRun).holds c.toNat = true ∧ c.toUpper = Char.ofNat (c.toNat - 32) := by
  have hall : ∀ n < 128, (Char.ofNat n).toUpper = Char.ofNat n ∨
      (⟨97, 122, 1, -32⟩ : CaseRun).holds n = true ∧ (Char.ofNat n).toUpper = Char.ofNat (n - 32) := by
    decide
  have hc := hall c.toNat h
  rwa [Char.ofNat_toNat] at hc

/-- The lower case of a character is the character itself or made of characters of the target rows. -/
theorem lowerChar_rows (c : Char) : lowerChar c = [c] ∨
    lowerChar c ≠ [] ∧ ∀ d ∈ lowerChar c, InRows lowerTargets d := by
  unfold lowerChar
  dsimp only
  split
  · next hc =>
    rcases toLower_cases hc with hsame | ⟨hholds, hother⟩
    · exact .inl (by rw [hsame])
    · have hrow : InRows lowerTargets (Char.ofNat (c.toNat + 32)) :=
        ⟨target ⟨65, 90, 1, 32⟩, by simp [lowerTargets], _, holds_target (by decide) hholds, rfl⟩
      rw [hother]
      exact .inr hrow.singleton
  · split
    · have hi : InRows lowerTargets (Char.ofNat 105) :=
        ⟨single 105, by simp [lowerTargets], 105, holds_single.mpr rfl, rfl⟩
      have hdot : InRows lowerTargets (Char.ofNat 775) :=
        ⟨single 775, by simp [lowerTargets], 775, holds_single.mpr rfl, rfl⟩
      exact .inr ⟨List.cons_ne_nil _ _, by simpa using ⟨hi, hdot⟩⟩
    · rcases shifted_cases lowerRuns (by decide +kernel) c with hsame | ⟨r, hr, n, hn, hother⟩
      · exact .inl (by rw [hsame])
      · have hmem : r.target ∈ lowerTargets := by
          refine List.mem_cons_of_mem _ (List.mem_cons_of_mem _ (List.mem_cons_of_mem _ ?_))
          exact List.mem_map_of_mem (List.mem_cons_of_mem _ hr)
        have hrow : InRows lowerTargets (Char.ofNat n) := ⟨r.target, hmem, n, hn, rfl⟩
        rw [hother]
        exact .inr hrow.singleton

/-- The lower case of a character is the character itself or made of characters that have none. -/
theorem lowerChar_cases (c : Char) : lowerChar c = [c] ∨
    lowerChar c ≠ [] ∧ ∀ d ∈ lowerChar c, IsFinal lowerSources d :=
  (lowerChar_rows c).imp_right fun ⟨hne, hrows⟩ => ⟨hne, fun d hd => isFinal_lower (hrows d hd)⟩

theorem lowerChar_of_not_holds (h : ∀ r ∈ lowerSources, r.holds c.toNat = false) :
    lowerChar c = [c] := by
  unfold lowerChar
  dsimp only
  split
  · next hc =>
    rcases toLower_cases hc with hsame | ⟨hholds, -⟩
    · rw [hsame]
    · cases (h _ List.mem_cons_self).symm.trans hholds
  · split
    · next hc =>
      have hsingle : (single 304).holds c.toNat = true := holds_single.mpr hc
      cases (h (single 304) (by simp [lowerSources])).symm.trans hsingle
    · rw [shifted_of_not_holds fun r hr => h r (List.mem_cons_of_mem _ (List.mem_cons_of_mem _ hr))]

/-- The upper case of a character is the character itself or made of characters of the target rows. -/
theorem upperChar_rows (c : Char) : upperChar c = [c] ∨
    upperChar c ≠ [] ∧ ∀ d ∈ upperChar c, InRows upperTargets d := by
  unfold upperChar
  dsimp only
  split
  · next hc =>
    rcases toUpper_cases hc with hsame | ⟨hholds, hother⟩
    · exact .inl (by rw [hsame])
    · have hrow : InRows upperTargets (Char.ofNat ((c.toNat : Int) + -32).toNat) :=
        ⟨target ⟨97, 122, 1, -32⟩, by simp [upperTargets], _, holds_target (by decide) hholds, rfl⟩
      have hsub : ((c.toNat : Int) + -32).toNat = c.toNat - 32 := by omega
      rw [hother, ← hsub]
      exact .inr hrow.singleton
  · split
    · next cs hlookup =>
      obtain ⟨former, later, happend, -⟩ := List.lookup_eq_some_iff.mp hlookup
      have hmem : (c.toNat, cs) ∈ upperExpansions := by simp [happend]
      have hne : ∀ e ∈ upperExpansions, e.2 ≠ [] := by decide
      refine .inr ⟨by simpa using hne _ hmem, ?_⟩
      intro d hd
      obtain ⟨n, hn, rfl⟩ := List.mem_map.mp hd
      refine ⟨single n, List.mem_append_right _ ?_, n, holds_single.mpr rfl, rfl⟩
      exact List.mem_flatMap.mpr ⟨_, hmem, List.mem_map_of_mem hn⟩
    · rcases shifted_cases upperRuns (by decide +kernel) c with hsame | ⟨r, hr, n, hn, hother⟩
      · exact .inl (by rw [hsame])
      · have hmem : r.target ∈ upperTargets :=
          List.mem_append_left _ (List.mem_map_of_mem (List.mem_cons_of_mem _ hr))
        have hrow : InRows upperTargets (Char.ofNat n) := ⟨r.target, hmem, n, hn, rfl⟩
        rw [hother]
        exact .inr hrow.singleton

/-- The upper case of a character is the character itself or made of characters that have none. -/
theorem upperChar_cases (c : Char) : upperChar c = [c] ∨
    upperChar c ≠ [] ∧ ∀ d ∈ upperChar c, IsFinal upperSources d :=
  (upperChar_rows c).imp_right fun ⟨hne, hrows⟩ => ⟨hne, fun d hd => isFinal_upper (hrows d hd)⟩

theorem upperChar_of_not_holds (h : ∀ r ∈ upperSources, r.holds c.toNat = false) :
    upperChar c = [c] := by
  unfold upperChar
  dsimp only
  split
  · next hc =>
    rcases toUpper_cases hc with hsame | ⟨hholds, -⟩
    · rw [hsame]
    · cases (h _ (List.mem_append_left _ List.mem_cons_self)).symm.trans hholds
  · split
    · next cs hlookup =>
      obtain ⟨former, later, happend, -⟩ := List.lookup_eq_some_iff.mp hlookup
      have hmem : (c.toNat, cs) ∈ upperExpansions := by simp [happend]
      have hsource : single c.toNat ∈ upperSources := by
        refine List.mem_append_left _ (List.mem_cons_of_mem _ ?_)
        exact List.mem_map_of_mem (f := fun e : Nat × List Nat => single e.1) hmem
      cases (h _ hsource).symm.trans (holds_single.mpr rfl)
    · rw [shifted_of_not_holds fun r hr => h r (List.mem_append_right _ hr)]

/-- How a change of case rewrites a text: some characters, neither blanks nor ends of tags, make way for
plain ones, and the others stay. -/
inductive Recased : List Char → List Char → Prop where
  | nil : Recased [] []
  | same (c : Char) {t t' : List Char} (h : Recased t t') : Recased (c :: t) (c :: t')
  | other {c : Char} {cs t t' : List Char} (hblank : isBlank c = false) (hangle : c ≠ '<' ∧ c ≠ '>')
      (hne : cs ≠ []) (hplain : ∀ d ∈ cs, Cleaning.isPlain d = true) (h : Recased t t') :
      Recased (c :: t) (cs ++ t')

/-- A character that changes with case is neither a blank nor an end of a tag if none of these do. -/
theorem visible_of_changed {casing : Char → List Char}
    (hblanks : (spread blankRanges).all (fun n => casing (Char.ofNat n) == [Char.ofNat n]) = true)
    (hopen : casing '<' = ['<']) (hclose : casing '>' = ['>']) (h : casing c ≠ [c]) :
    isBlank c = false ∧ c ≠ '<' ∧ c ≠ '>' := by
  refine ⟨?_, ?_, ?_⟩
  · rw [← Bool.not_eq_true]
    intro hblank
    exact h (eq_of_beq (of_isBlank (p := fun c => casing c == [c]) hblanks hblank))
  · rintro rfl
    exact h hopen
  · rintro rfl
    exact h hclose

section Casing

variable {casing : Char → List Char} {sources : List CaseRun}

theorem Recased.cons (hblanks : (spread blankRanges).all
      (fun n => casing (Char.ofNat n) == [Char.ofNat n]) = true)
    (hopen : casing '<' = ['<']) (hclose : casing '>' = ['>'])
    (hcases : casing c = [c] ∨ casing c ≠ [] ∧ ∀ d ∈ casing c, IsFinal sources d)
    (h : Recased t t') : Recased (c :: t) (casing c ++ t') := by
  by_cases hsame : casing c = [c]
  · rw [hsame]
    exact .same c h
  · obtain ⟨hblank, hangle⟩ := visible_of_changed hblanks hopen hclose hsame
    obtain ⟨hne, hfinal⟩ := hcases.resolve_left hsame
    exact .other hblank hangle hne (fun d hd => (hfinal d hd).plain) h

/-- What a change of case leads to is left as it is by the same change. -/
theorem fixed_of_mem
    (hcases : casing c = [c] ∨ casing c ≠ [] ∧ ∀ d ∈ casing c, IsFinal sources d)
    (hfixed : ∀ d, (∀ r ∈ sources, r.holds d.toNat = false) → casing d = [d]) (hd : d ∈ casing c) :
    casing d = [d] := by
  rcases hcases with hsame | ⟨-, hfinal⟩
  · rw [hsame, List.mem_singleton] at hd
    rw [hd, hsame]
  · exact hfixed d (hfinal d hd).not_holds

end Casing

/-- The small sigmas that a capital one becomes stand in the target rows. -/
theorem inRows_sigma (isLast : Bool) :
    InRows lowerTargets (if isLast then Char.ofNat 962 else Char.ofNat 963) := by
  have hrow : target ⟨931, 939, 1, 32⟩ ∈ lowerTargets := by
    refine List.mem_cons_of_mem _ (List.mem_cons_of_mem _ (List.mem_cons_of_mem _ ?_))
    exact List.mem_map_of_mem (List.mem_cons_of_mem _ (by decide +kernel))
  cases isLast
  · exact ⟨_, hrow, 963, by decide, rfl⟩
  · exact ⟨single 962, by simp [lowerTargets], 962, holds_single.mpr rfl, rfl⟩

/-- The small sigmas that a capital one becomes have no lower case of their own. -/
theorem isFinal_sigma (isLast : Bool) :
    IsFinal lowerSources (if isLast then Char.ofNat 962 else Char.ofNat 963) :=
  isFinal_lower (inRows_sigma isLast)

theorem recased_lowerAfter (before t : List Char) : Recased t (lowerAfter before t) := by
  induction t generalizing before with
  | nil => exact .nil
  | cons c t ih =>
    rw [lowerAfter]
    split
    · next hc =>
      obtain rfl : c = Char.ofNat 931 := by rw [← hc, Char.ofNat_toNat]
      refine .other (by decide) (by decide) (List.cons_ne_nil _ _) ?_ (ih _)
      exact List.forall_mem_singleton.mpr (isFinal_sigma _).plain
    · exact (ih _).cons (by decide +kernel) rfl rfl (lowerChar_cases c)

theorem recased_lower (t : List Char) : Recased t (lower t) := recased_lowerAfter [] t

theorem recased_upper (t : List Char) : Recased t (upper t) := by
  induction t with
  | nil => exact .nil
  | cons c t ih =>
    rw [upper, List.flatMap_cons]
    exact ih.cons (by decide +kernel) rfl rfl (upperChar_cases c)

theorem isHigh_of_mem_lowerTargets : (lowerTargets.all fun r => Nat.ble 63 r.first) = true := by
  decide +kernel

theorem isHigh_of_mem_upperTargets : (upperTargets.all fun r => Nat.ble 63 r.first) = true := by
  decide +kernel

theorem InRows.isHigh {rows : List CaseRun} (hplain : rows.all CaseRun.isPlain = true)
    (hhigh : (rows.all fun r => Nat.ble 63 r.first) = true) (h : InRows rows c) : 63 ≤ c.toNat := by
  obtain ⟨r, hr, n, hn, rfl⟩ := h
  have hfirst : 63 ≤ r.first := Nat.le_of_ble_eq_true (List.all_eq_true.mp hhigh r hr)
  obtain ⟨hcode, -⟩ := isPlain_of_holds (List.all_eq_true.mp hplain r hr) hn
  rw [hcode]
  exact hfirst.trans (holds_iff.mp hn).1

/-- What a lower case brings in that was not there comes behind all signs of markup. -/
theorem mem_lowerAfter (hd : d ∈ lowerAfter before t) : d ∈ t ∨ 63 ≤ d.toNat := by
  have hhigh (h : InRows lowerTargets d) : 63 ≤ d.toNat :=
    h.isHigh isPlain_of_mem_lowerTargets isHigh_of_mem_lowerTargets
  induction t generalizing before with
  | nil => cases hd
  | cons c t ih =>
    rw [lowerAfter, List.mem_append] at hd
    rcases hd with hd | hd
    · split at hd
      · rw [List.mem_singleton] at hd
        exact .inr (hhigh (hd ▸ inRows_sigma _))
      · rcases lowerChar_rows c with hsame | ⟨-, hrows⟩
        · rw [hsame, List.mem_singleton] at hd
          exact .inl (hd ▸ List.mem_cons_self)
        · exact .inr (hhigh (hrows d hd))
    · exact (ih hd).imp_left (List.mem_cons_of_mem c)

theorem mem_lower (hd : d ∈ lower t) : d ∈ t ∨ 63 ≤ d.toNat := mem_lowerAfter hd

theorem mem_upper (hd : d ∈ upper t) : d ∈ t ∨ 63 ≤ d.toNat := by
  obtain ⟨c, hc, hd⟩ := List.mem_flatMap.mp hd
  rcases upperChar_rows c with hsame | ⟨-, hrows⟩
  · rw [hsame, List.mem_singleton] at hd
    exact .inl (hd ▸ hc)
  · exact .inr ((hrows d hd).isHigh isPlain_of_mem_upperTargets isHigh_of_mem_upperTargets)

theorem lowerChar_of_mem_lowerAfter (hd : d ∈ lowerAfter before t) : lowerChar d = [d] := by
  induction t generalizing before with
  | nil => cases hd
  | cons c t ih =>
    rw [lowerAfter, List.mem_append] at hd
    rcases hd with hd | hd
    · split at hd
      · rw [List.mem_singleton.mp hd]
        exact lowerChar_of_not_holds (isFinal_sigma _).not_holds
      · exact fixed_of_mem (lowerChar_cases c) (fun _ => lowerChar_of_not_holds) hd
    · exact ih hd

theorem lowerAfter_of_forall (h : ∀ d ∈ t, lowerChar d = [d]) : lowerAfter before t = t := by
  induction t generalizing before with
  | nil => rfl
  | cons c t ih =>
    obtain ⟨hc, ht⟩ := List.forall_mem_cons.mp h
    have hsigma : c.toNat ≠ 931 := by
      intro hn
      obtain rfl : c = Char.ofNat 931 := by rw [← hn, Char.ofNat_toNat]
      exact absurd hc (by decide +kernel)
    rw [lowerAfter, if_neg hsigma, hc, ih ht]
    rfl

/-- A text in lower case is in lower case. -/
theorem lower_lower (t : List Char) : lower (lower t) = lower t :=
  lowerAfter_of_forall fun _ hd => lowerChar_of_mem_lowerAfter hd

theorem upper_upper (t : List Char) : upper (upper t) = upper t := by
  have hfixed (d : Char) (hd : d ∈ upper t) : upperChar d = [d] := by
    obtain ⟨c, -, hd⟩ := List.mem_flatMap.mp hd
    exact fixed_of_mem (upperChar_cases c) (fun _ => upperChar_of_not_holds) hd
  rw [upper, List.flatMap_congr hfixed, List.flatMap_singleton']

end Intake.Text
