import Intake.Proofs.Coercion.Integers
import Intake.Proofs.Escaped
import Intake.Proofs.Sanitizer.Case

namespace Intake.Cleaning

open Text

variable {s t t' : List Char} {c : Char}

/-- Nothing but characters that are kept. -/
def IsKept (t : List Char) : Prop := ∀ c ∈ t, isKept c = true

theorem isKept_filter (t : List Char) : IsKept (t.filter isKept) :=
  fun _ hc => (List.mem_filter.mp hc).2

theorem IsKept.sublist (h : IsKept t) (ht : t'.Sublist t) : IsKept t' :=
  fun c hc => h c (ht.subset hc)

section Markup

/-- No `<` is followed later by a `>`. -/
def Untagged (t : List Char) : Prop := ¬['<', '>'].Sublist t

/-- An end of a tag. -/
def isAngle (c : Char) : Bool := c = '<' || c = '>'

theorem untagged_cons_iff : Untagged (c :: t) ↔ Untagged t ∧ ¬(c = '<' ∧ '>' ∈ t) := by
  rw [Untagged, List.cons_sublist_cons', List.singleton_sublist, not_or, eq_comm (a := '<')]
  rfl

theorem Untagged.sublist (h : Untagged t) (ht : t'.Sublist t) : Untagged t' :=
  fun htag => h (htag.trans ht)

theorem untagged_of_unmarked (h : Unmarked t) : Untagged t :=
  fun htag => h '<' (htag.subset List.mem_cons_self) (by decide)

/-- Whether a text holds a tag can be seen of the ends of tags alone. -/
theorem Untagged.congr (h : Untagged t) (ht : t'.filter isAngle = t.filter isAngle) : Untagged t' := by
  intro htag
  have hangles : ['<', '>'].Sublist (t'.filter isAngle) := htag.filter isAngle
  rw [ht] at hangles
  exact h (hangles.trans List.filter_sublist)

theorem withoutTags_sublist (t : List Char) : (withoutTags t).Sublist t := by
  fun_induction withoutTags t with
  | case1 => exact .slnil
  | case2 c rest _ ih =>
    have hrest : ((rest.dropWhile (· ≠ '>')).drop 1).Sublist rest :=
      (List.drop_sublist _ _).trans (List.dropWhile_sublist _)
    exact (ih.trans hrest).cons c
  | case3 c rest _ ih => exact ih.cons_cons c

/-- No new tag is left when the tags are taken out. -/
theorem untagged_withoutTags (t : List Char) : Untagged (withoutTags t) := by
  fun_induction withoutTags t with
  | case1 => exact fun htag => by cases htag
  | case2 c rest _ ih => exact ih
  | case3 c rest hopen ih =>
    rw [untagged_cons_iff]
    refine ⟨ih, fun ⟨hc, hclose⟩ => hopen ?_⟩
    have hrest : '>' ∈ rest := (withoutTags_sublist rest).subset hclose
    simp [hc, hrest]

theorem withoutTags_of_untagged (h : Untagged t) : withoutTags t = t := by
  fun_induction withoutTags t with
  | case1 => rfl
  | case2 c rest hopen ih =>
    rw [Bool.and_eq_true, decide_eq_true_eq, List.contains_iff_mem] at hopen
    exact absurd hopen (untagged_cons_iff.mp h).2
  | case3 c rest _ ih => rw [ih (untagged_cons_iff.mp h).1]

end Markup

section Blanks

/-- No two blanks stand side by side, and each of them is a space. -/
structure IsCollapsed (t : List Char) : Prop where
  apart : t.IsChain fun c d => isBlank c = false ∨ isBlank d = false
  space : ∀ c ∈ t, isBlank c = true → c = ' '

theorem isCollapsed_cons_iff : IsCollapsed (c :: t) ↔
    (isBlank c = true → c = ' ' ∧ ∀ d ∈ t.head?, isBlank d = false) ∧ IsCollapsed t := by
  constructor
  · rintro ⟨hapart, hspace⟩
    obtain ⟨hhead, htail⟩ := List.isChain_cons.mp hapart
    obtain ⟨hc, ht⟩ := List.forall_mem_cons.mp hspace
    refine ⟨fun hblank => ⟨hc hblank, fun d hd => ?_⟩, htail, ht⟩
    exact (hhead d hd).resolve_left (by simp [hblank])
  · rintro ⟨hc, htail, ht⟩
    refine ⟨List.isChain_cons.mpr ⟨fun d hd => ?_, htail⟩, List.forall_mem_cons.mpr ⟨fun h => (hc h).1, ht⟩⟩
    cases hblank : isBlank c with
    | false => exact .inl rfl
    | true => exact .inr ((hc hblank).2 d hd)

theorem IsCollapsed.of_isInfix (h : IsCollapsed t) (ht : t' <:+: t) : IsCollapsed t' where
  apart := List.IsChain.infix h.apart ht
  space := fun c hc => h.space c (ht.subset hc)

theorem IsCollapsed.append (hs : ∀ c ∈ s, isBlank c = false) (ht : IsCollapsed t) :
    IsCollapsed (s ++ t) := by
  induction s with
  | nil => exact ht
  | cons c s ih =>
    obtain ⟨hc, hs⟩ := List.forall_mem_cons.mp hs
    rw [List.cons_append, isCollapsed_cons_iff]
    exact ⟨fun hblank => absurd hblank (by simp [hc]), ih hs⟩

theorem head?_collapsed (hc : isBlank c = false) (t : List Char) : (collapsed (c :: t)).head? = some c := by
  rw [collapsed.eq_def]
  simp [hc]

theorem isCollapsed_collapsed (t : List Char) : IsCollapsed (collapsed t) := by
  fun_induction collapsed t with
  | case1 => exact ⟨.nil, nofun⟩
  | case2 c hblank => exact isCollapsed_cons_iff.mpr ⟨fun _ => ⟨rfl, nofun⟩, .nil, nofun⟩
  | case3 c hblank d rest hd ih => exact ih
  | case4 c hblank d rest hd ih =>
    refine isCollapsed_cons_iff.mpr ⟨fun _ => ⟨rfl, ?_⟩, ih⟩
    have hd : isBlank d = false := by simpa using hd
    rw [head?_collapsed hd]
    rintro _ ⟨⟩
    exact hd
  | case5 c rest hblank ih => exact isCollapsed_cons_iff.mpr ⟨fun h => absurd h hblank, ih⟩

theorem collapsed_of_isCollapsed (h : IsCollapsed t) : collapsed t = t := by
  fun_induction collapsed t with
  | case1 => rfl
  | case2 c hblank => rw [((isCollapsed_cons_iff.mp h).1 hblank).1]
  | case3 c hblank d rest hd ih =>
    have hapart := ((isCollapsed_cons_iff.mp h).1 hblank).2 d rfl
    exact absurd hd (by simp [hapart])
  | case4 c hblank d rest hd ih =>
    obtain ⟨hc, hrest⟩ := isCollapsed_cons_iff.mp h
    rw [ih hrest, (hc hblank).1]
  | case5 c rest hblank ih => rw [ih (isCollapsed_cons_iff.mp h).2]

theorem mem_collapsed (h : c ∈ collapsed t) : c = ' ' ∨ c ∈ t := by
  fun_induction collapsed t with
  | case1 => cases h
  | case2 d hblank => exact .inl (List.mem_singleton.mp h)
  | case3 d hblank e rest he ih => exact (ih h).imp_right (List.mem_cons_of_mem d)
  | case4 d hblank e rest he ih =>
    rcases List.mem_cons.mp h with h | h
    · exact .inl h
    · exact (ih h).imp_right (List.mem_cons_of_mem d)
  | case5 d rest hblank ih =>
    rcases List.mem_cons.mp h with rfl | h
    · exact .inr List.mem_cons_self
    · exact (ih h).imp_right (List.mem_cons_of_mem d)

theorem not_isAngle_of_isBlank (h : isBlank c = true) : isAngle c = false := by
  have hc := of_isBlank (p := fun c => !isAngle c) (by decide) h
  simpa using hc

theorem filter_isAngle_collapsed (t : List Char) : (collapsed t).filter isAngle = t.filter isAngle := by
  have hspace : isAngle ' ' = false := rfl
  fun_induction collapsed t with
  | case1 => rfl
  | case2 c hblank => simp [hspace, not_isAngle_of_isBlank hblank]
  | case3 c hblank d rest hd ih =>
    have hc : ¬isAngle c = true := by simp [not_isAngle_of_isBlank hblank]
    exact ih.trans (List.filter_cons_of_neg hc).symm
  | case4 c hblank d rest hd ih => simp [hspace, not_isAngle_of_isBlank hblank, ih]
  | case5 c rest hblank ih => rw [List.filter_cons, List.filter_cons, ih]

theorem IsKept.collapsed (h : IsKept t) : IsKept (collapsed t) := by
  intro c hc
  rcases mem_collapsed hc with rfl | hc
  · rfl
  · exact h c hc

theorem unmarked_collapsed (h : Unmarked t) : Unmarked (collapsed t) := by
  intro c hc
  rcases mem_collapsed hc with rfl | hc
  · decide
  · exact h c hc

theorem Untagged.collapsed (h : Untagged t) : Untagged (collapsed t) :=
  h.congr (filter_isAngle_collapsed t)

end Blanks

end Intake.Cleaning

namespace Intake.Text

open Cleaning

variable {t t' : List Char}

theorem isBlank_of_mem_getLast?_trim {c : Char} (h : c ∈ (trim t).getLast?) : isBlank c = false := by
  have hc := List.head?_dropWhile_not isBlank (trimStart t).reverse
  rw [trim, trimEnd, List.getLast?_reverse] at h
  rw [Option.mem_def.mp h] at hc
  simpa using hc

namespace Recased

theorem isKept (h : Recased t t') (ht : IsKept t) : IsKept t' := by
  induction h with
  | nil => exact ht
  | same c h ih =>
    obtain ⟨hc, ht⟩ := List.forall_mem_cons.mp ht
    exact List.forall_mem_cons.mpr ⟨hc, ih ht⟩
  | other hblank hangle hne hplain h ih =>
    refine List.forall_mem_append.mpr ⟨fun d hd => ?_, ih (List.forall_mem_cons.mp ht).2⟩
    have hd := hplain d hd
    simp only [isPlain, Bool.and_eq_true] at hd
    exact hd.1.1.1

theorem filter_isAngle (h : Recased t t') : t'.filter isAngle = t.filter isAngle := by
  induction h with
  | nil => rfl
  | same c h ih => rw [List.filter_cons, List.filter_cons, ih]
  | other hblank hangle hne hplain h ih =>
    have hcs : ∀ d ∈ _, ¬isAngle d = true := fun d hd => by
      have hd := hplain d hd
      simp only [isPlain, Bool.and_eq_true, decide_eq_true_eq] at hd
      simp [isAngle, hd.1.2, hd.2]
    rw [List.filter_append, List.filter_eq_nil_iff.mpr hcs, List.nil_append, ih,
      List.filter_cons_of_neg (by simp [isAngle, hangle])]

theorem not_isBlank_of_isPlain {c : Char} (h : isPlain c = true) : isBlank c = false := by
  simp only [isPlain, Bool.and_eq_true, Bool.not_eq_true'] at h
  exact h.1.1.2

theorem isBlank_head? (h : Recased t t') (ht : ∀ c ∈ t.head?, isBlank c = false) :
    ∀ c ∈ t'.head?, isBlank c = false := by
  cases h with
  | nil => exact ht
  | same c h => exact ht
  | other hblank hangle hne hplain h =>
    intro d hd
    rw [List.head?_append_of_ne_nil _ hne] at hd
    exact not_isBlank_of_isPlain (hplain d (List.mem_of_mem_head? hd))

theorem eq_nil_iff (h : Recased t t') : t' = [] ↔ t = [] := by
  cases h with
  | nil => rfl
  | same c h => simp
  | other hblank hangle hne hplain h => simp [hne]

theorem isBlank_getLast? (h : Recased t t') (ht : ∀ c ∈ t.getLast?, isBlank c = false) :
    ∀ c ∈ t'.getLast?, isBlank c = false := by
  induction h with
  | nil => exact ht
  | @same c t t' h ih =>
    by_cases hnil : t = []
    · rw [h.eq_nil_iff.mpr hnil, ← hnil]
      exact ht
    · have hnil' : t' ≠ [] := mt h.eq_nil_iff.mp hnil
      rw [List.getLast?_cons_of_ne_nil hnil']
      rw [List.getLast?_cons_of_ne_nil hnil] at ht
      exact ih ht
  | @other c cs t t' hblank hangle hne hplain h ih =>
    by_cases hnil : t = []
    · rw [h.eq_nil_iff.mpr hnil, List.append_nil]
      exact fun d hd => not_isBlank_of_isPlain (hplain d (List.mem_of_getLast? hd))
    · have hnil' : t' ≠ [] := mt h.eq_nil_iff.mp hnil
      rw [List.getLast?_append_of_ne_nil _ hnil']
      rw [List.getLast?_cons_of_ne_nil hnil] at ht
      exact ih ht

theorem isCollapsed (h : Recased t t') (ht : IsCollapsed t) : IsCollapsed t' := by
  induction h with
  | nil => exact ht
  | same c h ih =>
    obtain ⟨hc, ht⟩ := isCollapsed_cons_iff.mp ht
    refine isCollapsed_cons_iff.mpr ⟨fun hblank => ?_, ih ht⟩
    exact (hc hblank).imp_right h.isBlank_head?
  | other hblank hangle hne hplain h ih =>
    have hcs := fun d hd => not_isBlank_of_isPlain (hplain d hd)
    exact .append hcs (ih (isCollapsed_cons_iff.mp ht).2)

theorem trim (h : Recased t t') (ht : Text.trim t = t) : Text.trim t' = t' := by
  refine trim_of_ends (h.isBlank_head? fun c hc => ?_) (h.isBlank_getLast? fun c hc => ?_)
  · rw [← ht] at hc
    exact isBlank_of_head?_trim hc
  · rw [← ht] at hc
    exact isBlank_of_mem_getLast?_trim hc

end Recased

end Intake.Text
