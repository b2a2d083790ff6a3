import Intake.Proofs.Sanitizer.Steps

namespace Intake.Sanitizer

open Cleaning (isKept IsKept Untagged IsCollapsed)

variable {s : Sanitizer} {t : List Char} {option : Cleaning} {f : List Char → List Char}
  {P : List Char → Prop}

theorem step_of_mem (h : option ∈ s.options) : s.step option f t = f t :=
  if_pos (List.contains_iff_mem.mpr h)

theorem step_of_not_mem (h : option ∉ s.options) : s.step option f t = t :=
  if_neg (mt List.contains_iff_mem.mp h)

theorem step_of_fixed (h : option ∈ s.options → f t = t) : s.step option f t = t := by
  by_cases hmem : option ∈ s.options
  · rw [step_of_mem hmem, h hmem]
  · exact step_of_not_mem hmem

/-- What a step preserves holds behind it, whether or not it is taken. -/
theorem step_preserves (h : P t) (hf : P t → P (f t)) : P (s.step option f t) := by
  unfold step
  split
  · exact hf h
  · exact h

/-- The last step: the case that is asked for. -/
def withCase (s : Sanitizer) (t : List Char) : List Char :=
  if s.options.contains .lowercase then Text.lower t else s.step .uppercase Text.upper t

/-- A change of case rewrites a text as `Recased` says or leaves it. -/
theorem withCase_preserves (h : P t) (hf : ∀ t', Text.Recased t t' → P t → P t') :
    P (s.withCase t) := by
  unfold withCase
  split
  · exact hf _ (Text.recased_lower t) h
  · exact step_preserves h (hf _ (Text.recased_upper t))

theorem withCase_withCase (s : Sanitizer) (t : List Char) : s.withCase (s.withCase t) = s.withCase t := by
  unfold withCase
  split
  · exact Text.lower_lower t
  · by_cases h : Cleaning.uppercase ∈ s.options
    · rw [step_of_mem h, step_of_mem h, Text.upper_upper]
    · rw [step_of_not_mem h, step_of_not_mem h]

/-- A text in which no step that is asked for finds anything to do. -/
structure IsClean (s : Sanitizer) (t : List Char) : Prop where
  kept : .removeUnprintable ∈ s.options → IsKept t
  untagged : .removeMarkup ∈ s.options → Untagged t
  collapsed : .collapseBlanks ∈ s.options → IsCollapsed t
  trimmed : .trim ∈ s.options → Text.trim t = t
  cased : s.withCase t = t

theorem cleanChars_of_not_mem (hescape : .escapeMarkup ∉ s.options) (t : List Char) :
    s.cleanChars t = s.withCase (s.step .trim Text.trim
      (s.step .collapseBlanks Cleaning.collapsed (s.step .removeMarkup Cleaning.withoutTags
        (s.step .removeUnprintable (·.filter isKept) t)))) := by
  rw [cleanChars, step_of_not_mem hescape, withCase]

/-- No tag is left where tags are taken out, whatever else is done. -/
theorem untagged_cleanChars (h : .removeMarkup ∈ s.options) (t : List Char) :
    Untagged (s.cleanChars t) := by
  refine withCase_preserves (P := Untagged) ?_ fun t' ht' ht => ht.congr ht'.filter_isAngle
  refine step_preserves (P := Untagged) ?_ fun ht => ht.sublist (Text.isInfix_trim _).sublist
  refine step_preserves (P := Untagged) ?_ Untagged.collapsed
  refine step_preserves (P := Untagged) ?_ fun _ =>
    Cleaning.untagged_of_unmarked (Text.unmarked_escaped _)
  rw [step_of_mem h]
  exact Cleaning.untagged_withoutTags _

/-- The steps bring about what each of them is for, and the later ones keep it. -/
theorem isClean_cleanChars (hescape : .escapeMarkup ∉ s.options) (t : List Char) :
    s.IsClean (s.cleanChars t) := by
  rw [cleanChars_of_not_mem hescape]
  refine ⟨fun h => ?_, fun h => ?_, fun h => ?_, fun h => ?_, s.withCase_withCase _⟩
  · refine withCase_preserves (P := IsKept) ?_ fun t' ht' => ht'.isKept
    refine step_preserves (P := IsKept) ?_ fun ht => ht.sublist (Text.isInfix_trim _).sublist
    refine step_preserves (P := IsKept) ?_ IsKept.collapsed
    refine step_preserves (P := IsKept) ?_ fun ht => ht.sublist (Cleaning.withoutTags_sublist _)
    rw [step_of_mem h]
    exact Cleaning.isKept_filter t
  · rw [← cleanChars_of_not_mem hescape]
    exact untagged_cleanChars h t
  · refine withCase_preserves (P := IsCollapsed) ?_ fun t' ht' => ht'.isCollapsed
    refine step_preserves (P := IsCollapsed) ?_ fun ht => ht.of_isInfix (Text.isInfix_trim _)
    rw [step_of_mem h]
    exact Cleaning.isCollapsed_collapsed _
  · refine withCase_preserves (P := fun t => Text.trim t = t) ?_ fun t' ht' => ht'.trim
    rw [step_of_mem h]
    exact Text.trim_trim _

theorem cleanChars_of_isClean (hescape : .escapeMarkup ∉ s.options) (h : s.IsClean t) :
    s.cleanChars t = t := by
  rw [cleanChars_of_not_mem hescape, step_of_fixed fun hmem => List.filter_eq_self.mpr (h.kept hmem),
    step_of_fixed fun hmem => Cleaning.withoutTags_of_untagged (h.untagged hmem),
    step_of_fixed fun hmem => Cleaning.collapsed_of_isCollapsed (h.collapsed hmem),
    step_of_fixed h.trimmed, h.cased]

theorem cleanText_cleanText (hescape : .escapeMarkup ∉ s.options) (text : String) :
    s.cleanText (s.cleanText text) = s.cleanText text := by
  rw [cleanText, cleanText, String.toList_ofList,
    cleanChars_of_isClean hescape (isClean_cleanChars hescape _)]

mutual

theorem cleanValue_cleanValue (hescape : .escapeMarkup ∉ s.options) :
    ∀ v : Value, s.cleanValue (s.cleanValue v) = s.cleanValue v
  | .text text => by rw [cleanValue, cleanValue, cleanText_cleanText hescape]
  | .map entries => by rw [cleanValue, cleanValue, cleanEntries_cleanEntries hescape entries]
  | .list items => by rw [cleanValue, cleanValue, cleanItems_cleanItems hescape items]
  | .null => rfl
  | .bool _ => rfl
  | .int _ => rfl
  | .float _ => rfl
  | .tuple _ => rfl
  | .bytes _ => rfl
  | .moment _ => rfl
  | .date _ => rfl
  | .uuid _ => rfl

theorem cleanItems_cleanItems (hescape : .escapeMarkup ∉ s.options) :
    ∀ items : List Value, s.cleanItems (s.cleanItems items) = s.cleanItems items
  | [] => rfl
  | v :: rest => by
    rw [cleanItems, cleanItems, cleanValue_cleanValue hescape v, cleanItems_cleanItems hescape rest]

theorem cleanEntries_cleanEntries (hescape : .escapeMarkup ∉ s.options) :
    ∀ entries : List (String × Value), s.cleanEntries (s.cleanEntries entries) = s.cleanEntries entries
  | [] => rfl
  | (k, v) :: rest => by
    rw [cleanEntries, cleanEntries, cleanValue_cleanValue hescape v,
      cleanEntries_cleanEntries hescape rest]

end

theorem clean_of_isEmpty (h : s.fields.isEmpty = true) (v : Value) : s.clean v = s.cleanValue v := by
  cases v with
  | map entries => exact if_pos h
  | _ => rfl

theorem clean_map (h : ¬s.fields.isEmpty = true) (entries : List (String × Value)) :
    s.clean (.map entries) =
      .map (entries.map fun (k, v) => (k, if s.fields.contains k then s.cleanValue v else v)) :=
  if_neg h

/-- Cleaning a payload that was cleaned makes no difference, whatever is asked for but the escaping of
markup. -/
theorem clean_clean (hescape : .escapeMarkup ∉ s.options) (v : Value) :
    s.clean (s.clean v) = s.clean v := by
  by_cases hfields : s.fields.isEmpty = true
  · rw [clean_of_isEmpty hfields, clean_of_isEmpty hfields, cleanValue_cleanValue hescape]
  · cases v with
    | map entries =>
      rw [clean_map hfields, clean_map hfields, List.map_map]
      congr 2
      funext ⟨k, v⟩
      by_cases hk : s.fields.contains k = true
      · simp only [Function.comp_apply, if_pos hk, cleanValue_cleanValue hescape]
      · simp only [Function.comp_apply, if_neg hk]
    | _ => exact cleanValue_cleanValue hescape _

/-- For the names on cards: capitals on one line. -/
def forCards : Sanitizer := ⟨[.uppercase, .removeMarkup, .collapseBlanks, .trim], ["name"]⟩

def card : Value := .map [("name", .text " <b>stra\u00dfe</b>  7 "), ("note", .text " <i> ")]

theorem clean_clean_card : .escapeMarkup ∉ forCards.options ∧ forCards.clean (forCards.clean card) =
    .map [("name", .text "STRASSE 7"), ("note", .text " <i> ")] := by
  have hescape : .escapeMarkup ∉ forCards.options := by decide
  exact ⟨hescape, (clean_clean hescape card).trans (by cbv)⟩

end Intake.Sanitizer
