import Intake.Proofs.Escaped
import Intake.Report.Summary

namespace Intake

open Text

variable {i j : Issue} {is js : List Issue} {s t m n : List Char}

namespace Report

/-- What is written of an issue: its place and its message. -/
def written (i : Issue) : String × String := (i.path, i.message)

theorem itemHtml_append_of_no_path (h : i.path = "") (s : List Char) : itemHtml i ++ s =
    "<li>".toList ++ (escaped i.message.toList ++ '<' :: ("/li>".toList ++ s)) := by
  rw [itemHtml, if_pos h]
  simp

theorem itemHtml_append_of_path (h : i.path ≠ "") (s : List Char) : itemHtml i ++ s =
    "<li>".toList ++ '<' :: ("strong>".toList ++ (escaped i.path.toList ++ [':'] ++ '<' ::
      ("/strong> ".toList ++ (escaped i.message.toList ++ '<' :: ("/li>".toList ++ s))))) := by
  rw [itemHtml, if_neg h]
  simp

/-- A message ends where the first tag behind it starts. -/
theorem message_append_inj
    (h : escaped m ++ '<' :: ("/li>".toList ++ s) = escaped n ++ '<' :: ("/li>".toList ++ t)) :
    m = n ∧ s = t := by
  obtain ⟨hmessage, hrest⟩ := (unmarked_escaped m).append_inj (unmarked_escaped n) h
  exact ⟨escaped_injective hmessage, List.append_cancel_left hrest⟩

/-- A place ends where the first tag behind it starts. -/
theorem place_append_inj (h : escaped m ++ [':'] ++ '<' :: s = escaped n ++ [':'] ++ '<' :: t) :
    m = n ∧ s = t := by
  have hlabel (p : List Char) : Unmarked (escaped p ++ [':']) :=
    unmarked_append.mpr ⟨unmarked_escaped p, by decide⟩
  obtain ⟨hplace, hrest⟩ := (hlabel m).append_inj (hlabel n) h
  exact ⟨escaped_injective (List.append_cancel_right hplace), hrest⟩

/-- No message looks like the start of a label. -/
theorem message_ne_label (m s t : List Char) :
    escaped m ++ '<' :: ("/li>".toList ++ s) ≠ '<' :: ("strong>".toList ++ t) := by
  intro h
  have hnil : Unmarked [] := by decide
  obtain ⟨-, hrest⟩ := (unmarked_escaped m).append_inj hnil h
  simp at hrest

/-- An item shows where it ends, and what it is written for. -/
theorem itemHtml_append_inj (h : itemHtml i ++ s = itemHtml j ++ t) : written i = written j ∧ s = t := by
  -- An escaped message holds no `<`, so the first one behind `<li>` is at its front just with a label.
  by_cases hi : i.path = "" <;> by_cases hj : j.path = ""
  · rw [itemHtml_append_of_no_path hi, itemHtml_append_of_no_path hj] at h
    obtain ⟨hmessage, hrest⟩ := message_append_inj (List.append_cancel_left h)
    exact ⟨Prod.ext (hi.trans hj.symm) (String.toList_injective hmessage), hrest⟩
  · rw [itemHtml_append_of_no_path hi, itemHtml_append_of_path hj] at h
    exact absurd (List.append_cancel_left h) (message_ne_label _ _ _)
  · rw [itemHtml_append_of_path hi, itemHtml_append_of_no_path hj] at h
    exact absurd (List.append_cancel_left h).symm (message_ne_label _ _ _)
  · rw [itemHtml_append_of_path hi, itemHtml_append_of_path hj] at h
    have hlabel := List.append_cancel_left (List.tail_eq_of_cons_eq (List.append_cancel_left h))
    obtain ⟨hplace, hrest⟩ := place_append_inj hlabel
    obtain ⟨hmessage, hrest⟩ := message_append_inj (List.append_cancel_left hrest)
    exact ⟨Prod.ext (String.toList_injective hplace) (String.toList_injective hmessage), hrest⟩

/-- The end of a list is not the start of a further item. -/
theorem closing_ne_item (i : Issue) (t : List Char) : "</ul></div>".toList ≠ itemHtml i ++ t := by
  by_cases hi : i.path = ""
  · rw [itemHtml_append_of_no_path hi]
    simp
  · rw [itemHtml_append_of_path hi]
    simp

theorem items_append_inj
    (h : is.flatMap itemHtml ++ "</ul></div>".toList = js.flatMap itemHtml ++ "</ul></div>".toList) :
    is.map written = js.map written := by
  induction is generalizing js with
  | nil =>
    cases js with
    | nil => rfl
    | cons j js =>
      rw [List.flatMap_cons, List.append_assoc] at h
      exact absurd h (closing_ne_item j _)
  | cons i is ih =>
    rw [List.flatMap_cons, List.append_assoc] at h
    cases js with
    | nil => exact absurd h.symm (closing_ne_item i _)
    | cons j js =>
      rw [List.flatMap_cons, List.append_assoc] at h
      obtain ⟨hfirst, hrest⟩ := itemHtml_append_inj h
      rw [List.map_cons, List.map_cons, hfirst, ih hrest]

theorem html_of_ne_nil (h : is ≠ []) : html is = String.ofList
    ("<div class=\"validation-errors\"><ul>".toList ++ (is.flatMap itemHtml ++
      "</ul></div>".toList)) := by
  rw [html, if_neg (by simpa using h), List.append_assoc]

theorem html_eq_empty_iff : html is = "" ↔ is = [] := by
  constructor
  · intro h
    by_contra hne
    rw [html_of_ne_nil hne] at h
    have hlist := congrArg String.toList h
    simp at hlist
  · rintro rfl
    rfl

/-- An issue with nothing but what is written of it. -/
def bare (p : String × String) : Issue := .plain p.1 p.2 "" none

theorem html_map_bare (is : List Issue) : html ((is.map written).map bare) = html is := by
  have hitem (i : Issue) : itemHtml (bare (written i)) = itemHtml i := rfl
  simp only [html, List.isEmpty_map, List.flatMap_map, hitem]

/-- Markup tells how many issues there are, in which order, and for each of them its place and its
message; nothing else. Whatever these say, they are not taken for a tag, a label or a further item. -/
theorem html_eq_html_iff (is js : List Issue) : html is = html js ↔ is.map written = js.map written := by
  constructor
  · intro h
    by_cases his : is = []
    · have hjs : js = [] := html_eq_empty_iff.mp (h ▸ html_eq_empty_iff.mpr his)
      rw [his, hjs]
    · have hjs : js ≠ [] := fun hnil =>
        his (html_eq_empty_iff.mp (h.trans (html_eq_empty_iff.mpr hnil)))
      rw [html_of_ne_nil his, html_of_ne_nil hjs] at h
      exact items_append_inj (List.append_cancel_left (String.ofList_injective h))
  · intro h
    rw [← html_map_bare is, h, html_map_bare]

end Report

end Intake
