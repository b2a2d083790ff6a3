import Mathlib
import Intake.Text.Escaped

namespace Intake.Text

variable {c d : Char} {s t x y : List Char}

/-- The characters that markup is made of: the ends of tags and the quotes around values. -/
def marks : List Char := ['<', '>', '"', '\'']

/-- None of the characters that markup is made of. -/
def Unmarked (t : List Char) : Prop := ∀ c ∈ t, c ∉ marks

instance : DecidablePred Unmarked := fun t => List.decidableBAll _ t

theorem Unmarked.sublist (h : Unmarked t) (hs : s.Sublist t) : Unmarked s :=
  fun c hc => h c (hs.subset hc)

theorem unmarked_append : Unmarked (s ++ t) ↔ Unmarked s ∧ Unmarked t := List.forall_mem_append

theorem unmarked_escapedChar (c : Char) : Unmarked (escapedChar c) := by
  unfold escapedChar
  split_ifs with hamp hopen hclose hquote hsingle
  case neg => simp [Unmarked, marks, hopen, hclose, hquote, hsingle]
  all_goals decide +kernel

/-- Whatever a text says, there is no markup left in it once it is escaped. -/
theorem unmarked_escaped (t : List Char) : Unmarked (escaped t) := by
  intro d hd
  obtain ⟨c, -, hd⟩ := List.mem_flatMap.mp hd
  exact unmarked_escapedChar c d hd

theorem Unmarked.takeWhile_append (hx : Unmarked x) (s : List Char) :
    (x ++ '<' :: s).takeWhile (· ≠ '<') = x := by
  have hall : ∀ c ∈ x, decide (c ≠ '<') = true := by
    intro c hc
    have hmark := hx c hc
    simp only [marks, List.mem_cons, not_or] at hmark
    exact decide_eq_true hmark.1
  rw [List.takeWhile_append_of_pos hall, List.takeWhile_cons_of_neg (by simp), List.append_nil]

/-- What stands before the first tag can be told from the rest. -/
theorem Unmarked.append_inj (hx : Unmarked x) (hy : Unmarked y)
    (h : x ++ '<' :: s = y ++ '<' :: t) : x = y ∧ s = t := by
  have hfront : x = y := by rw [← hx.takeWhile_append s, h, hy.takeWhile_append t]
  subst hfront
  exact ⟨rfl, List.tail_eq_of_cons_eq (List.append_cancel_left h)⟩

/-- The first character of an escaped text, an entity read as the character that it stands for, and what
follows it. -/
def unescape? : List Char → Option (Char × List Char)
  | '&' :: 'a' :: 'm' :: 'p' :: ';' :: rest => some ('&', rest)
  | '&' :: 'l' :: 't' :: ';' :: rest => some ('<', rest)
  | '&' :: 'g' :: 't' :: ';' :: rest => some ('>', rest)
  | '&' :: 'q' :: 'u' :: 'o' :: 't' :: ';' :: rest => some ('"', rest)
  | '&' :: '#' :: 'x' :: '2' :: '7' :: ';' :: rest => some ('\'', rest)
  | c :: rest => some (c, rest)
  | [] => none

theorem unescape?_of_ne (h : c ≠ '&') (s : List Char) : unescape? (c :: s) = some (c, s) := by
  simp [unescape?, h]

theorem unescape?_escapedChar (c : Char) (s : List Char) :
    unescape? (escapedChar c ++ s) = some (c, s) := by
  unfold escapedChar
  split_ifs with hamp
  case neg => exact unescape?_of_ne hamp s
  all_goals
    subst c
    rfl

theorem unescape?_escaped_cons (c : Char) (t : List Char) :
    unescape? (escaped (c :: t)) = some (c, escaped t) := by
  rw [escaped, List.flatMap_cons]
  exact unescape?_escapedChar c (escaped t)

/-- An escaped text can be read in one way only. -/
theorem escaped_injective : Function.Injective escaped := by
  intro s t h
  induction s generalizing t with
  | nil =>
    cases t with
    | nil => rfl
    | cons d t =>
      have hnone := unescape?_escaped_cons d t
      rw [← h] at hnone
      cases hnone
  | cons c s ih =>
    have hfirst := unescape?_escaped_cons c s
    rw [h] at hfirst
    cases t with
    | nil => cases hfirst
    | cons d t =>
      rw [unescape?_escaped_cons] at hfirst
      obtain ⟨hc, hrest⟩ := Prod.mk.inj (Option.some.inj hfirst)
      rw [hc, ih hrest.symm]

end Intake.Text
