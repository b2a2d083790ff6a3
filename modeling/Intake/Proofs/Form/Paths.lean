import Intake.Proofs.Form.Storing

namespace Intake

namespace Value

/-- What stands in a value at the end of a path of names. -/
def at? : Value → List String → Option Value
  | v, [] => some v
  | .map es, name :: rest => (Table.get? es name).bind fun v => v.at? rest
  | _, _ :: _ => none

variable {v : Value} {es : Table Value} {name : String} {path rest : List String}

@[simp] theorem at?_nil (v : Value) : v.at? [] = some v := by
  cases v <;> rfl

@[simp] theorem at?_map_cons (es : Table Value) (name : String) (rest : List String) :
    (Value.map es).at? (name :: rest) = (Table.get? es name).bind fun v => v.at? rest := by
  rw [at?]

theorem at?_cons_of_not_map (h : ∀ es, v ≠ .map es) (name : String) (rest : List String) :
    v.at? (name :: rest) = none := by
  cases v with
  | map es => exact absurd rfl (h es)
  | _ => rfl

end Value

namespace Form

namespace Key

variable {a b c : Char} {s t part : List Char} {more : List (List Char)} {key first k : String}

theorem append_ofText (key : String) : (ofText key).append = endsInBrackets key.toList := rfl

theorem segments_of_separator (h : isSeparator c = true) : segments (c :: s) = segments s := by
  rw [segments.eq_def]
  exact if_pos h

theorem segments_singleton (h : ¬isSeparator a = true) : segments [a] = [[a]] := by
  rw [segments.eq_def]
  exact if_neg h

theorem segments_cons_separator (ha : ¬isSeparator a = true) (hb : isSeparator b = true) :
    segments (a :: b :: s) = [a] :: segments (b :: s) := by
  rw [segments.eq_def]
  exact (if_neg ha).trans (if_pos hb)

theorem segments_cons_inner (ha : ¬isSeparator a = true) (hb : ¬isSeparator b = true)
    (h : segments (b :: s) = part :: more) : segments (a :: b :: s) = (a :: part) :: more := by
  rw [segments.eq_def]
  refine (if_neg ha).trans ((if_neg hb).trans ?_)
  rw [h]

theorem exists_segments_cons (h : ¬isSeparator a = true) :
    ∃ part more, segments (a :: s) = part :: more := by
  induction s generalizing a with
  | nil => exact ⟨_, _, segments_singleton h⟩
  | cons b s ih =>
    by_cases hb : isSeparator b = true
    · exact ⟨_, _, segments_cons_separator h hb⟩
    · obtain ⟨part, more, hparts⟩ := ih hb
      exact ⟨_, _, segments_cons_inner h hb hparts⟩

/-- A separator ends what stands before it. -/
theorem segments_append (h : isSeparator c = true) :
    segments (s ++ c :: t) = segments s ++ segments t := by
  induction s with
  | nil => exact segments_of_separator h
  | cons a s ih =>
    by_cases ha : isSeparator a = true
    · rw [List.cons_append, segments_of_separator ha, segments_of_separator ha, ih]
    cases s with
    | nil =>
      rw [List.cons_append, List.nil_append, segments_cons_separator ha h, segments_singleton ha,
        segments_of_separator h]
      rfl
    | cons b s =>
      rw [List.cons_append] at ih
      rw [List.cons_append, List.cons_append]
      by_cases hb : isSeparator b = true
      · rw [segments_cons_separator ha hb, segments_cons_separator ha hb, ih, List.cons_append]
      · obtain ⟨part, more, hparts⟩ := exists_segments_cons (s := s) hb
        rw [hparts, List.cons_append] at ih
        rw [segments_cons_inner ha hb ih, segments_cons_inner ha hb hparts, List.cons_append]

theorem segments_of_inner (hne : s ≠ []) (h : ∀ c ∈ s, isSeparator c = false) : segments s = [s] := by
  induction s with
  | nil => exact absurd rfl hne
  | cons a s ih =>
    have ha : ¬isSeparator a = true := by simp [h a List.mem_cons_self]
    have hrest := fun c hc => h c (List.mem_cons_of_mem a hc)
    cases s with
    | nil => exact segments_singleton ha
    | cons b s =>
      have hb : ¬isSeparator b = true := by simp [hrest b List.mem_cons_self]
      exact segments_cons_inner ha hb (ih (List.cons_ne_nil _ _) hrest)

/-- The stretches between separators, with the empty ones. A bracket that closes a name is one separator
with the bracket or the point behind it. -/
def pieces : List Char → List (List Char)
  | [] => [[]]
  | ']' :: '[' :: rest => [] :: pieces rest
  | '[' :: rest => [] :: pieces rest
  | ']' :: '.' :: rest => [] :: pieces rest
  | ']' :: rest => [] :: pieces rest
  | '.' :: rest => [] :: pieces rest
  | c :: rest => (pieces rest).modifyHead (c :: ·)

theorem exists_pieces_of_separator (h : isSeparator c = true) (s : List Char) :
    ∃ more, pieces (c :: s) = [] :: more := by
  rw [pieces.eq_def]
  split <;> simp_all [isSeparator]

theorem pieces_of_inner (h : ¬isSeparator c = true) (s : List Char) :
    pieces (c :: s) = (pieces s).modifyHead (c :: ·) := by
  rw [pieces.eq_def]
  split <;> simp_all [isSeparator]

theorem exists_pieces_cons (s : List Char) : ∃ part more, pieces s = part :: more := by
  induction s with
  | nil => exact ⟨[], [], rfl⟩
  | cons c s ih =>
    by_cases hc : isSeparator c = true
    · exact ⟨[], exists_pieces_of_separator hc s⟩
    · obtain ⟨part, more, hparts⟩ := ih
      exact ⟨c :: part, more, by rw [pieces_of_inner hc, hparts, List.modifyHead_cons]⟩

/-- However separators are joined to one, the same stretches that are not empty stand between them. -/
theorem segments_eq_filter_pieces (s : List Char) :
    segments s = (pieces s).filter fun part => !part.isEmpty := by
  fun_induction pieces s with
  | case1 => rfl
  | case2 rest ih | case4 rest ih =>
    rw [segments_of_separator rfl, segments_of_separator rfl, ih]
    rfl
  | case3 rest ih | case5 rest _ _ ih | case6 rest ih =>
    rw [segments_of_separator rfl, ih]
    rfl
  | case7 c rest _ hopen _ hclose hpoint ih =>
    have hc : ¬isSeparator c = true := by simpa [isSeparator] using ⟨⟨hopen, hclose⟩, hpoint⟩
    cases rest with
    | nil => exact segments_singleton hc
    | cons d rest =>
      by_cases hd : isSeparator d = true
      · obtain ⟨more, hmore⟩ := exists_pieces_of_separator hd rest
        rw [segments_cons_separator hc hd, ih, hmore]
        rfl
      · obtain ⟨part, more, hparts⟩ := exists_pieces_cons rest
        have hpieces : pieces (d :: rest) = (d :: part) :: more := by
          rw [pieces_of_inner hd, hparts, List.modifyHead_cons]
        rw [hpieces] at ih ⊢
        exact segments_cons_inner hc hd ih

/-- Names that brackets and points cannot be taken for parts of. -/
structure IsName (k : String) : Prop where
  not_empty : k ≠ ""
  inner : ∀ c ∈ k.toList, isSeparator c = false

instance (k : String) : Decidable (IsName k) :=
  decidable_of_iff (k ≠ "" ∧ k.toList.all (fun c => !isSeparator c) = true)
    ⟨fun ⟨hne, hinner⟩ => ⟨hne, by simpa using hinner⟩, fun h => ⟨h.not_empty, by simpa using h.inner⟩⟩

/-- How a further name is marked off from what stands before it. -/
inductive Mark where
  | brackets
  | point

def Mark.set : Mark → String → String
  | .brackets, k => "[" ++ k ++ "]"
  | .point, k => "." ++ k

/-- A first name and further ones as a key is written. -/
def written (first : String) (further : List (Mark × String)) : String :=
  further.foldl (fun key part => key ++ part.1.set part.2) first

theorem segments_set (hk : IsName k) (m : Mark) (key : String) :
    segments (key ++ m.set k).toList = segments key.toList ++ [k.toList] := by
  have hne : k.toList ≠ [] := mt String.toList_eq_nil_iff.mp hk.not_empty
  cases m with
  | brackets =>
    have htext : (key ++ Mark.brackets.set k).toList = key.toList ++ '[' :: (k.toList ++ ']' :: []) := by
      simp [Mark.set]
    rw [htext, segments_append rfl, segments_append rfl, segments_of_inner hne hk.inner]
    rfl
  | point =>
    have htext : (key ++ Mark.point.set k).toList = key.toList ++ '.' :: k.toList := by
      simp [Mark.set]
    rw [htext, segments_append rfl, segments_of_inner hne hk.inner]

theorem segments_written {further : List (Mark × String)} (h : ∀ part ∈ further, IsName part.2)
    (key : String) :
    segments (written key further).toList =
      segments key.toList ++ further.map fun part => part.2.toList := by
  induction further generalizing key with
  | nil => exact (List.append_nil _).symm
  | cons part further ih =>
    obtain ⟨hpart, hfurther⟩ := List.forall_mem_cons.mp h
    rw [written, List.foldl_cons, ← written, ih hfurther, segments_set hpart, List.append_assoc]
    rfl

theorem IsName.exists_concat (hk : IsName k) : ∃ init c, k.toList = init ++ [c] ∧ isSeparator c = false := by
  rcases List.eq_nil_or_concat k.toList with hnil | ⟨init, c, hlist⟩
  · exact absurd (String.toList_eq_nil_iff.mp hnil) hk.not_empty
  · rw [List.concat_eq_append] at hlist
    exact ⟨init, c, hlist, hk.inner c (by simp [hlist])⟩

theorem not_endsInBrackets_append (hk : IsName k) (s : List Char) :
    endsInBrackets (s ++ k.toList) = false := by
  obtain ⟨init, c, hlist, hc⟩ := hk.exists_concat
  rw [endsInBrackets, Bool.eq_false_iff, ne_eq, List.isSuffixOf_iff_suffix, hlist]
  rintro ⟨start, hsuffix⟩
  have hchars : (start ++ ['[']) ++ [']'] = (s ++ init) ++ [c] := by simpa using hsuffix
  obtain ⟨-, hlast⟩ := List.append_inj' hchars rfl
  obtain rfl : ']' = c := by simpa using hlast
  cases hc

/-- The bracket at the end closes a name, and the name is not empty. -/
theorem not_endsInBrackets_closed (hk : IsName k) (s : List Char) :
    endsInBrackets (s ++ k.toList ++ [']']) = false := by
  obtain ⟨init, c, hlist, hc⟩ := hk.exists_concat
  rw [endsInBrackets, Bool.eq_false_iff, ne_eq, List.isSuffixOf_iff_suffix, hlist]
  rintro ⟨start, hsuffix⟩
  have hchars : (start ++ ['[']) ++ [']'] = ((s ++ init) ++ [c]) ++ [']'] := by simpa using hsuffix
  obtain ⟨hfront, -⟩ := List.append_inj' hchars rfl
  obtain ⟨-, hlast⟩ := List.append_inj' hfront rfl
  obtain rfl : '[' = c := by simpa using hlast
  cases hc

theorem not_endsInBrackets_set (hk : IsName k) (m : Mark) (key : String) :
    endsInBrackets (key ++ m.set k).toList = false := by
  cases m with
  | brackets =>
    have htext : (key ++ Mark.brackets.set k).toList = (key.toList ++ ['[']) ++ k.toList ++ [']'] := by
      simp [Mark.set]
    rw [htext, not_endsInBrackets_closed hk]
  | point =>
    have htext : (key ++ Mark.point.set k).toList = (key.toList ++ ['.']) ++ k.toList := by
      simp [Mark.set]
    rw [htext, not_endsInBrackets_append hk]

theorem not_endsInBrackets_written {further : List (Mark × String)} (hfirst : IsName first)
    (h : ∀ part ∈ further, IsName part.2) : endsInBrackets (written first further).toList = false := by
  rcases List.eq_nil_or_concat further with rfl | ⟨init, part, rfl⟩
  · exact not_endsInBrackets_append hfirst []
  · rw [List.concat_eq_append, written, List.foldl_append]
    exact not_endsInBrackets_set (h part (by simp)) _ _

theorem ofText_of_plain (h : endsInBrackets key.toList = false) :
    ofText key = ⟨(segments key.toList).map String.ofList, false⟩ := by
  simp only [ofText, h, Bool.false_eq_true, if_false]

theorem ofText_append_brackets (key : String) :
    ofText (key ++ "[]") = ⟨(segments key.toList).map String.ofList, true⟩ := by
  have htext : (key ++ "[]").toList = key.toList ++ ['[', ']'] := by simp
  have hends : endsInBrackets (key.toList ++ ['[', ']']) = true :=
    List.isSuffixOf_iff_suffix.mpr (List.suffix_append _ _)
  have hdrop : (key.toList ++ ['[', ']']).dropLast.dropLast = key.toList := by simp
  simp only [ofText, htext, hends, if_true, hdrop]

/-- The names on the path of a key that is written. -/
theorem path_written {further : List (Mark × String)} (hfirst : IsName first)
    (h : ∀ part ∈ further, IsName part.2) :
    (segments (written first further).toList).map String.ofList = first :: further.map Prod.snd := by
  have hne : first.toList ≠ [] := mt String.toList_eq_nil_iff.mp hfirst.not_empty
  rw [segments_written h, segments_of_inner hne hfirst.inner, List.map_append, List.map_map]
  simp [Function.comp_def]

/-- A key is taken apart into the names that it is written with, in brackets or behind points, and asks for
an append exactly if `[]` is written behind them. -/
theorem ofText_written {further : List (Mark × String)} (hfirst : IsName first)
    (h : ∀ part ∈ further, IsName part.2) :
    ofText (written first further) = ⟨first :: further.map Prod.snd, false⟩ ∧
      ofText (written first further ++ "[]") = ⟨first :: further.map Prod.snd, true⟩ := by
  constructor
  · rw [ofText_of_plain (not_endsInBrackets_written hfirst h), path_written hfirst h]
  · rw [ofText_append_brackets, path_written hfirst h]

theorem ofText_written_order :
    ofText "order[lines].0[sku]" = ⟨["order", "lines", "0", "sku"], false⟩ ∧
      ofText "order[lines].0[sku][]" = ⟨["order", "lines", "0", "sku"], true⟩ := by
  have hfirst : IsName "order" := by decide
  have hfurther : ∀ part ∈ [(Mark.brackets, "lines"), (.point, "0"), (.brackets, "sku")], IsName part.2 := by
    decide
  exact ofText_written hfirst hfurther

end Key

/-- Neither of two paths begins the other. -/
def Apart (p q : List String) : Prop := ¬p <+: q ∧ ¬q <+: p

instance (p q : List String) : Decidable (Apart p q) := inferInstanceAs (Decidable (_ ∧ _))

variable {p q : List String} {name other : String}

theorem Apart.symm (h : Apart p q) : Apart q p := ⟨h.2, h.1⟩

theorem Apart.exists_cons (h : Apart p q) : ∃ name rest, p = name :: rest := by
  cases p with
  | nil => exact absurd (List.nil_prefix) h.1
  | cons name rest => exact ⟨name, rest, rfl⟩

/-- Paths with the same first name are apart as what follows is. -/
theorem apart_cons : Apart (name :: p) (name :: q) ↔ Apart p q := by
  simp [Apart, List.cons_prefix_cons]

end Form

end Intake
