import Intake.Proofs.Coercion.Integers
import Intake.Proofs.Coercion.Registry
import Intake.Proofs.Schema.Bindings

namespace Intake

namespace TypeName

/-- The canonical names of spellings: those of built-in types, the spelling itself where it is not known,
and containers around the name of what is in them. -/
inductive Named : List Char → List Char → Prop where
  | term {s : List Char} (t : TypeTerm) (h : alias? (Text.trim s) = some t.name) : Named s t.chars
  | unknown {s : List Char} (halias : alias? (Text.trim s) = none) (h : container? (Text.trim s) = none) :
      Named s (Text.trim s)
  | bare {s word inner : List Char} (h : container? (Text.trim s) = some (word, inner))
      (hinner : Text.trim inner = []) :
      Named s (if isListWord word then TypeTerm.list .any else .dict .any).chars
  | list {s word inner name : List Char} (h : container? (Text.trim s) = some (word, inner))
      (hword : isListWord word = true) (hinner : Text.trim inner ≠ []) (hname : Named inner name) :
      Named s ("list[".toList ++ (name ++ [']']))
  | dict {s word inner name : List Char} (h : container? (Text.trim s) = some (word, inner))
      (hword : isListWord word = false) (hinner : Text.trim inner ≠ []) (hname : Named (lastPart inner) name) :
      Named s ("dict[".toList ++ (name ++ [']']))

/-- A spelling in which nothing stands behind the last comma of a map, so that the type of its values has
no name. -/
inductive OmitsValue : List Char → Prop where
  | here {s word inner : List Char} (h : container? (Text.trim s) = some (word, inner))
      (hword : isListWord word = false) (hinner : Text.trim inner ≠ [])
      (hlast : Text.trim (lastPart inner) = []) : OmitsValue s
  | list {s word inner : List Char} (h : container? (Text.trim s) = some (word, inner))
      (hword : isListWord word = true) (hinner : OmitsValue inner) : OmitsValue s
  | dict {s word inner : List Char} (h : container? (Text.trim s) = some (word, inner))
      (hword : isListWord word = false) (hlast : OmitsValue (lastPart inner)) : OmitsValue s

variable {s t word inner name : List Char} {c : Char}

/-- What stands for a type without an argument is the name of a built-in type. -/
theorem exists_term_of_alias? {a : String} (h : alias? s = some a) : ∃ t : TypeTerm, t.name = a := by
  have hall : ∀ e ∈ aliases, ∃ t ∈ [TypeTerm.str, .int, .int32, .float, .bool, .datetime, .date, .uuid,
      .list .any, .dict .any, .any], t.name = e.2 := by
    decide
  obtain ⟨before, after, haliases, -⟩ := List.lookup_eq_some_iff.mp h
  have hmem : (String.ofList (Text.lower s), a) ∈ aliases :=
    haliases ▸ List.mem_append_right _ List.mem_cons_self
  obtain ⟨t, -, ht⟩ := hall _ hmem
  exact ⟨t, ht⟩

theorem named_canonicalChars (s : List Char) : Named s (canonicalChars s) := by
  fun_induction canonicalChars s with
  | case1 s a halias =>
    obtain ⟨t, rfl⟩ := exists_term_of_alias? halias
    exact .term t halias
  | case2 s halias hcontainer => exact .unknown halias hcontainer
  | case3 s halias word inner hcontainer isEmpty hword ih =>
    rw [List.append_assoc]
    split_ifs with hempty
    · have hbare := Named.bare hcontainer (List.isEmpty_iff.mp hempty)
      rwa [if_pos hword] at hbare
    · exact .list hcontainer hword (mt List.isEmpty_iff.mpr hempty) ih
  | case4 s halias word inner hcontainer isEmpty hword ih =>
    rw [List.append_assoc]
    split_ifs with hempty
    · have hbare := Named.bare hcontainer (List.isEmpty_iff.mp hempty)
      rwa [if_neg hword] at hbare
    · exact .dict hcontainer (Bool.eq_false_iff.mpr hword) (mt List.isEmpty_iff.mpr hempty) ih

theorem lastPart_subset (s : List Char) : lastPart s ⊆ s := by
  intro c hc
  have htaken := (List.takeWhile_sublist _).subset (List.mem_reverse.mp hc)
  exact List.mem_reverse.mp htaken

theorem comma_not_mem_lastPart (s : List Char) : ',' ∉ lastPart s := by
  intro h
  have htaken := List.mem_takeWhile_imp (List.mem_reverse.mp h)
  exact of_decide_eq_true htaken rfl

theorem trim_lastPart_eq_nil (h : Text.trim s = []) : Text.trim (lastPart s) = [] :=
  Text.trim_eq_nil_iff.mpr fun c hc => Text.trim_eq_nil_iff.mp h c (lastPart_subset s hc)

theorem trim_ne_nil_of_container? (h : container? (Text.trim s) = some (word, inner)) :
    Text.trim s ≠ [] := by
  intro hnil
  rw [hnil] at h
  cases h

theorem container?_of_alias? {a : String} (h : alias? s = some a) : container? s = none := by
  cases hcontainer : container? s with
  | none => rfl
  | some found => cases h.symm.trans (TypeTerm.alias?_of_container? hcontainer)

theorem subset_of_container? (h : container? (Text.trim s) = some (word, inner)) : inner ⊆ s :=
  fun _ hc => (Text.isInfix_trim s).subset ((TypeTerm.of_container? h).2.1 hc)

theorem lineBreak_not_mem_inner (h : container? (Text.trim s) = some (word, inner)) : '\n' ∉ inner :=
  (TypeTerm.of_container? h).2.2

theorem lineBreak_not_mem_lastPart (h : container? (Text.trim s) = some (word, inner)) :
    '\n' ∉ lastPart inner :=
  mt (lastPart_subset inner ·) (lineBreak_not_mem_inner h)

theorem OmitsValue.trim_ne_nil (h : OmitsValue s) : Text.trim s ≠ [] := by
  cases h with
  | here h => exact trim_ne_nil_of_container? h
  | list h => exact trim_ne_nil_of_container? h
  | dict h => exact trim_ne_nil_of_container? h

theorem not_omitsValue_of_container? (h : container? (Text.trim s) = none) : ¬OmitsValue s := by
  intro homits
  cases homits with
  | here h' => cases h.symm.trans h'
  | list h' => cases h.symm.trans h'
  | dict h' => cases h.symm.trans h'

theorem omitsValue_list_iff (h : container? (Text.trim s) = some (word, inner))
    (hword : isListWord word = true) : OmitsValue s ↔ OmitsValue inner := by
  constructor
  · intro homits
    cases homits with
    | here h' hword' =>
      cases h.symm.trans h'
      cases hword.symm.trans hword'
    | list h' _ hinner =>
      cases h.symm.trans h'
      exact hinner
    | dict h' hword' =>
      cases h.symm.trans h'
      cases hword.symm.trans hword'
  · exact .list h hword

theorem omitsValue_dict_iff (h : container? (Text.trim s) = some (word, inner))
    (hword : isListWord word = false) : OmitsValue s ↔
      (Text.trim inner ≠ [] ∧ Text.trim (lastPart inner) = []) ∨ OmitsValue (lastPart inner) := by
  constructor
  · intro homits
    cases homits with
    | here h' _ hinner hlast =>
      cases h.symm.trans h'
      exact .inl ⟨hinner, hlast⟩
    | list h' hword' =>
      cases h.symm.trans h'
      cases hword.symm.trans hword'
    | dict h' _ hlast =>
      cases h.symm.trans h'
      exact .inr hlast
  · rintro (⟨hinner, hlast⟩ | hlast)
    · exact .here h hword hinner hlast
    · exact .dict h hword hlast

theorem not_omitsValue_bare (h : container? (Text.trim s) = some (word, inner))
    (hinner : Text.trim inner = []) : ¬OmitsValue s := by
  intro homits
  cases hword : isListWord word with
  | true => exact ((omitsValue_list_iff h hword).mp homits).trim_ne_nil hinner
  | false =>
    rcases (omitsValue_dict_iff h hword).mp homits with ⟨hne, -⟩ | hlast
    · exact hne hinner
    · exact hlast.trim_ne_nil (trim_lastPart_eq_nil hinner)

namespace Named

/-- A canonical name has no character that parts names or lines but those of its spelling. -/
theorem not_mem (h : Named s t) (hc : c = '\n' ∨ c = ',') (hs : c ∉ s) : c ∉ t := by
  have hchars (t : TypeTerm) : c ∉ t.chars := by
    rcases hc with rfl | rfl
    · exact t.lineBreak_not_mem_chars
    · exact fun hmem => (TypeTerm.plain_of_mem_chars hmem).2.2.2 rfl
  induction h with
  | term t => exact hchars t
  | unknown => exact mt ((Text.isInfix_trim _).subset ·) hs
  | bare => exact hchars _
  | list h hword hinner hname ih =>
    have hname := ih (mt (subset_of_container? h ·) hs)
    rcases hc with rfl | rfl <;> simpa using hname
  | dict h hword hinner hname ih =>
    have hname := ih (mt (fun hmem => subset_of_container? h (lastPart_subset _ hmem)) hs)
    rcases hc with rfl | rfl <;> simpa using hname

/-- Only blanks have an empty name. -/
theorem eq_nil_iff (h : Named s t) : t = [] ↔ Text.trim s = [] := by
  cases h with
  | term t h =>
    refine iff_of_false t.chars_ne_nil fun hnil => ?_
    rw [hnil] at h
    cases h
  | unknown => rfl
  | bare h => exact iff_of_false (TypeTerm.chars_ne_nil _) (trim_ne_nil_of_container? h)
  | list h => exact iff_of_false (List.cons_ne_nil _ _) (trim_ne_nil_of_container? h)
  | dict h => exact iff_of_false (List.cons_ne_nil _ _) (trim_ne_nil_of_container? h)

end Named

theorem canonicalChars_of_blank (h : Text.trim s = []) : canonicalChars s = [] :=
  (named_canonicalChars s).eq_nil_iff.mpr h

/-- A container without an argument is one of anything. -/
theorem canonicalChars_container_blank (hinner : Text.trim inner = [])
    (h : container? (Text.trim s) = some (word, inner)) :
    canonicalChars s = (if isListWord word then TypeTerm.list .any else .dict .any).chars := by
  have hempty : (Text.trim inner).isEmpty = true := List.isEmpty_iff.mpr hinner
  rw [TypeTerm.canonicalChars_of_container? h, if_pos hempty, if_pos hempty]
  split_ifs
  · rfl
  · rfl

theorem canonicalChars_of_unknown (halias : alias? (Text.trim s) = none)
    (h : container? (Text.trim s) = none) : canonicalChars s = Text.trim s := by
  rw [canonicalChars, halias]
  dsimp only
  split
  · rfl
  · next hsome => exact absurd (hsome.symm.trans h) (by simp)

/-- Brackets with a line break between them make no container. -/
theorem canonicalChars_of_lineBreak {head : List Char} (hhead : head = "list[".toList ∨ head = "dict[".toList)
    (h : '\n' ∈ s) : canonicalChars (head ++ (s ++ [']'])) = head ++ (s ++ [']']) := by
  have htrim : Text.trim (head ++ (s ++ [']'])) = head ++ (s ++ [']']) := TypeTerm.trim_enclosed hhead
  have hcontainer : container? (head ++ (s ++ [']'])) = none := by
    rcases hhead with rfl | rfl
    · exact (TypeTerm.container?_listed s).trans (if_pos h)
    · exact (TypeTerm.container?_mapped s).trans (if_pos h)
  rw [← htrim] at hcontainer
  rw [canonicalChars_of_unknown (htrim.symm ▸ TypeTerm.alias?_enclosed) hcontainer, htrim]

/-- A container without an argument gets one. -/
theorem canonicalChars_enclosed_ne_self {head : List Char}
    (hhead : head = "list[".toList ∨ head = "dict[".toList) (hline : '\n' ∉ s) (hblank : Text.trim s = []) :
    canonicalChars (head ++ (s ++ [']'])) ≠ head ++ (s ++ [']']) := by
  have hany : "any".toList ≠ s := by
    rintro rfl
    exact absurd hblank (by decide)
  rcases hhead with rfl | rfl
  · rw [canonicalChars_container_blank hblank (TypeTerm.container?_trim_listed hline), if_pos (by decide),
      TypeTerm.chars_list]
    exact mt TypeTerm.enclosed_inj.mp hany
  · rw [canonicalChars_container_blank hblank (TypeTerm.container?_trim_mapped hline), if_neg (by decide),
      TypeTerm.chars_dict]
    exact mt TypeTerm.enclosed_inj.mp hany

theorem canonicalChars_listed_eq_self_iff :
    canonicalChars ("list[".toList ++ (s ++ [']'])) = "list[".toList ++ (s ++ [']']) ↔
      '\n' ∈ s ∨ s ≠ [] ∧ canonicalChars s = s := by
  by_cases hline : '\n' ∈ s
  · exact iff_of_true (canonicalChars_of_lineBreak (.inl rfl) hline) (.inl hline)
  · rw [or_iff_right hline]
    by_cases hblank : Text.trim s = []
    · refine iff_of_false (canonicalChars_enclosed_ne_self (.inl rfl) hline hblank) fun h => h.1 ?_
      exact h.2.symm.trans (canonicalChars_of_blank hblank)
    · have hne : s ≠ [] := by
        rintro rfl
        exact hblank rfl
      rw [TypeTerm.canonicalChars_listed hline hblank, TypeTerm.enclosed_inj, and_iff_right hne]

theorem canonicalChars_mapped_eq_self_iff :
    canonicalChars ("dict[".toList ++ (s ++ [']'])) = "dict[".toList ++ (s ++ [']']) ↔
      '\n' ∈ s ∨ s ≠ [] ∧ canonicalChars s = s ∧ ',' ∉ s := by
  by_cases hline : '\n' ∈ s
  · exact iff_of_true (canonicalChars_of_lineBreak (.inr rfl) hline) (.inl hline)
  · rw [or_iff_right hline]
    by_cases hblank : Text.trim s = []
    · refine iff_of_false (canonicalChars_enclosed_ne_self (.inr rfl) hline hblank) fun h => h.1 ?_
      exact h.2.1.symm.trans (canonicalChars_of_blank hblank)
    · have hne : s ≠ [] := by
        rintro rfl
        exact hblank rfl
      rw [TypeTerm.canonicalChars_mapped hline hblank, TypeTerm.enclosed_inj, and_iff_right hne]
      constructor
      · intro h
        -- What is taken of the argument is all of it, so that there is no comma in it.
        have hcomma := (named_canonicalChars (lastPart s)).not_mem (.inr rfl) (comma_not_mem_lastPart s)
        rw [h] at hcomma
        rw [lastPart_of_not_mem hcomma] at h
        exact ⟨h, hcomma⟩
      · rintro ⟨h, hcomma⟩
        rwa [lastPart_of_not_mem hcomma]

/-- The name of a spelling stays as it is exactly if the spelling omits no type of values. -/
theorem Named.canonicalChars_eq_self_iff (h : Named s t) : canonicalChars t = t ↔ ¬OmitsValue s := by
  induction h with
  | term t h => exact iff_of_true t.canonicalChars_chars (not_omitsValue_of_container? (container?_of_alias? h))
  | @unknown s halias h =>
    have htrim := Text.trim_trim s
    refine iff_of_true ?_ (not_omitsValue_of_container? h)
    rw [canonicalChars_of_unknown (htrim.symm ▸ halias) (htrim.symm ▸ h), htrim]
  | bare h hinner => exact iff_of_true (TypeTerm.canonicalChars_chars _) (not_omitsValue_bare h hinner)
  | list h hword hinner hname ih =>
    have hline := hname.not_mem (.inl rfl) (lineBreak_not_mem_inner h)
    have hne := mt hname.eq_nil_iff.mp hinner
    rw [canonicalChars_listed_eq_self_iff, or_iff_right hline, and_iff_right hne, ih,
      omitsValue_list_iff h hword]
  | dict h hword hinner hname ih =>
    have hline := hname.not_mem (.inl rfl) (lineBreak_not_mem_lastPart h)
    have hcomma := hname.not_mem (.inr rfl) (comma_not_mem_lastPart _)
    rw [canonicalChars_mapped_eq_self_iff, or_iff_right hline, and_iff_left hcomma, ne_eq, hname.eq_nil_iff, ih,
      omitsValue_dict_iff h hword, and_iff_right hinner, not_or]

/-- A name that stays as it is omits no type of values. -/
theorem not_omitsValue_of_canonicalChars_eq_self (h : canonicalChars s = s) : ¬OmitsValue s := by
  have hnamed := named_canonicalChars s
  rw [h] at hnamed
  exact hnamed.canonicalChars_eq_self_iff.mp h

/-- Whatever a spelling omits, its name omits nothing. -/
theorem Named.not_omitsValue (h : Named s t) : ¬OmitsValue t := by
  induction h with
  | term t => exact not_omitsValue_of_canonicalChars_eq_self t.canonicalChars_chars
  | @unknown s halias h =>
    exact not_omitsValue_of_container? ((Text.trim_trim s).symm ▸ h)
  | bare => exact not_omitsValue_of_canonicalChars_eq_self (TypeTerm.canonicalChars_chars _)
  | @list s word inner name h hword hinner hname ih =>
    have hline := hname.not_mem (.inl rfl) (lineBreak_not_mem_inner h)
    rwa [omitsValue_list_iff (TypeTerm.container?_trim_listed hline) (by decide)]
  | @dict s word inner name h hword hinner hname ih =>
    have hline := hname.not_mem (.inl rfl) (lineBreak_not_mem_lastPart h)
    have hcomma := hname.not_mem (.inr rfl) (comma_not_mem_lastPart _)
    rw [omitsValue_dict_iff (TypeTerm.container?_trim_mapped hline) (by decide), lastPart_of_not_mem hcomma]
    exact not_or.mpr ⟨fun h => h.1 h.2, ih⟩

theorem canonical_eq_self_iff {n : String} : canonical n = n ↔ canonicalChars n.toList = n.toList := by
  rw [canonical, ← String.toList_inj, String.toList_ofList]

/-- A container's name stays as it is if what is between its brackets does, is there and, in a map, has
no comma. -/
theorem canonical_container_eq_self_iff {n e : String} (h : element? n = some e) :
    canonical n = n ↔ '\n' ∈ e.toList ∨
      e ≠ "" ∧ canonical e = e ∧ ("dict[".toList <+: n.toList → ',' ∉ e.toList) := by
  have hempty : e ≠ "" ↔ e.toList ≠ [] := by simp
  rw [canonical_eq_self_iff, canonical_eq_self_iff, hempty]
  rcases toList_of_element? h with hn | hn
  · have hheads : ¬"dict[".toList <+: "list[".toList := by decide
    have hlist : ¬"dict[".toList <+: "list[".toList ++ (e.toList ++ [']']) := fun hdict =>
      hheads (List.prefix_of_prefix_length_le hdict (List.prefix_append _ _) le_rfl)
    rw [hn, canonicalChars_listed_eq_self_iff]
    simp only [hlist, false_implies, and_true]
  · rw [hn, canonicalChars_mapped_eq_self_iff]
    simp only [List.prefix_append, true_implies]

/-- On one line, a name that stays as it is has an element type whose name does, too. -/
theorem canonical_element_eq_self {n e : String} (h : canonical n = n) (hline : '\n' ∉ n.toList)
    (he : element? n = some e) : canonical e = e ∧ '\n' ∉ e.toList := by
  have hmem : '\n' ∉ e.toList := by
    rcases toList_of_element? he with hn | hn <;>
    · rw [hn] at hline
      exact fun hmem => hline (List.mem_append_right _ (List.mem_append_left _ hmem))
  have hiff := (canonical_container_eq_self_iff he).mp h
  exact ⟨((or_iff_right hmem).mp hiff).2.1, hmem⟩

/-- The names of types from that of a container to that of its innermost members, each in its canonical
form and what stands between the brackets of the one before. -/
structure LeadsInward (n : String) (names : List String) : Prop where
  first : names.head? = some n
  canonical : ∀ name ∈ names, canonical name = name
  inward : names.IsChain fun name e => element? name = some e
  last : ∀ name ∈ names.getLast?, element? name = none

namespace LeadsInward

variable {n e : String} {names : List String}

theorem single (h : TypeName.canonical n = n) (he : element? n = none) : LeadsInward n [n] where
  first := rfl
  canonical := List.forall_mem_singleton.mpr h
  inward := .singleton n
  last := by
    rintro name hname
    obtain rfl := Option.some.inj hname
    exact he

theorem cons (h : TypeName.canonical n = n) (he : element? n = some e) (hnames : LeadsInward e names) :
    LeadsInward n (n :: names) := by
  obtain ⟨rest, rfl⟩ := List.head?_eq_some_iff.mp hnames.first
  exact ⟨rfl, List.forall_mem_cons.mpr ⟨h, hnames.canonical⟩, hnames.inward.cons_cons he, hnames.last⟩

end LeadsInward

end TypeName

namespace Target

/-- The names under which conversions are looked up for a value and the members in it. -/
def names : Target → List String
  | .list name _ element => name :: element.names
  | .dict name element => name :: element.names
  | t => [t.name]

theorem element?_name_scalar {t : Target} (h : t ∈ scalars) : TypeName.element? t.name = none := by
  have hall : ∀ t ∈ scalars, TypeName.element? t.name = none := by decide
  exact hall t h

theorem names_scalar {t : Target} (h : t ∈ scalars) : t.names = [t.name] := by
  have hall : ∀ t ∈ scalars, t.names = [t.name] := by decide
  exact hall t h

/-- A canonical name on one line is taken apart at its brackets, and no name in it is changed. -/
theorem leadsInward_ofCanonical {fuel : Nat} {n : String} (hlen : n.length < fuel)
    (h : TypeName.canonical n = n) (hline : '\n' ∉ n.toList) :
    TypeName.LeadsInward n (ofCanonical fuel n).names := by
  induction fuel generalizing n with
  | zero => exact absurd hlen (Nat.not_lt_zero _)
  | succ fuel ih =>
    have hmember {e : String} (he : TypeName.element? n = some e) :
        TypeName.LeadsInward e (ofCanonical fuel (TypeName.canonical e)).names := by
      have hshort := TypeName.length_element? he
      obtain ⟨hcanonical, hline'⟩ := TypeName.canonical_element_eq_self h hline he
      rw [hcanonical]
      exact ih (by omega) hcanonical hline'
    rw [Conversions.ofCanonical_succ]
    cases hscalar : scalars.find? (·.name = n) with
    | some t =>
      have hmem := List.mem_of_find?_eq_some hscalar
      have hname : t.name = n := by simpa using List.find?_some hscalar
      subst hname
      dsimp only
      rw [names_scalar hmem]
      exact .single h (element?_name_scalar hmem)
    | none =>
      dsimp only
      split_ifs with hlist hdict
      · cases he : TypeName.element? n with
        | some e => exact .cons h he (hmember he)
        | none => exact .single h he
      · cases he : TypeName.element? n with
        | some e => exact .cons h he (hmember he)
        | none => exact .single h he
      · refine .single h (Option.eq_none_iff_forall_not_mem.mpr fun e he => ?_)
        rcases TypeName.toList_of_element? he with hn | hn
        · exact hlist (by rw [hn]; rfl)
        · exact hdict (by rw [hn]; rfl)

end Target

namespace Coercion

/-- Whatever the type, a list without members is left as it is or refused. -/
theorem builtIn_nil (member : String → Value → Coerced) (name : String) :
    builtIn member name (.list []) = .refused ∨ builtIn member name (.list []) = .accepted (.list []) [] := by
  have hscalars : ∀ t ∈ Target.scalars,
      run [] t (.list []) = .refused ∨ run [] t (.list []) = .accepted (.list []) [] := by
    simp only [Target.scalars, List.forall_mem_cons]
    exact ⟨.inr rfl, .inl rfl, .inl rfl, .inl rfl, .inl rfl, .inl rfl, .inl rfl, .inl rfl, .inl rfl,
      List.forall_mem_nil _⟩
  rw [builtIn]
  cases hscalar : Target.scalars.find? (·.name = name) with
  | some t => exact hscalars t (List.mem_of_find?_eq_some hscalar)
  | none =>
    dsimp only
    split_ifs
    · cases TypeName.element? name with
      | some e => exact .inr rfl
      | none => exact .inr rfl
    · cases TypeName.element? name with
      | some e => exact .inl rfl
      | none => exact .inl rfl
    · exact .inr rfl

end Coercion

/-- The declaration of a field by nothing but its type. -/
def FieldDecl.typed (type : TypeForm) : FieldDecl :=
  ⟨"x", type, false, none, none, none, none, .null, .null, .null, .null, none, none, none, []⟩

namespace Conversions

variable {r r' : Conversions} {type : TypeForm} {name s : String} {f : Conversion} {v : Value}

/-- Only what is registered under the names in a type makes a difference. -/
theorem run_congr {t : Target} (h : ∀ name ∈ t.names, r.find? name = r'.find? name) (v : Value) :
    Coercion.run r.functions t v = Coercion.run r'.functions t v := by
  induction t generalizing v with
  | list name splits element ih =>
    have hname := h name List.mem_cons_self
    have hmember : Coercion.run r.functions element = Coercion.run r'.functions element :=
      funext fun v => ih (fun name hname => h name (List.mem_cons_of_mem _ hname)) v
    rw [find?, find?] at hname
    rw [Coercion.run, Coercion.run, Target.name, hname, hmember]
  | dict name element ih =>
    have hname := h name List.mem_cons_self
    have hmember : Coercion.run r.functions element = Coercion.run r'.functions element :=
      funext fun v => ih (fun name hname => h name (List.mem_cons_of_mem _ hname)) v
    rw [find?, find?] at hname
    rw [Coercion.run, Coercion.run, Target.name, hname, hmember]
  | _ =>
    have hname := h _ (List.mem_singleton_self _)
    rw [find?, find?] at hname
    rw [Coercion.run, Coercion.run, hname]

theorem find?_of_register (htype : type.canonical = .ok name) (h : r.register type f = .ok r') :
    r'.find? name = some f := by
  have hstep : step (.register type f) r = (r', none) := by rw [step, h]
  have hfound : (step (.register type f) r).1.find? name = some f :=
    find?_step_iff.mpr (.inr ⟨type, rfl, htype, by rw [hstep]⟩)
  rwa [hstep] at hfound

theorem coerce_of_find? (h : r.find? (TypeName.canonical s) = some f) (hv : v ≠ .null) :
    r.coerce s v = Coercion.applyConversion f v :=
  (coerce_eq_decided r s hv).trans (decided_of_find? h)

theorem exists_build_typed (s : String) (r : Conversions) : ∃ field : Field,
    ((FieldDecl.typed (.spelled s)).build .body r []).1 = .ok field ∧ field.type = TypeName.canonical s :=
  ⟨_, rfl, rfl⟩

/-- A registry that makes the same of everything under one name. -/
def answering (name : String) : Conversions := ⟨[(name, fun _ => .ok (.int 42))], false⟩

/-- A conversion that is registered for a spelling decides alone about the values of each field that is
declared with the spelling. -/
def Decides (s : String) : Prop :=
  ∀ (d : FieldDecl) (source : Source) (r r' : Conversions) (extra : List Validator) (f : Conversion)
    (field : Field) (v : Value), d.type = .spelled s → r.register d.type f = .ok r' →
    (d.build source r' extra).1 = .ok field → v ≠ .null →
    r'.coerce field.type v = Coercion.applyConversion f v

theorem decides_iff : Decides s ↔ TypeName.canonical (TypeName.canonical s) = TypeName.canonical s := by
  constructor
  · intro h
    by_contra hne
    have hregister : empty.register (.spelled s) (fun _ => .ok (.int 42)) =
        .ok (answering (TypeName.canonical s)) := rfl
    obtain ⟨field, hbuild, htype⟩ := exists_build_typed s (answering (TypeName.canonical s))
    have hanswer := h (.typed (.spelled s)) .body empty _ [] _ field (.list []) rfl hregister hbuild (by simp)
    rw [htype] at hanswer
    have hfree : (answering (TypeName.canonical s)).find? (TypeName.canonical (TypeName.canonical s)) = none := by
      rw [find?, answering, Table.get?_cons, if_neg (Ne.symm hne)]
      rfl
    rw [coerce_eq_decided _ _ (by simp), decided, hfree] at hanswer
    rcases Coercion.builtIn_nil (answering (TypeName.canonical s)).coerce
      (TypeName.canonical (TypeName.canonical s)) with heq | heq
    · cases heq.symm.trans hanswer
    · cases heq.symm.trans hanswer
  · intro h d source r r' extra f field v htype hregister hbuild hv
    have hname : d.type.canonical = .ok (TypeName.canonical s) := by rw [htype, TypeForm.canonical]
    have hfield : field.type = TypeName.canonical s := by
      have hstored := Builder.type_of_build hbuild
      rw [FieldDecl.canonicalType, hname] at hstored
      exact (Except.ok.inj hstored).symm
    have hfind := find?_of_register hname hregister
    rw [hfield]
    exact coerce_of_find? (h.symm ▸ hfind) hv

end Conversions

namespace TypeName

/-- How a name fares that is brought to its canonical form again, as the declaration of a field, the registry
and the engine at every level do. It changes once more if its spelling omits a type of values, and never
else. A container's name is canonical if its element type has a canonical name and, in a map, no comma, or if
a line break keeps the brackets from being seen. Without line breaks the engine goes down the names between
the brackets and changes none, and only the conversions under these names make a difference to it. -/
structure Settles (s : String) : Prop where
  once : canonical (canonical s) = canonical s ↔ ¬OmitsValue s.toList
  twice : canonical (canonical (canonical s)) = canonical (canonical s)
  container : ∀ e, element? s = some e → (canonical s = s ↔
    '\n' ∈ e.toList ∨ e ≠ "" ∧ canonical e = e ∧ ("dict[".toList <+: s.toList → ',' ∉ e.toList))
  inward : ¬OmitsValue s.toList → '\n' ∉ s.toList →
    LeadsInward (canonical s) (Target.ofName (canonical s)).names
  lookups : ∀ (r r' : Conversions) (v : Value),
    (∀ name ∈ (Target.ofName s).names, r.find? name = r'.find? name) → r.coerce s v = r'.coerce s v
  decides : Conversions.Decides s ↔ ¬OmitsValue s.toList

theorem canonical_canonical_iff (s : String) :
    canonical (canonical s) = canonical s ↔ ¬OmitsValue s.toList := by
  rw [canonical_eq_self_iff, canonical, String.toList_ofList]
  exact (named_canonicalChars s.toList).canonicalChars_eq_self_iff

/-- Whatever its spelling, a type has one name from the second time on, and from the first where the
spelling omits nothing. -/
theorem canonical_settles (s : String) : Settles s where
  once := canonical_canonical_iff s
  twice := by
    rw [canonical_canonical_iff, canonical, String.toList_ofList]
    exact (named_canonicalChars s.toList).not_omitsValue
  container e := canonical_container_eq_self_iff
  inward homits hline := by
    have hsame := (canonical_canonical_iff s).mpr homits
    have hline' : '\n' ∉ (canonical s).toList := by
      rw [canonical, String.toList_ofList]
      exact (named_canonicalChars s.toList).not_mem (.inl rfl) hline
    rw [Target.ofName, hsame]
    exact Target.leadsInward_ofCanonical (by omega) hsame hline'
  lookups r r' v h := Conversions.run_congr h v
  decides := Conversions.decides_iff.trans (canonical_canonical_iff s)

/-- The value type of a map is omitted, and one canonical form is not enough. -/
example : canonical "dict[str,]" = "dict[]" ∧ canonical "dict[]" = "dict[any]" := by decide +kernel

/-- What stands between brackets on different lines is not looked at. -/
example : canonical "list[\nint]" = "list[\nint]" ∧ canonical "\nint" = "int" := by decide +kernel

end TypeName

end Intake
