import Intake.Proofs.Coercion.Soundness
import Intake.Schema.Builder

namespace Intake

namespace TypeTerm

/-- How many maps stand in a type. -/
def maps : TypeTerm → Nat
  | .list t => t.maps
  | .dict t => t.maps + 1
  | _ => 0

/-- The type built up from known types. Integers of 32 bits are not one of these and have only a name. -/
def form : TypeTerm → TypeForm
  | .str => .known "str" "str"
  | .int => .known "int" "int"
  | .int32 => .spelled "int32"
  | .float => .known "float" "float"
  | .bool => .known "bool" "bool"
  | .date => .known "date" "date"
  | .datetime => .known "datetime" "datetime"
  | .uuid => .known "UUID" "uuid"
  | .any => .known "Any" "any"
  | .list t => .listOf "list" [t.form]
  | .dict t => .dictOf "dict" [.known "str" "str", t.form]

/-- The type in writing, with the keys of its maps. -/
def spelling : TypeTerm → String
  | .list t => "list[" ++ t.spelling ++ "]"
  | .dict t => "dict[str, " ++ t.spelling ++ "]"
  | t => t.name

/-- The name of a type with brackets after it. -/
def closed (t : TypeTerm) (k : Nat) : List Char := t.chars ++ List.replicate k ']'

/-- What a spelling names after its last comma, but for brackets that close what was opened before. -/
def core : TypeTerm → TypeTerm
  | .list t => if t.maps = 0 then .list t else t.core
  | .dict t => t.core
  | t => t

/-- How many brackets after its last comma close what was opened before. -/
def closings : TypeTerm → Nat
  | .list t => if t.maps = 0 then 0 else t.closings + 1
  | .dict t => t.closings + 1
  | _ => 0

/-- What stands after the last comma of a map's spelling, up to the bracket that closes the map. -/
def lastChars (t : TypeTerm) : List Char := t.core.closed t.closings

/-- The name that a spelling is taken for. -/
def taken : TypeTerm → List Char
  | .list t => "list[".toList ++ (t.taken ++ [']'])
  | .dict t => "dict[".toList ++ (t.lastChars ++ [']'])
  | t => t.chars

variable {t : TypeTerm}

theorem canonical_form (t : TypeTerm) : t.form.canonical = .ok t.name := by
  induction t with
  | int32 => exact congrArg Except.ok (canonical_name .int32)
  | list t ih =>
    rw [form, TypeForm.canonical, TypeForm.firstCanonical, ih]
    rfl
  | dict t ih =>
    rw [form, TypeForm.canonical, TypeForm.lastCanonical, TypeForm.lastCanonical, ih]
    · rfl
    · exact List.cons_ne_nil _ _
  | _ => rfl

theorem closed_zero (t : TypeTerm) : t.closed 0 = t.chars := List.append_nil _

theorem closed_succ (t : TypeTerm) (k : Nat) : t.closed (k + 1) = t.closed k ++ [']'] := by
  rw [closed, List.replicate_succ', closed, List.append_assoc]

theorem closed_list (t : TypeTerm) (k : Nat) :
    (list t).closed k = "list[".toList ++ (t.closed k ++ [']']) := by
  rw [closed, chars_list, closed, List.append_assoc, List.append_assoc, List.append_assoc,
    ← List.replicate_succ', List.replicate_succ, List.singleton_append]

theorem taken_list (t : TypeTerm) : (list t).taken = "list[".toList ++ (t.taken ++ [']']) := rfl

theorem taken_dict (t : TypeTerm) : (dict t).taken = "dict[".toList ++ (t.lastChars ++ [']']) := rfl

theorem core_of_flat (h : t.maps = 0) : t.core = t := by
  cases t with
  | list t => exact if_pos h
  | dict t => cases h
  | _ => rfl

theorem closings_eq_zero_iff : t.closings = 0 ↔ t.maps = 0 := by
  cases t with
  | list t =>
    rw [closings, maps]
    by_cases h : t.maps = 0
    · exact iff_of_true (if_pos h) h
    · rw [if_neg h]
      exact iff_of_false (Nat.succ_ne_zero _) h
  | dict t => exact iff_of_false (Nat.succ_ne_zero _) (Nat.succ_ne_zero _)
  | _ => exact iff_of_true rfl rfl

theorem maps_core (t : TypeTerm) : t.core.maps = 0 := by
  induction t with
  | list t ih =>
    unfold core
    split_ifs with h
    · exact h
    · exact ih
  | dict t ih => exact ih
  | _ => rfl

/-- Each of the brackets was opened before. -/
theorem count_core (t : TypeTerm) : t.core.chars.count '[' + t.closings = t.chars.count '[' := by
  have hlist (t : TypeTerm) : (list t).chars.count '[' = t.chars.count '[' + 1 := by
    simp [chars_list, Nat.add_comm]
  have hdict (t : TypeTerm) : (dict t).chars.count '[' = t.chars.count '[' + 1 := by
    simp [chars_dict, Nat.add_comm]
  induction t with
  | list t ih =>
    unfold core closings
    split_ifs with h
    · rfl
    · rw [hlist, ← ih, Nat.add_assoc]
  | dict t ih => rw [hdict, ← ih, core, closings, Nat.add_assoc]
  | _ => rfl

theorem lastChars_of_flat (h : t.maps = 0) : t.lastChars = t.chars := by
  rw [lastChars, core_of_flat h, closings_eq_zero_iff.mpr h, closed_zero]

theorem lastChars_list (h : t.maps ≠ 0) : (list t).lastChars = t.lastChars ++ [']'] := by
  rw [lastChars, core, if_neg h, closings, if_neg h, closed_succ, lastChars]

theorem lastChars_dict (t : TypeTerm) : (dict t).lastChars = t.lastChars ++ [']'] := closed_succ _ _

/-- A spelling is taken for the name of its type where no map has a map in it. -/
theorem taken_eq_iff : t.taken = t.chars ↔ t.maps ≤ 1 := by
  induction t with
  | list t ih =>
    rw [taken_list, chars_list, enclosed_inj]
    exact ih
  | dict t ih =>
    rw [taken_dict, chars_dict, enclosed_inj]
    constructor
    · intro h
      -- of the brackets that open before the last comma, what is taken has none
      have hcount := congrArg (List.count '[') h
      have hcore := t.count_core
      have hclosed : (List.replicate t.closings ']').count '[' = 0 := by
        rw [List.count_replicate, if_neg (by decide)]
      rw [lastChars, closed, List.count_append, hclosed] at hcount
      exact Nat.succ_le_succ (closings_eq_zero_iff.mp (by omega)).le
    · intro h
      exact lastChars_of_flat (Nat.le_zero.mp (Nat.le_of_succ_le_succ h))
  | _ => exact iff_of_true rfl (Nat.zero_le _)

theorem spelling_list (t : TypeTerm) :
    (list t).spelling.toList = "list[".toList ++ (t.spelling.toList ++ [']']) := by
  simp [spelling]

theorem spelling_dict (t : TypeTerm) : (dict t).spelling.toList =
    "dict[".toList ++ ("str".toList ++ ',' :: ' ' :: t.spelling.toList ++ [']']) := by
  simp [spelling]

theorem spelling_of_flat (h : t.maps = 0) : t.spelling = t.name := by
  induction t with
  | list t ih => rw [spelling, ih h, name]
  | dict t ih => cases h
  | _ => rfl

/-- With a map in it, a spelling has a last comma. -/
theorem exists_spelling (h : t.maps ≠ 0) :
    ∃ s, t.spelling.toList = s ++ ',' :: ' ' :: t.lastChars := by
  induction t with
  | list t ih =>
    obtain ⟨s, hs⟩ := ih h
    exact ⟨"list[".toList ++ s, by simp [spelling_list, hs, lastChars_list (t := t) h]⟩
  | dict t ih =>
    by_cases hflat : t.maps = 0
    · refine ⟨"dict[str".toList, ?_⟩
      simp [spelling_dict, spelling_of_flat hflat, lastChars_dict, lastChars_of_flat hflat, chars]
    · obtain ⟨s, hs⟩ := ih hflat
      exact ⟨"dict[str, ".toList ++ s, by simp [spelling_dict, hs, lastChars_dict]⟩
  | _ => exact absurd rfl h

theorem comma_not_mem_lastChars (t : TypeTerm) : ',' ∉ ' ' :: t.lastChars := by
  have hchars : ',' ∉ t.core.chars := fun h => (plain_of_mem_chars h).2.2.2 rfl
  simp [lastChars, closed, hchars, List.mem_replicate]

/-- Of keys and members of a map, the part after the last comma is taken. -/
theorem lastPart_spelling (t : TypeTerm) :
    TypeName.lastPart ("str".toList ++ ',' :: ' ' :: t.spelling.toList) = ' ' :: t.lastChars := by
  by_cases h : t.maps = 0
  · have hchars : t.spelling.toList = t.lastChars := by rw [spelling_of_flat h, lastChars_of_flat h, chars]
    rw [hchars]
    exact TypeName.lastPart_append t.comma_not_mem_lastChars _
  · obtain ⟨s, hs⟩ := exists_spelling h
    have hchars : "str".toList ++ ',' :: ' ' :: t.spelling.toList =
        ("str, ".toList ++ s) ++ ',' :: ' ' :: t.lastChars := by simp [hs]
    rw [hchars]
    exact TypeName.lastPart_append t.comma_not_mem_lastChars _

theorem lineBreak_not_mem_keyed {s : List Char} (hs : '\n' ∉ s) :
    '\n' ∉ "str".toList ++ ',' :: ' ' :: s := by
  simp [hs]

theorem lineBreak_not_mem_spelling (t : TypeTerm) : '\n' ∉ t.spelling.toList := by
  induction t with
  | list t ih =>
    rw [spelling_list]
    exact lineBreak_not_mem_enclosed (.inl rfl) ih
  | dict t ih =>
    rw [spelling_dict]
    exact lineBreak_not_mem_enclosed (.inr rfl) (lineBreak_not_mem_keyed ih)
  | _ => exact lineBreak_not_mem_chars _

theorem trim_spelling (t : TypeTerm) : Text.trim t.spelling.toList = t.spelling.toList := by
  cases t with
  | list t =>
    rw [spelling_list]
    exact trim_enclosed (.inl rfl)
  | dict t =>
    rw [spelling_dict]
    exact trim_enclosed (.inr rfl)
  | _ => exact trim_chars _

theorem spelling_ne_nil (t : TypeTerm) : t.spelling.toList ≠ [] := by
  cases t <;> simp [spelling, name]

theorem lineBreak_not_mem_closed (t : TypeTerm) (k : Nat) : '\n' ∉ t.closed k := by
  simp [closed, lineBreak_not_mem_chars, List.mem_replicate]

theorem trim_closed (t : TypeTerm) (k : Nat) : Text.trim (t.closed k) = t.closed k := by
  refine Text.trim_of_not_isBlank ?_
  rw [closed, List.forall_mem_append]
  refine ⟨fun c hc => ?_, fun c hc => ?_⟩
  · obtain ⟨hlow, hhigh, -⟩ := plain_of_mem_chars hc
    exact Text.not_isBlank_of_visible hlow hhigh
  · obtain rfl := List.eq_of_mem_replicate hc
    decide

theorem trim_closed_ne_nil (t : TypeTerm) (k : Nat) : Text.trim (t.closed k) ≠ [] := by
  rw [trim_closed]
  exact List.append_ne_nil_of_left_ne_nil t.chars_ne_nil _

/-- Brackets after a name without maps stay where they are. -/
theorem canonicalChars_closed (h : t.maps = 0) (k : Nat) :
    TypeName.canonicalChars (t.closed k) = t.closed k := by
  have halias (t : TypeTerm) (k : Nat) : TypeName.alias? (t.closed (k + 1)) = none := by
    have hclose : ']' ∈ t.closed (k + 1) := by simp [closed_succ]
    exact alias?_of_bracket (by decide) hclose
  cases k with
  | zero => rw [closed_zero, canonicalChars_chars]
  | succ k =>
    induction t with
    | list t ih =>
      rw [closed_list, canonicalChars_listed (t.lineBreak_not_mem_closed _) (t.trim_closed_ne_nil _), ih h]
    | dict t ih => cases h
    | _ =>
      rw [TypeName.canonicalChars, trim_closed, halias]
      rfl

theorem canonicalChars_lastChars (t : TypeTerm) :
    TypeName.canonicalChars (' ' :: t.lastChars) = t.lastChars := by
  have htrim : Text.trim (' ' :: t.lastChars) = Text.trim t.lastChars := rfl
  rw [TypeName.canonicalChars_of_trim htrim]
  exact canonicalChars_closed t.maps_core _

theorem canonicalChars_spelling (t : TypeTerm) : TypeName.canonicalChars t.spelling.toList = t.taken := by
  induction t with
  | list t ih =>
    have hne : Text.trim t.spelling.toList ≠ [] := by
      rw [trim_spelling]
      exact t.spelling_ne_nil
    rw [spelling_list, canonicalChars_listed t.lineBreak_not_mem_spelling hne, ih, taken_list]
  | dict t ih =>
    have hline := lineBreak_not_mem_keyed t.lineBreak_not_mem_spelling
    have hne : Text.trim ("str".toList ++ ',' :: ' ' :: t.spelling.toList) ≠ [] :=
      Text.trim_ne_nil (c := 's') rfl (by decide)
    rw [spelling_dict, canonicalChars_mapped hline hne, lastPart_spelling, canonicalChars_lastChars,
      taken_dict]
  | _ => exact canonicalChars_chars _

theorem lineBreak_not_mem_taken (t : TypeTerm) : '\n' ∉ t.taken := by
  induction t with
  | list t ih => exact lineBreak_not_mem_enclosed (.inl rfl) ih
  | dict t ih => exact lineBreak_not_mem_enclosed (.inr rfl) (lineBreak_not_mem_closed _ _)
  | _ => exact lineBreak_not_mem_chars _

theorem trim_taken_ne_nil (t : TypeTerm) : Text.trim t.taken ≠ [] := by
  cases t with
  | list t =>
    rw [taken_list, trim_enclosed (.inl rfl)]
    exact List.cons_ne_nil _ _
  | dict t =>
    rw [taken_dict, trim_enclosed (.inr rfl)]
    exact List.cons_ne_nil _ _
  | _ => decide

/-- The name that a spelling is taken for is not changed again. -/
theorem canonicalChars_taken (t : TypeTerm) : TypeName.canonicalChars t.taken = t.taken := by
  induction t with
  | list t ih => rw [taken_list, canonicalChars_listed t.lineBreak_not_mem_taken t.trim_taken_ne_nil, ih]
  | dict t ih =>
    have hcomma : ',' ∉ t.lastChars := fun h => t.comma_not_mem_lastChars (List.mem_cons_of_mem _ h)
    have hlast : TypeName.canonicalChars t.lastChars = t.lastChars := canonicalChars_closed t.maps_core _
    have hline : '\n' ∉ t.lastChars := lineBreak_not_mem_closed _ _
    rw [taken_dict, canonicalChars_mapped hline (trim_closed_ne_nil _ _),
      TypeName.lastPart_of_not_mem hcomma, hlast]
  | _ => exact canonicalChars_chars _

end TypeTerm

namespace Coercion

/-- One of the targets brings something to another value than the other does. -/
def Differ (a b : Target) : Prop := ∃ v, (run [] a v).value? ≠ (run [] b v).value?

variable {a b : Target}

theorem value?_gatherList_singleton {c c' : Coerced}
    (h : (gatherList [c]).value? = (gatherList [c']).value?) : c.value? = c'.value? := by
  cases c <;> cases c' <;> simp_all [gatherList, gather, Coerced.value?, Except.map]

theorem value?_gatherMap_singleton {key : String} {c c' : Coerced}
    (h : (gatherMap [(key, c)]).value? = (gatherMap [(key, c')]).value?) : c.value? = c'.value? := by
  cases c <;> cases c' <;> simp_all [gatherMap, gather, Coerced.value?, Except.map]

theorem Differ.list (h : Differ a b) (name name' : String) (splits splits' : Bool) :
    Differ (.list name splits a) (.list name' splits' b) := by
  obtain ⟨v, hv⟩ := h
  refine ⟨.list [v], fun heq => hv ?_⟩
  rw [run_list_eq, run_list_eq] at heq
  exact value?_gatherList_singleton heq

theorem Differ.dict (h : Differ a b) (name name' : String) : Differ (.dict name a) (.dict name' b) := by
  obtain ⟨v, hv⟩ := h
  refine ⟨.map [("", v)], fun heq => hv ?_⟩
  rw [run_dict_eq, run_dict_eq] at heq
  exact value?_gatherMap_singleton heq

theorem run_list_int (name : String) (splits : Bool) (t : Target) (n : Int) :
    run [] (.list name splits t) (.int n) = wrapSingle (run [] t (.int n)) := by
  rw [run]
  rfl

end Coercion

namespace TypeTerm

variable {t : TypeTerm}

/-- A number is no map. -/
theorem run_of_maps (h : t.maps ≠ 0) (n : Int) : Coercion.run [] t.target (.int n) = .refused := by
  induction t with
  | list t ih =>
    rw [target, Coercion.run_list_int, ih h]
    rfl
  | dict t ih =>
    rw [target, Coercion.run]
    rfl
  | _ => exact absurd rfl h

/-- A name with brackets after it is not known, and everything is taken as it is. -/
theorem run_closed (h : t.maps = 0) (k : Nat) (n : Int) {fuel : Nat}
    (hfuel : (t.closed (k + 1)).length ≤ fuel) :
    ∃ w, Coercion.run [] (Target.ofCanonical (fuel + 1) (String.ofList (t.closed (k + 1)))) (.int n) =
      .accepted w [] := by
  induction t generalizing fuel with
  | list t ih =>
    have hlen : ((list t).closed (k + 1)).length = (t.closed (k + 1)).length + 6 := by simp [closed_list]
    obtain ⟨fuel, rfl⟩ := Nat.exists_eq_add_of_le' (by omega : 1 ≤ fuel)
    have hflat : t.maps = 0 := h
    obtain ⟨w, hw⟩ := ih hflat (by omega : (t.closed (k + 1)).length ≤ fuel)
    rw [closed_list, ofCanonical_listed, TypeName.canonical_ofList, canonicalChars_closed hflat,
      Coercion.run_list_int, hw]
    exact ⟨_, rfl⟩
  | dict t ih => cases h
  | _ =>
    refine ⟨.int n, ?_⟩
    rw [Target.ofCanonical, find?_scalars_of_bracket (.inr rfl) (by simp [closed_succ])]
    simp only [String.toList_ofList]
    rfl

/-- Under the name that its spelling is taken for, a map of maps keeps a number that is no map. -/
theorem differ_taken (h : 1 < t.maps) {fuel : Nat} (hfuel : t.taken.length ≤ fuel) :
    Coercion.Differ (Target.ofCanonical (fuel + 1) (String.ofList t.taken)) t.target := by
  induction t generalizing fuel with
  | list t ih =>
    have hlen : (list t).taken.length = t.taken.length + 6 := by simp [taken_list]
    obtain ⟨fuel, rfl⟩ := Nat.exists_eq_add_of_le' (by omega : 1 ≤ fuel)
    rw [taken_list, ofCanonical_listed, TypeName.canonical_ofList, canonicalChars_taken, target]
    exact (ih h (by omega)).list _ _ _ _
  | dict t ih =>
    have hmaps : t.maps ≠ 0 := Nat.ne_of_gt (Nat.lt_of_succ_lt_succ h)
    have hlen : (dict t).taken.length = t.lastChars.length + 6 := by simp [taken_dict]
    obtain ⟨fuel, rfl⟩ := Nat.exists_eq_add_of_le' (by omega : 1 ≤ fuel)
    obtain ⟨k, hk⟩ := Nat.exists_eq_succ_of_ne_zero (mt closings_eq_zero_iff.mp hmaps)
    have hlast : t.lastChars = t.core.closed (k + 1) := by rw [lastChars, hk]
    obtain ⟨w, hw⟩ := run_closed t.maps_core k 0 (hlast ▸ (by omega : t.lastChars.length ≤ fuel))
    rw [taken_dict, hlast, ofCanonical_mapped, TypeName.canonical_ofList,
      canonicalChars_closed t.maps_core, target]
    refine Coercion.Differ.dict ⟨.int 0, ?_⟩ _ _
    rw [hw, run_of_maps hmaps]
    exact Option.some_ne_none w
  | _ => exact absurd h (Nat.not_lt_zero _)

/-- A type in writing has the name of the type exactly if no map in it has a map in it. Then a field is
the same with either, and otherwise there are values that the two are brought to differently. -/
theorem spelling_agrees (t : TypeTerm) :
    t.form.canonical = .ok t.name ∧
    (TypeForm.canonical (.spelled t.spelling) = t.form.canonical ↔ t.maps ≤ 1) ∧
    (t.maps ≤ 1 → ∀ (d : FieldDecl) (source : Source) (r : Conversions) (extra : List Validator),
      { d with type := .spelled t.spelling }.build source r extra =
        { d with type := t.form }.build source r extra) ∧
    ((∀ v, Conversions.empty.coerce (TypeName.canonical t.spelling) v = Conversions.empty.coerce t.name v) ↔
      t.maps ≤ 1) := by
  have hspelled : TypeName.canonical t.spelling = String.ofList t.taken := by
    rw [TypeName.canonical, canonicalChars_spelling]
  have hname : TypeName.canonical t.spelling = t.name ↔ t.maps ≤ 1 := by
    rw [hspelled, ← ofList_chars, String.ofList_inj]
    exact taken_eq_iff
  refine ⟨t.canonical_form, ?_, fun h d source r extra => ?_, fun h => ?_, fun h v => ?_⟩
  · rw [t.canonical_form, TypeForm.canonical, Except.ok.injEq]
    exact hname
  · have htype : { d with type := .spelled t.spelling }.canonicalType =
        { d with type := t.form }.canonicalType := by
      simp only [FieldDecl.canonicalType, t.canonical_form, TypeForm.canonical, hname.mpr h]
    rw [FieldDecl.build, FieldDecl.build, htype]
    rfl
  · by_contra hmaps
    obtain ⟨v, hv⟩ := t.differ_taken (Nat.lt_of_not_le hmaps) (Nat.le_add_right _ 2)
    refine hv (congrArg Coerced.value? ?_)
    have hrun := h v
    rw [hspelled, Conversions.coerce, Conversions.coerce, ofName_name, Target.ofName,
      TypeName.canonical_ofList, canonicalChars_taken, String.length_ofList] at hrun
    exact hrun
  · rw [hname.mpr h]

/-- A map of lists, and a map of maps. -/
theorem spelling_agrees_counts :
    TypeForm.canonical (.spelled "dict[str, list[int]]") = (TypeTerm.dict (.list .int)).form.canonical ∧
    TypeForm.canonical (.spelled "dict[str, dict[str, int]]") ≠ (TypeTerm.dict (.dict .int)).form.canonical ∧
    ∃ v, Conversions.empty.coerce (TypeName.canonical "dict[str, dict[str, int]]") v ≠
      Conversions.empty.coerce "dict[dict[int]]" v := by
  obtain ⟨-, hlists, -⟩ := spelling_agrees (.dict (.list .int))
  obtain ⟨-, hmaps, -, hcoerce⟩ := spelling_agrees (.dict (.dict .int))
  have hnested : ¬(TypeTerm.dict (.dict .int)).maps ≤ 1 := by decide
  exact ⟨hlists.mpr (by decide), hnested ∘ hmaps.mp, not_forall.mp (hnested ∘ hcoerce.mp)⟩

end TypeTerm

end Intake
