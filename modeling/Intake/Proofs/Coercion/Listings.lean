import Intake.Proofs.Coercion.Containers
import Intake.Proofs.Coercion.Integers
import Intake.Proofs.Reading.Scalars

namespace Intake

namespace Text

variable {c separator : Char} {s t p core : List Char}

theorem ne_of_blank (hsep : isBlank separator = false) (hc : isBlank c = true) : c ≠ separator := by
  rintro rfl
  cases hsep.symm.trans hc

/-- Blanks in front go to the first part. -/
theorem map_trim_splitOn_blanks_append (hsep : isBlank separator = false)
    (hp : ∀ c ∈ p, isBlank c = true) (s : List Char) :
    (splitOn separator (p ++ s)).map trim = (splitOn separator s).map trim := by
  induction p with
  | nil => rfl
  | cons c p ih =>
    have hc := hp c List.mem_cons_self
    obtain ⟨part, more, hrest, hcons⟩ := splitOn_cons_of_ne (ne_of_blank hsep hc) (p ++ s)
    have htrim : trim (c :: part) = trim part :=
      trim_of_surrounded ⟨[c], [], List.forall_mem_singleton.mpr hc, List.forall_mem_nil _, by simp⟩
    rw [List.cons_append, hcons, List.map_cons, htrim, ← List.map_cons, ← hrest]
    exact ih fun d hd => hp d (List.mem_cons_of_mem _ hd)

/-- Blanks behind go to the last part. -/
theorem splitOn_append_blanks (hsep : isBlank separator = false) (hp : ∀ c ∈ p, isBlank c = true)
    (s : List Char) :
    List.Forall₂ (fun part part' => ∃ q : List Char, (∀ c ∈ q, isBlank c = true) ∧ part' = part ++ q)
      (splitOn separator s) (splitOn separator (s ++ p)) := by
  have hsame (part : List Char) :
      ∃ q : List Char, (∀ c ∈ q, isBlank c = true) ∧ part = part ++ q :=
    ⟨[], List.forall_mem_nil _, (List.append_nil _).symm⟩
  induction s with
  | nil =>
    have hmem : separator ∉ p := fun h => ne_of_blank hsep (hp _ h) rfl
    rw [List.nil_append, splitOn_of_not_mem hmem]
    exact .cons ⟨p, hp, rfl⟩ .nil
  | cons c s ih =>
    by_cases hc : c = separator
    · rw [List.cons_append, splitOn, splitOn, if_pos hc, if_pos hc]
      exact .cons (hsame _) ih
    · obtain ⟨part, more, hs, hcons⟩ := splitOn_cons_of_ne hc s
      obtain ⟨part', more', hs', hcons'⟩ := splitOn_cons_of_ne hc (s ++ p)
      rw [hs, hs', List.forall₂_cons] at ih
      obtain ⟨⟨q, hq, rfl⟩, hmore⟩ := ih
      rw [List.cons_append, hcons, hcons']
      exact .cons ⟨q, hq, rfl⟩ hmore

/-- Blanks around a text make no difference to its parts, blanks aside. -/
theorem map_trim_splitOn (hsep : isBlank separator = false) (h : Surrounded core s) :
    (splitOn separator s).map trim = (splitOn separator core).map trim := by
  obtain ⟨before, after, hbefore, hafter, rfl⟩ := h
  have hparts := splitOn_append_blanks hsep hafter core
  refine Eq.symm ?_
  rw [List.append_assoc, map_trim_splitOn_blanks_append hsep hbefore, ← List.forall₂_eq_eq_eq,
    List.forall₂_map_left_iff, List.forall₂_map_right_iff]
  refine hparts.imp ?_
  rintro part _ ⟨q, hq, rfl⟩
  exact (trim_of_surrounded ⟨[], q, List.forall_mem_nil _, hq, rfl⟩).symm

theorem mem_trim (hc : isBlank c = false) (h : c ∈ s) : c ∈ trim s := by
  obtain ⟨before, after, hbefore, hafter, hs⟩ := surrounded_trim s
  rw [hs, List.mem_append, List.mem_append] at h
  rcases h with (h | h) | h
  · cases hc.symm.trans (hbefore c h)
  · exact h
  · cases hc.symm.trans (hafter c h)

end Text

namespace Value

variable {n : Int} {ns : List Int} {c : Char} {s : List Char}

theorem not_isBlank_of_mem_intText (h : c ∈ intText n) : Text.isBlank c = false := by
  obtain ⟨hlow, hhigh⟩ := toNat_of_mem_intText h
  exact Text.not_isBlank_of_visible (by omega) (by omega)

theorem trim_intText (n : Int) : Text.trim (intText n) = intText n :=
  Text.trim_of_not_isBlank fun _ hc => not_isBlank_of_mem_intText hc

theorem intText_ne_nil (n : Int) : intText n ≠ [] := by
  rcases intText_cases n with ⟨-, h⟩ | ⟨-, c, ds, h, -⟩ <;> simp [h]

/-- Twenty characters are enough for an integer of 64 bits. -/
theorem length_intText_le (h : -2 ^ 63 ≤ n ∧ n < 2 ^ 63) : (intText n).length ≤ 20 := by
  have hdigits : (natText n.natAbs).length ≤ 19 :=
    (Nat.length_toDigits_le_iff (by decide) (by decide)).mpr (by omega)
  unfold intText
  split_ifs
  · exact Nat.succ_le_succ hdigits
  · exact hdigits.trans (by decide)

/-- The decimal texts of integers with commas between them and blanks around each. -/
def Lists (ns : List Int) (s : List Char) : Prop :=
  ∃ parts, List.Forall₂ (fun part n => Text.Surrounded (intText n) part) parts ns ∧
    Text.Surrounded (List.intercalate [','] parts) s

theorem comma_not_mem_of_surrounded (h : Text.Surrounded (intText n) s) : ',' ∉ s := by
  obtain ⟨before, after, hbefore, hafter, rfl⟩ := h
  have hblank : ¬Text.isBlank ',' = true := by decide
  simp only [List.mem_append, not_or]
  refine ⟨⟨fun h => hblank (hbefore _ h), fun h => ?_⟩, fun h => hblank (hafter _ h)⟩
  exact absurd (toNat_of_mem_intText h) (by decide)

/-- Between the commas, blanks aside, stand the decimal texts. -/
theorem Lists.parts (h : Lists ns s) (hne : ns ≠ []) :
    (Text.splitOn ',' (Text.trim s)).map Text.trim = ns.map intText := by
  obtain ⟨parts, hparts, hs⟩ := h
  have hsome : parts ≠ [] := by
    rintro rfl
    cases hparts
    exact hne rfl
  have hcomma : ∀ part ∈ parts, ',' ∉ part :=
    ((List.forall₂_and_left _ _).mp (hparts.imp fun _ _ h => ⟨comma_not_mem_of_surrounded h, h⟩)).1
  have htrim : parts.map Text.trim = ns.map intText := by
    rw [← List.forall₂_eq_eq_eq, List.forall₂_map_left_iff, List.forall₂_map_right_iff]
    exact hparts.imp fun part n h => (Text.trim_of_surrounded h).trans (trim_intText n)
  have hblank : Text.isBlank ',' = false := by decide
  rw [← Text.map_trim_splitOn hblank (Text.surrounded_trim s), Text.map_trim_splitOn hblank hs,
    Text.splitOn_intercalate hsome hcomma, htrim]

theorem Lists.trim_of_nil (h : Lists [] s) : Text.trim s = [] := by
  obtain ⟨parts, hparts, hs⟩ := h
  cases hparts
  exact Text.trim_of_surrounded hs

theorem Lists.trim_ne_nil (h : Lists ns s) (hne : ns ≠ []) : Text.trim s ≠ [] := by
  intro hnil
  have hparts := h.parts hne
  rw [hnil] at hparts
  have hmem : [] ∈ ns.map intText := hparts ▸ List.mem_singleton_self []
  obtain ⟨n, -, hn⟩ := List.mem_map.mp hmem
  exact intText_ne_nil n hn

/-- A list of integers between commas does not look like an array. -/
theorem Lists.head?_trim (h : Lists ns s) : (Text.trim s).head? ≠ some '[' := by
  intro hhead
  obtain ⟨t, ht⟩ := List.head?_eq_some_iff.mp hhead
  have hne : ns ≠ [] := by
    rintro rfl
    cases h.trim_of_nil.symm.trans ht
  have hparts := h.parts hne
  obtain ⟨part, more, -, hcons⟩ := Text.splitOn_cons_of_ne (by decide : '[' ≠ ',') t
  rw [ht, hcons, List.map_cons] at hparts
  have hmem : Text.trim ('[' :: part) ∈ ns.map intText := hparts ▸ List.mem_cons_self
  obtain ⟨n, -, hn⟩ := List.mem_map.mp hmem
  have hbracket : '[' ∈ intText n := hn ▸ Text.mem_trim (by decide) List.mem_cons_self
  exact absurd (toNat_of_mem_intText hbracket) (by decide)

end Value

namespace Coercion

variable {conversions : Table Conversion} {n : Int} {ns : List Int} {s t : String} {v : Value}
  {xs : List Value}

theorem spread_of_lists (h : Value.Lists ns s.toList) :
    spread true (.text s) = .members (ns.map fun n => .text (String.ofList (Value.intText n))) := by
  have hhead : ¬(trimmed s).head? = some '[' := h.head?_trim
  rw [spread, spreadText]
  simp only [if_neg hhead, Bool.not_true, Bool.false_eq_true, if_false]
  by_cases hne : ns = []
  · subst hne
    have hnil : trimmed s = [] := h.trim_of_nil
    simp only [hnil, List.isEmpty_nil, if_true, List.map_nil]
  · have hsome : ¬(trimmed s).isEmpty = true := mt List.isEmpty_iff.mp (h.trim_ne_nil hne)
    have hparts := congrArg (List.map fun part => Value.text (String.ofList part)) (h.parts hne)
    rw [List.map_map, List.map_map] at hparts
    rw [if_neg hsome]
    exact congrArg Spread.members hparts

theorem toInt?_intText (h : -2 ^ 63 ≤ n ∧ n < 2 ^ 63) :
    toInt? int64Low int64High (.text (String.ofList (Value.intText n))) = some n := by
  refine toInt?_text_eq_some_iff.mpr ⟨Value.intText n, ?_, readInt?_eq_some_iff.mp (Value.readInt?_intText n),
    Value.length_intText_le h, h.1, Int.le_sub_one_of_lt h.2⟩
  rw [String.toList_ofList]
  exact .refl _

/-- However a list type comes to see integers, or texts of integers, it takes all of them. -/
theorem run_list_of_integers (hlist : Table.get? conversions "list[int]" = none)
    (hint : Table.get? conversions "int" = none) (hv : v.isNull = false)
    (hspread : spread true v = .members xs)
    (hxs : List.Forall₂ (fun x n => x.isNull = false ∧ toInt? int64Low int64High x = some n) xs ns) :
    run conversions (.list "list[int]" true .int) v = .accepted (.list (ns.map .int)) [] := by
  have hmembers : xs.map (run conversions .int) = (ns.map .int).map fun v => .accepted v [] := by
    rw [List.map_map, ← List.forall₂_eq_eq_eq, List.forall₂_map_left_iff, List.forall₂_map_right_iff]
    refine hxs.imp fun x n h => ?_
    rw [run_int hint h.1, h.2]
    rfl
  rw [run_list_of_spread hlist hv hspread, hmembers, gatherList_accepted]

end Coercion

namespace Conversions

variable {r : Conversions} {ns : List Int}

/-- Integers of 64 bits are brought to a list of integers as they are, from decimal texts between commas
and from a text in JSON alike. -/
theorem integer_lists_agree (hlist : r.find? "list[int]" = none) (hint : r.find? "int" = none)
    (hns : ∀ n ∈ ns, -2 ^ 63 ≤ n ∧ n < 2 ^ 63) :
    r.coerce "list[int]" (.list (ns.map .int)) = .accepted (.list (ns.map .int)) [] ∧
    (∀ s : String, Value.Lists ns s.toList →
      r.coerce "list[int]" (.text s) = .accepted (.list (ns.map .int)) []) ∧
    ∀ t, Json.read t = .ok (.list (ns.map .int)) →
      r.coerce "list[int]" (.text t) = .accepted (.list (ns.map .int)) [] := by
  have htarget : Target.ofName "list[int]" = .list "list[int]" true .int := TypeTerm.ofName_name (.list .int)
  have hints : List.Forall₂
      (fun x n => x.isNull = false ∧ Coercion.toInt? Coercion.int64Low Coercion.int64High x = some n)
      (ns.map .int) ns := by
    rw [List.forall₂_map_left_iff, List.forall₂_same]
    exact fun n hn => ⟨rfl, if_pos ⟨(hns n hn).1, Int.le_sub_one_of_lt (hns n hn).2⟩⟩
  have htexts : List.Forall₂
      (fun x n => x.isNull = false ∧ Coercion.toInt? Coercion.int64Low Coercion.int64High x = some n)
      (ns.map fun n => .text (String.ofList (Value.intText n))) ns := by
    rw [List.forall₂_map_left_iff, List.forall₂_same]
    exact fun n hn => ⟨rfl, Coercion.toInt?_intText (hns n hn)⟩
  simp only [coerce, htarget]
  exact ⟨Coercion.run_list_of_integers hlist hint rfl rfl hints,
    fun s hs => Coercion.run_list_of_integers hlist hint rfl (Coercion.spread_of_lists hs) htexts,
    fun t ht => Coercion.run_list_of_integers hlist hint rfl (Coercion.spread_of_read ht true) hints⟩

/-- The smallest and the greatest integer, and one between. -/
def extremes : List Int := [-9223372036854775808, 7, 9223372036854775807]

theorem integer_lists_agree_extremes :
    Conversions.empty.coerce "list[int]" (.list (extremes.map .int)) =
        .accepted (.list (extremes.map .int)) [] ∧
      Conversions.empty.coerce "list[int]" (.text "-9223372036854775808 , 7,9223372036854775807") =
        .accepted (.list (extremes.map .int)) [] ∧
      Conversions.empty.coerce "list[int]" (.text "[-9223372036854775808,7, 9223372036854775807]\n") =
        .accepted (.list (extremes.map .int)) [] := by
  have hrange : ∀ n ∈ extremes, -2 ^ 63 ≤ n ∧ n < 2 ^ 63 := by simp [extremes]
  have hparts : List.Forall₂ (fun part n => Text.Surrounded (Value.intText n) part)
      ["-9223372036854775808 ".toList, " 7".toList, "9223372036854775807".toList] extremes :=
    .cons ⟨[], [' '], List.forall_mem_nil _, List.forall_mem_singleton.mpr rfl, by decide +kernel⟩
      (.cons ⟨[' '], [], List.forall_mem_singleton.mpr rfl, List.forall_mem_nil _, by decide +kernel⟩
        (.cons ⟨[], [], List.forall_mem_nil _, List.forall_mem_nil _, by decide +kernel⟩ .nil))
  have hlists : Value.Lists extremes "-9223372036854775808 , 7,9223372036854775807".toList :=
    ⟨_, hparts, [], [], List.forall_mem_nil _, List.forall_mem_nil _, by decide +kernel⟩
  have hjson : Json.read "[-9223372036854775808,7, 9223372036854775807]\n" =
      .ok (.list (extremes.map .int)) := by cbv
  obtain ⟨hlist, htext, hread⟩ := integer_lists_agree (r := .empty) rfl rfl hrange
  exact ⟨hlist, htext _ hlists, hread _ hjson⟩

end Conversions

end Intake
