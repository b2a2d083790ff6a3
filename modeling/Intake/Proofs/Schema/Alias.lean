import Intake.Proofs.Schema.Names
import Intake.Proofs.Table

namespace Intake.Outline

variable {o : Outline} {f : Field} {data d r : Table Value} {ms : Table String} {a : String}

/-- The value under an alias goes to a name. -/
def move (d : Table Value) (m : String × String) : Except Fault (Table Value) :=
  match Table.get? d m.2 with
  | some v => .ok (Table.put (Table.remove d m.2) m.1 v)
  | none => .error .missingKey

/-- The alias under which the value of a field is found, if it is found under its alias. -/
def sentAs? (f : Field) (data : Table Value) : Option String :=
  f.alias?.filter fun a => Table.has data a && !Table.has data f.name

/-- The fields whose values are found under their aliases, with those aliases. -/
def moves (o : Outline) (data : Table Value) : Table String :=
  o.allFields.filterMap fun f => (sentAs? f data).map (f.name, ·)

theorem sentAs?_eq_some_iff :
    sentAs? f data = some a ↔
      f.alias? = some a ∧ a ∈ Table.names data ∧ f.name ∉ Table.names data := by
  rw [sentAs?, Option.filter_eq_some_iff, Bool.and_eq_true, Bool.not_eq_true', Table.has_iff,
    Table.has_eq_false_iff]

theorem resolveAliases_eq (o : Outline) (data : Table Value) :
    o.resolveAliases data = (o.moves data).foldlM move data := by
  change List.foldlM move data (o.allFields.filterMap _) = _
  rw [moves]
  congr 1
  apply List.filterMap_congr
  intro f _
  rw [sentAs?]
  cases f.alias? with
  | none => rfl
  | some a =>
    dsimp only
    rw [Option.filter_some]
    split_ifs
    · rfl
    · rfl

theorem resolveAliases_of_no_alias (h : ∀ f ∈ o.allFields, f.alias? = none) (data : Table Value) :
    o.resolveAliases data = .ok data := by
  have hmoves : o.moves data = [] := by
    rw [moves, List.filterMap_eq_nil_iff]
    intro f hf
    rw [sentAs?, h f hf]
    rfl
  rw [resolveAliases_eq, hmoves]
  rfl

theorem foldlM_move_cons {m : String × String} :
    (m :: ms).foldlM move d = .ok r ↔ ∃ v, Table.get? d m.2 = some v ∧
      ms.foldlM move (Table.put (Table.remove d m.2) m.1 v) = .ok r := by
  rw [List.foldlM_cons, move]
  cases Table.get? d m.2 with
  | none =>
    constructor
    · intro h
      cases h
    · rintro ⟨v, h, -⟩
      cases h
  | some v =>
    constructor
    · intro h
      exact ⟨v, rfl, h⟩
    · rintro ⟨w, hw, h⟩
      cases hw
      exact h

theorem nodup_names_of_foldlM_move (hd : (Table.names d).Nodup) (h : ms.foldlM move d = .ok r) :
    (Table.names r).Nodup := by
  induction ms generalizing d with
  | nil =>
    obtain rfl := Except.ok.inj h
    exact hd
  | cons m ms ih =>
    obtain ⟨v, -, h⟩ := foldlM_move_cons.mp h
    exact ih (Table.nodup_names_put (Table.nodup_names_remove hd m.2) m.1 v) h

/-- Where moves that can all be carried out leave what stands under a name. Names that are moved to
differ from each other and from those that are moved from. -/
theorem get?_of_foldlM_move (hd : (Table.names d).Nodup) (hms : (Table.names ms).Nodup)
    (hapart : ∀ m ∈ ms, ∀ m' ∈ ms, m.1 ≠ m'.2) (h : ms.foldlM move d = .ok r) :
    (∀ m ∈ ms, Table.get? d m.2 ≠ none) ∧
      ∀ name, Table.get? r name =
        match Table.get? ms name with
        | some a => Table.get? d a
        | none => if name ∈ Table.values ms then none else Table.get? d name := by
  induction ms generalizing d with
  | nil =>
    obtain rfl := Except.ok.inj h
    simp [Table.values]
  | cons m ms ih =>
    obtain ⟨n, a⟩ := m
    obtain ⟨v, hv, h⟩ := foldlM_move_cons.mp h
    dsimp only at hv h
    rw [Table.names_cons, List.nodup_cons] at hms
    have hna : n ≠ a := hapart _ List.mem_cons_self _ List.mem_cons_self
    have hn : ∀ m ∈ ms, n ≠ m.2 := fun m hm =>
      hapart _ List.mem_cons_self _ (List.mem_cons_of_mem _ hm)
    have hstep := Table.get?_put_remove hd a n v
    obtain ⟨hsent, hget⟩ := ih (Table.nodup_names_put (Table.nodup_names_remove hd a) n v) hms.2
      (fun m hm m' hm' => hapart _ (List.mem_cons_of_mem _ hm) _ (List.mem_cons_of_mem _ hm')) h
    -- Every later move finds a value, so none of them starts from the alias that is now empty.
    have hsent' : ∀ m ∈ ms, a ≠ m.2 ∧ Table.get? d m.2 ≠ none := by
      intro m hm
      have hm' := hsent m hm
      rw [hstep, if_neg (hn m hm)] at hm'
      by_cases ham : a = m.2
      · exact absurd (if_pos ham) hm'
      · rw [if_neg ham] at hm'
        exact ⟨ham, hm'⟩
    constructor
    · intro m hm
      rcases List.mem_cons.mp hm with rfl | hm
      · rw [hv]
        exact Option.some_ne_none v
      · exact (hsent' m hm).2
    · intro name
      rw [hget, Table.get?_cons]
      by_cases hname : n = name
      · subst hname
        -- What has been moved to a name stays there: no later move starts from it.
        have hfree : n ∉ Table.values ms := by
          intro hmem
          obtain ⟨m, hm, hma⟩ := List.mem_map.mp hmem
          exact hn m hm hma.symm
        rw [(Table.get?_eq_none_iff ms n).mpr hms.1, if_pos rfl]
        simp only [if_neg hfree]
        rw [hstep, if_pos rfl, hv]
      · rw [if_neg hname]
        cases hmv : Table.get? ms name with
        | some a' =>
          have hm := Table.mem_of_get? hmv
          dsimp only
          rw [hstep, if_neg (hn _ hm), if_neg (hsent' _ hm).1]
        | none =>
          dsimp only
          rw [hstep, if_neg hname]
          by_cases ha : a = name
          · subst ha
            have hmem : a ∈ Table.values ((n, a) :: ms) := List.mem_cons_self
            rw [if_pos hmem, if_pos rfl, ite_self]
          · have hiff : name ∈ Table.values ((n, a) :: ms) ↔ name ∈ Table.values ms := by
              rw [Table.values, List.map_cons, List.mem_cons]
              exact or_iff_right (Ne.symm ha)
            rw [if_neg ha, if_congr hiff rfl rfl]

theorem get?_moves (h : o.allNames.Nodup) (hf : f ∈ o.allFields) :
    Table.get? (o.moves data) f.name = sentAs? f data :=
  Table.get?_filterMap Field.name (sentAs? · data) (allNames_eq o ▸ h) hf

theorem mem_moves {m : String × String} :
    m ∈ o.moves data ↔ ∃ f ∈ o.allFields, sentAs? f data = some m.2 ∧ f.name = m.1 := by
  simp only [moves, List.mem_filterMap, Option.map_eq_some_iff, Prod.ext_iff]
  grind

theorem mem_values_moves :
    a ∈ Table.values (o.moves data) ↔ ∃ f ∈ o.allFields, sentAs? f data = some a := by
  rw [Table.values, List.mem_map]
  constructor
  · rintro ⟨m, hm, rfl⟩
    obtain ⟨f, hf, ha, -⟩ := mem_moves.mp hm
    exact ⟨f, hf, ha⟩
  · rintro ⟨f, hf, ha⟩
    exact ⟨(f.name, a), mem_moves.mpr ⟨f, hf, ha, rfl⟩, rfl⟩

theorem nodup_names_moves (h : o.allNames.Nodup) : (Table.names (o.moves data)).Nodup :=
  (allNames_eq o ▸ h).sublist (Table.names_filterMap_sublist o.allFields (·.name) (sentAs? · data))

/-- Names that values are moved to are not among the names that were sent, and aliases are. -/
theorem moves_apart {m m' : String × String} (hm : m ∈ o.moves data) (hm' : m' ∈ o.moves data) :
    m.1 ≠ m'.2 := by
  obtain ⟨f, -, hf, hname⟩ := mem_moves.mp hm
  obtain ⟨f', -, hf', -⟩ := mem_moves.mp hm'
  obtain ⟨-, -, habsent⟩ := sentAs?_eq_some_iff.mp hf
  obtain ⟨-, hsent, -⟩ := sentAs?_eq_some_iff.mp hf'
  intro heq
  rw [hname, heq] at habsent
  exact habsent hsent

theorem nodup_names_of_resolveAliases (hd : (Table.names data).Nodup)
    (h : o.resolveAliases data = .ok r) : (Table.names r).Nodup :=
  nodup_names_of_foldlM_move hd (resolveAliases_eq o data ▸ h)

/-- The value under the name of a field once aliases are resolved: the one under its alias where that
was sent instead, and none where the name was used as the alias of another field. -/
theorem get?_of_resolveAliases (ho : o.WellNamed) (hd : (Table.names data).Nodup)
    (h : o.resolveAliases data = .ok r) (hf : f ∈ o.allFields) :
    Table.get? r f.name =
      match sentAs? f data with
      | some a => Table.get? data a
      | none =>
        if f.name ∈ Table.values (o.moves data) then none else Table.get? data f.name := by
  rw [resolveAliases_eq] at h
  have hget := (get?_of_foldlM_move hd (nodup_names_moves ho.nodup_allNames)
    (fun m hm m' hm' => moves_apart hm hm') h).2 f.name
  rwa [get?_moves ho.nodup_allNames hf] at hget

end Intake.Outline
