import Intake.Proofs.Run.Values
import Intake.Proofs.Schema.Alias

namespace Intake

open Context

namespace Schema

/-- What becomes of a value sent for a field: null stays; a value of a field with a nested schema is
seen as a container and goes to that schema; any other is brought to the field's type. -/
inductive Becomes (s : Schema) (f : Field) : Value → Value → Prop where
  | null : Becomes s f .null .null
  | typed {v w : Value} {ps : List Position} (hn : v ≠ .null)
      (hb : f.name ∉ s.nested.map Binding.name)
      (h : s.outline.conversions.coerce f.type v = .accepted w ps) : Becomes s f v w
  | nested {v u w : Value} {b : Binding} (hn : v ≠ .null) (hb : b ∈ s.nested)
      (hname : b.name = f.name) (h : Outline.Contains b.many v u)
      (hw : b.schema.Cleans b.many u w) : Becomes s f v w

/-- The entries of a payload for declared fields, in their order: what becomes of a value that was
sent, else the default where there is one. -/
inductive Fills (s : Schema) (data : Table Value) : List Field → Table Value → Prop where
  | nil : Fills s data [] []
  | sent {f : Field} {v w : Value} {fs : List Field} {es : Table Value}
      (hv : Table.get? data f.name = some v) (hw : s.Becomes f v w) (h : Fills s data fs es) :
      Fills s data (f :: fs) ((f.name, w) :: es)
  | default {f : Field} {w : Value} {fs : List Field} {es : Table Value}
      (hv : Table.get? data f.name = none) (hw : f.default = some w) (h : Fills s data fs es) :
      Fills s data (f :: fs) ((f.name, w) :: es)
  | absent {f : Field} {fs : List Field} {es : Table Value}
      (hv : Table.get? data f.name = none) (hw : f.default = none) (h : Fills s data fs es) :
      Fills s data (f :: fs) es

variable {s : Schema} {o : Outline} {bs : List Binding} {f : Field} {fs : List Field}
  {data es es' : Table Value} {c d : Context} {v w : Value}

theorem Becomes.unique {w' : Value} (hs : s.WellNamed) (h : s.Becomes f v w)
    (h' : s.Becomes f v w') : w = w' := by
  cases h with
  | null =>
    cases h' with
    | null => rfl
    | typed hn => exact absurd rfl hn
    | nested hn => exact absurd rfl hn
  | typed hn hb h =>
    cases h' with
    | null => exact absurd rfl hn
    | typed _ _ h' =>
      rw [h] at h'
      cases h'
      rfl
    | nested _ hb' hname => exact absurd (hname ▸ List.mem_map_of_mem hb') hb
  | @nested _ u _ b hn hb hname h hw =>
    cases h' with
    | null => exact absurd rfl hn
    | typed _ hb' => exact absurd (hname ▸ List.mem_map_of_mem hb) hb'
    | @nested _ u' _ b' _ hb' hname' h' hw' =>
      obtain rfl : b = b' := List.inj_on_of_nodup_map hs.bindings hb hb' (hname.trans hname'.symm)
      obtain rfl := h.unique h'
      exact hw.unique hw'

/-- A container that a nested schema has turned is the value that the schema makes of it. -/
theorem exists_cleans_of_turns {b : Binding} {u : Value} {w? : Option Value}
    (hu : Outline.Contains b.many v u) (h : b.Turns (some u) w?) :
    ∃ w, w? = some w ∧ b.schema.Cleans b.many u w := by
  cases h with
  | null => exact absurd rfl hu.ne_null
  | other hm hlist =>
    rw [hm] at hu
    obtain ⟨vs, rfl⟩ := hu.is_list
    exact absurd rfl (hlist vs)
  | cleaned _ h => exact ⟨_, rfl, h⟩

theorem turns_null {b : Binding} {w? : Option Value} (h : b.Turns (some .null) w?) :
    w? = some .null := by
  cases h with
  | null => rfl
  | other => rfl
  | cleaned hn => exact absurd rfl hn

theorem passes_checkField_of_firstPart {nesting : Table Bool} {c : Context}
    (hfirst : (o.firstPart nesting).Passes (Context.start data) c) (hf : f ∈ o.fields) :
    ∃ c' d', c'.data = data ∧ ¬(f.required && Outline.isMissing c'.data f.name) = true ∧
      (o.checkField (Table.get? nesting f.name) f).Passes c' d' := by
  obtain ⟨hpresence, e, hfields, -⟩ := Outline.passes_firstPart.mp hfirst
  have hgrowing : ∀ s ∈ o.fields.map fun f => o.checkField (Table.get? nesting f.name) f,
      Step.Growing s := by
    intro s hs
    obtain ⟨f, -, rfl⟩ := List.mem_map.mp hs
    exact Outline.growing_checkField o _ f
  obtain ⟨c', d', hgrow, hp⟩ := hfields.of_mem_all hgrowing (List.mem_map_of_mem hf)
  have hdata : c'.data = data := hgrow.data
  exact ⟨c', d', hdata, hdata ▸ hpresence f hf, hp⟩

/-- In a run that passes, what was sent for a field with a nested schema becomes the value that this
schema makes of it. -/
theorem exists_becomes_of_nested (hs : (Schema.mk o bs).WellNamed)
    (hfirst : (o.firstPart (nestedFields bs)).Passes (Context.start data) c)
    (hsecond : (o.secondPart (checkBindings bs) (o.activeGroups c)).Passes c d) (hf : f ∈ o.fields)
    {b : Binding} (hb : b ∈ bs) (hname : b.name = f.name)
    (hv : Table.get? data f.name = some v) :
    ∃ w, Table.get? d.coerced f.name = some w ∧ (Schema.mk o bs).Becomes f v w := by
  obtain ⟨c', d', hdata, hthere, hp⟩ := passes_checkField_of_firstPart hfirst hf
  have ho : o.WellNamed := hs.outline
  obtain ⟨hin, hout⟩ := Outline.coerced_of_firstPart ho hfirst.run
  obtain ⟨-, hturn, -⟩ := Outline.coerced_of_passes_secondPart hs
    (fun g hg => Outline.mem_activeGroups hg) hout hsecond
  have hbs : (bs.map Binding.name).Nodup := hs.bindings
  have hmany := get?_nestedFields hbs hb
  have hc := hin f hf
  have ht := hturn b hb
  rw [hname] at hmany ht
  -- The first part leaves a container under the name, which the nested schema then turns.
  rw [hmany] at hp hc
  by_cases hn : v = .null
  · subst hn
    rw [hc, Outline.typedValue?_of_null hv] at ht
    exact ⟨.null, turns_null ht, .null⟩
  · have hsent : Table.get? c'.data f.name = some v := hdata ▸ hv
    obtain ⟨u, ps, hu, hval⟩ := Outline.typedValue?_of_passes hthere hp hsent hn
    obtain ⟨hcontains, -⟩ := Outline.nestedContainer_eq_accepted_iff.mp hu
    rw [hc, ← hdata, hval] at ht
    obtain ⟨w, hw, hcleans⟩ := exists_cleans_of_turns hcontains ht
    exact ⟨w, hw, .nested hn hb hname hcontains hcleans⟩

/-- In a run that passes, what was sent for a field of the schema itself becomes the value under its
name. -/
theorem exists_becomes_of_own (hs : (Schema.mk o bs).WellNamed)
    (hfirst : (o.firstPart (nestedFields bs)).Passes (Context.start data) c)
    (hsecond : (o.secondPart (checkBindings bs) (o.activeGroups c)).Passes c d) (hf : f ∈ o.fields)
    (hv : Table.get? data f.name = some v) :
    ∃ w, Table.get? d.coerced f.name = some w ∧ (Schema.mk o bs).Becomes f v w := by
  by_cases hb : f.name ∈ bs.map Binding.name
  · obtain ⟨b, hmem, hname⟩ := List.mem_map.mp hb
    exact exists_becomes_of_nested hs hfirst hsecond hf hmem hname hv
  · obtain ⟨c', d', hdata, hthere, hp⟩ := passes_checkField_of_firstPart hfirst hf
    have ho : o.WellNamed := hs.outline
    obtain ⟨hin, hout⟩ := Outline.coerced_of_firstPart ho hfirst.run
    obtain ⟨-, -, hkeep⟩ := Outline.coerced_of_passes_secondPart hs
      (fun g hg => Outline.mem_activeGroups hg) hout hsecond
    have hc := hin f hf
    rw [get?_nestedFields_of_not_mem hb] at hp hc
    rw [hkeep f hf hb, hc]
    by_cases hn : v = .null
    · subst hn
      exact ⟨.null, Outline.typedValue?_of_null hv, .null⟩
    · have hsent : Table.get? c'.data f.name = some v := hdata ▸ hv
      obtain ⟨w, ps, ht, hval⟩ := Outline.typedValue?_of_passes hthere hp hsent hn
      exact ⟨w, hdata ▸ hval, .typed hn hb ht⟩

theorem exists_becomes_of_group (hs : (Schema.mk o bs).WellNamed)
    (hfirst : (o.firstPart (nestedFields bs)).Passes (Context.start data) c)
    (hsecond : (o.secondPart (checkBindings bs) (o.activeGroups c)).Passes c d)
    (hf : f ∈ Outline.groupFields (o.activeGroups c)) (hv : Table.get? data f.name = some v) :
    ∃ w, Table.get? d.coerced f.name = some w ∧ (Schema.mk o bs).Becomes f v w := by
  have ho : o.WellNamed := hs.outline
  obtain ⟨e, hfields, -⟩ :=
    (Outline.passes_secondPart (Binding.growing_checkBindings bs)).mp hsecond
  have hgrowing : ∀ s ∈ (Outline.groupFields (o.activeGroups c)).map o.checkGroupField,
      Step.Growing s := by
    intro s hs
    obtain ⟨f, -, rfl⟩ := List.mem_map.mp hs
    exact Outline.growing_checkGroupField o f
  obtain ⟨c', d', hgrow, hp⟩ := hfields.of_mem_all hgrowing (List.mem_map_of_mem hf)
  have hc : c.data = data := Outline.data_of_firstPart hfirst.run
  have hdata : c'.data = data := hgrow.data.trans hc
  have hsent : Table.get? c'.data f.name = some v := hdata ▸ hv
  obtain ⟨hthere, hp⟩ := Outline.passes_checkGroupField.mp hp
  obtain ⟨-, hout⟩ := Outline.coerced_of_firstPart ho hfirst.run
  obtain ⟨hin, -, -⟩ := Outline.coerced_of_passes_secondPart hs
    (fun g hg => Outline.mem_activeGroups hg) hout hsecond
  -- Nested schemas belong to fields of the schema itself, whose names no group takes.
  have hb : f.name ∉ bs.map Binding.name := by
    intro hmem
    obtain ⟨g, hg, hfg⟩ := Outline.mem_of_mem_groupFields hf
    obtain ⟨b, hb, hname⟩ := List.mem_map.mp hmem
    exact ho.apart g (Outline.mem_activeGroups hg) f hfg (hname ▸ hs.declared b hb)
  rw [hin f hf, hc]
  by_cases hn : v = .null
  · subst hn
    exact ⟨.null, Outline.typedValue?_of_null hv, .null⟩
  · obtain ⟨w, ps, ht, hval⟩ := Outline.typedValue?_of_passes hthere hp hsent hn
    exact ⟨w, hdata ▸ hval, .typed hn hb ht⟩

theorem get?_coerced_of_absent (hs : (Schema.mk o bs).WellNamed)
    (hfirst : (o.firstPart (nestedFields bs)).Passes (Context.start data) c)
    (hsecond : (o.secondPart (checkBindings bs) (o.activeGroups c)).Passes c d)
    (hf : f ∈ o.fields ++ Outline.groupFields (o.activeGroups c))
    (hv : Table.get? data f.name = none) : Table.get? d.coerced f.name = none := by
  have ho : o.WellNamed := hs.outline
  have hc : c.data = data := Outline.data_of_firstPart hfirst.run
  obtain ⟨hin, hout⟩ := Outline.coerced_of_firstPart ho hfirst.run
  obtain ⟨hgroup, hturn, hkeep⟩ := Outline.coerced_of_passes_secondPart hs
    (fun g hg => Outline.mem_activeGroups hg) hout hsecond
  rcases List.mem_append.mp hf with hf | hf
  · have hcf := hin f hf
    rw [Outline.typedValue?_of_absent hv] at hcf
    by_cases hb : f.name ∈ bs.map Binding.name
    · obtain ⟨b, hmem, hname⟩ := List.mem_map.mp hb
      have ht := hturn b hmem
      rw [hname, hcf] at ht
      generalize Table.get? d.coerced f.name = w? at ht
      cases ht
      rfl
    · rw [hkeep f hf hb, hcf]
  · rw [hgroup f hf, hc]
    exact Outline.typedValue?_of_absent hv

/-- The groups that apply to data whose names are resolved. -/
def groupsFor (s : Schema) (data : Table Value) : List Group :=
  s.outline.activeGroups (s.outline.typedView (nestedFields s.nested) data)

/-- The declared fields that count for data: those of the schema itself, then those of the groups that
apply, of which the first with a name counts. -/
def fieldsFor (s : Schema) (data : Table Value) : List Field :=
  s.outline.fields ++ Outline.firstNamed ((s.groupsFor data).flatMap (·.fields))

/-- The entries of undeclared keys, where they are passed on. -/
def undeclared (s : Schema) (data : Table Value) : Table Value :=
  if s.outline.unknown.keeps then data.filter fun e => !s.outline.allNames.contains e.1 else []

/-- Whether a value stays in a payload: nulls and empty lists may be stripped. -/
def keepsValue (s : Schema) (v : Value) : Bool :=
  !(s.outline.stripNulls && v.isNull) && !(s.outline.stripEmptyLists && Outline.isEmptyList v)

theorem fills_filterMap (hdata : d.data = data)
    (hsent : ∀ f ∈ fs, ∀ v, Table.get? data f.name = some v →
      ∃ w, Table.get? d.coerced f.name = some w ∧ s.Becomes f v w)
    (habsent : ∀ f ∈ fs, Table.get? data f.name = none → Table.get? d.coerced f.name = none) :
    s.Fills data fs (fs.filterMap fun f => (Outline.outputValue? d f).map (f.name, ·)) := by
  induction fs with
  | nil => exact .nil
  | cons f fs ih =>
    have hrest := ih (fun f hf => hsent f (List.mem_cons_of_mem _ hf))
      (fun f hf => habsent f (List.mem_cons_of_mem _ hf))
    rw [List.filterMap_cons]
    cases hv : Table.get? data f.name with
    | some v =>
      obtain ⟨w, hw, hbecomes⟩ := hsent f List.mem_cons_self v hv
      rw [Outline.outputValue?, hw]
      exact .sent hv hbecomes hrest
    | none =>
      rw [Outline.outputValue?, habsent f List.mem_cons_self hv]
      have hhas : ¬d.hasField f.name = true := by
        rw [Context.hasField, Table.has_iff, hdata, ← Table.get?_eq_none_iff]
        exact hv
      simp only [if_neg hhas]
      cases hd : f.default with
      | none => exact .absent hv hd hrest
      | some w => exact .default hv hd hrest

/-- The entries of undeclared keys, where they are passed on, as a run picks them out: a key that stands
in the data more than once always has its first value. -/
def passedOn (s : Schema) (data : Table Value) : Table Value :=
  if s.outline.unknown.keeps then
    (s.outline.unknownKeys data).map fun k => (k, (Table.get? data k).getD .null)
  else []

theorem passedOn_eq_undeclared (hd : (Table.names data).Nodup) :
    s.passedOn data = s.undeclared data := by
  have hentries : ((s.outline.unknownKeys data).map fun k => (k, (Table.get? data k).getD .null)) =
      data.filter fun e => !s.outline.allNames.contains e.1 := by
    rw [Outline.unknownKeys, Table.names, List.filter_map, List.map_map]
    refine (List.map_congr_left fun e he => ?_).trans (List.map_id _)
    have hget := Table.get?_of_mem hd (List.mem_of_mem_filter he)
    simp only [Function.comp_apply, hget]
    rfl
  rw [passedOn, undeclared, hentries]

/-- What stands under the name of a field: what became of the value that was sent, else its default. -/
inductive Gives (s : Schema) (f : Field) : Option Value → Option Value → Prop where
  | sent {v w : Value} (h : s.Becomes f v w) : Gives s f (some v) (some w)
  | absent : Gives s f none f.default

theorem Gives.unique {v? w? w?' : Option Value} (hs : s.WellNamed) (h : s.Gives f v? w?)
    (h' : s.Gives f v? w?') : w? = w?' := by
  cases h with
  | sent h =>
    cases h' with
    | sent h' => rw [h.unique hs h']
  | absent =>
    cases h' with
    | absent => rfl

theorem Fills.names_sublist (h : s.Fills data fs es) :
    (Table.names es).Sublist (fs.map (·.name)) := by
  induction h with
  | nil => exact List.Sublist.slnil
  | sent _ _ _ ih => exact ih.cons_cons _
  | default _ _ _ ih => exact ih.cons_cons _
  | absent _ _ _ ih => exact ih.cons _

theorem Fills.unique (hs : s.WellNamed) (h : s.Fills data fs es) (h' : s.Fills data fs es') :
    es = es' := by
  induction h generalizing es' with
  | nil =>
    cases h'
    rfl
  | sent hv hw _ ih =>
    cases h' with
    | sent hv' hw' h' =>
      rw [hv] at hv'
      cases hv'
      rw [hw.unique hs hw', ih h']
    | default hv' => rw [hv] at hv'; cases hv'
    | absent hv' => rw [hv] at hv'; cases hv'
  | default hv hw _ ih =>
    cases h' with
    | sent hv' => rw [hv] at hv'; cases hv'
    | default _ hw' h' =>
      rw [hw] at hw'
      cases hw'
      rw [ih h']
    | absent _ hw' => rw [hw] at hw'; cases hw'
  | absent hv hw _ ih =>
    cases h' with
    | sent hv' => rw [hv] at hv'; cases hv'
    | default _ hw' => rw [hw] at hw'; cases hw'
    | absent _ _ h' => exact ih h'

theorem Fills.gives (hn : (fs.map (·.name)).Nodup) (h : s.Fills data fs es) (hf : f ∈ fs) :
    s.Gives f (Table.get? data f.name) (Table.get? es f.name) := by
  induction h with
  | nil => simp at hf
  | @sent g v w fs es hv hw h ih =>
    rw [List.map_cons, List.nodup_cons] at hn
    rw [Table.get?_cons]
    rcases List.mem_cons.mp hf with rfl | hf
    · rw [if_pos rfl, hv]
      exact .sent hw
    · have hne : g.name ≠ f.name := fun hname => hn.1 (hname ▸ List.mem_map_of_mem hf)
      rw [if_neg hne]
      exact ih hn.2 hf
  | @default g w fs es hv hw h ih =>
    rw [List.map_cons, List.nodup_cons] at hn
    rw [Table.get?_cons]
    rcases List.mem_cons.mp hf with rfl | hf
    · rw [if_pos rfl, hv, ← hw]
      exact .absent
    · have hne : g.name ≠ f.name := fun hname => hn.1 (hname ▸ List.mem_map_of_mem hf)
      rw [if_neg hne]
      exact ih hn.2 hf
  | @absent g fs es hv hw h ih =>
    rw [List.map_cons, List.nodup_cons] at hn
    rcases List.mem_cons.mp hf with rfl | hf
    · have hnone : Table.get? es f.name = none :=
        (Table.get?_eq_none_iff es f.name).mpr fun hmem => hn.1 (h.names_sublist.subset hmem)
      have hgives : s.Gives f none f.default := .absent
      rw [hw] at hgives
      rwa [hv, hnone]
    · exact ih hn.2 hf

theorem mem_groups_of_mem_groupsFor {g : Group} (h : g ∈ s.groupsFor data) :
    g ∈ s.outline.groups :=
  Outline.mem_activeGroups h

theorem nodup_names_fieldsFor (hs : s.WellNamed) (data : Table Value) :
    ((s.fieldsFor data).map (·.name)).Nodup := by
  rw [fieldsFor, ← Outline.groupFields_eq_firstNamed]
  exact hs.outline.nodup_append_groupFields fun g hg => mem_groups_of_mem_groupsFor hg

theorem name_mem_allNames (hf : f ∈ s.fieldsFor data) : f.name ∈ s.outline.allNames := by
  rw [Outline.mem_allNames]
  rcases List.mem_append.mp hf with hf | hf
  · exact .inl ⟨f, hf, rfl⟩
  · obtain ⟨g, hg, hfg⟩ := List.mem_flatMap.mp (Outline.mem_of_mem_firstNamed hf)
    exact .inr ⟨g, mem_groups_of_mem_groupsFor hg, f, hfg, rfl⟩

theorem not_mem_names_undeclared {name : String} (h : name ∈ s.outline.allNames) :
    name ∉ Table.names (s.undeclared data) := by
  unfold undeclared
  split_ifs
  · intro hmem
    obtain ⟨e, he, rfl⟩ := List.mem_map.mp hmem
    have hnot := List.of_mem_filter he
    rw [List.contains_iff_mem.mpr h] at hnot
    cases hnot
  · simp

theorem undeclared_sublist (s : Schema) (data : Table Value) :
    (s.undeclared data).Sublist data := by
  unfold undeclared
  split_ifs
  · exact List.filter_sublist
  · exact List.nil_sublist data

/-- Declared fields and undeclared keys never give two entries of one name. -/
theorem nodup_names_append_undeclared (hs : s.WellNamed) (hdata : (Table.names data).Nodup)
    (h : s.Fills data (s.fieldsFor data) es) :
    (Table.names (es ++ s.undeclared data)).Nodup := by
  rw [Table.names_append, List.nodup_append]
  refine ⟨(nodup_names_fieldsFor hs data).sublist h.names_sublist,
    hdata.sublist ((undeclared_sublist s data).map _), ?_⟩
  rintro name hname _ hname' rfl
  obtain ⟨f, hf, rfl⟩ := List.mem_map.mp (h.names_sublist.subset hname)
  exact not_mem_names_undeclared (name_mem_allNames hf) hname'

/-- The payload of a success, entry by entry. -/
theorem entries_of_yields {sent out : Table Value} (hs : s.WellNamed)
    (h : (s.validate (.map sent)).Yields out) :
    ∃ data es, s.outline.resolveAliases sent = .ok data ∧ s.Fills data (s.fieldsFor data) es ∧
      out = (es ++ s.passedOn data).filter fun e => s.keepsValue e.2 := by
  obtain ⟨o, bs⟩ := s
  rw [validate] at h
  obtain ⟨data, c, d, hdata, hfirst, hsecond, rfl⟩ :=
    (Outline.yields_check_iff (Binding.growing_checkBindings bs)).mp h
  have ho : o.WellNamed := hs.outline
  have hactive : o.activeGroups c = (Schema.mk o bs).groupsFor data :=
    Outline.activeGroups_of_firstPart ho hfirst.run
  have hfields : o.fields ++ Outline.groupFields (o.activeGroups c) =
      (Schema.mk o bs).fieldsFor data := by
    rw [Outline.groupFields_eq_firstNamed, hactive]
    rfl
  have hdd : d.data = data :=
    (hsecond.grows (Outline.growing_secondPart (Binding.growing_checkBindings bs) _)).data.trans
      (Outline.data_of_firstPart hfirst.run)
  have hpresent : ∀ f ∈ (Schema.mk o bs).fieldsFor data, ∀ v, Table.get? data f.name = some v →
      ∃ w, Table.get? d.coerced f.name = some w ∧ (Schema.mk o bs).Becomes f v w := by
    intro f hf v hv
    rw [← hfields] at hf
    rcases List.mem_append.mp hf with hf | hf
    · exact exists_becomes_of_own hs hfirst hsecond hf hv
    · exact exists_becomes_of_group hs hfirst hsecond hf hv
  have habsent : ∀ f ∈ (Schema.mk o bs).fieldsFor data, Table.get? data f.name = none →
      Table.get? d.coerced f.name = none :=
    fun f hf hv => get?_coerced_of_absent hs hfirst hsecond (hfields ▸ hf) hv
  refine ⟨data, _, hdata, fills_filterMap hdd hpresent habsent, ?_⟩
  -- The fields of groups that apply are gone over after the others, as `fieldsFor` lists them.
  rw [Outline.output, ho.foldl_groupFields (fun g hg => Outline.mem_activeGroups hg), hfields,
    ← hdd]
  rfl

theorem payload_of_yields {sent out : Table Value} (hs : s.WellNamed)
    (hsent : (Table.names sent).Nodup) (h : (s.validate (.map sent)).Yields out) :
    ∃ data es, s.outline.resolveAliases sent = .ok data ∧ s.Fills data (s.fieldsFor data) es ∧
      out = (es ++ s.undeclared data).filter fun e => s.keepsValue e.2 := by
  obtain ⟨data, es, hdata, hfill, hout⟩ := entries_of_yields hs h
  rw [passedOn_eq_undeclared (Outline.nodup_names_of_resolveAliases hsent hdata)] at hout
  exact ⟨data, es, hdata, hfill, hout⟩

/-- A payload has under the name of a field of the schema what the resolved data gives, unless it is
stripped. -/
theorem gives_of_yields {sent out : Table Value} (hs : s.WellNamed)
    (hsent : (Table.names sent).Nodup) (h : (s.validate (.map sent)).Yields out)
    (hf : f ∈ s.outline.fields) :
    ∃ data w?, s.outline.resolveAliases sent = .ok data ∧
      s.Gives f (Table.get? data f.name) w? ∧ Table.get? out f.name = w?.filter s.keepsValue := by
  obtain ⟨data, es, hdata, hfill, rfl⟩ := payload_of_yields hs hsent h
  have hmem : f ∈ s.fieldsFor data := List.mem_append_left _ hf
  have hnames := Outline.nodup_names_of_resolveAliases hsent hdata
  have hnone : Table.get? (s.undeclared data) f.name = none :=
    (Table.get?_eq_none_iff _ _).mpr (not_mem_names_undeclared (name_mem_allNames hmem))
  refine ⟨data, _, hdata, hfill.gives (nodup_names_fieldsFor hs data) hmem, ?_⟩
  rw [Table.get?_filter (nodup_names_append_undeclared hs hnames hfill), Table.get?_append, hnone,
    Option.or_none]

def gift : Table Value :=
  [("note", .text "hi"), ("kind", .text "gift"), ("extra", .bool true), ("id", .text "7"),
    ("buyers", .list [.map [("age", .int 3), ("name", .text "Ann")]]), ("more", .null)]

def giftPayload : Table Value :=
  [("id", .int 7), ("kind", .text "gift"), ("buyers", .list [.map [("name", .text "Ann")]]),
    ("note", .text "hi"), ("extra", .bool true)]

end Schema

end Intake
