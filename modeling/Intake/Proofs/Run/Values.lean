import Intake.Proofs.Run.Check

namespace Intake

open Context

theorem Group.isActive_congr {g : Group} {c d : Context} (hdata : d.data = c.data)
    (hcoerced : Table.get? d.coerced g.trigger = Table.get? c.coerced g.trigger) :
    g.isActive d = g.isActive c := by
  unfold isActive
  rw [hdata, hcoerced]

namespace Outline

variable {o : Outline} {nf : Table Bool} {bs : List Binding} {gs : List Group} {f : Field}
  {c d e : Context} {data : Table Value} {v : Value} {many : Option Bool}

/-- The state that decides which groups apply: the schema's own fields in their types. -/
def typedView (o : Outline) (nf : Table Bool) (data : Table Value) : Context :=
  { Context.start data with
    coerced := o.fields.filterMap fun f =>
      (o.typedValue? (Table.get? nf f.name) data f).map (f.name, ·) }

theorem firstPart_eq_none_iff :
    o.firstPart nf c = (e, none) ↔ ∃ c' d, Step.all (o.fields.map checkPresence) c = (c', none) ∧
      Step.all (o.fields.map fun f => o.checkField (Table.get? nf f.name) f) c' = (d, none) ∧
        Validator.runAll o.rules d = (e, none) := by
  simp only [firstPart, Step.andThen_eq_none_iff]
  constructor
  · rintro ⟨c', hc', d, hd, he⟩
    exact ⟨c', d, hc', hd, he⟩
  · rintro ⟨c', d, hc', hd, he⟩
    exact ⟨c', hc', d, hd, he⟩

/-- Once the fields of a schema have been gone through, each has its typed value if it has one, whatever
has been found. -/
theorem coerced_of_firstPart (ho : o.WellNamed)
    (h : o.firstPart nf (Context.start data) = (c, none)) :
    (∀ f ∈ o.fields,
      Table.get? c.coerced f.name = o.typedValue? (Table.get? nf f.name) data f) ∧
      ∀ name, name ∉ o.fields.map (·.name) → Table.get? c.coerced name = none := by
  obtain ⟨d, e, hpresence, hfields, hrules⟩ := firstPart_eq_none_iff.mp h
  have hreports : ∀ s ∈ o.fields.map checkPresence, ∀ c : Context, c.Reports (s c).1 := by
    simpa using fun f _ => checkPresence_reports f
  have hd := Step.reports_all hreports (Context.start data)
  have hc := (Validator.runAll_reports o.rules e).coerced
  rw [hpresence] at hd
  rw [hrules] at hc
  obtain ⟨hin, hout⟩ := get?_coerced_of_all
    (fun data f => o.typedValue? (Table.get? nf f.name) data f)
    (fun f _ => growing_checkField o (Table.get? nf f.name) f)
    (fun f _ c d hp => coerced_of_checkField hp) ho.fields hfields
  rw [hd.data, hd.coerced] at hin
  rw [hd.coerced] at hout
  rw [hc]
  exact ⟨fun f hf => by rw [hin f hf]; exact Option.or_none, hout⟩

theorem data_of_firstPart (h : o.firstPart nf (Context.start data) = (c, none)) : c.data = data :=
  (Step.grows_of_eq (growing_firstPart o nf) h).data

/-- Which groups apply depends on the data and on the schema's own fields in their types alone. -/
theorem activeGroups_of_firstPart (ho : o.WellNamed)
    (h : o.firstPart nf (Context.start data) = (c, none)) :
    o.activeGroups c = o.activeGroups (o.typedView nf data) := by
  obtain ⟨hin, hout⟩ := coerced_of_firstPart ho h
  apply List.filter_congr
  intro g _
  apply Group.isActive_congr (data_of_firstPart h)
  by_cases hg : g.trigger ∈ o.fields.map (·.name)
  · obtain ⟨f, hf, hname⟩ := List.mem_map.mp hg
    rw [← hname, hin f hf]
    exact (Table.get?_filterMap Field.name
      (fun f => o.typedValue? (Table.get? nf f.name) data f) ho.fields hf).symm
  · rw [hout _ hg]
    symm
    rw [Table.get?_eq_none_iff]
    exact fun hmem => hg ((Table.names_filterMap_sublist o.fields (·.name) _).subset hmem)

theorem name_of_mem_groupFields (ho : o.WellNamed) (hg : ∀ g ∈ gs, g ∈ o.groups)
    (hf : f ∈ groupFields gs) : f.name ∉ o.fields.map (·.name) := by
  obtain ⟨g, hmem, hfg⟩ := mem_of_mem_groupFields hf
  exact ho.apart g (hg g hmem) f hfg

theorem coerced_of_checkGroupField (h : o.checkGroupField f c = (d, none)) :
    d.coerced = (o.typedValue? none c.data f).elim c.coerced (Table.put c.coerced f.name) := by
  obtain ⟨e, hpresence, hfield⟩ := Step.andThen_eq_none_iff.mp h
  have he := checkPresence_reports f c
  rw [hpresence] at he
  rw [coerced_of_checkField hfield, he.data, he.coerced]

theorem coerced_of_groupFields (ho : o.WellNamed) (hg : ∀ g ∈ gs, g ∈ o.groups)
    (h : Step.all ((groupFields gs).map o.checkGroupField) c = (d, none)) :
    (∀ f ∈ groupFields gs, Table.get? d.coerced f.name =
      (o.typedValue? none c.data f).or (Table.get? c.coerced f.name)) ∧
      ∀ name ∈ o.fields.map (·.name), Table.get? d.coerced name = Table.get? c.coerced name := by
  obtain ⟨hin, hout⟩ := get?_coerced_of_all (o.typedValue? none)
    (fun f _ => growing_checkGroupField o f) (fun f _ c d hp => coerced_of_checkGroupField hp)
    (nodup_names_groupFields gs) h
  refine ⟨hin, fun name hname => hout name fun hmem => ?_⟩
  obtain ⟨f, hf, rfl⟩ := List.mem_map.mp hmem
  exact name_of_mem_groupFields ho hg hf hname

/-- The second part types the fields of the groups and turns the values of the nested schemas. -/
theorem coerced_of_passes_secondPart (hs : (Schema.mk o bs).WellNamed)
    (hg : ∀ g ∈ gs, g ∈ o.groups)
    (hc : ∀ name, name ∉ o.fields.map (·.name) → Table.get? c.coerced name = none)
    (h : (o.secondPart (Schema.checkBindings bs) gs).Passes c d) :
    (∀ f ∈ groupFields gs, Table.get? d.coerced f.name = o.typedValue? none c.data f) ∧
      (∀ b ∈ bs, b.Turns (Table.get? c.coerced b.name) (Table.get? d.coerced b.name)) ∧
        ∀ f ∈ o.fields, f.name ∉ bs.map Binding.name →
          Table.get? d.coerced f.name = Table.get? c.coerced f.name := by
  obtain ⟨e, hgroup, e', hnested, hunknown⟩ :=
    (passes_secondPart (Binding.growing_checkBindings bs)).mp h
  have hd := (reportUnknown_reports o e').coerced
  rw [hunknown.run] at hd
  obtain ⟨hin, hown⟩ := coerced_of_groupFields hs.outline hg hgroup.run
  obtain ⟨hturn, hkeep⟩ := Binding.turns_of_passes_checkBindings hs.bindings hnested
  have hname : ∀ f ∈ groupFields gs, f.name ∉ o.fields.map (·.name) :=
    fun f hf => name_of_mem_groupFields hs.outline hg hf
  rw [hd]
  refine ⟨?_, ?_, ?_⟩
  · intro f hf
    have hbinding : f.name ∉ bs.map Binding.name := by
      intro hmem
      obtain ⟨b, hb, hbn⟩ := List.mem_map.mp hmem
      exact hname f hf (hbn ▸ hs.declared b hb)
    rw [hkeep _ hbinding, hin f hf, hc _ (hname f hf)]
    exact Option.or_none
  · intro b hb
    rw [← hown b.name (hs.declared b hb)]
    exact hturn b hb
  · intro f hf hbinding
    rw [hkeep _ hbinding, hown _ (List.mem_map_of_mem hf)]

/-- In a run that passes, a field that was sent has a typed value: null, or what its type makes of it. -/
theorem typedValue?_of_passes (hp : ¬(f.required && isMissing c.data f.name) = true)
    (h : Step.Passes (o.checkField many f) c d) (hv : Table.get? c.data f.name = some v)
    (hn : v ≠ .null) :
    ∃ w ps, o.typed many f v = .accepted w ps ∧ o.typedValue? many c.data f = some w := by
  have hs : ¬isSkipped f v = true := by
    rwa [isMissing, hv] at hp
  obtain ⟨w, ps, ht, -⟩ := (passes_checkField_of_value hv hn hs).mp h
  refine ⟨w, ps, ht, ?_⟩
  rw [typedValue?_of_value hv hn, if_neg hs, ht]
  rfl

theorem typedValue?_of_null {data : Table Value} (h : Table.get? data f.name = some .null) :
    o.typedValue? many data f = some .null := by
  rw [typedValue?, h]

theorem typedValue?_of_absent {data : Table Value} (h : Table.get? data f.name = none) :
    o.typedValue? many data f = none := by
  rw [typedValue?, h]

theorem Contains.not_isBlank {many : Bool} {u : Value} (h : Contains many v u) :
    v.isBlank = false := by
  cases h with
  | plain h => cases h <;> rfl
  | @json s w _ hw h =>
    have hne : s ≠ "" := by
      rintro rfl
      cases hw
    simpa [Value.isBlank] using hne

/-- A field with a nested schema goes on under a container just when it was sent as one. -/
theorem exists_contains_iff {many : Bool} {u : Value} :
    o.typedValue? (some many) data f = some u ∧ u ≠ .null ↔
      ∃ v, Table.get? data f.name = some v ∧ Contains many v u := by
  constructor
  · rintro ⟨ht, hu⟩
    cases hv : Table.get? data f.name with
    | none =>
      rw [typedValue?_of_absent hv] at ht
      cases ht
    | some v =>
      have hn : v ≠ .null := by
        rintro rfl
        rw [typedValue?_of_null hv] at ht
        exact hu (Option.some.inj ht).symm
      rw [typedValue?_of_value hv hn] at ht
      split_ifs at ht
      refine ⟨v, rfl, ?_⟩
      cases hc : nestedContainer many v with
      | accepted w ps =>
        rw [typed, hc] at ht
        obtain rfl : w = u := Option.some.inj ht
        exact (nestedContainer_eq_accepted_iff.mp hc).1
      | _ =>
        rw [typed, hc] at ht
        cases ht
  · rintro ⟨v, hv, h⟩
    have hs : ¬isSkipped f v = true := by simp [isSkipped, h.not_isBlank]
    have hn : v ≠ .null := by
      rintro rfl
      cases h.not_isBlank
    rw [typedValue?_of_value hv hn, if_neg hs, typed, nestedContainer_eq_accepted_iff.mpr ⟨h, rfl⟩]
    exact ⟨rfl, h.ne_null⟩

end Outline

end Intake
