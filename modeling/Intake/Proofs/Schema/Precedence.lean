import Intake.Proofs.Schema.Acceptance

namespace Intake

namespace Group

def Declares (g : Group) (name : String) : Prop := ∃ f ∈ g.fields, f.name = name

/-- A group that leaves a name to others. -/
def without (g : Group) (name : String) : Group :=
  { g with fields := g.fields.filter (·.name ≠ name) }

end Group

namespace Outline

variable {o : Outline} {nf : Table Bool} {nested : Step} {pre post gs : List Group} {g : Group}
  {f : Field} {fs : List Field} {name : String} {data sent : Table Value} {c d : Context}

theorem firstNamed_filter (p : String → Bool) (fs : List Field) :
    firstNamed (fs.filter fun f => p f.name) = (firstNamed fs).filter fun f => p f.name := by
  induction fs with
  | nil => rfl
  | cons f fs ih =>
    by_cases hp : p f.name = true
    · rw [List.filter_cons, if_pos hp, firstNamed, firstNamed, List.filter_cons, if_pos hp, ih,
        List.filter_comm]
    · rw [List.filter_cons, if_neg hp, firstNamed, List.filter_cons, if_neg hp, ih,
        List.filter_filter]
      apply List.filter_congr
      intro g _
      by_cases hg : g.name = f.name
      · simpa [hg] using hp
      · simp [hg]

theorem firstNamed_append (fs hs : List Field) :
    firstNamed (fs ++ hs) =
      firstNamed fs ++ firstNamed (hs.filter fun f => !(fs.map (·.name)).contains f.name) := by
  induction fs with
  | nil => simp [firstNamed]
  | cons f fs ih =>
    rw [List.cons_append, firstNamed, ih, firstNamed, List.filter_append, List.cons_append]
    congr 2
    rw [← firstNamed_filter (fun n => decide (n ≠ f.name)), List.filter_filter]
    congr 1
    apply List.filter_congr
    intro g _
    by_cases hg : g.name = f.name <;> simp [hg]

/-- A field whose name is taken before it does not count, so it may as well be left out. -/
theorem firstNamed_without (h : name ∈ fs.map (·.name)) (hs ks : List Field) :
    firstNamed (fs ++ (hs.filter (·.name ≠ name) ++ ks)) = firstNamed (fs ++ (hs ++ ks)) := by
  have hfilter : (hs.filter (·.name ≠ name)).filter (fun f => !(fs.map (·.name)).contains f.name) =
      hs.filter fun f => !(fs.map (·.name)).contains f.name := by
    rw [List.filter_filter]
    apply List.filter_congr
    intro g _
    by_cases hg : g.name = name
    · simpa [hg] using h
    · simp [hg]
  rw [firstNamed_append, firstNamed_append, List.filter_append, List.filter_append, hfilter]

theorem firstNamed_fields_without (p : Group → Bool) (hp : p (g.without name) = p g)
    (h : ∃ g' ∈ pre, p g' = true ∧ g'.Declares name) :
    firstNamed (((pre ++ g.without name :: post).filter p).flatMap (·.fields)) =
      firstNamed (((pre ++ g :: post).filter p).flatMap (·.fields)) := by
  obtain ⟨g', hmem, hg', f, hf, hname⟩ := h
  have htaken : name ∈ ((pre.filter p).flatMap (·.fields)).map (·.name) :=
    hname ▸ List.mem_map_of_mem (List.mem_flatMap_of_mem (List.mem_filter.mpr ⟨hmem, hg'⟩) hf)
  rw [List.filter_append, List.filter_append, List.filter_cons, List.filter_cons, hp]
  split_ifs
  · rw [List.flatMap_append, List.flatMap_append, List.flatMap_cons, List.flatMap_cons]
    exact firstNamed_without htaken g.fields _
  · rfl

def withGroups (o : Outline) (gs : List Group) : Outline := { o with groups := gs }

/-- A run sees of its groups the fields that are declared in all and those that count in the ones that
apply. -/
theorem check_withGroups (hdata : o.resolveAliases sent = .ok data)
    (hfirst : o.firstPart nf (Context.start data) = (c, none))
    (hall : (o.withGroups gs).allFields = o.allFields)
    (hactive : groupFields ((o.withGroups gs).activeGroups c) = groupFields (o.activeGroups c)) :
    (o.withGroups gs).check nf nested (.map sent) = o.check nf nested (.map sent) := by
  have hresolve : (o.withGroups gs).resolveAliases sent = .ok data := by
    rw [← hdata, resolveAliases, resolveAliases, hall]
  have hfirst' : (o.withGroups gs).firstPart nf (Context.start data) = (c, none) := hfirst
  have hunknown (t : Table Value) : (o.withGroups gs).unknownKeys t = o.unknownKeys t := by
    rw [unknownKeys, unknownKeys, allNames_eq, allNames_eq, hall]
  have hreport : (o.withGroups gs).reportUnknown = o.reportUnknown := by
    funext d
    unfold reportUnknown
    rw [hunknown]
    rfl
  have hsecond : (o.withGroups gs).secondPart nested ((o.withGroups gs).activeGroups c) =
      o.secondPart nested (o.activeGroups c) := by
    rw [secondPart, secondPart, hactive, hreport]
    rfl
  have hconclude (d : Context) : (o.withGroups gs).conclude ((o.withGroups gs).activeGroups c) d =
      o.conclude (o.activeGroups c) d := by
    unfold conclude output
    rw [hunknown, hactive]
    rfl
  rw [check_map, check_map, hresolve, hdata]
  dsimp only
  rw [hfirst', hfirst]
  dsimp only
  rw [hsecond]
  simp only [hconclude]

theorem allFields_without (h : ∃ g' ∈ pre, g'.Declares name) :
    (o.withGroups (pre ++ g.without name :: post)).allFields =
      (o.withGroups (pre ++ g :: post)).allFields := by
  have hfields := @firstNamed_fields_without pre post g name (fun _ => true) rfl (by simpa using h)
  rw [List.filter_true, List.filter_true] at hfields
  rw [allFields, allFields, foldl_eq_append_firstNamed, foldl_eq_append_firstNamed]
  dsimp only [withGroups]
  rw [hfields]

theorem groupFields_without (h : ∃ g' ∈ pre, g'.isActive c = true ∧ g'.Declares name) :
    groupFields ((o.withGroups (pre ++ g.without name :: post)).activeGroups c) =
      groupFields ((o.withGroups (pre ++ g :: post)).activeGroups c) := by
  rw [groupFields_eq_firstNamed, groupFields_eq_firstNamed]
  exact firstNamed_fields_without (fun g => g.isActive c) rfl h

/-- In groups one after another the first field of a name counts. -/
theorem mem_groupFields_of_first (hn : (g.fields.map (·.name)).Nodup) (hf : f ∈ g.fields)
    (hfirst : ∀ g' ∈ pre, ¬g'.Declares f.name) : f ∈ groupFields (pre ++ g :: post) := by
  rw [groupFields_eq_firstNamed, List.flatMap_append, List.flatMap_cons, firstNamed_append]
  refine List.mem_append_right _ ?_
  rw [firstNamed_filter (fun n => !((pre.flatMap (·.fields)).map (·.name)).contains n),
    List.mem_filter]
  constructor
  · rw [firstNamed_append, firstNamed_of_nodup hn]
    exact List.mem_append_left _ hf
  · simp only [Bool.not_eq_true', List.contains_eq_mem, decide_eq_false_iff_not]
    intro hmem
    obtain ⟨f', hf', hname⟩ := List.mem_map.mp hmem
    obtain ⟨g', hg', hfg'⟩ := List.mem_flatMap.mp hf'
    exact hfirst g' hg' ⟨f', hfg', hname⟩

theorem isPresent_of_passes_secondPart (hn : nested.Growing)
    (h : (o.secondPart nested gs).Passes c d) (hf : f ∈ groupFields gs) : f.IsPresent c.data := by
  obtain ⟨e, hfields, -⟩ := (passes_secondPart hn).mp h
  have hgrowing : ∀ s ∈ (groupFields gs).map o.checkGroupField, Step.Growing s := by
    intro s hs
    obtain ⟨f, -, rfl⟩ := List.mem_map.mp hs
    exact growing_checkGroupField o f
  obtain ⟨c', d', hgrow, hp⟩ := hfields.of_mem_all hgrowing (List.mem_map_of_mem hf)
  rw [← hgrow.data]
  exact not_missing_iff.mp (passes_checkGroupField.mp hp).1

end Outline

namespace Schema

variable {s : Schema} {sent out : Table Value} {ns : List Notice}

def withGroups (s : Schema) (gs : List Group) : Schema := .mk (s.outline.withGroups gs) s.nested

/-- Of the groups that apply and declare a name, the first one decides on it. If that one requires the
name, a payload with which a run succeeds has it; what the others say of the name, that it is required
too, makes no difference to the run. -/
theorem first_active_group_decides (hs : s.Built)
    (h : (s.validate (.map sent)).result = .ok (.success out ns)) :
    ∃ data, s.outline.resolveAliases sent = .ok data ∧
      ∀ pre g post, s.outline.groups = pre ++ g :: post → g ∈ s.groupsFor data → ∀ f ∈ g.fields,
        ((∀ g' ∈ pre, g' ∈ s.groupsFor data → ¬g'.Declares f.name) → f.IsPresent data) ∧
        ((∃ g' ∈ pre, g' ∈ s.groupsFor data ∧ g'.Declares f.name) →
          (s.withGroups (pre ++ g.without f.name :: post)).validate (.map sent) =
            s.validate (.map sent)) := by
  obtain ⟨o, bs⟩ := s
  have hs := hs.wellNamed
  have ho : o.WellNamed := hs.outline
  have hnested := Binding.growing_checkBindings bs
  have hyields : (o.check (nestedFields bs) (checkBindings bs) (.map sent)).Yields out := ⟨ns, h⟩
  obtain ⟨data, c, d, hdata, hfirst, hsecond, -⟩ := (Outline.yields_check_iff hnested).mp hyields
  have hactive : o.activeGroups c = (Schema.mk o bs).groupsFor data :=
    Outline.activeGroups_of_firstPart ho hfirst.run
  have hmem (g : Group) : g ∈ (Schema.mk o bs).groupsFor data ↔ g ∈ o.groups ∧ g.isActive c = true := by
    rw [← hactive]
    exact List.mem_filter
  refine ⟨data, hdata, fun pre g post hgroups hg f hf => ⟨fun hnone => ?_, fun htaken => ?_⟩⟩
  · have hgroups : o.groups = pre ++ g :: post := hgroups
    have happly : g.isActive c = true := ((hmem g).mp hg).2
    have hfields : f ∈ Outline.groupFields (o.activeGroups c) := by
      rw [Outline.activeGroups, hgroups, List.filter_append, List.filter_cons, if_pos happly]
      refine Outline.mem_groupFields_of_first (ho.groups g ((hmem g).mp hg).1) hf fun g' hg' => ?_
      obtain ⟨hpre, happly'⟩ := List.mem_filter.mp hg'
      exact hnone g' hpre ((hmem g').mpr ⟨hgroups ▸ List.mem_append_left _ hpre, happly'⟩)
    have hpresent := Outline.isPresent_of_passes_secondPart hnested hsecond hfields
    rwa [Outline.data_of_firstPart hfirst.run] at hpresent
  · obtain ⟨g', hpre, hg', hdeclares⟩ := htaken
    have ho : o.withGroups (pre ++ g :: post) = o := congrArg o.withGroups hgroups.symm
    have hall := @Outline.allFields_without o pre post g f.name ⟨g', hpre, hdeclares⟩
    have hfields := @Outline.groupFields_without o pre post g f.name c
      ⟨g', hpre, ((hmem g').mp hg').2, hdeclares⟩
    rw [ho] at hall hfields
    exact Outline.check_withGroups hdata hfirst.run hall hfields

/-- A list of channels, two of which ask for a phone number, the later one alone requiring it. -/
def contactBlueprint : Blueprint :=
  .mk (.plain "Contact")
    [.field (.plain "channels" "list[str]"),
      .group "channels" (some (.text "sms")) [.plain "phone" "str"],
      .group "channels" (some (.text "call"))
        [{ FieldDecl.plain "phone" "str" with required := true }]]

def smsGroup : Group := ⟨"channels", some (.text "sms"), [.plain "phone" "str"]⟩

def callGroup : Group :=
  ⟨"channels", some (.text "call"), [{ Field.plain "phone" "str" with required := true }]⟩

def contactSchema : Schema :=
  .mk { Outline.plain "Contact" [.plain "channels" "list[str]"] with groups := [smsGroup, callGroup] } []

theorem built_contactSchema : contactSchema.Built :=
  Blueprint.built_of_build (show contactBlueprint.build.1 = .ok contactSchema by cbv)

def channels : Table Value := [("channels", .list [.text "sms", .text "call"])]

theorem first_active_group_decides_contact :
    (contactSchema.validate (.map channels)).result = .ok (.success channels []) ∧
    callGroup ∈ contactSchema.groupsFor channels ∧ callGroup.requiredNames = ["phone"] ∧
    Table.get? channels "phone" = none ∧
    ∃ data, contactSchema.outline.resolveAliases channels = .ok data ∧
      ∀ pre g post, contactSchema.outline.groups = pre ++ g :: post →
        g ∈ contactSchema.groupsFor data → ∀ f ∈ g.fields,
          ((∀ g' ∈ pre, g' ∈ contactSchema.groupsFor data → ¬g'.Declares f.name) →
            f.IsPresent data) ∧
          ((∃ g' ∈ pre, g' ∈ contactSchema.groupsFor data ∧ g'.Declares f.name) →
            (contactSchema.withGroups (pre ++ g.without f.name :: post)).validate (.map channels) =
              contactSchema.validate (.map channels)) := by
  have h : (contactSchema.validate (.map channels)).result = .ok (.success channels []) := by cbv
  have happly : contactSchema.groupsFor channels = [smsGroup, callGroup] := by cbv
  refine ⟨h, ?_, rfl, rfl, first_active_group_decides built_contactSchema h⟩
  rw [happly]
  exact List.mem_cons_of_mem _ List.mem_cons_self

end Schema

end Intake
