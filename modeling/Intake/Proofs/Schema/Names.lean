import Intake.Proofs.Schema.Built
import Intake.Schema.Check

namespace Intake.Outline

/-- Of fields with one name the first. -/
def firstNamed : List Field → List Field
  | [] => []
  | f :: fs => f :: (firstNamed fs).filter (·.name ≠ f.name)

variable {o : Outline} {f : Field} {fs acc : List Field} {gs : List Group}

/-- Fields that are put behind others unless their names are taken. -/
theorem foldl_eq_append_firstNamed (acc fs : List Field) :
    fs.foldl (fun fs f => if fs.any (·.name = f.name) then fs else fs ++ [f]) acc =
      acc ++ (firstNamed fs).filter fun f => !acc.any (·.name = f.name) := by
  induction fs generalizing acc with
  | nil => simp [firstNamed]
  | cons f fs ih =>
    rw [List.foldl_cons, ih, firstNamed]
    by_cases h : acc.any (·.name = f.name) = true
    · rw [if_pos h, List.filter_cons_of_neg (by simp [h]), List.filter_filter]
      congr 1
      apply List.filter_congr
      intro g _
      by_cases hg : g.name = f.name
      · simp only [hg, h]
        rfl
      · simp [hg]
    · rw [if_neg h, List.filter_cons_of_pos (by simp [h]), List.filter_filter, List.append_assoc,
        List.singleton_append]
      congr 2
      apply List.filter_congr
      intro g _
      by_cases hg : g.name = f.name
      · simp [hg]
      · simp [hg, Ne.symm hg]

theorem mem_of_mem_firstNamed (h : f ∈ firstNamed fs) : f ∈ fs := by
  induction fs with
  | nil => simp [firstNamed] at h
  | cons g fs ih =>
    rw [firstNamed] at h
    rcases List.mem_cons.mp h with rfl | h
    · exact List.mem_cons_self
    · exact List.mem_cons_of_mem _ (ih (List.mem_of_mem_filter h))

theorem mem_append_of_mem_foldl {acc : List Field}
    (h : f ∈ fs.foldl (fun fs f => if fs.any (·.name = f.name) then fs else fs ++ [f]) acc) :
    f ∈ acc ++ fs := by
  rw [foldl_eq_append_firstNamed] at h
  rcases List.mem_append.mp h with h | h
  · exact List.mem_append_left _ h
  · exact List.mem_append_right _ (mem_of_mem_firstNamed (List.mem_of_mem_filter h))

theorem nodup_names_firstNamed (fs : List Field) : ((firstNamed fs).map (·.name)).Nodup := by
  induction fs with
  | nil => simp [firstNamed]
  | cons f fs ih =>
    rw [firstNamed, List.map_cons, List.nodup_cons]
    constructor
    · intro h
      obtain ⟨g, hg, hname⟩ := List.mem_map.mp h
      simpa [hname] using List.of_mem_filter hg
    · exact ih.sublist (List.filter_sublist.map _)

theorem name_mem_firstNamed (h : f ∈ fs) : f.name ∈ (firstNamed fs).map (·.name) := by
  induction fs with
  | nil => simp at h
  | cons g fs ih =>
    rw [firstNamed, List.map_cons]
    rcases List.mem_cons.mp h with rfl | h
    · exact List.mem_cons_self
    · by_cases hname : f.name = g.name
      · rw [hname]
        exact List.mem_cons_self
      · obtain ⟨f', hf', hn⟩ := List.mem_map.mp (ih h)
        apply List.mem_cons_of_mem
        rw [← hn]
        apply List.mem_map_of_mem
        rw [List.mem_filter]
        exact ⟨hf', by simpa [hn] using hname⟩

theorem firstNamed_of_nodup (h : (fs.map (·.name)).Nodup) : firstNamed fs = fs := by
  induction fs with
  | nil => rfl
  | cons f fs ih =>
    rw [List.map_cons, List.nodup_cons] at h
    rw [firstNamed, ih h.2]
    congr 1
    rw [List.filter_eq_self]
    intro g hg
    have hne : g.name ≠ f.name := fun hname => h.1 (hname ▸ List.mem_map_of_mem hg)
    simpa using hne

theorem groupFields_eq_firstNamed (gs : List Group) :
    groupFields gs = firstNamed (gs.flatMap (·.fields)) := by
  rw [groupFields, foldl_eq_append_firstNamed]
  simp

theorem nodup_names_groupFields (gs : List Group) : ((groupFields gs).map (·.name)).Nodup :=
  groupFields_eq_firstNamed gs ▸ nodup_names_firstNamed _

theorem mem_of_mem_groupFields (h : f ∈ groupFields gs) : ∃ g ∈ gs, f ∈ g.fields := by
  rw [groupFields_eq_firstNamed] at h
  exact List.mem_flatMap.mp (mem_of_mem_firstNamed h)

theorem mem_activeGroups {c : Context} {g : Group} (h : g ∈ o.activeGroups c) : g ∈ o.groups :=
  List.mem_of_mem_filter h

/-- The fields of groups stand behind those of the schema, whose names they do not have. -/
theorem WellNamed.foldl_groupFields (h : o.WellNamed) (hg : ∀ g ∈ gs, g ∈ o.groups) :
    (groupFields gs).foldl (fun fs f => if fs.any (·.name = f.name) then fs else fs ++ [f]) o.fields =
      o.fields ++ groupFields gs := by
  rw [foldl_eq_append_firstNamed, firstNamed_of_nodup (nodup_names_groupFields gs)]
  congr 1
  rw [List.filter_eq_self]
  intro f hf
  obtain ⟨g, hmem, hfg⟩ := mem_of_mem_groupFields hf
  simpa using h.apart g (hg g hmem) f hfg

theorem WellNamed.nodup_append_groupFields (h : o.WellNamed) (hg : ∀ g ∈ gs, g ∈ o.groups) :
    ((o.fields ++ groupFields gs).map (·.name)).Nodup := by
  rw [List.map_append, List.nodup_append]
  refine ⟨h.fields, nodup_names_groupFields gs, ?_⟩
  rintro name hname _ hname' rfl
  obtain ⟨f, hf, rfl⟩ := List.mem_map.mp hname'
  obtain ⟨g, hmem, hfg⟩ := mem_of_mem_groupFields hf
  exact h.apart g (hg g hmem) f hfg hname

theorem foldl_names_eq_map (acc fs : List Field) :
    (fs.map (·.name)).foldl (fun names name => if names.contains name then names else names ++ [name])
        (acc.map (·.name)) =
      (fs.foldl (fun fs f => if fs.any (·.name = f.name) then fs else fs ++ [f]) acc).map (·.name) := by
  induction fs generalizing acc with
  | nil => rfl
  | cons f fs ih =>
    have htaken : (acc.map (·.name)).contains f.name = acc.any (·.name = f.name) := by
      rw [Bool.eq_iff_iff]
      simp
    rw [List.map_cons, List.foldl_cons, List.foldl_cons, htaken]
    by_cases h : acc.any (·.name = f.name) = true
    · rw [if_pos h, if_pos h, ih]
    · have hnames : acc.map (·.name) ++ [f.name] = (acc ++ [f]).map (·.name) := by simp
      rw [if_neg h, if_neg h, hnames, ih]

/-- The known names are those of the declared fields, in their order. -/
theorem allNames_eq (o : Outline) : o.allNames = o.allFields.map (·.name) := by
  have hnames : (o.groups.flatMap fun g => g.fields.map (·.name)) =
      (o.groups.flatMap (·.fields)).map (·.name) := by rw [List.map_flatMap]
  rw [allNames, hnames, foldl_names_eq_map, allFields]

/-- The known names are those of the schema's own fields and of the fields of every group. -/
theorem mem_allNames (o : Outline) (name : String) :
    name ∈ o.allNames ↔
      (∃ f ∈ o.fields, f.name = name) ∨ ∃ g ∈ o.groups, ∃ f ∈ g.fields, f.name = name := by
  rw [allNames_eq, allFields, foldl_eq_append_firstNamed, List.map_append, List.mem_append,
    List.mem_map]
  constructor
  · rintro (h | h)
    · exact .inl h
    · obtain ⟨f, hf, hname⟩ := List.mem_map.mp h
      obtain ⟨g, hg, hfg⟩ := List.mem_flatMap.mp (mem_of_mem_firstNamed (List.mem_of_mem_filter hf))
      exact .inr ⟨g, hg, f, hfg, hname⟩
  · rintro (h | ⟨g, hg, f, hf, rfl⟩)
    · exact .inl h
    · by_cases htaken : o.fields.any (·.name = f.name) = true
      · simp only [List.any_eq_true, decide_eq_true_eq] at htaken
        exact .inl htaken
      · obtain ⟨f', hf', hname⟩ := List.mem_map.mp
          (name_mem_firstNamed (List.mem_flatMap_of_mem hg hf))
        refine .inr (hname ▸ List.mem_map_of_mem (List.mem_filter.mpr ⟨hf', ?_⟩))
        simpa [hname] using htaken

theorem mem_allFields_of_mem_fields (h : f ∈ o.fields) : f ∈ o.allFields := by
  rw [allFields, foldl_eq_append_firstNamed]
  exact List.mem_append_left _ h

theorem mem_of_mem_allFields (h : f ∈ o.allFields) :
    f ∈ o.fields ∨ ∃ g ∈ o.groups, f ∈ g.fields := by
  rcases List.mem_append.mp (mem_append_of_mem_foldl h) with h | h
  · exact .inl h
  · exact .inr (List.mem_flatMap.mp h)

theorem nodup_allNames (h : (o.fields.map (·.name)).Nodup) : o.allNames.Nodup := by
  rw [allNames_eq, allFields, foldl_eq_append_firstNamed, List.map_append, List.nodup_append]
  refine ⟨h, (nodup_names_firstNamed _).sublist (List.filter_sublist.map _), ?_⟩
  rintro name hname _ hname' rfl
  obtain ⟨f, hf, rfl⟩ := List.mem_map.mp hname'
  obtain ⟨f', hf', hsame⟩ := List.mem_map.mp hname
  have hfree := List.of_mem_filter hf
  rw [List.any_eq_true.mpr ⟨f', hf', decide_eq_true hsame⟩] at hfree
  cases hfree

theorem WellNamed.nodup_allNames (h : o.WellNamed) : o.allNames.Nodup := Outline.nodup_allNames h.fields

/-- Every field that is declared, in whichever group, as often as it is declared. -/
def everyField (o : Outline) : List Field := o.fields ++ o.groups.flatMap (·.fields)

end Intake.Outline
