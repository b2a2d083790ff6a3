import Intake.Proofs.Run.Breaches
import Intake.Proofs.Schema.Acceptance
import Intake.Proofs.Schema.Nesting
import Intake.Proofs.Schema.Undeclared

namespace Intake

open Context

namespace Step

variable {tells : Table Value → List Issue → Prop}

/-- A part of a run that says of a place what the data calls for, whatever has been found before. -/
def Says (s : Step) (place : String) (tells : Table Value → List Issue → Prop) : Prop :=
  ∀ c d, s c = (d, none) → ∃ is, tells c.data is ∧ d.issuesAt place = c.issuesAt place ++ is

/-- Of parts in turn that belong to fields of different names, all but one spare the place of a field. -/
theorem says_all_map {step : Field → Step} {f : Field} {fs : List Field} (hf : f ∈ fs)
    (hn : (fs.map (·.name)).Nodup) (hg : ∀ g ∈ fs, (step g).Growing)
    (hspare : ∀ g ∈ fs, g.name ≠ f.name → (step g).Spares f.name) (hs : (step f).Says f.name tells) :
    (all (fs.map step)).Says f.name tells := by
  induction fs with
  | nil => exact absurd hf List.not_mem_nil
  | cons g fs ih =>
    intro c d h
    rw [List.map_cons, List.nodup_cons] at hn
    obtain ⟨e, hg', hrest⟩ := andThen_eq_none_iff.mp h
    have hdata : e.data = c.data := (grows_of_eq (hg g List.mem_cons_self) hg').data
    have hspares : ∀ g ∈ fs, g.name ≠ f.name → (step g).Spares f.name :=
      fun g hm => hspare g (List.mem_cons_of_mem _ hm)
    by_cases hname : g.name = f.name
    · -- It is the turn of the field itself, and no later one has its name.
      have hgf : g = f := by
        refine (List.mem_cons.mp hf).elim Eq.symm fun hm => absurd ?_ hn.1
        exact hname ▸ List.mem_map_of_mem hm
      obtain ⟨is, his, he⟩ := hs c e (hgf ▸ hg')
      have hafter : (all (fs.map step)).Spares f.name := spares_all_map fun g' hm =>
        hspares g' hm fun h => hn.1 (hname ▸ h ▸ List.mem_map_of_mem hm)
      exact ⟨is, his, (hafter.of_eq hrest).trans he⟩
    · have hmem : f ∈ fs := (List.mem_cons.mp hf).resolve_left fun h => hname (h ▸ rfl)
      obtain ⟨is, his, hd⟩ :=
        ih hmem hn.2 (fun g hm => hg g (List.mem_cons_of_mem _ hm)) hspares e d hrest
      exact ⟨is, hdata ▸ his, by rw [hd, (hspare g List.mem_cons_self hname).of_eq hg']⟩

end Step

namespace Outline

variable {o : Outline} {f : Field} {ks : List Constraint} {data : Table Value} {is js : List Issue}

/-- What is said of a field before its value is looked at. -/
def Misses (f : Field) (data : Table Value) (is : List Issue) : Prop :=
  f.IsPresent data ∧ is = [] ∨ ¬f.IsPresent data ∧ is = [.required f.name]

/-- What is said of a field when its value is brought to its type and to its keywords. -/
inductive Finds (o : Outline) (f : Field) (ks : List Constraint) (data : Table Value) : List Issue → Prop where
  | nothing (h : ∀ v, Table.get? data f.name = some v → v = .null ∨ isSkipped f v = true) :
      Finds o f ks data []
  | mismatch {v : Value} (hv : Table.get? data f.name = some v) (hn : v ≠ .null) (hs : ¬isSkipped f v = true)
      (h : o.conversions.coerce f.type v = .refused) :
      Finds o f ks data [.notCoercible f.name v f.type]
  | breaches {v w : Value} {ps : List Position} {is : List Issue} (hv : Table.get? data f.name = some v)
      (hn : v ≠ .null) (hs : ¬isSkipped f v = true) (hw : o.conversions.coerce f.type v = .accepted w ps)
      (h : Constraint.Breaches f.name w ks is) : Finds o f ks data is

theorem says_checkPresence (f : Field) : (checkPresence f).Says f.name (Misses f) := by
  intro c d h
  by_cases hp : (f.required && isMissing c.data f.name) = true
  · rw [checkPresence, if_pos hp] at h
    refine ⟨_, .inr ⟨fun hpresent => not_missing_iff.mpr hpresent hp, rfl⟩, ?_⟩
    rw [← (Prod.mk.inj h).1, issuesAt_of_append (c := c) rfl, filter_path_eq_self (by simp [Issue.required])]
  · rw [checkPresence, if_neg hp] at h
    exact ⟨[], .inl ⟨not_missing_iff.mp hp, rfl⟩, by rw [← (Prod.mk.inj h).1, List.append_nil]⟩

theorem says_checkField (o : Outline) (hf : f.validators = ks.map (.constraint f.name))
    (hks : ∀ k ∈ ks, k.IsKeyword) : (o.checkField none f).Says f.name (o.Finds f ks) := by
  intro c d h
  have hnothing (hfound : ∀ v, Table.get? c.data f.name = some v → v = .null ∨ isSkipped f v = true)
      (hd : d.issues = c.issues) : ∃ is, o.Finds f ks c.data is ∧ d.issuesAt f.name = c.issuesAt f.name ++ is :=
    ⟨[], .nothing hfound, by rw [issuesAt_congr hd, List.append_nil]⟩
  cases hv : Table.get? c.data f.name with
  | none =>
    rw [checkField_of_absent hv] at h
    refine hnothing (fun v hsent => ?_) ((Prod.mk.inj h).1 ▸ rfl)
    cases hv.symm.trans hsent
  | some v =>
    have hsent (u : Value) (hu : Table.get? c.data f.name = some u) : u = v := Option.some.inj (hu.symm.trans hv)
    by_cases hn : v = .null
    · rw [checkField_of_null (hn ▸ hv)] at h
      exact hnothing (fun u hu => .inl ((hsent u hu).trans hn)) ((Prod.mk.inj h).1 ▸ rfl)
    by_cases hs : isSkipped f v = true
    · rw [checkField_of_skipped hv hn hs] at h
      exact hnothing (fun u hu => .inr (hsent u hu ▸ hs)) ((Prod.mk.inj h).1 ▸ rfl)
    rw [checkField_of_value hv hn hs] at h
    cases ht : o.typed none f v with
    | faulty fault =>
      rw [ht] at h
      cases (Prod.mk.inj h).2
    | refused =>
      rw [ht] at h
      refine ⟨_, .mismatch hv hn hs ht, ?_⟩
      rw [← (Prod.mk.inj h).1, issuesAt_of_append (c := c) rfl, filter_path_eq_self]
      simp [Issue.notCoercible, Issue.typeMismatch]
    | accepted w ps =>
      rw [ht] at h
      dsimp only at h
      rw [hf] at h
      obtain ⟨is, his, hd⟩ := Validator.breaches_of_runAll hks h
      rw [fieldValue_enter] at his
      refine ⟨is, .breaches hv hn hs ht his, ?_⟩
      have hadded : d.issues = c.issues ++ is := hd
      rw [issuesAt_of_append hadded, filter_path_eq_self his.path_eq]

variable {nf : Table Bool} {c d : Context} {gs : List Group}

/-- Up to the groups a run says of a field of the schema what it misses and what it finds. -/
theorem issuesAt_of_firstPart (ho : o.WellNamed) (hrules : o.rules = []) (hmem : f ∈ o.fields)
    (hnf : Table.get? nf f.name = none) (hf : f.validators = ks.map (.constraint f.name))
    (hks : ∀ k ∈ ks, k.IsKeyword)
    (hothers : ∀ g ∈ o.fields, g.name ≠ f.name → f.name ∉ Validator.placesAll g.validators)
    (h : o.firstPart nf (Context.start data) = (c, none)) :
    ∃ is js, Misses f data is ∧ o.Finds f ks data js ∧ c.issuesAt f.name = is ++ js := by
  obtain ⟨d, e, hpresence, hfields, hrest⟩ := firstPart_eq_none_iff.mp h
  rw [hrules] at hrest
  obtain rfl : e = c := (Prod.mk.inj hrest).1
  obtain ⟨is, his, hd⟩ := Step.says_all_map hmem ho.fields (fun g _ => growing_checkPresence g)
    (fun _ _ hne => spares_checkPresence hne) (says_checkPresence f) _ _ hpresence
  have hdata : d.data = data :=
    (Step.grows_of_eq (Step.growing_all_map growing_checkPresence o.fields) hpresence).data
  have hsays : (o.checkField (Table.get? nf f.name) f).Says f.name (o.Finds f ks) :=
    hnf.symm ▸ says_checkField o hf hks
  obtain ⟨js, hjs, he⟩ := Step.says_all_map hmem ho.fields
    (fun g _ => growing_checkField o (Table.get? nf g.name) g)
    (fun g hg hne => spares_checkField hne (hothers g hg hne)) hsays _ _ hfields
  exact ⟨is, js, his, hdata ▸ hjs, by rw [he, hd]; rfl⟩

theorem spares_firstPart (hrules : o.rules = []) {place : String} (hnames : place ∉ o.fields.map (·.name))
    (hplaces : ∀ g ∈ o.fields, place ∉ Validator.placesAll g.validators) :
    (o.firstPart nf).Spares place := by
  have hne : ∀ g ∈ o.fields, g.name ≠ place := fun g hg h => hnames (h ▸ List.mem_map_of_mem hg)
  have hnorules : Step.Spares (Validator.runAll o.rules) place := by
    rw [hrules]
    exact fun _ => rfl
  exact (Step.spares_all_map fun g hg => spares_checkPresence (hne g hg)).andThen
    ((Step.spares_all_map fun g hg => spares_checkField (hne g hg) (hplaces g hg)).andThen hnorules)

/-- The groups that apply say of a field of one of them what it misses and what it finds. -/
theorem issuesAt_of_groupFields (hmem : f ∈ groupFields gs)
    (hf : f.validators = ks.map (.constraint f.name)) (hks : ∀ k ∈ ks, k.IsKeyword)
    (hothers : ∀ g ∈ groupFields gs, g.name ≠ f.name → f.name ∉ Validator.placesAll g.validators)
    (h : Step.all ((groupFields gs).map o.checkGroupField) c = (d, none)) :
    ∃ is js, Misses f c.data is ∧ o.Finds f ks c.data js ∧
      d.issuesAt f.name = c.issuesAt f.name ++ (is ++ js) := by
  let tells (data : Table Value) (said : List Issue) : Prop :=
    ∃ is js, Misses f data is ∧ o.Finds f ks data js ∧ said = is ++ js
  have hsays : (o.checkGroupField f).Says f.name tells := by
    intro c d hrun
    obtain ⟨e, hpresence, hfield⟩ := Step.andThen_eq_none_iff.mp hrun
    obtain ⟨is, his, he⟩ := says_checkPresence f c e hpresence
    obtain ⟨js, hjs, hd⟩ := says_checkField o hf hks e d hfield
    have hdata : e.data = c.data := (Step.grows_of_eq (growing_checkPresence f) hpresence).data
    exact ⟨is ++ js, ⟨is, js, his, hdata ▸ hjs, rfl⟩, by rw [hd, he, List.append_assoc]⟩
  obtain ⟨said, ⟨is, js, his, hjs, rfl⟩, hd⟩ := Step.says_all_map hmem (nodup_names_groupFields gs)
    (fun g _ => growing_checkGroupField o g)
    (fun g hg hne => spares_checkGroupField hne (hothers g hg hne)) hsays _ _ h
  exact ⟨is, js, his, hjs, hd⟩

end Outline

namespace Schema

variable {s : Schema} {f : Field} {ks : List Constraint} {data : Table Value} {is js : List Issue}
  {c : Context}

/-- What is reported at the place of a field whose constraints are keywords, for one cause: it is missing,
its value is none of its type, or the value that its type makes of it breaks keywords. -/
inductive Blames (s : Schema) (f : Field) (ks : List Constraint) (data : Table Value) : List Issue → Prop where
  | missing (h : ¬f.IsPresent data) : Blames s f ks data [.required f.name]
  | nothing (hr : f.required = false) (h : ∀ v, Table.get? data f.name = some v → v = .null) :
      Blames s f ks data []
  | mismatch {v : Value} (hp : f.IsPresent data) (hv : Table.get? data f.name = some v) (hn : v ≠ .null)
      (h : s.outline.conversions.coerce f.type v = .refused) :
      Blames s f ks data [.notCoercible f.name v f.type]
  | breaches {v w : Value} {ps : List Position} {is : List Issue} (hp : f.IsPresent data)
      (hv : Table.get? data f.name = some v) (hn : v ≠ .null)
      (hw : s.outline.conversions.coerce f.type v = .accepted w ps)
      (h : Constraint.Breaches f.name w ks is) : Blames s f ks data is

/-- The causes exclude each other. -/
theorem Blames.unique (h : s.Blames f ks data is) (h' : s.Blames f ks data js) : is = js := by
  cases h with
  | missing hmissing =>
    cases h' with
    | missing => rfl
    | nothing hr => exact absurd (fun h => by rw [hr] at h; cases h) hmissing
    | mismatch hp => exact absurd hp hmissing
    | breaches hp => exact absurd hp hmissing
  | nothing hr hnull =>
    cases h' with
    | missing hmissing => exact absurd (fun h => by rw [hr] at h; cases h) hmissing
    | nothing => rfl
    | mismatch _ hv hn => exact absurd (hnull _ hv) hn
    | breaches _ hv hn => exact absurd (hnull _ hv) hn
  | mismatch hp hv hn hrefused =>
    cases h' with
    | missing hmissing => exact absurd hp hmissing
    | nothing _ hnull => exact absurd (hnull _ hv) hn
    | mismatch _ hv' =>
      obtain rfl := Option.some.inj (hv.symm.trans hv')
      rfl
    | breaches _ hv' _ hw =>
      obtain rfl := Option.some.inj (hv.symm.trans hv')
      cases hrefused.symm.trans hw
  | breaches hp hv hn hw hbreaches =>
    cases h' with
    | missing hmissing => exact absurd hp hmissing
    | nothing _ hnull => exact absurd (hnull _ hv) hn
    | mismatch _ hv' _ hrefused =>
      obtain rfl := Option.some.inj (hv.symm.trans hv')
      cases hrefused.symm.trans hw
    | breaches _ hv' _ hw' hbreaches' =>
      obtain rfl := Option.some.inj (hv.symm.trans hv')
      obtain ⟨rfl, -⟩ := Coerced.accepted.inj (hw.symm.trans hw')
      exact hbreaches.unique hbreaches'

/-- A field that is missed has no value that is looked at, so the two parts of a run together report one
cause. -/
theorem blames_of_finds (hmisses : Outline.Misses f data is) (hfinds : s.outline.Finds f ks data js) :
    s.Blames f ks data (is ++ js) := by
  rcases hmisses with ⟨hp, rfl⟩ | ⟨hmissing, rfl⟩
  · rw [List.nil_append]
    cases hfinds with
    | nothing h =>
      have hnull (v : Value) (hv : Table.get? data f.name = some v) : v = .null :=
        (h v hv).resolve_right (Outline.not_skipped_of_present hp hv)
      refine .nothing (Bool.eq_false_iff.mpr fun hr => ?_) hnull
      obtain ⟨v, hv, hn, -⟩ := hp hr
      exact hn (hnull v hv)
    | mismatch hv hn _ h => exact .mismatch hp hv hn h
    | breaches hv hn _ hw h => exact .breaches hp hv hn hw h
  · have hskipped (v : Value) (hv : Table.get? data f.name = some v) : Outline.isSkipped f v = true := by
      by_contra hs
      refine hmissing (Outline.not_missing_iff.mp ?_)
      rwa [Outline.isMissing, hv]
    cases hfinds with
    | nothing => exact .missing hmissing
    | mismatch hv _ hs => exact absurd (hskipped _ hv) hs
    | breaches hv _ hs => exact absurd (hskipped _ hv) hs

end Schema

theorem Remarks.forall_issues_all {α : Type} {R : α → Remarks → Prop} {xs : List α} {rs : List Remarks}
    {P : Issue → Prop} (h : List.Forall₂ R xs rs) (hR : ∀ x ∈ xs, ∀ r, R x r → ∀ i ∈ r.issues, P i) :
    ∀ i ∈ (Remarks.all rs).issues, P i := by
  induction h with
  | nil => exact fun _ h => absurd h List.not_mem_nil
  | @cons x r xs rs hr _ ih =>
    rw [all_cons, issues_append, List.forall_mem_append]
    exact ⟨hR x List.mem_cons_self r hr, ih fun x hx => hR x (List.mem_cons_of_mem _ hx)⟩

theorem Schema.OnElement.isInside {s : Schema} {name : String} {n : Nat} {v : Value} {r : Remarks}
    (h : s.OnElement (elementPlace name n) v r) : ∀ i ∈ r.issues, IsInside name i.path := by
  cases h with
  | map => exact (Remarks.inside_under (isInside_joinPath_elementPlace name · n) _).issues
  | other =>
    intro i hi
    have hplace : i.path = name ++ "[" ++ (toString n ++ "]") := by
      rw [List.mem_singleton.mp hi]
      exact String.append_assoc ..
    exact hplace ▸ isInside_bracket name _

/-- A nested schema reports inside the value that it is for. -/
theorem Binding.Says.isInside {b : Binding} {v? : Option Value} {r : Remarks} (h : b.Says v? r) :
    ∀ i ∈ r.issues, IsInside b.name i.path := by
  cases h with
  | one => exact (Remarks.inside_under (isInside_joinPath b.name) _).issues
  | many _ hrs => exact Remarks.forall_issues_all hrs fun _ _ _ hr => hr.isInside
  | nothing => exact fun _ h => absurd h List.not_mem_nil

/-- A place without points and brackets is inside no other. -/
theorem not_isInside {name place : String} (hne : name ≠ place) (hdot : '.' ∉ place.toList)
    (hbracket : '[' ∉ place.toList) : ¬IsInside name place := by
  rintro (h | h | h)
  · exact hne h.symm
  · exact hdot (h.subset (by simp))
  · exact hbracket (h.subset (by simp))

theorem Outline.path_of_mem_unknownRemarks {o : Outline} {data : Table Value} {i : Issue}
    (h : i ∈ (o.unknownRemarks data).issues) : i.path ∉ o.allNames := by
  rw [unknownRemarks, reportUnknown_eq] at h
  replace h : i ∈ [] ++ o.unknown.issues (o.unknownKeys data) := h
  rw [List.nil_append, UnknownFields.issues] at h
  split_ifs at h
  · obtain ⟨k, hk, rfl⟩ := List.mem_map.mp h
    have hundeclared : k ∉ o.allNames := by simpa using List.of_mem_filter hk
    exact hundeclared
  · exact absurd h List.not_mem_nil

/-- A field is declared with keywords for its constraints and without validators of its own. -/
structure Field.HasKeywords (f : Field) (d : FieldDecl) : Prop where
  name : d.name = f.name
  validators : ValidatorSpec.buildAll d.constraints = .ok f.validators

theorem Field.hasKeywords_of_build {f : Field} {d : FieldDecl} {source : Source} {r : Conversions}
    (h : (d.build source r []).1 = .ok f) : f.HasKeywords d := by
  obtain ⟨-, hname, -⟩ := Builder.parts_of_build h
  refine ⟨hname.symm, ?_⟩
  unfold FieldDecl.build at h
  split_ifs at h
  dsimp only at h
  split at h
  · cases h
  · rename_i type validators htyped
    obtain ⟨type', -, htyped⟩ := exists_ok_of_bind htyped
    obtain ⟨built, hbuilt, hpair⟩ := exists_ok_of_bind htyped
    obtain ⟨-, rfl⟩ := Prod.mk.inj (Except.ok.inj hpair)
    obtain ⟨default, -, h⟩ := exists_ok_of_bind h
    obtain ⟨source', -, h⟩ := exists_ok_of_bind h
    rw [hbuilt, ← Except.ok.inj h, List.append_nil]

theorem Field.HasKeywords.exists_keywords {f : Field} {d : FieldDecl} (h : f.HasKeywords d) :
    ∃ ks : List Constraint, f.validators = ks.map (.constraint f.name) ∧ (∀ k ∈ ks, k.IsKeyword) ∧
      (ks.flatMap Constraint.codes).Sublist Constraint.keywordCodes :=
  h.name ▸ d.asksKeywords_constraints f.validators h.validators

namespace Schema

variable {s : Schema} {f : Field} {ks : List Constraint} {sent data : Table Value}
  {outcome : Outcome (Table Value)} {c : Context}

/-- A field counts in a run: it is one of the schema's own or of a group that applies. -/
def Counts (s : Schema) (data : Table Value) (f : Field) : Prop :=
  f ∈ s.outline.fields ∨ ∃ g ∈ s.groupsFor data, f ∈ g.fields

theorem issuesAt_of_ownPart (hs : s.WellNamed) (hrules : s.outline.rules = [])
    (hapart : s.outline.groups.Pairwise fun g g' => ∀ f ∈ g.fields, ∀ f' ∈ g'.fields, f.name ≠ f'.name)
    (hcounts : s.Counts data f) (hplain : f.name ∉ s.nested.map Binding.name)
    (hf : f.validators = ks.map (.constraint f.name)) (hks : ∀ k ∈ ks, k.IsKeyword)
    (hothers : ∀ g, s.Counts data g → g.name ≠ f.name → f.name ∉ Validator.placesAll g.validators)
    (h : s.outline.ownPart (nestedFields s.nested) (Context.start data) = (c, none)) :
    s.Blames f ks data (c.issuesAt f.name) := by
  obtain ⟨d, hfirst, hgroups⟩ := Step.andThen_eq_none_iff.mp h
  have hactive : s.outline.activeGroups d = s.groupsFor data :=
    Outline.activeGroups_of_firstPart hs.outline hfirst
  rw [hactive] at hgroups
  have hmem {g : Field} : g ∈ Outline.groupFields (s.groupsFor data) ↔ ∃ g' ∈ s.groupsFor data, g ∈ g'.fields :=
    mem_groupFields_iff hs.outline List.filter_sublist hapart
  have hothers' : ∀ g ∈ Outline.groupFields (s.groupsFor data), g.name ≠ f.name →
      f.name ∉ Validator.placesAll g.validators :=
    fun g hg => hothers g (.inr (hmem.mp hg))
  have hnames (g : Field) (hg : g ∈ Outline.groupFields (s.groupsFor data)) :
      g.name ∉ s.outline.fields.map (·.name) :=
    Outline.name_of_mem_groupFields hs.outline (fun _ h => mem_groups_of_mem_groupsFor h) hg
  rcases hcounts with hown | hgroup
  · obtain ⟨is, js, his, hjs, hd⟩ := Outline.issuesAt_of_firstPart hs.outline hrules hown
      (get?_nestedFields_of_not_mem hplain) hf hks (fun g hg => hothers g (.inl hg)) hfirst
    have hspares : (Step.all ((Outline.groupFields (s.groupsFor data)).map s.outline.checkGroupField)).Spares
        f.name := Step.spares_all_map fun g hg => by
      have hne : g.name ≠ f.name := fun hname => hnames g hg (hname ▸ List.mem_map_of_mem hown)
      exact Outline.spares_checkGroupField hne (hothers' g hg hne)
    rw [hspares.of_eq hgroups, hd]
    exact blames_of_finds his hjs
  · have hmemf := hmem.mpr hgroup
    have hspares : (s.outline.firstPart (nestedFields s.nested)).Spares f.name :=
      Outline.spares_firstPart hrules (hnames f hmemf) fun g hg =>
        hothers g (.inl hg) fun hname => hnames f hmemf (hname ▸ List.mem_map_of_mem hg)
    obtain ⟨is, js, his, hjs, hc⟩ := Outline.issuesAt_of_groupFields hmemf hf hks hothers' hgroups
    rw [Outline.data_of_firstPart hfirst] at his hjs
    have hnone : (Context.start data).issuesAt f.name = [] := rfl
    rw [hc, hspares.of_eq hfirst, hnone, List.nil_append]
    exact blames_of_finds his hjs

def levelDecl : FieldDecl :=
  { FieldDecl.plain "level" "int" with
    required := true
    min := .int 1
    max := .int 5
    enum := some [.int 1, .int 3, .int 5] }

def levelField : Field :=
  { Field.plain "level" "int" with
    required := true
    validators := [.constraint "level" (.range (some (.int 1)) (some (.int 5))),
      .constraint "level" (.enum ["1", "3", "5"])] }

def ticketBlueprint : Blueprint :=
  .mk (.plain "Ticket") [.field (.plain "kind" "str"), .group "kind" (some (.text "bug")) [levelDecl]]

def bugGroup : Group := ⟨"kind", some (.text "bug"), [levelField]⟩

def ticketSchema : Schema :=
  .mk { Outline.plain "Ticket" [.plain "kind" "str"] with groups := [bugGroup] } []

theorem built_ticketSchema : ticketSchema.Built :=
  Blueprint.built_of_build (show ticketBlueprint.build.1 = .ok ticketSchema by cbv)

def ticket : Table Value := [("kind", .text "bug"), ("level", .text "9")]

def nameDecl : FieldDecl := { FieldDecl.plain "name" "str" with required := true }

def nameField : Field := { Field.plain "name" "str" with required := true }

/-- A signature has a validator that asks for the name. -/
def letterBlueprint : Blueprint :=
  .mk (.plain "Letter")
    [.field nameDecl, .field { FieldDecl.plain "signature" "str" with validators := [.required "name"] }]

def letterSchema : Schema :=
  .mk (.plain "Letter"
    [nameField, { Field.plain "signature" "str" with validators := [.required "name"] }]) []

theorem built_letterSchema : letterSchema.Built :=
  Blueprint.built_of_build (show letterBlueprint.build.1 = .ok letterSchema by cbv)

/-- What is sent as the name of a caller goes to another field. -/
def callerBlueprint : Blueprint :=
  .mk (.plain "Caller")
    [.field nameDecl, .field { FieldDecl.plain "caller" "str" with otherName := some "name" }]

def callerSchema : Schema :=
  .mk (.plain "Caller" [nameField, { Field.plain "caller" "str" with otherName := some "name" }]) []

theorem built_callerSchema : callerSchema.Built :=
  Blueprint.built_of_build (show callerBlueprint.build.1 = .ok callerSchema by cbv)

end Schema

end Intake
