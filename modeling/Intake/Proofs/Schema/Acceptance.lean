import Intake.Proofs.Run.Keywords
import Intake.Proofs.Schema.Payload

namespace Intake

open Context

/-- Of the value of a field only keywords ask something, and it goes by its name alone. -/
structure Field.IsPlain (f : Field) : Prop where
  validators : ∀ v ∈ f.validators, ∃ k, v = .constraint f.name k ∧ k.IsKeyword
  unaliased : f.alias? = none

/-- A required field was sent and is neither null nor empty. -/
def Field.IsPresent (f : Field) (data : Table Value) : Prop :=
  f.required = true → ∃ v, Table.get? data f.name = some v ∧ v ≠ .null ∧ v ≠ .text ""

/-- A value breaks none of the constraints of a field. -/
def Field.Admits (f : Field) (w : Value) : Prop :=
  ∀ k, Validator.constraint f.name k ∈ f.validators → k.Admits w

namespace Outline

variable {o : Outline} {many : Option Bool} {f : Field} {c d : Context} {data : Table Value}
  {nf : Table Bool} {gs : List Group}

theorem not_missing_iff :
    ¬(f.required && isMissing data f.name) = true ↔ f.IsPresent data := by
  rw [Bool.and_eq_true, not_and, Field.IsPresent, isMissing]
  apply imp_congr_right
  intro _
  cases Table.get? data f.name with
  | none => simp [Value.isBlank]
  | some v => cases v <;> simp [Value.isBlank]

/-- What was sent for a field comes out, if it is looked at, as a value that the field admits. -/
def IsTyped (o : Outline) (many : Option Bool) (f : Field) (data : Table Value) : Prop :=
  ∀ v, Table.get? data f.name = some v → v ≠ .null → ¬isSkipped f v = true →
    ∃ w ps, o.typed many f v = .accepted w ps ∧ f.Admits w

/-- A field is present if it has to be, and what was sent comes out as a value that it admits. -/
structure Holds (o : Outline) (many : Option Bool) (f : Field) (data : Table Value) : Prop where
  present : f.IsPresent data
  admits : ∀ v, Table.get? data f.name = some v → v ≠ .null →
    ∃ w ps, o.typed many f v = .accepted w ps ∧ f.Admits w

theorem fieldValue_enter {v w : Value} {ps : List Position} :
    (o.enter many f v w ps c).fieldValue f.name .null = w := by
  have hget : Table.get? (o.enter many f v w ps c).coerced f.name = some w :=
    Table.get?_put_self _ f.name w
  rw [fieldValue, hget]

theorem exists_passes_checkField (hf : f.IsPlain) (c : Context) :
    (∃ d, Step.Passes (o.checkField many f) c d) ↔ o.IsTyped many f c.data := by
  constructor
  · rintro ⟨d, h⟩ v hv hn hs
    obtain ⟨w, ps, ht, hp⟩ := (passes_checkField_of_value hv hn hs).mp h
    obtain ⟨hadmits, -⟩ := (Validator.passes_runAll_keywords hf.validators).mp hp
    rw [fieldValue_enter] at hadmits
    exact ⟨w, ps, ht, hadmits⟩
  · intro h
    cases hv : Table.get? c.data f.name with
    | none => exact ⟨c, checkField_of_absent hv, rfl⟩
    | some v =>
      by_cases hn : v = .null
      · exact ⟨_, checkField_of_null (hn ▸ hv), rfl⟩
      by_cases hs : isSkipped f v = true
      · exact ⟨c, checkField_of_skipped hv hn hs, rfl⟩
      obtain ⟨w, ps, ht, hadmits⟩ := h v hv hn hs
      refine ⟨o.enter many f v w ps c, (passes_checkField_of_value hv hn hs).mpr ⟨w, ps, ht, ?_⟩⟩
      rw [Validator.passes_runAll_keywords hf.validators, fieldValue_enter]
      exact ⟨hadmits, rfl⟩

theorem not_skipped_of_present {v : Value} (h : f.IsPresent data)
    (hv : Table.get? data f.name = some v) : ¬isSkipped f v = true := by
  rw [← not_missing_iff, isMissing, hv] at h
  exact h

theorem holds_iff_of_present (h : f.IsPresent data) :
    o.Holds many f data ↔ o.IsTyped many f data :=
  ⟨fun hh v hv hn _ => hh.admits v hv hn,
    fun hh => ⟨h, fun v hv hn => hh v hv hn (not_skipped_of_present h hv)⟩⟩

theorem exists_passes_firstPart (hrules : o.rules = []) (hf : ∀ f ∈ o.fields, f.IsPlain)
    (data : Table Value) :
    (∃ c, (o.firstPart nf).Passes (Context.start data) c) ↔
      ∀ f ∈ o.fields, o.Holds (Table.get? nf f.name) f data := by
  have hfields := Step.exists_passes_all_map (fun f => o.IsTyped (Table.get? nf f.name) f)
    (fun f _ => growing_checkField o (Table.get? nf f.name) f)
    (fun f hmem c => exists_passes_checkField (hf f hmem) c) (Context.start data)
  have hnorules : Validator.runAll [] = Step.done := rfl
  simp only [passes_firstPart, hrules, hnorules, Step.passes_done, not_missing_iff]
  constructor
  · rintro ⟨c, hpresent, e, he, -⟩ f hmem
    exact (holds_iff_of_present (hpresent f hmem)).mpr (hfields.mp ⟨e, he⟩ f hmem)
  · intro h
    obtain ⟨e, he⟩ := hfields.mpr fun f hmem =>
      (holds_iff_of_present (h f hmem).present).mp (h f hmem)
    exact ⟨e, fun f hmem => (h f hmem).present, e, he, rfl⟩

theorem exists_passes_groupFields {fs : List Field} (hf : ∀ f ∈ fs, f.IsPlain) (c : Context) :
    (∃ d, Step.Passes (Step.all (fs.map o.checkGroupField)) c d) ↔
      ∀ f ∈ fs, o.Holds none f c.data := by
  apply Step.exists_passes_all_map (o.Holds none) (fun f _ => growing_checkGroupField o f)
  intro f hmem c
  simp only [passes_checkGroupField, exists_and_left, not_missing_iff,
    exists_passes_checkField (hf f hmem)]
  constructor
  · rintro ⟨hpresent, h⟩
    exact (holds_iff_of_present hpresent).mpr h
  · intro h
    exact ⟨h.present, (holds_iff_of_present h.present).mp h⟩

end Outline

namespace Schema

/-- A schema without rules and aliases, whose fields carry keywords only and whose groups have no name
in common, and so on inside. -/
inductive IsPlain : Schema → Prop where
  | mk {s : Schema} (rules : s.outline.rules = []) (fields : ∀ f ∈ s.outline.fields, f.IsPlain)
      (groups : ∀ g ∈ s.outline.groups, ∀ f ∈ g.fields, f.IsPlain)
      (apart : s.outline.groups.Pairwise fun g g' =>
        ∀ f ∈ g.fields, ∀ f' ∈ g'.fields, f.name ≠ f'.name)
      (nested : ∀ b ∈ s.nested, IsPlain b.schema) : IsPlain s

/-- What a value of a field comes out as before its nested schema, if it has one, is applied: the
container that it is or is the text of, or the value in the field's type. -/
inductive Brings (s : Schema) (f : Field) : Value → Value → Prop where
  | typed {v w : Value} {ps : List Position} (hb : f.name ∉ s.nested.map Binding.name)
      (h : s.outline.conversions.coerce f.type v = .accepted w ps) : Brings s f v w
  | container {v w : Value} {b : Binding} (hb : b ∈ s.nested) (hname : b.name = f.name)
      (h : Outline.Contains b.many v w) : Brings s f v w

/-- A field is there if it is required, and a value that is there comes out as one that breaks none of
the field's constraints. -/
structure IsMet (s : Schema) (f : Field) (data : Table Value) : Prop where
  present : f.IsPresent data
  brings : ∀ v, Table.get? data f.name = some v → v ≠ .null → ∃ w, s.Brings f v w ∧ f.Admits w

/-- What a schema without aliases accepts: its own fields and those of the groups that apply are met,
maps for nested schemas and maps in lists for nested schemas are accepted by those, lists for nested
schemas hold nothing but maps, and where undeclared keys are forbidden there are none. -/
inductive Accepts : Schema → Table Value → Prop where
  | mk {s : Schema} {data : Table Value} (fields : ∀ f ∈ s.outline.fields, s.IsMet f data)
      (groups : ∀ g ∈ s.groupsFor data, ∀ f ∈ g.fields, s.IsMet f data)
      (one : ∀ b ∈ s.nested, ∀ v es, Table.get? data b.name = some v →
        Outline.Contains b.many v (.map es) → Accepts b.schema es)
      (elements : ∀ b ∈ s.nested, ∀ v vs, Table.get? data b.name = some v →
        Outline.Contains b.many v (.list vs) → ∀ x ∈ vs, ∃ es, x = .map es)
      (many : ∀ b ∈ s.nested, ∀ v vs, Table.get? data b.name = some v →
        Outline.Contains b.many v (.list vs) → ∀ es, Value.map es ∈ vs → Accepts b.schema es)
      (declared : s.outline.unknown = .forbid → ∀ k ∈ Table.names data, k ∈ s.outline.allNames) :
      Accepts s data

variable {s : Schema} {o : Outline} {bs : List Binding} {f : Field} {data : Table Value}
  {c d : Context} {v w : Value} {b : Binding}

theorem typed_eq_accepted_iff (hn : (bs.map Binding.name).Nodup) :
    (∃ ps, o.typed (Table.get? (nestedFields bs) f.name) f v = .accepted w ps) ↔
      (Schema.mk o bs).Brings f v w := by
  by_cases hb : f.name ∈ bs.map Binding.name
  · obtain ⟨b, hmem, hname⟩ := List.mem_map.mp hb
    have hmany := get?_nestedFields hn hmem
    rw [hname] at hmany
    rw [hmany]
    constructor
    · rintro ⟨ps, h⟩
      exact .container hmem hname (Outline.nestedContainer_eq_accepted_iff.mp h).1
    · intro h
      cases h with
      | typed hb' => exact absurd hb hb'
      | @container b' hmem' hname' h =>
        obtain rfl : b = b' := List.inj_on_of_nodup_map hn hmem hmem' (hname.trans hname'.symm)
        exact ⟨[], Outline.nestedContainer_eq_accepted_iff.mpr ⟨h, rfl⟩⟩
  · rw [get?_nestedFields_of_not_mem hb]
    constructor
    · rintro ⟨ps, h⟩
      exact .typed hb h
    · intro h
      cases h with
      | typed _ h => exact ⟨_, h⟩
      | container hmem hname => exact absurd (hname ▸ List.mem_map_of_mem hmem) hb

theorem holds_iff_isMet (hn : (bs.map Binding.name).Nodup) :
    o.Holds (Table.get? (nestedFields bs) f.name) f data ↔ (Schema.mk o bs).IsMet f data := by
  constructor
  · intro h
    refine ⟨h.present, fun v hv hne => ?_⟩
    obtain ⟨w, ps, ht, hadmits⟩ := h.admits v hv hne
    exact ⟨w, (typed_eq_accepted_iff hn).mp ⟨ps, ht⟩, hadmits⟩
  · intro h
    refine ⟨h.present, fun v hv hne => ?_⟩
    obtain ⟨w, hw, hadmits⟩ := h.brings v hv hne
    obtain ⟨ps, ht⟩ := (typed_eq_accepted_iff hn).mpr hw
    exact ⟨w, ps, ht, hadmits⟩

/-- In groups that have no name in common every field counts. -/
theorem mem_groupFields_iff (ho : o.WellNamed) {gs : List Group} (hg : gs.Sublist o.groups)
    (hapart : o.groups.Pairwise fun g g' => ∀ f ∈ g.fields, ∀ f' ∈ g'.fields, f.name ≠ f'.name) :
    f ∈ Outline.groupFields gs ↔ ∃ g ∈ gs, f ∈ g.fields := by
  have hnodup : ((gs.flatMap (·.fields)).map (·.name)).Nodup := by
    rw [List.map_flatMap, List.nodup_flatMap]
    refine ⟨fun g hmem => ho.groups g (hg.subset hmem), ?_⟩
    apply (hapart.sublist hg).imp
    intro g g' hne name hname hname'
    obtain ⟨f, hf, rfl⟩ := List.mem_map.mp hname
    obtain ⟨f', hf', hn⟩ := List.mem_map.mp hname'
    exact hne f hf f' hf' hn.symm
  rw [Outline.groupFields_eq_firstNamed, Outline.firstNamed_of_nodup hnodup, List.mem_flatMap]

theorem exists_yields_iff (hf : ∀ f ∈ o.fields, f.IsPlain)
    (hg : ∀ g ∈ o.groups, ∀ f ∈ g.fields, f.IsPlain) :
    (∃ out, ((Schema.mk o bs).validate (.map data)).Yields out) ↔
      ∃ c, (o.firstPart (nestedFields bs)).Passes (Context.start data) c ∧
        ∃ d, (o.secondPart (checkBindings bs) (o.activeGroups c)).Passes c d := by
  have hdata : o.resolveAliases data = .ok data := by
    apply Outline.resolveAliases_of_no_alias
    intro f hmem
    rcases Outline.mem_of_mem_allFields hmem with hmem | ⟨g, hgm, hmem⟩
    · exact (hf f hmem).unaliased
    · exact (hg g hgm f hmem).unaliased
  rw [validate]
  simp only [Outline.yields_check_iff (Binding.growing_checkBindings bs), hdata]
  constructor
  · rintro ⟨out, _, c, d, hd, hc, hcd, -⟩
    cases hd
    exact ⟨c, hc, d, hcd⟩
  · rintro ⟨c, hc, d, hcd⟩
    exact ⟨_, data, c, d, rfl, hc, hcd, rfl⟩

theorem exists_passes_secondPart (hs : (Schema.mk o bs).WellNamed) {gs : List Group}
    (hg : ∀ g ∈ gs, g ∈ o.groups) (hf : ∀ f ∈ Outline.groupFields gs, f.IsPlain) :
    (∃ d, (o.secondPart (checkBindings bs) gs).Passes c d) ↔
      (∀ f ∈ Outline.groupFields gs, o.Holds none f c.data) ∧
        (∀ b ∈ bs, ∃ w?, b.Turns (Table.get? c.coerced b.name) w?) ∧
        (o.unknown = .forbid → o.unknownKeys c.data = []) := by
  have hgrow := Step.growing_all_map (Outline.growing_checkGroupField o) (Outline.groupFields gs)
  have hnested := Binding.growing_checkBindings bs
  constructor
  · rintro ⟨d, h⟩
    -- Group fields leave the values under the names that nested schemas are for as they are.
    obtain ⟨e, hgroup, e', hbindings, hunknown⟩ := (Outline.passes_secondPart hnested).mp h
    obtain ⟨-, hown⟩ := Outline.coerced_of_groupFields hs.outline hg hgroup.run
    obtain ⟨hturn, -⟩ := Binding.turns_of_passes_checkBindings hs.bindings hbindings
    have hdata : e'.data = c.data :=
      (hbindings.grows hnested).data.trans (hgroup.grows hgrow).data
    refine ⟨(Outline.exists_passes_groupFields hf c).mp ⟨e, hgroup⟩, fun b hb => ?_, ?_⟩
    · rw [← hown b.name (hs.declared b hb)]
      exact ⟨_, hturn b hb⟩
    · rw [← hdata]
      exact Outline.exists_passes_reportUnknown.mp ⟨d, hunknown⟩
  · rintro ⟨hholds, hturn, hunknown⟩
    obtain ⟨e, hgroup⟩ := (Outline.exists_passes_groupFields hf c).mpr hholds
    obtain ⟨-, hown⟩ := Outline.coerced_of_groupFields hs.outline hg hgroup.run
    have hturn' : ∀ b ∈ bs, ∃ w?, b.Turns (Table.get? e.coerced b.name) w? := by
      intro b hb
      rw [hown b.name (hs.declared b hb)]
      exact hturn b hb
    obtain ⟨e', hbindings⟩ := Binding.passes_checkBindings_of_turns hs.bindings hturn'
    have hdata : e'.data = c.data :=
      (hbindings.grows hnested).data.trans (hgroup.grows hgrow).data
    obtain ⟨d, hd⟩ := Outline.exists_passes_reportUnknown.mpr (hdata.symm ▸ hunknown)
    exact ⟨d, (Outline.passes_secondPart hnested).mpr ⟨e, hgroup, e', hbindings, hd⟩⟩

theorem unknownKeys_eq_nil_iff :
    o.unknownKeys data = [] ↔ ∀ k ∈ Table.names data, k ∈ o.allNames := by
  simp [Outline.unknownKeys, List.filter_eq_nil_iff]

/-- The nested schema of a field that is met has something to turn the value into when it makes
something of the container. -/
theorem exists_turns_iff (hn : (bs.map Binding.name).Nodup) (hb : b ∈ bs) (hname : f.name = b.name)
    (hf : (Schema.mk o bs).IsMet f data) :
    (∃ w?, b.Turns (o.typedValue? (some b.many) data f) w?) ↔
      ∀ v u, Table.get? data b.name = some v → Outline.Contains b.many v u →
        ∃ w, b.schema.Cleans b.many u w := by
  rw [← hname]
  constructor
  · rintro ⟨w?, h⟩ v u hv hu
    rw [(Outline.exists_contains_iff.mpr ⟨v, hv, hu⟩).1] at h
    obtain ⟨w, -, hw⟩ := exists_cleans_of_turns hu h
    exact ⟨w, hw⟩
  · intro h
    cases hv : Table.get? data f.name with
    | none =>
      rw [Outline.typedValue?_of_absent hv]
      exact ⟨none, .absent⟩
    | some v =>
      by_cases hnull : v = .null
      · rw [Outline.typedValue?_of_null (hnull ▸ hv)]
        exact ⟨some .null, .null⟩
      · obtain ⟨u, hu, -⟩ := hf.brings v hv hnull
        cases hu with
        | typed hb' => exact absurd (hname ▸ List.mem_map_of_mem hb) hb'
        | @container b' hb' hname' hu =>
          obtain rfl : b = b' := List.inj_on_of_nodup_map hn hb hb' (hname.symm.trans hname'.symm)
          rw [(Outline.exists_contains_iff.mpr ⟨v, hv, hu⟩).1]
          obtain ⟨w, hw⟩ := h v u hv hu
          exact ⟨some w, .cleaned hu.ne_null hw⟩

theorem exists_forall₂_iff {α β : Type} {R : α → β → Prop} {xs : List α} :
    (∃ ys, List.Forall₂ R xs ys) ↔ ∀ x ∈ xs, ∃ y, R x y := by
  induction xs with
  | nil => exact ⟨fun _ _ h => absurd h List.not_mem_nil, fun _ => ⟨[], .nil⟩⟩
  | cons x xs ih =>
    rw [List.forall_mem_cons, ← ih]
    constructor
    · rintro ⟨_, _ | ⟨hy, hys⟩⟩
      exact ⟨⟨_, hy⟩, ⟨_, hys⟩⟩
    · rintro ⟨⟨y, hy⟩, ⟨ys, hys⟩⟩
      exact ⟨y :: ys, .cons hy hys⟩

/-- A nested schema makes something of a container that it accepts, or of one all of whose members it
accepts. -/
theorem exists_cleans_iff {u : Value} (hu : Outline.Contains b.many v u)
    (ih : ∀ es, (∃ out, (b.schema.validate (.map es)).Yields out) ↔ b.schema.Accepts es) :
    (∃ w, b.schema.Cleans b.many u w) ↔
      (∀ es, u = .map es → b.schema.Accepts es) ∧
        ∀ vs, u = .list vs → ∀ x ∈ vs, ∃ es, x = .map es ∧ b.schema.Accepts es := by
  cases hm : b.many with
  | false =>
    obtain ⟨es, rfl⟩ := (hm ▸ hu).is_map
    constructor
    · rintro ⟨w, h⟩
      cases h with
      | @one _ out h =>
        refine ⟨?_, ?_⟩
        · rintro _ ⟨⟩
          exact (ih es).mp ⟨out, h⟩
        · rintro _ ⟨⟩
    · rintro ⟨h, -⟩
      obtain ⟨out, hout⟩ := (ih es).mpr (h es rfl)
      exact ⟨_, .one hout⟩
  | true =>
    obtain ⟨vs, rfl⟩ := (hm ▸ hu).is_list
    have hmember : ∀ x, (∃ out, (b.schema.validate x).Yields out) ↔
        ∃ es, x = .map es ∧ b.schema.Accepts es := by
      intro x
      by_cases hx : ∃ es, x = .map es
      · obtain ⟨es, rfl⟩ := hx
        simp [ih]
      · constructor
        · rintro ⟨out, h⟩
          exact absurd h (not_yields_of_not_map (not_exists.mp hx))
        · rintro ⟨es, h, -⟩
          exact absurd ⟨es, h⟩ hx
    constructor
    · rintro ⟨w, h⟩
      cases h with
      | @many _ outs h =>
        refine ⟨?_, ?_⟩
        · rintro _ ⟨⟩
        · rintro _ ⟨⟩ x hx
          exact (hmember x).mp (exists_forall₂_iff.mp ⟨outs, h⟩ x hx)
    · rintro ⟨-, h⟩
      obtain ⟨outs, houts⟩ := exists_forall₂_iff.mpr fun x hx => (hmember x).mpr (h vs rfl x hx)
      exact ⟨_, .many houts⟩

/-- A nested schema accepts every map that the value of its field brings along, and only maps stand in a
list for it. -/
def TakesNested (b : Binding) (data : Table Value) : Prop :=
  ∀ v u, Table.get? data b.name = some v → Outline.Contains b.many v u →
    (∀ es, u = .map es → b.schema.Accepts es) ∧
      ∀ vs, u = .list vs → ∀ x ∈ vs, ∃ es, x = .map es ∧ b.schema.Accepts es

/-- After the first part a nested schema can turn the value of its field if it accepts the maps in it. -/
theorem exists_turns_of_firstPart (hs : (Schema.mk o bs).WellNamed)
    (hc : (o.firstPart (nestedFields bs)).Passes (Context.start data) c)
    (hmet : ∀ f ∈ o.fields, (Schema.mk o bs).IsMet f data) (hb : b ∈ bs)
    (ih : ∀ es, (∃ out, (b.schema.validate (.map es)).Yields out) ↔ b.schema.Accepts es) :
    (∃ w?, b.Turns (Table.get? c.coerced b.name) w?) ↔ TakesNested b data := by
  have hbs : (bs.map Binding.name).Nodup := hs.bindings
  have ho : o.WellNamed := hs.outline
  obtain ⟨hin, -⟩ := Outline.coerced_of_firstPart ho hc.run
  obtain ⟨f, hf, hname⟩ := List.mem_map.mp (hs.declared b hb)
  have hname : f.name = b.name := hname
  have hvalue := hin f hf
  rw [hname, get?_nestedFields hbs hb] at hvalue
  rw [hvalue, exists_turns_iff hbs hb hname (hmet f hf)]
  apply forall_congr'
  intro v
  apply forall_congr'
  intro u
  apply imp_congr_right
  intro _
  exact forall_congr' fun hu => exists_cleans_iff hu ih

/-- The fields of groups have no nested schemas. -/
theorem holds_none_iff_isMet (hs : (Schema.mk o bs).WellNamed) {g : Group} (hg : g ∈ o.groups)
    (hf : f ∈ g.fields) : o.Holds none f data ↔ (Schema.mk o bs).IsMet f data := by
  have hb : f.name ∉ bs.map Binding.name := by
    intro hb
    obtain ⟨b, hb, hname⟩ := List.mem_map.mp hb
    exact hs.outline.apart g hg f hf (hname ▸ hs.declared b hb)
  have hbs : (bs.map Binding.name).Nodup := hs.bindings
  rw [← holds_iff_isMet hbs, get?_nestedFields_of_not_mem hb]

/-- Acceptance as validation finds it: group by group, and nested schema by nested schema. -/
theorem accepts_iff (ho : o.WellNamed) (hapart : o.groups.Pairwise fun g g' =>
      ∀ f ∈ g.fields, ∀ f' ∈ g'.fields, f.name ≠ f'.name) :
    (Schema.mk o bs).Accepts data ↔ (∀ f ∈ o.fields, (Schema.mk o bs).IsMet f data) ∧
      (∀ f ∈ Outline.groupFields ((Schema.mk o bs).groupsFor data), (Schema.mk o bs).IsMet f data) ∧
        (∀ b ∈ bs, TakesNested b data) ∧ (o.unknown = .forbid → o.unknownKeys data = []) := by
  have hmem (f : Field) : f ∈ Outline.groupFields ((Schema.mk o bs).groupsFor data) ↔
      ∃ g ∈ (Schema.mk o bs).groupsFor data, f ∈ g.fields :=
    mem_groupFields_iff ho List.filter_sublist hapart
  constructor
  · rintro ⟨hmet, hgroup, hone, helements, hmany, hdeclared⟩
    refine ⟨hmet, ?_, ?_, ?_⟩
    · intro f hf
      obtain ⟨g, hg, hfg⟩ := (hmem f).mp hf
      exact hgroup g hg f hfg
    · intro b hb v u hv hu
      refine ⟨?_, ?_⟩
      · rintro es rfl
        exact hone b hb v es hv hu
      · rintro vs rfl x hx
        obtain ⟨es, rfl⟩ := helements b hb v vs hv hu x hx
        exact ⟨es, rfl, hmany b hb v vs hv hu es hx⟩
    · intro hforbid
      exact unknownKeys_eq_nil_iff.mpr (hdeclared hforbid)
  · rintro ⟨hmet, hgroup, htakes, hunknown⟩
    refine .mk hmet ?_ ?_ ?_ ?_ ?_
    · intro g hg f hf
      exact hgroup f ((hmem f).mpr ⟨g, hg, hf⟩)
    · intro b hb v es hv hu
      exact (htakes b hb v _ hv hu).1 es rfl
    · intro b hb v vs hv hu x hx
      obtain ⟨es, hes, -⟩ := (htakes b hb v _ hv hu).2 vs rfl x hx
      exact ⟨es, hes⟩
    · intro b hb v vs hv hu es hx
      obtain ⟨es', hes, haccepts⟩ := (htakes b hb v _ hv hu).2 vs rfl _ hx
      obtain rfl := Value.map.inj hes
      exact haccepts
    · intro hforbid
      exact unknownKeys_eq_nil_iff.mp (hunknown hforbid)

/-- The second part of a check passes when the fields of the groups that apply are met, nested schemas take
what is theirs, and no key is there that is forbidden. -/
theorem exists_passes_secondPart_iff (hs : (Schema.mk o bs).WellNamed)
    (hgroups : ∀ g ∈ o.groups, ∀ f ∈ g.fields, f.IsPlain)
    (hapart : o.groups.Pairwise fun g g' => ∀ f ∈ g.fields, ∀ f' ∈ g'.fields, f.name ≠ f'.name)
    (hc : (o.firstPart (nestedFields bs)).Passes (Context.start data) c)
    (hmet : ∀ f ∈ o.fields, (Schema.mk o bs).IsMet f data)
    (ih : ∀ b ∈ bs, ∀ es, (∃ out, (b.schema.validate (.map es)).Yields out) ↔ b.schema.Accepts es) :
    (∃ d, (o.secondPart (checkBindings bs) (o.activeGroups c)).Passes c d) ↔
      (∀ f ∈ Outline.groupFields ((Schema.mk o bs).groupsFor data), (Schema.mk o bs).IsMet f data) ∧
        (∀ b ∈ bs, TakesNested b data) ∧ (o.unknown = .forbid → o.unknownKeys data = []) := by
  have ho : o.WellNamed := hs.outline
  have hactive : o.activeGroups c = (Schema.mk o bs).groupsFor data :=
    Outline.activeGroups_of_firstPart ho hc.run
  have hfor : ∀ g ∈ (Schema.mk o bs).groupsFor data, g ∈ o.groups :=
    fun g hg => mem_groups_of_mem_groupsFor hg
  have hin : ∀ f ∈ Outline.groupFields ((Schema.mk o bs).groupsFor data),
      ∃ g ∈ o.groups, f ∈ g.fields := by
    intro f hf
    obtain ⟨g, hg, hfg⟩ := (mem_groupFields_iff ho List.filter_sublist hapart).mp hf
    exact ⟨g, hfor g hg, hfg⟩
  have hplain : ∀ f ∈ Outline.groupFields ((Schema.mk o bs).groupsFor data), f.IsPlain := by
    intro f hf
    obtain ⟨g, hg, hfg⟩ := hin f hf
    exact hgroups g hg f hfg
  rw [hactive, exists_passes_secondPart hs hfor hplain, Outline.data_of_firstPart hc.run]
  refine and_congr (forall₂_congr fun f hf => ?_) (and_congr_left fun _ =>
    forall₂_congr fun b hb => exists_turns_of_firstPart hs hc hmet hb (ih b hb))
  obtain ⟨g, hg, hfg⟩ := hin f hf
  exact holds_none_iff_isMet hs hg hfg

/-- A plain schema makes a payload of just the data that it accepts. -/
theorem exists_yields_iff_accepts (hs : s.WellNamed) (hp : s.IsPlain) (data : Table Value) :
    (∃ out, (s.validate (.map data)).Yields out) ↔ s.Accepts data := by
  -- The induction is on the nesting of schemas: those inside are sound and complete already.
  induction hp generalizing data with
  | @mk s rules fields groups apart nested ih =>
    obtain ⟨o, bs⟩ := s
    have hbs : (bs.map Binding.name).Nodup := hs.bindings
    have fields : ∀ f ∈ o.fields, f.IsPlain := fields
    have groups : ∀ g ∈ o.groups, ∀ f ∈ g.fields, f.IsPlain := groups
    have ih : ∀ b ∈ bs, ∀ es, (∃ out, (b.schema.validate (.map es)).Yields out) ↔
        b.schema.Accepts es := fun b hb => ih b hb (hs.nested b hb)
    have hfirst := @Outline.exists_passes_firstPart o (nestedFields bs) rules fields data
    have ho : o.WellNamed := hs.outline
    rw [exists_yields_iff fields groups, accepts_iff ho apart]
    constructor
    · rintro ⟨c, hc, h⟩
      have hmet : ∀ f ∈ o.fields, (Schema.mk o bs).IsMet f data :=
        fun f hf => (holds_iff_isMet hbs).mp (hfirst.mp ⟨c, hc⟩ f hf)
      exact ⟨hmet, (exists_passes_secondPart_iff hs groups apart hc hmet ih).mp h⟩
    · rintro ⟨hmet, h⟩
      obtain ⟨c, hc⟩ := hfirst.mpr fun f hf => (holds_iff_isMet hbs).mpr (hmet f hf)
      exact ⟨c, hc, (exists_passes_secondPart_iff hs groups apart hc hmet ih).mpr h⟩

theorem isPlain_of_no_validators {f : Field} (hv : f.validators = []) (ha : f.alias? = none) :
    f.IsPlain :=
  ⟨by simp [hv], ha⟩

theorem isPlain_of_constraint {f : Field} {k : Constraint}
    (hv : f.validators = [.constraint f.name k]) (hk : k.IsKeyword) (ha : f.alias? = none) :
    f.IsPlain := by
  refine ⟨?_, ha⟩
  rw [hv]
  intro v hmem
  exact ⟨k, List.mem_singleton.mp hmem, hk⟩

theorem isPlain_order : order.IsPlain := by
  have hbuyer : ∀ b ∈ order.nested, b.schema.IsPlain := by
    intro b hb
    obtain rfl := List.mem_singleton.mp hb
    refine .mk rfl ?_ (fun g hg => absurd hg List.not_mem_nil) .nil
      (fun b hb => absurd hb List.not_mem_nil)
    intro f hf
    obtain rfl := List.mem_singleton.mp hf
    exact isPlain_of_no_validators rfl rfl
  refine .mk rfl ?_ ?_ (List.pairwise_singleton _ _) hbuyer
  · intro f hf
    obtain rfl | rfl | rfl : f = _ ∨ f = _ ∨ f = _ := by
      simpa [order, outline, Outline.plain] using hf
    · exact isPlain_of_constraint rfl trivial rfl
    · exact isPlain_of_constraint rfl trivial rfl
    · exact isPlain_of_no_validators rfl rfl
  · intro g hg f hf
    obtain rfl := List.mem_singleton.mp hg
    obtain rfl := List.mem_singleton.mp hf
    exact isPlain_of_no_validators rfl rfl

end Schema

end Intake
