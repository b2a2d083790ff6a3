import Intake.Proofs.Schema.Built

namespace Intake

/-- A field that a declaration stands for where these conversions count. -/
def Field.DeclaredBy (r : Conversions) (f : Field) : Prop :=
  ∃ (d : FieldDecl) (source : Source) (extra : List Validator), (d.build source r extra).1 = .ok f

/-- A default other than null is what a value was brought to in the field's type. -/
theorem Field.DeclaredBy.exists_coerce {r : Conversions} {f : Field} {v : Value}
    (h : f.DeclaredBy r) (hv : f.default = some v) (hn : v ≠ .null) :
    ∃ u ps, r.coerce f.type u = .accepted v ps := by
  obtain ⟨d, source, extra, h⟩ := h
  obtain ⟨-, -, hd⟩ := Builder.parts_of_build h
  rw [hv] at hd
  unfold FieldDecl.defaultValue at hd
  split at hd
  · cases hd
  · exact absurd (Option.some.inj (Except.ok.inj hd)).symm hn
  · next u _ _ =>
    split at hd
    · next w ps hcoerce =>
      obtain rfl := Option.some.inj (Except.ok.inj hd)
      exact ⟨u, ps, hcoerce⟩
    all_goals cases hd

/-- The declaration of a field whose map, or each map in whose list, follows a schema. -/
def FieldDecl.nesting (d : FieldDecl) (many : Bool) : FieldDecl :=
  { d with type := .spelled (if many then "list[any]" else "dict[any]") }

namespace Schema

/-- What becomes of a schema in the making: fields, groups and nested schemas are added to it, and all
that is neither of these may be set anew. -/
inductive Extends (s : Schema) : Schema → Prop where
  | refl : Extends s s
  | other {t u : Schema} (h : Extends s t) (fields : u.outline.fields = t.outline.fields)
      (groups : u.outline.groups = t.outline.groups) (nested : u.nested = t.nested)
      (conversions : u.outline.conversions = t.outline.conversions) : Extends s u
  | field {t : Schema} {f : Field} (h : Extends s t) (declared : f.DeclaredBy s.outline.conversions)
      (fresh : f.name ∉ t.fieldNames) (apart : ∀ g ∈ t.outline.groups, ∀ f' ∈ g.fields, f'.name ≠ f.name) :
      Extends s (t.withField f)
  | group {t : Schema} {g : Group} (h : Extends s t)
      (declared : ∀ f ∈ g.fields, f.DeclaredBy s.outline.conversions)
      (distinct : (g.fields.map (·.name)).Nodup) (apart : ∀ f ∈ g.fields, f.name ∉ t.fieldNames) :
      Extends s (t.withGroup g)
  | binding {t : Schema} {b : Binding} (h : Extends s t) (declared : b.name ∈ t.fieldNames) :
      Extends s (t.withBinding b)

variable {s t u : Schema}

theorem Extends.conversions (h : s.Extends t) : t.outline.conversions = s.outline.conversions := by
  induction h with
  | refl => rfl
  | other _ _ _ _ hr ih => exact hr.trans ih
  | field _ _ _ _ ih => exact ih
  | group _ _ _ _ ih => exact ih
  | binding _ _ ih => exact ih

theorem Extends.trans (h : s.Extends t) (h' : t.Extends u) : s.Extends u := by
  induction h' with
  | refl => exact h
  | other _ hf hg hn hr ih => exact ih.other hf hg hn hr
  | field _ hd hfresh hapart ih => exact ih.field (h.conversions ▸ hd) hfresh hapart
  | group _ hd hdistinct hapart ih => exact ih.group (fun f hf => h.conversions ▸ hd f hf) hdistinct hapart
  | binding _ hd ih => exact ih.binding hd

end Schema

namespace Builder

variable {b b' : Builder} {d : FieldDecl} {f : Field} {fs declared : List Field}

/-- The builder with another log. -/
def withEvents (b : Builder) (es : List Event) : Builder := { b with events := es }

/-- Declaring a field does nothing to the builder but let it speak to the log. -/
theorem declare_eq_withEvents (b : Builder) (isTaken : Bool) (d : FieldDecl) :
    ∃ es, (b.declare isTaken d).1 = b.withEvents es := by
  unfold declare
  split
  · exact ⟨b.events, rfl⟩
  · next extra _ =>
    by_cases ht : isTaken = true
    · rw [if_pos ht]
      exact ⟨b.events, rfl⟩
    · rw [if_neg ht]
      exact ⟨_, rfl⟩

theorem build_of_declare {isTaken : Bool} (h : (b.declare isTaken d).2 = .ok f) :
    ∃ extra, (d.build b.source b.conversions extra).1 = .ok f := by
  unfold declare at h
  split at h
  · cases h
  · next extra _ =>
    by_cases ht : isTaken = true
    · rw [if_pos ht] at h
      cases h
    · rw [if_neg ht] at h
      exact ⟨extra, h⟩

theorem declaredBy_of_declare {isTaken : Bool} (h : (b.declare isTaken d).2 = .ok f) :
    f.DeclaredBy b.conversions :=
  ⟨d, b.source, build_of_declare h⟩

theorem conversions_of_schema_eq (h : b'.schema = b.schema) : b'.conversions = b.conversions :=
  congrArg (fun s : Schema => s.outline.conversions) h

theorem extends_addField (b : Builder) (d : FieldDecl) : b.schema.Extends (b.addField d).1.schema := by
  have hschema := schema_declare (b := b) (d := d) (b.hasField d.name || b.hasGroupField d.name)
  unfold addField
  rcases hdecl : b.declare (b.hasField d.name || b.hasGroupField d.name) d with ⟨b', e | f⟩
  · rw [hdecl] at hschema
    exact hschema ▸ .refl
  · rw [hdecl] at hschema
    have hok := congrArg Prod.snd hdecl
    obtain ⟨hfree, hname, -⟩ := declare_ok hok
    obtain ⟨hfield, hgroup⟩ := Bool.or_eq_false_iff.mp hfree
    rw [hasField_eq_false_iff, ← hname] at hfield
    rw [hasGroupField_eq_false_iff, ← hname] at hgroup
    have hadded : b.schema.Extends (b.schema.withField f) :=
      .field .refl (declaredBy_of_declare hok) hfield hgroup
    rw [← hschema] at hadded
    exact hschema ▸ hadded

theorem declaredBy_of_groupFields {ds : List FieldDecl}
    (hd : ∀ f ∈ declared, f.DeclaredBy b.conversions) (h : (b.groupFields declared ds).2 = .ok fs) :
    ∀ f ∈ fs, f.DeclaredBy b.conversions := by
  induction ds generalizing b declared with
  | nil => exact Except.ok.inj h ▸ hd
  | cons d ds ih =>
    have hschema := schema_declare (b := b) (d := d)
      (b.hasField d.name || declared.any (·.name = d.name))
    rw [groupFields] at h
    rcases hdecl : b.declare (b.hasField d.name || declared.any (·.name = d.name)) d with ⟨b', e | f⟩
    · rw [hdecl] at h
      cases h
    · rw [hdecl] at h hschema
      have hsame : b'.conversions = b.conversions := conversions_of_schema_eq hschema
      rw [← hsame] at hd ⊢
      apply ih _ h
      intro f' hf'
      rcases List.mem_append.mp hf' with hf' | hf'
      · exact hd f' hf'
      · rw [List.mem_singleton.mp hf', hsame]
        exact declaredBy_of_declare (congrArg Prod.snd hdecl)

theorem extends_addGroup (b : Builder) (trigger : String) (value : Option Value)
    (ds : List FieldDecl) : b.schema.Extends (b.addGroup trigger value ds).1.schema := by
  have hschema := groupFields_schema b [] ds
  unfold addGroup
  rcases hgroup : b.groupFields [] ds with ⟨b', e | fs⟩
  · rw [hgroup] at hschema
    exact hschema ▸ .refl
  · rw [hgroup] at hschema
    have hok := congrArg Prod.snd hgroup
    obtain ⟨hn, hapart⟩ := groupFields_ok (by simp) (by simp) hok
    have hadded : b.schema.Extends (b.schema.withGroup ⟨trigger, value, fs⟩) :=
      .group .refl (declaredBy_of_groupFields (by simp) hok) hn hapart
    rw [← hschema] at hadded
    exact hschema ▸ hadded

/-- A field with a nested schema is not added, or it is and then the schema is looked at. -/
theorem addNested_cases (b : Builder) (d : FieldDecl) (many : Bool) (child : Handed) :
    (∃ b' e, b.addField (d.nesting many) = (b', some e) ∧ b.addNested d many child = (b', some e)) ∨
      ∃ b', b.addField (d.nesting many) = (b', none) ∧
        ((∃ e, child.schema = .error e ∧ b.addNested d many child = (b', some e)) ∨
          ∃ s, child.schema = .ok s ∧ (b.addNested d many child).2 = none ∧
            (b.addNested d many child).1.schema = b'.schema.withBinding ⟨d.name, many, s⟩) := by
  have hdecl : ({ d with type := .spelled (if many then "list[any]" else "dict[any]") } : FieldDecl) =
      d.nesting many := rfl
  rw [addNested, hdecl]
  rcases b.addField (d.nesting many) with ⟨b', _ | e⟩
  · refine .inr ⟨b', rfl, ?_⟩
    cases child.schema with
    | error e => exact .inl ⟨e, rfl, rfl⟩
    | ok s => exact .inr ⟨s, rfl, rfl, rfl⟩
  · exact .inl ⟨b', e, rfl, rfl⟩

theorem extends_addNested (b : Builder) (d : FieldDecl) (many : Bool) (child : Handed) :
    b.schema.Extends (b.addNested d many child).1.schema := by
  have hext := extends_addField b (d.nesting many)
  rcases addNested_cases b d many child with
    ⟨b', e, hadd, hrun⟩ | ⟨b', hadd, ⟨e, -, hrun⟩ | ⟨s, -, -, hrun⟩⟩
  · rw [hadd] at hext
    rwa [hrun]
  · rw [hadd] at hext
    rwa [hrun]
  · rw [hadd] at hext
    rw [hrun]
    apply hext.binding
    have hcases := addField_cases b (d.nesting many)
    rw [hadd] at hcases
    obtain ⟨-, hf⟩ | ⟨f, hname, -, -, -, hs, -⟩ := hcases
    · exact absurd rfl hf
    · have hs : b'.schema = b.schema.withField f := hs
      rw [hs, Schema.fieldNames_withField, hname]
      exact List.mem_append_right _ (List.mem_singleton_self _)

mutual

/-- A call extends the schema, whether it fails or not. -/
theorem extends_run (c : Call) (b : Builder) : b.schema.Extends (c.run b).1.schema := by
  cases c with
  | field d => exact extends_addField b d
  | nested d many child =>
    rw [Call.run]
    rcases child.handOver with ⟨e | handed, es⟩
    · exact .refl
    · exact extends_addNested (b.log es) d many handed
  | group trigger value ds => exact extends_addGroup b trigger value ds
  | block source calls =>
    rw [Call.run]
    split
    · exact .refl
    · next s _ => exact extends_runAll calls { b with source := s }
  | rule spec =>
    rw [Call.run, addRule]
    split
    · exact .refl
    · exact .other .refl rfl rfl rfl rfl
  | contentType types => exact .other .refl rfl rfl rfl rfl
  | validatesTo success failure => exact .other .refl rfl rfl rfl rfl
  | unknownFields policy =>
    rw [Call.run, setUnknown]
    split
    · exact .refl
    · exact .other .refl rfl rfl rfl rfl

theorem extends_runAll (cs : List Call) (b : Builder) :
    b.schema.Extends (Call.runAll cs b).1.schema := by
  cases cs with
  | nil => exact .refl
  | cons c rest =>
    have hfirst := extends_run c b
    rw [Call.runAll]
    rcases hrun : c.run b with ⟨b', _ | e⟩
    · rw [hrun] at hfirst
      exact hfirst.trans (extends_runAll rest b')
    · rwa [hrun] at hfirst

end

end Builder

end Intake
