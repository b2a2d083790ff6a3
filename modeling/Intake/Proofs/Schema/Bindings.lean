import Intake.Proofs.Coercion.Soundness
import Intake.Proofs.Schema.Extension

namespace Intake

/-- The type of a field with a nested schema. -/
def Binding.type (many : Bool) : TypeTerm := if many then .list .any else .dict .any

/-- Nested schemas belong to fields of the schema, which are lists where there are many maps and else
maps. -/
structure Schema.Housed (s : Schema) : Prop where
  declared : ∀ b ∈ s.nested, b.name ∈ s.fieldNames
  typed : ∀ b ∈ s.nested, ∀ f ∈ s.outline.fields, f.name = b.name → f.type = (Binding.type b.many).name

namespace Schema

variable {s t : Schema} {f : Field} {b : Binding}

theorem Housed.congr (h : s.Housed) (hf : t.outline.fields = s.outline.fields)
    (hn : t.nested = s.nested) : t.Housed := by
  have hnames : t.fieldNames = s.fieldNames := congrArg (List.map Field.name) hf
  exact ⟨hnames ▸ hn ▸ h.declared, hf ▸ hn ▸ h.typed⟩

theorem Housed.withField (h : s.Housed) (hfresh : f.name ∉ s.fieldNames) : (s.withField f).Housed := by
  constructor
  · intro b hb
    rw [fieldNames_withField]
    exact List.mem_append_left _ (h.declared b hb)
  · intro b hb f' hf' hname
    rcases List.mem_append.mp hf' with hf' | hf'
    · exact h.typed b hb f' hf' hname
    · obtain rfl := List.mem_singleton.mp hf'
      exact absurd (hname ▸ h.declared b hb) hfresh

/-- A nested schema may be given to the field that was added last. -/
theorem Housed.withBinding (h : s.Housed) (hfresh : f.name ∉ s.fieldNames) (hname : b.name = f.name)
    (htype : f.type = (Binding.type b.many).name) : ((s.withField f).withBinding b).Housed := by
  have hfield := h.withField hfresh
  constructor
  · intro b' hb'
    rcases List.mem_append.mp hb' with hb' | hb'
    · exact hfield.declared b' hb'
    · rw [List.mem_singleton.mp hb', hname]
      change f.name ∈ (s.withField f).fieldNames
      rw [fieldNames_withField]
      exact List.mem_append_right _ (List.mem_singleton_self _)
  · intro b' hb' f' hf' hname'
    rcases List.mem_append.mp hb' with hb' | hb'
    · exact hfield.typed b' hb' f' hf' hname'
    obtain rfl := List.mem_singleton.mp hb'
    rcases List.mem_append.mp hf' with hf' | hf'
    · exact absurd (hname ▸ hname' ▸ List.mem_map_of_mem hf') hfresh
    · rw [List.mem_singleton.mp hf', htype]

end Schema

namespace Builder

variable {b b' : Builder} {d : FieldDecl} {f : Field}

theorem type_of_build {source : Source} {r : Conversions} {extra : List Validator}
    (h : (d.build source r extra).1 = .ok f) : d.canonicalType = .ok f.type := by
  unfold FieldDecl.build at h
  split_ifs at h
  cases htype : d.canonicalType with
  | error e =>
    rw [htype] at h
    cases h
  | ok type =>
    rw [htype] at h
    cases hv : ValidatorSpec.buildAll d.constraints with
    | error e =>
      simp only [bind, Except.bind, hv] at h
      cases h
    | ok validators =>
      simp only [bind, Except.bind, hv, pure, Except.pure] at h
      split at h
      · cases h
      · split at h
        · cases h
        · cases h
          rfl

/-- A field with a nested schema has the type of lists or that of maps. -/
theorem type_of_nesting {source : Source} {r : Conversions} {extra : List Validator} {many : Bool}
    (h : ((d.nesting many).build source r extra).1 = .ok f) : f.type = (Binding.type many).name := by
  have hspelled : (d.nesting many).type = .spelled (Binding.type many).name := by cases many <;> rfl
  have htype : (d.nesting many).canonicalType = .ok (Binding.type many).name := by
    rw [FieldDecl.canonicalType, hspelled, TypeForm.canonical, TypeTerm.canonical_name]
  exact Except.ok.inj ((type_of_build h).symm.trans htype)

/-- A field that is added is made by its declaration and has a new name. -/
theorem added_of_addField (h : b.addField d = (b', none)) :
    ∃ f : Field, f.name = d.name ∧ f.name ∉ b.schema.fieldNames ∧ b'.schema = b.schema.withField f ∧
      ∃ extra, (d.build b.source b.conversions extra).1 = .ok f := by
  have hschema := schema_declare (b := b) (d := d) (b.hasField d.name || b.hasGroupField d.name)
  unfold addField at h
  rcases hdecl : b.declare (b.hasField d.name || b.hasGroupField d.name) d with ⟨b'', e | f⟩
  · rw [hdecl] at h
    cases h
  · rw [hdecl] at h hschema
    have hok := congrArg Prod.snd hdecl
    obtain ⟨hfree, hname, -⟩ := declare_ok hok
    have hfield := (hasField_eq_false_iff d.name).mp (Bool.or_eq_false_iff.mp hfree).1
    refine ⟨f, hname, hname ▸ hfield, ?_, build_of_declare hok⟩
    rw [← (Prod.mk.inj h).1]
    exact congrArg (Schema.withField · f) hschema

theorem housed_addField (h : b.schema.Housed) : (b.addField d).1.schema.Housed := by
  rcases addField_cases b d with ⟨hs, -⟩ | ⟨f, hname, -, hfield, -, hs, -⟩
  · exact hs ▸ h
  · rw [hasField_eq_false_iff, ← hname] at hfield
    exact hs ▸ h.withField hfield

theorem housed_addNested {child : Handed} {many : Bool} (h : b.schema.Housed) :
    (b.addNested d many child).1.schema.Housed := by
  have hw := housed_addField (d := d.nesting many) h
  rcases addNested_cases b d many child with
    ⟨b', e, hadd, hrun⟩ | ⟨b', hadd, ⟨e, -, hrun⟩ | ⟨s, -, -, hrun⟩⟩
  · rw [hadd] at hw
    rwa [hrun]
  · rw [hadd] at hw
    rwa [hrun]
  · obtain ⟨f, hname, hfresh, hs, extra, hbuild⟩ := added_of_addField hadd
    rw [hrun, hs]
    exact h.withBinding hfresh hname.symm (type_of_nesting hbuild)

mutual

theorem housed_run (c : Call) {b : Builder} (h : b.schema.Housed) : (c.run b).1.schema.Housed := by
  cases c with
  | field d => exact housed_addField h
  | nested d many child =>
    rw [Call.run]
    rcases child.handOver with ⟨e | handed, es⟩
    · exact h
    · exact housed_addNested (b := b.log es) h
  | group trigger value ds =>
    have hschema := groupFields_schema b [] ds
    rw [Call.run, addGroup]
    rcases hg : b.groupFields [] ds with ⟨b', e | fs⟩
    · rw [hg] at hschema
      exact hschema ▸ h
    · rw [hg] at hschema
      have hw : b'.schema.Housed := hschema ▸ h
      exact hw.congr rfl rfl
  | block source calls =>
    rw [Call.run]
    split
    · exact h
    · next s _ =>
      have hb : ({ b with source := s } : Builder).schema.Housed := h
      exact housed_runAll calls hb
  | rule spec =>
    rw [Call.run, addRule]
    split
    · exact h
    · exact h.congr rfl rfl
  | contentType types => exact h.congr rfl rfl
  | validatesTo success failure => exact h.congr rfl rfl
  | unknownFields policy =>
    rw [Call.run, setUnknown]
    split
    · exact h
    · exact h.congr rfl rfl

theorem housed_runAll (cs : List Call) {b : Builder} (h : b.schema.Housed) :
    (Call.runAll cs b).1.schema.Housed := by
  cases cs with
  | nil => exact h
  | cons c rest =>
    have hw := housed_run c h
    rw [Call.runAll]
    rcases hrun : c.run b with ⟨b', _ | e⟩
    · rw [hrun] at hw
      exact housed_runAll rest hw
    · rwa [hrun] at hw

end

/-- Whatever is done with builders, nested schemas belong to fields of the types that go with them. -/
theorem Made.housed (h : b.Made) : b.schema.Housed := by
  induction h with
  | start h =>
    obtain ⟨-, -, hn⟩ := empty_of_start h
    constructor <;> simp [Builder.schema, Schema.nested, hn]
  | call h c ih => exact housed_run c ih
  | source h s ih => exact ih
  | nested h hc d many late ih ihc => exact housed_addNested ih

end Builder

theorem Schema.Built.housed {s : Schema} (h : s.Built) : s.Housed := by
  obtain ⟨b, hb, rfl⟩ := h
  exact hb.housed

end Intake
