import Mathlib
import Intake.Schema.Blueprint

namespace Intake

/-- Fields have names, which tell those of a schema apart, those of each group too, and no group takes a
name of the schema itself. -/
structure Outline.WellNamed (o : Outline) : Prop where
  named : ∀ f ∈ o.fields, f.name ≠ ""
  fields : (o.fields.map (·.name)).Nodup
  groups : ∀ g ∈ o.groups, (g.fields.map (·.name)).Nodup
  apart : ∀ g ∈ o.groups, ∀ f ∈ g.fields, f.name ∉ o.fields.map (·.name)

/-- A schema with names that tell its fields apart, and so on inside; each field has one nested schema
at most. -/
inductive Schema.WellNamed : Schema → Prop where
  | mk {o : Outline} {bs : List Binding} (outline : o.WellNamed)
      (bindings : (bs.map Binding.name).Nodup)
      (declared : ∀ b ∈ bs, b.name ∈ o.fields.map (·.name))
      (nested : ∀ b ∈ bs, Schema.WellNamed b.schema) : Schema.WellNamed (.mk o bs)

namespace Schema

def withField (s : Schema) (f : Field) : Schema :=
  .mk { s.outline with fields := s.outline.fields ++ [f] } s.nested

def withGroup (s : Schema) (g : Group) : Schema :=
  .mk { s.outline with groups := s.outline.groups ++ [g] } s.nested

def withBinding (s : Schema) (b : Binding) : Schema := .mk s.outline (s.nested ++ [b])

def fieldNames (s : Schema) : List String := s.outline.fields.map (·.name)

variable {s : Schema}

theorem fieldNames_withField (s : Schema) (f : Field) :
    (s.withField f).fieldNames = s.fieldNames ++ [f.name] :=
  List.map_append

theorem WellNamed.outline (h : s.WellNamed) : s.outline.WellNamed := by
  obtain ⟨h, -, -, -⟩ := h
  exact h

theorem WellNamed.bindings (h : s.WellNamed) : (s.nested.map Binding.name).Nodup := by
  obtain ⟨-, h, -, -⟩ := h
  exact h

theorem WellNamed.declared (h : s.WellNamed) : ∀ b ∈ s.nested, b.name ∈ s.fieldNames := by
  obtain ⟨-, -, h, -⟩ := h
  exact h

theorem WellNamed.nested (h : s.WellNamed) : ∀ b ∈ s.nested, b.schema.WellNamed := by
  obtain ⟨-, -, -, h⟩ := h
  exact h

theorem WellNamed.congr {t : Schema} (h : s.WellNamed) (hf : t.outline.fields = s.outline.fields)
    (hg : t.outline.groups = s.outline.groups) (hn : t.nested = s.nested) : t.WellNamed := by
  obtain ⟨o, bs⟩ := s
  obtain ⟨o', bs'⟩ := t
  obtain rfl : bs' = bs := hn
  refine ⟨⟨?_, ?_, ?_, ?_⟩, h.bindings, ?_, h.nested⟩
  · exact hf ▸ h.outline.named
  · exact hf ▸ h.outline.fields
  · exact hg ▸ h.outline.groups
  · exact hf ▸ hg ▸ h.outline.apart
  · exact hf ▸ h.declared

theorem WellNamed.withField {f : Field} (h : s.WellNamed) (hne : f.name ≠ "")
    (hf : f.name ∉ s.fieldNames) (hg : ∀ g ∈ s.outline.groups, ∀ f' ∈ g.fields, f'.name ≠ f.name) :
    (s.withField f).WellNamed := by
  refine ⟨⟨?_, ?_, h.outline.groups, ?_⟩, h.bindings, ?_, h.nested⟩
  · intro f' hf'
    rcases List.mem_append.mp hf' with hf' | hf'
    · exact h.outline.named f' hf'
    · exact (List.mem_singleton.mp hf') ▸ hne
  · rw [List.map_append]
    exact h.outline.fields.append (List.nodup_singleton _) (by simpa [fieldNames] using hf)
  · intro g hg' f' hf'
    rw [List.map_append, List.mem_append, not_or]
    exact ⟨h.outline.apart g hg' f' hf', by simpa using hg g hg' f' hf'⟩
  · intro b hb
    rw [List.map_append]
    exact List.mem_append_left _ (h.declared b hb)

theorem WellNamed.withGroup {g : Group} (h : s.WellNamed) (hg : (g.fields.map (·.name)).Nodup)
    (hf : ∀ f ∈ g.fields, f.name ∉ s.fieldNames) : (s.withGroup g).WellNamed := by
  refine ⟨⟨h.outline.named, h.outline.fields, ?_, ?_⟩, h.bindings, h.declared, h.nested⟩
  · intro g' hg'
    rcases List.mem_append.mp hg' with hg' | hg'
    · exact h.outline.groups g' hg'
    · exact (List.mem_singleton.mp hg') ▸ hg
  · intro g' hg'
    rcases List.mem_append.mp hg' with hg' | hg'
    · exact h.outline.apart g' hg'
    · exact (List.mem_singleton.mp hg') ▸ hf

theorem WellNamed.withBinding {b : Binding} (h : s.WellNamed) (hb : b.schema.WellNamed)
    (hn : b.name ∉ s.nested.map Binding.name) (hd : b.name ∈ s.fieldNames) :
    (s.withBinding b).WellNamed := by
  refine ⟨h.outline, ?_, ?_, ?_⟩
  · rw [List.map_append]
    exact h.bindings.append (List.nodup_singleton _) (by simpa using hn)
  · intro b' hb'
    rcases List.mem_append.mp hb' with hb' | hb'
    · exact h.declared b' hb'
    · exact (List.mem_singleton.mp hb') ▸ hd
  · intro b' hb'
    rcases List.mem_append.mp hb' with hb' | hb'
    · exact h.nested b' hb'
    · exact (List.mem_singleton.mp hb') ▸ hb

end Schema

namespace Builder

/-- Builders in every state of their use: calls that fail may be followed by others, and a nested
schema may come out of any builder. -/
inductive Made : Builder → Prop where
  | start {options : BlueprintOptions} {b : Builder} {es : List Event}
      (h : options.start = (.ok b, es)) : Made b
  | call {b : Builder} (h : Made b) (c : Call) : Made (c.run b).1
  | source {b : Builder} (h : Made b) (s : Source) : Made { b with source := s }
  | nested {b child : Builder} (h : Made b) (hc : Made child) (d : FieldDecl) (many : Bool)
      (late : List Event) : Made (b.addNested d many ⟨.ok child.schema, late⟩).1

variable {b b' : Builder} {d : FieldDecl} {f : Field} {fs declared : List Field}

/-- A field that is made has the name of its declaration and the default that was found for it. -/
theorem parts_of_build {source : Source} {r : Conversions} {extra : List Validator}
    (h : (d.build source r extra).1 = .ok f) :
    d.name ≠ "" ∧ f.name = d.name ∧ d.defaultValue f.type r = .ok f.default := by
  unfold FieldDecl.build at h
  split_ifs at h with hn
  · refine ⟨hn, ?_⟩
    dsimp only at h
    split at h
    · cases h
    · next type validators _ =>
      dsimp only at h
      rcases hd : d.defaultValue type r with e | v
      · rw [hd] at h
        cases h
      · rcases hs : d.source.elim (.ok source) Source.ofValue? with e | s
        · rw [hd, hs] at h
          cases h
        · rw [hd, hs] at h
          cases h
          exact ⟨rfl, hd⟩

theorem name_of_build {source : Source} {r : Conversions} {extra : List Validator}
    (h : (d.build source r extra).1 = .ok f) : f.name = d.name ∧ d.name ≠ "" :=
  ⟨(parts_of_build h).2.1, (parts_of_build h).1⟩

theorem schema_declare (isTaken : Bool) : (b.declare isTaken d).1.schema = b.schema := by
  unfold declare
  split
  · rfl
  · next extra _ =>
    by_cases ht : isTaken = true
    · rw [if_pos ht]
    · rw [if_neg ht]
      rfl

theorem declare_ok {isTaken : Bool} (h : (b.declare isTaken d).2 = .ok f) :
    isTaken = false ∧ f.name = d.name ∧ d.name ≠ "" := by
  unfold declare at h
  split at h
  · cases h
  · next extra _ =>
    by_cases ht : isTaken = true
    · rw [if_pos ht] at h
      cases h
    · rw [if_neg ht] at h
      exact ⟨Bool.eq_false_iff.mpr ht, name_of_build h⟩

theorem hasField_eq_false_iff (name : String) :
    b.hasField name = false ↔ name ∉ b.schema.fieldNames := by
  simp [hasField, schema, Schema.fieldNames, Schema.outline]

theorem hasGroupField_eq_false_iff (name : String) :
    b.hasGroupField name = false ↔
      ∀ g ∈ b.schema.outline.groups, ∀ f ∈ g.fields, f.name ≠ name := by
  simp [hasGroupField, schema, Schema.outline]

/-- A field is added under a name that nothing else has, or nothing is declared. -/
theorem addField_cases (b : Builder) (d : FieldDecl) :
    ((b.addField d).1.schema = b.schema ∧ (b.addField d).2 ≠ none) ∨
      ∃ f : Field, f.name = d.name ∧ d.name ≠ "" ∧ b.hasField d.name = false ∧
        b.hasGroupField d.name = false ∧
        (b.addField d).1.schema = b.schema.withField f ∧ (b.addField d).2 = none := by
  have hschema := schema_declare (b := b) (d := d) (b.hasField d.name || b.hasGroupField d.name)
  unfold addField
  rcases hdecl : b.declare (b.hasField d.name || b.hasGroupField d.name) d with ⟨b', e | f⟩
  · rw [hdecl] at hschema
    exact .inl ⟨hschema, Option.some_ne_none e⟩
  · rw [hdecl] at hschema
    obtain ⟨hfree, hname, hne⟩ := declare_ok (congrArg Prod.snd hdecl)
    obtain ⟨hfield, hgroup⟩ := Bool.or_eq_false_iff.mp hfree
    exact .inr ⟨f, hname, hne, hfield, hgroup, congrArg (Schema.withField · f) hschema, rfl⟩

theorem wellNamed_addField (h : b.schema.WellNamed) : (b.addField d).1.schema.WellNamed := by
  rcases addField_cases b d with ⟨hs, -⟩ | ⟨f, hname, hne, hfield, hgroup, hs, -⟩
  · exact hs ▸ h
  · rw [← hname] at hne
    rw [hasField_eq_false_iff, ← hname] at hfield
    rw [hasGroupField_eq_false_iff, ← hname] at hgroup
    exact hs ▸ h.withField hne hfield hgroup

theorem groupFields_schema (b : Builder) (declared : List Field) (ds : List FieldDecl) :
    (b.groupFields declared ds).1.schema = b.schema := by
  induction ds generalizing b declared with
  | nil => rfl
  | cons d ds ih =>
    have hschema := schema_declare (b := b) (d := d)
      (b.hasField d.name || declared.any (·.name = d.name))
    rw [groupFields]
    rcases hdecl : b.declare (b.hasField d.name || declared.any (·.name = d.name)) d with ⟨b', e | f⟩
    · rwa [hdecl] at hschema
    · rw [hdecl] at hschema
      exact (ih b' _).trans hschema

/-- The fields of a group have names of their own, none of which is a field of the schema. -/
theorem groupFields_ok {ds : List FieldDecl} (hn : (declared.map (·.name)).Nodup)
    (hf : ∀ f ∈ declared, f.name ∉ b.schema.fieldNames)
    (h : (b.groupFields declared ds).2 = .ok fs) :
    (fs.map (·.name)).Nodup ∧ ∀ f ∈ fs, f.name ∉ b.schema.fieldNames := by
  induction ds generalizing b declared with
  | nil =>
    obtain rfl := Except.ok.inj h
    exact ⟨hn, hf⟩
  | cons d ds ih =>
    have hschema := schema_declare (b := b) (d := d)
      (b.hasField d.name || declared.any (·.name = d.name))
    rw [groupFields] at h
    rcases hdecl : b.declare (b.hasField d.name || declared.any (·.name = d.name)) d with ⟨b', e | f⟩
    · rw [hdecl] at h
      cases h
    · rw [hdecl] at h hschema
      obtain ⟨hfree, hname, -⟩ := declare_ok (congrArg Prod.snd hdecl)
      obtain ⟨hfield, hother⟩ := Bool.or_eq_false_iff.mp hfree
      rw [hasField_eq_false_iff, ← hname] at hfield
      have hnew : f.name ∉ declared.map (·.name) := by simpa [hname] using hother
      have hs : b'.schema.fieldNames = b.schema.fieldNames := congrArg Schema.fieldNames hschema
      rw [← hs] at hf hfield ⊢
      apply ih _ _ h
      · rw [List.map_append]
        exact hn.append (List.nodup_singleton _) (by simpa using hnew)
      · intro f' hf'
        rcases List.mem_append.mp hf' with hf' | hf'
        · exact hf f' hf'
        · exact (List.mem_singleton.mp hf') ▸ hfield

theorem wellNamed_addGroup (h : b.schema.WellNamed) (trigger : String) (value : Option Value)
    (ds : List FieldDecl) : (b.addGroup trigger value ds).1.schema.WellNamed := by
  have hschema := groupFields_schema b [] ds
  unfold addGroup
  rcases hg : b.groupFields [] ds with ⟨b', e | fs⟩
  · rw [hg] at hschema
    exact hschema ▸ h
  · rw [hg] at hschema
    obtain ⟨hn, hf⟩ := groupFields_ok (by simp) (by simp) (congrArg Prod.snd hg)
    have hs : b'.schema = b.schema := hschema
    have hw : (b.schema.withGroup ⟨trigger, value, fs⟩).WellNamed := h.withGroup hn hf
    rw [← hs] at hw
    exact hw

theorem wellNamed_addNested {child : Handed} (h : b.schema.WellNamed)
    (hc : ∀ s, child.schema = .ok s → s.WellNamed) (many : Bool) :
    (b.addNested d many child).1.schema.WellNamed := by
  unfold addNested
  dsimp only
  -- The field is declared before the nested schema is looked at, so it stays even if that fails.
  generalize hd : ({ d with type := .spelled (if many then "list[any]" else "dict[any]") } : FieldDecl) = d'
  have hname' : d'.name = d.name := by rw [← hd]
  have hw := wellNamed_addField (d := d') h
  have hcases := addField_cases b d'
  rcases hadd : b.addField d' with ⟨b', _ | e⟩
  · rw [hadd] at hw hcases
    obtain ⟨-, hf⟩ | ⟨f, hname, -, hfield, -, hs, -⟩ := hcases
    · exact absurd rfl hf
    cases hchild : child.schema with
    | error e => exact hw
    | ok s =>
      have hs : b'.schema = b.schema.withField f := hs
      -- A nested schema under this name would belong to a field that had the name before.
      have hfresh : d.name ∉ b.schema.fieldNames := by
        rwa [hasField_eq_false_iff, hname'] at hfield
      apply hw.withBinding (hc s hchild) (b := ⟨d.name, many, s⟩)
      · rw [hs]
        intro hmem
        obtain ⟨binding, hb, hbn⟩ := List.mem_map.mp hmem
        have hbn : binding.name = d.name := hbn
        exact hfresh (hbn ▸ h.declared binding hb)
      · rw [hs, Schema.fieldNames_withField, hname, hname']
        exact List.mem_append_right _ (List.mem_singleton_self _)
  · rwa [hadd] at hw

theorem wellNamed_of_empty (hf : b.fields = []) (hg : b.groups = []) (hn : b.nested = []) :
    b.schema.WellNamed := by
  refine ⟨⟨?_, ?_, ?_, ?_⟩, ?_, ?_, ?_⟩ <;> simp [hf, hg, hn]

theorem empty_of_start {options : BlueprintOptions} {es : List Event}
    (h : options.start = (.ok b, es)) : b.fields = [] ∧ b.groups = [] ∧ b.nested = [] := by
  unfold BlueprintOptions.start at h
  split at h
  · cases h
  · next conversions events _ =>
    have h := (Prod.mk.inj h).1
    simp only [bind, Except.bind] at h
    split at h
    · cases h
    · split at h
      · cases h
      · cases h
        exact ⟨rfl, rfl, rfl⟩

theorem wellNamed_start {options : BlueprintOptions} {es : List Event}
    (h : options.start = (.ok b, es)) : b.schema.WellNamed := by
  obtain ⟨hf, hg, hn⟩ := empty_of_start h
  exact wellNamed_of_empty hf hg hn

mutual

theorem wellNamed_run (c : Call) {b : Builder} (h : b.schema.WellNamed) :
    (c.run b).1.schema.WellNamed := by
  cases c with
  | field d => exact wellNamed_addField h
  | nested d many child =>
    rw [Call.run]
    rcases hc : child.handOver with ⟨e | handed, es⟩
    · exact h
    · exact wellNamed_addNested (b := b.log es) h
        (fun s hs => wellNamed_handOver child (congrArg Prod.fst hc) hs) many
  | group trigger value ds => exact wellNamed_addGroup h trigger value ds
  | block source calls =>
    rw [Call.run]
    split
    · exact h
    · next s _ =>
      have hb : ({ b with source := s } : Builder).schema.WellNamed := h
      exact wellNamed_runAll calls hb
  | rule spec =>
    rw [Call.run, addRule]
    split
    · exact h
    · exact h.congr rfl rfl rfl
  | contentType types => exact h.congr rfl rfl rfl
  | validatesTo success failure => exact h.congr rfl rfl rfl
  | unknownFields policy =>
    rw [Call.run, setUnknown]
    split
    · exact h
    · exact h.congr rfl rfl rfl

theorem wellNamed_runAll (cs : List Call) {b : Builder} (h : b.schema.WellNamed) :
    (Call.runAll cs b).1.schema.WellNamed := by
  cases cs with
  | nil => exact h
  | cons c rest =>
    have hw := wellNamed_run c h
    rw [Call.runAll]
    rcases hrun : c.run b with ⟨b', _ | e⟩
    · rw [hrun] at hw
      exact wellNamed_runAll rest hw
    · rwa [hrun] at hw

theorem wellNamed_handOver (child : Child) {handed : Handed} {s : Schema}
    (h : child.handOver.1 = .ok handed) (hs : handed.schema = .ok s) : s.WellNamed := by
  cases child with
  | other kind =>
    obtain rfl := Except.ok.inj h
    cases hs
  | blueprint blueprint isFinished =>
    rw [Child.handOver] at h
    rcases hd : blueprint.draft with ⟨e | b, es⟩
    · rw [hd] at h
      cases h
    · have hw := wellNamed_draft blueprint (congrArg Prod.fst hd)
      rw [hd] at h
      cases isFinished <;>
      · obtain rfl := Except.ok.inj h
        exact Except.ok.inj hs ▸ hw

theorem wellNamed_draft (blueprint : Blueprint) {b : Builder} (h : blueprint.draft.1 = .ok b) :
    b.schema.WellNamed := by
  cases blueprint with
  | mk options calls =>
    rw [Blueprint.draft] at h
    rcases hs : options.start with ⟨e | b', es⟩
    · rw [hs] at h
      cases h
    · have hw := wellNamed_runAll calls (wellNamed_start hs)
      rw [hs] at h
      dsimp only at h
      rcases hrun : Call.runAll calls b' with ⟨b'', _ | e⟩
      · rw [hrun] at h hw
        exact Except.ok.inj h ▸ hw
      · rw [hrun] at h
        cases h

end

/-- Whatever is done with builders, the schemas that come out of them are well named. -/
theorem Made.wellNamed (h : b.Made) : b.schema.WellNamed := by
  induction h with
  | start h => exact wellNamed_start h
  | call h c ih => exact wellNamed_run c ih
  | source h s ih => exact ih
  | nested h hc d many late ih ihc =>
    apply wellNamed_addNested ih _ many
    intro s hs
    cases hs
    exact ihc

end Builder

/-- A schema that comes out of a builder. -/
def Schema.Built (s : Schema) : Prop := ∃ b : Builder, b.Made ∧ b.schema = s

theorem Schema.Built.wellNamed {s : Schema} (h : s.Built) : s.WellNamed := by
  obtain ⟨b, hb, rfl⟩ := h
  exact hb.wellNamed

namespace Blueprint

theorem made_runAll {b : Builder} (h : b.Made) (cs : List Call) : (Call.runAll cs b).1.Made := by
  induction cs generalizing b with
  | nil => exact h
  | cons c cs ih =>
    have hc := h.call c
    rw [Call.runAll]
    rcases hrun : c.run b with ⟨b', _ | e⟩
    · rw [hrun] at hc
      exact ih hc
    · rwa [hrun] at hc

theorem built_of_build {blueprint : Blueprint} {s : Schema} (h : blueprint.build.1 = .ok s) :
    s.Built := by
  obtain ⟨options, calls⟩ := blueprint
  unfold build at h
  rw [draft] at h
  rcases hs : options.start with ⟨e | b, es⟩
  · rw [hs] at h
    cases h
  · have hm := made_runAll (.start hs) calls
    rw [hs] at h
    dsimp only at h
    rcases hrun : Call.runAll calls b with ⟨b', _ | e⟩
    · rw [hrun] at h hm
      exact ⟨b', hm, Except.ok.inj h⟩
    · rw [hrun] at h
      cases h

end Blueprint

/-- A declaration of a name and a type, with nothing asked. -/
def FieldDecl.plain (name type : String) : FieldDecl :=
  { name := name, type := .spelled type, required := false, default := none, source := none,
    otherName := none, description := none, minLength := .null, maxLength := .null, min := .null,
    max := .null, format := none, enum := none, pattern := none, validators := [] }

/-- The field that a declaration of a name and a type stands for. -/
def Field.plain (name type : String) : Field :=
  { name := name, type := type, required := false, default := none, source := .body,
    validators := [], otherName := none, description := none }

def BlueprintOptions.plain (name : String) : BlueprintOptions :=
  ⟨name, .text "request", none, false, false, []⟩

def Outline.plain (name : String) (fields : List Field) : Outline :=
  { name := name, kind := .request, fields := fields, rules := [], groups := [], contentTypes := [],
    successType := none, failureType := none, unknown := .ignore, stripNulls := false,
    stripEmptyLists := false, conversions := ⟨[], true⟩ }

/-- A request with a bound, a choice, a list of maps, and a field that a gift has to have. -/
def Blueprint.order : Blueprint :=
  .mk { BlueprintOptions.plain "Order" with unknown := some (.text "allow"), stripNulls := true }
    [.field { FieldDecl.plain "id" "int" with required := true, min := .int 1 },
      .field { FieldDecl.plain "kind" "str" with
        enum := some [.text "book", .text "gift"], default := some (.text "book") },
      .nested (.plain "buyers" "any") true
        (.blueprint (.mk (.plain "Buyer")
          [.field { FieldDecl.plain "name" "str" with required := true }]) true),
      .group "kind" (some (.text "gift")) [{ FieldDecl.plain "note" "str" with required := true }]]

def Schema.order : Schema :=
  .mk
    { Outline.plain "Order"
        [{ Field.plain "id" "int" with
            required := true, validators := [.constraint "id" (.range (some (.int 1)) none)] },
          { Field.plain "kind" "str" with
            default := some (.text "book"), validators := [.constraint "kind" (.enum ["book", "gift"])] },
          Field.plain "buyers" "list[any]"] with
      groups := [⟨"kind", some (.text "gift"), [{ Field.plain "note" "str" with required := true }]⟩]
      unknown := .allow
      stripNulls := true }
    [.mk "buyers" true
      (.mk (.plain "Buyer" [{ Field.plain "name" "str" with required := true }]) [])]

theorem Schema.built_order : Schema.order.Built :=
  Blueprint.built_of_build (show Blueprint.order.build.1 = .ok Schema.order by cbv)

end Intake
