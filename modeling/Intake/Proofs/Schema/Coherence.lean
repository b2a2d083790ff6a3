import Intake.Proofs.Coercion.Types
import Intake.Proofs.Schema.Extension
import Intake.Proofs.Schema.Names

namespace Intake

namespace Outline

variable {fs : List Field} {f : Field}

/-- Where names tell fields apart, the required ones are those that say so. -/
theorem name_mem_required_iff (hn : (fs.map (·.name)).Nodup) (hf : f ∈ fs) :
    f.name ∈ (fs.filter (·.required)).map (·.name) ↔ f.required = true := by
  constructor
  · intro h
    obtain ⟨f', hf', hname⟩ := List.mem_map.mp h
    obtain rfl := List.inj_on_of_nodup_map hn (List.mem_of_mem_filter hf') hf hname
    exact List.of_mem_filter hf'
  · intro h
    exact List.mem_map_of_mem (List.mem_filter.mpr ⟨hf, h⟩)

end Outline

namespace Schema

variable {s t : Schema} {f : Field} {g : Group}

/-- No field of a group has the name of a field of the schema itself. -/
def GroupsApart (s : Schema) : Prop :=
  ∀ g ∈ s.outline.groups, ∀ f ∈ g.fields, f.name ∉ s.fieldNames

/-- What the parts of a schema have to do with each other: names tell the fields of the schema apart, and
those of each group; what is required is what says so; nested schemas belong to fields of the schema; the
known names are those of all declared fields, each once and in order; and where no conversions are
registered a default is a value that its type makes, which the type leaves as it is exactly if all moments
in it are written with years of four digits. -/
structure Coherent (s : Schema) : Prop where
  fields : s.fieldNames.Nodup
  groups : ∀ g ∈ s.outline.groups, (g.fields.map (·.name)).Nodup
  required : ∀ f ∈ s.outline.fields, f.name ∈ s.outline.requiredNames ↔ f.required = true
  requiredInGroup : ∀ g ∈ s.outline.groups, ∀ f ∈ g.fields,
    f.name ∈ g.requiredNames ↔ f.required = true
  requiredDeclared : s.outline.requiredNames ⊆ s.fieldNames ∧
    ∀ g ∈ s.outline.groups, g.requiredNames ⊆ g.fields.map (·.name)
  nested : ∀ b ∈ s.nested, b.name ∈ s.fieldNames
  distinct : s.outline.allNames.Nodup
  inOrder : s.outline.allNames = s.outline.allFields.map (·.name)
  known : ∀ name, name ∈ s.outline.allNames ↔ ∃ f ∈ s.outline.everyField, f.name = name
  defaults : s.outline.conversions.functions = [] → ∀ f ∈ s.outline.everyField, ∀ v ∈ f.default,
    v ≠ .null → (Target.ofName f.type).Writes (fun _ => True) v ∧
      (s.outline.conversions.coerce f.type v = .accepted v [] ↔
        (Target.ofName f.type).Writes Moment.Legible v)

/-- What holds of a schema in the making, whatever is done to it. -/
structure Sound (s : Schema) : Prop where
  fields : s.fieldNames.Nodup
  groups : ∀ g ∈ s.outline.groups, (g.fields.map (·.name)).Nodup
  nested : ∀ b ∈ s.nested, b.name ∈ s.fieldNames
  declared : ∀ f ∈ s.outline.everyField, f.DeclaredBy s.outline.conversions

theorem Sound.coherent (h : s.Sound) : s.Coherent where
  fields := h.fields
  groups := h.groups
  required _ hf := Outline.name_mem_required_iff h.fields hf
  requiredInGroup g hg _ hf := Outline.name_mem_required_iff (h.groups g hg) hf
  requiredDeclared := ⟨List.map_subset _ (List.filter_subset_self _),
    fun _ _ => List.map_subset _ (List.filter_subset_self _)⟩
  nested := h.nested
  distinct := Outline.nodup_allNames h.fields
  inOrder := Outline.allNames_eq s.outline
  known name := by
    rw [Outline.mem_allNames]
    simp only [Outline.everyField, List.mem_append, List.mem_flatMap]
    grind
  defaults := by
    intro hnone f hf v hv hn
    obtain ⟨u, ps, hcoerce⟩ := (h.declared f hf).exists_coerce hv hn
    rw [Conversions.coerce, hnone] at hcoerce
    have hwrites := Coercion.writes_of_run hcoerce
    refine ⟨hwrites, ?_⟩
    rw [Conversions.coerce, hnone]
    exact Coercion.run_iff_legible hwrites

theorem everyField_withField (s : Schema) (f f' : Field) :
    f' ∈ (s.withField f).outline.everyField ↔ f' ∈ s.outline.everyField ∨ f' = f := by
  simp only [Outline.everyField, withField, outline, List.mem_append, List.mem_singleton]
  grind

theorem everyField_withGroup (s : Schema) (g : Group) (f : Field) :
    f ∈ (s.withGroup g).outline.everyField ↔ f ∈ s.outline.everyField ∨ f ∈ g.fields := by
  simp [Outline.everyField, withGroup, outline, or_assoc]

theorem Sound.withGroup (h : s.Sound) (hn : (g.fields.map (·.name)).Nodup)
    (hd : ∀ f ∈ g.fields, f.DeclaredBy s.outline.conversions) : (s.withGroup g).Sound where
  fields := h.fields
  groups := by
    intro g' hg'
    rcases List.mem_append.mp hg' with hg' | hg'
    · exact h.groups g' hg'
    · exact List.mem_singleton.mp hg' ▸ hn
  nested := h.nested
  declared := by
    intro f hf
    rcases (everyField_withGroup s g f).mp hf with hf | hf
    · exact h.declared f hf
    · exact hd f hf

theorem Sound.extends (h : s.Sound) (ht : s.Extends t) : t.Sound := by
  induction ht with
  | refl => exact h
  | @other t u ht hf hg hn hr ih =>
    have hnames : u.fieldNames = t.fieldNames := congrArg (List.map Field.name) hf
    have hevery : u.outline.everyField = t.outline.everyField := by
      rw [Outline.everyField, hf, hg, Outline.everyField]
    exact ⟨hnames ▸ ih.fields, hg ▸ ih.groups, hn ▸ hnames ▸ ih.nested, hevery ▸ hr ▸ ih.declared⟩
  | @field t f ht hd hfresh hapart ih =>
    refine ⟨?_, ih.groups, fun b hb => ?_, fun f' hf' => ?_⟩
    · rw [fieldNames_withField]
      exact ih.fields.append (List.nodup_singleton _) (by simpa using hfresh)
    · rw [fieldNames_withField]
      exact List.mem_append_left _ (ih.nested b hb)
    · rcases (everyField_withField t f f').mp hf' with hf' | rfl
      · exact ih.declared f' hf'
      · exact ht.conversions ▸ hd
  | @group t g ht hd hdistinct _ ih => exact ih.withGroup hdistinct fun f hf => ht.conversions ▸ hd f hf
  | @binding t b ht hb ih =>
    refine ⟨ih.fields, ih.groups, fun b' hb' => ?_, ih.declared⟩
    rcases List.mem_append.mp hb' with hb' | hb'
    · exact ih.nested b' hb'
    · exact List.mem_singleton.mp hb' ▸ hb

theorem groupsApart_withGroup :
    (s.withGroup g).GroupsApart ↔ s.GroupsApart ∧ ∀ f ∈ g.fields, f.name ∉ s.fieldNames := by
  constructor
  · intro h
    exact ⟨fun g' hg' => h g' (List.mem_append_left _ hg'),
      h g (List.mem_append_right _ (List.mem_singleton_self _))⟩
  · rintro ⟨h, hg⟩ g' hg'
    rcases List.mem_append.mp hg' with hg' | hg'
    · exact h g' hg'
    · exact List.mem_singleton.mp hg' ▸ hg

/-- The calls of a builder keep groups apart from the schema, and never part what was not apart. -/
theorem groupsApart_of_extends (h : s.Extends t) : t.GroupsApart ↔ s.GroupsApart := by
  induction h with
  | refl => exact Iff.rfl
  | @other t u _ hf hg _ _ ih =>
    rw [← ih, GroupsApart, GroupsApart, fieldNames, fieldNames, hf, hg]
  | @field t f _ _ _ hapart ih =>
    rw [← ih]
    refine forall₂_congr fun g hg => forall₂_congr fun f' hf' => ?_
    rw [fieldNames_withField, List.mem_append, not_or]
    exact and_iff_left (by simpa using hapart g hg f' hf')
  | group _ _ _ hapart ih => rw [groupsApart_withGroup, ih, and_iff_left hapart]
  | binding _ _ ih => exact ih

end Schema

/-- A block for a group that has not ended, with the fields declared in it so far. -/
structure Block where
  trigger : String
  value : Option Value
  source : Source
  fields : List Field

def Block.group (k : Block) : Group := ⟨k.trigger, k.value, k.fields⟩

/-- What holds of a block, whatever is declared in it. -/
structure Block.Sound (r : Conversions) (k : Block) : Prop where
  fields : (k.fields.map (·.name)).Nodup
  declared : ∀ f ∈ k.fields, f.DeclaredBy r

/-- Declares a field in a block. The names of the schema's own fields are taken, and those of the block. -/
def Builder.declareIn (b : Builder) (k : Block) (d : FieldDecl) : Builder × Block :=
  match ({ b with source := k.source } : Builder).declare
    (b.hasField d.name || k.fields.any (·.name = d.name)) d with
  | (b', .error _) => (b.withEvents b'.events, k)
  | (b', .ok f) => (b.withEvents b'.events, { k with fields := k.fields ++ [f] })

/-- A builder in use, with the blocks around the current place, innermost first. -/
structure Session where
  builder : Builder
  blocks : List Block

/-- What can be done with a builder, in any order: a call, the start or end of a block for a source, a
nested field with a schema that exists, the start of a block for a group, a declaration in such a block,
and its end or the fault that leads out of it. A call or declaration that fails may be followed by
others. -/
inductive Move where
  | call (c : Call)
  | turn (source : Source)
  | nest (d : FieldDecl) (many : Bool) (child : Schema) (late : List Event)
  | enter (trigger : String) (value : Option Value)
  | declare (i : Nat) (d : FieldDecl)
  | finish (i : Nat)
  | abandon (i : Nat)

namespace Session

def schema (s : Session) : Schema := s.builder.schema

def step : Move → Session → Session
  | .call c, s => { s with builder := (c.run s.builder).1 }
  | .turn source, s => { s with builder := { s.builder with source := source } }
  | .nest d many child late, s => { s with builder := (s.builder.addNested d many ⟨.ok child, late⟩).1 }
  | .enter trigger value, s => { s with blocks := ⟨trigger, value, s.builder.source, []⟩ :: s.blocks }
  | .declare i d, s =>
    match s.blocks[i]? with
    | none => s
    | some k => ⟨(s.builder.declareIn k d).1, s.blocks.set i (s.builder.declareIn k d).2⟩
  | .finish i, s =>
    match s.blocks[i]? with
    | none => s
    | some k => ⟨{ s.builder with groups := s.builder.groups ++ [k.group] }, s.blocks.eraseIdx i⟩
  | .abandon i, s => { s with blocks := s.blocks.eraseIdx i }

def run : List Move → Session → Session
  | [], s => s
  | m :: ms, s => run ms (step m s)

/-- A block does not end with a field whose name the schema itself has got since. -/
def EndsClear : Move → Session → Prop
  | .finish i, s => ∀ k ∈ s.blocks[i]?, ∀ f ∈ k.fields, f.name ∉ s.schema.fieldNames
  | _, _ => True

/-- All blocks that end do so with names that the schema itself has not got. -/
def Tidy : List Move → Session → Prop
  | [], _ => True
  | m :: ms, s => EndsClear m s ∧ Tidy ms (step m s)

/-- What holds of a builder in use and of the blocks that have not ended. -/
structure Sound (s : Session) : Prop where
  schema : s.schema.Sound
  blocks : ∀ k ∈ s.blocks, k.Sound s.schema.outline.conversions

variable {s : Session} {b : Builder} {k : Block} {d : FieldDecl} {m : Move} {ms : List Move}

theorem schema_declareIn (b : Builder) (k : Block) (d : FieldDecl) :
    (b.declareIn k d).1.schema = b.schema := by
  unfold Builder.declareIn
  split <;> rfl

/-- A block gets a field under a name that neither it nor the schema has, or it stays as it is. -/
theorem declareIn_cases (b : Builder) (k : Block) (d : FieldDecl) :
    (b.declareIn k d).2 = k ∨ ∃ f : Field, (b.declareIn k d).2 = { k with fields := k.fields ++ [f] } ∧
      f.name ∉ k.fields.map (·.name) ∧ f.name ∉ b.schema.fieldNames ∧ f.DeclaredBy b.conversions := by
  unfold Builder.declareIn
  generalize hb : ({ b with source := k.source } : Builder) = b₀
  have hconversions : b₀.conversions = b.conversions := hb ▸ rfl
  rcases hdecl : b₀.declare (b.hasField d.name || k.fields.any (·.name = d.name)) d with ⟨b', e | f⟩
  · exact .inl rfl
  · have hok := congrArg Prod.snd hdecl
    obtain ⟨hfree, hname, -⟩ := Builder.declare_ok hok
    obtain ⟨hfield, hblock⟩ := Bool.or_eq_false_iff.mp hfree
    rw [Builder.hasField_eq_false_iff, ← hname] at hfield
    exact .inr ⟨f, rfl, by simpa [hname] using hblock, hfield,
      hconversions ▸ Builder.declaredBy_of_declare hok⟩

theorem sound_declareIn (h : k.Sound b.conversions) (d : FieldDecl) :
    (b.declareIn k d).2.Sound b.conversions := by
  rcases declareIn_cases b k d with heq | ⟨f, heq, hnew, -, hd⟩
  · rwa [heq]
  · rw [heq]
    constructor
    · rw [List.map_append]
      exact h.fields.append (List.nodup_singleton _) (by simpa using hnew)
    · intro f' hf'
      rcases List.mem_append.mp hf' with hf' | hf'
      · exact h.declared f' hf'
      · exact List.mem_singleton.mp hf' ▸ hd

/-- A move that leaves the blocks alone and extends the schema. -/
theorem Sound.extends (h : s.Sound) (hb : s.schema.Extends b.schema) :
    Sound { s with builder := b } :=
  ⟨h.schema.extends hb, fun k hk => hb.conversions ▸ h.blocks k hk⟩

theorem sound_step (h : s.Sound) (m : Move) : (step m s).Sound := by
  cases m with
  | call c => exact h.extends (Builder.extends_run c s.builder)
  | turn source => exact h.extends .refl
  | nest d many child late => exact h.extends (Builder.extends_addNested s.builder d many _)
  | enter trigger value =>
    refine ⟨h.schema, fun k hk => ?_⟩
    rcases List.mem_cons.mp hk with rfl | hk
    · exact ⟨List.nodup_nil, nofun⟩
    · exact h.blocks k hk
  | declare i d =>
    rw [step]
    split
    · exact h
    · next k hk =>
      have hschema := schema_declareIn s.builder k d
      have hstep : Sound ⟨(s.builder.declareIn k d).1, s.blocks⟩ := h.extends (hschema ▸ .refl)
      refine ⟨hstep.schema, fun k' hk' => ?_⟩
      rcases List.mem_or_eq_of_mem_set hk' with hk' | rfl
      · exact hstep.blocks k' hk'
      · have hconversions := Builder.conversions_of_schema_eq hschema
        change Block.Sound (s.builder.declareIn k d).1.conversions _
        rw [hconversions]
        exact sound_declareIn (h.blocks k (List.mem_of_getElem? hk)) d
  | finish i =>
    rw [step]
    split
    · exact h
    · next k hk =>
      have hk := h.blocks k (List.mem_of_getElem? hk)
      exact ⟨h.schema.withGroup (g := k.group) hk.fields hk.declared,
        fun k' hk' => h.blocks k' (List.mem_of_mem_eraseIdx hk')⟩
  | abandon i => exact ⟨h.schema, fun k hk => h.blocks k (List.mem_of_mem_eraseIdx hk)⟩

theorem sound_run (h : s.Sound) (ms : List Move) : (run ms s).Sound := by
  induction ms generalizing s with
  | nil => exact h
  | cons m ms ih => exact ih (sound_step h m)

/-- Only the end of a block can give a group a name of the schema itself. -/
theorem groupsApart_step (m : Move) (s : Session) :
    (step m s).schema.GroupsApart ↔ s.schema.GroupsApart ∧ EndsClear m s := by
  have hextends {t : Schema} (h : s.schema.Extends t) : t.GroupsApart ↔ s.schema.GroupsApart ∧ True := by
    rw [and_true, Schema.groupsApart_of_extends h]
  cases m with
  | call c => exact hextends (Builder.extends_run c s.builder)
  | turn source => exact hextends .refl
  | nest d many child late => exact hextends (Builder.extends_addNested s.builder d many _)
  | enter trigger value => exact hextends .refl
  | declare i d =>
    rw [step]
    split
    · exact hextends .refl
    · next k _ =>
      apply hextends
      change s.schema.Extends (s.builder.declareIn k d).1.schema
      exact schema_declareIn s.builder k d ▸ .refl
  | finish i =>
    rw [step, EndsClear]
    split
    · next hk => simp [hk]
    · next k hk =>
      rw [hk]
      have hclear : (∀ k' ∈ some k, ∀ f ∈ k'.fields, f.name ∉ s.schema.fieldNames) ↔
          ∀ f ∈ k.group.fields, f.name ∉ s.schema.fieldNames := by simp [Block.group]
      rw [hclear]
      exact Schema.groupsApart_withGroup (s := s.schema) (g := k.group)
  | abandon i => exact hextends .refl

theorem groupsApart_run (ms : List Move) (s : Session) :
    (run ms s).schema.GroupsApart ↔ s.schema.GroupsApart ∧ Tidy ms s := by
  induction ms generalizing s with
  | nil => rw [run, Tidy, and_true]
  | cons m ms ih => rw [run, ih, groupsApart_step, Tidy, and_assoc]

variable {options : BlueprintOptions} {es : List Event}

theorem sound_start (h : options.start = (.ok b, es)) : Sound ⟨b, []⟩ := by
  obtain ⟨hf, hg, hn⟩ := Builder.empty_of_start h
  refine ⟨⟨?_, ?_, ?_, ?_⟩, nofun⟩ <;>
    simp [schema, Builder.schema, Schema.fieldNames, Schema.outline, Schema.nested,
      Outline.everyField, hf, hg, hn]

/-- Whatever is done with a builder, and whatever fails on the way, the schema that comes out is coherent;
and its groups stay apart from the schema itself unless a block ends with a field under a name that the
schema has got in the meantime. -/
theorem session_coherent (h : options.start = (.ok b, es)) (ms : List Move) :
    (run ms ⟨b, []⟩).schema.Coherent ∧ ((run ms ⟨b, []⟩).schema.GroupsApart ↔ Tidy ms ⟨b, []⟩) := by
  have hstart : b.schema.GroupsApart := fun g hg => (Builder.wellNamed_start h).outline.apart g hg
  refine ⟨(sound_run (sound_start h) ms).schema.coherent, ?_⟩
  rw [groupsApart_run]
  exact and_iff_right hstart

theorem declareIn_of_declare {b' : Builder} {f : Field} (hs : k.source = b.source)
    (h : b.declare (b.hasField d.name || k.fields.any (·.name = d.name)) d = (b', .ok f)) :
    b.declareIn k d = (b', { k with fields := k.fields ++ [f] }) := by
  obtain ⟨es, hes⟩ := Builder.declare_eq_withEvents b
    (b.hasField d.name || k.fields.any (·.name = d.name)) d
  rw [h] at hes
  obtain rfl : b' = b.withEvents es := hes
  have hsame : ({ b with source := k.source } : Builder) = b := by rw [hs]
  rw [Builder.declareIn, hsame, h]
  rfl

theorem run_declares {fs : List Field} {ds : List FieldDecl} {b' : Builder} (ks : List Block)
    (hs : k.source = b.source) (h : b.groupFields k.fields ds = (b', .ok fs)) :
    run (ds.map (.declare 0) ++ ms) ⟨b, k :: ks⟩ = run ms ⟨b', { k with fields := fs } :: ks⟩ := by
  induction ds generalizing b k with
  | nil =>
    obtain ⟨rfl, hfs⟩ := Prod.mk.inj h
    obtain rfl := Except.ok.inj hfs
    rfl
  | cons d ds ih =>
    rw [Builder.groupFields] at h
    rcases hdecl : b.declare (b.hasField d.name || k.fields.any (·.name = d.name)) d with ⟨b₁, e | f⟩
    · rw [hdecl] at h
      cases h
    · rw [hdecl] at h
      have hin := declareIn_of_declare hs hdecl
      have hstep : step (.declare 0 d) ⟨b, k :: ks⟩ = ⟨b₁, { k with fields := k.fields ++ [f] } :: ks⟩ :=
        congrArg (fun r : Builder × Block => Session.mk r.1 (r.2 :: ks)) hin
      obtain ⟨es, hes⟩ := Builder.declare_eq_withEvents b
        (b.hasField d.name || k.fields.any (·.name = d.name)) d
      rw [hdecl] at hes
      obtain rfl : b₁ = b.withEvents es := hes
      rw [List.map_cons, List.cons_append, run, hstep]
      exact ih (k := { k with fields := k.fields ++ [f] }) hs h

/-- A call for a group is a block with its declarations in it, where none of them fails. -/
theorem run_block {fs : List Field} {ds : List FieldDecl} {b' : Builder} (ks : List Block)
    (h : b.groupFields [] ds = (b', .ok fs)) (trigger : String) (value : Option Value) :
    run (.enter trigger value :: (ds.map (.declare 0) ++ [.finish 0])) ⟨b, ks⟩ =
      ⟨(b.addGroup trigger value ds).1, ks⟩ := by
  have hdeclares : run (ds.map (.declare 0) ++ [.finish 0])
      ⟨b, ⟨trigger, value, b.source, []⟩ :: ks⟩ = _ := run_declares ks rfl h
  rw [run, step, hdeclares, Builder.addGroup, h]
  rfl

theorem tidy_declares (ds : List FieldDecl) (ks : List Block)
    (h : ∀ f ∈ k.fields, f.name ∉ b.schema.fieldNames) :
    Tidy (ds.map (.declare 0) ++ [.finish 0]) ⟨b, k :: ks⟩ := by
  induction ds generalizing b k with
  | nil =>
    refine ⟨fun k' hk' => ?_, trivial⟩
    obtain rfl := Option.some.inj hk'
    exact h
  | cons d ds ih =>
    refine ⟨trivial, ih (b := (b.declareIn k d).1) (k := (b.declareIn k d).2) ?_⟩
    rw [schema_declareIn]
    rcases declareIn_cases b k d with heq | ⟨f, heq, -, hfree, -⟩
    · rwa [heq]
    · rw [heq]
      intro f' hf'
      rcases List.mem_append.mp hf' with hf' | hf'
      · exact h f' hf'
      · exact List.mem_singleton.mp hf' ▸ hfree

/-- A block in which nothing but its own fields is declared ends clear, whether all of them can be
declared or not. -/
theorem tidy_block (s : Session) (trigger : String) (value : Option Value) (ds : List FieldDecl) :
    Tidy (.enter trigger value :: (ds.map (.declare 0) ++ [.finish 0])) s :=
  ⟨trivial, tidy_declares ds s.blocks nofun⟩

/-- A builder in which nothing is declared. -/
def fresh : Builder :=
  { name := "Booking", kind := .request, unknown := .ignore, stripNulls := false,
    stripEmptyLists := false, conversions := ⟨[], true⟩, fields := [], rules := [], groups := [],
    nested := [], contentTypes := [], successType := none, failureType := none, source := .body,
    events := [] }

/-- A number of seats, which cannot be declared again, neither in the schema nor in a block. -/
def bookingMoves : List Move :=
  [.call (.field { FieldDecl.plain "seats" "int" with required := true, default := some (.text " 2 ") }),
    .call (.field (.plain "seats" "str")), .enter "seats" none, .declare 0 (.plain "seats" "str"),
    .declare 0 { FieldDecl.plain "row" "str" with required := true }, .declare 0 (.plain "row" "int"),
    .finish 0]

theorem session_coherent_booking :
    (run bookingMoves ⟨fresh, []⟩).schema.Coherent ∧
      (run bookingMoves ⟨fresh, []⟩).schema.GroupsApart ∧
      (run bookingMoves ⟨fresh, []⟩).schema.outline.allNames = ["seats", "row"] := by
  have hstart : (BlueprintOptions.plain "Booking").start = (.ok fresh, []) := by cbv
  obtain ⟨hcoherent, hapart⟩ := session_coherent hstart bookingMoves
  have htidy : Tidy bookingMoves ⟨fresh, []⟩ := ⟨trivial, trivial, tidy_block _ "seats" none
    [.plain "seats" "str", { FieldDecl.plain "row" "str" with required := true }, .plain "row" "int"]⟩
  exact ⟨hcoherent, hapart.mpr htidy, by decide +kernel⟩

/-- A name declared in a block and then, before the block ends, in the schema itself. -/
def overlapping : List Move :=
  [.enter "kind" none, .declare 0 (.plain "note" "str"), .call (.field (.plain "note" "int")), .finish 0]

example : (run overlapping ⟨fresh, []⟩).schema.fieldNames = ["note"] ∧
    (run overlapping ⟨fresh, []⟩).schema.outline.groups.map (·.fields.map (·.name)) = [["note"]] := by
  decide +kernel

/-- The text that a moment of an early year is brought to is no longer the text of a moment. -/
example : Coercion.run [] .datetime (.text "0999-01-01T00:00:00Z") =
      .accepted (.text "999-01-01T00:00:00Z") [] ∧
    Coercion.run [] .datetime (.text "999-01-01T00:00:00Z") = .refused := by
  cbv

end Session

end Intake
