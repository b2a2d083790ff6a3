import Intake.Proofs.Run.Breaches
import Intake.Proofs.Schema.Attempts
import Intake.Proofs.Schema.Bindings
import Intake.Proofs.Schema.Statements

namespace Intake

theorem Source.ofValue?_text (s : Source) : Source.ofValue? (.text s.text) = .ok s := by
  cases s <;> rfl

namespace FieldDecl

/-- The source of a field that is declared in a block for a source. -/
def sourceIn (d : FieldDecl) (s : Source) : Except Fault Source := d.source.elim (.ok s) Source.ofValue?

/-- A field that a declaration gives in a block for a source. -/
structure Gives (d : FieldDecl) (s : Source) (f : Field) : Prop where
  name : f.name = d.name
  source : d.sourceIn s = .ok f.source

/-- A declaration that names its source, which is that of the block around it if it named none. -/
def placed (d : FieldDecl) (s : Source) : FieldDecl :=
  { d with source := some (d.source.getD (.text s.text)) }

theorem sourceIn_placed (d : FieldDecl) (s t : Source) : (d.placed s).sourceIn t = d.sourceIn s := by
  cases hd : d.source with
  | none => simp only [sourceIn, placed, hd, Option.getD_none, Option.elim_some, Option.elim_none,
      Source.ofValue?_text]
  | some v => simp only [sourceIn, placed, hd, Option.getD_some, Option.elim_some]

theorem build_placed (d : FieldDecl) (s t : Source) (r : Conversions) (extra : List Validator) :
    (d.placed s).build t r extra = d.build s r extra := by
  have hsource : (d.placed s).source.elim (.ok t) Source.ofValue? =
      d.source.elim (.ok s) Source.ofValue? := sourceIn_placed d s t
  unfold build
  rw [hsource]
  rfl

theorem gives_of_build {d : FieldDecl} {s : Source} {r : Conversions} {extra : List Validator}
    {f : Field} (h : (d.build s r extra).1 = .ok f) : d.Gives s f := by
  refine ⟨(Builder.name_of_build h).1, ?_⟩
  unfold build at h
  split_ifs at h
  dsimp only at h
  split at h
  · cases h
  · obtain ⟨default, -, h⟩ := exists_ok_of_bind h
    obtain ⟨source, hsource, h⟩ := exists_ok_of_bind h
    rw [← Except.ok.inj h]
    exact hsource

end FieldDecl

namespace Builder

theorem declare_placed (b : Builder) (s t : Source) (isTaken : Bool) (d : FieldDecl) :
    (b.withSource t).declare isTaken (d.placed s) =
      (((b.withSource s).declare isTaken d).1.withSource t, ((b.withSource s).declare isTaken d).2) := by
  have hvalidators : (d.placed s).validators = d.validators := rfl
  unfold declare
  rw [hvalidators]
  split
  · rfl
  · next extra _ =>
    cases isTaken
    · simp only [Bool.false_eq_true, if_false]
      rw [FieldDecl.build_placed]
      rfl
    · rfl

theorem gives_of_declare {b : Builder} {isTaken : Bool} {d : FieldDecl} {f : Field}
    (h : (b.declare isTaken d).2 = .ok f) : d.Gives b.source f := by
  obtain ⟨extra, hbuild⟩ := build_of_declare h
  exact FieldDecl.gives_of_build hbuild

theorem addField_placed (b : Builder) (t : Source) (d : FieldDecl) :
    (b.withSource t).addField (d.placed b.source) = ((b.addField d).1.withSource t, (b.addField d).2) := by
  have hdeclare := declare_placed b b.source t (b.hasField d.name || b.hasGroupField d.name) d
  have hself : b.withSource b.source = b := rfl
  have hnames : ((b.withSource t).hasField (d.placed b.source).name ||
      (b.withSource t).hasGroupField (d.placed b.source).name) =
      (b.hasField d.name || b.hasGroupField d.name) := rfl
  unfold addField
  rw [hnames, hdeclare, hself]
  rcases b.declare (b.hasField d.name || b.hasGroupField d.name) d with ⟨b', fault | f⟩ <;> rfl

theorem addNested_eq (b : Builder) (d : FieldDecl) (many : Bool) (child : Handed) :
    b.addNested d many child =
      match b.addField (d.nesting many) with
      | (b', some fault) => (b', some fault)
      | (b', none) =>
        match child.schema with
        | .error fault => (b', some fault)
        | .ok s => (Builder.log { b' with nested := b'.nested ++ [Binding.mk d.name many s] } child.late,
            none) := rfl

theorem addNested_placed (b : Builder) (t : Source) (d : FieldDecl) (many : Bool) (child : Handed) :
    (b.withSource t).addNested (d.placed b.source) many child =
      ((b.addNested d many child).1.withSource t, (b.addNested d many child).2) := by
  have hadd : (b.withSource t).addField ((d.placed b.source).nesting many) = _ :=
    addField_placed b t (d.nesting many)
  rw [addNested_eq, addNested_eq, hadd]
  rcases b.addField (d.nesting many) with ⟨b', _ | fault⟩
  · cases child.schema <;> rfl
  · rfl

theorem source_addField (b : Builder) (d : FieldDecl) : (b.addField d).1.source = b.source := by
  obtain ⟨es, hes⟩ := declare_eq_withEvents b (b.hasField d.name || b.hasGroupField d.name) d
  unfold addField
  rcases hdecl : b.declare (b.hasField d.name || b.hasGroupField d.name) d with ⟨b', fault | f⟩
  all_goals
    rw [hdecl] at hes
    obtain rfl : b' = b.withEvents es := hes
    rfl

theorem source_addNested (b : Builder) (d : FieldDecl) (many : Bool) (child : Handed) :
    (b.addNested d many child).1.source = b.source := by
  have hadd := source_addField b (d.nesting many)
  rw [addNested_eq]
  rcases hrun : b.addField (d.nesting many) with ⟨b', _ | fault⟩ <;> rw [hrun] at hadd
  · cases child.schema <;> exact hadd
  · exact hadd

theorem source_groupFields (b : Builder) (declared : List Field) (ds : List FieldDecl) :
    (b.groupFields declared ds).1.source = b.source := by
  obtain ⟨es, hes⟩ := groupFields_eq_withEvents b declared ds
  rw [hes]
  rfl

/-- A call leaves the source for later fields as it was, whether it fails or not. -/
theorem source_run (c : Call) (b : Builder) : (c.run b).1.source = b.source := by
  cases c with
  | field d => exact source_addField b d
  | nested d many child =>
    rw [Call.run]
    rcases child.handOver with ⟨fault | handed, es⟩
    · rfl
    · exact source_addNested (b.log es) d many handed
  | group trigger value ds =>
    have hfields := source_groupFields b [] ds
    rw [Call.run, addGroup]
    rcases hgroup : b.groupFields [] ds with ⟨b', fault | fs⟩
    all_goals
      rw [hgroup] at hfields
      exact hfields
  | block source calls =>
    rw [Call.run]
    split <;> rfl
  | rule spec =>
    rw [Call.run, addRule]
    split <;> rfl
  | contentType types => rfl
  | validatesTo success failure => rfl
  | unknownFields policy =>
    rw [Call.run, setUnknown]
    split <;> rfl

end Builder

/-- The block with another source for fields that name none. -/
def Block.withSource (k : Block) (s : Source) : Block := { k with source := s }

theorem Builder.declareIn_placed (b : Builder) (k : Block) (t : Source) (d : FieldDecl) :
    (b.withSource t).declareIn (k.withSource t) (d.placed k.source) =
      ((b.declareIn k d).1.withSource t, (b.declareIn k d).2.withSource t) := by
  have hdeclare := declare_placed b k.source t (b.hasField d.name || k.fields.any (·.name = d.name)) d
  have hblock : ({ b.withSource t with source := (k.withSource t).source } : Builder) = b.withSource t := rfl
  have hself : ({ b with source := k.source } : Builder) = b.withSource k.source := rfl
  have hnames : ((b.withSource t).hasField (d.placed k.source).name ||
      (k.withSource t).fields.any (·.name = (d.placed k.source).name)) =
      (b.hasField d.name || k.fields.any (·.name = d.name)) := rfl
  unfold declareIn
  rw [hblock, hself, hnames, hdeclare]
  rcases (b.withSource k.source).declare (b.hasField d.name || k.fields.any (·.name = d.name)) d with
    ⟨b', fault | f⟩ <;> rfl

theorem Builder.faultIn_placed (b : Builder) (k : Block) (t : Source) (d : FieldDecl) :
    (b.withSource t).faultIn (k.withSource t) (d.placed k.source) = b.faultIn k d := by
  have hdeclare := declare_placed b k.source t (b.hasField d.name || k.fields.any (·.name = d.name)) d
  have hblock : (b.withSource t).withSource (k.withSource t).source = b.withSource t := rfl
  have hnames : ((b.withSource t).hasField (d.placed k.source).name ||
      (k.withSource t).fields.any (·.name = (d.placed k.source).name)) =
      (b.hasField d.name || k.fields.any (·.name = d.name)) := rfl
  unfold faultIn
  rw [hblock, hnames, hdeclare]

theorem Builder.source_declareIn (b : Builder) (k : Block) (d : FieldDecl) :
    (b.declareIn k d).1.source = b.source ∧ (b.declareIn k d).2.source = k.source := by
  unfold declareIn
  split <;> exact ⟨rfl, rfl⟩

theorem Call.run_withSource {c : Call} (h : c.DeclaresNone) (b : Builder) (t : Source) :
    c.run (b.withSource t) = ((c.run b).1.withSource t, (c.run b).2) := by
  cases h with
  | rule spec =>
    rw [Call.run, Call.run, Builder.addRule, Builder.addRule]
    cases spec.build <;> rfl
  | contentType types => rfl
  | validatesTo success failure => rfl
  | unknownFields policy =>
    rw [Call.run, Call.run, Builder.setUnknown, Builder.setUnknown]
    cases UnknownFields.ofValue? policy <;> rfl

namespace Session

/-- A session with one source for all fields that name none, in the schema and in its groups. -/
def placed (s : Session) (t : Source) : Session :=
  ⟨s.builder.withSource t, s.blocks.map (·.withSource t)⟩

/-- The sources for fields of the groups that have not ended. -/
def opened (s : Session) : List Source := s.blocks.map (·.source)

/-- All fields declared so far, those of groups that have not ended too. -/
def fields (s : Session) : List Field := s.schema.outline.everyField ++ s.blocks.flatMap (·.fields)

end Session

namespace Statement

open Session (step)

mutual

/-- The declarations in a statement that stands in a block for a source, each with the source of the
block that it counts for: the innermost around it, or for the field of a group the one around the group. -/
def declared (source : Source) (opened : List Source) : Statement → List (FieldDecl × Source)
  | .field d => [(d, source)]
  | .nested d _ _ => [(d, source)]
  | .other _ _ => []
  | .block v body =>
    match Source.ofValue? v with
    | .error _ => []
    | .ok inner => declaredAll inner opened body
  | .group _ _ body => declaredAll source (source :: opened) body
  | .member i d => (opened[i]?.map (d, ·)).toList
  | .raise _ => []
  | .attempt body rescue => declaredAll source opened body ++ declaredAll source opened rescue

def declaredAll (source : Source) (opened : List Source) : List Statement → List (FieldDecl × Source)
  | [] => []
  | x :: xs => declared source opened x ++ declaredAll source opened xs

end

mutual

/-- A statement that stands in a block for a source, without blocks for sources in it: each declaration
names its source instead. -/
def spelledOut (source : Source) (opened : List Source) : Statement → List Statement
  | .field d => [.field (d.placed source)]
  | .nested d many child => [.nested (d.placed source) many child]
  | .other c h => [.other c h]
  | .block v body =>
    match Source.ofValue? v with
    | .error fault => [.raise fault]
    | .ok inner => spelledOutAll inner opened body
  | .group trigger value body => [.group trigger value (spelledOutAll source (source :: opened) body)]
  | .member i d => [.member i (opened[i]?.elim d d.placed)]
  | .raise fault => [.raise fault]
  | .attempt body rescue =>
    [.attempt (spelledOutAll source opened body) (spelledOutAll source opened rescue)]

def spelledOutAll (source : Source) (opened : List Source) : List Statement → List Statement
  | [] => []
  | x :: xs => spelledOut source opened x ++ spelledOutAll source opened xs

end

/-- Two sessions agree on the sources of fields that name none. -/
def SameSources (s s' : Session) : Prop := s'.builder.source = s.builder.source ∧ s'.opened = s.opened

variable {s s' s'' : Session}

theorem SameSources.trans (h : SameSources s s') (h' : SameSources s' s'') : SameSources s s'' :=
  ⟨h'.1.trans h.1, h'.2.trans h.2⟩

theorem sameSources_perform (s : Session) (c : Call) : SameSources s (s.perform c).1 :=
  ⟨Builder.source_run c s.builder, rfl⟩

theorem sameSources_declare (s : Session) (i : Nat) (d : FieldDecl) :
    SameSources s (s.declare i d).1 := by
  rw [Session.declare, Session.step]
  cases hk : s.blocks[i]? with
  | none => exact ⟨rfl, rfl⟩
  | some k =>
    obtain ⟨hbuilder, hblock⟩ := Builder.source_declareIn s.builder k d
    refine ⟨hbuilder, ?_⟩
    have hsource : s.opened[i]? = some k.source := by
      rw [Session.opened, List.getElem?_map, hk]
      rfl
    obtain ⟨hi, hget⟩ := List.getElem?_eq_some_iff.mp hsource
    rw [Session.opened, List.map_set, hblock, ← hget]
    exact List.set_getElem_self hi

/-- The innermost group ends, and with it the source for its fields. -/
theorem sameSources_finish (trigger : String) (value : Option Value)
    (h : SameSources (step (.enter trigger value) s) s') : SameSources s (step (.finish 0) s') := by
  obtain ⟨b, ks⟩ := s'
  cases ks with
  | nil => cases h.2
  | cons k ks => exact ⟨h.1, (List.cons.inj h.2).2⟩

theorem sameSources_abandon (trigger : String) (value : Option Value)
    (h : SameSources (step (.enter trigger value) s) s') : SameSources s (step (.abandon 0) s') := by
  obtain ⟨b, ks⟩ := s'
  cases ks with
  | nil => cases h.2
  | cons k ks => exact ⟨h.1, (List.cons.inj h.2).2⟩

mutual

/-- A statement leaves the sources for later fields as they were, whether it fails or not. -/
theorem sameSources_run (x : Statement) (s : Session) : SameSources s (x.run s).1 := by
  cases x with
  | field d => exact sameSources_perform s _
  | nested d many child => exact sameSources_perform s _
  | other c h => exact sameSources_perform s c
  | block source body =>
    rw [run]
    cases Source.ofValue? source with
    | error fault => exact ⟨rfl, rfl⟩
    | ok inner => exact ⟨rfl, (sameSources_runAll body (step (.turn inner) s)).2⟩
  | group trigger value body =>
    have hbody := sameSources_runAll body (step (.enter trigger value) s)
    rw [run]
    rcases hrun : runAll body (step (.enter trigger value) s) with ⟨s', _ | fault⟩ <;>
      rw [hrun] at hbody
    · exact sameSources_finish trigger value hbody
    · exact sameSources_abandon trigger value hbody
  | member i d => exact sameSources_declare s i d
  | raise fault => exact ⟨rfl, rfl⟩
  | attempt body rescue =>
    have hbody := sameSources_runAll body s
    rw [run]
    rcases hrun : runAll body s with ⟨s', _ | fault⟩ <;> rw [hrun] at hbody
    · exact hbody
    · exact hbody.trans (sameSources_runAll rescue s')

theorem sameSources_runAll (xs : List Statement) (s : Session) : SameSources s (runAll xs s).1 := by
  cases xs with
  | nil => exact ⟨rfl, rfl⟩
  | cons x xs =>
    have hfirst := sameSources_run x s
    rw [runAll]
    rcases hrun : x.run s with ⟨s', _ | fault⟩ <;> rw [hrun] at hfirst
    · exact hfirst.trans (sameSources_runAll xs s')
    · exact hfirst

end

theorem perform_placed {c c' : Call} {t : Source} (h : c'.run (s.builder.withSource t) =
    ((c.run s.builder).1.withSource t, (c.run s.builder).2)) :
    (s.placed t).perform c' = ((s.perform c).1.placed t, (s.perform c).2) := by
  have hrun : c'.run (s.placed t).builder = _ := h
  rw [Session.perform, Session.step, hrun]
  rfl

theorem run_nested_placed (b : Builder) (t : Source) (d : FieldDecl) (many : Bool) (child : Child) :
    (Call.nested (d.placed b.source) many child).run (b.withSource t) =
      (((Call.nested d many child).run b).1.withSource t, ((Call.nested d many child).run b).2) := by
  rw [Call.run, Call.run]
  rcases child.handOver with ⟨fault | handed, es⟩
  · rfl
  · exact Builder.addNested_placed (b.log es) t d many handed

theorem declare_placed (s : Session) (t : Source) (i : Nat) (d : FieldDecl) :
    (s.placed t).declare i (s.opened[i]?.elim d d.placed) =
      ((s.declare i d).1.placed t, (s.declare i d).2) := by
  have hopened : s.opened[i]? = s.blocks[i]?.map (·.source) := List.getElem?_map
  have hplaced : (s.placed t).blocks[i]? = s.blocks[i]?.map (·.withSource t) := List.getElem?_map
  rw [Session.declare, Session.declare, Session.step, Session.step, hopened, hplaced]
  cases s.blocks[i]? with
  | none => rfl
  | some k =>
    have hdeclare := Builder.declareIn_placed s.builder k t d
    have hfault := Builder.faultIn_placed s.builder k t d
    have hbuilder : (s.placed t).builder = s.builder.withSource t := rfl
    simp only [Option.map_some, Option.elim_some, Option.bind_some, hbuilder, hdeclare, hfault]
    rw [Session.placed, Session.placed, List.map_set]

mutual

/-- A statement runs like its spelled-out form, wherever that stands. -/
theorem runAll_spelledOut (x : Statement) (s : Session) (t : Source) :
    runAll (x.spelledOut s.builder.source s.opened) (s.placed t) =
      ((x.run s).1.placed t, (x.run s).2) := by
  cases x with
  | field d =>
    rw [spelledOut, runAll_singleton]
    exact perform_placed (Builder.addField_placed s.builder t d)
  | nested d many child =>
    rw [spelledOut, runAll_singleton]
    exact perform_placed (run_nested_placed s.builder t d many child)
  | other c h =>
    rw [spelledOut, runAll_singleton]
    exact perform_placed (Call.run_withSource h s.builder t)
  | block source body =>
    rw [spelledOut, run]
    cases Source.ofValue? source with
    | error fault => rfl
    | ok inner => exact runAll_spelledOutAll body (step (.turn inner) s) t
  | group trigger value body =>
    have hbody : runAll (spelledOutAll s.builder.source (s.builder.source :: s.opened) body)
        (step (.enter trigger value) (s.placed t)) = _ :=
      runAll_spelledOutAll body (step (.enter trigger value) s) t
    rw [spelledOut, runAll_singleton, run, run, hbody]
    -- The group that ends is the first of those left open, if there is any.
    rcases runAll body (step (.enter trigger value) s) with ⟨⟨b, _ | ⟨k, ks⟩⟩, _ | fault⟩ <;> rfl
  | member i d =>
    rw [spelledOut, runAll_singleton]
    exact declare_placed s t i d
  | raise fault => rfl
  | attempt body rescue =>
    have hbody := runAll_spelledOutAll body s t
    have hsame := sameSources_runAll body s
    rw [spelledOut, runAll_singleton, run, run, hbody]
    rcases hrun : runAll body s with ⟨s', _ | fault⟩
    · rfl
    · rw [hrun] at hsame
      have hrescue := runAll_spelledOutAll rescue s' t
      rwa [hsame.1, hsame.2] at hrescue

theorem runAll_spelledOutAll (xs : List Statement) (s : Session) (t : Source) :
    runAll (spelledOutAll s.builder.source s.opened xs) (s.placed t) =
      ((runAll xs s).1.placed t, (runAll xs s).2) := by
  cases xs with
  | nil => rfl
  | cons x xs =>
    have hfirst := runAll_spelledOut x s t
    have hsame := sameSources_run x s
    rw [spelledOutAll, runAll_append, hfirst, runAll]
    rcases hrun : x.run s with ⟨s', _ | fault⟩
    · rw [hrun] at hsame
      -- The sources are as they were, so the rest is spelled out with the same ones.
      have hrest := runAll_spelledOutAll xs s' t
      rwa [hsame.1, hsame.2] at hrest
    · rfl

end

/-- What a session has and another had not are fields that some declarations give, each in a block for
a source. -/
def Adds (s s' : Session) (ps : List (FieldDecl × Source)) : Prop :=
  ∀ f ∈ s'.fields, f ∈ s.fields ∨ ∃ p ∈ ps, p.1.Gives p.2 f

variable {ps qs : List (FieldDecl × Source)}

theorem Adds.of_subset (h : s'.fields ⊆ s.fields) : Adds s s' ps := fun _ hf => .inl (h hf)

theorem Adds.mono (h : Adds s s' ps) (hsub : ps ⊆ qs) : Adds s s' qs := by
  intro f hf
  rcases h f hf with hold | ⟨p, hp, hgives⟩
  · exact .inl hold
  · exact .inr ⟨p, hsub hp, hgives⟩

theorem Adds.trans (h : Adds s s' ps) (h' : Adds s' s'' qs) : Adds s s'' (ps ++ qs) := by
  intro f hf
  rcases h' f hf with hf | ⟨p, hp, hgives⟩
  · exact h.mono (List.subset_append_left ps qs) f hf
  · exact .inr ⟨p, List.mem_append_right ps hp, hgives⟩

theorem mem_fields {f : Field} : f ∈ s.fields ↔
    f ∈ s.schema.outline.everyField ∨ ∃ k ∈ s.blocks, f ∈ k.fields := by
  rw [Session.fields, List.mem_append, List.mem_flatMap]

theorem everyField_addField {b : Builder} {d : FieldDecl} {f : Field}
    (hf : f ∈ (b.addField d).1.schema.outline.everyField) :
    f ∈ b.schema.outline.everyField ∨ d.Gives b.source f := by
  rcases hadd : b.addField d with ⟨b', _ | fault⟩
  · obtain ⟨f', -, -, hschema, extra, hbuild⟩ := Builder.added_of_addField hadd
    rw [hadd, hschema, Schema.everyField_withField] at hf
    rcases hf with hf | rfl
    · exact .inl hf
    · exact .inr (FieldDecl.gives_of_build hbuild)
  · obtain ⟨es, rfl⟩ := Builder.withEvents_of_addField hadd
    rw [hadd] at hf
    exact .inl hf

theorem everyField_addNested {b : Builder} {d : FieldDecl} {many : Bool} {child : Handed} {f : Field}
    (hf : f ∈ (b.addNested d many child).1.schema.outline.everyField) :
    f ∈ b.schema.outline.everyField ∨ d.Gives b.source f := by
  have hadded : f ∈ (b.addField (d.nesting many)).1.schema.outline.everyField := by
    rcases Builder.addNested_cases b d many child with
      ⟨b', fault, hadd, hrun⟩ | ⟨b', hadd, ⟨fault, -, hrun⟩ | ⟨schema, -, -, hrun⟩⟩
    · rwa [hadd, ← hrun]
    · rw [hrun] at hf
      rwa [hadd]
    · rw [hrun] at hf
      rwa [hadd]
  exact (everyField_addField hadded).imp_right fun hgives => ⟨hgives.name, hgives.source⟩

theorem adds_perform {c : Call} {d : FieldDecl}
    (h : ∀ f ∈ (c.run s.builder).1.schema.outline.everyField,
      f ∈ s.schema.outline.everyField ∨ d.Gives s.builder.source f) :
    Adds s (s.perform c).1 [(d, s.builder.source)] := by
  intro f hf
  rcases mem_fields.mp hf with hf | hblock
  · rcases h f hf with hold | hgives
    · exact .inl (mem_fields.mpr (.inl hold))
    · exact .inr ⟨_, List.mem_singleton_self _, hgives⟩
  · exact .inl (mem_fields.mpr (.inr hblock))

theorem fields_perform_other {c : Call} (h : c.DeclaresNone) : (s.perform c).1.fields = s.fields := by
  have hschema : (c.run s.builder).1.schema.outline.everyField = s.schema.outline.everyField := by
    cases h with
    | rule spec =>
      rw [Call.run, Builder.addRule]
      cases spec.build <;> rfl
    | contentType types => rfl
    | validatesTo success failure => rfl
    | unknownFields policy =>
      rw [Call.run, Builder.setUnknown]
      cases UnknownFields.ofValue? policy <;> rfl
  exact congrArg (· ++ _) hschema

theorem fields_declareIn {b : Builder} {k : Block} {d : FieldDecl} {f : Field}
    (hf : f ∈ (b.declareIn k d).2.fields) :
    f ∈ k.fields ∨ d.Gives k.source f := by
  unfold Builder.declareIn at hf
  rcases hdecl : ({ b with source := k.source } : Builder).declare
    (b.hasField d.name || k.fields.any (·.name = d.name)) d with ⟨b', fault | f'⟩
  · rw [hdecl] at hf
    exact .inl hf
  · rw [hdecl] at hf
    rcases List.mem_append.mp hf with hf | hf
    · exact .inl hf
    · obtain rfl := List.mem_singleton.mp hf
      exact .inr (Builder.gives_of_declare (congrArg Prod.snd hdecl))

theorem adds_declare (s : Session) (i : Nat) (d : FieldDecl) :
    Adds s (s.declare i d).1 (s.opened[i]?.map (d, ·)).toList := by
  have hopened : s.opened[i]? = s.blocks[i]?.map (·.source) := List.getElem?_map
  rw [Session.declare, Session.step, hopened]
  cases hk : s.blocks[i]? with
  | none => exact .of_subset (List.Subset.refl _)
  | some k =>
    intro f hf
    rcases mem_fields.mp hf with hf | ⟨k', hk', hf⟩
    · have hschema : (s.builder.declareIn k d).1.schema = s.schema := Session.schema_declareIn _ k d
      have hf : f ∈ (s.builder.declareIn k d).1.schema.outline.everyField := hf
      exact .inl (mem_fields.mpr (.inl (hschema ▸ hf)))
    · rcases List.mem_or_eq_of_mem_set hk' with hold | rfl
      · exact .inl (mem_fields.mpr (.inr ⟨k', hold, hf⟩))
      · rcases fields_declareIn hf with hold | hgives
        · exact .inl (mem_fields.mpr (.inr ⟨k, List.mem_of_getElem? hk, hold⟩))
        · exact .inr ⟨_, List.mem_singleton_self _, hgives⟩

theorem fields_finish (s : Session) : (step (.finish 0) s).fields ⊆ s.fields := by
  obtain ⟨b, _ | ⟨k, ks⟩⟩ := s
  · exact List.Subset.refl _
  · intro f hf
    rcases mem_fields.mp hf with hf | ⟨k', hk', hf⟩
    · rcases (Schema.everyField_withGroup b.schema k.group f).mp hf with hf | hf
      · exact mem_fields.mpr (.inl hf)
      · exact mem_fields.mpr (.inr ⟨k, List.mem_cons_self, hf⟩)
    · exact mem_fields.mpr (.inr ⟨k', List.mem_cons_of_mem k hk', hf⟩)

theorem fields_abandon (s : Session) : (step (.abandon 0) s).fields ⊆ s.fields := by
  intro f hf
  rcases mem_fields.mp hf with hf | ⟨k, hk, hf⟩
  · exact mem_fields.mpr (.inl hf)
  · exact mem_fields.mpr (.inr ⟨k, List.mem_of_mem_eraseIdx hk, hf⟩)

mutual

/-- All that a statement adds to a session are fields that its declarations give, each with the source that
it names or else the one of the block that it counts for. -/
theorem adds_run (x : Statement) (s : Session) :
    Adds s (x.run s).1 (x.declared s.builder.source s.opened) := by
  cases x with
  | field d => exact adds_perform fun f => everyField_addField
  | nested d many child =>
    refine adds_perform fun f hf => ?_
    rw [Call.run] at hf
    rcases hchild : child.handOver with ⟨fault | handed, es⟩ <;> rw [hchild] at hf
    · exact .inl hf
    · exact (everyField_addNested hf).imp_right fun hgives => ⟨hgives.name, hgives.source⟩
  | other c h =>
    have hsame : (s.perform c).1.fields = s.fields := fields_perform_other h
    exact .of_subset fun f hf => hsame ▸ hf
  | block source body =>
    rw [run, declared]
    cases Source.ofValue? source with
    | error fault => exact .of_subset (List.Subset.refl _)
    | ok inner => exact adds_runAll body (step (.turn inner) s)
  | group trigger value body =>
    have hbody := adds_runAll body (step (.enter trigger value) s)
    rw [run, declared]
    rcases hrun : runAll body (step (.enter trigger value) s) with ⟨s', _ | fault⟩ <;>
      rw [hrun] at hbody
    · intro f hf
      exact hbody f (fields_finish s' hf)
    · intro f hf
      exact hbody f (fields_abandon s' hf)
  | member i d => exact adds_declare s i d
  | raise fault => exact .of_subset (List.Subset.refl _)
  | attempt body rescue =>
    have hbody := adds_runAll body s
    have hsame := sameSources_runAll body s
    rw [run, declared]
    rcases hrun : runAll body s with ⟨s', _ | fault⟩ <;> rw [hrun] at hbody hsame
    · exact hbody.mono (List.subset_append_left _ _)
    · have hrescue := adds_runAll rescue s'
      rw [hsame.1, hsame.2] at hrescue
      exact hbody.trans hrescue

theorem adds_runAll (xs : List Statement) (s : Session) :
    Adds s (runAll xs s).1 (declaredAll s.builder.source s.opened xs) := by
  cases xs with
  | nil => exact .of_subset (List.Subset.refl _)
  | cons x xs =>
    have hfirst := adds_run x s
    have hsame := sameSources_run x s
    rw [runAll, declaredAll]
    rcases hrun : x.run s with ⟨s', _ | fault⟩ <;> rw [hrun] at hfirst hsame
    · have hrest := adds_runAll xs s'
      rw [hsame.1, hsame.2] at hrest
      exact hfirst.trans hrest
    · exact hfirst.mono (List.subset_append_left _ _)

end

theorem source_start {options : BlueprintOptions} {b : Builder} {es : List Event}
    (h : options.start = (.ok b, es)) : b.source = .body := by
  unfold BlueprintOptions.start at h
  split at h
  · cases h
  · obtain ⟨kind, -, h⟩ := exists_ok_of_bind (Prod.mk.inj h).1
    obtain ⟨unknown, -, h⟩ := exists_ok_of_bind h
    rw [← Except.ok.inj h]

/-- What blocks for sources have to do with the fields that a program declares. The sources for later fields
are in the end what they were; a new field has the source that its declaration names, or else that of the
block that it counts for; and the program does in every respect what it does if all declarations name
these sources. A program that has only just begun stands in no block, where fields are read from the body;
and calls are programs. -/
structure Scopes (body : List Statement) (s : Session) : Prop where
  restored : (runAll body s).1.builder.source = s.builder.source
  opened : (runAll body s).1.opened = s.opened
  added : ∀ f ∈ (runAll body s).1.fields, f ∈ s.fields ∨
    ∃ p ∈ declaredAll s.builder.source s.opened body, p.1.Gives p.2 f
  spelled : ∀ t, runAll (spelledOutAll s.builder.source s.opened body) (s.placed t) =
    ((runAll body s).1.placed t, (runAll body s).2)
  outside : ∀ (options : BlueprintOptions) (es : List Event), options.start = (.ok s.builder, es) →
    s.builder.source = .body
  calls : ∀ cs, body = ofCalls cs → runAll body s =
    (⟨(Call.runAll cs s.builder).1, s.blocks⟩, (Call.runAll cs s.builder).2)

/-- Whatever fails on the way, each declaration counts for the innermost block around it, a declaration
in a group for the one around the group, and behind a block all is as it was before it. -/
theorem sources_scoped (body : List Statement) (s : Session) : Scopes body s where
  restored := (sameSources_runAll body s).1
  opened := (sameSources_runAll body s).2
  added := adds_runAll body s
  spelled := runAll_spelledOutAll body s
  outside _ _ := source_start
  calls cs h := h ▸ runAll_ofCalls cs s

/-- A picture with its caption from a form. Of the two fields from the path the second is refused, which
ends the block and all that it is attempted with. -/
def uploadStatements : List Statement :=
  [.field (.plain "title" "str"),
    .block (.text "form")
      [.field (.plain "caption" "str"),
        .attempt
          [.group "kind" (some (.text "image"))
            [.block (.text "query") [.member 0 (.plain "width" "int"), .field (.plain "page" "int")],
              .member 0 { FieldDecl.plain "token" "str" with source := some (.text "header") }],
            .block (.text "path") [.field (.plain "id" "int"), .field (.plain "caption" "str")],
            .field (.plain "size" "int")]
          [],
        .field (.plain "alt" "str")],
    .field (.plain "note" "str")]

theorem sources_scoped_upload : Scopes uploadStatements ⟨Session.fresh, []⟩ ∧
    ((runAll uploadStatements ⟨Session.fresh, []⟩).1.fields.map fun f => (f.name, f.source)) =
      [("title", .body), ("caption", .form), ("page", .query), ("id", .path), ("alt", .form),
        ("note", .body), ("width", .form), ("token", .header)] :=
  ⟨sources_scoped _ _, by decide +kernel⟩

end Statement

end Intake
