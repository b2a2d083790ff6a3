import Intake.Proofs.Schema.Extension

namespace Intake

namespace Call

/-- A call that is not a block of further calls. -/
def IsSingle : Call → Prop
  | .block _ _ => False
  | _ => True

/-- A call that declares a field of the schema under a name. -/
inductive Declares (name : String) : Call → Prop where
  | field {d : FieldDecl} (h : d.name = name) : Declares name (.field d)
  | nested {d : FieldDecl} (many : Bool) (child : Child) (h : d.name = name) :
      Declares name (.nested d many child)

/-- A call for a nested field that is given no schema, though its field can be declared. -/
inductive Misnests (b : Builder) (d : FieldDecl) : Call → Prop where
  | mk {many : Bool} (kind : String) (h : (b.addField (d.nesting many)).2 = none) :
      Misnests b d (.nested d many (.other kind))

end Call

theorem Schema.withField_ne (s : Schema) (f : Field) : s.withField f ≠ s := by
  intro h
  have hlength := congrArg (fun s : Schema => s.outline.fields.length) h
  simp [Schema.withField, Schema.outline] at hlength

namespace Builder

variable {b b' : Builder} {c : Call} {d : FieldDecl} {f : Field} {many : Bool} {child : Handed}
  {fault : Fault}

theorem log_nil (b : Builder) : b.log [] = b := by
  rw [log, List.append_nil]

theorem groupFields_eq_withEvents (b : Builder) (declared : List Field) (ds : List FieldDecl) :
    ∃ es, (b.groupFields declared ds).1 = b.withEvents es := by
  induction ds generalizing b declared with
  | nil => exact ⟨b.events, rfl⟩
  | cons d ds ih =>
    obtain ⟨es, hes⟩ := declare_eq_withEvents b (b.hasField d.name || declared.any (·.name = d.name)) d
    rw [groupFields]
    rcases hdecl : b.declare (b.hasField d.name || declared.any (·.name = d.name)) d with ⟨b', e | f⟩
    · rw [hdecl] at hes
      exact ⟨es, hes⟩
    · rw [hdecl] at hes
      obtain rfl : b' = b.withEvents es := hes
      exact ih (b.withEvents es) (declared ++ [f])

theorem withEvents_of_addField (h : b.addField d = (b', some fault)) : ∃ es, b' = b.withEvents es := by
  obtain ⟨es, hes⟩ := declare_eq_withEvents b (b.hasField d.name || b.hasGroupField d.name) d
  unfold addField at h
  rcases hdecl : b.declare (b.hasField d.name || b.hasGroupField d.name) d with ⟨b'', e | f⟩
  · rw [hdecl] at h hes
    exact ⟨es, (Prod.mk.inj h).1 ▸ hes⟩
  · rw [hdecl] at h
    cases h

theorem withEvents_of_addGroup {trigger : String} {value : Option Value} {ds : List FieldDecl}
    (h : b.addGroup trigger value ds = (b', some fault)) : ∃ es, b' = b.withEvents es := by
  obtain ⟨es, hes⟩ := groupFields_eq_withEvents b [] ds
  unfold addGroup at h
  rcases hgroup : b.groupFields [] ds with ⟨b'', e | fs⟩
  · rw [hgroup] at h hes
    exact ⟨es, (Prod.mk.inj h).1 ▸ hes⟩
  · rw [hgroup] at h
    cases h

theorem declare_withEvents (b : Builder) (isTaken : Bool) (d : FieldDecl) (es : List Event) :
    ∃ es', (b.withEvents es).declare isTaken d =
      ((b.declare isTaken d).1.withEvents es', (b.declare isTaken d).2) := by
  unfold declare
  split
  · exact ⟨es, rfl⟩
  · next extra _ =>
    by_cases ht : isTaken = true
    · rw [if_pos ht, if_pos ht]
      exact ⟨es, rfl⟩
    · rw [if_neg ht, if_neg ht]
      exact ⟨_, rfl⟩

theorem addField_withEvents (b : Builder) (d : FieldDecl) (es : List Event) :
    ∃ es', (b.withEvents es).addField d = ((b.addField d).1.withEvents es', (b.addField d).2) := by
  obtain ⟨es', h⟩ := declare_withEvents b (b.hasField d.name || b.hasGroupField d.name) d es
  have h : (b.withEvents es).declare ((b.withEvents es).hasField d.name ||
    (b.withEvents es).hasGroupField d.name) d = _ := h
  unfold addField
  rw [h]
  rcases b.declare (b.hasField d.name || b.hasGroupField d.name) d with ⟨b', e | f⟩
  · exact ⟨es', rfl⟩
  · exact ⟨es', rfl⟩

theorem groupFields_withEvents (b : Builder) (declared : List Field) (ds : List FieldDecl)
    (es : List Event) :
    ∃ es', (b.withEvents es).groupFields declared ds =
      ((b.groupFields declared ds).1.withEvents es', (b.groupFields declared ds).2) := by
  induction ds generalizing b declared es with
  | nil => exact ⟨es, rfl⟩
  | cons d ds ih =>
    obtain ⟨es', h⟩ := declare_withEvents b (b.hasField d.name || declared.any (·.name = d.name)) d es
    have h : (b.withEvents es).declare ((b.withEvents es).hasField d.name ||
      declared.any (·.name = d.name)) d = _ := h
    rw [groupFields, groupFields, h]
    rcases b.declare (b.hasField d.name || declared.any (·.name = d.name)) d with ⟨b', e | f⟩
    · exact ⟨es', rfl⟩
    · exact ih b' (declared ++ [f]) es'

theorem addGroup_withEvents (b : Builder) (trigger : String) (value : Option Value)
    (ds : List FieldDecl) (es : List Event) :
    ∃ es', (b.withEvents es).addGroup trigger value ds =
      ((b.addGroup trigger value ds).1.withEvents es', (b.addGroup trigger value ds).2) := by
  obtain ⟨es', h⟩ := groupFields_withEvents b [] ds es
  unfold addGroup
  rw [h]
  rcases b.groupFields [] ds with ⟨b', e | fs⟩
  · exact ⟨es', rfl⟩
  · exact ⟨es', rfl⟩

theorem addNested_withEvents (b : Builder) (d : FieldDecl) (many : Bool) (child : Handed)
    (es : List Event) :
    ∃ es', (b.withEvents es).addNested d many child =
      ((b.addNested d many child).1.withEvents es', (b.addNested d many child).2) := by
  unfold addNested
  dsimp only
  generalize ({ d with type := .spelled (if many then "list[any]" else "dict[any]") } : FieldDecl) = d'
  obtain ⟨es', h⟩ := addField_withEvents b d' es
  rw [h]
  rcases b.addField d' with ⟨b', _ | e⟩
  · cases child.schema with
    | error e => exact ⟨es', rfl⟩
    | ok s => exact ⟨_, rfl⟩
  · exact ⟨es', rfl⟩

mutual

/-- What a call does to a builder does not depend on what was said to the log before. -/
theorem run_withEvents (c : Call) (b : Builder) (es : List Event) :
    ∃ es', c.run (b.withEvents es) = ((c.run b).1.withEvents es', (c.run b).2) := by
  cases c with
  | field d => exact addField_withEvents b d es
  | nested d many child =>
    rw [Call.run, Call.run]
    rcases child.handOver with ⟨e | handed, late⟩
    · exact ⟨_, rfl⟩
    · obtain ⟨es', h⟩ := addNested_withEvents (b.log late) d many handed (es ++ late)
      exact ⟨es', h⟩
  | group trigger value ds => exact addGroup_withEvents b trigger value ds es
  | block source calls =>
    rw [Call.run, Call.run]
    cases Source.ofValue? source with
    | error e => exact ⟨es, rfl⟩
    | ok s =>
      obtain ⟨es', h⟩ := runAll_withEvents calls { b with source := s } es
      have h : Call.runAll calls { b.withEvents es with source := s } = _ := h
      refine ⟨es', ?_⟩
      dsimp only
      rw [h]
      rfl
  | rule spec =>
    rw [Call.run, Call.run, addRule, addRule]
    cases spec.build with
    | error e => exact ⟨es, rfl⟩
    | ok v => exact ⟨es, rfl⟩
  | contentType types => exact ⟨es, rfl⟩
  | validatesTo success failure => exact ⟨es, rfl⟩
  | unknownFields policy =>
    rw [Call.run, Call.run, setUnknown, setUnknown]
    cases UnknownFields.ofValue? policy with
    | error e => exact ⟨es, rfl⟩
    | ok p => exact ⟨es, rfl⟩

theorem runAll_withEvents (cs : List Call) (b : Builder) (es : List Event) :
    ∃ es', Call.runAll cs (b.withEvents es) = ((Call.runAll cs b).1.withEvents es', (Call.runAll cs b).2) := by
  cases cs with
  | nil => exact ⟨es, rfl⟩
  | cons c rest =>
    obtain ⟨es', h⟩ := run_withEvents c b es
    rw [Call.runAll, Call.runAll, h]
    rcases c.run b with ⟨b', _ | e⟩
    · exact runAll_withEvents rest b' es'
    · exact ⟨es', rfl⟩

end

/-- Only what is no schema at all reaches a builder in the place of one. -/
theorem other_of_handOver {given : Child} {es : List Event} {e : Fault}
    (h : given.handOver = (.ok child, es)) (he : child.schema = .error e) :
    ∃ kind, given = .other kind := by
  cases given with
  | other kind => exact ⟨kind, rfl⟩
  | blueprint blueprint isFinished =>
    rw [Child.handOver] at h
    rcases hd : blueprint.draft with ⟨f | b', es'⟩
    · rw [hd] at h
      cases h
    · rw [hd] at h
      cases isFinished <;>
      · obtain rfl := Except.ok.inj (Prod.mk.inj h).1
        cases he

/-- A call that fails has done nothing but speak to the log, unless it declared a field for a nested
schema that is none. -/
theorem withEvents_of_failed (hc : c.IsSingle) (hm : ∀ d, ¬c.Misnests b d)
    (h : c.run b = (b', some fault)) : ∃ es, b' = b.withEvents es := by
  cases c with
  | field d => exact withEvents_of_addField h
  | nested d many given =>
    rw [Call.run] at h
    rcases hgiven : given.handOver with ⟨e | child, es⟩
    · rw [hgiven] at h
      exact ⟨b.events ++ es, (Prod.mk.inj h).1.symm⟩
    · rw [hgiven] at h
      dsimp only at h
      rcases addNested_cases (b.log es) d many child with
        ⟨b'', e, hadd, hrun⟩ | ⟨b'', hadd, ⟨e, he, -⟩ | ⟨s, -, hdone, -⟩⟩
      · obtain rfl := (Prod.mk.inj (hrun.symm.trans h)).1
        exact withEvents_of_addField (b := b.log es) hadd
      · obtain ⟨kind, rfl⟩ := other_of_handOver hgiven he
        obtain rfl := (Prod.mk.inj hgiven).2
        rw [log_nil] at hadd
        exact absurd (.mk kind (congrArg Prod.snd hadd)) (hm d)
      · rw [h] at hdone
        cases hdone
  | group trigger value ds => exact withEvents_of_addGroup h
  | block source calls => exact hc.elim
  | rule spec =>
    rw [Call.run, addRule] at h
    split at h
    · exact ⟨b.events, (Prod.mk.inj h).1.symm⟩
    · cases h
  | contentType types => cases h
  | validatesTo success failure => cases h
  | unknownFields policy =>
    rw [Call.run, setUnknown] at h
    split at h
    · exact ⟨b.events, (Prod.mk.inj h).1.symm⟩
    · cases h

/-- What is given in the place of a schema is refused, and the field for it stays. -/
theorem withField_of_misnests (hm : c.Misnests b d) (h : c.run b = (b', some fault)) :
    ∃ f : Field, f.name = d.name ∧ b'.schema = b.schema.withField f := by
  cases hm with | @mk many kind hadd =>
  rw [Call.run, Child.handOver] at h
  dsimp only at h
  rw [log_nil] at h
  rcases addField_cases b (d.nesting many) with ⟨-, hf⟩ | ⟨f, hname, -, -, -, hschema, -⟩
  · exact absurd hadd hf
  · refine ⟨f, hname, ?_⟩
    rcases addNested_cases b d many ⟨.error (.definition (.notASchema kind)), []⟩ with
      ⟨b'', e, hfail, -⟩ | ⟨b'', hdecl, ⟨e, -, hrun⟩ | ⟨s, -, hdone, -⟩⟩
    · rw [hfail] at hadd
      cases hadd
    · rw [hdecl] at hschema
      obtain rfl := (Prod.mk.inj (hrun.symm.trans h)).1
      exact hschema
    · rw [h] at hdone
      cases hdone

theorem addField_of_taken (h : d.name ∈ b.schema.fieldNames) : (b.addField d).2 ≠ none := by
  rcases addField_cases b d with ⟨-, hf⟩ | ⟨f, -, -, hfield, -⟩
  · exact hf
  · exact absurd h ((hasField_eq_false_iff d.name).mp hfield)

theorem run_of_taken {name : String} (h : name ∈ b.schema.fieldNames) (hc : c.Declares name) :
    (c.run b).2 ≠ none := by
  cases hc with
  | field hd => exact addField_of_taken (hd ▸ h)
  | @nested d many given hd =>
    rw [Call.run]
    rcases given.handOver with ⟨e | child, es⟩
    · exact Option.some_ne_none e
    · have htaken : (d.nesting many).name ∈ (b.log es).schema.fieldNames := hd ▸ h
      dsimp only
      rcases addNested_cases (b.log es) d many child with ⟨b', e, -, hrun⟩ | ⟨b', hadd, -⟩
      · rw [hrun]
        exact Option.some_ne_none e
      · exact absurd (congrArg Prod.snd hadd) (addField_of_taken htaken)

/-- A call that fails leaves the schema as it was, and whatever is called next comes to what it would
have come to without the attempt. The one exception is a nested field that is given no schema: the field
stays, so the schema has changed, and every further call for a field of that name fails. -/
theorem failed_call_undone (b : Builder) (hc : c.IsSingle) (h : c.run b = (b', some fault)) :
    ((∀ d, ¬c.Misnests b d) → b'.schema = b.schema ∧ ∀ calls,
      (Call.runAll calls b').1.schema = (Call.runAll calls b).1.schema ∧
        (Call.runAll calls b').2 = (Call.runAll calls b).2) ∧
    ∀ d, c.Misnests b d → (∃ f : Field, f.name = d.name ∧ b'.schema = b.schema.withField f) ∧
      b'.schema ≠ b.schema ∧ ∀ c' : Call, c'.Declares d.name → (c'.run b').2 ≠ none := by
  constructor
  · intro hm
    obtain ⟨es, rfl⟩ := withEvents_of_failed hc hm h
    refine ⟨rfl, fun calls => ?_⟩
    obtain ⟨es', hrun⟩ := runAll_withEvents calls b es
    rw [hrun]
    exact ⟨rfl, rfl⟩
  · intro d hm
    obtain ⟨f, hname, hschema⟩ := withField_of_misnests hm h
    refine ⟨⟨f, hname, hschema⟩, hschema ▸ Schema.withField_ne b.schema f, fun c' hc' => ?_⟩
    apply run_of_taken _ hc'
    rw [hschema, Schema.fieldNames_withField, ← hname]
    exact List.mem_append_right _ (List.mem_singleton_self _)

/-- A builder in which a city is declared. -/
def withCity : Builder :=
  { name := "S", kind := .request, unknown := .ignore, stripNulls := false, stripEmptyLists := false,
    conversions := ⟨[], true⟩, fields := [.plain "city" "str"], rules := [], groups := [],
    nested := [], contentTypes := [], successType := none, failureType := none, source := .body,
    events := [] }

/-- A group that declares a field of its own and then the city again. -/
def cityGroup : Call := .group "kind" none [.plain "zip" "str", .plain "city" "str"]

/-- An address that is to follow a number, and the same with a schema. -/
def addressBy (child : Child) : Call := .nested (.plain "address" "any") false child

theorem failed_call_undone_address :
    (∃ b', cityGroup.run withCity = (b', some (.definition (.duplicateField "city"))) ∧
      b'.schema = withCity.schema) ∧
    ∃ b' fault, (addressBy (.other "int")).run withCity = (b', some fault) ∧
      b'.schema ≠ withCity.schema ∧
      ((addressBy (.blueprint (.mk (.plain "Address") []) true)).run b').2 ≠ none := by
  have hgroup : cityGroup.run withCity = (_, some (.definition (.duplicateField "city"))) :=
    Prod.ext rfl (by cbv)
  obtain ⟨fault, hfault⟩ : ∃ fault, ((addressBy (.other "int")).run withCity).2 = some fault :=
    Option.isSome_iff_exists.mp (by decide +kernel)
  have hnested : (addressBy (.other "int")).run withCity = (_, some fault) := Prod.ext rfl hfault
  have hfree : (withCity.addField ((FieldDecl.plain "address" "any").nesting false)).2 = none :=
    Option.isNone_iff_eq_none.mp (by decide +kernel)
  have hsingle : cityGroup.IsSingle ∧ (addressBy (.other "int")).IsSingle := ⟨trivial, trivial⟩
  have hnest (d : FieldDecl) : ¬cityGroup.Misnests withCity d := by
    intro h
    cases h
  obtain ⟨hkept, -⟩ := failed_call_undone withCity hsingle.1 hgroup
  obtain ⟨-, hstays⟩ := failed_call_undone withCity hsingle.2 hnested
  obtain ⟨-, hchanged, hretry⟩ := hstays _ (.mk "int" hfree)
  exact ⟨⟨_, hgroup, (hkept hnest).1⟩, _, fault, hnested, hchanged,
    hretry _ (.nested false _ rfl)⟩

end Builder

end Intake
