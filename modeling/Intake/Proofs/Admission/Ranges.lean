import Intake.Proofs.Admission.Payloads
import Intake.Proofs.Coercion.Integers
import Intake.Proofs.Run.Bounds
import Intake.Proofs.Schema.Acceptance
import Intake.Proofs.Schema.Bindings

namespace Intake

open Context

namespace Binary64

theorem ofQuotient_ne_nan (negative : Bool) (num den : Nat) : ofQuotient negative num den ≠ .nan := by
  unfold ofQuotient
  dsimp only
  split_ifs <;> simp [zero]

theorem ofDecimal_ne_nan (negative : Bool) (coefficient : Nat) (scale : Int) :
    ofDecimal negative coefficient scale ≠ .nan := by
  unfold ofDecimal
  dsimp only
  split_ifs <;> simp [zero, ofQuotient_ne_nan]

end Binary64

namespace Coercion

variable {conversions : Table Conversion} {v w : Value} {ps : List Position} {x : Binary64}

theorem readFloat?_ne_nan {s : List Char} (h : readFloat? s = some x) : x ≠ .nan := by
  unfold readFloat? at h
  dsimp only at h
  split_ifs at h
  · cases h
  · rw [Option.bind_eq_bind, Option.bind_eq_some_iff] at h
    obtain ⟨exponent, -, h⟩ := h
    rw [← Option.some.inj h]
    exact Binary64.ofDecimal_ne_nan _ _ _

/-- A number is made into NaN out of NaN alone. -/
theorem toFloat?_eq_nan_iff (h : toFloat? v = some x) : x = .nan ↔ v = .float .nan := by
  cases v with
  | float y =>
    rw [Option.some.inj h]
    simp
  | int n =>
    refine iff_of_false ?_ (by simp)
    rintro rfl
    simp only [toFloat?, Binary64.ofInt?] at h
    split at h
    · cases h
    · exact absurd (Option.some.inj h) (Binary64.ofQuotient_ne_nan _ _ _)
  | text s =>
    refine iff_of_false ?_ (by simp)
    rw [toFloat?, Option.bind_eq_some_iff] at h
    obtain ⟨y, hy, h⟩ := h
    split_ifs at h
    exact Option.some.inj h ▸ readFloat?_ne_nan hy
  | _ => cases h

theorem run_float (hfree : Table.get? conversions "float" = none) (hv : v.isNull = false) :
    run conversions .float v = .ofOption ((toFloat? v).map .float) := by
  rw [run, hv, Target.name, hfree]
  rfl

end Coercion

namespace Conversions

variable {r : Conversions} {type : String} {v w : Value} {ps : List Position}

/-- What the types of numbers make of a value is a number, which is NaN if the value is. -/
theorem number_of_coerce (htype : type = "int" ∨ type = "float") (hfree : r.find? type = none)
    (h : r.coerce type v = .accepted w ps) :
    ∃ x, w = Value.ofNumber x ∧ (x = Number.nan ↔ v = .float .nan) := by
  have hv : v.isNull = false := by
    rw [← Bool.not_eq_true]
    intro hnull
    rw [coerce, Coercion.run.eq_def, if_pos hnull] at h
    cases h
  rcases htype with rfl | rfl
  · have htarget : Target.ofName "int" = .int := TypeTerm.ofName_name .int
    rw [coerce, htarget, Coercion.run_int hfree hv] at h
    cases hread : Coercion.toInt? Coercion.int64Low Coercion.int64High v with
    | none =>
      rw [hread] at h
      cases h
    | some n =>
      rw [hread] at h
      obtain ⟨rfl, -⟩ := Coerced.accepted.inj h
      refine ⟨.int n, rfl, iff_of_false (by simp [Number.nan]) ?_⟩
      rintro rfl
      cases hread
  · have htarget : Target.ofName "float" = .float := TypeTerm.ofName_name .float
    rw [coerce, htarget, Coercion.run_float hfree hv] at h
    cases hread : Coercion.toFloat? v with
    | none =>
      rw [hread] at h
      cases h
    | some x =>
      rw [hread] at h
      obtain ⟨rfl, -⟩ := Coerced.accepted.inj h
      refine ⟨.float x, rfl, ?_⟩
      rw [← Coercion.toFloat?_eq_nan_iff hread, Number.nan, Number.float.injEq]

end Conversions

namespace Schema

variable {s : Schema} {f : Field} {sent out : Table Value}

/-- What a success makes of a value that was sent for a field without a nested schema: the value in the
field's type, of which the keywords of the field find nothing to say. -/
theorem typed_of_yields (hs : s.WellNamed) (h : (s.validate (.map sent)).Yields out)
    (hf : f ∈ s.outline.fields) (hb : f.name ∉ s.nested.map Binding.name) :
    ∃ data, s.outline.resolveAliases sent = .ok data ∧
      ∀ v, Table.get? data f.name = some v → v ≠ .null →
        ∃ w ps, s.outline.conversions.coerce f.type v = .accepted w ps ∧
          (∀ k, Validator.constraint f.name k ∈ f.validators → k.IsKeyword → k.Admits w) ∧
          (s.keepsValue w = true → Table.get? out f.name = some w) := by
  obtain ⟨data, es, hdata, hfill, rfl⟩ := entries_of_yields hs h
  refine ⟨data, hdata, fun v hv hn => ?_⟩
  obtain ⟨o, bs⟩ := s
  obtain ⟨data', c, d, hdata', hfirst, -, -⟩ :=
    (Outline.yields_check_iff (Binding.growing_checkBindings bs)).mp h
  obtain rfl : data = data' := Except.ok.inj (hdata.symm.trans hdata')
  obtain ⟨c', d', hc', hthere, hp⟩ := passes_checkField_of_firstPart hfirst hf
  have hskip : ¬Outline.isSkipped f v = true := by
    rwa [Outline.isMissing, hc', hv] at hthere
  have hplain : Table.get? (nestedFields bs) f.name = none := get?_nestedFields_of_not_mem hb
  rw [hplain] at hp
  obtain ⟨w, ps, htyped, hvalidators⟩ := (Outline.passes_checkField_of_value (hc' ▸ hv) hn hskip).mp hp
  refine ⟨w, ps, htyped, fun k hmem hk => ?_, fun hkeep => ?_⟩
  · have hadmits := Validator.admits_of_passes_runAll hvalidators hmem hk
    rwa [Outline.fieldValue_enter] at hadmits
  · have hnames := nodup_names_fieldsFor hs data
    have hgives := hfill.gives hnames (List.mem_append_left _ hf)
    rw [hv] at hgives
    have hes : Table.get? es f.name = some w := by
      generalize Table.get? es f.name = w? at hgives
      cases hgives with
      | sent hbecomes => rw [hbecomes.unique hs (.typed hn hb htyped)]
    rw [List.filter_append, Table.get?_append, Table.get?_filter (hnames.sublist hfill.names_sublist), hes,
      Option.filter_some, if_pos hkeep, Option.some_or]

/-- A field with a nested schema is a container, and so no number. -/
theorem not_nested_of_number (hs : s.Built) (hf : f ∈ s.outline.fields)
    (htype : f.type = "int" ∨ f.type = "float") : f.name ∉ s.nested.map Binding.name := by
  intro hmem
  obtain ⟨b, hb, hname⟩ := List.mem_map.mp hmem
  have hcontainer := hs.housed.typed b hb f hf hname.symm
  have hnames : ∀ many, (Binding.type many).name ≠ "int" ∧ (Binding.type many).name ≠ "float" := by decide
  rcases htype with htype | htype <;> rw [htype] at hcontainer
  · exact (hnames b.many).1 hcontainer.symm
  · exact (hnames b.many).2 hcontainer.symm

end Schema

namespace Admission

variable {a : Admission} {p : Payload} {contentType : Option String} {f : Field} {min max : Option Number}
  {k : Constraint} {out : Table Value} {ns : List Notice}

/-- The value that an accepted document gives to a field with bounds is a number. It is between the bounds
just where what was sent for the field is not NaN, and NaN itself where it is. -/
theorem bounds_hold_unless_nan (hs : a.schema.Built)
    (hjson : a.parsers.chosen? p contentType = some .json)
    (h : (a.check (some p) contentType).result = .ok (.success out ns))
    (hf : f ∈ a.schema.outline.fields) (htype : f.type = "int" ∨ f.type = "float")
    (hfree : a.schema.outline.conversions.find? f.type = none)
    (hk : Constraint.range? f.name min max = .ok k) (hrange : .constraint f.name k ∈ f.validators)
    (hmin : min ≠ some Number.nan) (hmax : max ≠ some Number.nan) :
    ∃ read sent data, Json.readBody p contentType = .ok read ∧ a.cleaned read = .map sent ∧
      a.schema.outline.resolveAliases sent = .ok data ∧
      ∀ v, Table.get? data f.name = some v → v ≠ .null →
        ∃ x, Table.get? out f.name = some (Value.ofNumber x) ∧
          (x = Number.nan ↔ v = .float .nan) ∧ (Number.Between min max x ↔ v ≠ .float .nan) := by
  have hread := (Parsers.read_some a.parsers p contentType).symm
  rw [hjson] at hread
  cases hbody : Json.readBody p contentType with
  | error fault =>
    have hfault : (a.parsers.read (some p) contentType).result = .error fault := by
      rw [← hread]
      exact hbody
    cases fault with
    | payload fault =>
      rw [check_of_payload hfault] at h
      cases h
    | _ =>
      rw [check_of_escapes ⟨hfault, id⟩] at h
      cases h
  | ok read =>
    have hok : (a.parsers.read (some p) contentType).result = .ok read := by
      rw [← hread]
      exact hbody
    rw [check_of_read hok] at h
    have hmap : ∃ sent, a.cleaned read = .map sent := by
      by_contra hnot
      exact Schema.not_yields_of_not_map (fun es hes => hnot ⟨es, hes⟩) ⟨ns, h⟩
    obtain ⟨sent, hsent⟩ := hmap
    have hyields : (a.schema.validate (.map sent)).Yields out := ⟨ns, hsent ▸ h⟩
    have hb : f.name ∉ a.schema.nested.map Binding.name := Schema.not_nested_of_number hs hf htype
    obtain ⟨data, hdata, htyped⟩ := Schema.typed_of_yields hs.wellNamed hyields hf hb
    refine ⟨read, sent, data, rfl, hsent, hdata, fun v hv hn => ?_⟩
    obtain ⟨w, ps, hcoerce, hadmits, hout⟩ := htyped v hv hn
    obtain ⟨x, rfl, hnan⟩ := Conversions.number_of_coerce htype hfree hcoerce
    have hkeep : a.schema.keepsValue (Value.ofNumber x) = true := by
      cases x <;> simp [Schema.keepsValue, Value.ofNumber, Value.isNull, Outline.isEmptyList]
    refine ⟨x, hout hkeep, hnan, ?_⟩
    obtain ⟨hsome, rfl⟩ := Constraint.bounded_of_range? hk
    by_cases hx : x = Number.nan
    · subst hx
      exact iff_of_false (Number.not_between_nan hsome) (not_not.mpr (hnan.mp rfl))
    · rw [← Number.within_iff_between hmin hmax hx]
      refine iff_of_true ?_ (mt hnan.mpr hx)
      exact Constraint.within_of_admits (hadmits _ hrange trivial)

/-- A single number, from zero to fourteen. -/
def acidityBlueprint : Blueprint :=
  .mk (.plain "Acidity") [.field { FieldDecl.plain "ph" "float" with min := .int 0, max := .int 14 }]

def acidityField : Field :=
  { Field.plain "ph" "float" with validators := [.constraint "ph" (.range (some (.int 0)) (some (.int 14)))] }

def aciditySchema : Schema := .mk (.plain "Acidity" [acidityField]) []

theorem built_aciditySchema : aciditySchema.Built :=
  Blueprint.built_of_build (show acidityBlueprint.build.1 = .ok aciditySchema by cbv)

def acidity : Admission := ⟨aciditySchema, Parsers.standard, none⟩

/-- A document in which the number is NaN. -/
def unmeasured : Payload := .text "\x7b\"ph\": NaN\x7d"

theorem bounds_hold_unless_nan_acidity :
    ∃ out x, (acidity.check (some unmeasured) (some "application/json")).result = .ok (.success out []) ∧
      Table.get? out "ph" = some (Value.ofNumber x) ∧
      x = Number.nan ∧ ¬Number.Between (some (.int 0)) (some (.int 14)) x := by
  have hjson : acidity.parsers.chosen? unmeasured (some "application/json") = some .json := by
    with_unfolding_all rfl
  have hbody : Json.readBody unmeasured (some "application/json") = .ok [("ph", .float .nan)] := by
    with_unfolding_all rfl
  have hread : (acidity.parsers.read (some unmeasured) (some "application/json")).result =
      .ok [("ph", .float .nan)] := by
    rw [Parsers.read_some, hjson]
    exact hbody
  have hvalid : (acidity.checkData [("ph", .float .nan)]).result =
      .ok (.success [("ph", .float .nan)] []) := by
    with_unfolding_all rfl
  have h := (check_of_read hread).trans hvalid
  have hk : Constraint.range? "ph" (some (.int 0)) (some (.int 14)) =
      .ok (.range (some (.int 0)) (some (.int 14))) := rfl
  obtain ⟨read, sent, data, hbody', hsent, hdata, hbounds⟩ :=
    bounds_hold_unless_nan built_aciditySchema hjson h (f := acidityField) List.mem_cons_self (.inr rfl) rfl
      hk List.mem_cons_self (by decide) (by decide)
  obtain rfl := Except.ok.inj (hbody.symm.trans hbody')
  have hresolved : aciditySchema.outline.resolveAliases [("ph", .float .nan)] =
      .ok [("ph", .float .nan)] := by
    cbv
  obtain rfl := Value.map.inj (hsent.symm.trans rfl)
  obtain rfl := Except.ok.inj (hdata.symm.trans hresolved)
  obtain ⟨x, hx, hnan, hbetween⟩ := hbounds (.float .nan) rfl (by simp)
  exact ⟨_, x, h, hx, hnan.mpr rfl, fun hin => hbetween.mp hin rfl⟩

end Admission

end Intake
