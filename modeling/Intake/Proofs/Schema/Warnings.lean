import Intake.Proofs.Coercion.Losses
import Intake.Proofs.Run.Notices
import Intake.Proofs.Schema.Nesting

namespace Intake

open Coercion

namespace Schema

variable {s : Schema} {f : Field} {sent data : Table Value} {outcome : Outcome (Table Value)}
  {ns : List Notice}

/-- What a field of a schema tells about its part of a payload; a field with a nested schema is looked at
as a container. -/
def Tells (s : Schema) (data : Table Value) (f : Field) (ns : List Notice) : Prop :=
  s.outline.Tells (Table.get? (nestedFields s.nested) f.name) data f ns

/-- The fields of the groups that apply to a payload. -/
def activeFields (s : Schema) (data : Table Value) : List Field :=
  Outline.groupFields (s.outline.activeGroups (s.outline.typedView (nestedFields s.nested) data))

/-- The notices of a run as they come, part by part: what the schema's fields tell, what its rules give,
what the fields of its groups tell, what nested schemas say and what is said about undeclared keys. -/
inductive Told (s : Schema) (data : Table Value) : List Notice → Prop where
  | mk {own groups : List (List Notice)} {said : List Notice} {rs : List Remarks}
      (hown : List.Forall₂ (s.Tells data) s.outline.fields own)
      (hsaid : said.Sublist (Validator.noticesAll s.outline.rules))
      (hgroups : List.Forall₂ (s.Tells data) (s.activeFields data) groups)
      (hrs : List.Forall₂ (fun b r => b.Says (Table.get? data b.name) r) s.nested rs) :
      Told s data (own.flatten ++ said ++ groups.flatten ++ (Remarks.all rs).notices ++
        (s.outline.unknownRemarks data).notices)

theorem notices_remarks {α : Type} (outcome : Outcome α) : outcome.remarks.notices = outcome.notices := by
  cases outcome <;> rfl

/-- No field of a group has a nested schema. -/
theorem tells_of_mem_activeFields (hs : s.WellNamed) (hf : f ∈ s.activeFields data)
    (h : s.outline.Tells none data f ns) : s.Tells data f ns := by
  have hname : f.name ∉ s.nested.map Binding.name := by
    intro hmem
    obtain ⟨b, hb, hname⟩ := List.mem_map.mp hmem
    exact Outline.name_of_mem_groupFields hs.outline (fun g hg => Outline.mem_activeGroups hg) hf
      (hname ▸ hs.declared b hb)
  rwa [Tells, get?_nestedFields_of_not_mem hname]

/-- A run that comes to an outcome gives the notices of its parts, each part in its place. -/
theorem told_of_validate (hs : s.WellNamed) (h : (s.validate (.map sent)).result = .ok outcome) :
    ∃ data, s.outline.resolveAliases sent = .ok data ∧ s.Told data outcome.notices := by
  obtain ⟨data, c, rs, hdata, hpart, hrs, hremarks⟩ := remarks_of_validate hs h
  obtain ⟨e, hfirst, hgroups⟩ := Step.andThen_eq_none_iff.mp hpart
  obtain ⟨own, said, hown, hsaid, he⟩ := Outline.tells_of_firstPart hfirst
  obtain ⟨groups, htold, hc⟩ := Outline.tells_of_groupFields hgroups
  rw [Outline.data_of_firstPart hfirst, Outline.activeGroups_of_firstPart hs.outline hfirst] at htold
  have hnotices : outcome.notices = own.flatten ++ said ++ groups.flatten ++ (Remarks.all rs).notices ++
      (s.outline.unknownRemarks data).notices := by
    rw [← notices_remarks, hremarks, ← he, ← hc]
    rfl
  have hplain : List.Forall₂ (s.Tells data) (s.activeFields data) groups :=
    ((List.forall₂_and_left _ _).mpr ⟨fun f hf => hf, htold⟩).imp
      fun f ns hf => tells_of_mem_activeFields hs hf.1 hf.2
  exact ⟨data, hdata, hnotices ▸ .mk hown hsaid hplain hrs⟩

variable {r : Conversions} {t type : String} {v : Value} {ms : List (Position × Value)}
  {rebuild : List (Position × Value) → Value}

/-- A plain field with a value tells which members the coercion of the value leaves out, one notice for
each in their order, before its validators have their say. -/
theorem tells_of_value (hplain : f.name ∉ s.nested.map Binding.name)
    (hv : Table.get? data f.name = some v) (hblank : v.isBlank = false) (hns : s.Tells data f ns) :
    s.outline.conversions.coerce f.type v = .refused ∨
      ∃ w ps said, s.outline.conversions.coerce f.type v = .accepted w ps ∧
        said.Sublist (Validator.noticesAll f.validators) ∧
          ns = ps.map (Outline.dropped f.name f.type) ++ said := by
  rw [Tells, get?_nestedFields_of_not_mem hplain] at hns
  cases hns with
  | @value v' w ps said hv' hs ht hsaid =>
    obtain rfl := Option.some.inj (hv.symm.trans hv')
    exact .inr ⟨w, ps, said, ht, hsaid, rfl⟩
  | nothing hnothing =>
    have hnull : v ≠ .null := by
      rintro rfl
      cases hblank
    exact .inl (hnothing v hv hnull (by simp [Outline.isSkipped, hblank]))

/-- Every member of a container is accounted for. Those that the element type takes are kept, in order and
in their places, and the places of all others are reported; the container fails where a member fails, and
only then. A run in which a plain field has such a value gives a notice for each place that is reported,
in order, and no other for that field but what its own validators have written in them. -/
theorem members_accounted (h : Container t type v ms rebuild)
    (hfree : r.find? (TypeName.canonical type) = none) :
    (taken (r.coerce t) ms).length + (leftOut (r.coerce t) ms).length = ms.length ∧
      ((∀ m ∈ ms, ∀ fault, r.coerce t m.2 ≠ .faulty fault) →
        r.coerce type v = .accepted (rebuild (taken (r.coerce t) ms)) (leftOut (r.coerce t) ms)) ∧
      (∀ fault, r.coerce type v = .faulty fault ↔ StopsAt (r.coerce t) ms fault) ∧
      ∀ (s : Schema) sent outcome, s.Built → s.outline.conversions = r →
        (s.validate (.map sent)).result = .ok outcome →
          ∃ data, s.outline.resolveAliases sent = .ok data ∧ s.Told data outcome.notices ∧
            ∀ (f : Field) ns, f.name ∉ s.nested.map Binding.name → f.type = type →
              Table.get? data f.name = some v → s.Tells data f ns →
                ∃ said, said.Sublist (Validator.noticesAll f.validators) ∧
                  ns = (leftOut (r.coerce t) ms).map (Outline.dropped f.name type) ++ said := by
  have hcoerce := Conversions.coerce_container h hfree
  refine ⟨length_taken_add_leftOut _ _, fun hsound => ?_, fun fault => ?_, ?_⟩
  · rw [hcoerce, collect_of_sound hsound]
  · rw [hcoerce, collect_eq_faulty_iff]
  · rintro s sent outcome hs rfl hout
    obtain ⟨data, hdata, htold⟩ := told_of_validate hs.wellNamed hout
    refine ⟨data, hdata, htold, ?_⟩
    rintro f ns hplain rfl hv hns
    rcases tells_of_value hplain hv h.not_isBlank hns with hrefused | ⟨w, ps, said, hw, hsaid, rfl⟩
    · exact absurd (hcoerce.symm.trans hrefused) collect_ne_refused
    · obtain ⟨-, -, rfl⟩ := collect_eq_accepted_iff.mp (hcoerce.symm.trans hw)
      exact ⟨said, hsaid, rfl⟩

def pollSchema : Schema :=
  .mk { Outline.plain "Poll" [.plain "counts" "list[int]"] with unknown := .warn } []

def pollBlueprint : Blueprint :=
  .mk { BlueprintOptions.plain "Poll" with unknown := some (.text "warn") }
    [.field (.plain "counts" "list[int]")]

theorem built_pollSchema : pollSchema.Built :=
  Blueprint.built_of_build (show pollBlueprint.build.1 = .ok pollSchema by cbv)

def counts : List Value := [.int 1, .text "x", .text "3", .null]

def poll : Table Value := [("counts", .list counts), ("note", .int 0)]

theorem members_accounted_poll :
    pollSchema.outline.conversions.coerce "list[int]" (.list counts) =
        .accepted (.list [.int 1, .int 3]) [.index 1, .index 3] ∧
      ∃ outcome data, (pollSchema.validate (.map poll)).result = .ok outcome ∧
        outcome.notices.map (·.path) = ["counts[1]", "counts[3]", "note"] ∧
        pollSchema.Told data outcome.notices ∧
        ∀ ns, pollSchema.Tells data (.plain "counts" "list[int]") ns →
          ns.map (·.path) = ["counts[1]", "counts[3]"] := by
  have hcontainer : Container "int" "list[int]" (.list counts) (indexed counts) ofItems :=
    .list (TypeTerm.canonical_name (.list .int)) counts
  have hfree : pollSchema.outline.conversions.find? (TypeName.canonical "list[int]") = none := rfl
  obtain ⟨-, hcoerce, -, hrun⟩ := members_accounted hcontainer hfree
  have hresults : counts.map (pollSchema.outline.conversions.coerce "int") =
      [.accepted (.int 1) [], .refused, .accepted (.int 3) [], .refused] := by cbv
  simp only [counts, List.map_cons, List.map_nil, List.cons.injEq, and_true] at hresults
  obtain ⟨hone, hword, hthree, hnull⟩ := hresults
  have htaken : taken (pollSchema.outline.conversions.coerce "int") (indexed counts) =
      [(.index 0, .int 1), (.index 2, .int 3)] := by
    simp [taken, indexed, counts, hone, hword, hthree, hnull, Coerced.value?]
  have hleft : leftOut (pollSchema.outline.conversions.coerce "int") (indexed counts) =
      [.index 1, .index 3] := by
    simp [leftOut, indexed, counts, hone, hword, hthree, hnull, Coerced.value?]
  have hsound : ∀ m ∈ indexed counts, ∀ fault,
      pollSchema.outline.conversions.coerce "int" m.2 ≠ .faulty fault := by
    simp [indexed, counts, hone, hword, hthree, hnull]
  have hpaths : (pollSchema.validate (.map poll)).result.toOption.map
      (fun outcome => outcome.notices.map (·.path)) = some ["counts[1]", "counts[3]", "note"] := by
    decide +kernel
  rw [hleft] at hrun
  refine ⟨by rw [hcoerce hsound, htaken, hleft]; rfl, ?_⟩
  cases h : (pollSchema.validate (.map poll)).result with
  | error f =>
    rw [h] at hpaths
    cases hpaths
  | ok outcome =>
    rw [h] at hpaths
    obtain ⟨data, hdata, htold, htells⟩ := hrun pollSchema poll outcome built_pollSchema rfl h
    refine ⟨outcome, data, rfl, Option.some.inj hpaths, htold, fun ns hns => ?_⟩
    obtain rfl : poll = data := Except.ok.inj hdata
    obtain ⟨said, hsaid, rfl⟩ := htells _ ns (by decide) rfl rfl hns
    rw [List.sublist_nil.mp hsaid]
    rfl

/-- A coercion reports what it leaves out one step deep, and nothing that is lost inside a member. So what
is not reported is not lost for the types in which no container stands in another, and for no others; and
a run gives notices for what the coercion reports. -/
theorem losses_reported_one_deep (hr : r.functions = []) (type : String) :
    (∀ v w ps, r.coerce type v = .accepted w ps →
      ps.map (fun p => [p]) = ((Target.ofName type).lost v).filter (·.length = 1) ∧
        ((Target.ofName type).Keeps v w ↔ (Target.ofName type).lost v = [])) ∧
      ((∀ v w, v.isContainer = true → r.coerce type v = .accepted w [] →
        (Target.ofName type).Keeps v w) ↔ (Target.ofName type).depth ≤ 1) ∧
      ∀ (s : Schema) sent outcome, s.Built → s.outline.conversions = r →
        (s.validate (.map sent)).result = .ok outcome →
          ∃ data, s.outline.resolveAliases sent = .ok data ∧ s.Told data outcome.notices ∧
            ∀ (f : Field) ns v w ps, f.name ∉ s.nested.map Binding.name → f.type = type →
              Table.get? data f.name = some v → v.isContainer = true →
              r.coerce type v = .accepted w ps → s.Tells data f ns →
                ∃ said, said.Sublist (Validator.noticesAll f.validators) ∧
                  ns = ps.map (Outline.dropped f.name type) ++ said := by
  have hrun (v : Value) : r.coerce type v = run [] (Target.ofName type) v := by
    rw [Conversions.coerce, hr]
  simp only [hrun]
  refine ⟨fun v w ps h => ⟨Target.places_of_run h, Target.keeps_iff_of_run h⟩, ⟨fun h => ?_, ?_⟩, ?_⟩
  · by_contra hdeep
    obtain ⟨v, w, hv, hw, hkeeps⟩ := Target.exists_silent_loss (not_le.mp hdeep)
    exact hkeeps (h v w hv hw)
  · exact fun hdepth v w _ h => Target.keeps_of_run hdepth h
  · rintro s sent outcome hs rfl hout
    obtain ⟨data, hdata, htold⟩ := told_of_validate hs.wellNamed hout
    refine ⟨data, hdata, htold, ?_⟩
    rintro f ns v w ps hplain rfl hv hcontainer hw hns
    have hblank : v.isBlank = false := Value.not_isBlank_of_isContainer hcontainer
    rcases tells_of_value hplain hv hblank hns with hrefused | ⟨w', ps', said, hw', hsaid, rfl⟩
    · rw [hrun, hw] at hrefused
      cases hrefused
    · rw [hrun, hw] at hw'
      obtain ⟨-, rfl⟩ := Coerced.accepted.inj hw'
      exact ⟨said, hsaid, rfl⟩

def matrix : Value := .list [.list [.text "1", .text "x"]]

def matrixSchema : Schema := .mk (.plain "Matrix" [.plain "rows" "list[list[int]]"]) []

/-- A row loses a member, and the run that gives the rest of it says nothing. -/
theorem losses_reported_one_deep_matrix :
    (matrixSchema.validate (.map [("rows", matrix)])).result =
        .ok (.success [("rows", .list [.list [.int 1]])] []) ∧
      matrixSchema.outline.conversions.coerce "list[list[int]]" matrix =
        .accepted (.list [.list [.int 1]]) [] ∧
      (Target.ofName "list[list[int]]").lost matrix = [[.index 0, .index 1]] ∧
      ¬(Target.ofName "list[list[int]]").Keeps matrix (.list [.list [.int 1]]) := by
  have hcoerce : matrixSchema.outline.conversions.coerce "list[list[int]]" matrix =
      .accepted (.list [.list [.int 1]]) [] := by cbv
  have hlost : (Target.ofName "list[list[int]]").lost matrix = [[.index 0, .index 1]] := by cbv
  obtain ⟨hreported, -, -⟩ :=
    losses_reported_one_deep (r := matrixSchema.outline.conversions) rfl "list[list[int]]"
  refine ⟨by cbv, hcoerce, hlost, ?_⟩
  rw [(hreported _ _ _ hcoerce).2, hlost]
  exact List.cons_ne_nil _ _

end Schema

end Intake
