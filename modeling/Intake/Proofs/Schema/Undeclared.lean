import Intake.Proofs.Schema.Cleaned
import Intake.Proofs.Schema.Resolution

namespace Intake

open Context

/-- What is said of a key that no field declares where such keys are forbidden. -/
def Issue.unexpected (k : String) : Issue :=
  .custom k ("Field '" ++ k ++ "' is not allowed") Code.unexpectedField.text none

/-- What is said of a key that no field of a schema declares where that is worth a warning. -/
def Notice.undeclared (schema k : String) : Notice :=
  ⟨k, "Field '" ++ k ++ "' is not defined in schema " ++ schema, Code.unknownField.text⟩

namespace UnknownFields

def issues (p : UnknownFields) (keys : List String) : List Issue :=
  if p = .forbid then keys.map .unexpected else []

def notices (p : UnknownFields) (schema : String) (keys : List String) : List Notice :=
  if p = .warn then keys.map (.undeclared schema) else []

end UnknownFields

theorem Outcome.settle_eq_success_iff {α : Type} {is : List Issue} {v w : α} {raw : Value}
    {ns ns' : List Notice} :
    settle is v raw ns = .success w ns' ↔ is = [] ∧ v = w ∧ ns = ns' := by
  unfold settle
  by_cases h : is = [] <;> simp [h]

namespace Outline

variable {o : Outline} {nf : Table Bool} {nested : Step} {active : List Group} {c d : Context}
  {data sent : Table Value}

/-- A run up to the keys that are not declared: the groups that apply and the state that is reached,
unless a fault stops it. -/
def declaredPart (o : Outline) (nf : Table Bool) (nested : Step) (data : Table Value) :
    Except Fault (List Group × Context) :=
  match o.firstPart nf (Context.start data) with
  | (_, some f) => .error f
  | (c, none) =>
    match Step.andThen (Step.all ((groupFields (o.activeGroups c)).map o.checkGroupField)) nested c with
    | (_, some f) => .error f
    | (d, none) => .ok (o.activeGroups c, d)

/-- The entries of a payload for declared fields, before any is stripped. -/
def declaredEntries (o : Outline) (active : List Group) (c : Context) : Table Value :=
  ((groupFields active).foldl
    (fun fs f => if fs.any (·.name = f.name) then fs else fs ++ [f]) o.fields).filterMap
      fun f => (outputValue? c f).map (f.name, ·)

theorem reportUnknown_eq (o : Outline) (c : Context) :
    o.reportUnknown c =
      ((c.addIssues (o.unknown.issues (o.unknownKeys c.data))).addNotices
        (o.unknown.notices o.name (o.unknownKeys c.data)), none) := by
  unfold reportUnknown UnknownFields.issues UnknownFields.notices addIssues addNotices
  cases o.unknown with
  | ignore | allow => simp
  | warn => simp [Notice.undeclared]
  | forbid => simp [Issue.unexpected]

/-- A run comes to what its part up to undeclared keys has found, and what there is to say of those. -/
theorem result_check (o : Outline) (nf : Table Bool) (nested : Step) (sent : Table Value) :
    (o.check nf nested (.map sent)).result =
      (o.resolveAliases sent).bind fun data =>
        (o.declaredPart nf nested data).map fun (active, c) =>
          .settle (c.issues ++ o.unknown.issues (o.unknownKeys c.data)) (o.output active c)
            (.map c.data) (c.notices ++ o.unknown.notices o.name (o.unknownKeys c.data)) := by
  rw [check_map]
  cases o.resolveAliases sent with
  | error f => rfl
  | ok data =>
    dsimp only [Except.bind]
    unfold declaredPart
    rcases o.firstPart nf (Context.start data) with ⟨c, _ | f⟩
    · dsimp only
      rw [secondPart, ← Step.andThen_assoc]
      rcases hrun : Step.andThen (Step.all ((groupFields (o.activeGroups c)).map o.checkGroupField))
        nested c with ⟨d, _ | f⟩
      · rw [Step.andThen_of_none hrun, reportUnknown_eq]
        rfl
      · rw [Step.andThen_of_some hrun]
        rfl
    · rfl

theorem of_declaredPart (hn : nested.Growing) (h : o.declaredPart nf nested data = .ok (active, c)) :
    c.data = data ∧ ∀ g ∈ active, g ∈ o.groups := by
  unfold declaredPart at h
  rcases hfirst : o.firstPart nf (Context.start data) with ⟨d, _ | f⟩
  · rw [hfirst] at h
    dsimp only at h
    rcases hrest : Step.andThen (Step.all ((groupFields (o.activeGroups d)).map o.checkGroupField))
      nested d with ⟨e, _ | f⟩
    · rw [hrest] at h
      obtain ⟨rfl, rfl⟩ := Prod.mk.inj (Except.ok.inj h)
      have hgroup := Step.growing_all_map (growing_checkGroupField o) (groupFields (o.activeGroups d))
      exact ⟨(Step.grows_of_eq (hgroup.andThen hn) hrest).data.trans (data_of_firstPart hfirst),
        fun g hg => mem_activeGroups hg⟩
    · rw [hrest] at h
      cases h
  · rw [hfirst] at h
    cases h

theorem field_of_mem_declaredEntries {e : String × Value} (he : e ∈ o.declaredEntries active c) :
    ∃ f ∈ o.fields ++ groupFields active, f.name = e.1 := by
  obtain ⟨f, hf, hv⟩ := List.mem_filterMap.mp he
  obtain ⟨v, -, rfl⟩ := Option.map_eq_some_iff.mp hv
  exact ⟨f, mem_append_of_mem_foldl hf, rfl⟩

theorem name_mem_declaredEntries (hg : ∀ g ∈ active, g ∈ o.groups) {e : String × Value}
    (he : e ∈ o.declaredEntries active c) : e.1 ∈ o.allNames := by
  obtain ⟨f, hf, hname⟩ := field_of_mem_declaredEntries he
  rw [mem_allNames]
  rcases List.mem_append.mp hf with hf | hf
  · exact .inl ⟨f, hf, hname⟩
  · obtain ⟨g, hmem, hfg⟩ := mem_of_mem_groupFields hf
    exact .inr ⟨g, hg g hmem, f, hfg, hname⟩

end Outline

namespace Schema

variable {s : Schema} {sent : Table Value}

/-- What a run comes to: what is found up to undeclared keys and what there is to say of those, or a
payload of entries for declared fields and of undeclared keys that are passed on. -/
theorem result_validate (s : Schema) (sent : Table Value) :
    (s.validate (.map sent)).result =
      (s.outline.resolveAliases sent).bind fun data =>
        (s.outline.declaredPart (nestedFields s.nested) (checkBindings s.nested) data).map
          fun (active, c) =>
            .settle (c.issues ++ s.outline.unknown.issues (s.outline.unknownKeys c.data))
              (s.payload (s.outline.declaredEntries active c) c.data) (.map c.data)
              (c.notices ++ s.outline.unknown.notices s.name (s.outline.unknownKeys c.data)) := by
  obtain ⟨o, bs⟩ := s
  have houtput (active : List Group) (c : Context) : o.output active c =
      (Schema.mk o bs).payload (o.declaredEntries active c) c.data :=
    List.filter_append _ _
  rw [validate, Outline.result_check]
  simp only [houtput]
  rfl

end Schema

end Intake
