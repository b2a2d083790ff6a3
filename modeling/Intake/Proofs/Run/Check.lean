import Intake.Proofs.Run.Field
import Intake.Proofs.Run.Nested
import Intake.Proofs.Schema.Names

namespace Intake

open Context

namespace Outline

variable {o : Outline} {nf : Table Bool} {nested : Step} {gs : List Group} {c d e : Context}
  {data sent out : Table Value}

/-- The part of a run before it is known which groups apply. -/
def firstPart (o : Outline) (nf : Table Bool) : Step :=
  Step.andThen (Step.all (o.fields.map checkPresence))
    (Step.andThen (Step.all (o.fields.map fun f => o.checkField (Table.get? nf f.name) f))
      (Validator.runAll o.rules))

/-- The part of a run that takes the groups that apply as given. -/
def secondPart (o : Outline) (nested : Step) (gs : List Group) : Step :=
  Step.andThen (Step.all ((groupFields gs).map o.checkGroupField))
    (Step.andThen nested o.reportUnknown)

theorem check_map (o : Outline) (nf : Table Bool) (nested : Step) (sent : Table Value) :
    o.check nf nested (.map sent) =
      match o.resolveAliases sent with
      | .error f => ⟨.error f, []⟩
      | .ok data =>
        match o.firstPart nf (Context.start data) with
        | (c, some f) => ⟨.error f, c.events⟩
        | (c, none) =>
          match o.secondPart nested (o.activeGroups c) c with
          | (d, some f) => ⟨.error f, d.events⟩
          | (d, none) => o.conclude (o.activeGroups c) d := rfl

theorem growing_firstPart (o : Outline) (nf : Table Bool) : (o.firstPart nf).Growing :=
  (Step.growing_all_map growing_checkPresence o.fields).andThen
    ((Step.growing_all_map (fun f => growing_checkField o _ f) o.fields).andThen
      (Validator.growing_runAll o.rules))

theorem reportUnknown_reports (o : Outline) (c : Context) : c.Reports (o.reportUnknown c).1 := by
  unfold reportUnknown
  dsimp only
  split
  · exact reports_addNotices c _
  · exact reports_addIssues c _
  · exact Reports.refl c

theorem growing_reportUnknown (o : Outline) : Step.Growing o.reportUnknown :=
  fun c => (reportUnknown_reports o c).toGrows

/-- Keys that are not declared stop a run where they are forbidden, and only there. -/
theorem exists_passes_reportUnknown :
    (∃ d, Step.Passes o.reportUnknown c d) ↔ (o.unknown = .forbid → o.unknownKeys c.data = []) := by
  constructor
  · rintro ⟨d, h⟩ hf
    have hrun := h.run
    unfold reportUnknown at hrun
    rw [hf] at hrun
    have hi := h.issues
    rw [← (Prod.mk.inj hrun).1] at hi
    exact List.map_eq_nil_iff.mp (List.append_right_eq_self.mp hi)
  · intro h
    cases hu : o.unknown with
    | forbid =>
      refine ⟨(o.reportUnknown c).1, ?_, ?_⟩ <;> unfold reportUnknown <;> rw [hu]
      rw [h hu]
      exact List.append_nil _
    | _ => refine ⟨(o.reportUnknown c).1, ?_, ?_⟩ <;> unfold reportUnknown <;> rw [hu] <;> rfl

theorem growing_secondPart (hn : nested.Growing) (gs : List Group) :
    (o.secondPart nested gs).Growing :=
  (Step.growing_all_map (growing_checkGroupField o) _).andThen
    (hn.andThen (growing_reportUnknown o))

theorem yields_conclude_iff (active : List Group) (c : Context) :
    (o.conclude active c).Yields out ↔ c.issues = [] ∧ out = o.output active c := by
  unfold Verdict.Yields conclude Outcome.settle
  by_cases hi : c.issues = []
  · simp [hi, eq_comm]
  · simp [hi]

/-- A run succeeds when its parts pass, one after the other, from the data under resolved names. -/
theorem yields_check_iff (hn : nested.Growing) :
    (o.check nf nested (.map sent)).Yields out ↔
      ∃ data c d, o.resolveAliases sent = .ok data ∧
        (o.firstPart nf).Passes (Context.start data) c ∧
        (o.secondPart nested (o.activeGroups c)).Passes c d ∧
        out = o.output (o.activeGroups c) d := by
  rw [check_map]
  constructor
  · rintro h
    rcases hdata : o.resolveAliases sent with f | data
    · rw [hdata] at h
      obtain ⟨ns, h⟩ := h
      cases h
    rw [hdata] at h
    dsimp only at h
    -- A run that ends without issues has met none in its first part either.
    have hc := growing_firstPart o nf (Context.start data)
    rcases hfirst : o.firstPart nf (Context.start data) with ⟨c, _ | f⟩
    · rw [hfirst] at h hc
      dsimp only at h
      have hd := growing_secondPart (o := o) hn (o.activeGroups c) c
      rcases hsecond : o.secondPart nested (o.activeGroups c) c with ⟨d, _ | f⟩
      · rw [hsecond] at h hd
        obtain ⟨hi, hout⟩ := (yields_conclude_iff _ _).mp h
        have hci : c.issues = [] := hc.issues_eq hd hi
        exact ⟨data, c, d, rfl, ⟨hfirst, hci⟩, ⟨hsecond, hi.trans hci.symm⟩, hout⟩
      · rw [hsecond] at h
        obtain ⟨ns, h⟩ := h
        cases h
    · rw [hfirst] at h
      obtain ⟨ns, h⟩ := h
      cases h
  · rintro ⟨data, c, d, hdata, hfirst, hsecond, hout⟩
    rw [hdata]
    dsimp only
    rw [hfirst.run]
    dsimp only
    rw [hsecond.run]
    exact (yields_conclude_iff _ _).mpr ⟨hsecond.issues.trans hfirst.issues, hout⟩

theorem passes_checkPresences {fs : List Field} :
    Step.Passes (Step.all (fs.map checkPresence)) c d ↔
      (∀ f ∈ fs, ¬(f.required && isMissing c.data f.name) = true) ∧ d = c := by
  induction fs generalizing c with
  | nil => simp [Step.all]
  | cons f fs ih =>
    rw [List.map_cons, Step.all, Step.passes_andThen (growing_checkPresence f)
      (Step.growing_all_map growing_checkPresence fs), List.forall_mem_cons, and_assoc]
    simp only [passes_checkPresence, ih]
    constructor
    · rintro ⟨e, ⟨hf, rfl⟩, hfs, hd⟩
      exact ⟨hf, hfs, hd⟩
    · rintro ⟨hf, hfs, hd⟩
      exact ⟨c, ⟨hf, rfl⟩, hfs, hd⟩

theorem passes_firstPart :
    (o.firstPart nf).Passes c e ↔
      (∀ f ∈ o.fields, ¬(f.required && isMissing c.data f.name) = true) ∧
        ∃ d, Step.Passes (Step.all (o.fields.map fun f => o.checkField (Table.get? nf f.name) f)) c d ∧
          Step.Passes (Validator.runAll o.rules) d e := by
  have hfields := Step.growing_all_map (fun f => growing_checkField o (Table.get? nf f.name) f) o.fields
  have hrules := Validator.growing_runAll o.rules
  rw [firstPart, Step.passes_andThen (Step.growing_all_map growing_checkPresence o.fields)
    (hfields.andThen hrules)]
  simp only [passes_checkPresences, Step.passes_andThen hfields hrules]
  constructor
  · rintro ⟨c', ⟨hp, rfl⟩, hrest⟩
    exact ⟨hp, hrest⟩
  · rintro ⟨hp, hrest⟩
    exact ⟨c, ⟨hp, rfl⟩, hrest⟩

theorem passes_secondPart (hn : nested.Growing) :
    (o.secondPart nested gs).Passes c e ↔
      ∃ d, Step.Passes (Step.all ((groupFields gs).map o.checkGroupField)) c d ∧
        ∃ d', nested.Passes d d' ∧ Step.Passes o.reportUnknown d' e := by
  rw [secondPart, Step.passes_andThen (Step.growing_all_map (growing_checkGroupField o) _)
    (hn.andThen (growing_reportUnknown o))]
  simp only [Step.passes_andThen hn (growing_reportUnknown o)]

end Outline

end Intake
