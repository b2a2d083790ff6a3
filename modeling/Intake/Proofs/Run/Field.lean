import Intake.Proofs.Run.Validators
import Intake.Proofs.Table

namespace Intake

open Context

namespace Outline

variable {o : Outline} {many : Option Bool} {f : Field} {c d : Context} {v w : Value}

/-- What a value of a field is brought to: a container for a nested schema, or the field's type. -/
def typed (o : Outline) (many : Option Bool) (f : Field) (v : Value) : Coerced :=
  match many with
  | some many => nestedContainer many v
  | none => o.conversions.coerce f.type v

def typingEvents (o : Outline) (many : Option Bool) (f : Field) (v : Value) : List Event :=
  match many with
  | some _ => []
  | none => o.conversions.events f.type v

/-- The state in which the validators of a field find its typed value. -/
def enter (o : Outline) (many : Option Bool) (f : Field) (v w : Value) (ps : List Position)
    (c : Context) : Context :=
  ((c.log (o.typingEvents many f v)).setCoerced f.name w).addNotices
    (ps.map (dropped f.name f.type))

/-- A required field that was sent empty is not brought to its type. -/
def isSkipped (f : Field) (v : Value) : Bool := f.required && v.isBlank

/-- The value under which a field goes on, if it was sent and has one. -/
def typedValue? (o : Outline) (many : Option Bool) (data : Table Value) (f : Field) :
    Option Value :=
  match Table.get? data f.name with
  | none => none
  | some .null => some .null
  | some v => if isSkipped f v then none else (o.typed many f v).value?

theorem typedValue?_of_value {data : Table Value} (h : Table.get? data f.name = some v)
    (hn : v ≠ .null) :
    o.typedValue? many data f = if isSkipped f v then none else (o.typed many f v).value? := by
  unfold typedValue?
  rw [h]
  cases v with
  | null => exact absurd rfl hn
  | _ => rfl

theorem checkField_of_absent (h : Table.get? c.data f.name = none) :
    o.checkField many f c = (c, none) := by
  unfold checkField
  rw [h]

theorem checkField_of_null (h : Table.get? c.data f.name = some .null) :
    o.checkField many f c = (c.setCoerced f.name .null, none) := by
  unfold checkField
  rw [h]

theorem checkField_of_skipped (h : Table.get? c.data f.name = some v) (hn : v ≠ .null)
    (hs : isSkipped f v = true) : o.checkField many f c = (c, none) := by
  unfold checkField
  rw [h]
  cases v with
  | null => exact absurd rfl hn
  | _ => exact if_pos hs

theorem checkField_of_value (h : Table.get? c.data f.name = some v) (hn : v ≠ .null)
    (hs : ¬isSkipped f v = true) :
    o.checkField many f c =
      match o.typed many f v with
      | .faulty fault => (c.log (o.typingEvents many f v), some fault.fault)
      | .refused =>
        ((c.log (o.typingEvents many f v)).addIssue (.notCoercible f.name v f.type), none)
      | .accepted w ps => Validator.runAll f.validators (o.enter many f v w ps c) := by
  unfold checkField
  rw [h]
  cases v with
  | null => exact absurd rfl hn
  | _ => cases many <;> exact if_neg hs

theorem grows_enter (ps : List Position) (c : Context) : c.Grows (o.enter many f v w ps c) :=
  ((reports_log c _).toGrows.trans (grows_setCoerced _ _ _)).trans
    (reports_addNotices _ _).toGrows

theorem growing_checkField (o : Outline) (many : Option Bool) (f : Field) :
    Step.Growing (o.checkField many f) := by
  intro c
  cases hv : Table.get? c.data f.name with
  | none =>
    rw [checkField_of_absent hv]
    exact Grows.refl c
  | some v =>
    by_cases hn : v = .null
    · rw [checkField_of_null (hn ▸ hv)]
      exact grows_setCoerced c _ _
    by_cases hs : isSkipped f v = true
    · rw [checkField_of_skipped hv hn hs]
      exact Grows.refl c
    rw [checkField_of_value hv hn hs]
    cases o.typed many f v with
    | faulty fault => exact (reports_log c _).toGrows
    | refused => exact ((reports_log c _).trans (reports_addIssue _ _)).toGrows
    | accepted w ps => exact (grows_enter ps c).trans (Validator.growing_runAll _ _)

theorem passes_checkField_of_value (h : Table.get? c.data f.name = some v) (hn : v ≠ .null)
    (hs : ¬isSkipped f v = true) :
    Step.Passes (o.checkField many f) c d ↔
      ∃ w ps, o.typed many f v = .accepted w ps ∧
        Step.Passes (Validator.runAll f.validators) (o.enter many f v w ps c) d := by
  have hrun : o.checkField many f c = _ := checkField_of_value h hn hs
  cases ht : o.typed many f v with
  | faulty fault =>
    simp only [ht] at hrun
    simp [Step.not_passes_of_fault hrun]
  | refused =>
    simp only [ht] at hrun
    simp [Step.not_passes_of_issue hrun (reports_log c _).toGrows]
  | accepted w ps =>
    simp only [ht] at hrun
    rw [Step.passes_congr hrun rfl]
    constructor
    · intro hp
      exact ⟨w, ps, rfl, hp⟩
    · rintro ⟨w', ps', heq, hp⟩
      obtain ⟨rfl, rfl⟩ := Coerced.accepted.inj heq
      exact hp

/-- A field that is gone through leaves its typed value behind and changes no other. -/
theorem coerced_of_checkField (h : o.checkField many f c = (d, none)) :
    d.coerced = (o.typedValue? many c.data f).elim c.coerced (Table.put c.coerced f.name) := by
  cases hv : Table.get? c.data f.name with
  | none =>
    rw [checkField_of_absent hv] at h
    rw [← (Prod.mk.inj h).1, typedValue?, hv]
    rfl
  | some v =>
    by_cases hn : v = .null
    · subst hn
      rw [checkField_of_null hv] at h
      rw [← (Prod.mk.inj h).1, typedValue?, hv]
      rfl
    rw [typedValue?_of_value hv hn]
    by_cases hs : isSkipped f v = true
    · rw [checkField_of_skipped hv hn hs] at h
      rw [← (Prod.mk.inj h).1, if_pos hs]
      rfl
    rw [checkField_of_value hv hn hs] at h
    rw [if_neg hs]
    cases ht : o.typed many f v with
    | faulty fault =>
      rw [ht] at h
      cases (Prod.mk.inj h).2
    | refused =>
      rw [ht] at h
      rw [← (Prod.mk.inj h).1]
      rfl
    | accepted w ps =>
      rw [ht] at h
      -- Validators only report, so the typed value stays as it was put before they ran.
      have hc := (Validator.runAll_reports f.validators (o.enter many f v w ps c)).coerced
      dsimp only at h
      rw [h] at hc
      exact hc

theorem checkPresence_reports (f : Field) (c : Context) : c.Reports (checkPresence f c).1 := by
  unfold checkPresence
  split
  · exact reports_addIssue c _
  · exact Reports.refl c

theorem growing_checkPresence (f : Field) : Step.Growing (checkPresence f) :=
  fun c => (checkPresence_reports f c).toGrows

theorem passes_checkPresence :
    Step.Passes (checkPresence f) c d ↔ ¬(f.required && isMissing c.data f.name) = true ∧ d = c := by
  by_cases h : (f.required && isMissing c.data f.name) = true
  · have hrun : checkPresence f c = (c.addIssue (.required f.name), none) := if_pos h
    simp [Step.not_passes_of_issue hrun (Grows.refl c), h]
  · have hrun : checkPresence f c = (c, none) := if_neg h
    rw [Step.passes_congr (t := Step.done) hrun rfl, Step.passes_done]
    exact (and_iff_right h).symm

theorem growing_checkGroupField (o : Outline) (f : Field) : Step.Growing (o.checkGroupField f) :=
  (growing_checkPresence f).andThen (growing_checkField o none f)

theorem passes_checkGroupField :
    Step.Passes (o.checkGroupField f) c d ↔
      ¬(f.required && isMissing c.data f.name) = true ∧ Step.Passes (o.checkField none f) c d := by
  rw [checkGroupField, Step.passes_andThen (growing_checkPresence f) (growing_checkField o none f)]
  simp only [passes_checkPresence]
  constructor
  · rintro ⟨e, ⟨h, rfl⟩, hp⟩
    exact ⟨h, hp⟩
  · rintro ⟨h, hp⟩
    exact ⟨c, ⟨h, rfl⟩, hp⟩

/-- Fields in turn: each that has a typed value leaves it under its name, and other names keep theirs. -/
theorem get?_coerced_of_all {step : Field → Step}
    (value? : Table Value → Field → Option Value) {fs : List Field}
    (hg : ∀ f ∈ fs, (step f).Growing)
    (hs : ∀ f ∈ fs, ∀ c d, step f c = (d, none) →
      d.coerced = (value? c.data f).elim c.coerced (Table.put c.coerced f.name))
    (hn : (fs.map (·.name)).Nodup) (h : Step.all (fs.map step) c = (d, none)) :
    (∀ f ∈ fs, Table.get? d.coerced f.name = (value? c.data f).or (Table.get? c.coerced f.name)) ∧
      ∀ name, name ∉ fs.map (·.name) → Table.get? d.coerced name = Table.get? c.coerced name := by
  induction fs generalizing c with
  | nil =>
    obtain rfl : c = d := (Prod.mk.inj h).1
    simp
  | cons f fs ih =>
    rw [List.map_cons, List.nodup_cons] at hn
    have hgs : ∀ g ∈ fs, (step g).Growing := fun g hm => hg g (List.mem_cons_of_mem _ hm)
    rw [List.map_cons, Step.all, Step.andThen_eq_none_iff] at h
    obtain ⟨e, hce, hed⟩ := h
    have hdata : e.data = c.data := (Step.grows_of_eq (hg f List.mem_cons_self) hce).data
    obtain ⟨hin, hout⟩ := ih hgs (fun g hm => hs g (List.mem_cons_of_mem _ hm)) hn.2 hed
    -- The first field writes under its own name at most, and no later field has that name.
    have he : ∀ name, Table.get? e.coerced name =
        if f.name = name then (value? c.data f).or (Table.get? c.coerced name)
        else Table.get? c.coerced name := by
      intro name
      rw [hs f List.mem_cons_self c e hce]
      cases value? c.data f with
      | none => simp
      | some w => simp [Table.get?_put]
    constructor
    · intro g hm
      rcases List.mem_cons.mp hm with rfl | hm
      · rw [hout _ hn.1, he, if_pos rfl]
      · have hne : f.name ≠ g.name := fun h => hn.1 (h ▸ List.mem_map_of_mem hm)
        rw [hin g hm, he, if_neg hne, hdata]
    · intro name hname
      rw [List.map_cons, List.mem_cons, not_or] at hname
      rw [hout name hname.2, he, if_neg (Ne.symm hname.1)]

end Outline

end Intake
