import Intake.Proofs.Run.Effects

namespace Intake

open Context

/-- The issues that name a place, in the order in which they were found. -/
def Context.issuesAt (c : Context) (place : String) : List Issue := c.issues.filter (·.path = place)

namespace Context

variable {c d : Context} {is : List Issue} {i : Issue} {place : String}

theorem issuesAt_congr (h : d.issues = c.issues) : d.issuesAt place = c.issuesAt place := by
  unfold issuesAt
  rw [h]

theorem issuesAt_of_append (h : d.issues = c.issues ++ is) :
    d.issuesAt place = c.issuesAt place ++ is.filter (·.path = place) := by
  unfold issuesAt
  rw [h, List.filter_append]

theorem filter_path_eq_nil (h : ∀ i ∈ is, i.path ≠ place) : is.filter (·.path = place) = [] :=
  List.filter_eq_nil_iff.mpr fun i hi => by simpa using h i hi

theorem filter_path_eq_self (h : ∀ i ∈ is, i.path = place) : is.filter (·.path = place) = is :=
  List.filter_eq_self.mpr fun i hi => by simpa using h i hi

theorem issuesAt_addIssues (h : ∀ i ∈ is, i.path ≠ place) :
    (c.addIssues is).issuesAt place = c.issuesAt place := by
  rw [issuesAt_of_append (c := c) rfl, filter_path_eq_nil h, List.append_nil]

theorem issuesAt_addIssue (h : i.path ≠ place) : (c.addIssue i).issuesAt place = c.issuesAt place :=
  issuesAt_addIssues fun _ hj => List.mem_singleton.mp hj ▸ h

end Context

namespace Action

mutual

/-- The places that the reports of a step name. -/
def places : Action → List String
  | .report issue => [issue.path]
  | .notify _ => []
  | .raises _ => []
  | .cond _ yes no => placesAll yes ++ placesAll no

def placesAll : List Action → List String
  | [] => []
  | a :: rest => places a ++ placesAll rest

end

end Action

/-- The places that a rule may report. -/
def Rule.places : Rule → List String
  | .script actions => Action.placesAll actions
  | .together fields => fields
  | .oneOf fields => [fields.headD ""]

namespace Validator

mutual

/-- The places at which a validator may report something; that a rule raises is reported at the place given
with it. -/
def places : Validator → List String
  | .required field => [field]
  | .constraint field _ => [field]
  | .custom rule _ field => field :: rule.places
  | .composite members => placesAll members
  | .conditional _ member => places member

def placesAll : List Validator → List String
  | [] => []
  | v :: rest => places v ++ placesAll rest

end

end Validator

mutual

theorem Action.issuesAt_run (a : Action) (c : Context) {place : String} (h : place ∉ a.places) :
    (a.run c).1.issuesAt place = c.issuesAt place := by
  cases a with
  | report i => exact issuesAt_addIssue fun hp => h (List.mem_singleton.mpr hp.symm)
  | notify n => exact issuesAt_congr rfl
  | raises message => rfl
  | cond test yes no =>
    rw [Action.places, List.mem_append, not_or] at h
    rw [Action.run]
    rcases test.eval c with message | b
    · rfl
    · cases b with
      | true => exact Action.issuesAt_runAll yes c h.1
      | false => exact Action.issuesAt_runAll no c h.2

theorem Action.issuesAt_runAll (as : List Action) (c : Context) {place : String}
    (h : place ∉ Action.placesAll as) : (Action.runAll as c).1.issuesAt place = c.issuesAt place := by
  cases as with
  | nil => rfl
  | cons a rest =>
    rw [Action.placesAll, List.mem_append, not_or] at h
    have ha := Action.issuesAt_run a c h.1
    rw [Action.runAll]
    rcases hrun : a.run c with ⟨d, _ | message⟩
    · rw [hrun] at ha
      exact (Action.issuesAt_runAll rest d h.2).trans ha
    · rwa [hrun] at ha

end

theorem Rule.issuesAt_run (r : Rule) (c : Context) {place : String} (h : place ∉ r.places) :
    (r.run c).1.issuesAt place = c.issuesAt place := by
  cases r with
  | script actions => exact Action.issuesAt_runAll actions c h
  | together fields =>
    unfold Rule.run Rule.checkTogether
    dsimp only
    split_ifs
    · rfl
    · refine issuesAt_addIssues fun i hi hp => h ?_
      obtain ⟨field, hfield, rfl⟩ := List.mem_map.mp hi
      exact hp ▸ List.mem_of_mem_filter hfield
  | oneOf fields =>
    unfold Rule.run Rule.checkOneOf
    dsimp only
    split_ifs
    · exact issuesAt_addIssue fun hp => h (List.mem_singleton.mpr hp.symm)
    · rfl

namespace Validator

theorem issuesAt_runRule (rule : Rule) (name field : String) (c : Context) {place : String}
    (hfield : field ≠ place) (h : place ∉ rule.places) :
    (runRule rule name field c).issuesAt place = c.issuesAt place := by
  have hrule := rule.issuesAt_run c h
  unfold runRule
  rcases hrun : rule.run c with ⟨d, _ | message⟩
  · rwa [hrun] at hrule
  · rw [hrun] at hrule
    exact (issuesAt_addIssue hfield).trans hrule

mutual

theorem issuesAt_run (v : Validator) (c : Context) {place : String} (h : place ∉ v.places) :
    (v.run c).1.issuesAt place = c.issuesAt place := by
  cases v with
  | required field =>
    rw [run]
    split_ifs
    · exact issuesAt_addIssue fun hp => h (List.mem_singleton.mpr hp.symm)
    · rfl
  | constraint field k =>
    refine issuesAt_addIssues fun i hi hp => h (List.mem_singleton.mpr ?_)
    exact hp ▸ (k.lists_check field _).path i hi
  | custom rule name field =>
    rw [places, List.mem_cons, not_or] at h
    exact issuesAt_runRule rule name field c (Ne.symm h.1) h.2
  | composite members => exact issuesAt_runAll members c h
  | conditional test member =>
    rw [run]
    rcases test.eval c with message | b
    · rfl
    · cases b with
      | true => exact issuesAt_run member c h
      | false => rfl

/-- Validators say nothing of a place that is not written in them. -/
theorem issuesAt_runAll (vs : List Validator) (c : Context) {place : String} (h : place ∉ placesAll vs) :
    (runAll vs c).1.issuesAt place = c.issuesAt place := by
  cases vs with
  | nil => rfl
  | cons v rest =>
    rw [placesAll, List.mem_append, not_or] at h
    have hv := issuesAt_run v c h.1
    rw [runAll]
    rcases hrun : v.run c with ⟨d, _ | f⟩
    · rw [hrun] at hv
      exact (issuesAt_runAll rest d h.2).trans hv
    · rwa [hrun] at hv

end

end Validator

namespace Step

variable {a b : Step} {place : String} {c d : Context}

/-- A part of a run that says nothing of a place. -/
def Spares (s : Step) (place : String) : Prop := ∀ c, (s c).1.issuesAt place = c.issuesAt place

theorem Spares.of_eq {s : Step} (h : s.Spares place) {f? : Option Fault} (hrun : s c = (d, f?)) :
    d.issuesAt place = c.issuesAt place := by
  have hc := h c
  rwa [hrun] at hc

theorem Spares.andThen (ha : a.Spares place) (hb : b.Spares place) : (andThen a b).Spares place := by
  intro c
  rcases hrun : a c with ⟨d, _ | f⟩
  · rw [andThen_of_none hrun, hb d, ha.of_eq hrun]
  · rw [andThen_of_some hrun, ha.of_eq hrun]

theorem spares_all_map {α : Type} {step : α → Step} {xs : List α} (h : ∀ x ∈ xs, (step x).Spares place) :
    (all (xs.map step)).Spares place := by
  induction xs with
  | nil => exact fun _ => rfl
  | cons x xs ih =>
    exact (h x List.mem_cons_self).andThen (ih fun y hy => h y (List.mem_cons_of_mem _ hy))

end Step

namespace Outline

variable {o : Outline} {many : Option Bool} {f : Field} {place : String}

theorem spares_checkPresence (h : f.name ≠ place) : (checkPresence f).Spares place := by
  intro c
  unfold checkPresence
  split_ifs
  · exact issuesAt_addIssue h
  · rfl

/-- A field is reported at its own place and where its validators say. -/
theorem spares_checkField (h : f.name ≠ place) (hv : place ∉ Validator.placesAll f.validators) :
    (o.checkField many f).Spares place := by
  intro c
  cases hraw : Table.get? c.data f.name with
  | none => rw [checkField_of_absent hraw]
  | some v =>
    by_cases hn : v = .null
    · rw [checkField_of_null (hn ▸ hraw)]
      exact issuesAt_congr rfl
    by_cases hs : isSkipped f v = true
    · rw [checkField_of_skipped hraw hn hs]
    rw [checkField_of_value hraw hn hs]
    cases o.typed many f v with
    | faulty fault => exact issuesAt_congr rfl
    | refused => exact (issuesAt_addIssue h).trans (issuesAt_congr rfl)
    | accepted w ps => exact (Validator.issuesAt_runAll f.validators _ hv).trans (issuesAt_congr rfl)

theorem spares_checkGroupField (h : f.name ≠ place) (hv : place ∉ Validator.placesAll f.validators) :
    (o.checkGroupField f).Spares place :=
  (spares_checkPresence h).andThen (spares_checkField h hv)

end Outline

end Intake
