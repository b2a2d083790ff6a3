import Intake.Proofs.Run.Growth

namespace Intake

open Context

mutual

theorem Action.run_reports (a : Action) (c : Context) : c.Reports (a.run c).1 := by
  cases a with
  | report i => exact reports_addIssue c i
  | notify n => exact reports_addNotice c n
  | raises message => exact Reports.refl c
  | cond test yes no =>
    rw [Action.run]
    rcases test.eval c with message | b
    · exact Reports.refl c
    · cases b with
      | true => exact Action.runAll_reports yes c
      | false => exact Action.runAll_reports no c

theorem Action.runAll_reports (as : List Action) (c : Context) :
    c.Reports (Action.runAll as c).1 := by
  cases as with
  | nil => exact Reports.refl c
  | cons a rest =>
    have h := Action.run_reports a c
    rw [Action.runAll]
    rcases hrun : a.run c with ⟨d, _ | message⟩
    · rw [hrun] at h
      exact h.trans (Action.runAll_reports rest d)
    · rwa [hrun] at h

end

namespace Rule

theorem checkTogether_reports (fields : List String) (c : Context) :
    c.Reports (checkTogether fields c) := by
  unfold checkTogether
  dsimp only
  split
  · exact Reports.refl c
  · exact reports_addIssues c _

theorem checkOneOf_reports (fields : List String) (c : Context) :
    c.Reports (checkOneOf fields c) := by
  unfold checkOneOf
  split
  · exact reports_addIssue c _
  · exact Reports.refl c

theorem run_reports (r : Rule) (c : Context) : c.Reports (r.run c).1 := by
  cases r with
  | script actions => exact Action.runAll_reports actions c
  | together fields => exact checkTogether_reports fields c
  | oneOf fields => exact checkOneOf_reports fields c

end Rule

namespace Validator

theorem runRule_reports (rule : Rule) (name field : String) (c : Context) :
    c.Reports (runRule rule name field c) := by
  have h := rule.run_reports c
  unfold runRule
  rcases hrun : rule.run c with ⟨d, _ | message⟩
  · rwa [hrun] at h
  · rw [hrun] at h
    exact (h.trans (reports_log d _)).trans (reports_addIssue _ _)

mutual

/-- A validator adds to what has been found, and neither the data nor the typed values change. -/
theorem run_reports (v : Validator) (c : Context) : c.Reports (v.run c).1 := by
  cases v with
  | required field =>
    rw [run]
    split
    · exact reports_addIssue c _
    · exact Reports.refl c
  | constraint field asked => exact reports_addIssues c _
  | custom rule name field => exact runRule_reports rule name field c
  | composite members => exact runAll_reports members c
  | conditional test member =>
    rw [run]
    rcases test.eval c with message | b
    · exact Reports.refl c
    · cases b with
      | true => exact run_reports member c
      | false => exact Reports.refl c

theorem runAll_reports (vs : List Validator) (c : Context) : c.Reports (runAll vs c).1 := by
  cases vs with
  | nil => exact Reports.refl c
  | cons v rest =>
    have h := run_reports v c
    rw [runAll]
    rcases hrun : v.run c with ⟨d, _ | f⟩
    · rw [hrun] at h
      exact h.trans (runAll_reports rest d)
    · rwa [hrun] at h

end

theorem growing_runAll (vs : List Validator) : Step.Growing (runAll vs) :=
  fun c => (runAll_reports vs c).toGrows

end Validator

end Intake
